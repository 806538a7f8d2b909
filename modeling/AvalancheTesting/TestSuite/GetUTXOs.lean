import AvalancheTesting.Rpc.Prog

/-!
# The UTXO paging loop of the `GetUTXOs` test

The `GetUTXOs` test of `testsuite_v2` sends AVAX from four nodes to a receiving node, and then
pages through the receiving node's UTXOs ten times, four at a time, setting its count with
`utxoCount = +len(utxosBytes)` after each page, before failing unless the count is 40. The
client's `GetUTXOs` of that test returns, with each page, the index where the next page starts;
it is a parameter here, a program against the node like the calls of `Call`.
-/

namespace AvalancheTesting

namespace Tests

end Tests

end AvalancheTesting
