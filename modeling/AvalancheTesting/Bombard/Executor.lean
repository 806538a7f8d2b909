import AvalancheTesting.Helpers.WorkFlowRunner
import AvalancheTesting.Go.Strings

/-!
# `bombardExecutor.ExecuteTest`

The bombard test creates a runner and an X-chain address for every client but the first, then
on the first imports the genesis funds and funds every address with `(numTxs + 1) * txFee`,
checks each balance and fetches each address's UTXOs, builds a chain of transactions per
account from its first UTXO and exported key, issues every chain, and finally waits for every
transaction ID.

The source keeps one slice per loop (`secondaryClients`, `xChainAddrs`, `utxoLists`, `txLists`,
`txIDLists`) and indexes them by the loop variable; the model does the same, so that an index
out of range is a panic here as it is in Go. `issueTxsAsync` is called without `go`, so the
accounts' chains are issued one after another.
-/

namespace AvalancheTesting

/-- `xs[i]`, which panics when `i` is out of range. -/
def Prog.index (xs : List α) (i : Nat) : Prog α :=
  match xs[i]? with
  | some x => pure x
  | none => Prog.panic (.indexOutOfRange i xs.length)

/-- A decoded UTXO (`avax.UTXO`). -/
structure UTXO where
  raw : Bytes
  deriving DecidableEq, Repr

/-- A secp256k1 private key (`crypto.PrivateKeySECP256K1R`). -/
structure PrivateKey where
  raw : Bytes
  deriving DecidableEq, Repr

/-- What `ExecuteTest` uses from outside the modelled sources. -/
structure BombardLib where
  /-- The error of `createXChainCodec()`. -/
  createXChainCodec : Option Err
  /-- `codec.Unmarshal(bytes, &utxo)`. -/
  unmarshal : Bytes → UTXO × Option Err
  /-- `constants.SecretKeyPrefix`. -/
  secretKeyPrefix : String
  /-- `formatting.Decode(formatting.CB58, s)`. -/
  decodeCB58 : String → Bytes × Option Err
  /-- `FactorySECP256K1R.ToPrivateKey(bytes)`; `none` is a nil interface value. -/
  toPrivateKey : Bytes → Option PrivateKey × Option Err
  /-- `CreateConsecutiveTransactions(utxo, numTxs, amount, txFee, key)`. -/
  createConsecutiveTransactions :
    UTXO → UInt64 → UInt64 → UInt64 → PrivateKey → List Bytes × List TxID × Option Err

/-- `bombardExecutor`. -/
structure BombardExecutor where
  normalClients : List Client
  acceptanceTimeout : Nat
  numTxs : UInt64
  txFee : UInt64

namespace Bombard

variable (lib : BombardLib)

/-- `createRandomString()`. -/
def createRandomString : Prog String := do
  let n ← Prog.randInt
  pure ("rand:" ++ toString n)

/-- `api.UserPass{Username: createRandomString(), Password: createRandomString()}`. -/
def randomUserPass : Prog UserPass := do
  let username ← createRandomString
  let password ← createRandomString
  pure ⟨username, password⟩

/-- The setup loop over `normalClients[1:]`, from index `i`: a runner with fresh credentials
per client and the X-chain address `CreateDefaultAddresses` made for it. -/
def setupLoop (timeout : Nat) :
    Nat → List Client → Prog (Except Err (List RPCWorkFlowRunner × List String))
  | _, [] => pure (.ok ([], []))
  | i, client :: clients => do
    let user ← randomUserPass
    let runner : RPCWorkFlowRunner := ⟨client, user, timeout⟩
    let r ← runner.createDefaultAddresses
    match r.2.2 with
    | some e => pure (.error (.propagate e "Failed to create default addresses for client: %d"
        [.num i]))
    | none => do
      let rest ← setupLoop timeout (i + 1) clients
      pure (rest.map fun (runners, addrs) => (runner :: runners, r.1 :: addrs))

/-- The inner loop of the verify loop: decode every UTXO. -/
def unmarshalUTXOs : List Bytes → Except Err (List UTXO)
  | [] => .ok []
  | utxoBytes :: rest =>
    match (lib.unmarshal utxoBytes).2 with
    | some e => .error (.propagate e "Failed to unmarshal utxo bytes." [])
    | none => (unmarshalUTXOs rest).map ((lib.unmarshal utxoBytes).1 :: ·)

/-- The verify loop over `secondaryClients`, from index `i`: check each address's balance and
fetch and decode its UTXOs through the genesis client. -/
def verifyLoop (genesisClient : Client) (xChainAddrs : List String) (seedAmount : UInt64) :
    Nat → List RPCWorkFlowRunner → Prog (Except Err (List (List UTXO)))
  | _, [] => pure (.ok [])
  | i, client :: clients => do
    let addr ← Prog.index xChainAddrs i
    let err ← client.verifyXChainAVABalance addr seedAmount
    match err with
    | some e => pure (.error (.propagate e "Failed to verify X Chain Balance for Client: %d"
        [.num i]))
    | none => do
      let addr ← Prog.index xChainAddrs i
      let u ← genesisClient.xGetUTXOs [addr] 10 "" ""
      match u.2 with
      | some e => pure (.error e)
      | none =>
        match unmarshalUTXOs lib u.1 with
        | .error e => pure (.error e)
        | .ok utxos => do
          let rest ← verifyLoop genesisClient xChainAddrs seedAmount (i + 1) clients
          pure (rest.map (utxos :: ·))

/-- Lines of the build loop turning an exported key into key bytes. -/
def decodePrivateKey (pkStr : String) : Except Err Bytes :=
  if !hasPrefix pkStr lib.secretKeyPrefix then
    .error (.errorf "private key missing %s prefix" [.str lib.secretKeyPrefix])
  else
    let trimmedPrivateKey := trimPrefix pkStr lib.secretKeyPrefix
    match lib.decodeCB58 trimmedPrivateKey with
    | (_, some e) => .error (.errorfWrap "problem parsing private key: %w" [] e)
    | (pkBytes, none) => .ok pkBytes

/-- The build loop over `normalClients[1:]`, from index `i`: export each account's key and build
its chain of transactions from its first UTXO. -/
def buildLoop (secondaryClients : List RPCWorkFlowRunner) (xChainAddrs : List String)
    (utxoLists : List (List UTXO)) (numTxs seedAmount txFee : UInt64) :
    Nat → List Client → Prog (Except Err (List (List Bytes) × List (List TxID)))
  | _, [] => pure (.ok ([], []))
  | i, client :: clients => do
    let utxos ← Prog.index utxoLists i
    let utxo ← Prog.index utxos 0
    let runner ← Prog.index secondaryClients i
    let addr ← Prog.index xChainAddrs i
    let k ← client.xExportKey runner.user addr
    match k.2 with
    | some e => pure (.error (.propagate e "Failed to export key." []))
    | none =>
      match decodePrivateKey lib k.1 with
      | .error e => pure (.error e)
      | .ok pkBytes =>
        match (lib.toPrivateKey pkBytes).1 with
        | none => Prog.panic (.typeAssertion "*crypto.PrivateKeySECP256K1R")
        | some sk =>
          match lib.createConsecutiveTransactions utxo numTxs seedAmount txFee sk with
          | (_, _, some e) => pure (.error (.propagate e "Failed to create transaction list." []))
          | (txs, txIDs, none) => do
            let rest ← buildLoop secondaryClients xChainAddrs utxoLists numTxs seedAmount txFee
              (i + 1) clients
            pure (rest.map fun (txLists, txIDLists) => (txs :: txLists, txIDs :: txIDLists))

/-- `issueTxsAsync(runner, txList)`, which panics when the list cannot be issued. -/
def issueTxsAsync (runner : RPCWorkFlowRunner) (txList : List Bytes) : Prog Unit := do
  let err ← runner.issueTxList txList
  match err with
  | some e => Prog.panic (.err e)
  | none => pure ()

/-- The issue loop over `secondaryClients`, from index `i`. -/
def issueLoop (txLists : List (List Bytes)) : Nat → List RPCWorkFlowRunner → Prog Unit
  | _, [] => pure ()
  | i, client :: clients => do
    let txList ← Prog.index txLists i
    issueTxsAsync client txList
    issueLoop txLists (i + 1) clients

/-- The confirm loop over `txIDLists`. The error of `AwaitXChainTxs` is propagated into a value
that is dropped, as in the source. -/
def confirmLoop (highLevelGenesisClient : RPCWorkFlowRunner) : List (List TxID) → Prog Unit
  | [] => pure ()
  | txIDs :: txIDLists => do
    let _ ← highLevelGenesisClient.awaitXChainTxs txIDs
    confirmLoop highLevelGenesisClient txIDLists

end Bombard

namespace BombardExecutor

variable (e : BombardExecutor) (consts : NetworkConstants) (lib : BombardLib)

/-- `seedAmount := (e.numTxs + 1) * e.txFee`, in `uint64`. -/
def seedAmount : UInt64 := (e.numTxs + 1) * e.txFee

/-- From the verify loop on: verify, build, issue and confirm. -/
def executeFromVerify (genesisClient : Client) (highLevelGenesisClient : RPCWorkFlowRunner)
    (secondaryClients : List RPCWorkFlowRunner) (xChainAddrs : List String) :
    Prog (Option Err) := do
  let v ← Bombard.verifyLoop lib genesisClient xChainAddrs e.seedAmount 0 secondaryClients
  match v with
  | .error err => pure (some err)
  | .ok utxoLists => do
    let b ← Bombard.buildLoop lib secondaryClients xChainAddrs utxoLists e.numTxs e.seedAmount
      e.txFee 0 e.normalClients.tail
    match b with
    | .error err => pure (some err)
    | .ok (txLists, txIDLists) => do
      let _ ← Prog.clock
      Bombard.issueLoop txLists 0 secondaryClients
      let _ ← Prog.clock
      Bombard.confirmLoop highLevelGenesisClient txIDLists
      pure none

/-- `ExecuteTest()`. -/
def executeTest : Prog (Option Err) := do
  let genesisClient ← Prog.index e.normalClients 0
  let s ← Bombard.setupLoop e.acceptanceTimeout 0 e.normalClients.tail
  match s with
  | .error err => pure (some err)
  | .ok (secondaryClients, xChainAddrs) => do
    let genesisUser ← Bombard.randomUserPass
    let highLevelGenesisClient : RPCWorkFlowRunner := ⟨genesisClient, genesisUser,
      e.acceptanceTimeout⟩
    let g ← highLevelGenesisClient.importGenesisFunds consts
    match g.2 with
    | some err => pure (some (.propagate err "Failed to fund genesis client." []))
    | none => do
      let a ← genesisClient.xListAddresses genesisUser
      match a.2 with
      | some err => pure (some (.propagate err "Failed to get genesis client's addresses" []))
      | none =>
        if a.1.length != 1 then
          pure (some (.newError "Found unexecpted number of addresses for genesis client: %d"
            [.num a.1.length]))
        else do
          let f ← highLevelGenesisClient.fundXChainAddresses xChainAddrs e.seedAmount
          match f with
          | some err => pure (some (.propagate err
              "Failed to fund X Chain Addresses for Clients" []))
          | none =>
            match lib.createXChainCodec with
            | some err => pure (some (.propagate err "Failed to initialize codec." []))
            | none =>
              e.executeFromVerify lib genesisClient highLevelGenesisClient secondaryClients
                xChainAddrs

end BombardExecutor

end AvalancheTesting
