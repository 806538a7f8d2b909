import AvalancheTesting.Helpers.Poller

/-!
# `RPCWorkFlowRunner`: the workflows

Each method of the runner, as a program over the node's API. A Go method returning `error`
returns `Option Err` here, and one returning `(T, error)` returns `T × Option Err`, with the
values the Go code returns beside a non-nil error.
-/

namespace AvalancheTesting

/-- `AvaxAssetID`. -/
def avaxAssetID : String := "AVAX"

/-- `DefaultStakingDelay`: 20 s. -/
def defaultStakingDelay : Nat := 20 * second

/-- `DefaultStakingPeriod`: 72 h. -/
def defaultStakingPeriod : Nat := 72 * 3600 * second

/-- `DefaultDelegationDelay`: 20 s. -/
def defaultDelegationDelay : Nat := 20 * second

/-- `stakingPeriodSynchronyDelay`: 3 s. -/
def stakingPeriodSynchronyDelay : Nat := 3 * second

/-- `DefaultDelegationPeriod`: 36 h. -/
def defaultDelegationPeriod : Nat := 36 * 3600 * second

/-- `DefaultDelegationFeeRate`, the `float32` constant `2`. -/
def defaultDelegationFeeRate : Nat := 2

/-- `time.Time.Unix()` of a clock reading, as the `uint64` the staking calls take. -/
def unixSeconds (t : Nat) : UInt64 := UInt64.ofNat (t / second)

/-- Values the runner reads from packages that are not part of the modelled sources. -/
structure NetworkConstants where
  /-- `DefaultLocalNetGenesisConfig.FundedAddresses.PrivateKey`. -/
  genesisPrivateKey : String
  /-- `constants.XChainID.String()`. -/
  xChainID : String
  /-- `constants.PlatformChainID.String()`. -/
  platformChainID : String

namespace RPCWorkFlowRunner

variable (runner : RPCWorkFlowRunner) (consts : NetworkConstants)

/-- `ImportGenesisFunds()`. -/
def importGenesisFunds : Prog (String × Option Err) := do
  let r ← runner.client.createUser runner.userPass
  match r.2 with
  | some e => pure ("", some e)
  | none => do
    let r ← runner.client.xImportKey runner.userPass consts.genesisPrivateKey
    match r.2 with
    | some e => pure ("", some (.propagate e "Failed to take control of genesis account." []))
    | none => pure (r.1, none)

/-- The shape of `AddValidatorToPrimaryNetwork` and `AddDelegatorToPrimaryNetwork`: submit the
staking transaction `submit startTime endTime` with a start `delay` ahead and an end `period`
after it, wait for it to be committed, then sleep until the start plus
`stakingPeriodSynchronyDelay`. -/
def addStaker (delay period : Nat) (submit : UInt64 → UInt64 → Prog (TxID × Option Err))
    (submitFailed : Err → Err) (acceptFailed : Err → TxID → Err) : Prog (Option Err) := do
  let now ← Prog.clock
  let stakingStartTime := now + delay
  let r ← submit (unixSeconds stakingStartTime) (unixSeconds (stakingStartTime + period))
  match r.2 with
  | some e => pure (some (submitFailed e))
  | none => do
    let err ← runner.waitForPChainTransactionAcceptance r.1
    match err with
    | some e => pure (some (acceptFailed e r.1))
    | none => do
      let current ← Prog.clock
      Prog.sleepFor (stakingStartTime + stakingPeriodSynchronyDelay - current)
      pure none

/-- `AddDelegatorToPrimaryNetwork(delegateeNodeID, pChainAddress, stakeAmount)`. -/
def addDelegatorToPrimaryNetwork (delegateeNodeID pChainAddress : String)
    (stakeAmount : UInt64) : Prog (Option Err) :=
  runner.addStaker defaultDelegationDelay defaultDelegationPeriod
    (fun startTime endTime => runner.client.pAddDelegator runner.userPass pChainAddress
      delegateeNodeID stakeAmount startTime endTime)
    (fun e => .propagate e "Failed to add delegator %s" [.str pChainAddress])
    (fun e txID => .propagate e "Failed to accept AddDelegator tx: %s" [.tx txID])

/-- `AddValidatorToPrimaryNetwork(nodeID, pchainAddress, stakeAmount)`. -/
def addValidatorToPrimaryNetwork (nodeID pchainAddress : String) (stakeAmount : UInt64) :
    Prog (Option Err) :=
  runner.addStaker defaultStakingDelay defaultStakingPeriod
    (fun startTime endTime => runner.client.pAddValidator runner.userPass pchainAddress nodeID
      stakeAmount startTime endTime defaultDelegationFeeRate)
    (fun e => .propagate e "Failed to add validator to primrary network %s" [.str nodeID])
    (fun e txID => .propagate e "Failed to confirm AddValidator Tx: %s" [.tx txID])

/-- `FundXChainAddresses(addresses, amount)`. -/
def fundXChainAddresses : List String → UInt64 → Prog (Option Err)
  | [], _ => pure none
  | address :: addresses, amount => do
    let r ← runner.client.xSend runner.userPass amount avaxAssetID address
    match r.2 with
    | some e => pure (some e)
    | none => do
      let err ← runner.waitForXchainTransactionAcceptance r.1
      match err with
      | some e => pure (some e)
      | none => fundXChainAddresses addresses amount

/-- `SendAVAX(to, amount)`. -/
def sendAVAX (toAddr : String) (amount : UInt64) : Prog (TxID × Option Err) :=
  runner.client.xSend runner.userPass amount avaxAssetID toAddr

/-- `CreateDefaultAddresses()`. -/
def createDefaultAddresses : Prog (String × String × Option Err) := do
  let r ← runner.client.createUser runner.userPass
  match r.2 with
  | some e => pure ("", "", some e)
  | none => do
    let x ← runner.client.xCreateAddress runner.userPass
    match x.2 with
    | some e => pure ("", "", some e)
    | none => do
      let p ← runner.client.pCreateAddress runner.userPass
      pure (x.1, p.1, p.2)

/-- The rounds `i, i + 1, ...` of the loop of `SendAVAXBackAndForth`, `n` of them; the values
sent on `errs`, in order. -/
def sendBackAndForthRounds (toAddr : String) (amount txFee : UInt64) :
    Nat → UInt64 → Prog (List (Option Err))
  | 0, _ => pure [none]
  | n + 1, i => do
    let r ← runner.client.xSend runner.userPass (amount - txFee * i) avaxAssetID toAddr
    let sendErrs : List (Option Err) := match r.2 with
      | some e => [some (.propagate e "Failed to send transaction." [])]
      | none => []
    let err ← runner.waitForXchainTransactionAcceptance r.1
    let awaitErrs : List (Option Err) := match err with
      | some e => [some (.propagate e "Failed to await transaction acceptance." [])]
      | none => []
    let rest ← sendBackAndForthRounds toAddr amount txFee n (i + 1)
    pure (sendErrs ++ awaitErrs ++ rest)

/-- `SendAVAXBackAndForth(to, amount, txFee, numTxs, errs)`: the values it sends on `errs`. Its
loop `for i := uint64(1); i < numTxs; i++` runs the rounds `1, ..., numTxs - 1`. -/
def sendAVAXBackAndForth (toAddr : String) (amount txFee numTxs : UInt64) :
    Prog (List (Option Err)) :=
  runner.sendBackAndForthRounds toAddr amount txFee (numTxs.toNat - 1) 1

/-- `TransferAvaXChainToPChain(pChainAddress, amount)`. -/
def transferAvaXChainToPChain (pChainAddress : String) (amount : UInt64) :
    Prog (Option Err) := do
  let r ← runner.client.xExportAVAX runner.userPass amount pChainAddress
  match r.2 with
  | some e => pure (some (.propagate e "Failed to export AVAX to pchainAddress %s"
      [.str pChainAddress]))
  | none => do
    let err ← runner.waitForXchainTransactionAcceptance r.1
    match err with
    | some e => pure (some (.propagate e "" []))
    | none => do
      let i ← runner.client.pImportAVAX runner.userPass pChainAddress consts.xChainID
      match i.2 with
      | some e => pure (some (.propagate e "Failed import AVAX to pchainAddress %s"
          [.str pChainAddress]))
      | none => do
        let err ← runner.waitForPChainTransactionAcceptance i.1
        match err with
        | some e => pure (some (.propagate e "Failed to Accept ImportTx: %s" [.tx i.1]))
        | none => pure none

/-- `TransferAvaPChainToXChain(xChainAddress, amount)`. The error of the X-chain import is
overwritten by the wait that follows it, as in the source. -/
def transferAvaPChainToXChain (xChainAddress : String) (amount : UInt64) :
    Prog (Option Err) := do
  let r ← runner.client.pExportAVAX runner.userPass xChainAddress amount
  match r.2 with
  | some e => pure (some (.propagate e "Failed to export AVAX to xChainAddress %s"
      [.str xChainAddress]))
  | none => do
    let err ← runner.waitForPChainTransactionAcceptance r.1
    match err with
    | some e => pure (some (.propagate e "Failed to accept ExportTx: %s" [.tx r.1]))
    | none => do
      let i ← runner.client.xImportAVAX runner.userPass xChainAddress consts.platformChainID
      let err ← runner.waitForXchainTransactionAcceptance i.1
      match err with
      | some e => pure (some (.propagate e
          "Failed to wait for acceptance of transaction on XChain." []))
      | none => pure none

/-- `ImportGenesisFundsAndStartValidating(seedAmount, stakeAmount)`. -/
def importGenesisFundsAndStartValidating (seedAmount stakeAmount : UInt64) :
    Prog (String × Option Err) := do
  let n ← runner.client.infoGetNodeID
  match n.2 with
  | some e => pure ("", some (.propagate e "Could not get staker node ID." []))
  | none => do
    let g ← runner.importGenesisFunds consts
    match g.2 with
    | some e => pure ("", some (.propagate e "Could not seed XChain account from Genesis." []))
    | none => do
      let p ← runner.client.pCreateAddress runner.userPass
      match p.2 with
      | some e => pure ("", some (.propagate e "Failed to create new address on PChain" []))
      | none => do
        let err ← runner.transferAvaXChainToPChain consts p.1 seedAmount
        match err with
        | some e => pure ("", some (.propagate e
            "Could not transfer AVAX from XChain to PChain account information" []))
        | none => do
          let err ← runner.addValidatorToPrimaryNetwork n.1 p.1 stakeAmount
          match err with
          | some e => pure ("", some (.propagate e "Could not add staker %s to primary network."
              [.str n.1]))
          | none => pure (p.1, none)

/-- `IssueTxList(txList)`. -/
def issueTxList : List Bytes → Prog (Option Err)
  | [] => pure none
  | txBytes :: txList => do
    let r ← runner.client.xIssueTx txBytes
    match r.2 with
    | some e => pure (some (.propagate e "Failed to issue transaction." []))
    | none => issueTxList txList

/-- The loop of `AwaitXChainTxs` and `AwaitPChainTxs`: wait for each ID in turn, returning the
first error. -/
def awaitTxs (wait : TxID → Prog (Option Err)) : List TxID → Prog (Option Err)
  | [] => pure none
  | txID :: txIDs => do
    let err ← wait txID
    match err with
    | some e => pure (some e)
    | none => awaitTxs wait txIDs

/-- `AwaitXChainTxs(txIDs...)`. -/
def awaitXChainTxs (txIDs : List TxID) : Prog (Option Err) :=
  awaitTxs runner.waitForXchainTransactionAcceptance txIDs

/-- `AwaitPChainTxs(txIDs...)`. -/
def awaitPChainTxs (txIDs : List TxID) : Prog (Option Err) :=
  awaitTxs runner.waitForPChainTransactionAcceptance txIDs

/-- The shape of `VerifyPChainBalance` and `VerifyXChainAVABalance`: fetch the balance with
`get` and compare it with `expectedBalance`. -/
def verifyBalance (get : Prog (UInt64 × Option Err)) (retrieveFailed unexpected : String)
    (address : String) (expectedBalance : UInt64) : Prog (Option Err) := do
  let r ← get
  match r.2 with
  | some e => pure (some (.propagate e retrieveFailed []))
  | none =>
    if r.1 != expectedBalance then
      pure (some (.newError unexpected
        [.str address, .num expectedBalance.toNat, .num r.1.toNat]))
    else pure none

/-- `VerifyPChainBalance(address, expectedBalance)`. -/
def verifyPChainBalance (address : String) (expectedBalance : UInt64) : Prog (Option Err) :=
  verifyBalance (runner.client.pGetBalance address) "Failed to retrieve P Chain balance."
    "Found unexpected P Chain Balance for address: %s. Expected: %v, found: %v"
    address expectedBalance

/-- `VerifyXChainAVABalance(address, expectedBalance)`. -/
def verifyXChainAVABalance (address : String) (expectedBalance : UInt64) : Prog (Option Err) :=
  verifyBalance (runner.client.xGetBalance address avaxAssetID)
    "Failed to retrieve X Chain balance."
    "Found unexpected X Chain Balance for address: %s. Expected: %v, found: %v"
    address expectedBalance

end RPCWorkFlowRunner

/-- `pChain.CheckBalance(client, address, amount)` of the testsuite_v2 chain helper: the check of
`VerifyPChainBalance`, with its messages, through `client`. -/
def PChain.checkBalance (client : Client) (address : String) (amount : UInt64) :
    Prog (Option Err) :=
  RPCWorkFlowRunner.verifyBalance (client.pGetBalance address) "Failed to retrieve P Chain balance."
    "Found unexpected P Chain Balance for address: %s. Expected: %v, found: %v" address amount

end AvalancheTesting
