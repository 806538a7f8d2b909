import AvalancheTesting.Rpc.Client

/-!
# Acceptance pollers

`RPCWorkFlowRunner.waitForXchainTransactionAcceptance`,
`RPCWorkFlowRunner.waitForPChainTransactionAcceptance` and the testsuite_v2 helper
`pChain.AwaitTransactionAcceptance` are the same loop: read the clock, and while less than the
timeout has passed, query the transaction's status, stop on an error, an accepting or a
rejecting status, and otherwise sleep a second. They differ only in the call they make, the
statuses they accept and reject, and their messages, so each is `pollLoop` applied to its own.
-/

namespace AvalancheTesting

/-- `time.Second`, in nanoseconds. -/
def second : Nat := 1000000000

/-- A bound on the polls a loop with this timeout makes: each poll sleeps a second. -/
def pollFuel (timeout : Nat) : Nat := timeout / second + 1

/-- The loop of the acceptance pollers, started at clock `start`. While less than `timeout` has
passed, it makes call `c` through `cl`: a failed call ends it with `onErr` of the error, an
`accept`ed status with `nil`, a `reject`ed one with `rejected`; another status sleeps a second
and polls again. Once `timeout` has passed it ends with `timedOut`. `fuel` bounds the polls;
the last, unreachable branch behaves as the loop's exit. -/
def pollLoop (cl : Client) (c : Call) (onErr : Err → Err) (accept reject : c.Ret → Bool)
    (rejected : c.Ret → Err) (timedOut : Err) (timeout start : Nat) : Nat → Prog (Option Err)
  | 0 => do
    let _ ← Prog.clock
    pure (some timedOut)
  | fuel + 1 => do
    let t ← Prog.clock
    if t - start < timeout then
      let r ← Prog.call cl c
      match r.2 with
      | some e => pure (some (onErr e))
      | none =>
        if accept r.1 then pure none
        else if reject r.1 then pure (some (rejected r.1))
        else do
          Prog.sleepFor second
          pollLoop cl c onErr accept reject rejected timedOut timeout start fuel
    else
      pure (some timedOut)

/-- A client handle, keystore credentials and an acceptance timeout (`RPCWorkFlowRunner`). -/
structure RPCWorkFlowRunner where
  client : Client
  userPass : UserPass
  /-- How long the runner waits for a transaction to be accepted, in nanoseconds. -/
  networkAcceptanceTimeout : Nat

namespace RPCWorkFlowRunner

variable (runner : RPCWorkFlowRunner)

/-- `User()`. -/
def user : UserPass := runner.userPass

/-- `waitForXchainTransactionAcceptance(txID)`. -/
def waitForXchainTransactionAcceptance (txID : TxID) : Prog (Option Err) := do
  let pollStartTime ← Prog.clock
  pollLoop runner.client (.xGetTxStatus txID)
    (fun e => .propagate e "Failed to get status." [])
    (fun (status : XStatus) => status == .accepted)
    (fun (status : XStatus) => status == .rejected)
    (fun _ => .newError "Transaciton %s was rejected" [.tx txID])
    (.newError "Timed out waiting for transaction %s to be accepted on the XChain." [.tx txID])
    runner.networkAcceptanceTimeout pollStartTime (pollFuel runner.networkAcceptanceTimeout)

/-- `waitForPChainTransactionAcceptance(txID)`. -/
def waitForPChainTransactionAcceptance (txID : TxID) : Prog (Option Err) := do
  let pollStartTime ← Prog.clock
  pollLoop runner.client (.pGetTxStatus txID)
    (fun e => .propagate e "Failed to get status" [])
    (fun (status : PStatus) => status == .committed)
    (fun (status : PStatus) => status == .dropped || status == .aborted)
    (fun (status : PStatus) =>
      .newError "Abandoned Tx: %s because it had status: %s" [.tx txID, .pStatus status])
    (.newError "Timed out waiting for transaction %s to be accepted on the PChain." [.tx txID])
    runner.networkAcceptanceTimeout pollStartTime (pollFuel runner.networkAcceptanceTimeout)

end RPCWorkFlowRunner

/-- `pChain.AwaitTransactionAcceptance(client, txID, timeout)` of the testsuite_v2 chain
helper. -/
def PChain.awaitTransactionAcceptance (client : Client) (txID : TxID) (timeout : Nat) :
    Prog (Option Err) := do
  let startTime ← Prog.clock
  pollLoop client (.pGetTxStatusWithReason txID true)
    (fun e => .propagate e "Failed to get status" [])
    (fun (status : PStatusReply) => status.status == .committed)
    (fun (status : PStatusReply) => status.status == .dropped || status.status == .aborted)
    (fun (status : PStatusReply) =>
      .newError "Abandoned Tx: %s because it had status: %s. Reason: %s"
        [.tx txID, .pStatus status.status, .str status.reason])
    (.newError "Timed out waiting for transaction %s to be accepted on the PChain." [.tx txID])
    timeout startTime (pollFuel timeout)

end AvalancheTesting
