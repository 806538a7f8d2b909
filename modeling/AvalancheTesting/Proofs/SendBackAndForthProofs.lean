import Mathlib.Data.UInt
import AvalancheTesting.Proofs.AwaitProofs

/-!
# Proofs: the rounds of `SendAVAXBackAndForth`

Its loop `for i := uint64(1); i < numTxs; i++` runs `numTxs - 1` rounds, and every round sends,
whatever the rounds before it returned: a failed `Send` or a failed wait puts an error on
`errs` and the loop goes on, polling the ID the failed `Send` returned. After the loop, `nil`
is put on `errs`. So the calls of every run are one `SendRound` per round, in order: the `Send`
of `amount - txFee * i` and the poll of the ID it returned; and `errs` receives the errors of the
rounds in the same order, one for a failed `Send` and one for a failed wait, then `nil`
(`sendAVAXBackAndForth_run`).
-/

namespace AvalancheTesting

open Prog

/-- The call is an X-chain `Send`. -/
def Call.isSend : Call → Bool
  | .xSend .. => true
  | _ => false

theorem UInt64.ofNat_add_one (k : Nat) : UInt64.ofNat (k + 1) = UInt64.ofNat k + 1 :=
  UInt64.eq_of_toBitVec_eq (BitVec.ofNat_add_ofNat ..).symm

namespace RPCWorkFlowRunner

variable (node : Node) (runner : RPCWorkFlowRunner) (toAddr : String) (amount txFee : UInt64)

/-- One round of the loop that sends `amount`: its calls `evs` are the `Send`, which returned
`r`, then the poll of the ID `r.1`, which returned `werr`; it puts on `errs` an error if the
`Send` failed, then one if the wait did. -/
def SendRound (amount : UInt64) (evs : List Event) (errs : List (Option Err)) : Prop :=
  ∃ (r : TxID × Option Err) (t : Nat) (werr : Option Err) (polls : List Event),
    evs = ⟨runner.client, .xSend runner.userPass amount avaxAssetID toAddr, r.1, r.2, t⟩ :: polls ∧
    runner.xChainPollLog r.1 werr polls ∧
    errs = (r.2.map fun e => some (.propagate e "Failed to send transaction." [])).toList ++
      (werr.map fun e => some (.propagate e "Failed to await transaction acceptance." [])).toList

/-- The calls and result of `n` rounds from round `i`: one `SendRound` per round, the `k`-th
sending `amount - txFee * (i + k)`, and their errors in order, then `nil`. -/
def RoundsLog (n : Nat) (i : UInt64) (r : Except Panic (List (Option Err))) (evs : List Event) :
    Prop :=
  ∃ rounds : List (List Event × List (Option Err)),
    List.Forall₂ (fun k rd => runner.SendRound toAddr (amount - txFee * (i + UInt64.ofNat k))
      rd.1 rd.2) (List.range n) rounds ∧
    evs = (rounds.map Prod.fst).flatten ∧ r = .ok ((rounds.map Prod.snd).flatten ++ [none])

/-- A round that sent from round `i` followed by `n` rounds from round `i + 1` are `n + 1`
rounds from round `i`. -/
theorem RoundsLog.cons {n : Nat} {i : UInt64} {evs evs' : List Event} {errs errs' : List (Option Err)}
    (hround : runner.SendRound toAddr (amount - txFee * i) evs errs)
    (hrest : runner.RoundsLog toAddr amount txFee n (i + 1) (.ok errs') evs') :
    runner.RoundsLog toAddr amount txFee (n + 1) i (.ok (errs ++ errs')) (evs ++ evs') := by
  obtain ⟨rounds, hF, rfl, hr⟩ := hrest
  cases Except.ok.inj hr
  refine ⟨(evs, errs) :: rounds, ?_, rfl, by simp⟩
  rw [List.range_succ_eq_map, List.forall₂_cons, List.forall₂_map_left_iff]
  refine ⟨by simpa using hround, hF.imp fun k rd h => ?_⟩
  rwa [UInt64.ofNat_add_one, add_comm (UInt64.ofNat k), ← add_assoc]

/-- Every run of `n` rounds from round `i` returns, and is a `RoundsLog`. -/
theorem runs_sendBackAndForthRounds : ∀ (n : Nat) (i : UInt64),
    Runs (runner.sendBackAndForthRounds toAddr amount txFee n i)
      (runner.RoundsLog toAddr amount txFee n i)
  | 0, _ => runs_pure _ ⟨[], .nil, rfl, rfl⟩
  | n + 1, i => by
    simp only [sendBackAndForthRounds, Client.xSend]
    refine runs_call_bind fun r t => ?_
    refine (runner.runs_waitForXchainTransactionAcceptance_log r.1).bind
      (fun werr polls ⟨_, he, hlog⟩ => ?_) (fun _ _ ⟨_, he, _⟩ => nomatch he)
    cases Except.ok.inj he
    refine (runs_sendBackAndForthRounds n (i + 1)).bind (fun errs' evs' hrest => ?_)
      (fun _ _ ⟨_, _, _, hr⟩ => nomatch hr)
    refine runs_pure _ ?_
    rw [List.append_nil, ← List.cons_append]
    convert RoundsLog.cons runner toAddr amount txFee ⟨r, t, werr, polls, rfl, hlog, rfl⟩ hrest
      using 3
    obtain ⟨_, _ | _⟩ := r <;> cases werr <;> rfl

/-- Every run of `SendAVAXBackAndForth(to, amount, txFee, numTxs, errs)` returns, whatever the
node answers: its calls are one `SendRound` per round `i = 1, ..., numTxs - 1`, in order, each
the `Send` of `amount - txFee * i` and the poll of the ID it returned; and the values it puts on
`errs` are the errors of the rounds in the same order (one per failed `Send`, one per failed
wait), then `nil`. -/
theorem sendAVAXBackAndForth_run (numTxs : UInt64) :
    Runs (runner.sendAVAXBackAndForth toAddr amount txFee numTxs) fun r evs =>
      ∃ rounds : List (List Event × List (Option Err)),
        List.Forall₂ (fun k rd => runner.SendRound toAddr
          (amount - txFee * UInt64.ofNat (k + 1)) rd.1 rd.2) (List.range (numTxs.toNat - 1))
          rounds ∧
        evs = (rounds.map Prod.fst).flatten ∧ r = .ok ((rounds.map Prod.snd).flatten ++ [none]) :=
  (runner.runs_sendBackAndForthRounds toAddr amount txFee _ 1).mono
    fun _ _ ⟨rounds, hF, hevs, hr⟩ => ⟨rounds, hF.imp fun k rd h => by
      rwa [UInt64.ofNat_add_one, add_comm _ (1 : UInt64)], hevs, hr⟩

end RPCWorkFlowRunner

/-- A node under which every call succeeds at once: each send returns a fresh ID, and every
X-chain transaction is accepted. -/
def acceptingNode : Node where
  answer n _ c := match c with
    | .xSend .. => (TxID.mk (n + 1), none)
    | .xGetTxStatus _ => (XStatus.accepted, none)
    | c => (c.defaultReply, none)
  latency _ := 0
  skew _ := 0
  rand := id

/-- A node whose sends fail and return the empty ID, and which reports every X-chain transaction
accepted. -/
def failingSendNode : Node where
  answer _ _ c := match c with
    | .xSend .. => (TxID.empty, some (.remote "send failed"))
    | .xGetTxStatus _ => (XStatus.accepted, none)
    | c => (c.defaultReply, none)
  latency _ := 0
  skew _ := 0
  rand := id

/-- With `numTxs = 3` and every call succeeding, `SendAVAXBackAndForth` sends twice, not three
times; with `numTxs = 2` and a failing `Send`, it puts two values on `errs`, and after the
failed `Send` it polls the empty ID that `Send` returned. -/
theorem sendAVAXBackAndForth_rounds_and_errs :
    let runner : RPCWorkFlowRunner := ⟨⟨0⟩, ⟨"u", "p"⟩, second⟩
    ((run acceptingNode (runner.sendAVAXBackAndForth "b" 10 1 3) World.initial).2.trace.filter
      (·.call.isSend)).length = 2 ∧
    (run acceptingNode (runner.sendAVAXBackAndForth "b" 10 1 3) World.initial).1 = .ok [none] ∧
    (run failingSendNode (runner.sendAVAXBackAndForth "b" 10 1 2) World.initial).1 =
      .ok [some (.propagate (.remote "send failed") "Failed to send transaction." []), none] ∧
    (run failingSendNode (runner.sendAVAXBackAndForth "b" 10 1 2) World.initial).2.trace.map
      (·.call) = [.xSend ⟨"u", "p"⟩ 9 avaxAssetID "b", .xGetTxStatus TxID.empty] :=
  ⟨rfl, rfl, rfl, rfl⟩

end AvalancheTesting
