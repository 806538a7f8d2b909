import AvalancheTesting.Proofs.RunProofs

/-!
# Proofs: the staking workflows wait until the staking period has begun

`AddValidatorToPrimaryNetwork` and `AddDelegatorToPrimaryNetwork` are `addStaker` applied to their
own delay, period and call. Each reads the clock, submits its staking transaction with a start
`delay` ahead of the clock and an end `period` after the start, waits for the transaction to be
committed, and then sleeps until the start plus `stakingPeriodSynchronyDelay`. So when either
returns `nil`, every call its caller makes afterwards is made once the staking period has begun
(`staking_workflows_wait_for_start`).
-/

namespace AvalancheTesting

open Prog

namespace RPCWorkFlowRunner

section AddStaker

variable (runner : RPCWorkFlowRunner) {node : Node} {delay period : Nat}
  {submit : UInt64 → UInt64 → Prog (TxID × Option Err)} {submitFailed : Err → Err}
  {acceptFailed : Err → TxID → Err}

/-- When `addStaker` returns `nil`, its clock has passed the start it submitted by
`stakingPeriodSynchronyDelay`: its last step sleeps until then. -/
theorem addStaker_clock {w : World}
    (h : (run node (runner.addStaker delay period submit submitFailed acceptFailed) w).1 =
      .ok none) :
    w.clock + node.skew w.reads + delay + stakingPeriodSynchronyDelay ≤
      (run node (runner.addStaker delay period submit submitFailed acceptFailed) w).2.clock := by
  unfold addStaker at h ⊢
  rw [run_clock_bind, run_bind] at h ⊢
  revert h
  rcases run node (submit _ _) _ with ⟨_ | ⟨txID, _ | e⟩, w₁⟩ <;> intro h
  · exact nomatch h
  · dsimp only at h ⊢
    rw [run_bind] at h ⊢
    revert h
    rcases run node (runner.waitForPChainTransactionAcceptance txID) w₁ with
      ⟨_ | _ | e, w₂⟩ <;> intro h
    · exact nomatch h
    · dsimp only
      rw [run_clock_bind, run_sleepFor_bind, run_pure]
      dsimp only
      omega
    · exact nomatch h
  · exact nomatch h

/-- When `addStaker` returns `nil`, every call its caller makes afterwards is stamped at least
`stakingPeriodSynchronyDelay` after the start it submitted. -/
theorem addStaker_bind_after (f : Option Err → Prog β) {w : World}
    (h : (run node (runner.addStaker delay period submit submitFailed acceptFailed) w).1 =
      .ok none) :
    ∃ post, (run node (runner.addStaker delay period submit submitFailed acceptFailed >>= f)
        w).2.trace =
        (run node (runner.addStaker delay period submit submitFailed acceptFailed) w).2.trace ++
          post ∧
      ∀ ev ∈ post, w.clock + node.skew w.reads + delay + stakingPeriodSynchronyDelay ≤ ev.time :=
  let ⟨post, htr, hafter⟩ := run_trace_after node (f none)
    (run node (runner.addStaker delay period submit submitFailed acceptFailed) w).2
  ⟨post, by rw [run_bind_of_fst h, htr],
    fun ev hev => (runner.addStaker_clock h).trans (hafter ev hev)⟩

end AddStaker

/-- `AddValidatorToPrimaryNetwork` and `AddDelegatorToPrimaryNetwork`, followed by any program `f`
of their caller. The first call is the staking transaction, with a start `DefaultStakingDelay`
(`DefaultDelegationDelay`) after the clock read on entry and an end `DefaultStakingPeriod`
(`DefaultDelegationPeriod`) after the start. When the workflow returns `nil`, every call that `f`
makes is made at least `stakingPeriodSynchronyDelay` after the start. -/
theorem staking_workflows_wait_for_start (runner : RPCWorkFlowRunner) (nodeID address : String)
    (stakeAmount : UInt64) (f : Option Err → Prog β) (node : Node) (w : World) :
    let now := w.clock + node.skew w.reads
    let validate := runner.addValidatorToPrimaryNetwork nodeID address stakeAmount
    let delegate := runner.addDelegatorToPrimaryNetwork nodeID address stakeAmount
    ((∃ (r : TxID × Option Err) (evs : List Event),
        (run node (validate >>= f) w).2.trace = w.trace ++
          ⟨runner.client, .pAddValidator runner.userPass address nodeID stakeAmount
            (unixSeconds (now + defaultStakingDelay))
            (unixSeconds (now + defaultStakingDelay + defaultStakingPeriod))
            defaultDelegationFeeRate, r.1, r.2, now⟩ :: evs) ∧
      ((run node validate w).1 = .ok none → ∃ post,
        (run node (validate >>= f) w).2.trace = (run node validate w).2.trace ++ post ∧
        ∀ ev ∈ post, now + defaultStakingDelay + stakingPeriodSynchronyDelay ≤ ev.time)) ∧
    ((∃ (r : TxID × Option Err) (evs : List Event),
        (run node (delegate >>= f) w).2.trace = w.trace ++
          ⟨runner.client, .pAddDelegator runner.userPass address nodeID stakeAmount
            (unixSeconds (now + defaultDelegationDelay))
            (unixSeconds (now + defaultDelegationDelay + defaultDelegationPeriod)),
            r.1, r.2, now⟩ :: evs) ∧
      ((run node delegate w).1 = .ok none → ∃ post,
        (run node (delegate >>= f) w).2.trace = (run node delegate w).2.trace ++ post ∧
        ∀ ev ∈ post, now + defaultDelegationDelay + stakingPeriodSynchronyDelay ≤ ev.time)) := by
  dsimp only
  refine ⟨⟨?_, runner.addStaker_bind_after f⟩, ⟨?_, runner.addStaker_bind_after f⟩⟩
  · rw [addValidatorToPrimaryNetwork, addStaker, Prog.bind_assoc, run_clock_bind, Prog.bind_assoc,
      Client.pAddValidator]
    exact run_call_bind_trace node runner.client (.pAddValidator _ _ _ _ _ _ _) _ _
  · rw [addDelegatorToPrimaryNetwork, addStaker, Prog.bind_assoc, run_clock_bind, Prog.bind_assoc,
      Client.pAddDelegator]
    exact run_call_bind_trace node runner.client (.pAddDelegator _ _ _ _ _ _) _ _

end RPCWorkFlowRunner

/-- A node that commits every P-chain transaction at once, whose calls and clock reads take no
time. -/
def committingNode : Node where
  answer _ _ c := match c with
    | .pGetTxStatus _ => (PStatus.committed, none)
    | c => (c.defaultReply, none)
  latency _ := 0
  skew _ := 0
  rand := id

/-- On a node that commits every P-chain transaction at once, `AddValidatorToPrimaryNetwork`
returns `nil`, and the call its caller makes next comes after the staking start. -/
theorem staking_workflows_wait_for_start_on_commit :
    let runner : RPCWorkFlowRunner := ⟨⟨0⟩, ⟨"u", "p"⟩, second⟩
    let validate := runner.addValidatorToPrimaryNetwork "NodeID-1" "P-addr" 1
    let next : Option Err → Prog (Call.infoGetNodeID.Ret × Option Err) := fun _ =>
      Prog.call runner.client .infoGetNodeID
    (run committingNode validate World.initial).1 = .ok none ∧ ∃ post,
      (run committingNode (validate >>= next) World.initial).2.trace =
        (run committingNode validate World.initial).2.trace ++ post ∧
      ∀ ev ∈ post, World.initial.clock + committingNode.skew World.initial.reads +
        defaultStakingDelay + stakingPeriodSynchronyDelay ≤ ev.time :=
  ⟨rfl, (RPCWorkFlowRunner.staking_workflows_wait_for_start ⟨⟨0⟩, ⟨"u", "p"⟩, second⟩ "NodeID-1"
    "P-addr" 1 (fun _ => Prog.call ⟨0⟩ .infoGetNodeID) committingNode World.initial).1.2 rfl⟩

end AvalancheTesting
