import AvalancheTesting.Proofs.MonitorProofs

/-!
# Proofs: the runner's operations fail eagerly, but for one

The harness's propagation policy: a step that fails ends the operation, with an error saying
which step failed. `FailsEagerly x failure` says that every run of `x` returns, and that once a
call fails no further call is made and the value returned is a `failure`. The monitor
`failEager` refuses any call after a failed one; twelve of the runner's operations are
`Monitored` by it (`runner_operations_fail_eagerly`). `TransferAvaPChainToXChain` is not: the
error of its X-chain import is overwritten by the wait that follows, which polls the ID the
failed import returned (`transferAvaPChainToXChain_drops_import_error`).
-/

namespace AvalancheTesting

open Prog

/-- The fail-eager monitor: its state says whether a call has failed, and it refuses any call
after a failed one. -/
def failEager : Monitor Bool := fun failed ev => if failed then none else some ev.err.isSome

/-- Every run of `x` returns, and once a call fails, no call follows and the value returned is
a `failure`. -/
def FailsEagerly (x : Prog α) (failure : α → Prop) : Prop :=
  ∀ node w, ∃ evs a, (run node x w).1 = .ok a ∧ (run node x w).2.trace = w.trace ++ evs ∧
    ∀ pre ev post, evs = pre ++ ev :: post → ev.err.isSome → post = [] ∧ failure a

/-- When the monitor accepts a run from the start, a failed call is the run's last, and the
monitor ends in the failed state. -/
theorem failEager_run_failed {evs : List Event} {s' : Bool} (h : failEager.run false evs = some s')
    {pre post : List Event} {ev : Event} (hevs : evs = pre ++ ev :: post) (herr : ev.err.isSome) :
    post = [] ∧ s' = true := by
  subst hevs
  induction pre with
  | nil =>
    cases post with
    | nil => simpa [failEager, herr] using h
    | cons e post => simp [failEager, herr] at h
  | cons e pre ih =>
    by_cases he : e.err.isSome
    · cases pre <;> simp [failEager, he] at h
    · exact ih (by simpa [failEager, he] using h)

/-- Calls of which only the last may fail take the monitor to the state saying whether one
failed. -/
theorem failEager_run_of_last {evs : List Event}
    (h : ∀ pre ev post, evs = pre ++ ev :: post → ev.err.isSome → post = []) :
    failEager.run false evs = some (evs.any (·.err.isSome)) := by
  induction evs with
  | nil => rfl
  | cons e evs ih =>
    by_cases he : e.err.isSome
    · obtain rfl := h [] e evs rfl he
      simp [failEager, he]
    · simp only [Monitor.run_cons, failEager, he, Bool.false_eq_true, if_false, Option.bind_some,
        List.any_cons, Bool.false_or]
      exact ih fun pre ev post hevs => h (e :: pre) ev post (by rw [hevs]; rfl)

theorem Monitored.failsEagerly {x : Prog α} {failure : α → Prop}
    (h : Monitored failEager false x fun a failed => failed = true → failure a) :
    FailsEagerly x failure := fun node w =>
  let ⟨evs, _, a, hres, htr, hrun, hQ⟩ := h node w
  ⟨evs, a, hres, htr, fun _ _ _ hevs herr =>
    let ⟨hpost, hs'⟩ := failEager_run_failed hrun hevs herr
    ⟨hpost, hQ hs'⟩⟩

/-- A run that went on after a step returned `nil` had no failed call up to there. -/
theorem failEager_ok {s : Bool} (h : s = true → (none : Option Err).isSome) : s = false := by
  simpa using h

/-! ## Calls and pollers -/

section Calls

variable {cl : Client} {c : Call}

/-- A call, made before any failed, leaves the state saying whether it failed. -/
theorem failEager_call : Monitored failEager false (Prog.call cl c) fun r failed => failed = r.2.isSome :=
  monitored_call cl c fun _ _ => ⟨_, rfl, rfl⟩

/-- A poller makes no query after a failed one, and then returns an error. -/
theorem failEager_pollerRun {x : Prog (Option Err)} {accept : c.Ret → Bool}
    (hx : ∀ node w, ∃ qs, PollerRun cl c accept w.trace (run node x w) qs) :
    Monitored failEager false x fun r failed => failed = true → r.isSome :=
  monitored_pollerRun hx fun qs r _ hfail => by
    have hlast : ∀ pre ev post, qs.map (queryEvent cl c) = pre ++ ev :: post → ev.err.isSome →
        post = [] := by
      intro pre ev post hqs herr
      obtain ⟨pre', rest, rfl, -, hrest⟩ := List.map_eq_append_iff.1 hqs
      obtain ⟨q, post', rfl, rfl, rfl⟩ := List.map_eq_cons_iff.1 hrest
      rw [(hfail pre' q post' rfl herr).1, List.map_nil]
    refine ⟨_, failEager_run_of_last hlast, fun hany => ?_⟩
    obtain ⟨ev, hev, herr⟩ := List.any_eq_true.1 hany
    obtain ⟨pre, post, hsplit⟩ := List.append_of_mem hev
    obtain ⟨pre', rest, rfl, -, hrest⟩ := List.map_eq_append_iff.1 hsplit
    obtain ⟨q, post', rfl, rfl, -⟩ := List.map_eq_cons_iff.1 hrest
    exact (hfail pre' q post' rfl herr).2

end Calls

/-! ## The operations -/

namespace RPCWorkFlowRunner

variable (runner : RPCWorkFlowRunner) (consts : NetworkConstants)

theorem failEager_waitForXchainTransactionAcceptance (t : TxID) :
    Monitored failEager false (runner.waitForXchainTransactionAcceptance t)
      fun r failed => failed = true → r.isSome :=
  failEager_pollerRun (waitForXchainTransactionAcceptance_pollerRun · runner t ·)

theorem failEager_waitForPChainTransactionAcceptance (t : TxID) :
    Monitored failEager false (runner.waitForPChainTransactionAcceptance t)
      fun r failed => failed = true → r.isSome :=
  failEager_pollerRun (waitForPChainTransactionAcceptance_pollerRun · runner t ·)

theorem failEager_importGenesisFunds :
    Monitored failEager false (runner.importGenesisFunds consts)
      fun r failed => failed = true → r.2.isSome := by
  refine Monitored.bind failEager_call fun r s hs => ?_
  subst hs
  obtain ⟨_, _ | e⟩ := r
  · refine Monitored.bind failEager_call fun r s hs => ?_
    subst hs
    obtain ⟨_, _ | e⟩ := r
    · exact monitored_pure _ fun h => nomatch h
    · exact monitored_pure _ fun _ => rfl
  · exact monitored_pure _ fun _ => rfl

theorem failEager_createDefaultAddresses :
    Monitored failEager false runner.createDefaultAddresses
      fun r failed => failed = true → r.2.2.isSome := by
  refine Monitored.bind failEager_call fun r s hs => ?_
  subst hs
  obtain ⟨_, _ | e⟩ := r
  · refine Monitored.bind failEager_call fun r s hs => ?_
    subst hs
    obtain ⟨_, _ | e⟩ := r
    · exact (failEager_call).bind fun r s hs => monitored_pure _ fun h => hs ▸ h
    · exact monitored_pure _ fun _ => rfl
  · exact monitored_pure _ fun _ => rfl

theorem failEager_fundXChainAddresses : ∀ (addresses : List String) (amount : UInt64),
    Monitored failEager false (runner.fundXChainAddresses addresses amount)
      fun r failed => failed = true → r.isSome
  | [], _ => monitored_pure _ fun h => nomatch h
  | address :: addresses, amount => by
    refine Monitored.bind failEager_call fun r s hs => ?_
    subst hs
    obtain ⟨t, _ | e⟩ := r
    · refine (failEager_waitForXchainTransactionAcceptance runner t).bind fun err s hs => ?_
      cases err with
      | some e => exact monitored_pure _ fun _ => rfl
      | none =>
        obtain rfl := failEager_ok hs
        exact failEager_fundXChainAddresses addresses amount
    · exact monitored_pure _ fun _ => rfl

theorem failEager_transferAvaXChainToPChain (pChainAddress : String) (amount : UInt64) :
    Monitored failEager false (runner.transferAvaXChainToPChain consts pChainAddress amount)
      fun r failed => failed = true → r.isSome := by
  refine Monitored.bind failEager_call fun r s hs => ?_
  subst hs
  obtain ⟨t, _ | e⟩ := r
  · refine (failEager_waitForXchainTransactionAcceptance runner t).bind fun err s hs => ?_
    cases err with
    | some e => exact monitored_pure _ fun _ => rfl
    | none =>
      obtain rfl := failEager_ok hs
      refine Monitored.bind failEager_call fun i s hs => ?_
      subst hs
      obtain ⟨t', _ | e⟩ := i
      · refine (failEager_waitForPChainTransactionAcceptance runner t').bind fun err s hs => ?_
        cases err with
        | some e => exact monitored_pure _ fun _ => rfl
        | none => exact monitored_pure _ hs
      · exact monitored_pure _ fun _ => rfl
  · exact monitored_pure _ fun _ => rfl

/-- A staking operation whose submission is a single call fails eagerly. -/
theorem failEager_addStaker (delay period : Nat) {submit : UInt64 → UInt64 → Prog (TxID × Option Err)}
    (submitFailed : Err → Err) (acceptFailed : Err → TxID → Err)
    (hsubmit : ∀ a b, Monitored failEager false (submit a b) fun r failed => failed = r.2.isSome) :
    Monitored failEager false (runner.addStaker delay period submit submitFailed acceptFailed)
      fun r failed => failed = true → r.isSome := by
  refine Monitored.bind monitored_clock fun _ s hs => ?_
  subst hs
  refine (hsubmit _ _).bind fun r s hs => ?_
  subst hs
  obtain ⟨t, _ | e⟩ := r
  · refine (failEager_waitForPChainTransactionAcceptance runner t).bind fun err s hs => ?_
    cases err with
    | some e => exact monitored_pure _ fun _ => rfl
    | none =>
      refine Monitored.bind monitored_clock fun _ s' hs' => ?_
      subst hs'
      exact (monitored_sleepFor _).bind fun _ s' hs' => monitored_pure _ (hs' ▸ hs)
  · exact monitored_pure _ fun _ => rfl

theorem failEager_importGenesisFundsAndStartValidating (seedAmount stakeAmount : UInt64) :
    Monitored failEager false
      (runner.importGenesisFundsAndStartValidating consts seedAmount stakeAmount)
      fun r failed => failed = true → r.2.isSome := by
  refine Monitored.bind failEager_call fun n s hs => ?_
  subst hs
  obtain ⟨nodeID, _ | e⟩ := n
  · refine (failEager_importGenesisFunds runner consts).bind fun g s hs => ?_
    obtain ⟨_, _ | e⟩ := g
    · obtain rfl := failEager_ok hs
      refine Monitored.bind failEager_call fun q s hs => ?_
      subst hs
      obtain ⟨pAddr, _ | e⟩ := q
      · refine (failEager_transferAvaXChainToPChain runner consts _ _).bind fun err s hs => ?_
        cases err with
        | some e => exact monitored_pure _ fun _ => rfl
        | none =>
          obtain rfl := failEager_ok hs
          refine (failEager_addStaker runner _ _ _ _ fun _ _ => failEager_call).bind
            fun err s hs => ?_
          cases err with
          | some e => exact monitored_pure _ fun _ => rfl
          | none => exact monitored_pure _ hs
      · exact monitored_pure _ fun _ => rfl
    · exact monitored_pure _ fun _ => rfl
  · exact monitored_pure _ fun _ => rfl

theorem failEager_issueTxList : ∀ txList : List Bytes,
    Monitored failEager false (runner.issueTxList txList) fun r failed => failed = true → r.isSome
  | [] => monitored_pure _ fun h => nomatch h
  | txBytes :: txList => by
    refine Monitored.bind failEager_call fun r s hs => ?_
    subst hs
    obtain ⟨_, _ | e⟩ := r
    · exact failEager_issueTxList txList
    · exact monitored_pure _ fun _ => rfl

/-- The loop of `AwaitXChainTxs` and `AwaitPChainTxs` fails eagerly when each wait does. -/
theorem failEager_awaitTxs {wait : TxID → Prog (Option Err)}
    (hwait : ∀ t, Monitored failEager false (wait t) fun r failed => failed = true → r.isSome) :
    ∀ txIDs : List TxID, Monitored failEager false (awaitTxs wait txIDs)
      fun r failed => failed = true → r.isSome
  | [] => monitored_pure _ fun h => nomatch h
  | t :: ts => (hwait t).bind fun err s hs => by
    cases err with
    | some e => exact monitored_pure _ fun _ => rfl
    | none =>
      obtain rfl := failEager_ok hs
      exact failEager_awaitTxs hwait ts

/-- A balance check fails eagerly. -/
theorem failEager_verifyBalance {get : Prog (UInt64 × Option Err)}
    (hget : Monitored failEager false get fun r failed => failed = r.2.isSome)
    (retrieveFailed unexpected address : String) (expectedBalance : UInt64) :
    Monitored failEager false (verifyBalance get retrieveFailed unexpected address expectedBalance)
      fun r failed => failed = true → r.isSome :=
  hget.bind fun r s hs => by
    subst hs
    obtain ⟨balance, _ | e⟩ := r
    · dsimp only
      split
      · exact monitored_pure _ fun _ => rfl
      · exact monitored_pure _ fun h => nomatch h
    · exact monitored_pure _ fun _ => rfl

end RPCWorkFlowRunner

/-- Every run of twelve of the runner's operations returns, and once one of its calls fails,
the operation makes no further call and returns an error. -/
theorem runner_operations_fail_eagerly (runner : RPCWorkFlowRunner) (consts : NetworkConstants)
    (addresses : List String) (amount seedAmount stakeAmount expectedBalance : UInt64)
    (pChainAddress nodeID address : String) (txList : List Bytes) (txIDs : List TxID) :
    FailsEagerly (runner.importGenesisFunds consts) (fun r => r.2.isSome) ∧
    FailsEagerly (runner.importGenesisFundsAndStartValidating consts seedAmount stakeAmount)
      (fun r => r.2.isSome) ∧
    FailsEagerly runner.createDefaultAddresses (fun r => r.2.2.isSome) ∧
    FailsEagerly (runner.fundXChainAddresses addresses amount) (fun r => r.isSome) ∧
    FailsEagerly (runner.transferAvaXChainToPChain consts pChainAddress amount)
      (fun r => r.isSome) ∧
    FailsEagerly (runner.addValidatorToPrimaryNetwork nodeID pChainAddress stakeAmount)
      (fun r => r.isSome) ∧
    FailsEagerly (runner.addDelegatorToPrimaryNetwork nodeID pChainAddress stakeAmount)
      (fun r => r.isSome) ∧
    FailsEagerly (runner.issueTxList txList) (fun r => r.isSome) ∧
    FailsEagerly (runner.awaitXChainTxs txIDs) (fun r => r.isSome) ∧
    FailsEagerly (runner.awaitPChainTxs txIDs) (fun r => r.isSome) ∧
    FailsEagerly (runner.verifyXChainAVABalance address expectedBalance) (fun r => r.isSome) ∧
    FailsEagerly (runner.verifyPChainBalance address expectedBalance) (fun r => r.isSome) :=
  ⟨(runner.failEager_importGenesisFunds consts).failsEagerly,
    (runner.failEager_importGenesisFundsAndStartValidating consts seedAmount stakeAmount).failsEagerly,
    runner.failEager_createDefaultAddresses.failsEagerly,
    (runner.failEager_fundXChainAddresses addresses amount).failsEagerly,
    (runner.failEager_transferAvaXChainToPChain consts pChainAddress amount).failsEagerly,
    (runner.failEager_addStaker _ _ _ _ fun _ _ => failEager_call).failsEagerly,
    (runner.failEager_addStaker _ _ _ _ fun _ _ => failEager_call).failsEagerly,
    (runner.failEager_issueTxList txList).failsEagerly,
    (RPCWorkFlowRunner.failEager_awaitTxs
      runner.failEager_waitForXchainTransactionAcceptance txIDs).failsEagerly,
    (RPCWorkFlowRunner.failEager_awaitTxs
      runner.failEager_waitForPChainTransactionAcceptance txIDs).failsEagerly,
    (RPCWorkFlowRunner.failEager_verifyBalance failEager_call _ _ _ _).failsEagerly,
    (RPCWorkFlowRunner.failEager_verifyBalance failEager_call _ _ _ _).failsEagerly⟩

/-! ## The import error of `TransferAvaPChainToXChain` -/

/-- A node under which the P-chain export is committed, the X-chain import fails and returns the
empty ID, and every X-chain transaction is reported accepted. -/
def importFailsNode : Node where
  answer _ _ c := match c with
    | .pExportAVAX .. => (TxID.mk 1, none)
    | .pGetTxStatus _ => (PStatus.committed, none)
    | .xImportAVAX .. => (TxID.empty, some (.remote "import failed"))
    | .xGetTxStatus _ => (XStatus.accepted, none)
    | c => (c.defaultReply, none)
  latency _ := 0
  skew _ := 0
  rand := id

/-- `TransferAvaPChainToXChain` goes on after its X-chain import failed, polls the empty ID
that the import returned, and returns `nil`. -/
theorem transferAvaPChainToXChain_drops_import_error :
    let runner : RPCWorkFlowRunner := ⟨⟨0⟩, ⟨"u", "p"⟩, second⟩
    let consts : NetworkConstants := ⟨"key", "X", "P"⟩
    (run importFailsNode (runner.transferAvaPChainToXChain consts "x" 5) World.initial).1 =
      .ok none ∧
    (run importFailsNode (runner.transferAvaPChainToXChain consts "x" 5) World.initial).2.trace.map
      (fun ev => (ev.call, ev.err)) =
      [(.pExportAVAX ⟨"u", "p"⟩ "x" 5, none), (.pGetTxStatus ⟨1⟩, none),
        (.xImportAVAX ⟨"u", "p"⟩ "x" "P", some (.remote "import failed")),
        (.xGetTxStatus TxID.empty, none)] :=
  ⟨rfl, rfl⟩

end AvalancheTesting
