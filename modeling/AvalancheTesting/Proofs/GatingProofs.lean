import AvalancheTesting.Proofs.MonitorProofs

/-!
# Proofs: each submission waits for the acceptance of the one before

A call that submits a transaction to a ledger returns the transaction's ID. The runner's
operations that submit several transactions wait, between two submissions, until an acceptance
poller of the ledger the first one was submitted to observes it accepted there: `Accepted` on
the X chain, `Committed` on the P chain (`SubmissionsGated`). The property is checked by the
monitor `gate`, whose state is the ledger and ID of the latest submission while its acceptance
has not been observed; `submissionsGated_of_gate` connects the two. Each operation is then shown to be
`Monitored` by `gate`, from the rules, and in particular the cross-ledger transfers never
submit the import before the export was accepted (`submissions_gated_by_acceptance`).
-/

namespace AvalancheTesting

open Prog

/-! ## Submissions and observed acceptance -/

/-- The two ledgers of the node: the X chain and the P chain. -/
inductive Chain where
  | x | p
  deriving DecidableEq, Repr

/-- The ledger a call submitted a transaction to, with the transaction's ID: each call that
submits a transaction returns its ID. -/
def Call.submittedID : (c : Call) → c.Ret → Option (Chain × TxID)
  | .xSend .., t => some (.x, t)
  | .xExportAVAX .., t => some (.x, t)
  | .xImportAVAX .., t => some (.x, t)
  | .pExportAVAX .., t => some (.p, t)
  | .pImportAVAX .., t => some (.p, t)
  | .pAddValidator .., t => some (.p, t)
  | .pAddDelegator .., t => some (.p, t)
  | .xIssueTx _, t => some (.x, t)
  | _, _ => none

/-- The call is a status query of ledger `s.1` that saw transaction `s.2` accepted by it:
`Accepted` on the X chain, `Committed` on the P chain. -/
def Call.observesAccepted : Chain × TxID → (c : Call) → c.Ret → Bool
  | (.x, t), .xGetTxStatus t', s => t' == t && @BEq.beq XStatus _ s .accepted
  | (.p, t), .pGetTxStatus t', s => t' == t && @BEq.beq PStatus _ s .committed
  | (.p, t), .pGetTxStatusWithReason t' _, s => t' == t && PStatusReply.status s == .committed
  | _, _, _ => false

/-- The ledger and ID of the transaction the event's call submitted. -/
def Event.submitted (ev : Event) : Option (Chain × TxID) := ev.call.submittedID ev.reply

/-- The event is a query that succeeded and saw the transaction `s.2` accepted by ledger
`s.1`. -/
def Event.observesAccepted (s : Chain × TxID) (ev : Event) : Bool :=
  ev.err.isNone && ev.call.observesAccepted s ev.reply

/-- Between a submission of `t` and the next submission, some call saw `t` accepted by the
ledger it was submitted to. -/
def SubmissionsGated (evs : List Event) : Prop :=
  ∀ pre s mid s' post t t', evs = pre ++ s :: (mid ++ s' :: post) →
    s.submitted = some t → s'.submitted = some t' → (∀ e ∈ mid, e.submitted = none) →
    ∃ e ∈ mid, e.observesAccepted t = true

/-- Every run of `x`, against every node, makes gated submissions. -/
def SubmitsGated (x : Prog α) : Prop :=
  ∀ node w, ∃ evs, (run node x w).2.trace = w.trace ++ evs ∧ SubmissionsGated evs

/-! ## The gate -/

/-- The gate: its state is the ledger and ID of the latest submission while its acceptance by that
ledger has not been observed, and it refuses a submission in such a state. -/
def gate : Monitor (Option (Chain × TxID)) := fun pending ev =>
  match ev.submitted with
  | some t => if pending.isNone then some (some t) else none
  | none => some (match pending with
    | some t => if ev.observesAccepted t then none else some t
    | none => none)

/-- Two sends are refused when only a P-chain query saw the first committed, and accepted when
an X-chain status query saw it accepted. -/
example : gate.run none [⟨⟨0⟩, .xSend ⟨"u", "p"⟩ 1 "AVAX" "a", ⟨7⟩, none, 0⟩,
    ⟨⟨0⟩, .pGetTxStatus ⟨7⟩, PStatus.committed, none, 1⟩,
    ⟨⟨0⟩, .xSend ⟨"u", "p"⟩ 1 "AVAX" "b", ⟨8⟩, none, 2⟩] = none ∧
    gate.run none [⟨⟨0⟩, .xSend ⟨"u", "p"⟩ 1 "AVAX" "a", ⟨7⟩, none, 0⟩,
      ⟨⟨0⟩, .xGetTxStatus ⟨7⟩, XStatus.accepted, none, 1⟩,
      ⟨⟨0⟩, .xSend ⟨"u", "p"⟩ 1 "AVAX" "b", ⟨8⟩, none, 2⟩] = some (some (.x, ⟨8⟩)) :=
  ⟨rfl, rfl⟩

/-- Over calls that submit nothing, the gate stays open. -/
theorem gate_run_quiet_none {evs : List Event} (hsub : ∀ e ∈ evs, e.submitted = none) :
    gate.run none evs = some none := by
  induction evs with
  | nil => rfl
  | cons ev evs ih =>
    simp only [Monitor.run_cons, gate, hsub ev (List.mem_cons_self _ _), Option.bind_some]
    exact ih fun e he => hsub e (List.mem_cons_of_mem _ he)

/-- Over calls that submit nothing, the gate refuses nothing, and clears a pending ID exactly
when one of them sees it accepted. -/
theorem gate_run_quiet {evs : List Event} (hsub : ∀ e ∈ evs, e.submitted = none)
    (t : Chain × TxID) :
    gate.run (some t) evs = some (if evs.any (·.observesAccepted t) then none else some t) := by
  induction evs with
  | nil => rfl
  | cons ev evs ih =>
    have hrest : ∀ e ∈ evs, e.submitted = none := fun e he => hsub e (List.mem_cons_of_mem _ he)
    simp only [Monitor.run_cons, gate, hsub ev (List.mem_cons_self _ _), Option.bind_some,
      List.any_cons]
    by_cases h : ev.observesAccepted t
    · simp only [h, if_true, Bool.true_or, Option.bind_some]
      exact gate_run_quiet_none hrest
    · simp only [h, Bool.false_eq_true, if_false, Bool.false_or, Option.bind_some]
      exact ih hrest

/-- A run the gate accepts makes gated submissions. -/
theorem submissionsGated_of_gate {p : Option (Chain × TxID)} {evs : List Event} (h : gate.run p evs ≠ none) :
    SubmissionsGated evs := by
  intro pre s mid s' post t t' hevs hs hs' hmid
  by_contra hno
  have hquiet : mid.any (·.observesAccepted t) = false := by simpa using hno
  apply h
  rw [hevs, Monitor.run_append]
  cases gate.run p pre with
  | none => rfl
  | some q =>
    cases q <;>
      simp [gate, hs, hs', Monitor.run_append, gate_run_quiet hmid, hquiet]

/-- A program the gate monitors from the open state makes gated submissions. -/
theorem Monitored.submitsGated {x : Prog α} {Q : α → Option (Chain × TxID) → Prop}
    (h : Monitored gate none x Q) : SubmitsGated x := fun node w =>
  let ⟨evs, _, _, _, htr, hrun, _⟩ := h node w
  ⟨evs, htr, submissionsGated_of_gate (by rw [hrun]; exact Option.some_ne_none _)⟩

/-! ## Calls and pollers under the gate -/

section Calls

variable {cl : Client} {c : Call}

/-- From the open state, a call leaves pending the ID it submitted, if any. -/
theorem gate_call : Monitored gate none (Prog.call cl c) fun r p => p = c.submittedID r.1 :=
  monitored_call cl c fun r _ => ⟨_, by
    simp only [gate, Event.submitted]
    cases c.submittedID r.1 <;> rfl, rfl⟩

/-- A poller's queries submit nothing. -/
theorem queryEvent_submitted (qs : List (c.Ret × Option Err × Nat))
    (hc : ∀ r, c.submittedID r = none) : ∀ e ∈ qs.map (queryEvent cl c), e.submitted = none :=
  fun _ he => by
    obtain ⟨q, _, rfl⟩ := List.mem_map.1 he
    exact hc q.1

variable (runner : RPCWorkFlowRunner) (t : TxID)

/-- The X-chain poller clears the X-chain ID it polls when it returns `nil`. -/
theorem gate_waitForXchainTransactionAcceptance :
    Monitored gate (some (.x, t)) (runner.waitForXchainTransactionAcceptance t)
      fun r p => r = none → p = none :=
  monitored_pollerRun (waitForXchainTransactionAcceptance_pollerRun · runner t ·)
    fun qs _ hacc _ => ⟨_, gate_run_quiet (queryEvent_submitted qs fun _ => rfl) _, fun hr => by
        obtain ⟨q, hq, ha, hn⟩ := hacc hr
        rw [if_pos (List.any_eq_true.2 ⟨_, List.mem_map_of_mem _ hq, ?_⟩)]
        simpa [Event.observesAccepted, queryEvent, Call.observesAccepted, hn] using ha⟩

/-- The P-chain poller clears the P-chain ID it polls when it returns `nil`. -/
theorem gate_waitForPChainTransactionAcceptance :
    Monitored gate (some (.p, t)) (runner.waitForPChainTransactionAcceptance t)
      fun r p => r = none → p = none :=
  monitored_pollerRun (waitForPChainTransactionAcceptance_pollerRun · runner t ·)
    fun qs _ hacc _ => ⟨_, gate_run_quiet (queryEvent_submitted qs fun _ => rfl) _, fun hr => by
        obtain ⟨q, hq, ha, hn⟩ := hacc hr
        rw [if_pos (List.any_eq_true.2 ⟨_, List.mem_map_of_mem _ hq, ?_⟩)]
        simpa [Event.observesAccepted, queryEvent, Call.observesAccepted, hn] using ha⟩

end Calls

/-! ## The operations -/

namespace RPCWorkFlowRunner

variable (runner : RPCWorkFlowRunner) (consts : NetworkConstants)

theorem gate_fundXChainAddresses : ∀ (addresses : List String) (amount : UInt64),
    Monitored gate none (runner.fundXChainAddresses addresses amount)
      fun r p => r = none → p = none
  | [], _ => monitored_pure _ fun _ => rfl
  | address :: addresses, amount => by
    refine Monitored.bind gate_call fun r p hp => ?_
    subst hp
    obtain ⟨t, _ | e⟩ := r
    · refine (gate_waitForXchainTransactionAcceptance runner t).bind fun err p hp => ?_
      cases err with
      | some e => exact monitored_pure _ fun h => nomatch h
      | none => rw [hp rfl]; exact gate_fundXChainAddresses addresses amount
    · exact monitored_pure _ fun h => nomatch h

theorem gate_transferAvaXChainToPChain (pChainAddress : String) (amount : UInt64) :
    Monitored gate none (runner.transferAvaXChainToPChain consts pChainAddress amount)
      fun r p => r = none → p = none := by
  refine Monitored.bind gate_call fun r p hp => ?_
  subst hp
  obtain ⟨t, _ | e⟩ := r
  · refine (gate_waitForXchainTransactionAcceptance runner t).bind fun err p hp => ?_
    cases err with
    | some e => exact monitored_pure _ fun h => nomatch h
    | none =>
      rw [hp rfl]
      refine Monitored.bind gate_call fun i p hp => ?_
      subst hp
      obtain ⟨t', _ | e⟩ := i
      · refine (gate_waitForPChainTransactionAcceptance runner t').bind fun err p hp => ?_
        cases err with
        | some e => exact monitored_pure _ fun h => nomatch h
        | none => exact monitored_pure _ fun _ => hp rfl
      · exact monitored_pure _ fun h => nomatch h
  · exact monitored_pure _ fun h => nomatch h

/-- The X-chain import is submitted once the P-chain export is committed, whatever the import
returns. -/
theorem gate_transferAvaPChainToXChain (xChainAddress : String) (amount : UInt64) :
    Monitored gate none (runner.transferAvaPChainToXChain consts xChainAddress amount)
      fun r p => r = none → p = none := by
  refine Monitored.bind gate_call fun r p hp => ?_
  subst hp
  obtain ⟨t, _ | e⟩ := r
  · refine (gate_waitForPChainTransactionAcceptance runner t).bind fun err p hp => ?_
    cases err with
    | some e => exact monitored_pure _ fun h => nomatch h
    | none =>
      rw [hp rfl]
      refine Monitored.bind gate_call fun i p hp => ?_
      subst hp
      refine (gate_waitForXchainTransactionAcceptance runner i.1).bind fun err p hp => ?_
      cases err with
      | some e => exact monitored_pure _ fun h => nomatch h
      | none => exact monitored_pure _ fun _ => hp rfl
  · exact monitored_pure _ fun h => nomatch h

theorem gate_importGenesisFunds :
    Monitored gate none (runner.importGenesisFunds consts) fun _ p => p = none := by
  refine Monitored.bind gate_call fun r p hp => ?_
  subst hp
  obtain ⟨_, _ | e⟩ := r
  · refine Monitored.bind gate_call fun r p hp => ?_
    subst hp
    obtain ⟨_, _ | e⟩ := r <;> exact monitored_pure _ rfl
  · exact monitored_pure _ rfl

/-- A staking operation, whose submission leaves its ID pending, opens the gate again when its
transaction is committed. -/
theorem gate_addStaker (delay period : Nat) {submit : UInt64 → UInt64 → Prog (TxID × Option Err)}
    (submitFailed : Err → Err) (acceptFailed : Err → TxID → Err)
    (hsubmit : ∀ a b, Monitored gate none (submit a b) fun r p => p = some (.p, r.1)) :
    Monitored gate none (runner.addStaker delay period submit submitFailed acceptFailed)
      fun r p => r = none → p = none := by
  refine Monitored.bind monitored_clock fun _ p hp => ?_
  subst hp
  refine (hsubmit _ _).bind fun r p hp => ?_
  subst hp
  obtain ⟨t, _ | e⟩ := r
  · refine (gate_waitForPChainTransactionAcceptance runner t).bind fun err p hp => ?_
    cases err with
    | some e => exact monitored_pure _ fun h => nomatch h
    | none =>
      rw [hp rfl]
      refine Monitored.bind monitored_clock fun _ p hp => ?_
      subst hp
      exact (monitored_sleepFor _).bind fun _ p hp => monitored_pure _ fun _ => hp
  · exact monitored_pure _ fun h => nomatch h

theorem gate_importGenesisFundsAndStartValidating (seedAmount stakeAmount : UInt64) :
    Monitored gate none (runner.importGenesisFundsAndStartValidating consts seedAmount stakeAmount)
      fun r p => r.2 = none → p = none := by
  refine Monitored.bind gate_call fun n p hp => ?_
  subst hp
  obtain ⟨nodeID, _ | e⟩ := n
  · refine (gate_importGenesisFunds runner consts).bind fun g p hp => ?_
    subst hp
    obtain ⟨_, _ | e⟩ := g
    · refine Monitored.bind gate_call fun q p hp => ?_
      subst hp
      obtain ⟨pAddr, _ | e⟩ := q
      · refine (gate_transferAvaXChainToPChain runner consts _ _).bind fun err p hp => ?_
        cases err with
        | some e => exact monitored_pure _ fun h => nomatch h
        | none =>
          rw [hp rfl]
          refine (gate_addStaker runner _ _ _ _ fun _ _ => gate_call).bind fun err p hp => ?_
          cases err with
          | some e => exact monitored_pure _ fun h => nomatch h
          | none => exact monitored_pure _ fun _ => hp rfl
      · exact monitored_pure _ fun h => nomatch h
    · exact monitored_pure _ fun h => nomatch h
  · exact monitored_pure _ fun h => nomatch h

end RPCWorkFlowRunner

/-- Every run of the runner's operations that submit several transactions submits each one
only after an acceptance poller saw the transaction submitted before it accepted by its ledger;
in particular, a cross-ledger transfer imports only once its export was accepted. -/
theorem submissions_gated_by_acceptance (runner : RPCWorkFlowRunner) (consts : NetworkConstants)
    (addresses : List String) (amount seedAmount stakeAmount : UInt64)
    (pChainAddress xChainAddress : String) :
    SubmitsGated (runner.fundXChainAddresses addresses amount) ∧
    SubmitsGated (runner.transferAvaXChainToPChain consts pChainAddress amount) ∧
    SubmitsGated (runner.transferAvaPChainToXChain consts xChainAddress amount) ∧
    SubmitsGated (runner.importGenesisFundsAndStartValidating consts seedAmount stakeAmount) :=
  ⟨(runner.gate_fundXChainAddresses addresses amount).submitsGated,
    (runner.gate_transferAvaXChainToPChain consts pChainAddress amount).submitsGated,
    (runner.gate_transferAvaPChainToXChain consts xChainAddress amount).submitsGated,
    (runner.gate_importGenesisFundsAndStartValidating consts seedAmount stakeAmount).submitsGated⟩

end AvalancheTesting
