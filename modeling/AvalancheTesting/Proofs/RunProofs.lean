import AvalancheTesting.Proofs.PollerLawProofs
import AvalancheTesting.Helpers.WorkFlowRunner

/-!
# Proofs: runs of programs, and the pollers as their callers see them

A run only appends to the trace, stamping each call at or after the clock it starts from
(`run_trace_after`); and a run of `x >>= f` in which `x` returned `a` goes on as a run of `f a`
(`run_bind_of_fst`). The callers of an acceptance poller
rely on `PollerRun`, the part of `PollRun` that does not depend on the poller's messages: the
poller only queries the transaction's status, always returns, returns `nil` only after a query
returned an accepting status, and makes no query after a failed one.
-/

namespace AvalancheTesting

open Prog

/-! ## Runs -/

section Run

variable (node : Node)

/-- A run appends the calls it makes to the trace, each stamped at or after the clock the run
starts from. -/
theorem run_trace_after (x : Prog α) (w : World) :
    ∃ evs, (run node x w).2.trace = w.trace ++ evs ∧ ∀ ev ∈ evs, w.clock ≤ ev.time := by
  induction x generalizing w with
  | pure a => exact ⟨[], (List.append_nil _).symm, List.forall_mem_nil _⟩
  | rpc cl c k ih =>
    obtain ⟨evs, h, hafter⟩ := ih (node.answer w.trace.length cl c)
      (w.record cl c _ (node.latency w.trace.length))
    exact ⟨_ :: evs, by rw [run, h, World.record_trace, List.append_assoc]; rfl,
      List.forall_mem_cons.2 ⟨Nat.le_refl _, fun ev hev => (Nat.le_add_right _ _).trans
        (hafter ev hev)⟩⟩
  | now k ih =>
    obtain ⟨evs, h, hafter⟩ := ih (w.clock + node.skew w.reads)
      { w with clock := w.clock + node.skew w.reads, reads := w.reads + 1 }
    exact ⟨evs, h, fun ev hev => (Nat.le_add_right _ _).trans (hafter ev hev)⟩
  | sleep d k ih =>
    obtain ⟨evs, h, hafter⟩ := ih { w with clock := w.clock + d }
    exact ⟨evs, h, fun ev hev => (Nat.le_add_right _ _).trans (hafter ev hev)⟩
  | rand k ih => exact ih (node.rand w.draws) { w with draws := w.draws + 1 }
  | abort p => exact ⟨[], (List.append_nil _).symm, List.forall_mem_nil _⟩

/-- A run appends the calls it makes to the trace. -/
theorem run_trace_append (x : Prog α) (w : World) :
    ∃ evs, (run node x w).2.trace = w.trace ++ evs :=
  (run_trace_after node x w).imp fun _ h => h.1

/-- A run of `call cl c >>= f` records the call first, stamped with the clock it starts from. -/
theorem run_call_bind_trace (cl : Client) (c : Call) (f : c.Ret × Option Err → Prog α)
    (w : World) : ∃ (r : c.Ret × Option Err) (evs : List Event),
      (run node (call cl c >>= f) w).2.trace = w.trace ++ ⟨cl, c, r.1, r.2, w.clock⟩ :: evs :=
  let r := node.answer w.trace.length cl c
  let ⟨evs, h⟩ := run_trace_append node (f r) (w.record cl c r (node.latency w.trace.length))
  ⟨r, evs, by rw [run_call_bind, h, World.record_trace, List.append_assoc]; rfl⟩

variable {node}

/-- A run of `x >>= f` in which `x` returned `a` goes on as a run of `f a`. -/
theorem run_bind_of_fst {x : Prog α} {w : World} {a : α} (h : (run node x w).1 = .ok a)
    (f : α → Prog β) : run node (x >>= f) w = run node (f a) (run node x w).2 := by
  rw [run_bind]
  generalize run node x w = R at h ⊢
  obtain ⟨r, w'⟩ := R
  dsimp only at h
  subst h
  rfl

end Run

/-! ## Concrete runs -/

/-- A reply to every call, for the nodes of concrete runs. -/
def Call.defaultReply : (c : Call) → c.Ret
  | .keystoreCreateUser _ => true
  | .xImportKey .. | .xCreateAddress _ | .pCreateAddress _ | .infoGetNodeID
  | .xExportKey .. => ""
  | .xListAddresses _ => []
  | .xSend .. | .xExportAVAX .. | .xImportAVAX .. | .pExportAVAX .. | .pImportAVAX ..
  | .pAddValidator .. | .pAddDelegator .. | .xIssueTx _ => TxID.empty
  | .xGetTxStatus _ => XStatus.unknown
  | .pGetTxStatus _ => PStatus.unknown
  | .pGetTxStatusWithReason .. => PStatusReply.mk .unknown ""
  | .xGetBalance .. | .pGetBalance _ => (0 : UInt64)
  | .xGetUTXOs .. => []

/-- The world before the first call, at time zero. -/
def World.initial : World := ⟨[], 0, 0, 0⟩

/-! ## The pollers, as their callers see them -/

/-- The outcome is `accepted` only after a result with an accepting status and no error. -/
theorem pollOutcome_accepted_mem {accept reject : S → Bool} {obs : List (S × Option Err)}
    (h : pollOutcome accept reject obs = .accepted) : ∃ o ∈ obs, accept o.1 = true ∧ o.2 = none := by
  induction obs with
  | nil => cases h
  | cons o obs ih =>
    obtain ⟨s, _ | e⟩ := o
    · by_cases ha : accept s
      · exact ⟨_, List.mem_cons_self _ _, ha, rfl⟩
      · by_cases hr : reject s
        · simp [pollOutcome, ha, hr] at h
        · obtain ⟨o, ho, h'⟩ := ih (by simpa [pollOutcome, ha, hr] using h)
          exact ⟨o, List.mem_cons_of_mem _ ho, h'⟩
    · cases h

@[simp] theorem PollOutcome.result_eq_none {onErr : Err → Err} {rejected : S → Err}
    {timedOut : Err} {o : PollOutcome S} : o.result onErr rejected timedOut = none ↔ o = .accepted := by
  cases o <;> simp [PollOutcome.result]

/-- What a caller relies on of a run `R` of an acceptance poller for call `c` through `cl`,
after the calls `tr`: it made only the queries `qs`, it returned, it returned `nil` only after a
query returned an accepting status, and a failed query was its last and made it return an
error. -/
structure PollerRun (cl : Client) (c : Call) (accept : c.Ret → Bool) (tr : List Event)
    (R : Except Panic (Option Err) × World) (qs : List (c.Ret × Option Err × Nat)) : Prop where
  trace : R.2.trace = tr ++ qs.map (queryEvent cl c)
  returns : ∃ r, R.1 = .ok r
  accepted : R.1 = .ok none → ∃ q ∈ qs, accept q.1 = true ∧ q.2.1 = none
  failed : ∀ pre q post, qs = pre ++ q :: post → q.2.1.isSome →
    post = [] ∧ ∃ e, R.1 = .ok (some e)

section PollerRun

variable {node : Node} {cl : Client} {c : Call} {onErr : Err → Err} {accept reject : c.Ret → Bool}
  {rejected : c.Ret → Err} {timedOut : Err} {timeout start : Nat}

/-- A run of the poll loop is a `PollerRun`. -/
theorem PollRun.pollerRun {tr : List Event} {R : Except Panic (Option Err) × World}
    {qs : List (c.Ret × Option Err × Nat)}
    (h : PollRun node cl c onErr accept reject rejected timedOut timeout start tr R qs) :
    PollerRun cl c accept tr R qs where
  trace := h.trace
  returns := ⟨_, h.result⟩
  accepted hnone := by
    rw [h.result, Except.ok.injEq, PollOutcome.result_eq_none] at hnone
    obtain ⟨o, ho, ha, hn⟩ := pollOutcome_accepted_mem hnone
    obtain ⟨q, hq, rfl⟩ := List.mem_map.1 ho
    exact ⟨q, hq, ha, hn⟩
  failed pre q post hqs herr := by
    have hpost : post = [] := by
      by_contra hne
      have hq : q.2.1 = none := (h.pending (queryResult q) (by
        rw [hqs, List.map_append, List.map_cons]
        exact mem_dropLast_append_cons (by simpa using hne))).1
      simp [hq] at herr
    subst hpost
    have hpre : ∀ o ∈ pre.map queryResult, Pending accept reject o := fun o ho =>
      h.pending o (by rw [hqs, List.map_append, List.map_singleton, List.dropLast_concat]; exact ho)
    obtain ⟨s, e, t⟩ := q
    obtain ⟨e, rfl⟩ := Option.isSome_iff_exists.1 herr
    rw [h.result, hqs, List.map_append, pollOutcome_pending_append hpre]
    exact ⟨rfl, _, rfl⟩

end PollerRun

variable (node : Node) (runner : RPCWorkFlowRunner) (txID : TxID) (w : World)

/-- `waitForXchainTransactionAcceptance` as its callers see it. -/
theorem waitForXchainTransactionAcceptance_pollerRun :
    ∃ qs, PollerRun runner.client (.xGetTxStatus txID) (fun (status : XStatus) => status == .accepted)
      w.trace (run node (runner.waitForXchainTransactionAcceptance txID) w) qs :=
  (pollLoop_started_run ..).imp fun _ h => h.pollerRun

/-- `waitForPChainTransactionAcceptance` as its callers see it. -/
theorem waitForPChainTransactionAcceptance_pollerRun :
    ∃ qs, PollerRun runner.client (.pGetTxStatus txID) (fun (status : PStatus) => status == .committed)
      w.trace (run node (runner.waitForPChainTransactionAcceptance txID) w) qs :=
  (pollLoop_started_run ..).imp fun _ h => h.pollerRun

end AvalancheTesting
