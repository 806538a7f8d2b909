import AvalancheTesting.Proofs.PollerProofs

/-!
# Proofs: the law of the acceptance pollers

`AcceptanceLaw` states, for one run of a poller, what the poller promises: it only queries the
transaction's status, before the deadline; it returns `nil` exactly when a query returns the
accepting status after pending ones; it returns the rejection error, and queries no more, as
soon as a query returns a rejecting status; a failed query ends it with that error; and it
times out exactly when every query was pending, which happens only past the deadline. It polls
on a `PollSchedule`: a query at each read of the clock, and after a pending one a second's sleep
and another read, so it stops only at a status that decides, a failed query or the deadline.

Every run of each of the three pollers obeys its law, and the two P-chain pollers, asked about
the same transaction through the same client, make the same queries and reach the same
outcome (`acceptance_pollers_law`).
-/

namespace AvalancheTesting

open Prog

theorem mem_dropLast_append_cons {x : α} {pre post : List α} (h : post ≠ []) :
    x ∈ (pre ++ x :: post).dropLast := by
  obtain ⟨y, ys, rfl⟩ := List.exists_cons_of_ne_nil h
  simp [List.dropLast_append_cons]

theorem queryEvent_injective (cl : Client) (c : Call) : Function.Injective (queryEvent cl c) := by
  rintro ⟨r, e, t⟩ ⟨r', e', t'⟩ h
  simp only [queryEvent, Event.mk.injEq, heq_eq_eq] at h
  obtain ⟨-, -, rfl, rfl, rfl⟩ := h
  rfl

/-- With every result but the last pending, the last one decides. -/
theorem pollOutcome_eq_last {accept reject : S → Bool} {obs : List (S × Option Err)}
    (hpend : ∀ o ∈ obs.dropLast, Pending accept reject o) (hne : obs ≠ []) :
    pollOutcome accept reject obs = pollOutcome accept reject [obs.getLast hne] := by
  conv_lhs => rw [← List.dropLast_append_getLast hne]
  exact pollOutcome_pending_append hpend _

section Law

variable (node : Node) (cl : Client) (c : Call) (onErr : Err → Err) (accept reject : c.Ret → Bool)
  (rejected : c.Ret → Err) (timedOut : Err) (timeout start : Nat)

/-- The law of an acceptance poller for its run `R` after the calls `tr`, with queries `qs`
(reply, error and clock of each) and deadline `start + timeout`, whose first read of the clock
after `start` is the node's `reads`-th. -/
structure AcceptanceLaw (reads : Nat) (tr : List Event) (R : Except Panic (Option Err) × World)
    (qs : List (c.Ret × Option Err × Nat)) : Prop where
  trace : R.2.trace = tr ++ qs.map (queryEvent cl c)
  answers : qs.map queryResult =
    (List.range qs.length).map fun k => node.answer (tr.length + k) cl c
  before : ∀ q ∈ qs, q.2.2 - start < timeout
  accepts_iff : R.1 = .ok none ↔ ∃ pre s post, qs.map queryResult = pre ++ (s, none) :: post ∧
    accept s = true ∧ ∀ o ∈ pre, Pending accept reject o
  rejects : ∀ pre s post, qs.map queryResult = pre ++ (s, none) :: post →
    (∀ o ∈ pre, Pending accept reject o) → accept s = false → reject s = true →
    post = [] ∧ R.1 = .ok (some (rejected s))
  fails : ∀ pre s e post, qs.map queryResult = pre ++ (s, some e) :: post →
    (∀ o ∈ pre, Pending accept reject o) → post = [] ∧ R.1 = .ok (some (onErr e))
  times_out_iff : R.1 = .ok (some timedOut) ↔ ∀ o ∈ qs.map queryResult, Pending accept reject o
  deadline : (∀ o ∈ qs.map queryResult, Pending accept reject o) → timeout ≤ R.2.clock - start
  /-- It queries at each read of the clock, reads the clock again a second after a pending
  query returned, and ends at the read after its last pending query or when a deciding query
  returns: it never stops polling before the deadline. -/
  schedule : PollSchedule node accept reject start tr.length reads qs R.2.clock

variable {node cl c onErr accept reject rejected timedOut timeout start}

/-- A run of the poll loop on a `PollSchedule` obeys the law, when no error it returns reads as
a time-out. -/
theorem PollRun.acceptanceLaw {reads : Nat} {tr : List Event}
    {R : Except Panic (Option Err) × World} {qs : List (c.Ret × Option Err × Nat)}
    (h : PollRun node cl c onErr accept reject rejected timedOut timeout start tr R qs)
    (hs : PollSchedule node accept reject start tr.length reads qs R.2.clock)
    (hfail : ∀ e, onErr e ≠ timedOut) (hrej : ∀ s, rejected s ≠ timedOut) :
    AcceptanceLaw node cl c onErr accept reject rejected timedOut timeout start reads tr R qs where
  trace := h.trace
  answers := h.answers
  before := h.before
  accepts_iff := by
    rw [h.result]
    constructor
    · intro hnone
      have hne : qs.map queryResult ≠ [] := fun h0 => by
        simp [h0, pollOutcome, PollOutcome.result] at hnone
      rw [pollOutcome_eq_last h.pending hne] at hnone
      generalize hlast : (qs.map queryResult).getLast hne = last at hnone
      obtain ⟨s, _ | e⟩ := last
      · by_cases ha : accept s
        · refine ⟨(qs.map queryResult).dropLast, s, [], ?_, ha, h.pending⟩
          rw [← hlast, List.dropLast_append_getLast]
        · by_cases hr : reject s <;> simp [pollOutcome, PollOutcome.result, ha, hr] at hnone
      · simp [pollOutcome, PollOutcome.result] at hnone
    · rintro ⟨pre, s, post, hobs, ha, hpre⟩
      rw [hobs, pollOutcome_pending_append hpre]
      simp [pollOutcome, PollOutcome.result, ha]
  rejects pre s post hobs hpre ha hr := by
    refine ⟨?_, by rw [h.result, hobs, pollOutcome_pending_append hpre]; simp [pollOutcome,
      PollOutcome.result, ha, hr]⟩
    by_contra hne
    have := (h.pending _ (hobs ▸ mem_dropLast_append_cons hne)).2.2
    simp [hr] at this
  fails pre s e post hobs hpre := by
    refine ⟨?_, by rw [h.result, hobs, pollOutcome_pending_append hpre]; rfl⟩
    by_contra hne
    have := (h.pending _ (hobs ▸ mem_dropLast_append_cons hne)).1
    simp at this
  times_out_iff := by
    rw [h.result, ← pollOutcome_eq_timedOut_iff]
    constructor
    · intro hr
      cases ho : pollOutcome accept reject (qs.map queryResult) <;>
        simp_all [PollOutcome.result]
    · intro ho
      rw [ho]
      rfl
  deadline hall := h.deadline ((pollOutcome_eq_timedOut_iff _).2 hall)
  schedule := hs

variable (node cl c onErr accept reject rejected timedOut timeout)

/-- A poller started by reading the clock: its loop's fuel covers its timeout. -/
theorem pollLoop_started_run (w : World) :
    ∃ qs, PollRun node cl c onErr accept reject rejected timedOut timeout
      (w.clock + node.skew w.reads) w.trace
      (run node (Prog.clock >>= fun start =>
        pollLoop cl c onErr accept reject rejected timedOut timeout start (pollFuel timeout)) w)
      qs := by
  rw [run_clock_bind]
  exact pollLoop_run node cl c onErr accept reject rejected timedOut timeout _ (pollFuel timeout)
    { w with clock := w.clock + node.skew w.reads, reads := w.reads + 1 } le_rfl
    (by simp [pollFuel, second]; omega)

variable {node cl c onErr accept reject rejected timedOut timeout} in
/-- The queries of a poller started by reading the clock are made on a `PollSchedule` from its
start, whose first read is the one after the start's. -/
theorem PollRun.started_schedule {w : World} {qs : List (c.Ret × Option Err × Nat)}
    (h : PollRun node cl c onErr accept reject rejected timedOut timeout
      (w.clock + node.skew w.reads) w.trace
      (run node (Prog.clock >>= fun start =>
        pollLoop cl c onErr accept reject rejected timedOut timeout start (pollFuel timeout)) w)
      qs) :
    PollSchedule node accept reject (w.clock + node.skew w.reads) w.trace.length (w.reads + 1) qs
      (run node (Prog.clock >>= fun start =>
        pollLoop cl c onErr accept reject rejected timedOut timeout start (pollFuel timeout))
        w).2.clock := by
  have htr := h.trace
  rw [run_clock_bind] at htr ⊢
  obtain ⟨qs', htr', hs⟩ := pollLoop_schedule node cl c onErr accept reject rejected timedOut
    timeout _ (pollFuel timeout)
    { w with clock := w.clock + node.skew w.reads, reads := w.reads + 1 }
  rwa [List.map_injective_iff.2 (queryEvent_injective cl c)
    (List.append_cancel_left (htr'.symm.trans htr))] at hs

end Law

/-! ## The three pollers -/

/-- The node answers the two P-chain status calls about `txID` through `cl` with the same status
and error. -/
def SameStatusAnswers (node : Node) (cl : Client) (txID : TxID) : Prop :=
  ∀ n, node.answer n cl (.pGetTxStatus txID) =
    (PStatusReply.status (node.answer n cl (.pGetTxStatusWithReason txID true)).1,
      (node.answer n cl (.pGetTxStatusWithReason txID true)).2)

/-- Every run of each acceptance poller obeys its law, with the poller's own statuses and
messages; and when the node answers the two P-chain status calls alike, the runner's P-chain
poller and the chain helper make the same queries, at the same times, and reach the same
outcome. -/
theorem acceptance_pollers_law (node : Node) (w : World) (runner : RPCWorkFlowRunner)
    (txID : TxID) (client : Client) (timeout : Nat) :
    (∃ qs, AcceptanceLaw node runner.client (.xGetTxStatus txID)
      (fun e => .propagate e "Failed to get status." [])
      (fun (status : XStatus) => status == .accepted)
      (fun (status : XStatus) => status == .rejected)
      (fun _ => .newError "Transaciton %s was rejected" [.tx txID])
      (.newError "Timed out waiting for transaction %s to be accepted on the XChain." [.tx txID])
      runner.networkAcceptanceTimeout (w.clock + node.skew w.reads) (w.reads + 1) w.trace
      (run node (runner.waitForXchainTransactionAcceptance txID) w) qs) ∧
    (∃ qs, AcceptanceLaw node runner.client (.pGetTxStatus txID)
      (fun e => .propagate e "Failed to get status" [])
      (fun (status : PStatus) => status == .committed)
      (fun (status : PStatus) => status == .dropped || status == .aborted)
      (fun (status : PStatus) =>
        .newError "Abandoned Tx: %s because it had status: %s" [.tx txID, .pStatus status])
      (.newError "Timed out waiting for transaction %s to be accepted on the PChain." [.tx txID])
      runner.networkAcceptanceTimeout (w.clock + node.skew w.reads) (w.reads + 1) w.trace
      (run node (runner.waitForPChainTransactionAcceptance txID) w) qs) ∧
    (∃ qs, AcceptanceLaw node client (.pGetTxStatusWithReason txID true)
      (fun e => .propagate e "Failed to get status" [])
      (fun (status : PStatusReply) => status.status == .committed)
      (fun (status : PStatusReply) => status.status == .dropped || status.status == .aborted)
      (fun (status : PStatusReply) =>
        .newError "Abandoned Tx: %s because it had status: %s. Reason: %s"
          [.tx txID, .pStatus status.status, .str status.reason])
      (.newError "Timed out waiting for transaction %s to be accepted on the PChain." [.tx txID])
      timeout (w.clock + node.skew w.reads) (w.reads + 1) w.trace
      (run node (PChain.awaitTransactionAcceptance client txID timeout) w) qs) ∧
    (SameStatusAnswers node runner.client txID →
      SameQueries (.pGetTxStatus txID) (.pGetTxStatusWithReason txID true) runner.client
        PStatusReply.status w.trace w.trace
        (run node (runner.waitForPChainTransactionAcceptance txID) w)
        (run node (PChain.awaitTransactionAcceptance runner.client txID
          runner.networkAcceptanceTimeout) w) ∧
      ∃ o : PollOutcome PStatusReply,
        (run node (PChain.awaitTransactionAcceptance runner.client txID
          runner.networkAcceptanceTimeout) w).1 =
          .ok (o.result (fun e => .propagate e "Failed to get status" [])
            (fun status => .newError "Abandoned Tx: %s because it had status: %s. Reason: %s"
              [.tx txID, .pStatus status.status, .str status.reason])
            (.newError "Timed out waiting for transaction %s to be accepted on the PChain."
              [.tx txID])) ∧
        (run node (runner.waitForPChainTransactionAcceptance txID) w).1 =
          .ok ((o.map PStatusReply.status).result (fun e => .propagate e "Failed to get status" [])
            (fun status => .newError "Abandoned Tx: %s because it had status: %s"
              [.tx txID, .pStatus status])
            (.newError "Timed out waiting for transaction %s to be accepted on the PChain."
              [.tx txID]))) := by
  refine ⟨?_, ?_, ?_, fun hsame => ?_⟩
  · exact (pollLoop_started_run ..).imp fun _ h =>
      h.acceptanceLaw h.started_schedule (by simp) (by simp)
  · exact (pollLoop_started_run ..).imp fun _ h =>
      h.acceptanceLaw h.started_schedule (by simp) (by simp)
  · exact (pollLoop_started_run ..).imp fun _ h =>
      h.acceptanceLaw h.started_schedule (by simp) (by simp)
  · have hmap : SameQueries (.pGetTxStatus txID) (.pGetTxStatusWithReason txID true) runner.client
        PStatusReply.status w.trace w.trace
        (run node (runner.waitForPChainTransactionAcceptance txID) w)
        (run node (PChain.awaitTransactionAcceptance runner.client txID
          runner.networkAcceptanceTimeout) w) := by
      simp only [RPCWorkFlowRunner.waitForPChainTransactionAcceptance,
        PChain.awaitTransactionAcceptance, run_clock_bind]
      refine pollLoop_run_map node runner.client runner.networkAcceptanceTimeout _
        (.pGetTxStatus txID) (.pGetTxStatusWithReason txID true) PStatusReply.status ?_ ?_ hsame _ _ _
        rfl rfl rfl <;> exact fun _ => rfl
    refine ⟨hmap, ?_⟩
    obtain ⟨qs, htrH, htrR, -⟩ := hmap
    obtain ⟨qsH, hH⟩ := pollLoop_started_run node runner.client
      (.pGetTxStatusWithReason txID true) (fun e => .propagate e "Failed to get status" [])
      (fun (status : PStatusReply) => status.status == .committed)
      (fun (status : PStatusReply) => status.status == .dropped || status.status == .aborted)
      (fun (status : PStatusReply) =>
        .newError "Abandoned Tx: %s because it had status: %s. Reason: %s"
          [.tx txID, .pStatus status.status, .str status.reason])
      (.newError "Timed out waiting for transaction %s to be accepted on the PChain." [.tx txID])
      runner.networkAcceptanceTimeout w
    obtain ⟨qsR, hR⟩ := pollLoop_started_run node runner.client (.pGetTxStatus txID)
      (fun e => .propagate e "Failed to get status" [])
      (fun (status : PStatus) => status == .committed)
      (fun (status : PStatus) => status == .dropped || status == .aborted)
      (fun (status : PStatus) =>
        .newError "Abandoned Tx: %s because it had status: %s" [.tx txID, .pStatus status])
      (.newError "Timed out waiting for transaction %s to be accepted on the PChain." [.tx txID])
      runner.networkAcceptanceTimeout w
    have hqsH : qsH = qs := List.map_injective_iff.2 (queryEvent_injective _ _)
      (List.append_cancel_left (hH.trace.symm.trans htrH))
    have hqsR : qsR = qs.map fun q => (q.1.status, q.2) := by
      have h : w.trace ++ qsR.map (queryEvent runner.client (.pGetTxStatus txID)) =
          w.trace ++ (qs.map fun q => (q.1.status, q.2)).map
            (queryEvent runner.client (.pGetTxStatus txID)) := by
        rw [List.map_map]
        exact hR.trace.symm.trans htrR
      exact List.map_injective_iff.2 (queryEvent_injective _ _) (List.append_cancel_left h)
    have hobs : (qsH.map fun q => (q.1.status, q.2)).map queryResult =
        (qsH.map queryResult).map fun o => (o.1.status, o.2) := by
      simp only [List.map_map]; rfl
    refine ⟨_, hH.result, hR.result.trans ?_⟩
    rw [hqsR, ← hqsH, hobs]
    exact congrArg (fun o => (Except.ok (PollOutcome.result _ _ _ o) : Except Panic (Option Err)))
      (pollOutcome_map PStatusReply.status (fun _ => rfl) (fun _ => rfl) _)

end AvalancheTesting
