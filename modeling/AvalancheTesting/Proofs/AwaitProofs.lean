import AvalancheTesting.Proofs.TraceProofs

/-!
# Proofs: how often the pollers query, and how `AwaitXChainTxs` chains them

Each poll that decides nothing sleeps a second, and every query is made before the deadline:
both are read off the poller's `PollSchedule`. So the queries of an acceptance poller are at
least a second apart and there are at most `⌈timeout / 1 s⌉` of them, whatever the node answers
(`acceptance_pollers_query_rate`). For the same reason a poller returns less than its timeout
and a second after it was called, plus the time its last call and its reads of the clock take
(`acceptance_pollers_return_in_time`): a poll that times out can overrun the timeout by up to a
second.

`AwaitXChainTxs` and `AwaitPChainTxs` run the poller of each ID in turn. The calls of a run are
one block of status queries per ID waited for, in the order of the list; the loop stops at the
first wait that returns an error and returns that error unchanged, and returns `nil` only after
every wait did (`awaitTxs_wait_each_in_turn`). What one wait contributes is a `PollLog`: the
queries of a poll and the result of the outcome they decide.
-/

namespace AvalancheTesting

open Prog

/-! ## The rate of the queries -/

/-- Two calls at least a second apart. -/
def Spaced (a b : Event) : Prop := a.time + second ≤ b.time

/-- Calls pairwise at least a second apart, all made in the window `[lo, hi)`, number at most
`⌈(hi - lo) / 1 s⌉`. -/
theorem length_mul_lt_of_spaced {hi : Nat} :
    ∀ {evs : List Event} {lo : Nat}, evs.Pairwise Spaced →
      (∀ ev ∈ evs, lo ≤ ev.time ∧ ev.time < hi) → evs.length * second < hi - lo + second
  | [], _, _, _ => by simp [second]
  | [a], _, _, hwin => by
    have := hwin a (List.mem_singleton_self a)
    simp only [List.length_singleton, Nat.one_mul]
    omega
  | a :: b :: evs, lo, hsp, hwin => by
    have hab : Spaced a b := List.rel_of_pairwise_cons hsp (List.mem_cons_self b evs)
    have ha := hwin a (List.mem_cons_self _ _)
    have hb := hwin b (List.mem_cons_of_mem _ (List.mem_cons_self _ _))
    have ih := @length_mul_lt_of_spaced hi _ (a.time + second) (List.Pairwise.of_cons hsp)
      fun ev hev => ⟨List.rel_of_pairwise_cons hsp hev, (hwin ev (List.mem_cons_of_mem _ hev)).2⟩
    unfold Spaced at hab
    rw [List.length_cons _ (b :: evs), Nat.succ_mul]
    omega

section Schedule

variable {node : Node} {cl : Client} {c : Call} {accept reject : c.Ret → Bool} {ℓ δ : Nat}

/-- The queries of a `PollSchedule` from clock `t` are made at or after `t`, each at least a
second after the one before. -/
theorem PollSchedule.spaced (cl : Client) : ∀ {t n r : Nat} {qs : List (c.Ret × Option Err × Nat)}
    {t' : Nat}, PollSchedule node accept reject t n r qs t' →
      (qs.map (queryEvent cl c)).Pairwise Spaced ∧ ∀ q ∈ qs, t ≤ q.2.2
  | _, _, _, [], _, _ => ⟨List.Pairwise.nil, fun _ h => nomatch h⟩
  | _, _, _, q :: qs, _, ⟨hq, hp, hd⟩ => by
    by_cases hpend : Pending accept reject (queryResult q)
    · obtain ⟨hsp, hafter⟩ := PollSchedule.spaced cl (hp hpend)
      refine ⟨List.Pairwise.cons (fun ev hev => ?_) hsp, List.forall_mem_cons.2
        ⟨by omega, fun q' hq' => by have := hafter q' hq'; omega⟩⟩
      obtain ⟨q', hq', rfl⟩ := List.mem_map.1 hev
      have := hafter q' hq'
      simp only [Spaced, queryEvent]
      omega
    · obtain ⟨rfl, -⟩ := hd hpend
      exact ⟨List.pairwise_singleton _ _, by simp [hq]⟩

/-- A poll on a `PollSchedule` from clock `t`, whose queries are all made before `D`, with every
call taking at most `ℓ` and every read of the clock at most `δ`, ends at most `δ` after `t`, or
less than `ℓ`, a second and `δ` after `D`: a query is only followed by a sleep when it is pending. -/
theorem PollSchedule.end_lt (hℓ : ∀ n, node.latency n ≤ ℓ) (hδ : ∀ n, node.skew n ≤ δ) {D : Nat} :
    ∀ {t n r : Nat} {qs : List (c.Ret × Option Err × Nat)} {t' : Nat},
    PollSchedule node accept reject t n r qs t' → (∀ q ∈ qs, q.2.2 < D) →
      t' ≤ t + δ ∨ t' < D + ℓ + second + δ
  | _, _, r, [], _, h, _ => .inl (by have := hδ r; simp only [PollSchedule] at h; omega)
  | _, n, _, q :: qs, _, ⟨_, hp, hd⟩, hD => by
    have hqD := hD q (List.mem_cons_self _ _)
    have := hℓ n
    by_cases hpend : Pending accept reject (queryResult q)
    · refine .inr (((hp hpend).end_lt hℓ hδ fun q' h => hD q' (List.mem_cons_of_mem _ h)).elim
        (fun h => ?_) id)
      omega
    · obtain ⟨-, rfl⟩ := hd hpend
      exact .inr (by omega)

end Schedule

section PollLoop

variable (node : Node) (cl : Client) (c : Call) (onErr : Err → Err) (accept reject : c.Ret → Bool)
  (rejected : c.Ret → Err) (timedOut : Err) (timeout : Nat) {ℓ δ : Nat}

/-- A poller started by reading the clock makes at most `⌈timeout / 1 s⌉` queries, pairwise at
least a second apart. -/
theorem runs_pollLoop_started_spaced :
    Runs (Prog.clock >>= fun start =>
        pollLoop cl c onErr accept reject rejected timedOut timeout start (pollFuel timeout))
      fun _ evs => evs.Pairwise Spaced ∧ evs.length * second < timeout + second :=
  fun node w => by
    obtain ⟨qs, h⟩ := pollLoop_started_run node cl c onErr accept reject rejected timedOut timeout w
    obtain ⟨hsp, hafter⟩ := h.started_schedule.spaced cl
    have : (qs.map (queryEvent cl c)).length * second <
        w.clock + node.skew w.reads + timeout - (w.clock + node.skew w.reads) + second :=
      length_mul_lt_of_spaced hsp fun ev hev => by
        obtain ⟨q, hq, rfl⟩ := List.mem_map.1 hev
        have hafter := hafter q hq
        have hbefore := h.before q hq
        exact ⟨hafter, by simp only [queryEvent]; omega⟩
    exact ⟨_, h.trace, hsp, by omega⟩

/-- A poller started by reading the clock, under a node whose calls take at most `ℓ` and whose
reads of the clock take at most `δ`, returns less than `timeout`, a second, one call and two reads
of the clock after it was called. -/
theorem pollLoop_started_clock_lt (hℓ : ∀ n, node.latency n ≤ ℓ) (hδ : ∀ n, node.skew n ≤ δ)
    (w : World) :
    (run node (Prog.clock >>= fun start => pollLoop cl c onErr accept reject rejected timedOut
        timeout start (pollFuel timeout)) w).2.clock < w.clock + timeout + second + ℓ + 2 * δ := by
  obtain ⟨qs, h⟩ := pollLoop_started_run node cl c onErr accept reject rejected timedOut timeout w
  have hread := hδ w.reads
  have hsecond : 0 < second := by decide
  have hD : ∀ q ∈ qs, q.2.2 < w.clock + node.skew w.reads + timeout := fun q hq => by
    have := h.before q hq
    omega
  rcases h.started_schedule.end_lt hℓ hδ hD with h | h <;> omega

end PollLoop

/-- Each acceptance poller, whatever the node answers, makes its status queries at least a
second apart, and at most `⌈timeout / 1 s⌉` of them. -/
theorem acceptance_pollers_query_rate (runner : RPCWorkFlowRunner) (txID : TxID)
    (client : Client) (timeout : Nat) :
    Runs (runner.waitForXchainTransactionAcceptance txID) (fun _ evs => evs.Pairwise Spaced ∧
      evs.length * second < runner.networkAcceptanceTimeout + second) ∧
    Runs (runner.waitForPChainTransactionAcceptance txID) (fun _ evs => evs.Pairwise Spaced ∧
      evs.length * second < runner.networkAcceptanceTimeout + second) ∧
    Runs (PChain.awaitTransactionAcceptance client txID timeout) fun _ evs =>
      evs.Pairwise Spaced ∧ evs.length * second < timeout + second :=
  ⟨runs_pollLoop_started_spaced _ _ _ _ _ _ _ _, runs_pollLoop_started_spaced _ _ _ _ _ _ _ _,
    runs_pollLoop_started_spaced _ _ _ _ _ _ _ _⟩

/-- With every call taking at most `ℓ` and every read of the clock at most `δ`, each acceptance
poller returns less than its timeout, a second, `ℓ` and `2 δ` after it was called, whatever the
node answers. -/
theorem acceptance_pollers_return_in_time (runner : RPCWorkFlowRunner) (txID : TxID)
    (client : Client) (timeout : Nat) (node : Node) (ℓ δ : Nat) (hℓ : ∀ n, node.latency n ≤ ℓ)
    (hδ : ∀ n, node.skew n ≤ δ) (w : World) :
    (run node (runner.waitForXchainTransactionAcceptance txID) w).2.clock <
      w.clock + runner.networkAcceptanceTimeout + second + ℓ + 2 * δ ∧
    (run node (runner.waitForPChainTransactionAcceptance txID) w).2.clock <
      w.clock + runner.networkAcceptanceTimeout + second + ℓ + 2 * δ ∧
    (run node (PChain.awaitTransactionAcceptance client txID timeout) w).2.clock <
      w.clock + timeout + second + ℓ + 2 * δ :=
  ⟨pollLoop_started_clock_lt node _ _ _ _ _ _ _ _ hℓ hδ w,
    pollLoop_started_clock_lt node _ _ _ _ _ _ _ _ hℓ hδ w,
    pollLoop_started_clock_lt node _ _ _ _ _ _ _ _ hℓ hδ w⟩

/-- A node that leaves every X-chain transaction processing, whose calls and clock reads take no
time. -/
def processingNode : Node where
  answer _ _ c := match c with
    | .xGetTxStatus _ => (XStatus.processing, none)
    | c => (c.defaultReply, none)
  latency _ := 0
  skew _ := 0
  rand := id

/-- With a timeout of a second and a half and a transaction left processing, the X-chain poller
queries at 0 and 1 s and times out at 2 s, half a second past its timeout and within the
bound. -/
theorem acceptance_pollers_return_in_time_overrun :
    let runner : RPCWorkFlowRunner := ⟨⟨0⟩, ⟨"user", "pass"⟩, 3 * second / 2⟩
    let R := run processingNode (runner.waitForXchainTransactionAcceptance ⟨1⟩) World.initial
    R.1 = .ok (some (.newError
      "Timed out waiting for transaction %s to be accepted on the XChain." [.tx ⟨1⟩])) ∧
    runner.networkAcceptanceTimeout < R.2.clock ∧
      R.2.clock < World.initial.clock + runner.networkAcceptanceTimeout + second + 0 + 2 * 0 :=
  ⟨rfl, by decide, (acceptance_pollers_return_in_time ⟨⟨0⟩, ⟨"user", "pass"⟩, 3 * second / 2⟩
    ⟨1⟩ ⟨0⟩ 0 processingNode 0 0 (fun _ => le_rfl) (fun _ => le_rfl) World.initial).1⟩

/-! ## What one wait contributes -/

section PollLog

variable (cl : Client) (c : Call) (onErr : Err → Err) (accept reject : c.Ret → Bool)
  (rejected : c.Ret → Err) (timedOut : Err)

/-- The calls `evs` of a run of an acceptance poller for call `c` through `cl` that returned `e`:
status queries, every one but the last pending, and `e` the result of the outcome they decide. -/
def PollLog (e : Option Err) (evs : List Event) : Prop :=
  ∃ qs : List (c.Ret × Option Err × Nat), evs = qs.map (queryEvent cl c) ∧
    (∀ o ∈ (qs.map queryResult).dropLast, Pending accept reject o) ∧
    e = (pollOutcome accept reject (qs.map queryResult)).result onErr rejected timedOut

/-- A poller started by reading the clock returns, and its calls are a `PollLog`. -/
theorem runs_pollLoop_started_log (timeout : Nat) :
    Runs (Prog.clock >>= fun start =>
        pollLoop cl c onErr accept reject rejected timedOut timeout start (pollFuel timeout))
      fun r evs => ∃ e, r = .ok e ∧ PollLog cl c onErr accept reject rejected timedOut e evs :=
  fun node w =>
    let ⟨qs, h⟩ := pollLoop_started_run node cl c onErr accept reject rejected timedOut timeout w
    ⟨_, h.trace, _, h.result, qs, rfl, h.pending, rfl⟩

end PollLog

namespace RPCWorkFlowRunner

variable (runner : RPCWorkFlowRunner)

/-- A `PollLog` of `waitForXchainTransactionAcceptance txID`, with its call and messages. -/
def xChainPollLog (txID : TxID) : Option Err → List Event → Prop :=
  PollLog runner.client (.xGetTxStatus txID)
    (fun e => .propagate e "Failed to get status." [])
    (fun (status : XStatus) => status == .accepted)
    (fun (status : XStatus) => status == .rejected)
    (fun _ => .newError "Transaciton %s was rejected" [.tx txID])
    (.newError "Timed out waiting for transaction %s to be accepted on the XChain." [.tx txID])

/-- A `PollLog` of `waitForPChainTransactionAcceptance txID`, with its call and messages. -/
def pChainPollLog (txID : TxID) : Option Err → List Event → Prop :=
  PollLog runner.client (.pGetTxStatus txID)
    (fun e => .propagate e "Failed to get status" [])
    (fun (status : PStatus) => status == .committed)
    (fun (status : PStatus) => status == .dropped || status == .aborted)
    (fun (status : PStatus) =>
      .newError "Abandoned Tx: %s because it had status: %s" [.tx txID, .pStatus status])
    (.newError "Timed out waiting for transaction %s to be accepted on the PChain." [.tx txID])

theorem runs_waitForXchainTransactionAcceptance_log (txID : TxID) :
    Runs (runner.waitForXchainTransactionAcceptance txID) fun r evs =>
      ∃ e, r = .ok e ∧ runner.xChainPollLog txID e evs :=
  runs_pollLoop_started_log _ _ _ _ _ _ _ _

theorem runs_waitForPChainTransactionAcceptance_log (txID : TxID) :
    Runs (runner.waitForPChainTransactionAcceptance txID) fun r evs =>
      ∃ e, r = .ok e ∧ runner.pChainPollLog txID e evs :=
  runs_pollLoop_started_log _ _ _ _ _ _ _ _

end RPCWorkFlowRunner

/-! ## The loop over the IDs -/

/-- The runs of `awaitTxs` over `txIDs` that returned `r` after the calls `evs`, when a wait for
an ID that makes the calls `evs'` and returns `e` satisfies `W txID e evs'`: one case per way
the loop ends. -/
inductive AwaitLog (W : TxID → Option Err → List Event → Prop) :
    List TxID → Except Panic (Option Err) → List Event → Prop
  /-- Every ID was waited for. -/
  | done : AwaitLog W [] (.ok none) []
  /-- The wait for the first ID returned an error. -/
  | failed {txID txIDs e evs} : W txID (some e) evs → AwaitLog W (txID :: txIDs) (.ok (some e)) evs
  /-- The wait for the first ID returned `nil`, and the loop went on. -/
  | next {txID txIDs r evs evs'} : W txID none evs → AwaitLog W txIDs r evs' →
      AwaitLog W (txID :: txIDs) r (evs ++ evs')

/-- The calls `evs` and result `r` of the loop over `txIDs`, stated outright: it returns; when it
returns `nil`, the calls are one block per ID, in order, each a wait that returned `nil`; when it
returns an error, the IDs waited for are a prefix `pre ++ [txID]` of the list, the calls are one
block per ID of `pre`, each a wait that returned `nil`, then the block of the wait for `txID`,
which returned that error. -/
def AwaitOutcome (W : TxID → Option Err → List Event → Prop) (txIDs : List TxID)
    (r : Except Panic (Option Err)) (evs : List Event) : Prop :=
  (∃ e, r = .ok e) ∧
  (r = .ok none → ∃ blocks, List.Forall₂ (fun txID b => W txID none b) txIDs blocks ∧
    evs = blocks.flatten) ∧
  ∀ e, r = .ok (some e) → ∃ pre txID post blocks last, txIDs = pre ++ txID :: post ∧
    List.Forall₂ (fun txID b => W txID none b) pre blocks ∧ W txID (some e) last ∧
    evs = blocks.flatten ++ last

section AwaitLog

variable {W : TxID → Option Err → List Event → Prop}

/-- Every run of `awaitTxs` is an `AwaitLog` of what its waits do. -/
theorem runs_awaitTxs_log {wait : TxID → Prog (Option Err)}
    (hwait : ∀ txID, Runs (wait txID) fun r evs => ∃ e, r = .ok e ∧ W txID e evs) :
    ∀ txIDs : List TxID, Runs (RPCWorkFlowRunner.awaitTxs wait txIDs) (AwaitLog W txIDs)
  | [] => runs_pure _ .done
  | txID :: txIDs => by
    unfold RPCWorkFlowRunner.awaitTxs
    refine (hwait txID).bind (fun err evs ⟨_, h, hW⟩ => ?_) (fun _ _ ⟨_, h, _⟩ => nomatch h)
    cases Except.ok.inj h
    rcases err with _ | e
    · exact (runs_awaitTxs_log hwait txIDs).mono fun _ _ => .next hW
    · exact runs_pure _ (by rw [List.append_nil]; exact .failed hW)

theorem AwaitLog.outcome {txIDs : List TxID} {r : Except Panic (Option Err)} {evs : List Event}
    (h : AwaitLog W txIDs r evs) : AwaitOutcome W txIDs r evs := by
  induction h with
  | done => exact ⟨⟨_, rfl⟩, fun _ => ⟨[], .nil, rfl⟩, fun _ h => nomatch h⟩
  | @failed txID txIDs e evs hW =>
    refine ⟨⟨_, rfl⟩, (fun h => nomatch h), fun e' he => ?_⟩
    cases Option.some.inj (Except.ok.inj he)
    exact ⟨[], txID, txIDs, [], evs, rfl, .nil, hW, rfl⟩
  | @next txID _ _ evs _ hW _ ih =>
    refine ⟨ih.1, fun hn => ?_, fun e he => ?_⟩
    · obtain ⟨blocks, hblocks, rfl⟩ := ih.2.1 hn
      exact ⟨evs :: blocks, .cons hW hblocks, rfl⟩
    · obtain ⟨pre, t, post, blocks, last, rfl, hpre, hlast, rfl⟩ := ih.2.2 e he
      exact ⟨txID :: pre, t, post, evs :: blocks, last, rfl, .cons hW hpre, hlast,
        by rw [List.flatten_cons, List.append_assoc]⟩

end AwaitLog

/-- `AwaitXChainTxs` and `AwaitPChainTxs` wait for each ID in turn: every run returns; its calls
are one block of status queries per ID waited for, in the order of the list, each block what the
ID's poller did; it returns `nil` only after every poller returned `nil`, and otherwise stops at
the first poller that returned an error and returns that error. -/
theorem awaitTxs_wait_each_in_turn (runner : RPCWorkFlowRunner) (txIDs : List TxID) :
    Runs (runner.awaitXChainTxs txIDs) (AwaitOutcome runner.xChainPollLog txIDs) ∧
    Runs (runner.awaitPChainTxs txIDs) (AwaitOutcome runner.pChainPollLog txIDs) :=
  ⟨(runs_awaitTxs_log runner.runs_waitForXchainTransactionAcceptance_log txIDs).mono
      fun _ _ h => h.outcome,
    (runs_awaitTxs_log runner.runs_waitForPChainTransactionAcceptance_log txIDs).mono
      fun _ _ h => h.outcome⟩

end AvalancheTesting
