import AvalancheTesting.Helpers.Poller

/-!
# Proofs: the acceptance pollers

What a poll decides is a function of the results of its queries (`pollOutcome`): the first
failed query, accepting or rejecting status, or a time-out when there is none. A run of
`pollLoop` makes its queries before the deadline, stops at the first one that decides, and
returns the result of the outcome they decide (`pollLoop_run`); a time-out happens only once the
deadline has passed. The fuel of the loop never cuts a poll short (`pollLoop_fuel_enough`).
-/

namespace AvalancheTesting

open Prog

/-! ## What a poll decides -/

/-- How a poll ends. -/
inductive PollOutcome (S : Type) where
  | accepted
  | rejected (status : S)
  | failed (e : Err)
  | timedOut
  deriving DecidableEq, Repr

/-- The outcome a sequence of query results decides. -/
def pollOutcome (accept reject : S → Bool) : List (S × Option Err) → PollOutcome S
  | [] => .timedOut
  | (_, some e) :: _ => .failed e
  | (s, none) :: rest =>
    if accept s then .accepted else if reject s then .rejected s else pollOutcome accept reject rest

/-- The result a poller returns for an outcome, built with its messages. -/
def PollOutcome.result (onErr : Err → Err) (rejected : S → Err) (timedOut : Err) :
    PollOutcome S → Option Err
  | .accepted => none
  | .rejected s => some (rejected s)
  | .failed e => some (onErr e)
  | .timedOut => some timedOut

/-- The outcome with its status mapped by `f`. -/
def PollOutcome.map (f : S → T) : PollOutcome S → PollOutcome T
  | .accepted => .accepted
  | .rejected s => .rejected (f s)
  | .failed e => .failed e
  | .timedOut => .timedOut

/-- A query result on which the poll goes on. -/
def Pending (accept reject : S → Bool) (o : S × Option Err) : Prop :=
  o.2 = none ∧ accept o.1 = false ∧ reject o.1 = false

section Outcome

variable {accept reject : S → Bool}

@[simp] theorem pollOutcome_pending_cons {o : S × Option Err} (h : Pending accept reject o)
    (rest : List (S × Option Err)) :
    pollOutcome accept reject (o :: rest) = pollOutcome accept reject rest := by
  obtain ⟨s, e⟩ := o
  obtain ⟨rfl, h1, h2⟩ := h
  simp [pollOutcome, h1, h2]

/-- Pending results before the deciding one do not change the outcome. -/
theorem pollOutcome_pending_append {pre : List (S × Option Err)}
    (h : ∀ o ∈ pre, Pending accept reject o) (rest : List (S × Option Err)) :
    pollOutcome accept reject (pre ++ rest) = pollOutcome accept reject rest := by
  induction pre with
  | nil => rfl
  | cons o pre ih =>
    rw [List.cons_append, pollOutcome_pending_cons (h o (by simp))]
    exact ih fun o' ho' => h o' (by simp [ho'])

/-- A poll times out exactly when every result is pending. -/
theorem pollOutcome_eq_timedOut_iff (obs : List (S × Option Err)) :
    pollOutcome accept reject obs = .timedOut ↔ ∀ o ∈ obs, Pending accept reject o := by
  induction obs with
  | nil => simp [pollOutcome]
  | cons o obs ih =>
    obtain ⟨s, _ | e⟩ := o
    · by_cases ha : accept s <;> by_cases hr : reject s <;>
        simp [pollOutcome, Pending, ha, hr, ih]
    · simp [pollOutcome, Pending]

/-- The outcome of results whose statuses are mapped by `f` is the outcome mapped by `f`. -/
theorem pollOutcome_map (f : S → T) {accept' reject' : T → Bool}
    (ha : ∀ s, accept s = accept' (f s)) (hr : ∀ s, reject s = reject' (f s))
    (obs : List (S × Option Err)) :
    pollOutcome accept' reject' (obs.map fun o => (f o.1, o.2)) =
      (pollOutcome accept reject obs).map f := by
  induction obs with
  | nil => rfl
  | cons o obs ih =>
    obtain ⟨s, _ | e⟩ := o
    · simp only [List.map_cons, pollOutcome, ← ha, ← hr]
      split_ifs <;> simp_all [PollOutcome.map]
    · rfl

end Outcome

/-! ## Runs of the poll loop -/

/-- A query of a poll: its reply, its error and the clock when it was made. -/
def queryEvent (cl : Client) (c : Call) (q : c.Ret × Option Err × Nat) : Event :=
  ⟨cl, c, q.1, q.2.1, q.2.2⟩

/-- The result of a query. -/
def queryResult (q : S × Option Err × Nat) : S × Option Err := (q.1, q.2.1)

section PollLoop

variable (node : Node) (cl : Client) (c : Call) (onErr : Err → Err) (accept reject : c.Ret → Bool)
  (rejected : c.Ret → Err) (timedOut : Err) (timeout start : Nat)

/-- What a run `R` of the poll loop did after the calls `tr`: the queries `qs` it made, which
the node answered with its next answers, all made before the deadline `start + timeout`, every
one but the last pending; its result is that of the outcome they decide, and it times out only
past the deadline. -/
structure PollRun (tr : List Event) (R : Except Panic (Option Err) × World)
    (qs : List (c.Ret × Option Err × Nat)) : Prop where
  trace : R.2.trace = tr ++ qs.map (queryEvent cl c)
  answers : qs.map queryResult =
    (List.range qs.length).map fun k => node.answer (tr.length + k) cl c
  before : ∀ q ∈ qs, q.2.2 - start < timeout
  pending : ∀ o ∈ (qs.map queryResult).dropLast, Pending accept reject o
  result : R.1 = .ok ((pollOutcome accept reject (qs.map queryResult)).result onErr rejected
    timedOut)
  deadline : pollOutcome accept reject (qs.map queryResult) = .timedOut → timeout ≤ R.2.clock - start

variable {node cl c onErr accept reject rejected timedOut timeout start}

/-- The run of one poll that decides, with query `q`. -/
theorem PollRun.single (tr : List Event) (R : Except Panic (Option Err) × World)
    (q : c.Ret × Option Err × Nat) (htr : R.2.trace = tr ++ [queryEvent cl c q])
    (hq : queryResult q = node.answer tr.length cl c) (hbefore : q.2.2 - start < timeout)
    (hdecides : ¬ Pending accept reject (queryResult q))
    (hres : R.1 = .ok ((pollOutcome accept reject [queryResult q]).result onErr rejected
      timedOut)) :
    PollRun node cl c onErr accept reject rejected timedOut timeout start tr R [q] where
  trace := htr
  answers := by simp only [List.map_cons, List.map_nil, hq]; rfl
  before := by simpa using hbefore
  pending := by simp
  result := hres
  deadline h := absurd ((pollOutcome_eq_timedOut_iff _).1 h _ (by simp)) hdecides

/-- A pending poll followed by the run of the rest of the loop. -/
theorem PollRun.cons (tr tr' : List Event) (R : Except Panic (Option Err) × World)
    (q : c.Ret × Option Err × Nat) (qs : List (c.Ret × Option Err × Nat))
    (hw' : tr' = tr ++ [queryEvent cl c q])
    (hq : queryResult q = node.answer tr.length cl c) (hbefore : q.2.2 - start < timeout)
    (hpend : Pending accept reject (queryResult q))
    (h : PollRun node cl c onErr accept reject rejected timedOut timeout start tr' R qs) :
    PollRun node cl c onErr accept reject rejected timedOut timeout start tr R (q :: qs) where
  trace := by rw [h.trace, hw']; simp
  answers := by
    rw [List.length_cons, List.range_succ_eq_map, List.map_cons, List.map_cons, h.answers, hq,
      hw']
    simp [Function.comp_def, Nat.add_assoc, Nat.add_comm 1]
  before q' hq' := by
    rcases List.mem_cons.1 hq' with rfl | hq'
    · exact hbefore
    · exact h.before q' hq'
  pending o ho := by
    cases qs with
    | nil => simp at ho
    | cons q' qs =>
      rw [List.map_cons, List.map_cons, List.dropLast_cons₂, List.mem_cons] at ho
      rcases ho with rfl | ho
      · exact hpend
      · exact h.pending o (by rwa [List.map_cons])
  result := by rw [h.result, List.map_cons, pollOutcome_pending_cons hpend]
  deadline hout := h.deadline (by rwa [List.map_cons, pollOutcome_pending_cons hpend] at hout)

theorem PollRun.exists_cons {tr tr' : List Event} {R : Except Panic (Option Err) × World}
    (q : c.Ret × Option Err × Nat) (hw' : tr' = tr ++ [queryEvent cl c q])
    (hq : queryResult q = node.answer tr.length cl c) (hbefore : q.2.2 - start < timeout)
    (hpend : Pending accept reject (queryResult q))
    (h : ∃ qs, PollRun node cl c onErr accept reject rejected timedOut timeout start tr' R qs) :
    ∃ qs, PollRun node cl c onErr accept reject rejected timedOut timeout start tr R qs :=
  let ⟨qs, h⟩ := h
  ⟨q :: qs, PollRun.cons tr tr' R q qs hw' hq hbefore hpend h⟩

variable (node cl c onErr accept reject rejected timedOut timeout start)

/-- Every run of the poll loop is a `PollRun`, provided the fuel covers the time left: each
poll sleeps a second. -/
theorem pollLoop_run : ∀ (fuel : Nat) (w : World), start ≤ w.clock →
    timeout ≤ w.clock - start + fuel * second →
    ∃ qs, PollRun node cl c onErr accept reject rejected timedOut timeout start w.trace
      (run node (pollLoop cl c onErr accept reject rejected timedOut timeout start fuel) w) qs
  | 0, w, _, hfuel => ⟨[], by
      constructor <;> simp [pollLoop, pollOutcome, PollOutcome.result]
      omega⟩
  | fuel + 1, w, hstart, hfuel => by
    simp only [pollLoop, run_clock_bind]
    split_ifs with hlt
    · simp only [run_call_bind]
      generalize hr : node.answer w.trace.length cl c = r
      obtain ⟨s, _ | e⟩ := r
      · by_cases ha : accept s
        · refine ⟨[(s, none, w.clock + node.skew w.reads)], PollRun.single _ _ _ ?_ ?_ hlt ?_ ?_⟩ <;>
            simp [World.record, queryEvent, queryResult, Pending, pollOutcome,
              PollOutcome.result, ha, hr]
        by_cases hj : reject s
        · refine ⟨[(s, none, w.clock + node.skew w.reads)], PollRun.single _ _ _ ?_ ?_ hlt ?_ ?_⟩ <;>
            simp [World.record, queryEvent, queryResult, Pending, pollOutcome,
              PollOutcome.result, ha, hj, hr]
        simp only [ha, hj, Bool.false_eq_true, if_false, run_sleepFor_bind]
        refine PollRun.exists_cons (s, none, w.clock + node.skew w.reads)
          (by simp [World.record, queryEvent]) (by simp [queryResult, hr]) hlt
          (by simp [Pending, queryResult, ha, hj])
          (pollLoop_run fuel _ (by simp [World.record]; omega)
            (by simp [World.record]; rw [Nat.succ_mul] at hfuel; omega))
      · refine ⟨[(s, some e, w.clock + node.skew w.reads)], PollRun.single _ _ _ ?_ ?_ hlt ?_ ?_⟩ <;>
          simp [World.record, queryEvent, queryResult, Pending, pollOutcome,
            PollOutcome.result, hr]
    · refine ⟨[], ?_⟩
      constructor <;> simp [pollOutcome, PollOutcome.result]
      omega

/-- Fuel beyond what covers the time left changes nothing: the loop never reaches its last
branch. -/
theorem pollLoop_fuel_enough : ∀ (fuel m : Nat) (w : World), start ≤ w.clock →
    timeout ≤ w.clock - start + fuel * second →
    run node (pollLoop cl c onErr accept reject rejected timedOut timeout start (fuel + m)) w =
      run node (pollLoop cl c onErr accept reject rejected timedOut timeout start fuel) w
  | 0, 0, _, _, _ => rfl
  | 0, m + 1, w, _, hfuel => by
    simp only [Nat.zero_add, pollLoop, run_clock_bind]
    rw [if_neg (by simp at hfuel; omega)]
  | fuel + 1, m, w, hstart, hfuel => by
    rw [Nat.add_right_comm]
    simp only [pollLoop, run_clock_bind]
    split_ifs
    · simp only [run_call_bind]
      obtain ⟨s, _ | e⟩ := node.answer w.trace.length cl c
      · dsimp only
        split_ifs
        · rfl
        · rfl
        · simp only [run_sleepFor_bind]
          exact pollLoop_fuel_enough fuel m _ (by simp [World.record]; omega)
            (by simp [World.record]; rw [Nat.succ_mul] at hfuel; omega)
      · rfl
    · rfl

end PollLoop

/-! ## When the queries are made -/

/-- When a poll makes its queries `qs` and when it ends (`t'`), for a poll whose next read of the
clock is the node's `r`-th, made at clock `t`, and whose next call is the node's `n`-th: each query
is made at the read of the clock before it; after a pending query the poller sleeps a second and
reads the clock again; it ends at that read when no query follows, and as soon as a query that
decides returns. -/
def PollSchedule (node : Node) (accept reject : S → Bool) :
    Nat → Nat → Nat → List (S × Option Err × Nat) → Nat → Prop
  | t, _, r, [], t' => t' = t + node.skew r
  | t, n, r, q :: qs, t' => q.2.2 = t + node.skew r ∧
    (Pending accept reject (queryResult q) →
      PollSchedule node accept reject (q.2.2 + node.latency n + second) (n + 1) (r + 1) qs t') ∧
    (¬ Pending accept reject (queryResult q) → qs = [] ∧ t' = q.2.2 + node.latency n)

section Schedule

variable {node : Node} {accept reject : S → Bool} {t n r : Nat} {q : S × Option Err × Nat}
  {qs : List (S × Option Err × Nat)} {t' : Nat}

theorem PollSchedule.decides (hq : q.2.2 = t + node.skew r)
    (hd : ¬ Pending accept reject (queryResult q)) :
    PollSchedule node accept reject t n r [q] (q.2.2 + node.latency n) :=
  ⟨hq, fun hp => absurd hp hd, fun _ => ⟨rfl, rfl⟩⟩

theorem PollSchedule.pending (hq : q.2.2 = t + node.skew r)
    (hp : Pending accept reject (queryResult q))
    (h : PollSchedule node accept reject (q.2.2 + node.latency n + second) (n + 1) (r + 1) qs t') :
    PollSchedule node accept reject t n r (q :: qs) t' :=
  ⟨hq, fun _ => h, fun hd => absurd hp hd⟩

end Schedule

section PollLoopSchedule

variable (node : Node) (cl : Client) (c : Call) (onErr : Err → Err) (accept reject : c.Ret → Bool)
  (rejected : c.Ret → Err) (timedOut : Err) (timeout start : Nat)

/-- Every run of the poll loop makes its queries on a `PollSchedule`, whatever its fuel. -/
theorem pollLoop_schedule : ∀ (fuel : Nat) (w : World), ∃ qs,
    (run node (pollLoop cl c onErr accept reject rejected timedOut timeout start fuel)
      w).2.trace = w.trace ++ qs.map (queryEvent cl c) ∧
    PollSchedule node accept reject w.clock w.trace.length w.reads qs
      (run node (pollLoop cl c onErr accept reject rejected timedOut timeout start fuel) w).2.clock
  | 0, _ => ⟨[], (List.append_nil _).symm, rfl⟩
  | fuel + 1, w => by
    simp only [pollLoop, run_clock_bind]
    by_cases hlt : w.clock + node.skew w.reads - start < timeout
    · rw [if_pos hlt, run_call_bind]
      generalize node.answer w.trace.length cl c = r
      obtain ⟨s, _ | e⟩ := r
      · dsimp only
        by_cases ha : accept s = true
        · rw [if_pos ha]
          exact ⟨[(s, none, _)], rfl, PollSchedule.decides rfl fun hp => by
            simp [Pending, queryResult, ha] at hp⟩
        by_cases hj : reject s = true
        · rw [if_neg ha, if_pos hj]
          exact ⟨[(s, none, _)], rfl, PollSchedule.decides rfl fun hp => by
            simp [Pending, queryResult, hj] at hp⟩
        rw [if_neg ha, if_neg hj, run_sleepFor_bind]
        obtain ⟨qs, htr, hs⟩ := pollLoop_schedule fuel
          { World.record { w with clock := w.clock + node.skew w.reads, reads := w.reads + 1 }
              cl c (s, none) (node.latency w.trace.length) with
            clock := w.clock + node.skew w.reads + node.latency w.trace.length + second }
        simp only [World.record_trace, World.record_reads, List.length_append,
          List.length_singleton] at htr hs
        exact ⟨(s, none, w.clock + node.skew w.reads) :: qs, htr.trans (by simp [queryEvent]),
          PollSchedule.pending rfl (by simp [Pending, queryResult, ha, hj]) hs⟩
      · exact ⟨[(s, some e, _)], rfl, PollSchedule.decides rfl fun hp => nomatch hp.1⟩
    · rw [if_neg hlt]
      exact ⟨[], (List.append_nil _).symm, rfl⟩

end PollLoopSchedule

/-! ## Two loops whose answers agree -/

section PollLoopMap

variable (node : Node) (cl : Client) (timeout start : Nat) (c₁ c₂ : Call)
  {onErr₁ onErr₂ : Err → Err} {accept₁ reject₁ : c₁.Ret → Bool} {accept₂ reject₂ : c₂.Ret → Bool}
  {rejected₁ : c₁.Ret → Err} {rejected₂ : c₂.Ret → Err} {timedOut₁ timedOut₂ : Err}

/-- The relation `pollLoop_run_map` establishes between two runs `R₁`, `R₂` started after the
calls `tr₁`, `tr₂`: the same queries, up to `f`, and the same final clock. -/
def SameQueries (cl : Client) (f : c₂.Ret → c₁.Ret) (tr₁ tr₂ : List Event)
    (R₁ R₂ : Except Panic (Option Err) × World) : Prop :=
  ∃ qs : List (c₂.Ret × Option Err × Nat),
    R₂.2.trace = tr₂ ++ qs.map (queryEvent cl c₂) ∧
    R₁.2.trace = tr₁ ++ qs.map (fun q => queryEvent cl c₁ (f q.1, q.2)) ∧
    R₁.2.clock = R₂.2.clock

theorem SameQueries.cons {c₁ c₂ : Call} {cl : Client} {f : c₂.Ret → c₁.Ret} {tr₁ tr₂ tr₁' tr₂' : List Event}
    {R₁ R₂ : Except Panic (Option Err) × World} (q : c₂.Ret × Option Err × Nat)
    (h₁ : tr₁' = tr₁ ++ [queryEvent cl c₁ (f q.1, q.2)]) (h₂ : tr₂' = tr₂ ++ [queryEvent cl c₂ q])
    (h : SameQueries c₁ c₂ cl f tr₁' tr₂' R₁ R₂) : SameQueries c₁ c₂ cl f tr₁ tr₂ R₁ R₂ :=
  let ⟨qs, hq₂, hq₁, hclock⟩ := h
  ⟨q :: qs, by simp [hq₂, h₂], by simp [hq₁, h₁], hclock⟩

/-- Two poll loops whose calls the node answers alike, up to `f`, and which accept and reject
alike, make the same queries at the same times and end at the same clock. -/
theorem pollLoop_run_map (f : c₂.Ret → c₁.Ret) (ha : ∀ s, accept₂ s = accept₁ (f s))
    (hr : ∀ s, reject₂ s = reject₁ (f s))
    (hans : ∀ n, node.answer n cl c₁ = (f (node.answer n cl c₂).1, (node.answer n cl c₂).2)) :
    ∀ (fuel : Nat) (w₁ w₂ : World), w₁.clock = w₂.clock → w₁.reads = w₂.reads →
    w₁.trace.length = w₂.trace.length →
    SameQueries c₁ c₂ cl f w₁.trace w₂.trace
      (run node (pollLoop cl c₁ onErr₁ accept₁ reject₁ rejected₁ timedOut₁ timeout start fuel) w₁)
      (run node (pollLoop cl c₂ onErr₂ accept₂ reject₂ rejected₂ timedOut₂ timeout start fuel) w₂)
  | 0, w₁, w₂, hc, hrd, _ => ⟨[], by simp [pollLoop, hc, hrd]⟩
  | fuel + 1, w₁, w₂, hc, hrd, hlen => by
    simp only [pollLoop, run_clock_bind, hc, hrd]
    split_ifs
    · simp only [run_call_bind, hans, hlen]
      obtain ⟨s, _ | e⟩ := node.answer w₂.trace.length cl c₂
      · dsimp only
        rw [← ha, ← hr]
        split_ifs
        · exact ⟨[(s, none, w₂.clock + node.skew w₂.reads)], by
            simp [World.record, queryEvent, hc]⟩
        · exact ⟨[(s, none, w₂.clock + node.skew w₂.reads)], by
            simp [World.record, queryEvent, hc]⟩
        · simp only [run_sleepFor_bind]
          refine SameQueries.cons (s, none, w₂.clock + node.skew w₂.reads)
            (by simp [World.record, queryEvent, hc]) (by simp [World.record, queryEvent])
            (pollLoop_run_map f ha hr hans fuel _ _ ?_ ?_ ?_) <;> simp [World.record, hc, hrd, hlen]
      · exact ⟨[(s, some e, w₂.clock + node.skew w₂.reads)], by
          simp [World.record, queryEvent, hc]⟩
    · exact ⟨[], by simp⟩

end PollLoopMap

end AvalancheTesting
