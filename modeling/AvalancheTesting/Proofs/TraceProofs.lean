import AvalancheTesting.Proofs.MonitorProofs

/-!
# Proofs: what every run of a program appends to the trace

`Runs x Q` says that every run of `x`, against every node and from every world, appends calls
`evs` to the trace, and that `Q` relates the run's outcome (the value returned, or the panic that
stopped it) to `evs`. Unlike `Monitored`, it covers programs that may panic, such as
`ExecuteTest`, whose slices are indexed without checks. The judgment has a rule of consequence,
one rule per former of programs, and a bridge from the pollers' runs, so that the loops of
`ExecuteTest` are proved from the rules.
-/

namespace AvalancheTesting

open Prog

/-- Every run of `x` appends calls `evs` to the trace, and `Q` relates its outcome to them. -/
def Runs (x : Prog α) (Q : Except Panic α → List Event → Prop) : Prop :=
  ∀ node w, ∃ evs, (run node x w).2.trace = w.trace ++ evs ∧ Q (run node x w).1 evs

/-! ## The rules -/

section Rules

variable {x : Prog α} {P Q : Except Panic α → List Event → Prop}

theorem Runs.mono (h : Runs x P) (hPQ : ∀ r evs, P r evs → Q r evs) : Runs x Q :=
  fun node w => (h node w).imp fun _ h => ⟨h.1, hPQ _ _ h.2⟩

theorem runs_pure (a : α) (h : Q (.ok a) []) : Runs (Pure.pure a) Q :=
  fun _ _ => ⟨[], (List.append_nil _).symm, h⟩

theorem runs_panic (p : Panic) (h : Q (.error p) []) : Runs (Prog.panic p : Prog α) Q :=
  fun _ _ => ⟨[], (List.append_nil _).symm, h⟩

/-- A run of `x >>= f` is a run of `x` that panicked, or one that returned `a` followed by a run
of `f a`. -/
theorem Runs.bind {f : α → Prog β} {R : Except Panic β → List Event → Prop} (hx : Runs x P)
    (hf : ∀ a evs, P (.ok a) evs → Runs (f a) fun r evs' => R r (evs ++ evs'))
    (hp : ∀ p evs, P (.error p) evs → R (.error p) evs) : Runs (x >>= f) R := by
  intro node w
  obtain ⟨evs, htr, hP⟩ := hx node w
  rw [run_bind]
  generalize run node x w = X at htr hP
  obtain ⟨_ | a, w'⟩ := X
  · exact ⟨evs, htr, hp _ _ hP⟩
  · obtain ⟨evs', htr', hR⟩ := hf a evs hP node w'
    exact ⟨evs ++ evs', by rw [htr', htr, List.append_assoc], hR⟩

theorem runs_call_bind {cl : Client} {c : Call} {f : c.Ret × Option Err → Prog α}
    (h : ∀ r t, Runs (f r) fun o evs => Q o (⟨cl, c, r.1, r.2, t⟩ :: evs)) :
    Runs (Prog.call cl c >>= f) Q := fun node w =>
  let ⟨evs, htr, hQ⟩ := h (node.answer w.trace.length cl c) w.clock node
    (w.record cl c _ (node.latency w.trace.length))
  ⟨_, by rw [run_call_bind, htr, World.record_trace, List.append_assoc]; rfl, hQ⟩

theorem runs_clock_bind {f : Nat → Prog α} (h : ∀ t, Runs (f t) Q) : Runs (Prog.clock >>= f) Q :=
  fun node w => by rw [run_clock_bind]; exact h _ node _

theorem runs_sleepFor_bind {d : Nat} {f : Unit → Prog α} (h : Runs (f ()) Q) :
    Runs (Prog.sleepFor d >>= f) Q :=
  fun node w => by rw [run_sleepFor_bind]; exact h node _

/-- A poller returns after status queries only, and returns `nil` only after one of them
returned an accepting status without error. -/
theorem runs_of_pollerRun {x : Prog (Option Err)} {cl : Client} {c : Call}
    {accept : c.Ret → Bool} (hx : ∀ node w, ∃ qs, PollerRun cl c accept w.trace (run node x w) qs) :
    Runs x fun r evs => ∃ (qs : List (c.Ret × Option Err × Nat)) (a : Option Err), r = .ok a ∧
      evs = qs.map (queryEvent cl c) ∧
      (a = none → ∃ q ∈ qs, accept q.1 = true ∧ q.2.1 = none) := fun node w =>
  let ⟨qs, hp⟩ := hx node w
  let ⟨a, ha⟩ := hp.returns
  ⟨_, hp.trace, qs, a, ha, rfl, fun hn => hp.accepted (hn ▸ ha)⟩

end Rules

end AvalancheTesting
