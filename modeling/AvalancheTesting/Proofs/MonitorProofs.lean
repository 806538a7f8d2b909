import AvalancheTesting.Proofs.RunProofs

/-!
# Proofs: monitors of the calls a program makes

A monitor reads the calls of a run one at a time, in a state of its own, and refuses a call
that breaks the property it checks. `Monitored m s x Q` says that every run of `x`, against
every node and from every world, returns a value, and that from state `s` the monitor accepts
its calls and ends in a state that `Q` relates to the value. The judgment has a rule for each
step the runner's operations take (a value, sequencing, a call, a read of the clock, a sleep),
and a rule for the pollers (`monitored_pollerRun`), so that properties of the operations are
proved from the rules, without running the operations.
-/

namespace AvalancheTesting

open Prog

/-- A monitor of calls: the state after a call, or `none` when the call is refused. -/
def Monitor (σ : Type) : Type := σ → Event → Option σ

/-- The monitor run over the calls `evs`. -/
def Monitor.run (m : Monitor σ) : σ → List Event → Option σ
  | s, [] => some s
  | s, ev :: evs => (m s ev).bind fun s' => m.run s' evs

@[simp] theorem Monitor.run_nil (m : Monitor σ) (s : σ) : m.run s [] = some s := rfl

@[simp] theorem Monitor.run_cons (m : Monitor σ) (s : σ) (ev : Event) (evs : List Event) :
    m.run s (ev :: evs) = (m s ev).bind fun s' => m.run s' evs := rfl

theorem Monitor.run_append (m : Monitor σ) (s : σ) (a b : List Event) :
    m.run s (a ++ b) = (m.run s a).bind fun s' => m.run s' b := by
  induction a generalizing s with
  | nil => rfl
  | cons ev a ih =>
    simp only [List.cons_append, run_cons, ih]
    cases m s ev <;> rfl

/-- Every run of `x` returns, and from state `s` the monitor `m` accepts its calls and ends in a
state that `Q` relates to the value returned. -/
def Monitored (m : Monitor σ) (s : σ) (x : Prog α) (Q : α → σ → Prop) : Prop :=
  ∀ node w, ∃ evs s' a, (run node x w).1 = .ok a ∧ (run node x w).2.trace = w.trace ++ evs ∧
    m.run s evs = some s' ∧ Q a s'

/-! ## The rules -/

section Rules

variable {m : Monitor σ} {s : σ} {P Q : α → σ → Prop}

theorem monitored_pure (a : α) (h : Q a s) : Monitored m s (Pure.pure a) Q :=
  fun _ _ => ⟨[], s, a, rfl, (List.append_nil _).symm, rfl, h⟩

theorem Monitored.mono {x : Prog α} (h : Monitored m s x P) (hPQ : ∀ a s', P a s' → Q a s') :
    Monitored m s x Q := fun node w =>
  let ⟨evs, s', a, hres, htr, hrun, hP⟩ := h node w
  ⟨evs, s', a, hres, htr, hrun, hPQ a s' hP⟩

theorem Monitored.bind {x : Prog α} {f : α → Prog β} {R : β → σ → Prop} (hx : Monitored m s x P)
    (hf : ∀ a s', P a s' → Monitored m s' (f a) R) : Monitored m s (x >>= f) R := by
  intro node w
  obtain ⟨evs, s₁, a, hres, htr, hrun, hP⟩ := hx node w
  obtain ⟨evs', s₂, b, hres', htr', hrun', hR⟩ := hf a s₁ hP node (run node x w).2
  rw [run_bind_of_fst hres]
  refine ⟨evs ++ evs', s₂, b, hres', ?_, by rw [Monitor.run_append, hrun]; exact hrun', hR⟩
  rw [htr', htr, List.append_assoc]

theorem monitored_call (cl : Client) (c : Call) {Q : c.Ret × Option Err → σ → Prop}
    (h : ∀ (r : c.Ret × Option Err) t, ∃ s', m s ⟨cl, c, r.1, r.2, t⟩ = some s' ∧ Q r s') :
    Monitored m s (Prog.call cl c) Q := fun node w =>
  let ⟨s', hs', hQ⟩ := h (node.answer w.trace.length cl c) w.clock
  ⟨[_], s', _, rfl, rfl, by simp [hs'], hQ⟩

/-- Reading the clock makes no call. -/
theorem monitored_clock : Monitored m s Prog.clock fun _ s' => s' = s :=
  fun _ _ => ⟨[], s, _, rfl, (List.append_nil _).symm, rfl, rfl⟩

/-- Sleeping makes no call. -/
theorem monitored_sleepFor (d : Nat) : Monitored m s (Prog.sleepFor d) fun _ s' => s' = s :=
  fun _ _ => ⟨[], s, _, rfl, (List.append_nil _).symm, rfl, rfl⟩

/-- A program whose runs are `PollerRun`s is monitored when the monitor accepts every sequence
of status queries such a run can make, with its result. -/
theorem monitored_pollerRun {x : Prog (Option Err)} {cl : Client} {c : Call}
    {accept : c.Ret → Bool} {Q : Option Err → σ → Prop}
    (hx : ∀ node w, ∃ qs, PollerRun cl c accept w.trace (run node x w) qs)
    (h : ∀ (qs : List (c.Ret × Option Err × Nat)) (r : Option Err),
      (r = none → ∃ q ∈ qs, accept q.1 = true ∧ q.2.1 = none) →
      (∀ pre q post, qs = pre ++ q :: post → q.2.1.isSome → post = [] ∧ r.isSome) →
      ∃ s', m.run s (qs.map (queryEvent cl c)) = some s' ∧ Q r s') :
    Monitored m s x Q := by
  intro node w
  obtain ⟨qs, hp⟩ := hx node w
  obtain ⟨r, hr⟩ := hp.returns
  obtain ⟨s', hs', hQ⟩ := h qs r (fun hn => hp.accepted (hn ▸ hr)) fun pre q post hqs he => by
    obtain ⟨hpost, e, he'⟩ := hp.failed pre q post hqs he
    rw [hr] at he'
    cases he'
    exact ⟨hpost, rfl⟩
  exact ⟨_, s', r, hr, hp.trace, hs', hQ⟩

end Rules

end AvalancheTesting
