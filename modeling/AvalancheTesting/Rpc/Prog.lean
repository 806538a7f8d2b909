import AvalancheTesting.Rpc.Api

/-!
# Harness functions as programs over the node's API

A harness function is a `Prog`: a tree whose nodes are the effects the Go code performs (an API
call, a read of the clock, a `time.Sleep`, a `rand.Int` draw, a panic) and whose branches are
the continuations on each possible result. `Prog.run` interprets a program against a `Node`,
recording every API call in the world's trace.

The clock only moves forward: a call adds the node's `latency` for it, a read adds the node's
`skew` and a sleep adds its duration, so the clock of any run is monotone and advances by at
least `d` across a `time.Sleep(d)`. A call is recorded with the clock when it was made.
-/

namespace AvalancheTesting

/-- Why a run panicked. -/
inductive Panic where
  /-- `panic(err)`. -/
  | err (e : Err)
  /-- `index out of range [index] with length len`. -/
  | indexOutOfRange (index len : Nat)
  /-- A type assertion to `target` on an interface value that is nil or holds another type. -/
  | typeAssertion (target : String)
  deriving DecidableEq, Repr

/-- A harness function returning an `α`. -/
inductive Prog (α : Type) where
  | pure (a : α)
  | rpc (client : Client) (call : Call) (k : call.Ret × Option Err → Prog α)
  | now (k : Nat → Prog α)
  | sleep (d : Nat) (k : Prog α)
  | rand (k : Nat → Prog α)
  | abort (p : Panic)

namespace Prog

/-- Sequencing of programs. -/
def bind : Prog α → (α → Prog β) → Prog β
  | pure a, f => f a
  | rpc cl c k, f => rpc cl c fun r => bind (k r) f
  | now k, f => now fun t => bind (k t) f
  | sleep d k, f => sleep d (bind k f)
  | rand k, f => rand fun n => bind (k n) f
  | abort p, _ => abort p

instance : Monad Prog where
  pure := pure
  bind := bind

/-- Call `c` through `cl`: the value and the `error` the Go client method returns. -/
def call (cl : Client) (c : Call) : Prog (c.Ret × Option Err) := rpc cl c pure

/-- `time.Now()`. -/
def clock : Prog Nat := now pure

/-- `time.Sleep(d)`. -/
def sleepFor (d : Nat) : Prog Unit := sleep d (pure ())

/-- `rand.Int()`. -/
def randInt : Prog Nat := rand pure

/-- `panic`. -/
def panic (p : Panic) : Prog α := abort p

@[simp] theorem pure_bind (a : α) (f : α → Prog β) : (Prog.pure a >>= f) = f a := rfl

@[simp] theorem bind_pure' (a : α) (f : α → Prog β) : (Pure.pure a >>= f) = f a := rfl

theorem bind_eq (x : Prog α) (f : α → Prog β) : (x >>= f) = x.bind f := rfl

theorem bind_assoc (x : Prog α) (f : α → Prog β) (g : β → Prog γ) :
    (x >>= f >>= g) = (x >>= fun a => f a >>= g) := by
  simp only [bind_eq]
  induction x with
  | pure a => rfl
  | rpc cl c k ih => simp only [bind, ih]
  | now k ih => simp only [bind, ih]
  | sleep d k ih => simp only [bind, ih]
  | rand k ih => simp only [bind, ih]
  | abort p => rfl

end Prog

/-- The world after call `c` through `cl` got reply `r`, `d` after it was made: the call is
recorded with the clock when it was made. -/
def World.record (w : World) (cl : Client) (c : Call) (r : c.Ret × Option Err) (d : Nat) :
    World :=
  { w with trace := w.trace ++ [⟨cl, c, r.1, r.2, w.clock⟩], clock := w.clock + d }

@[simp] theorem World.record_trace (w : World) (cl : Client) (c : Call) (r : c.Ret × Option Err)
    (d : Nat) : (w.record cl c r d).trace = w.trace ++ [⟨cl, c, r.1, r.2, w.clock⟩] := rfl

@[simp] theorem World.record_clock (w : World) (cl : Client) (c : Call) (r : c.Ret × Option Err)
    (d : Nat) : (w.record cl c r d).clock = w.clock + d := rfl

@[simp] theorem World.record_reads (w : World) (cl : Client) (c : Call) (r : c.Ret × Option Err)
    (d : Nat) : (w.record cl c r d).reads = w.reads := rfl

@[simp] theorem World.record_draws (w : World) (cl : Client) (c : Call) (r : c.Ret × Option Err)
    (d : Nat) : (w.record cl c r d).draws = w.draws := rfl

namespace Prog

/-- Run a program against `node` from world `w`: its result, or the panic that stopped it, and
the final world. -/
def run (node : Node) : Prog α → World → Except Panic α × World
  | pure a, w => (.ok a, w)
  | rpc cl c k, w =>
    let r := node.answer w.trace.length cl c
    run node (k r) (w.record cl c r (node.latency w.trace.length))
  | now k, w =>
    let t := w.clock + node.skew w.reads
    run node (k t) { w with clock := t, reads := w.reads + 1 }
  | sleep d k, w => run node k { w with clock := w.clock + d }
  | rand k, w => run node (k (node.rand w.draws)) { w with draws := w.draws + 1 }
  | abort p, w => (.error p, w)

variable (node : Node)

@[simp] theorem run_pure (a : α) (w : World) : run node (Pure.pure a) w = (.ok a, w) := rfl

@[simp] theorem run_abort (p : Panic) (w : World) :
    run node (abort p : Prog α) w = (.error p, w) := rfl

@[simp] theorem run_call_bind (cl : Client) (c : Call) (f : c.Ret × Option Err → Prog α)
    (w : World) :
    run node (call cl c >>= f) w =
      run node (f (node.answer w.trace.length cl c))
        (w.record cl c (node.answer w.trace.length cl c) (node.latency w.trace.length)) := rfl

@[simp] theorem run_clock_bind (f : Nat → Prog α) (w : World) :
    run node (clock >>= f) w =
      run node (f (w.clock + node.skew w.reads))
        { w with clock := w.clock + node.skew w.reads, reads := w.reads + 1 } := rfl

@[simp] theorem run_sleepFor_bind (d : Nat) (f : Unit → Prog α) (w : World) :
    run node (sleepFor d >>= f) w = run node (f ()) { w with clock := w.clock + d } := rfl

@[simp] theorem run_panic_bind (p : Panic) (f : α → Prog β) (w : World) :
    run node (panic p >>= f) w = (.error p, w) := rfl

/-- Running `x >>= f` runs `x`, then `f` on its result, unless `x` panicked. -/
theorem run_bind (x : Prog α) (f : α → Prog β) (w : World) :
    run node (x >>= f) w =
      match run node x w with
      | (.ok a, w') => run node (f a) w'
      | (.error p, w') => (.error p, w') := by
  rw [bind_eq]
  induction x generalizing w with
  | pure a => rfl
  | rpc cl c k ih => exact ih _ _
  | now k ih => exact ih _ _
  | sleep d k ih => exact ih _
  | rand k ih => exact ih _ _
  | abort p => rfl

end Prog

end AvalancheTesting
