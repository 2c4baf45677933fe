import Dntpd.Library.CInt
import Dntpd.Library.ProcFrame

/-!
# Procedures that note their 64-bit arithmetic

Signed overflow is undefined in C, so it says little that a function computes the right value on
the two's-complement reading.  Here the trace of a procedure has the exact result of every signed
64-bit operation (`op`), and the places where it gives up on an exact result (`clamp`).

`ExactRun p s a s'` says that `p` computes `a` and `s'` from `s` and that no operation on the way
leaves the range, `ExactAs p q s` that it computes what `q` does, whose events are others.  Both are
proved along the text of the procedures.
-/

namespace Int64Trace

open CInt Proc

/-- A signed 64-bit operation with this exact result, or a bound in the place of a result. -/
inductive Int64Op
  | int64 (x : ℤ)
  | clamp
  deriving DecidableEq

/-- The operation does not overflow. -/
def Int64Op.Exact : Int64Op → Prop
  | .int64 x => InInt64 x
  | .clamp => False

variable {σ α β : Type}

/-- An operation with the exact result `x`. -/
def op (x : ℤ) : Proc σ Int64Op ℤ := do
  Proc.emit (.int64 x)
  return int64 x

/-- A bound in the place of the result. -/
def clamp (bound : ℤ) : Proc σ Int64Op ℤ := do
  Proc.emit .clamp
  return bound

/-- From `s` the procedure returns `a` and leaves `s'`, and every operation is exact. -/
structure ExactRun (p : Proc σ Int64Op α) (s : σ) (a : α) (s' : σ) : Prop where
  ret : (p s).ret = a
  state : (p s).state = s'
  trace : ∀ o ∈ (p s).trace, o.Exact

namespace ExactRun

variable {s s' s'' : σ} {a : α} {b : β}

theorem pure : ExactRun (Pure.pure a) s a s := ⟨rfl, rfl, fun _ ho => absurd ho List.not_mem_nil⟩

theorem bind {p : Proc σ Int64Op α} {f : α → Proc σ Int64Op β} (hp : ExactRun p s a s')
    (hf : ExactRun (f a) s' b s'') : ExactRun (p >>= f) s b s'' where
  ret := by
    rw [bind_ret, hp.ret, hp.state]
    exact hf.ret
  state := by
    rw [bind_state, hp.ret, hp.state]
    exact hf.state
  trace o ho := by
    rw [bind_trace, hp.ret, hp.state] at ho
    rcases List.mem_append.mp ho with ho | ho
    · exact hp.trace o ho
    · exact hf.trace o ho

theorem op {x : ℤ} (h : InInt64 x) : ExactRun (op x) s x s where
  ret := int64_eq h
  state := rfl
  trace o ho := by
    rw [List.mem_singleton.mp ho]
    exact h

/-- An operation that does not overflow hands its exact result on. -/
theorem op_bind {x : ℤ} {f : ℤ → Proc σ Int64Op β} (h : InInt64 x)
    (hf : ExactRun (f x) s b s') : ExactRun (Int64Trace.op x >>= f) s b s' :=
  (op h).bind hf

theorem read_bind {f : σ → Proc σ Int64Op β} (hf : ExactRun (f s) s b s') :
    ExactRun (Proc.read >>= f) s b s' :=
  ⟨hf.ret, hf.state, hf.trace⟩

theorem update_bind {g : σ → σ} {f : PUnit → Proc σ Int64Op β} (hf : ExactRun (f ⟨⟩) (g s) b s') :
    ExactRun (Proc.update g >>= f) s b s' :=
  ⟨hf.ret, hf.state, hf.trace⟩

theorem ite_pos {c : Prop} [Decidable c] {p q : Proc σ Int64Op α} (hc : c)
    (hp : ExactRun p s a s') : ExactRun (if c then p else q) s a s' := by
  rwa [if_pos hc]

theorem ite_neg {c : Prop} [Decidable c] {p q : Proc σ Int64Op α} (hc : ¬ c)
    (hq : ExactRun q s a s') : ExactRun (if c then p else q) s a s' := by
  rwa [if_neg hc]

end ExactRun

/-- From `s` the procedure `p` does what `q` does, and every operation of it is exact. -/
def ExactAs {ε : Type} (p : Proc σ Int64Op α) (q : Proc σ ε α) (s : σ) : Prop :=
  ExactRun p s (q s).ret (q s).state

namespace ExactAs

variable {ε : Type} {s s' : σ} {a : α}

theorem pure : ExactAs (Pure.pure a) (Pure.pure a : Proc σ ε α) s := ExactRun.pure

theorem bind {p : Proc σ Int64Op α} {q : Proc σ ε α} {f : α → Proc σ Int64Op β}
    {g : α → Proc σ ε β} (hp : ExactAs p q s)
    (hf : ExactAs (f (q s).ret) (g (q s).ret) (q s).state) : ExactAs (p >>= f) (q >>= g) s :=
  ExactRun.bind hp hf

/-- What only the first of them does. -/
theorem run_bind {p : Proc σ Int64Op α} {f : α → Proc σ Int64Op β} {q : Proc σ ε β}
    (hp : ExactRun p s a s) (hf : ExactAs (f a) q s) : ExactAs (p >>= f) q s :=
  ExactRun.bind hp hf

theorem op_bind {x : ℤ} {f : ℤ → Proc σ Int64Op β} {q : Proc σ ε β} (h : InInt64 x)
    (hf : ExactAs (f x) q s) : ExactAs (Int64Trace.op x >>= f) q s :=
  ExactRun.op_bind h hf

/-- What only the second of them does. -/
theorem emit_bind {e : ε} {p : Proc σ Int64Op β} {g : PUnit → Proc σ ε β}
    (hf : ExactAs p (g ⟨⟩) s) : ExactAs p (Proc.emit e >>= g) s := hf

theorem ite {c c' : Prop} [Decidable c] [Decidable c'] {p p' : Proc σ Int64Op α}
    {q q' : Proc σ ε α} (hc : c ↔ c') (hp : c' → ExactAs p q s) (hq : ¬ c' → ExactAs p' q' s) :
    ExactAs (if c then p else p') (if c' then q else q') s := by
  by_cases h : c'
  · rw [if_pos (hc.mpr h), if_pos h]
    exact hp h
  · rw [if_neg (mt hc.mp h), if_neg h]
    exact hq h

end ExactAs

end Int64Trace
