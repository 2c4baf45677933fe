import Dntpd.Library.TraceProc

/-!
# Procedures that do not depend on a part of the state

`Insensitive keep p` is a property of two runs: from states with the same `keep`, the procedure `p`
returns the same, performs the same events, and leaves states with the same `keep`.  Like a frame it
is closed under the ways procedures are put together, with one rule for a read: what follows it may
use the state only as far as `keep` determines it (`read_bind`).
-/

universe u v

namespace Proc

variable {σ ε α β : Type u} {κ : Type v}

/-- From states with the same `keep` the runs of `p` agree. -/
structure Insensitive (keep : σ → κ) (p : Proc σ ε α) : Prop where
  ret : ∀ s t, keep s = keep t → (p s).ret = (p t).ret
  state : ∀ s t, keep s = keep t → keep (p s).state = keep (p t).state
  trace : ∀ s t, keep s = keep t → (p s).trace = (p t).trace

namespace Insensitive

variable {keep : σ → κ}

theorem pure (a : α) : Insensitive keep (Pure.pure a : Proc σ ε α) :=
  ⟨fun _ _ _ => rfl, fun _ _ h => h, fun _ _ _ => rfl⟩

theorem emit (e : ε) : Insensitive keep (Proc.emit e : Proc σ ε PUnit) :=
  ⟨fun _ _ _ => rfl, fun _ _ h => h, fun _ _ _ => rfl⟩

theorem update {f : σ → σ} (hf : ∀ s t, keep s = keep t → keep (f s) = keep (f t)) :
    Insensitive keep (Proc.update f : Proc σ ε PUnit) :=
  ⟨fun _ _ _ => rfl, hf, fun _ _ _ => rfl⟩

theorem bind {p : Proc σ ε α} {f : α → Proc σ ε β} (hp : Insensitive keep p)
    (hf : ∀ a, Insensitive keep (f a)) : Insensitive keep (p >>= f) where
  ret s t h := by
    rw [bind_ret, bind_ret, ← hp.ret s t h]
    exact (hf _).ret _ _ (hp.state s t h)
  state s t h := by
    rw [bind_state, bind_state, ← hp.ret s t h]
    exact (hf _).state _ _ (hp.state s t h)
  trace s t h := by
    rw [bind_trace, bind_trace, ← hp.ret s t h, hp.trace s t h,
      (hf _).trace _ _ (hp.state s t h)]

/-- What follows a read is the same for states with the same `keep`. -/
theorem read_bind {f : σ → Proc σ ε β} (hf : ∀ s, Insensitive keep (f s))
    (hread : ∀ s t, keep s = keep t → f s = f t) : Insensitive keep (Proc.read >>= f) where
  ret s t h := by
    rw [bind_ret, bind_ret, read_ret, read_ret, ← hread s t h]
    exact (hf s).ret s t h
  state s t h := by
    rw [bind_state, bind_state, read_ret, read_ret, ← hread s t h]
    exact (hf s).state s t h
  trace s t h := by
    rw [bind_trace, bind_trace, read_ret, read_ret, ← hread s t h]
    exact (hf s).trace s t h

theorem ite {c : Prop} [Decidable c] {p q : Proc σ ε α} (hp : Insensitive keep p)
    (hq : Insensitive keep q) : Insensitive keep (if c then p else q) := by
  split_ifs
  · exact hp
  · exact hq

end Insensitive

end Proc
