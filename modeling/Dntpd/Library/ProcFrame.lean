import Dntpd.Library.TraceProc
import Dntpd.Library.LockTrace

/-!
# Frames and lock discipline of procedures

`Frame keep E p` bounds what `p` does from every state: the part `keep` of the state is left as it
is, and every event is in `E`.  `Preserves I p` says that `p` keeps the invariant `I`.  `Guarded op
p` says that the operations of `p` on one lock, read off its events by `op`, are disciplined.
`Agrees p q` says that two procedures with events of different kinds do the same to the state, and
`Erases f p q` that the events of `q` are those `f` reads off the events of `p`.  All are closed
under the ways procedures are put together, so they are proved along the text of a procedure, call
by call.
-/

universe u v

namespace Proc

variable {σ ε α β : Type u} {κ κ' : Type v}

/-! ### Frames -/

/-- `p` leaves the part `keep` of the state as it is and performs only events in `E`. -/
structure Frame (keep : σ → κ) (E : ε → Prop) (p : Proc σ ε α) : Prop where
  state : ∀ s, keep (p s).state = keep s
  trace : ∀ s, ∀ e ∈ (p s).trace, E e

namespace Frame

variable {keep : σ → κ} {E : ε → Prop}

theorem pure (a : α) : Frame keep E (Pure.pure a : Proc σ ε α) :=
  ⟨fun _ => rfl, fun _ _ he => absurd he List.not_mem_nil⟩

theorem read : Frame keep E (Proc.read : Proc σ ε σ) :=
  ⟨fun _ => rfl, fun _ _ he => absurd he List.not_mem_nil⟩

theorem update {f : σ → σ} (hf : ∀ s, keep (f s) = keep s) :
    Frame keep E (Proc.update f : Proc σ ε PUnit) :=
  ⟨hf, fun _ _ he => absurd he List.not_mem_nil⟩

theorem emit {e : ε} (he : E e) : Frame keep E (Proc.emit e : Proc σ ε PUnit) :=
  ⟨fun _ => rfl, fun _ _ he' => by rwa [List.mem_singleton.mp he']⟩

theorem bind {p : Proc σ ε α} {f : α → Proc σ ε β} (hp : Frame keep E p)
    (hf : ∀ a, Frame keep E (f a)) : Frame keep E (p >>= f) where
  state s := ((hf _).state _).trans (hp.state s)
  trace s e he := by
    rcases List.mem_append.mp he with he | he
    · exact hp.trace s e he
    · exact (hf _).trace _ e he

theorem ite {c : Prop} [Decidable c] {p q : Proc σ ε α} (hp : Frame keep E p)
    (hq : Frame keep E q) : Frame keep E (if c then p else q) := by
  split_ifs
  · exact hp
  · exact hq

/-- A frame may be stated of less of the state and of more events. -/
theorem mono {E' : ε → Prop} {p : Proc σ ε α} (hp : Frame keep E p) (g : κ → κ')
    (hE : ∀ e, E e → E' e) : Frame (fun s => g (keep s)) E' p where
  state s := congrArg g (hp.state s)
  trace s e he := hE e (hp.trace s e he)

/-- What no event of a procedure is, its trace has none of. -/
theorem filterMap_eq_nil {γ : Type*} {p : Proc σ ε α} (hp : Frame keep E p) {f : ε → Option γ}
    (hf : ∀ e, E e → f e = none) (s : σ) : (p s).trace.filterMap f = [] :=
  List.filterMap_eq_nil_iff.mpr fun e he => hf e (hp.trace s e he)

end Frame

/-! ### Invariants -/

/-- From a state in `I` the procedure leads to one in `I`. -/
def Preserves (I : σ → Prop) (p : Proc σ ε α) : Prop := ∀ s, I s → I (p s).state

namespace Preserves

variable {I : σ → Prop}

theorem pure (a : α) : Preserves I (Pure.pure a : Proc σ ε α) := fun _ hs => hs

theorem read : Preserves I (Proc.read : Proc σ ε σ) := fun _ hs => hs

theorem update {f : σ → σ} (hf : ∀ s, I s → I (f s)) :
    Preserves I (Proc.update f : Proc σ ε PUnit) := hf

theorem bind {p : Proc σ ε α} {f : α → Proc σ ε β} (hp : Preserves I p)
    (hf : ∀ a, Preserves I (f a)) : Preserves I (p >>= f) := fun s hs =>
  hf _ _ (hp s hs)

theorem ite {c : Prop} [Decidable c] {p q : Proc σ ε α} (hp : Preserves I p)
    (hq : Preserves I q) : Preserves I (if c then p else q) := by
  split_ifs
  · exact hp
  · exact hq

/-- A branch may rely on its condition. -/
theorem ite_of {c : Prop} [Decidable c] {p q : Proc σ ε α} (hp : c → Preserves I p)
    (hq : ¬ c → Preserves I q) : Preserves I (if c then p else q) := by
  split_ifs with h
  · exact hp h
  · exact hq h

/-- An invariant of a part of the state that is left as it is. -/
theorem of_frame {keep : σ → κ} {E : ε → Prop} {p : Proc σ ε α} (hp : Frame keep E p)
    (hI : ∀ s s', keep s' = keep s → I s → I s') : Preserves I p := fun s hs =>
  hI s _ (hp.state s) hs

end Preserves

/-! ### Results -/

/-- From every state `p` returns a result in `P`. -/
def Returns (P : α → Prop) (p : Proc σ ε α) : Prop := ∀ s, P (p s).ret

namespace Returns

variable {P : α → Prop} {Q : β → Prop}

theorem pure {a : α} (ha : P a) : Returns P (Pure.pure a : Proc σ ε α) := fun _ => ha

theorem bind {p : Proc σ ε α} {f : α → Proc σ ε β} (hp : Returns P p)
    (hf : ∀ a, P a → Returns Q (f a)) : Returns Q (p >>= f) := fun s => hf _ (hp s) _

/-- What a procedure returns need not matter for what its continuation returns. -/
theorem of_bind {p : Proc σ ε α} {f : α → Proc σ ε β} (hf : ∀ a, Returns Q (f a)) :
    Returns Q (p >>= f) := fun _ => hf _ _

theorem ite {c : Prop} [Decidable c] {p q : Proc σ ε α} (hp : Returns P p)
    (hq : Returns P q) : Returns P (if c then p else q) := by
  split_ifs
  · exact hp
  · exact hq

end Returns

/-- A continuation need only be framed on what is returned to it. -/
theorem Frame.bind_returns {keep : σ → κ} {E : ε → Prop} {P : α → Prop} {p : Proc σ ε α}
    {f : α → Proc σ ε β} (hp : Frame keep E p) (hP : Returns P p)
    (hf : ∀ a, P a → Frame keep E (f a)) : Frame keep E (p >>= f) where
  state s := ((hf _ (hP s)).state _).trans (hp.state s)
  trace s e he := by
    rcases List.mem_append.mp he with he | he
    · exact hp.trace s e he
    · exact (hf _ (hP s)).trace _ e he

/-! ### Procedures that differ in their events -/

/-- The procedures return and leave the same from every state, whatever their events are. -/
def Agrees {ε' : Type u} (p : Proc σ ε α) (q : Proc σ ε' α) : Prop :=
  ∀ s, (p s).ret = (q s).ret ∧ (p s).state = (q s).state

namespace Agrees

variable {ε' : Type u} {p : Proc σ ε α} {q : Proc σ ε' α}

theorem pure (a : α) : Agrees (Pure.pure a : Proc σ ε α) (Pure.pure a : Proc σ ε' α) :=
  fun _ => ⟨rfl, rfl⟩

theorem read : Agrees (Proc.read : Proc σ ε σ) (Proc.read : Proc σ ε' σ) := fun _ => ⟨rfl, rfl⟩

theorem update (f : σ → σ) :
    Agrees (Proc.update f : Proc σ ε PUnit) (Proc.update f : Proc σ ε' PUnit) :=
  fun _ => ⟨rfl, rfl⟩

theorem bind {f : α → Proc σ ε β} {g : α → Proc σ ε' β} (hp : Agrees p q)
    (hf : ∀ a, Agrees (f a) (g a)) : Agrees (p >>= f) (q >>= g) := by
  intro s
  rw [bind_ret, bind_ret, bind_state, bind_state, (hp s).1, (hp s).2]
  exact hf _ _

theorem ite {c : Prop} [Decidable c] {p' : Proc σ ε α} {q' : Proc σ ε' α} (hp : Agrees p q)
    (hq : Agrees p' q') : Agrees (if c then p else p') (if c then q else q') := by
  split_ifs
  · exact hp
  · exact hq

/-- An event in front makes no difference. -/
theorem emit_bind {e : ε} {f : PUnit → Proc σ ε α} (hf : Agrees (f ⟨⟩) q) :
    Agrees (Proc.emit e >>= f) q := hf

end Agrees

/-- The procedures agree, and `f` reads the events of `q` off those of `p`, which may have further
ones. -/
structure Erases {ε' : Type u} (f : ε → Option ε') (p : Proc σ ε α) (q : Proc σ ε' α) : Prop where
  agrees : Agrees p q
  trace : ∀ s, (p s).trace.filterMap f = (q s).trace

namespace Erases

variable {ε' : Type u} {f : ε → Option ε'} {p : Proc σ ε α} {q : Proc σ ε' α}

theorem pure (a : α) : Erases f (Pure.pure a : Proc σ ε α) (Pure.pure a : Proc σ ε' α) :=
  ⟨.pure a, fun _ => rfl⟩

theorem read : Erases f (Proc.read : Proc σ ε σ) (Proc.read : Proc σ ε' σ) :=
  ⟨.read, fun _ => rfl⟩

theorem update (g : σ → σ) :
    Erases f (Proc.update g : Proc σ ε PUnit) (Proc.update g : Proc σ ε' PUnit) :=
  ⟨.update g, fun _ => rfl⟩

theorem bind {k : α → Proc σ ε β} {l : α → Proc σ ε' β} (hp : Erases f p q)
    (hk : ∀ a, Erases f (k a) (l a)) : Erases f (p >>= k) (q >>= l) where
  agrees := .bind hp.agrees fun a => (hk a).agrees
  trace s := by
    rw [bind_trace, bind_trace, List.filterMap_append, hp.trace, (hp.agrees s).1,
      (hp.agrees s).2, (hk _).trace]

theorem ite {c : Prop} [Decidable c] {p' : Proc σ ε α} {q' : Proc σ ε' α} (hp : Erases f p q)
    (hq : Erases f p' q') : Erases f (if c then p else p') (if c then q else q') := by
  split_ifs
  · exact hp
  · exact hq

/-- An event that is not read makes no difference in front. -/
theorem emit_bind {e : ε} {k : PUnit → Proc σ ε α} (he : f e = none) (hk : Erases f (k ⟨⟩) q) :
    Erases f (Proc.emit e >>= k) q where
  agrees := .emit_bind hk.agrees
  trace s := by
    rw [← hk.trace s]
    exact List.filterMap_cons_none he

end Erases

/-! ### Lock discipline -/

/-- From every state the operations of `p` on the lock, read off by `op`, are disciplined. -/
def Guarded (op : ε → Option LockTrace.Op) (p : Proc σ ε α) : Prop :=
  ∀ s, LockTrace.Disciplined ((p s).trace.filterMap op)

namespace Guarded

variable {op : ε → Option LockTrace.Op}

theorem of_frame {keep : σ → κ} {E : ε → Prop} {p : Proc σ ε α} (hp : Frame keep E p)
    (hE : ∀ e, E e → op e = none) : Guarded op p := by
  intro s
  rw [hp.filterMap_eq_nil hE]
  rfl

theorem pure (a : α) : Guarded op (Pure.pure a : Proc σ ε α) := fun _ => rfl

theorem read : Guarded op (Proc.read : Proc σ ε σ) := fun _ => rfl

theorem update (f : σ → σ) : Guarded op (Proc.update f : Proc σ ε PUnit) := fun _ => rfl

theorem bind {p : Proc σ ε α} {f : α → Proc σ ε β} (hp : Guarded op p)
    (hf : ∀ a, Guarded op (f a)) : Guarded op (p >>= f) := by
  intro s
  rw [bind_trace, List.filterMap_append]
  exact (hp s).append (hf _ _)

theorem ite {c : Prop} [Decidable c] {p q : Proc σ ε α} (hp : Guarded op p)
    (hq : Guarded op q) : Guarded op (if c then p else q) := by
  split_ifs
  · exact hp
  · exact hq

end Guarded

end Proc
