import Dntpd.Library.Zoom

/-!
# Procedures that conduct an automaton

`next` is an automaton over the events of a procedure, which some events take from one state to
another, and which has no way out for the others.  `Conducts next k p k'` says that from every state
the trace of `p` takes the automaton from `k` to `k'`, which may depend on what `p` returns; so the
procedure performs no event that the automaton has no way out for.  This is proved along the text of
the procedure.
-/

universe u v

namespace Proc

variable {σ ε α β : Type u} {κ : Type v} {next : κ → ε → Option κ}

/-- The state that a trace takes the automaton to, if it gets through. -/
def advance (next : κ → ε → Option κ) : κ → List ε → Option κ
  | k, [] => some k
  | k, e :: tr => (next k e).bind fun k' => advance next k' tr

theorem advance_append (k : κ) (tr tr' : List ε) :
    advance next k (tr ++ tr') = (advance next k tr).bind fun k' => advance next k' tr' := by
  induction tr generalizing k with
  | nil => rfl
  | cons e tr ih =>
    show (next k e).bind _ = ((next k e).bind _).bind _
    cases next k e with
    | none => rfl
    | some k' => exact ih k'

theorem advance_map {ε' : Type u} (f : ε' → ε) (k : κ) (tr : List ε') :
    advance next k (tr.map f) = advance (fun k e => next k (f e)) k tr := by
  induction tr generalizing k with
  | nil => rfl
  | cons e tr ih =>
    show (next k (f e)).bind _ = (next k (f e)).bind _
    cases next k (f e) with
    | none => rfl
    | some k' => exact ih k'

/-- From every state the trace of `p` takes the automaton from `k` to `k'`. -/
def Conducts (next : κ → ε → Option κ) (k : κ) (p : Proc σ ε α) (k' : α → κ) : Prop :=
  ∀ s, advance next k (p s).trace = some (k' (p s).ret)

namespace Conducts

variable {k : κ} {k' : α → κ} {k'' : β → κ}

theorem pure (a : α) (h : k = k' a) : Conducts next k (Pure.pure a : Proc σ ε α) k' := by
  subst h
  exact fun _ => rfl

theorem read : Conducts next k (Proc.read : Proc σ ε σ) fun _ => k := fun _ => rfl

theorem update (f : σ → σ) : Conducts next k (Proc.update f : Proc σ ε PUnit) fun _ => k :=
  fun _ => rfl

theorem emit {e : ε} {l : κ} (h : next k e = some l) :
    Conducts next k (Proc.emit e : Proc σ ε PUnit) fun _ => l := by
  intro s
  show (next k e).bind _ = _
  rw [h]
  rfl

theorem bind {p : Proc σ ε α} {f : α → Proc σ ε β} (hp : Conducts next k p k')
    (hf : ∀ a, Conducts next (k' a) (f a) k'') : Conducts next k (p >>= f) k'' := by
  intro s
  rw [bind_trace, advance_append, hp s]
  exact hf _ _

/-- After a procedure that always returns the same. -/
theorem bind_of_ret {p : Proc σ ε α} {f : α → Proc σ ε β} {a : α} (hp : Conducts next k p k')
    (ha : ∀ s, (p s).ret = a) (hf : Conducts next (k' a) (f a) k'') :
    Conducts next k (p >>= f) k'' := by
  intro s
  rw [bind_trace, bind_ret, advance_append, hp s, ha s]
  exact hf _

theorem ite {c : Prop} [Decidable c] {p q : Proc σ ε α} (hp : c → Conducts next k p k')
    (hq : ¬ c → Conducts next k q k') : Conducts next k (if c then p else q) k' := by
  split_ifs with hc
  · exact hp hc
  · exact hq hc

/-- A procedure on a part of the state conducts what the automaton makes of its events. -/
theorem zoom {τ ε' : Type u} {get : σ → τ} {set : σ → τ → σ} {f : ε' → ε} {p : Proc τ ε' α}
    (hp : Conducts (fun k e => next k (f e)) k p k') :
    Conducts next k (Proc.zoom get set f p) k' := by
  intro s
  show advance next k ((p (get s)).trace.map f) = _
  rw [advance_map]
  exact hp (get s)

end Conducts

end Proc
