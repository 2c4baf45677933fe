import Dntpd.Library.ProcFrame

/-!
# Procedures on a part of the state

A program is put together from procedures that know only a part of its state and have events of
their own.  `Proc.zoom get set f p` runs `p` on the part `get` of a larger state, and its events
among those of the program.  What is proved of `p` holds of it there: its frames
(`Frame.zoom`), and what its trace has none of.
-/

universe u v

namespace Proc

variable {σ τ ε ε' α β : Type u} {κ : Type v}

/-- `p` on a part of the state, with its events among others. -/
def zoom (get : σ → τ) (set : σ → τ → σ) (f : ε → ε') (p : Proc τ ε α) : Proc σ ε' α := fun s =>
  let o := p (get s)
  ⟨o.ret, set s o.state, o.trace.map f⟩

section

variable {get : σ → τ} {set : σ → τ → σ} {f : ε → ε'}

@[simp] theorem zoom_ret (p : Proc τ ε α) (s : σ) : (zoom get set f p s).ret = (p (get s)).ret :=
  rfl

@[simp] theorem zoom_state (p : Proc τ ε α) (s : σ) :
    (zoom get set f p s).state = set s (p (get s)).state := rfl

@[simp] theorem zoom_trace (p : Proc τ ε α) (s : σ) :
    (zoom get set f p s).trace = (p (get s)).trace.map f := rfl

/-- The events of the procedure are of a kind in the program. -/
theorem Frame.zoom_of_events {E : ε' → Prop} (p : Proc τ ε α) (hE : ∀ e, E (f e)) :
    Frame (fun _ => ()) E (Proc.zoom get set f p) where
  state _ := rfl
  trace s e' he' := by
    obtain ⟨e, -, rfl⟩ := List.mem_map.mp he'
    exact hE e

/-- A frame of the procedure is one in the program. -/
theorem Frame.zoom {keep : τ → κ} {E : ε → Prop} {E' : ε' → Prop} {p : Proc τ ε α}
    (hp : Frame keep E p) (hset : ∀ s t, get (set s t) = t) (hE : ∀ e, E e → E' (f e)) :
    Frame (fun s => keep (get s)) E' (Proc.zoom get set f p) where
  state s := by
    show keep (get (set s (p (get s)).state)) = _
    rw [hset]
    exact hp.state _
  trace s e' he' := by
    obtain ⟨e, he, rfl⟩ := List.mem_map.mp he'
    exact hE e (hp.trace _ e he)

/-- On the whole state, the procedure is read back off its events among the others. -/
theorem Erases.zoom {g : ε' → Option ε} (p : Proc σ ε α) (hg : ∀ e, g (f e) = some e) :
    Erases g (Proc.zoom id (fun _ s => s) f p) p where
  agrees _ := ⟨rfl, rfl⟩
  trace s := by
    show ((p s).trace.map f).filterMap g = (p s).trace
    rw [List.filterMap_map, show g ∘ f = some from funext hg, List.filterMap_some]

end

end Proc
