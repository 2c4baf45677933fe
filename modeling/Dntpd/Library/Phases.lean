import Dntpd.Library.ProcFrame

/-!
# Two phases of a run

A trace is in phases for two kinds of events if it can be cut so that no event of the kind `Q` is in
front of the cut, and none of the kind `P` behind it: what is of the kind `P` comes first.  Along
the text of a procedure, what has no `Q` may stand in front and what has no `P` behind.
-/

universe u v

namespace Proc

variable {σ ε α β : Type u} {P Q : ε → Prop} {p : Proc σ ε α} {f : α → Proc σ ε β}

/-- The trace can be cut so that no `Q` is in front and no `P` behind. -/
def InPhases (P Q : ε → Prop) (tr : List ε) : Prop :=
  ∃ xs ys, tr = xs ++ ys ∧ (∀ e ∈ xs, ¬ Q e) ∧ ∀ e ∈ ys, ¬ P e

/-- From every state the trace of `p` is in phases. -/
def Phased (P Q : ε → Prop) (p : Proc σ ε α) : Prop := ∀ s, InPhases P Q (p s).trace

/-- An event of the kind `Q` is never in front of one of the kind `P`. -/
theorem InPhases.pairwise {tr : List ε} (h : InPhases P Q tr) :
    tr.Pairwise fun e e' => Q e → ¬ P e' := by
  obtain ⟨xs, ys, rfl, hxs, hys⟩ := h
  refine List.pairwise_append.mpr ⟨?_, ?_, fun e he _ _ hQ => absurd hQ (hxs e he)⟩
  · exact List.pairwise_of_forall_mem_list fun e he _ _ hQ => absurd hQ (hxs e he)
  · exact List.pairwise_of_forall_mem_list fun _ _ e' he' _ => hys e' he'

namespace Phased

variable {κ : Type v} {keep : σ → κ}

/-- Without a `Q` there is one phase. -/
theorem of_frame (hp : Frame keep (fun e => ¬ Q e) p) : Phased P Q p := fun s =>
  ⟨_, [], (List.append_nil _).symm, hp.trace s, fun _ he => absurd he List.not_mem_nil⟩

theorem frame_bind (hp : Frame keep (fun e => ¬ Q e) p) (hf : ∀ a, Phased P Q (f a)) :
    Phased P Q (p >>= f) := by
  intro s
  obtain ⟨xs, ys, htr, hxs, hys⟩ := hf (p s).ret (p s).state
  refine ⟨(p s).trace ++ xs, ys, ?_, ?_, hys⟩
  · rw [bind_trace, htr, List.append_assoc]
  · exact List.forall_mem_append.mpr ⟨hp.trace s, hxs⟩

theorem bind_frame {κ' : Type*} {keep' : σ → κ'} (hp : Phased P Q p)
    (hf : ∀ a, Frame keep' (fun e => ¬ P e) (f a)) : Phased P Q (p >>= f) := by
  intro s
  obtain ⟨xs, ys, htr, hxs, hys⟩ := hp s
  refine ⟨xs, ys ++ (f (p s).ret (p s).state).trace, ?_, hxs, ?_⟩
  · rw [bind_trace, htr, List.append_assoc]
  · exact List.forall_mem_append.mpr ⟨hys, (hf _).trace _⟩

theorem ite {c : Prop} [Decidable c] {q : Proc σ ε α} (hp : Phased P Q p) (hq : Phased P Q q) :
    Phased P Q (if c then p else q) := by
  split_ifs
  · exact hp
  · exact hq

end Phased

end Proc
