import Dntpd.Library.ProcFrame
import Mathlib.Data.List.Infix

/-!
# What a thread gets to of its trace

A trace records an acquisition of a lock as if it had been granted.  The acquisition of a lock that
the thread holds does not return, and `executed` cuts the trace there.  Whether the thread holds the
lock is all that matters of what it did before.

Two acquisitions without a release between them block the thread at the second at the latest
(`executed_prefix_of_acquires`).  So a procedure whose trace has them gets to nothing behind them,
whatever comes before (`BlocksBefore.not_mem_executed`).
-/

universe u

namespace LockTrace

variable {ε : Type u} {op : ε → Option Op}

/-- The part of a trace that a thread executes that holds the lock or not. -/
def executed (op : ε → Option Op) : Bool → List ε → List ε
  | _, [] => []
  | held, e :: tr =>
    match op e with
    | none => e :: executed op held tr
    | some .release => e :: executed op false tr
    | some .acquire => if held then [] else e :: executed op true tr

theorem executed_cons_none {e : ε} (he : op e = none) (held : Bool) (tr : List ε) :
    executed op held (e :: tr) = e :: executed op held tr := by
  rw [executed, he]

theorem executed_cons_release {e : ε} (he : op e = some .release) (held : Bool) (tr : List ε) :
    executed op held (e :: tr) = e :: executed op false tr := by
  rw [executed, he]

theorem executed_cons_acquire {e : ε} (he : op e = some .acquire) (tr : List ε) :
    executed op false (e :: tr) = e :: executed op true tr := by
  rw [executed, he]
  rfl

theorem executed_cons_blocked {e : ε} (he : op e = some .acquire) (tr : List ε) :
    executed op true (e :: tr) = [] := by
  rw [executed, he]
  rfl

/-- A thread that holds the lock gets to its next acquisition at most. -/
theorem executed_held_prefix {mid : List ε} {e : ε} (hmid : ∀ a ∈ mid, op a ≠ some .release)
    (he : op e = some .acquire) (post : List ε) :
    executed op true (mid ++ e :: post) <+: mid := by
  induction mid with
  | nil =>
    rw [List.nil_append, executed_cons_blocked he]
  | cons a mid ih =>
    obtain ⟨ha, hmid⟩ := List.forall_mem_cons.mp hmid
    rw [List.cons_append]
    cases hop : op a with
    | none =>
      rw [executed_cons_none hop]
      exact List.cons_prefix_cons.mpr ⟨rfl, ih hmid⟩
    | some o =>
      cases o with
      | acquire =>
        rw [executed_cons_blocked hop]
        exact List.nil_prefix
      | release => exact absurd hop ha

/-- **Two acquisitions block**, whatever comes before them, if there is no release between them. -/
theorem executed_prefix_of_acquires {pre mid : List ε} {e e' : ε} (he : op e = some .acquire)
    (hmid : ∀ a ∈ mid, op a ≠ some .release) (he' : op e' = some .acquire) (held : Bool)
    (post : List ε) :
    executed op held (pre ++ e :: (mid ++ e' :: post)) <+: pre ++ e :: mid := by
  induction pre generalizing held with
  | nil =>
    cases held with
    | true =>
      rw [List.nil_append, executed_cons_blocked he]
      exact List.nil_prefix
    | false =>
      rw [List.nil_append, executed_cons_acquire he]
      -- between the two nothing is released, so the second acquiring blocks
      exact List.cons_prefix_cons.mpr ⟨rfl, executed_held_prefix hmid he' post⟩
  | cons a pre ih =>
    rw [List.cons_append, List.cons_append]
    cases hop : op a with
    | none =>
      rw [executed_cons_none hop]
      exact List.cons_prefix_cons.mpr ⟨rfl, ih held⟩
    | some o =>
      cases o with
      | release =>
        rw [executed_cons_release hop]
        exact List.cons_prefix_cons.mpr ⟨rfl, ih false⟩
      | acquire =>
        cases held with
        -- `a` itself blocks, and nothing of the list is executed
        | true =>
          rw [executed_cons_blocked hop]
          exact List.nil_prefix
        | false =>
          rw [executed_cons_acquire hop]
          exact List.cons_prefix_cons.mpr ⟨rfl, ih true⟩

/-- The trace has two acquisitions without a release between them, and no event of the kind `F` in
front of the second. -/
def BlocksBefore (op : ε → Option Op) (F : ε → Prop) (tr : List ε) : Prop :=
  ∃ pre e mid e' post, tr = pre ++ e :: (mid ++ e' :: post) ∧ op e = some .acquire ∧
    (∀ a ∈ mid, op a ≠ some .release) ∧ op e' = some .acquire ∧ ∀ a ∈ pre ++ e :: mid, ¬ F a

namespace BlocksBefore

variable {F : ε → Prop} {tr tr' : List ε}

/-- A thread never gets to an event of the kind. -/
theorem not_mem_executed (h : BlocksBefore op F tr) {held : Bool} {a : ε}
    (ha : a ∈ executed op held tr) : ¬ F a := by
  obtain ⟨pre, e, mid, e', post, rfl, he, hmid, he', hF⟩ := h
  exact hF a ((executed_prefix_of_acquires he hmid he' held post).subset ha)

theorem append_right (h : BlocksBefore op F tr) (tr' : List ε) :
    BlocksBefore op F (tr ++ tr') := by
  obtain ⟨pre, e, mid, e', post, rfl, he, hmid, he', hF⟩ := h
  refine ⟨pre, e, mid, e', post ++ tr', ?_, he, hmid, he', hF⟩
  rw [List.append_assoc, List.cons_append, List.append_assoc, List.cons_append]

theorem append_left (h : BlocksBefore op F tr') (htr : ∀ a ∈ tr, ¬ F a) :
    BlocksBefore op F (tr ++ tr') := by
  obtain ⟨pre, e, mid, e', post, rfl, he, hmid, he', hF⟩ := h
  refine ⟨tr ++ pre, e, mid, e', post, (List.append_assoc _ _ _).symm, he, hmid, he', ?_⟩
  rw [List.append_assoc]
  exact List.forall_mem_append.mpr ⟨htr, hF⟩

end BlocksBefore

end LockTrace

/-! ### Procedures -/

namespace Proc

open LockTrace

variable {σ ε α β : Type u} {op : ε → Option Op} {F : ε → Prop} {p : Proc σ ε α}
  {f : α → Proc σ ε β}

/-- From every state `p` blocks before it gets to an event of the kind `F`. -/
def Blocks (op : ε → Option Op) (F : ε → Prop) (p : Proc σ ε α) : Prop :=
  ∀ s, BlocksBefore op F (p s).trace

/-- From every state `p` blocks before it gets to an event of the kind `F`, or there is none. -/
def BlocksOrAvoids (op : ε → Option Op) (F : ε → Prop) (p : Proc σ ε α) : Prop :=
  ∀ s, BlocksBefore op F (p s).trace ∨ ∀ e ∈ (p s).trace, ¬ F e

theorem Blocks.bind (hp : Blocks op F p) (f : α → Proc σ ε β) : Blocks op F (p >>= f) := fun s =>
  (hp s).append_right _

theorem Blocks.blocksOrAvoids (hp : Blocks op F p) : BlocksOrAvoids op F p := fun s => .inl (hp s)

namespace BlocksOrAvoids

/-- What is behind such a procedure blocks, or the procedure itself does. -/
theorem bind_blocks (hp : BlocksOrAvoids op F p) (hf : ∀ a, Blocks op F (f a)) :
    Blocks op F (p >>= f) := by
  intro s
  rcases hp s with hblocks | havoids
  · exact hblocks.append_right _
  · exact (hf _ _).append_left havoids

theorem bind (hp : BlocksOrAvoids op F p) (hf : ∀ a, BlocksOrAvoids op F (f a)) :
    BlocksOrAvoids op F (p >>= f) := by
  intro s
  rcases hp s with hblocks | havoids
  · exact .inl (hblocks.append_right _)
  rcases hf (p s).ret (p s).state with hblocks' | havoids'
  · exact .inl (hblocks'.append_left havoids)
  · exact .inr (List.forall_mem_append.mpr ⟨havoids, havoids'⟩)

theorem ite {c : Prop} [Decidable c] {q : Proc σ ε α} (hp : BlocksOrAvoids op F p)
    (hq : BlocksOrAvoids op F q) : BlocksOrAvoids op F (if c then p else q) := by
  split_ifs
  · exact hp
  · exact hq

theorem of_frame {κ : Type*} {keep : σ → κ} {E : ε → Prop} (hp : Frame keep E p)
    (hE : ∀ e, E e → ¬ F e) : BlocksOrAvoids op F p := fun s =>
  .inr fun e he => hE e (hp.trace s e he)

end BlocksOrAvoids

end Proc
