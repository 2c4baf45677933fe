import Mathlib.Logic.Function.Basic
import Mathlib.Tactic.SplitIfs
import Dntpd.Library.Run

/-!
# Objects that are initialised, used and destroyed

Every object of a family is uninitialised, initialised or destroyed, and the operations on it move
it from one to the other.  `OnLive P` says of a list of operations that those of the kind `P` are on
objects that are initialised.  From a state with no such object, and without an initialisation,
that holds exactly if there is no operation of the kind (`onLive_iff_of_dead`).
-/

universe u

namespace Lifecycle

/-- Where an object is in its life. -/
inductive Life
  | uninitialised
  | initialised
  | destroyed
  deriving DecidableEq

/-- An operation on an object. -/
inductive Op (ι : Type u)
  | init (o : ι)
  | use (o : ι)
  | destroy (o : ι)
  deriving DecidableEq

namespace Op

variable {ι : Type u}

def object : Op ι → ι
  | init o => o
  | use o => o
  | destroy o => o

def IsInit : Op ι → Prop
  | init _ => True
  | _ => False

def IsUse : Op ι → Prop
  | use _ => True
  | _ => False

theorem IsUse.not_isInit {op : Op ι} (h : op.IsUse) : ¬ op.IsInit := by
  cases op with
  | init => exact h.elim
  | use => exact id
  | destroy => exact h.elim

instance (op : Op ι) : Decidable op.IsUse :=
  match op with
  | init _ => .isFalse id
  | use _ => .isTrue trivial
  | destroy _ => .isFalse id

/-- The lives after the operation. -/
def apply [DecidableEq ι] : Op ι → (ι → Life) → ι → Life
  | init o, lives => Function.update lives o .initialised
  | use _, lives => lives
  | destroy o, lives => Function.update lives o .destroyed

end Op

variable {ι : Type u} [DecidableEq ι] {P : Op ι → Prop}

/-- The operations of the kind `P` are on objects that are initialised. -/
def OnLive (P : Op ι → Prop) (ops : List (Op ι)) (lives : ι → Life) : Prop :=
  Run.Along Op.apply (fun op lives => P op → lives op.object = .initialised) ops lives

instance [DecidablePred P] (ops : List (Op ι)) (lives : ι → Life) :
    Decidable (OnLive P ops lives) := by
  unfold OnLive
  infer_instance

/-- The lives after the operations. -/
abbrev after (ops : List (Op ι)) (lives : ι → Life) : ι → Life := Run.runSteps Op.apply ops lives

theorem after_append (xs ys : List (Op ι)) (lives : ι → Life) :
    after (xs ++ ys) lives = after ys (after xs lives) :=
  Run.runSteps_append xs ys lives

theorem onLive_append {xs ys : List (Op ι)} {lives : ι → Life} :
    OnLive P (xs ++ ys) lives ↔ OnLive P xs lives ∧ OnLive P ys (after xs lives) :=
  Run.along_append

theorem onLive_of_forall_not {ops : List (Op ι)} (h : ∀ op ∈ ops, ¬ P op) (lives : ι → Life) :
    OnLive P ops lives :=
  Run.along_of_forall_mem fun op hop _ hP => absurd hP (h op hop)

theorem Op.destroy_apply (o o' : ι) (lives : ι → Life) :
    (destroy o).apply lives o' = if o' = o then .destroyed else lives o' :=
  Function.update_apply lives o _ o'

/-- Only an initialisation brings an object to life. -/
theorem Op.apply_dead {op : Op ι} {lives : ι → Life} (hop : ¬ op.IsInit)
    (hdead : ∀ o, lives o ≠ .initialised) (o : ι) : op.apply lives o ≠ .initialised := by
  cases op with
  | init o' => exact absurd trivial hop
  | use o' => exact hdead o
  | destroy o' =>
    rw [destroy_apply]
    split_ifs
    · exact nofun
    · exact hdead o

theorem after_dead {ops : List (Op ι)} (hops : ∀ op ∈ ops, ¬ op.IsInit) : ∀ {lives : ι → Life},
    (∀ o, lives o ≠ .initialised) → ∀ o, after ops lives o ≠ .initialised := by
  induction ops with
  | nil => exact fun hdead => hdead
  | cons op ops ih =>
    intro lives hdead
    exact ih (fun op' hop' => hops op' (List.mem_cons_of_mem op hop'))
      (Op.apply_dead (hops op List.mem_cons_self) hdead)

/-- With every object dead, operations are on live objects only if there are none. -/
theorem onLive_iff_of_dead {ops : List (Op ι)} (hops : ∀ op ∈ ops, ¬ op.IsInit) :
    ∀ {lives : ι → Life}, (∀ o, lives o ≠ .initialised) →
      (OnLive P ops lives ↔ ∀ op ∈ ops, ¬ P op) := by
  induction ops with
  | nil => exact fun _ => iff_of_true trivial fun _ hop => absurd hop List.not_mem_nil
  | cons op ops ih =>
    intro lives hdead
    have hrest := ih (fun op' hop' => hops op' (List.mem_cons_of_mem op hop'))
      (Op.apply_dead (hops op List.mem_cons_self) hdead)
    rw [List.forall_mem_cons, ← hrest]
    exact and_congr_left fun _ => ⟨fun h hP => hdead _ (h hP), fun h hP => absurd hP h⟩

/-- A dead object stays dead. -/
theorem Op.apply_ne {op : Op ι} {lives : ι → Life} (hop : ¬ op.IsInit) {o : ι}
    (hdead : lives o ≠ .initialised) : op.apply lives o ≠ .initialised := by
  cases op with
  | init o' => exact absurd trivial hop
  | use o' => exact hdead
  | destroy o' =>
    rw [destroy_apply]
    split_ifs
    · exact nofun
    · exact hdead

theorem after_ne {ops : List (Op ι)} (hops : ∀ op ∈ ops, ¬ op.IsInit) {o : ι} :
    ∀ {lives : ι → Life}, lives o ≠ .initialised → after ops lives o ≠ .initialised := by
  induction ops with
  | nil => exact fun hdead => hdead
  | cons op ops ih =>
    obtain ⟨hop, hrest⟩ := List.forall_mem_cons.mp hops
    exact fun hdead => ih hrest (Op.apply_ne hop hdead)

/-- So does one that is destroyed on the way. -/
theorem after_ne_of_mem {ops : List (Op ι)} (hops : ∀ op ∈ ops, ¬ op.IsInit) {o : ι}
    (ho : .destroy o ∈ ops) (lives : ι → Life) : after ops lives o ≠ .initialised := by
  induction ops generalizing lives with
  | nil => exact absurd ho List.not_mem_nil
  | cons op ops ih =>
    obtain ⟨-, hrest⟩ := List.forall_mem_cons.mp hops
    rcases List.mem_cons.mp ho with rfl | ho
    · refine after_ne hrest ?_
      rw [Op.destroy_apply, if_pos rfl]
      exact nofun
    · exact ih hrest ho _

/-- An object that is dead has no operation of the kind to come. -/
theorem object_ne_of_onLive {ops : List (Op ι)} (hops : ∀ op ∈ ops, ¬ op.IsInit) {o : ι} :
    ∀ {lives : ι → Life}, lives o ≠ .initialised → OnLive P ops lives →
      ∀ op ∈ ops, P op → op.object ≠ o := by
  induction ops with
  | nil => exact fun _ _ _ hop => absurd hop List.not_mem_nil
  | cons op ops ih =>
    intro lives hdead hlive op' hop' hP
    obtain ⟨hinit, hinits⟩ := List.forall_mem_cons.mp hops
    rcases List.mem_cons.mp hop' with rfl | hop'
    · rintro rfl
      exact hdead (hlive.1 hP)
    · exact ih hinits (Op.apply_ne hinit hdead) hlive.2 op' hop' hP

/-- Uses leave the objects as they are. -/
theorem after_of_forall_isUse {ops : List (Op ι)} (hops : ∀ op ∈ ops, op.IsUse)
    (lives : ι → Life) : after ops lives = lives := by
  induction ops with
  | nil => rfl
  | cons op ops ih =>
    obtain ⟨hop, hrest⟩ := List.forall_mem_cons.mp hops
    cases op with
    | init o => exact hop.elim
    | use o => exact ih hrest
    | destroy o => exact hop.elim

/-- Uses are of live objects if the objects are alive in front of them. -/
theorem onLive_of_forall_isUse {ops : List (Op ι)} (hops : ∀ op ∈ ops, op.IsUse)
    {lives : ι → Life} (hlive : ∀ op ∈ ops, lives op.object = .initialised) :
    OnLive P ops lives := by
  induction ops with
  | nil => trivial
  | cons op ops ih =>
    obtain ⟨hop, hrest⟩ := List.forall_mem_cons.mp hops
    obtain ⟨hobject, hlives⟩ := List.forall_mem_cons.mp hlive
    cases op with
    | init o => exact hop.elim
    | use o => exact ⟨fun _ => hobject, ih hrest hlives⟩
    | destroy o => exact hop.elim

end Lifecycle
