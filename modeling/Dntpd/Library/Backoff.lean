import Dntpd.Library.Run
import Mathlib.Data.List.Basic
import Mathlib.Data.Option.Basic
import Mathlib.Order.Defs.LinearOrder
import Mathlib.Tactic.Linarith

/-!
# Retrying with a hold-off

A job is looked at again and again.  At each look the clock is read, and the job is either attempted
or held; a job whose last attempt failed is held until the clock shows `retry` more than it did
there.  The clock may stand still or be set back between two looks.

A run of decisions keeps the schedule if the job is attempted exactly when it is due (`Scheduled`);
a job that only fails is then not attempted more often than the hold-off allows
(`attempts_mul_le`).  An implementation may store the end of the hold-off instead of the failure
(`Stored`).
-/

namespace Backoff

/-- What is done at one look, at the reading `now`; `ok` is the outcome of the attempt. -/
inductive Decision
  | attempt (now : ℤ) (ok : Bool)
  | held (now : ℤ)
  deriving DecidableEq

namespace Decision

def now : Decision → ℤ
  | attempt now _ => now
  | held now => now

/-- The job was not attempted with success. -/
def NotOk : Decision → Prop
  | attempt _ ok => ok = false
  | held _ => True

/-- The reading at the last attempt if that failed: what a decision makes of it. -/
def lastFailure : Decision → Option ℤ → Option ℤ
  | attempt now ok, _ => if ok then none else some now
  | held _, last => last

@[simp] theorem lastFailure_held (now : ℤ) (last : Option ℤ) :
    (held now).lastFailure last = last := rfl

@[simp] theorem lastFailure_ok (now : ℤ) (last : Option ℤ) :
    (attempt now true).lastFailure last = none := rfl

@[simp] theorem lastFailure_failed (now : ℤ) (last : Option ℤ) :
    (attempt now false).lastFailure last = some now := rfl

/-- The job is due at `now`. -/
def Due (retry now : ℤ) (last : Option ℤ) : Prop := ∀ t ∈ last, t + retry ≤ now

/-- The job is attempted if it is due, and held if it is not. -/
def Timely (retry : ℤ) : Decision → Option ℤ → Prop
  | attempt now _, last => Due retry now last
  | held now, last => ¬ Due retry now last

end Decision

open Decision

/-- Every decision of the run is timely. -/
abbrev Scheduled (retry : ℤ) (ds : List Decision) (last : Option ℤ) : Prop :=
  Run.Along lastFailure (Timely retry) ds last

/-- The number of attempts. -/
def attempts (ds : List Decision) : ℕ := ds.countP fun d => d matches .attempt _ _

@[simp] theorem attempts_nil : attempts [] = 0 := rfl

@[simp] theorem attempts_cons_attempt (now : ℤ) (ok : Bool) (ds : List Decision) :
    attempts (.attempt now ok :: ds) = attempts ds + 1 :=
  List.countP_cons_of_pos rfl

@[simp] theorem attempts_cons_held (now : ℤ) (ds : List Decision) :
    attempts (.held now :: ds) = attempts ds :=
  List.countP_cons_of_neg Bool.false_ne_true

theorem due_none (retry now : ℤ) : Due retry now none := fun _ h => absurd h (Option.not_mem_none _)

theorem due_some {retry now t : ℤ} : Due retry now (some t) ↔ t + retry ≤ now := by
  unfold Due
  simp

/-- No attempt succeeds, and the clock shows at most `b`. -/
def FailsUpTo (b : ℤ) (ds : List Decision) : Prop := ∀ d ∈ ds, d.NotOk ∧ d.now ≤ b

theorem attempts_mul_le_of_some {retry b : ℤ} {ds : List Decision} {t : ℤ}
    (hs : Scheduled retry ds (some t)) (hfails : FailsUpTo b ds) (hb : t ≤ b) :
    attempts ds * retry ≤ b - t := by
  induction ds generalizing t with
  | nil =>
    rw [attempts_nil]
    push_cast
    linarith
  | cons d ds ih =>
    obtain ⟨htimely, hrest⟩ := hs
    obtain ⟨⟨hnot, hle⟩, hds⟩ := List.forall_mem_cons.mp hfails
    cases d with
    | attempt now ok =>
      -- each attempt moves the last failure by the hold-off, whatever the clock does in between
      obtain rfl : ok = false := hnot
      have hdue : t + retry ≤ now := due_some.mp htimely
      have := ih hrest hds hle
      rw [attempts_cons_attempt]
      push_cast
      linarith
    | held now =>
      rw [attempts_cons_held]
      exact ih hrest hds hb

/-- A job that only fails is attempted at most once in `retry`. -/
theorem attempts_mul_le {retry t b : ℤ} {before during after : List Decision} {last : Option ℤ}
    (hs : Scheduled retry (before ++ .attempt t false :: during ++ after) last)
    (hfails : FailsUpTo b during) (hb : t ≤ b) : attempts during * retry ≤ b - t := by
  have hfailed := (Run.along_append.mp (Run.along_append.mp hs).1).2
  exact attempts_mul_le_of_some hfailed.2 hfails hb

/-! ### Deadlines -/

/-- A stored deadline stands for the last failure; zero stands for none. -/
inductive Stored (retry : ℤ) : Option ℤ → ℤ → Prop
  | clear : Stored retry none 0
  | heldUntil (t : ℤ) (ht : 0 ≤ t) : Stored retry (some t) (t + retry)

/-- A deadline is later than zero, so a job is due unless there is a deadline that is not
reached. -/
theorem Stored.due_iff {retry now next : ℤ} {last : Option ℤ} (hretry : 0 < retry)
    (h : Stored retry last next) : Due retry now last ↔ ¬ (next ≠ 0 ∧ now < next) := by
  cases h with
  | clear => exact iff_of_true (due_none retry now) fun hne => hne.1 rfl
  | heldUntil t ht =>
    rw [due_some]
    omega

end Backoff
