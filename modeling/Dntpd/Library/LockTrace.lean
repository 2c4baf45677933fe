import Mathlib.Data.List.Basic

/-!
# The discipline of a non-recursive lock, over traces

A trace of `acquire`/`release` operations of one thread is `Disciplined` when, starting without
the lock, it never acquires the lock it holds (a self-deadlock on a non-recursive lock), never
releases a lock it does not hold, and ends without the lock.  `run` is the two-state automaton
that decides it; it stops at the first violation, so a trace and its execution up to that
violation are judged alike.

`Disciplined` is closed under composition from the left (`Disciplined.append_iff`), so the trace
of a procedure is judged call by call.
-/

namespace LockTrace

/-- One operation on the lock. -/
inductive Op
  | acquire
  | release
  deriving Repr, DecidableEq

/-- The effect of an operation on "the thread holds the lock"; `none` is a violation. -/
def step : Bool → Op → Option Bool
  | false, .acquire => some true
  | true, .release => some false
  | true, .acquire => none
  | false, .release => none

/-- Run the automaton from `held`. -/
def run : Bool → List Op → Option Bool
  | held, [] => some held
  | held, op :: ops => (step held op).bind fun held' => run held' ops

/-- No violation from the unheld lock, and the lock is unheld at the end. -/
def Disciplined (ops : List Op) : Prop := run false ops = some false

instance : DecidablePred Disciplined := fun ops => by unfold Disciplined; infer_instance

theorem run_append (held : Bool) (xs ys : List Op) :
    run held (xs ++ ys) = (run held xs).bind fun held' => run held' ys := by
  induction xs generalizing held with
  | nil => rfl
  | cons op ops ih =>
    rw [List.cons_append, run, run]
    cases step held op with
    | none => rfl
    | some held' => exact ih held'

@[simp] theorem disciplined_nil : Disciplined [] := rfl

/-- A disciplined prefix can be dropped. -/
theorem Disciplined.append_iff {xs ys : List Op} (hx : Disciplined xs) :
    Disciplined (xs ++ ys) ↔ Disciplined ys := by
  unfold Disciplined at *
  rw [run_append, hx]
  rfl

theorem Disciplined.append {xs ys : List Op} (hx : Disciplined xs) (hy : Disciplined ys) :
    Disciplined (xs ++ ys) :=
  hx.append_iff.mpr hy

/-- Releasing first is a violation. -/
@[simp] theorem not_disciplined_release {ops : List Op} : ¬ Disciplined (.release :: ops) := by
  unfold Disciplined
  simp [run, step]

end LockTrace
