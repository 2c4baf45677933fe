import Mathlib.Logic.Basic
import Mathlib.Order.Defs.LinearOrder

/-!
# Procedures over a state that leave a trace

A C function that reads and writes shared state and makes calls to the outside is modelled as a
`Proc σ ε α`: from a state it computes its result, the state it leaves and, in program order, the
events (calls, lock operations) it performed.  Everything the outside may answer is an argument
of the procedure, so a `Proc` is a plain function and can be evaluated.

The `simp` set reduces a procedure written with `do` to its three projections.  The traces of what
is done one after the other are appended, so a statement about some kinds of events is one about
`List.filterMap`, which distributes over `++`.
-/

universe u

/-- What one run of a procedure leaves: its result, the final state and the events in order. -/
structure Outcome (σ ε α : Type u) where
  ret : α
  state : σ
  trace : List ε

/-- A procedure with state `σ`, events `ε` and result `α`. -/
def Proc (σ ε α : Type u) : Type u := σ → Outcome σ ε α

namespace Proc

variable {σ ε α β : Type u}

instance : Monad (Proc σ ε) where
  pure a := fun s => ⟨a, s, []⟩
  bind p f := fun s =>
    let o := p s
    let o' := f o.ret o.state
    ⟨o'.ret, o'.state, o.trace ++ o'.trace⟩

/-- The current state. -/
def read : Proc σ ε σ := fun s => ⟨s, s, []⟩

/-- Apply `f` to the state. -/
def update (f : σ → σ) : Proc σ ε PUnit := fun s => ⟨⟨⟩, f s, []⟩

/-- Perform one event. -/
def emit (e : ε) : Proc σ ε PUnit := fun s => ⟨⟨⟩, s, [e]⟩

/-! ### Running the primitives -/

theorem bind_run (p : Proc σ ε α) (f : α → Proc σ ε β) (s : σ) :
    (p >>= f) s = ⟨(f (p s).ret (p s).state).ret, (f (p s).ret (p s).state).state,
      (p s).trace ++ (f (p s).ret (p s).state).trace⟩ := rfl

@[simp] theorem pure_ret (a : α) (s : σ) : ((pure a : Proc σ ε α) s).ret = a := rfl
@[simp] theorem pure_state (a : α) (s : σ) : ((pure a : Proc σ ε α) s).state = s := rfl
@[simp] theorem pure_trace (a : α) (s : σ) : ((pure a : Proc σ ε α) s).trace = [] := rfl

@[simp] theorem bind_ret (p : Proc σ ε α) (f : α → Proc σ ε β) (s : σ) :
    ((p >>= f) s).ret = (f (p s).ret (p s).state).ret := rfl
@[simp] theorem bind_state (p : Proc σ ε α) (f : α → Proc σ ε β) (s : σ) :
    ((p >>= f) s).state = (f (p s).ret (p s).state).state := rfl
@[simp] theorem bind_trace (p : Proc σ ε α) (f : α → Proc σ ε β) (s : σ) :
    ((p >>= f) s).trace = (p s).trace ++ (f (p s).ret (p s).state).trace := rfl

@[simp] theorem read_ret (s : σ) : (read s : Outcome σ ε σ).ret = s := rfl
@[simp] theorem read_state (s : σ) : (read s : Outcome σ ε σ).state = s := rfl
@[simp] theorem read_trace (s : σ) : (read s : Outcome σ ε σ).trace = [] := rfl

@[simp] theorem update_state (f : σ → σ) (s : σ) :
    (update f s : Outcome σ ε PUnit).state = f s := rfl
@[simp] theorem update_trace (f : σ → σ) (s : σ) :
    (update f s : Outcome σ ε PUnit).trace = [] := rfl

@[simp] theorem emit_state (e : ε) (s : σ) : (emit e s : Outcome σ ε PUnit).state = s := rfl
@[simp] theorem emit_trace (e : ε) (s : σ) : (emit e s : Outcome σ ε PUnit).trace = [e] := rfl

/-- What follows a read runs on the state that was read. -/
theorem read_bind (f : σ → Proc σ ε α) (s : σ) : (read >>= f) s = f s s := rfl

/-- An event stands in front of those of what follows. -/
theorem emit_bind (e : ε) (p : Proc σ ε α) (s : σ) :
    (emit e >>= fun _ => p) s = ⟨(p s).ret, (p s).state, e :: (p s).trace⟩ := rfl

/-- What follows an update runs on the new state. -/
theorem update_bind (f : σ → σ) (p : Proc σ ε α) (s : σ) : (update f >>= fun _ => p) s = p (f s) :=
  rfl

/-- A branch is taken before the state is looked at. -/
theorem ite_run (c : Prop) [Decidable c] (p q : Proc σ ε α) (s : σ) :
    (if c then p else q) s = if c then p s else q s := by
  split_ifs <;> rfl

@[simp] theorem ite_ret (c : Prop) [Decidable c] (p q : Proc σ ε α) (s : σ) :
    ((if c then p else q) s).ret = if c then (p s).ret else (q s).ret := by
  split_ifs <;> rfl

@[simp] theorem ite_trace (c : Prop) [Decidable c] (p q : Proc σ ε α) (s : σ) :
    ((if c then p else q) s).trace = if c then (p s).trace else (q s).trace := by
  split_ifs <;> rfl

/-- What follows a procedure matters only on the results it returns. -/
theorem bind_congr_ret {p : Proc σ ε α} {f g : α → Proc σ ε β}
    (h : ∀ s, f (p s).ret = g (p s).ret) : p >>= f = p >>= g := by
  funext s
  rw [bind_run, bind_run, h s]

/-! ### Rearranging a procedure -/

theorem bind_assoc {γ : Type u} (p : Proc σ ε α) (f : α → Proc σ ε β) (g : β → Proc σ ε γ) :
    p >>= f >>= g = p >>= fun a => f a >>= g := by
  funext s
  simp only [bind_run, List.append_assoc]

theorem pure_bind (a : α) (f : α → Proc σ ε β) : (pure a : Proc σ ε α) >>= f = f a := rfl

theorem ite_bind (c : Prop) [Decidable c] (p q : Proc σ ε α) (f : α → Proc σ ε β) :
    (if c then p else q) >>= f = if c then p >>= f else q >>= f := by
  split_ifs <;> rfl

theorem bind_congr {p : Proc σ ε α} {f g : α → Proc σ ε β} (h : ∀ a, f a = g a) :
    p >>= f = p >>= g :=
  congrArg (p >>= ·) (funext h)

theorem else_congr {c : Prop} [Decidable c] {p q q' : Proc σ ε α} (h : q = q') :
    (if c then p else q) = if c then p else q' := by
  rw [h]

/-! ### Runs of procedures -/

/-- Run the procedures of a list one after the other, keeping the last state and every event. -/
def runAll : List (Proc σ ε α) → σ → σ × List ε
  | [], s => (s, [])
  | p :: ps, s =>
    let r := runAll ps (p s).state
    (r.1, (p s).trace ++ r.2)

/-- The run rule: an invariant of the state that every procedure of the list preserves holds at
the end of the run. -/
theorem runAll_invariant {I : σ → Prop} {ps : List (Proc σ ε α)}
    (hstep : ∀ p ∈ ps, ∀ s, I s → I (p s).state) : ∀ {s : σ}, I s → I (runAll ps s).1 := by
  induction ps with
  | nil => intro s hs; exact hs
  | cons p ps ih =>
    intro s hs
    refine ih (fun q hq => hstep q (List.mem_cons_of_mem p hq)) ?_
    exact hstep p List.mem_cons_self s hs

end Proc
