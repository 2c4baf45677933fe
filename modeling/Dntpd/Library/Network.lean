import Mathlib.Logic.Function.Basic
import Dntpd.Library.Run

/-!
# Nodes that send each other messages

The nodes of a network take steps in any order.  The medium loses, delays, duplicates and reorders:
what a step receives is any message that was sent before it, or one from the outside.

An invariant of the nodes and one of the messages carry each other along every run (`Net.invariant`)
if a step that receives only such messages keeps the one and sends only such messages, and those
from the outside are such messages.
-/

universe u v w x

open Run

/-- The states of the nodes, and what was sent. -/
structure Net (ι : Type u) (σ : Type v) (μ : Type w) where
  node : ι → σ
  sent : List μ

/-- What a step of a node does: the state it leaves, what it sends, and what it has received. -/
structure Behaviour (α : Type u) (σ : Type v) (μ : Type w) where
  after : α → σ → σ
  sent : α → σ → List μ
  received : α → Option μ

namespace Net

variable {ι : Type u} {σ : Type v} {μ : Type w} {α : Type x} [DecidableEq ι]

/-- A step of the node `a.1`. -/
def step (b : Behaviour α σ μ) (a : ι × α) (net : Net ι σ μ) : Net ι σ μ where
  node := Function.update net.node a.1 (b.after a.2 (net.node a.1))
  sent := b.sent a.2 (net.node a.1) ++ net.sent

theorem mem_sent_step {b : Behaviour α σ μ} {i : ι} {a : α} {net : Net ι σ μ} {s : σ}
    (hs : net.node i = s) {m : μ} (hm : m ∈ b.sent a s) : m ∈ (step b (i, a) net).sent := by
  subst hs
  exact List.mem_append_left _ hm

/-- What the step has received was sent, or comes from the outside. -/
def Legal (b : Behaviour α σ μ) (outside : μ → Prop) (a : ι × α) (net : Net ι σ μ) : Prop :=
  ∀ m ∈ b.received a.2, m ∈ net.sent ∨ outside m

/-- Every node satisfies `I`, and every message that was sent satisfies `J`. -/
structure Holds (I : σ → Prop) (J : μ → Prop) (net : Net ι σ μ) : Prop where
  node : ∀ i, I (net.node i)
  sent : ∀ m ∈ net.sent, J m

section

variable {b : Behaviour α σ μ} {outside : μ → Prop} {I : σ → Prop} {J : μ → Prop}

/-- One step. -/
theorem Holds.step (hafter : ∀ a s, I s → (∀ m ∈ b.received a, J m) → I (b.after a s))
    (hsent : ∀ a s, I s → (∀ m ∈ b.received a, J m) → ∀ m ∈ b.sent a s, J m)
    (houtside : ∀ m, outside m → J m) {a : ι × α} {net : Net ι σ μ} (hnet : Holds I J net)
    (hlegal : Legal b outside a net) : Holds I J (step b a net) := by
  have hreceived : ∀ m ∈ b.received a.2, J m := fun m hm =>
    (hlegal m hm).elim (hnet.sent m) (houtside m)
  constructor
  · -- only the node that steps changes
    intro i
    by_cases hi : i = a.1
    · subst hi
      show I (Function.update net.node a.1 _ a.1)
      rw [Function.update_self]
      exact hafter _ _ (hnet.node _) hreceived
    · show I (Function.update net.node a.1 _ i)
      rw [Function.update_of_ne hi]
      exact hnet.node i
  · intro m hm
    rcases List.mem_append.mp hm with hnew | hold
    · exact hsent _ _ (hnet.node _) hreceived m hnew
    · exact hnet.sent m hold

/-- The run rule. -/
theorem invariant (hafter : ∀ a s, I s → (∀ m ∈ b.received a, J m) → I (b.after a s))
    (hsent : ∀ a s, I s → (∀ m ∈ b.received a, J m) → ∀ m ∈ b.sent a s, J m)
    (houtside : ∀ m, outside m → J m) {steps : List (ι × α)} {net : Net ι σ μ}
    (hnet : Holds I J net) (hlegal : Along (step b) (Legal b outside) steps net) :
    Holds I J (runSteps (step b) steps net) :=
  (Along.invariant (fun _ _ hnet hlegal => hnet.step hafter hsent houtside hlegal) hnet hlegal).2

end

end Net
