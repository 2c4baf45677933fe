import Dntpd.Library.ProcFrame
import Mathlib.Data.Set.Insert
import Mathlib.Logic.Relation
import Mathlib.Order.BooleanAlgebra.Set
import Mathlib.Order.RelClasses

/-!
# Threads that acquire locks in order

Threads share locks, and `r m' m` says that `m` may be acquired inside a section of `m'`.  A thread
is in order if it acquires a lock only while the locks it holds allow it (`Ordered`).  That is
proved along the text of a procedure, as a triple of the locks held in front of it, the procedure,
and the locks held behind it (`Proc.InOrder`).

A system interleaves threads, one event of a trace at a time (`Step`).  Let the threads acquire
inside a section only locks of higher rank or the lock of the section itself, and release in the end
what they acquire.  Then from a thread that is not done, whoever waits for whom, one gets to a
thread that can go on or to one that waits for itself (`Reachable.progress`): there is no deadlock
between different threads.  A thread that acquires only locks of higher rank never waits for itself
(`Reachable.not_waitsFor_self`).

The owner of a lock is the thread that acquired it last.  A release by another thread takes it away
from its owner, as it does for a lock that does not check who releases it.
-/

universe u v

namespace LockOrder

/-! ### Orders -/

section

variable {μ : Type u}

/-- An operation of a thread on one of the locks `μ`. -/
inductive Op (μ : Type u)
  | acquire (m : μ)
  | release (m : μ)

/-- The locks held behind the operation. -/
def Op.after : Op μ → Set μ → Set μ
  | acquire m, held => insert m held
  | release m, held => held \ {m}

/-- The lock may be acquired by a thread that holds `held`. -/
def Admits (r : μ → μ → Prop) (held : Set μ) (m : μ) : Prop := ∀ m' ∈ held, r m' m

/-- The operation is in order for a thread that holds `held`. -/
def Op.InOrder (r : μ → μ → Prop) (held : Set μ) : Op μ → Prop
  | acquire m => Admits r held m
  | release _ => True

/-- So are all operations of a trace. -/
def Ordered (r : μ → μ → Prop) : Set μ → List (Op μ) → Prop
  | _, [] => True
  | held, o :: ops => o.InOrder r held ∧ Ordered r (o.after held) ops

/-- The locks held behind a trace. -/
def heldAfter (held : Set μ) (ops : List (Op μ)) : Set μ :=
  ops.foldl (fun held o => o.after held) held

variable {r r' : μ → μ → Prop} {held held' : Set μ} {m : μ} {ops ops' : List (Op μ)}

theorem Admits.empty : Admits r ∅ m := fun _ hm => hm.elim

theorem Admits.insert {m' : μ} (hm : Admits r held m) (hr : r m' m) :
    Admits r (insert m' held) m := by
  intro m'' hm''
  rcases Set.mem_insert_iff.mp hm'' with rfl | hm''
  · exact hr
  · exact hm m'' hm''

theorem Op.after_mono (o : Op μ) (h : held ⊆ held') : o.after held ⊆ o.after held' := by
  cases o with
  | acquire m => exact Set.insert_subset_insert h
  | release m => exact Set.sdiff_subset_sdiff_left h

theorem heldAfter_mono (h : held ⊆ held') (ops : List (Op μ)) :
    heldAfter held ops ⊆ heldAfter held' ops := by
  induction ops generalizing held held' with
  | nil => exact h
  | cons o ops ih => exact ih (o.after_mono h)

theorem heldAfter_append (held : Set μ) (ops ops' : List (Op μ)) :
    heldAfter held (ops ++ ops') = heldAfter (heldAfter held ops) ops' :=
  List.foldl_append

/-- A thread that holds less is in order as well, and so is one with a weaker order. -/
theorem Ordered.mono (hops : Ordered r held' ops) (h : held ⊆ held')
    (hr : ∀ m' m, r m' m → r' m' m) : Ordered r' held ops := by
  induction ops generalizing held held' with
  | nil => trivial
  | cons o ops ih =>
    refine ⟨?_, ih hops.2 (o.after_mono h)⟩
    cases o with
    | acquire m => exact fun m' hm' => hr m' m (hops.1 m' (h hm'))
    | release m => trivial

theorem Ordered.append (hops : Ordered r held ops) (hops' : Ordered r (heldAfter held ops) ops') :
    Ordered r held (ops ++ ops') := by
  induction ops generalizing held with
  | nil => exact hops'
  | cons o ops ih => exact ⟨hops.1, ih hops.2 hops'⟩

end

/-- A thread that holds no lock is in order, and holds none at the end. -/
structure Tidy {μ ε : Type u} (op : ε → Option (Op μ)) (r : μ → μ → Prop) (tr : List ε) :
    Prop where
  ordered : Ordered r ∅ (tr.filterMap op)
  released : heldAfter ∅ (tr.filterMap op) = ∅

theorem Tidy.nil {μ ε : Type u} {op : ε → Option (Op μ)} {r : μ → μ → Prop} : Tidy op r [] :=
  ⟨trivial, rfl⟩

theorem Tidy.mono {μ ε : Type u} {op : ε → Option (Op μ)} {r r' : μ → μ → Prop} {tr : List ε}
    (h : Tidy op r tr) (hr : ∀ m' m, r m' m → r' m' m) : Tidy op r' tr :=
  ⟨h.ordered.mono Set.Subset.rfl hr, h.released⟩

theorem Tidy.append {μ ε : Type u} {op : ε → Option (Op μ)} {r : μ → μ → Prop} {tr tr' : List ε}
    (h : Tidy op r tr) (h' : Tidy op r tr') : Tidy op r (tr ++ tr') where
  ordered := by
    rw [List.filterMap_append]
    refine h.ordered.append ?_
    rw [h.released]
    exact h'.ordered
  released := by rw [List.filterMap_append, heldAfter_append, h.released, h'.released]

end LockOrder

/-! ### Procedures -/

namespace Proc

open LockOrder

variable {μ σ ε α β : Type u} {op : ε → Option (Op μ)} {r : μ → μ → Prop}
  {pre mid post : Set μ} {p : Proc σ ε α} {f : α → Proc σ ε β}

/-- A thread that holds the locks `pre` is in order as it does `p`, and then holds none but the
locks `post`. -/
structure InOrder (op : ε → Option (Op μ)) (r : μ → μ → Prop) (pre : Set μ) (p : Proc σ ε α)
    (post : Set μ) : Prop where
  ordered : ∀ s, Ordered r pre ((p s).trace.filterMap op)
  held : ∀ s, heldAfter pre ((p s).trace.filterMap op) ⊆ post

namespace InOrder

theorem pure (a : α) : InOrder op r pre (Pure.pure a : Proc σ ε α) pre :=
  ⟨fun _ => trivial, fun _ => Set.Subset.rfl⟩

theorem read : InOrder op r pre (Proc.read : Proc σ ε σ) pre :=
  ⟨fun _ => trivial, fun _ => Set.Subset.rfl⟩

theorem update (g : σ → σ) : InOrder op r pre (Proc.update g : Proc σ ε PUnit) pre :=
  ⟨fun _ => trivial, fun _ => Set.Subset.rfl⟩

theorem acquire {e : ε} {m : μ} (hop : op e = some (.acquire m)) (hm : Admits r pre m) :
    InOrder op r pre (Proc.emit e : Proc σ ε PUnit) (insert m pre) := by
  have hops : ∀ s : σ, ((Proc.emit e : Proc σ ε PUnit) s).trace.filterMap op = [.acquire m] :=
    fun _ => List.filterMap_cons_some hop
  exact ⟨fun s => hops s ▸ ⟨hm, trivial⟩, fun s => hops s ▸ Set.Subset.rfl⟩

theorem release {e : ε} {m : μ} (hop : op e = some (.release m)) :
    InOrder op r pre (Proc.emit e : Proc σ ε PUnit) (pre \ {m}) := by
  have hops : ∀ s : σ, ((Proc.emit e : Proc σ ε PUnit) s).trace.filterMap op = [.release m] :=
    fun _ => List.filterMap_cons_some hop
  exact ⟨fun s => hops s ▸ ⟨trivial, trivial⟩, fun s => hops s ▸ Set.Subset.rfl⟩

/-- A procedure without an operation on a lock. -/
theorem of_frame {κ : Type*} {keep : σ → κ} {E : ε → Prop} (hp : Frame keep E p)
    (hE : ∀ e, E e → op e = none) : InOrder op r pre p pre := by
  have hops := hp.filterMap_eq_nil hE
  exact ⟨fun s => (hops s).symm ▸ trivial, fun s => (hops s).symm ▸ Set.Subset.rfl⟩

theorem bind (hp : InOrder op r pre p mid) (hf : ∀ a, InOrder op r mid (f a) post) :
    InOrder op r pre (p >>= f) post where
  ordered s := by
    rw [bind_trace, List.filterMap_append]
    exact (hp.ordered s).append (((hf _).ordered _).mono (hp.held s) fun _ _ h => h)
  held s := by
    rw [bind_trace, List.filterMap_append, heldAfter_append]
    exact (heldAfter_mono (hp.held s) _).trans ((hf _).held _)

theorem ite {c : Prop} [Decidable c] {q : Proc σ ε α} (hp : InOrder op r pre p post)
    (hq : InOrder op r pre q post) : InOrder op r pre (if c then p else q) post := by
  split_ifs
  · exact hp
  · exact hq

/-- More locks may be allowed to be held behind a procedure than are. -/
theorem mono {post' : Set μ} (hp : InOrder op r pre p post) (h : post ⊆ post') :
    InOrder op r pre p post' :=
  ⟨hp.ordered, fun s => (hp.held s).trans h⟩

theorem tidy (hp : InOrder op r ∅ p ∅) (s : σ) : Tidy op r (p s).trace :=
  ⟨hp.ordered s, Set.subset_empty_iff.mp (hp.held s)⟩

end InOrder

/-- From every state the trace of `p` is tidy, or it has an event of the kind `E`. -/
def TidyUnless (op : ε → Option (Op μ)) (r : μ → μ → Prop) (E : ε → Prop) (p : Proc σ ε α) :
    Prop :=
  ∀ s, Tidy op r (p s).trace ∨ ∃ e ∈ (p s).trace, E e

namespace TidyUnless

variable {E : ε → Prop}

theorem of_inOrder (hp : InOrder op r ∅ p ∅) : TidyUnless op r E p := fun s => .inl (hp.tidy s)

theorem bind (hp : InOrder op r ∅ p ∅) (hf : ∀ a, TidyUnless op r E (f a)) :
    TidyUnless op r E (p >>= f) := by
  intro s
  rw [bind_trace]
  rcases hf (p s).ret (p s).state with htidy | ⟨e, he, hE⟩
  · exact .inl ((hp.tidy s).append htidy)
  · exact .inr ⟨e, List.mem_append_right _ he, hE⟩

theorem ite {c : Prop} [Decidable c] {q : Proc σ ε α} (hp : TidyUnless op r E p)
    (hq : TidyUnless op r E q) : TidyUnless op r E (if c then p else q) := by
  split_ifs
  · exact hp
  · exact hq

/-- A branch may rely on its condition. -/
theorem ite_of_not {c : Prop} [Decidable c] {q : Proc σ ε α} (hp : TidyUnless op r E p)
    (hq : ¬ c → TidyUnless op r E q) : TidyUnless op r E (if c then p else q) := by
  split_ifs with h
  · exact hp
  · exact hq h

end TidyUnless

end Proc

/-! ### Systems -/

namespace LockOrder

variable {ι : Type v} {μ ρ ε : Type u}

/-- Threads that have yet to do the rest of their traces, and the owners of the locks. -/
structure System (ι : Type v) (μ ε : Type u) where
  todo : ι → List ε
  owner : μ → Option ι

/-- All threads are at the beginning of their traces, and all locks are free. -/
def System.start (traces : ι → List ε) : System ι μ ε := ⟨traces, fun _ => none⟩

variable {op : ε → Option (Op μ)} {r : μ → μ → Prop}

/-- The thread `i` asks for the lock `m`, of which `j` is the owner. -/
structure WaitsAt (op : ε → Option (Op μ)) (s : System ι μ ε) (m : μ) (i j : ι) : Prop where
  asks : ∃ e rest, s.todo i = e :: rest ∧ op e = some (.acquire m)
  owner : s.owner m = some j

/-- The thread `i` waits for the thread `j`. -/
def WaitsFor (op : ε → Option (Op μ)) (s : System ι μ ε) (i j : ι) : Prop :=
  ∃ m, WaitsAt op s m i j

/-- What the thread `i` has yet to do is in order and ends without a lock, if it holds the locks
that it is the owner of. -/
def TidyThread (op : ε → Option (Op μ)) (r : μ → μ → Prop) (s : System ι μ ε) (i : ι) : Prop :=
  ∃ held, (∀ m, s.owner m = some i → m ∈ held) ∧ Ordered r held ((s.todo i).filterMap op) ∧
    heldAfter held ((s.todo i).filterMap op) = ∅

/-- A thread that is the owner of a lock is not done, and asks only for what the lock allows. -/
theorem TidyThread.of_owner {s : System ι μ ε} {i : ι} (hi : TidyThread op r s i) {m : μ}
    (howner : s.owner m = some i) :
    s.todo i ≠ [] ∧ ∀ m' j, WaitsAt op s m' i j → r m m' := by
  obtain ⟨held, hheld, hordered, hreleased⟩ := hi
  have hin := hheld m howner
  constructor
  · intro hdone
    rw [hdone] at hreleased
    exact Set.notMem_empty m (hreleased ▸ hin)
  · intro m' j hwaits
    obtain ⟨e, rest, htodo, hop⟩ := hwaits.asks
    rw [htodo, List.filterMap_cons_some hop] at hordered
    exact hordered.1 m hin

variable [DecidableEq ι] [DecidableEq μ]

/-! ### Steps -/

/-- The thread `i` does its next event; it acquires a lock if that is free. -/
inductive Step (op : ε → Option (Op μ)) (i : ι) (s : System ι μ ε) : System ι μ ε → Prop
  | other {e : ε} {rest : List ε} (htodo : s.todo i = e :: rest) (hop : op e = none) :
    Step op i s ⟨Function.update s.todo i rest, s.owner⟩
  | acquire {e : ε} {rest : List ε} {m : μ} (htodo : s.todo i = e :: rest)
      (hop : op e = some (.acquire m)) (hfree : s.owner m = none) :
    Step op i s ⟨Function.update s.todo i rest, Function.update s.owner m (some i)⟩
  | release {e : ε} {rest : List ε} {m : μ} (htodo : s.todo i = e :: rest)
      (hop : op e = some (.release m)) :
    Step op i s ⟨Function.update s.todo i rest, Function.update s.owner m none⟩

/-- The states that interleavings of the threads lead to. -/
def Reachable (op : ε → Option (Op μ)) (traces : ι → List ε) (s : System ι μ ε) : Prop :=
  Relation.ReflTransGen (fun s s' => ∃ i, Step op i s s') (.start traces) s

/-- The thread can go on. -/
def CanGoOn (op : ε → Option (Op μ)) (s : System ι μ ε) (i : ι) : Prop := ∃ s', Step op i s s'

/-- A thread that is not done can go on or waits. -/
theorem canGoOn_or_waitsAt {s : System ι μ ε} {i : ι} (htodo : s.todo i ≠ []) :
    CanGoOn op s i ∨ ∃ m j, WaitsAt op s m i j := by
  cases hrest : s.todo i with
  | nil => exact absurd hrest htodo
  | cons e rest =>
    cases hop : op e with
    | none => exact .inl ⟨_, .other hrest hop⟩
    | some o =>
      cases o with
      | release m => exact .inl ⟨_, .release hrest hop⟩
      | acquire m =>
        cases howner : s.owner m with
        | none => exact .inl ⟨_, .acquire hrest hop howner⟩
        | some j => exact .inr ⟨m, j, ⟨e, rest, hrest, hop⟩, howner⟩

/-- What a step is for another thread. -/
theorem Step.of_ne {i j : ι} {s s' : System ι μ ε} (hstep : Step op j s s') (hne : i ≠ j) :
    s'.todo i = s.todo i ∧ ∀ m, s'.owner m = some i → s.owner m = some i := by
  cases hstep with
  | other htodo hop => exact ⟨Function.update_of_ne hne .., fun _ h => h⟩
  | @acquire e rest m htodo hop hfree =>
    refine ⟨Function.update_of_ne hne .., fun m' h => ?_⟩
    by_cases hm : m' = m
    · subst hm
      have hj : some j = some i := (Function.update_self m' (some j) s.owner).symm.trans h
      exact absurd (Option.some.inj hj).symm hne
    · exact (Function.update_of_ne hm (some j) s.owner).symm.trans h
  | @release e rest m htodo hop =>
    refine ⟨Function.update_of_ne hne .., fun m' h => ?_⟩
    by_cases hm : m' = m
    · subst hm
      exact absurd ((Function.update_self m' none s.owner).symm.trans h) nofun
    · exact (Function.update_of_ne hm none s.owner).symm.trans h

/-- What a step is for its own thread. -/
theorem Step.self {i : ι} {s s' : System ι μ ε} (hstep : Step op i s s') :
    ∃ e rest, s.todo i = e :: rest ∧ s'.todo i = rest ∧
      ((op e = none ∧ s'.owner = s.owner) ∨
        (∃ m, op e = some (.acquire m) ∧ s'.owner = Function.update s.owner m (some i)) ∨
        ∃ m, op e = some (.release m) ∧ s'.owner = Function.update s.owner m none) := by
  cases hstep with
  | other htodo hop => exact ⟨_, _, htodo, Function.update_self .., .inl ⟨hop, rfl⟩⟩
  | acquire htodo hop hfree =>
    exact ⟨_, _, htodo, Function.update_self .., .inr (.inl ⟨_, hop, rfl⟩)⟩
  | release htodo hop =>
    exact ⟨_, _, htodo, Function.update_self .., .inr (.inr ⟨_, hop, rfl⟩)⟩

theorem TidyThread.step {s s' : System ι μ ε} {i j : ι} (hi : TidyThread op r s i)
    (hstep : Step op j s s') : TidyThread op r s' i := by
  obtain ⟨held, howner, hordered, hreleased⟩ := hi
  -- either the thread moves itself, or another one does, which leaves it alone
  by_cases hne : i = j
  · subst hne
    obtain ⟨e, rest, htodo, htodo', heffect⟩ := hstep.self
    rw [htodo] at hordered hreleased
    rcases heffect with ⟨hop, howner'⟩ | ⟨m, hop, howner'⟩ | ⟨m, hop, howner'⟩
    · rw [List.filterMap_cons_none hop] at hordered hreleased
      exact ⟨held, howner' ▸ howner, htodo' ▸ hordered, htodo' ▸ hreleased⟩
    · -- it acquires `m`, which it may from now on hold
      rw [List.filterMap_cons_some hop] at hordered hreleased
      refine ⟨insert m held, fun m' h => ?_, htodo' ▸ hordered.2, htodo' ▸ hreleased⟩
      by_cases hm : m' = m
      · exact hm ▸ Set.mem_insert _ _
      · rw [howner', Function.update_of_ne hm] at h
        exact Set.mem_insert_of_mem _ (howner m' h)
    · -- it releases `m`, which nobody owns afterwards
      rw [List.filterMap_cons_some hop] at hordered hreleased
      refine ⟨held \ {m}, fun m' h => ?_, htodo' ▸ hordered.2, htodo' ▸ hreleased⟩
      by_cases hm : m' = m
      · rw [howner', hm, Function.update_self] at h
        exact absurd h nofun
      · rw [howner', Function.update_of_ne hm] at h
        exact ⟨howner m' h, hm⟩
  · -- no step of another thread gives it a mutex
    obtain ⟨htodo, howner'⟩ := hstep.of_ne hne
    exact ⟨held, fun m h => howner m (howner' m h), htodo ▸ hordered, htodo ▸ hreleased⟩

theorem Reachable.tidyThread {traces : ι → List ε} {s : System ι μ ε}
    (hs : Reachable op traces s) {i : ι} (hi : Tidy op r (traces i)) : TidyThread op r s i := by
  induction hs with
  | refl => exact ⟨∅, nofun, hi.ordered, hi.released⟩
  | tail _ hstep ih =>
    obtain ⟨j, hstep⟩ := hstep
    exact ih.step hstep

/-! ### No deadlock between different threads -/

/-- Inside a section only locks of higher rank are acquired. -/
def Inside [LT ρ] (rank : μ → ρ) (m' m : μ) : Prop := rank m' < rank m

/-- The same, or the lock of the section itself. -/
def InsideOrSame [LT ρ] (rank : μ → ρ) (m' m : μ) : Prop := m' = m ∨ rank m' < rank m

section

variable [Preorder ρ] {rank : μ → ρ} {traces : ι → List ε} {s : System ι μ ε}

/-- Behind a thread that waits at a lock is, at the end, one that can go on or waits for itself. -/
theorem progress_of_waitsAt [WellFoundedGT ρ] (hs : ∀ i, TidyThread op (InsideOrSame rank) s i)
    {m : μ} {i j : ι} (hwaits : WaitsAt op s m i j) :
    ∃ k, Relation.ReflTransGen (WaitsFor op s) i k ∧ (CanGoOn op s k ∨ WaitsFor op s k k) := by
  -- the ranks of the locks along the chain increase
  induction hrank : rank m using WellFoundedGT.induction generalizing m i j with
  | _ x ih =>
    subst hrank
    have hfirst : Relation.ReflTransGen (WaitsFor op s) i j := .single ⟨m, hwaits⟩
    obtain ⟨hunfinished, hasks⟩ := (hs j).of_owner hwaits.owner
    have hnext : CanGoOn op s j ∨ ∃ m' k, WaitsAt op s m' j k := canGoOn_or_waitsAt hunfinished
    rcases hnext with hgoes | ⟨m', k, hwaits'⟩
    · exact ⟨j, hfirst, .inl hgoes⟩
    · rcases hasks m' k hwaits' with rfl | hlt
      · -- it asks for the lock that it is the owner of
        obtain rfl : j = k := Option.some.inj (hwaits.owner.symm.trans hwaits'.owner)
        exact ⟨j, hfirst, .inr ⟨m, hwaits'⟩⟩
      · obtain ⟨l, hchain, hend⟩ := ih (rank m') hlt hwaits' rfl
        exact ⟨l, hfirst.trans hchain, hend⟩

/-- **No deadlock between different threads**: whoever waits for whom, at the end is a thread that
can go on or one that waits for itself. -/
theorem Reachable.progress [WellFoundedGT ρ] (hs : Reachable op traces s)
    (htraces : ∀ i, Tidy op (InsideOrSame rank) (traces i)) {i : ι} (htodo : s.todo i ≠ []) :
    ∃ j, Relation.ReflTransGen (WaitsFor op s) i j ∧ (CanGoOn op s j ∨ WaitsFor op s j j) := by
  have hnext : CanGoOn op s i ∨ ∃ m j, WaitsAt op s m i j := canGoOn_or_waitsAt htodo
  rcases hnext with hgoes | ⟨m, j, hwaits⟩
  · exact ⟨i, .refl, .inl hgoes⟩
  · exact progress_of_waitsAt (fun i => hs.tidyThread (htraces i)) hwaits

/-- A thread that acquires only locks of higher rank does not wait for itself. -/
theorem Reachable.not_waitsFor_self (hs : Reachable op traces s) {i : ι}
    (hi : Tidy op (Inside rank) (traces i)) : ¬ WaitsFor op s i i := by
  rintro ⟨m, hwaits⟩
  exact lt_irrefl _ (((hs.tidyThread hi).of_owner hwaits.owner).2 m i hwaits)

end

end LockOrder
