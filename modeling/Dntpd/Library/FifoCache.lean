import Mathlib.Data.Finset.Card

/-!
# A bounded cache of keys with first-in-first-out eviction

`push cap q a` is what a request of the key `a` does to the cached keys: nothing if it is cached,
and otherwise it is appended, the first key making room in a full cache.  `queue cap keys` are the
keys cached after a history of requests, in the order in which they came in.

`latest history a` is the stamp of the last request of `a` in a history of stamped requests; it says
nothing about the order of the queue, since a request of a cached key does not move it.
-/

universe u v

namespace FifoCache

variable {α : Type u} {τ : Type v} [DecidableEq α]

/-- A request of `a`. -/
def push (cap : ℕ) (q : List α) (a : α) : List α :=
  if a ∈ q then q else (if q.length ≥ cap then q.tail else q) ++ [a]

/-- The keys cached after the requests. -/
def queue (cap : ℕ) (keys : List α) : List α := keys.foldl (push cap) []

/-- The stamp of the last request of `a`. -/
def latest (history : List (α × τ)) (a : α) : Option τ :=
  (history.reverse.find? fun x => x.1 = a).map Prod.snd

/-- A list that grows at its end. -/
theorem pairwise_append_singleton_iff {β : Type u} {R : β → β → Prop} {l : List β} {a : β} :
    (l ++ [a]).Pairwise R ↔ l.Pairwise R ∧ ∀ b ∈ l, R b a := by
  rw [List.pairwise_append, and_iff_right (List.pairwise_singleton R a)]
  simp only [List.mem_singleton, forall_eq]

/-! ### One request -/

section

variable {cap : ℕ} {q : List α} {a b : α}

theorem push_of_mem (h : a ∈ q) : push cap q a = q := if_pos h

theorem push_of_lt (h : a ∉ q) (hlen : q.length < cap) : push cap q a = q ++ [a] := by
  unfold push
  rw [if_neg h, if_neg (Nat.not_le.mpr hlen)]

theorem push_of_ge (h : a ∉ q) (hlen : cap ≤ q.length) : push cap q a = q.tail ++ [a] := by
  unfold push
  rw [if_neg h, if_pos hlen]

theorem push_nodup (h : q.Nodup) : (push cap q a).Nodup := by
  have hkept : ∀ l : List α, l.Sublist q → a ∉ q → (l ++ [a]).Nodup := by
    intro l hl hnot
    refine pairwise_append_singleton_iff.mpr ⟨h.sublist hl, ?_⟩
    rintro b hb rfl
    exact hnot (hl.subset hb)
  unfold push
  split_ifs with hmem hfull
  · exact h
  · exact hkept _ (List.tail_sublist q) hmem
  · exact hkept _ (List.Sublist.refl q) hmem

theorem push_length_le (hcap : 0 < cap) (h : q.length ≤ cap) : (push cap q a).length ≤ cap := by
  unfold push
  split_ifs with hmem hfull
  · exact h
  · rw [List.length_append, List.length_tail, List.length_singleton]
    omega
  · rw [List.length_append, List.length_singleton]
    omega

theorem mem_push_self : a ∈ push cap q a := by
  unfold push
  split_ifs with hmem hfull
  · exact hmem
  · exact List.mem_append_right _ (List.mem_singleton_self a)
  · exact List.mem_append_right _ (List.mem_singleton_self a)

theorem mem_of_mem_push (h : b ∈ push cap q a) : b ∈ q ∨ b = a := by
  unfold push at h
  split_ifs at h with hmem hfull
  · exact .inl h
  · rcases List.mem_append.mp h with hb | hb
    · exact .inl (List.mem_of_mem_tail hb)
    · exact .inr (List.mem_singleton.mp hb)
  · rcases List.mem_append.mp h with hb | hb
    · exact .inl hb
    · exact .inr (List.mem_singleton.mp hb)

/-- A request drops a key exactly if it is the first one of a full cache without the requested
key. -/
theorem dropped_iff (h : q.Nodup) (hlen : q.length ≤ cap) :
    b ∈ q ∧ b ∉ push cap q a ↔ a ∉ q ∧ q.length = cap ∧ q.head? = some b := by
  constructor
  -- only a full cache drops a key, and it is the first
  · rintro ⟨hb, hgone⟩
    have ha : a ∉ q := fun ha => hgone (by rwa [push_of_mem ha])
    have hfull : cap ≤ q.length := by
      refine not_lt.mp fun hlt => hgone ?_
      rw [push_of_lt ha hlt]
      exact List.mem_append_left _ hb
    rw [push_of_ge ha hfull] at hgone
    refine ⟨ha, le_antisymm hlen hfull, ?_⟩
    cases q with
    | nil => exact absurd hb List.not_mem_nil
    | cons c q =>
      rcases List.mem_cons.mp hb with rfl | hb
      · rfl
      · exact absurd (List.mem_append_left _ hb) hgone
  · rintro ⟨ha, hfull, hhead⟩
    obtain ⟨q, rfl⟩ := List.head?_eq_some_iff.mp hhead
    refine ⟨List.mem_cons_self, ?_⟩
    rw [push_of_ge ha hfull.ge, List.tail_cons, List.mem_append, List.mem_singleton, not_or]
    exact ⟨(List.nodup_cons.mp h).1, fun heq => ha (heq ▸ List.mem_cons_self)⟩

end

/-! ### Histories -/

section

variable {cap : ℕ} {keys : List α}

@[simp] theorem queue_nil : queue cap ([] : List α) = [] := rfl

theorem queue_append_singleton (a : α) : queue cap (keys ++ [a]) = push cap (queue cap keys) a := by
  unfold queue
  rw [List.foldl_append]
  rfl

theorem queue_nodup : (queue cap keys).Nodup := by
  induction keys using List.reverseRecOn with
  | nil => exact List.nodup_nil
  | append_singleton keys a ih =>
    rw [queue_append_singleton]
    exact push_nodup ih

theorem queue_length_le (hcap : 0 < cap) : (queue cap keys).length ≤ cap := by
  induction keys using List.reverseRecOn with
  | nil => exact Nat.zero_le cap
  | append_singleton keys a ih =>
    rw [queue_append_singleton]
    exact push_length_le hcap ih

theorem mem_of_mem_queue {a : α} (h : a ∈ queue cap keys) : a ∈ keys := by
  induction keys using List.reverseRecOn with
  | nil => exact absurd h List.not_mem_nil
  | append_singleton keys b ih =>
    rw [queue_append_singleton] at h
    rcases mem_of_mem_push h with hq | rfl
    · exact List.mem_append_left _ (ih hq)
    · exact List.mem_append_right _ (List.mem_singleton_self _)

/-- Different keys that fit are all cached, in their order. -/
theorem queue_of_nodup (h : keys.Nodup) (hlen : keys.length ≤ cap) : queue cap keys = keys := by
  induction keys using List.reverseRecOn with
  | nil => rfl
  | append_singleton keys a ih =>
    rw [List.length_append, List.length_singleton] at hlen
    obtain ⟨hkeys, hnew⟩ := pairwise_append_singleton_iff.mp h
    rw [queue_append_singleton, ih hkeys (by omega)]
    exact push_of_lt (fun ha => hnew a ha rfl) (by omega)

/-- As long as there are no more keys than places, none is evicted. -/
theorem mem_queue_of_card_le {s : Finset α} (hs : s.card ≤ cap) (hkeys : ∀ a ∈ keys, a ∈ s) :
    ∀ a ∈ keys, a ∈ queue cap keys := by
  -- by induction on the history, whose last key is the one pushed last
  induction keys using List.reverseRecOn with
  | nil => exact fun a h => absurd h List.not_mem_nil
  | append_singleton keys b ih =>
    have hkept := ih fun a ha => hkeys a (List.mem_append_left _ ha)
    rw [queue_append_singleton]
    intro a ha
    rcases List.mem_append.mp ha with ha | ha
    · by_cases hb : b ∈ queue cap keys
      · rw [push_of_mem hb]
        exact hkept a ha
      · -- the cached keys and the new one are different members of `s`
        have hsubset : (b :: queue cap keys).toFinset ⊆ s := by
          intro c hc
          rcases List.mem_cons.mp (List.mem_toFinset.mp hc) with rfl | hc
          · exact hkeys c (List.mem_append_right _ (List.mem_singleton_self c))
          · exact hkeys c (List.mem_append_left _ (mem_of_mem_queue hc))
        have hcard := Finset.card_le_card hsubset
        rw [List.toFinset_card_of_nodup (List.nodup_cons.mpr ⟨hb, queue_nodup⟩),
          List.length_cons] at hcard
        -- so there is room, and the push drops nothing
        rw [push_of_lt hb (by omega)]
        exact List.mem_append_left _ (hkept a ha)
    · rw [List.mem_singleton.mp ha]
      exact mem_push_self

end

/-! ### Stamps -/

section

variable {history : List (α × τ)} {a : α}

@[simp] theorem latest_nil : latest ([] : List (α × τ)) a = none := rfl

theorem latest_append_singleton (b : α) (t : τ) :
    latest (history ++ [(b, t)]) a = if b = a then some t else latest history a := by
  unfold latest
  rw [List.reverse_append, List.reverse_singleton, List.singleton_append, List.find?_cons]
  by_cases h : b = a
  · simp [h]
  · simp [h]

theorem latest_eq_none_iff : latest history a = none ↔ a ∉ history.map Prod.fst := by
  unfold latest
  rw [Option.map_eq_none_iff, List.find?_eq_none]
  constructor
  · intro h hmem
    obtain ⟨x, hx, hxa⟩ := List.mem_map.mp hmem
    exact h x (List.mem_reverse.mpr hx) (decide_eq_true hxa)
  · intro h x hx hxa
    exact h (List.mem_map.mpr ⟨x, List.mem_reverse.mp hx, of_decide_eq_true hxa⟩)

theorem mem_of_latest {t : τ} (h : latest history a = some t) : (a, t) ∈ history := by
  unfold latest at h
  obtain ⟨x, hx, rfl⟩ := Option.map_eq_some_iff.mp h
  have hkey : x.1 = a := by simpa using List.find?_some hx
  rw [← hkey]
  exact List.mem_reverse.mp (List.mem_of_find?_eq_some hx)

/-- Keys that were all requested at one time. -/
theorem latest_map_const {keys : List α} (h : a ∈ keys) (t : τ) :
    latest (keys.map fun k => (k, t)) a = some t := by
  cases hlatest : latest (keys.map fun k => (k, t)) a with
  | none =>
    rw [latest_eq_none_iff, List.map_map] at hlatest
    exact absurd (List.mem_map_of_mem h) hlatest
  | some u =>
    obtain ⟨k, -, hk⟩ := List.mem_map.mp (mem_of_latest hlatest)
    exact congrArg some (Prod.mk.inj hk).2.symm

/-- When the stamps do not decrease, the last request of a key has its largest stamp. -/
theorem le_latest [Preorder τ] (hsorted : history.Pairwise fun x y => x.2 ≤ y.2) {x : α × τ}
    (hx : x ∈ history) {t : τ} (ht : latest history x.1 = some t) : x.2 ≤ t := by
  induction history using List.reverseRecOn with
  | nil => exact absurd hx List.not_mem_nil
  | append_singleton history y ih =>
    obtain ⟨hrest, hlast⟩ := pairwise_append_singleton_iff.mp hsorted
    rw [latest_append_singleton] at ht
    split_ifs at ht with hkey
    · obtain rfl := Option.some.inj ht
      rcases List.mem_append.mp hx with hx | hx
      · exact hlast x hx
      · rw [List.mem_singleton.mp hx]
    · rcases List.mem_append.mp hx with hx | hx
      · exact ih hrest hx ht
      · exact absurd (congrArg Prod.fst (List.mem_singleton.mp hx)).symm hkey

end

end FifoCache
