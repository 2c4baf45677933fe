import Mathlib.Data.List.Chain
import Mathlib.Data.List.TakeWhile
import Mathlib.Tactic.SplitIfs

/-!
# A walk over an array that shifts under it

A loop walks an array of `n` entries by index for `n` turns.  It keeps a good entry; one that is not
it removes, and the entries behind move down.  The index advances all the same, so the entry behind
a removed one is passed over, and past what is left the loop reads the last entry of the array over
again, where nothing is removed any more.  `kept` and `removed` are what such a walk keeps and how
many entries it removes.

The walk filters the array exactly if no two entries it removes are adjacent, an entry removed at
the end is the only one, and the entries kept behind the first removed one are all equal
(`filters_iff`).
-/

namespace ShiftingWalk

variable {α : Type*}

/-- What `n` turns keep: `l` are the entries not yet reached, `last` is the last of the array. -/
def kept (good : α → Bool) (last : α) : ℕ → List α → List α
  | 0, _ => []
  | n + 1, [] => if good last then last :: kept good last n [] else kept good last n []
  | n + 1, x :: l => if good x then x :: kept good last n l else kept good last n l.tail

/-- How many entries `n` turns remove. -/
def removed (good : α → Bool) : ℕ → List α → ℕ
  | 0, _ => 0
  | n + 1, [] => removed good n []
  | n + 1, x :: l => if good x then removed good n l else removed good n l.tail + 1

variable {good : α → Bool} {last : α}

/-! ### One turn -/

theorem kept_cons_of_good {x : α} (h : good x = true) (n : ℕ) (l : List α) :
    kept good last (n + 1) (x :: l) = x :: kept good last n l :=
  if_pos h

theorem kept_cons_of_bad {x : α} (h : good x = false) (n : ℕ) (l : List α) :
    kept good last (n + 1) (x :: l) = kept good last n l.tail :=
  if_neg (Bool.eq_false_iff.mp h)

theorem removed_cons_of_good {x : α} (h : good x = true) (n : ℕ) (l : List α) :
    removed good (n + 1) (x :: l) = removed good n l :=
  if_pos h

theorem removed_cons_of_bad {x : α} (h : good x = false) (n : ℕ) (l : List α) :
    removed good (n + 1) (x :: l) = removed good n l.tail + 1 :=
  if_neg (Bool.eq_false_iff.mp h)

/-- Past the end a good last entry is kept at each turn. -/
theorem kept_nil_of_good (h : good last = true) (n : ℕ) :
    kept good last n [] = List.replicate n last := by
  induction n with
  | zero => rfl
  | succ n ih =>
    have hturn : kept good last (n + 1) [] = last :: kept good last n [] := if_pos h
    rw [hturn, ih, List.replicate_succ]

/-- One that is not good is passed over. -/
theorem kept_nil_of_bad (h : good last = false) (n : ℕ) : kept good last n [] = [] := by
  induction n with
  | zero => rfl
  | succ n ih =>
    have hturn : kept good last (n + 1) [] = kept good last n [] :=
      if_neg (Bool.eq_false_iff.mp h)
    rw [hturn, ih]

theorem removed_nil (n : ℕ) : removed good n [] = 0 := by
  induction n with
  | zero => rfl
  | succ n ih => exact ih

/-- A turn that keeps, wherever it is. -/
theorem kept_succ_of_good {l : List α} (h : good (l.headD last) = true) (n : ℕ) :
    kept good last (n + 1) l = l.headD last :: kept good last n l.tail ∧
      removed good (n + 1) l = removed good n l.tail := by
  cases l with
  | nil => exact ⟨if_pos h, rfl⟩
  | cons x l => exact ⟨kept_cons_of_good h n l, removed_cons_of_good h n l⟩

/-- A turn that does not: it removes an entry unless it is past the end. -/
theorem kept_succ_of_bad {l : List α} (h : good (l.headD last) = false) (n : ℕ) :
    kept good last (n + 1) l = kept good last n (l.drop 2) ∧
      removed good (n + 1) l = removed good n (l.drop 2) + min 1 l.length := by
  cases l with
  | nil => exact ⟨if_neg (Bool.eq_false_iff.mp h), rfl⟩
  | cons x l =>
    have hmin : min 1 (x :: l).length = 1 := min_eq_left (Nat.le_add_left 1 l.length)
    rw [List.drop_succ_cons, List.drop_one, hmin]
    exact ⟨kept_cons_of_bad h n l, removed_cons_of_bad h n l⟩

/-! ### Counting the turns -/

/-- If the last entry is good, each turn keeps an entry or removes one. -/
theorem length_kept_add_removed (hlast : good last = true) (n : ℕ) (l : List α) :
    (kept good last n l).length + removed good n l = n := by
  induction n generalizing l with
  | zero => rfl
  | succ n ih =>
    cases l with
    | nil => rw [kept_nil_of_good hlast, removed_nil, List.length_replicate]
    | cons x l =>
      cases hx : good x with
      | true =>
        rw [kept_cons_of_good hx, removed_cons_of_good hx, List.length_cons]
        have := ih l
        omega
      | false =>
        rw [kept_cons_of_bad hx, removed_cons_of_bad hx]
        have := ih l.tail
        omega

/-- If it is not, a turn past the end does neither. -/
theorem length_kept_add_removed_le_min (hlast : good last = false) (n : ℕ) (l : List α) :
    (kept good last n l).length + removed good n l ≤ min n l.length := by
  induction n generalizing l with
  | zero => exact Nat.zero_le _
  | succ n ih =>
    cases l with
    -- an index past the end, where the last entry stays
    | nil =>
      rw [kept_nil_of_bad hlast, removed_nil]
      exact Nat.zero_le _
    | cons x l =>
      cases hx : good x with
      | true =>
        rw [kept_cons_of_good hx, removed_cons_of_good hx, List.length_cons, List.length_cons]
        have := ih l
        omega
      | false =>
        rw [kept_cons_of_bad hx, removed_cons_of_bad hx, List.length_cons]
        have := ih l.tail
        rw [List.length_tail] at this
        omega

/-- In no turn both happen. -/
theorem length_kept_add_removed_le (n : ℕ) (l : List α) :
    (kept good last n l).length + removed good n l ≤ n := by
  cases hlast : good last with
  | true => exact (length_kept_add_removed hlast n l).le
  | false => exact (length_kept_add_removed_le_min hlast n l).trans (min_le_left _ _)

/-- If the last entry is good, a turn keeps nothing only at an entry that is not. -/
theorem add_length_filter_le (hlast : good last = true) (n : ℕ) (l : List α) :
    n + (l.filter good).length ≤ (kept good last n l).length + l.length := by
  -- by induction on the turns that are left, for every list
  induction n generalizing l with
  | zero =>
    have := List.length_filter_le good l
    omega
  | succ n ih =>
    cases l with
    | nil =>
      rw [kept_nil_of_good hlast, List.length_replicate]
      exact le_refl _
    | cons x l =>
      cases hx : good x with
      | true =>
        rw [kept_cons_of_good hx, List.filter_cons_of_pos hx, List.length_cons, List.length_cons,
          List.length_cons]
        have := ih l
        omega
      | false =>
        rw [kept_cons_of_bad hx, List.filter_cons_of_neg (Bool.eq_false_iff.mp hx),
          List.length_cons]
        have htail := ih l.tail
        -- what is passed over is at most one entry
        have hpassed : (l.filter good).length + l.tail.length ≤
            (l.tail.filter good).length + l.length := by
          cases l with
          | nil => exact le_refl _
          | cons y l =>
            rw [List.filter_cons, List.tail_cons, List.length_cons]
            split_ifs
            · rw [List.length_cons]
              omega
            · omega
        omega

/-! ### Up to the first entry that is removed -/

theorem kept_append {pre : List α} (hpre : ∀ a ∈ pre, good a = true) (n : ℕ) (rest : List α) :
    kept good last (pre.length + n) (pre ++ rest) = pre ++ kept good last n rest := by
  induction pre with
  | nil => rw [List.length_nil, Nat.zero_add, List.nil_append, List.nil_append]
  | cons a pre ih =>
    have hlen : (a :: pre).length + n = pre.length + n + 1 := by rw [List.length_cons]; omega
    rw [hlen, List.cons_append, kept_cons_of_good (hpre a List.mem_cons_self),
      ih fun b hb => hpre b (List.mem_cons_of_mem a hb), List.cons_append]

theorem removed_append {pre : List α} (hpre : ∀ a ∈ pre, good a = true) (n : ℕ) (rest : List α) :
    removed good (pre.length + n) (pre ++ rest) = removed good n rest := by
  induction pre with
  | nil => rw [List.length_nil, Nat.zero_add, List.nil_append]
  | cons a pre ih =>
    have hlen : (a :: pre).length + n = pre.length + n + 1 := by rw [List.length_cons]; omega
    rw [hlen, List.cons_append, removed_cons_of_good (hpre a List.mem_cons_self),
      ih fun b hb => hpre b (List.mem_cons_of_mem a hb)]

/-! ### Exactness -/

/-- The walk over all of `l` keeps the good entries, and leaves an array of as many. -/
structure Filters (good : α → Bool) (last : α) (l : List α) : Prop where
  keeps : kept good last l.length l = l.filter good
  leaves : (kept good last l.length l).length + removed good l.length l = l.length

/-- No two entries that are removed are adjacent, one removed at the end is the only one, and those
to be kept behind the first removed one are all equal to the last entry. -/
structure Harmless (good : α → Bool) (last : α) (l : List α) : Prop where
  isolated : l.IsChain fun a b => good a = true ∨ good b = true
  only : good last = false → (l.countP fun a => !good a) = 1
  const : ∀ a ∈ l.dropWhile good, good a = true → a = last

theorem isChain_cons_of_good {x : α} (hx : good x = true) (l : List α) :
    ((x :: l).IsChain fun a b => good a = true ∨ good b = true) ↔
      l.IsChain fun a b => good a = true ∨ good b = true := by
  rw [List.isChain_cons, and_iff_right fun _ _ => .inl hx]

theorem filters_append {pre : List α} (hpre : ∀ a ∈ pre, good a = true) (rest : List α) :
    Filters good last (pre ++ rest) ↔ Filters good last rest := by
  have hkept : kept good last (pre.length + rest.length) (pre ++ rest) =
      pre ++ kept good last rest.length rest := kept_append hpre rest.length rest
  have hremoved := removed_append hpre rest.length rest
  have hfilter : (pre ++ rest).filter good = pre ++ rest.filter good := by
    rw [List.filter_append, List.filter_eq_self.mpr hpre]
  rw [← List.length_append] at hkept hremoved
  constructor
  · rintro ⟨hkeeps, hleaves⟩
    rw [hkept, hfilter, List.append_cancel_left_eq] at hkeeps
    rw [hkept, hremoved, List.length_append, List.length_append] at hleaves
    exact ⟨hkeeps, by omega⟩
  · rintro ⟨hkeeps, hleaves⟩
    refine ⟨by rw [hkept, hfilter, hkeeps], ?_⟩
    rw [hkept, hremoved, List.length_append, List.length_append]
    omega

theorem harmless_append {pre : List α} (hpre : ∀ a ∈ pre, good a = true) (rest : List α) :
    Harmless good last (pre ++ rest) ↔ Harmless good last rest := by
  have hchain : ((pre ++ rest).IsChain fun a b => good a = true ∨ good b = true) ↔
      rest.IsChain fun a b => good a = true ∨ good b = true := by
    induction pre with
    | nil => rfl
    | cons a pre ih =>
      rw [List.cons_append, isChain_cons_of_good (hpre a List.mem_cons_self)]
      exact ih fun b hb => hpre b (List.mem_cons_of_mem a hb)
  have hcount : ((pre ++ rest).countP fun a => !good a) = rest.countP fun a => !good a := by
    rw [List.countP_append, List.countP_eq_zero.mpr fun a ha => by rw [hpre a ha]; decide,
      Nat.zero_add]
  have hdrop : (pre ++ rest).dropWhile good = rest.dropWhile good :=
    List.dropWhile_append_of_pos hpre
  constructor
  · rintro ⟨hisolated, honly, hconst⟩
    exact ⟨hchain.mp hisolated, hcount ▸ honly, hdrop ▸ hconst⟩
  · rintro ⟨hisolated, honly, hconst⟩
    exact ⟨hchain.mpr hisolated, hcount ▸ honly, hdrop ▸ hconst⟩

/-- A walk from behind the first entry that it removes: `u` are the entries kept since, one for each
entry passed over, and each turn it gains by these reads the last entry again at the end. -/
theorem kept_eq_append_filter_iff (hlast : good last = true) {l u : List α}
    (hend : (u ++ l).getLast? = some last) (hhead : u = [] → ∀ x ∈ l.head?, good x = false) :
    kept good last (l.length + u.length) l = u ++ l.filter good ↔
      (l.IsChain fun a b => good a = true ∨ good b = true) ∧
        ∀ a ∈ u ++ l.filter good, a = last := by
  induction hlen : l.length using Nat.strong_induction_on generalizing l u with
  | _ m ih =>
    subst hlen
    cases l with
    | nil =>
      rw [kept_nil_of_good hlast, List.filter_nil, List.append_nil, List.length_nil, Nat.zero_add,
        eq_comm, List.eq_replicate_iff, and_iff_right rfl, and_iff_right List.isChain_nil]
    | cons x l =>
      cases hx : good x with
      | true =>
        -- `x` takes the place of the first of `u`
        have hu : u ≠ [] := fun hu => by simpa [hx] using hhead hu x rfl
        obtain ⟨a, u, rfl⟩ := List.exists_cons_of_ne_nil hu
        have hend' : (u ++ [x] ++ l).getLast? = some last := by
          rw [List.append_assoc, List.singleton_append]
          rwa [List.cons_append, List.getLast?_cons_of_ne_nil (by simp)] at hend
        have hiff := ih l.length (by simp) hend' (by simp) rfl
        have hturns : (x :: l).length + (a :: u).length = l.length + (u ++ [x]).length + 1 := by
          simp only [List.length_cons, List.length_append, List.length_nil]
          omega
        have hsplit : u ++ (x :: l).filter good = u ++ [x] ++ l.filter good := by
          rw [List.filter_cons_of_pos hx, List.append_assoc, List.singleton_append]
        rw [hturns, kept_cons_of_good hx, List.cons_append, hsplit, List.cons.injEq, hiff,
          isChain_cons_of_good hx, List.forall_mem_cons]
        constructor
        · rintro ⟨rfl, hchain, hconst⟩
          exact ⟨hchain, hconst x (by simp), hconst⟩
        · rintro ⟨hchain, rfl, hconst⟩
          exact ⟨hconst x (by simp), hchain, hconst⟩
      | false =>
        cases l with
        | nil =>
          -- the last entry is good
          have hxlast : x = last := by simpa using hend
          rw [hxlast, hlast] at hx
          exact absurd hx (by decide)
        | cons y l =>
          have hturns : (x :: y :: l).length + u.length = l.length + (u ++ [y]).length + 1 := by
            simp only [List.length_cons, List.length_append, List.length_nil]
            omega
          rw [hturns, kept_cons_of_bad hx, List.tail_cons,
            List.filter_cons_of_neg (Bool.eq_false_iff.mp hx), List.isChain_cons_cons]
          cases hy : good y with
          | true =>
            -- `y` is passed over, and joins `u`
            have hend' : (u ++ [y] ++ l).getLast? = some last := by
              rw [List.append_assoc, List.singleton_append, List.getLast?_append_cons]
              rwa [List.getLast?_append_cons, List.getLast?_cons_cons] at hend
            have hshorter : l.length < (x :: y :: l).length := by
              rw [List.length_cons, List.length_cons]
              omega
            have hiff := ih l.length hshorter hend' (by simp) rfl
            have hsplit : u ++ (y :: l).filter good = u ++ [y] ++ l.filter good := by
              rw [List.filter_cons_of_pos hy, List.append_assoc, List.singleton_append]
            rw [hsplit, hiff, isChain_cons_of_good hy, and_iff_right (Or.inr rfl)]
          | false =>
            -- the turn at `x` passes over `y` too, and an entry is kept that is not in the list
            refine iff_of_false (fun heq => ?_) fun h => ?_
            · have hcount := add_length_filter_le hlast (l.length + (u ++ [y]).length) l
              rw [heq, List.filter_cons_of_neg (Bool.eq_false_iff.mp hy)] at hcount
              simp only [List.length_append, List.length_singleton] at hcount
              omega
            · rcases h.1.1 with hgood | hgood
              · exact absurd (hx.symm.trans hgood) Bool.false_ne_true
              · exact absurd hgood Bool.false_ne_true

/-- The walk over an array that begins with an entry it removes. -/
theorem filters_cons_iff {x : α} (hx : good x = false) {l : List α}
    (hend : (x :: l).getLast? = some last) :
    Filters good last (x :: l) ↔ Harmless good last (x :: l) := by
  have hdrop : (x :: l).dropWhile good = x :: l :=
    List.dropWhile_cons_of_neg (Bool.eq_false_iff.mp hx)
  cases hlast : good last with
  | true =>
    -- what is kept behind the end are copies of the last entry
    have hiff := kept_eq_append_filter_iff hlast (u := []) hend fun _ y hy => by
      rwa [← Option.some.inj hy]
    have hconst : (∀ a ∈ (x :: l).filter good, a = last) ↔
        ∀ a ∈ (x :: l).dropWhile good, good a = true → a = last := by
      simp only [hdrop, List.mem_filter, and_imp]
    constructor
    · rintro ⟨hkept, -⟩
      obtain ⟨hchain, hall⟩ := hiff.mp hkept
      exact ⟨hchain, fun h => absurd (hlast.symm.trans h) Bool.false_ne_true.symm, hconst.mp hall⟩
    · intro h
      exact ⟨hiff.mpr ⟨h.isolated, hconst.mpr h.const⟩, length_kept_add_removed hlast _ _⟩
  | false =>
    -- behind the end the walk removes an entry at every turn
    cases l with
    | nil =>
      refine iff_of_true ⟨?_, ?_⟩ ⟨List.isChain_singleton x, fun _ => ?_, ?_⟩
      · rw [List.length_singleton, kept_cons_of_bad hx,
          List.filter_cons_of_neg (Bool.eq_false_iff.mp hx)]
        rfl
      · rw [List.length_singleton, kept_cons_of_bad hx, removed_cons_of_bad hx]
        rfl
      · rw [List.countP_singleton, hx]
        rfl
      · intro a ha hgood
        rw [hdrop, List.mem_singleton] at ha
        rw [ha, hx] at hgood
        exact absurd hgood Bool.false_ne_true
    | cons y l =>
      refine iff_of_false (fun h => ?_) fun h => ?_
      · -- the turn at the last index is past the end
        have hle := length_kept_add_removed_le_min hlast (y :: l).length l
        have hleaves := h.leaves
        rw [List.length_cons, kept_cons_of_bad hx, removed_cons_of_bad hx, List.tail_cons]
          at hleaves
        rw [List.length_cons] at hle hleaves
        omega
      · -- the last entry is another one that is removed
        have hmem : last ∈ y :: l := by
          rw [List.getLast?_cons_cons] at hend
          exact List.mem_of_getLast? hend
        have hpos : 0 < (y :: l).countP fun a => !good a :=
          List.countP_pos_iff.mpr ⟨last, hmem, by rw [hlast]; rfl⟩
        have honly := h.only hlast
        rw [List.countP_cons_of_pos (by rw [hx]; rfl)] at honly
        omega

/-- **When the walk filters an array**: exactly if it is harmless. -/
theorem filters_iff {l : List α} (hend : l.getLast? = some last) :
    Filters good last l ↔ Harmless good last l := by
  have hgood : ∀ a ∈ l.takeWhile good, good a = true := fun a ha => List.mem_takeWhile_imp ha
  have hl : l.takeWhile good ++ l.dropWhile good = l := List.takeWhile_append_dropWhile
  rw [← hl, filters_append hgood, harmless_append hgood]
  cases hrest : l.dropWhile good with
  | nil =>
    -- all entries are good, the last one too
    have hlast : good last = true := by
      rw [hrest, List.append_nil] at hl
      exact hgood last (hl.symm ▸ List.mem_of_getLast? hend)
    refine iff_of_true ⟨rfl, rfl⟩ ⟨List.isChain_nil, fun h => ?_, fun a ha => ?_⟩
    · exact absurd (hlast.symm.trans h) Bool.false_ne_true.symm
    · exact absurd ha List.not_mem_nil
  | cons x rest =>
    have hx : good x = false := by
      have := List.head?_dropWhile_not good l
      rwa [hrest] at this
    refine filters_cons_iff hx ?_
    rwa [← hl, hrest, List.getLast?_append_cons] at hend

end ShiftingWalk
