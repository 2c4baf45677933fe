import Dntpd.Spec.PeerSelection
import Mathlib.Algebra.BigOperators.Group.List.Basic

/-!
# What the vote among peers returns

From three offsets on, the vote is the last of the offsets near the median if these are more than
half of all, and the median otherwise (`majorityVote_eq`).  The last of them depends on the order of
the peers and may differ from a value that more than half of the peers report
(`votesByMajority_iff`).

The byte that `compute_system_offset` makes of the vote is 16 also if the vote is 16
(`reportsErrors_iff`).
-/

namespace Dntpd

open CInt

/-- The offsets of the peers, in their order. -/
def peerOffsets (offsets : ℕ → ℤ) (count : ℤ) : List ℤ := (List.range count.toNat).map offsets

/-- The median of a list of offsets. -/
def voteMedian (l : List ℤ) : ℤ := OrderStatistics.ofRank l (l.length / 2) 0

/-- Those less than 250 ms away from it. -/
def nearVoteMedian (l : List ℤ) : List ℤ := l.filter fun x => |x - voteMedian l| < 250000

/-- The vote among three peers or more. -/
def listVote (l : List ℤ) : ℤ :=
  if l.length < 2 * (nearVoteMedian l).length then (nearVoteMedian l).getLastD (voteMedian l)
  else voteMedian l

/-! ### The loop of the vote -/

/-- The loop counts the offsets near the median and leaves the last of them. -/
theorem foldl_countMatch {median : ℤ} (hmedian : |median| < 2 ^ 62) :
    ∀ (l : List ℤ) (s : ℤ × ℤ), (∀ x ∈ l, |x| < 2 ^ 62) →
      l.foldl (countMatch median) s =
        (s.1 + (l.filter fun x => |x - median| < 250000).length,
          (l.filter fun x => |x - median| < 250000).getLastD s.2) := by
  intro l
  induction l with
  | nil => exact fun s _ => Prod.ext (add_zero s.1).symm rfl
  | cons x l ih =>
    intro s hbound
    have hx := abs64_sub (hbound x List.mem_cons_self) hmedian
    rw [List.foldl_cons, ih _ fun y hy => hbound y (List.mem_cons_of_mem x hy)]
    unfold countMatch
    rw [hx, List.filter_cons]
    -- an offset near the median is counted and replaces the one noted before
    by_cases hnear : |x - median| < 250000
    · rw [if_pos (by exact hnear), if_pos (decide_eq_true hnear), List.length_cons,
        List.getLastD_cons]
      refine Prod.ext ?_ rfl
      dsimp only
      omega
    · rw [if_neg (by exact hnear), if_neg (by rwa [decide_eq_true_iff])]

section

variable {offsets : ℕ → ℤ} {count : ℤ}

theorem length_peerOffsets (hcount : 0 ≤ count) :
    ((peerOffsets offsets count).length : ℤ) = count := by
  rw [peerOffsets, length_firstOffsets, Int.toNat_of_nonneg hcount]

theorem voteMedian_peerOffsets (offsets : ℕ → ℤ) (count : ℤ) :
    voteMedian (peerOffsets offsets count) = medianOffset offsets count.toNat := by
  rw [medianOffset_eq, voteMedian, peerOffsets, length_firstOffsets]

theorem peerOffsets_bounded (hbound : ∀ i : ℕ, i < count → |offsets i| < 2 ^ 62) :
    ∀ x ∈ peerOffsets offsets count, |x| < 2 ^ 62 := by
  intro x hx
  obtain ⟨i, hi, rfl⟩ := List.mem_map.mp hx
  exact hbound i (Int.lt_toNat.mp (List.mem_range.mp hi))

/-- **The vote in closed form**, from three offsets on. -/
theorem majorityVote_eq (hcount : 3 ≤ count)
    (hbound : ∀ i : ℕ, i < count → |offsets i| < 2 ^ 62) :
    majorityVote (some offsets) count = listVote (peerOffsets offsets count) := by
  have hmedian : |medianOffset offsets count.toNat| < 2 ^ 62 :=
    medianOffset_bounded (by omega) fun i hi => hbound i (by omega)
  have hlength : ((peerOffsets offsets count).length : ℤ) = count :=
    length_peerOffsets (by omega)
  unfold majorityVote
  dsimp only
  rw [if_neg (by omega), if_neg (by omega), if_neg (by omega)]
  have hloop := foldl_countMatch hmedian (peerOffsets offsets count) (0, 0)
    (peerOffsets_bounded hbound)
  rw [peerOffsets] at hloop
  rw [hloop, listVote, nearVoteMedian, voteMedian_peerOffsets, ← peerOffsets]
  set near := (peerOffsets offsets count).filter fun x =>
    |x - medianOffset offsets count.toNat| < 250000
  have hhalf : count.tdiv 2 = count / 2 := Int.tdiv_eq_ediv_of_nonneg (by omega)
  by_cases hmajority : (peerOffsets offsets count).length < 2 * near.length
  · rw [if_pos hmajority, if_pos (by rw [hhalf]; dsimp only; omega)]
    -- there is a last one
    cases hnear : near with
    | nil => rw [hnear, List.length_nil] at hmajority; omega
    | cons x l => rw [List.getLastD_cons, List.getLastD_cons]
  · rw [if_neg hmajority, if_neg (by rw [hhalf]; dsimp only; omega)]

end

/-! ### Orders of the peers -/

theorem voteMedian_perm {l l' : List ℤ} (h : l'.Perm l) : voteMedian l' = voteMedian l := by
  rw [voteMedian, OrderStatistics.ofRank_perm h, h.length_eq, ← voteMedian]

theorem nearVoteMedian_perm {l l' : List ℤ} (h : l'.Perm l) :
    (nearVoteMedian l').Perm (nearVoteMedian l) := by
  rw [nearVoteMedian, voteMedian_perm h, nearVoteMedian]
  exact h.filter _

theorem voteMedian_mem {l : List ℤ} (h : l ≠ []) : voteMedian l ∈ l :=
  OrderStatistics.ofRank_mem (Nat.div_lt_self (List.length_pos_iff.mpr h) (by decide)) 0

/-- The median is near itself. -/
theorem voteMedian_mem_near {l : List ℤ} (h : l ≠ []) : voteMedian l ∈ nearVoteMedian l :=
  List.mem_filter.mpr ⟨voteMedian_mem h, decide_eq_true (by rw [sub_self]; decide)⟩

/-- Some order of the peers makes the vote any one of the offsets near the median, if these are the
majority. -/
theorem exists_perm_listVote {l : List ℤ} (hmajority : l.length < 2 * (nearVoteMedian l).length)
    {x : ℤ} (hx : x ∈ nearVoteMedian l) : ∃ l', l'.Perm l ∧ listVote l' = x := by
  obtain ⟨hmem, hnear⟩ := List.mem_filter.mp hx
  have hperm : (l.erase x ++ [x]).Perm l :=
    List.perm_append_singleton x _ |>.trans (List.perm_cons_erase hmem).symm
  refine ⟨l.erase x ++ [x], hperm, ?_⟩
  have hlength := hperm.length_eq
  have hlengthNear := (nearVoteMedian_perm hperm).length_eq
  rw [listVote, if_pos (by omega), nearVoteMedian, voteMedian_perm hperm, List.filter_append,
    List.filter_singleton, hnear]
  exact List.getLastD_concat

/-- The vote is the median if those near it are no majority or report the median itself. -/
theorem listVote_eq_voteMedian {l : List ℤ}
    (h : 2 * (nearVoteMedian l).length ≤ l.length ∨ ∀ x ∈ nearVoteMedian l, x = voteMedian l) :
    listVote l = voteMedian l := by
  unfold listVote
  split_ifs with hmajority
  · rcases List.mem_cons.mp List.getLastD_mem_cons with heq | hmem
    · exact heq
    · exact h.resolve_left (by omega) _ hmem
  · rfl

/-- The vote is the same in every order exactly if no offset near the median differs from it or
those near it are no majority. -/
theorem listVote_perm_iff {l : List ℤ} (hl : l ≠ []) :
    (∀ l', l'.Perm l → listVote l' = listVote l) ↔
      2 * (nearVoteMedian l).length ≤ l.length ∨ ∀ x ∈ nearVoteMedian l, x = voteMedian l := by
  constructor
  · intro h
    by_contra! hboth
    obtain ⟨hmajority, x, hx, hne⟩ := hboth
    obtain ⟨l₁, hperm₁, hvote₁⟩ := exists_perm_listVote hmajority hx
    obtain ⟨l₂, hperm₂, hvote₂⟩ := exists_perm_listVote hmajority (voteMedian_mem_near hl)
    exact hne (by rw [← hvote₁, h l₁ hperm₁, ← hvote₂, h l₂ hperm₂])
  · -- the vote is the median, which no order changes
    intro h l' hperm
    have hnear := nearVoteMedian_perm hperm
    have h' : 2 * (nearVoteMedian l').length ≤ l'.length ∨
        ∀ x ∈ nearVoteMedian l', x = voteMedian l' := by
      rw [hnear.length_eq, hperm.length_eq, voteMedian_perm hperm]
      exact h.imp_right fun hall x hx => hall x (hnear.subset hx)
    rw [listVote_eq_voteMedian h', listVote_eq_voteMedian h, voteMedian_perm hperm]

/-! ### The vote as the majority -/

/-- The vote is the value that more than half of the peers report, if there is one, and does not
depend on the order of the peers. -/
structure VotesByMajority (offsets : ℕ → ℤ) (count : ℤ) : Prop where
  majority : ∀ v, count < 2 * (peerOffsets offsets count).count v →
    majorityVote (some offsets) count = v
  order : ∀ offsets' : ℕ → ℤ, (peerOffsets offsets' count).Perm (peerOffsets offsets count) →
    majorityVote (some offsets') count = majorityVote (some offsets) count

section

variable {offsets : ℕ → ℤ} {count : ℤ}

/-- Every list of offsets is that of some peers. -/
theorem exists_peerOffsets_eq (l : List ℤ) :
    ∃ offsets : ℕ → ℤ, peerOffsets offsets l.length = l := by
  have hlist : (List.range l.length).map (fun i => l.getD i 0) = l := by
    refine List.ext_getElem (length_firstOffsets _ _) fun i hi hi' => ?_
    rw [List.getElem_map, List.getElem_range]
    exact List.getD_eq_getElem _ _ hi'
  refine ⟨fun i => l.getD i 0, ?_⟩
  rwa [peerOffsets, Int.toNat_natCast]

/-- What holds of every order of the list holds of every order of the peers, and conversely. -/
theorem forall_perm_peerOffsets (hcount : 0 ≤ count) (P : List ℤ → Prop) :
    (∀ l', l'.Perm (peerOffsets offsets count) → P l') ↔
      ∀ offsets' : ℕ → ℤ, (peerOffsets offsets' count).Perm (peerOffsets offsets count) →
        P (peerOffsets offsets' count) := by
  refine ⟨fun h offsets' => h _, fun h l' hperm => ?_⟩
  obtain ⟨offsets', heq⟩ := exists_peerOffsets_eq l'
  rw [hperm.length_eq, length_peerOffsets hcount] at heq
  rw [← heq]
  exact h offsets' (by rwa [heq])

/-- The vote of two peers is symmetric, and that of one is its offset. -/
theorem votesByMajority_of_le_two (hpos : 1 ≤ count) (hcount : count ≤ 2) :
    VotesByMajority offsets count := by
  obtain rfl | rfl : count = 1 ∨ count = 2 := by omega
  · -- one server decides by itself
    have hlist : ∀ offsets : ℕ → ℤ, peerOffsets offsets 1 = [offsets 0] := fun _ => rfl
    have hvote : ∀ offsets : ℕ → ℤ, majorityVote (some offsets) 1 = offsets 0 := fun _ => rfl
    refine ⟨fun v hv => ?_, fun offsets' hperm => ?_⟩
    · rw [hlist, List.count_singleton] at hv
      rw [hvote]
      by_contra hne
      rw [beq_false_of_ne hne] at hv
      exact absurd hv (by decide)
    · rw [hlist, hlist] at hperm
      rw [hvote, hvote]
      exact List.singleton_inj.mp (List.perm_singleton.mp hperm)
  · -- of two servers the common offset is taken, or their mean
    have hlist : ∀ offsets : ℕ → ℤ, peerOffsets offsets 2 = [offsets 0, offsets 1] := fun _ => rfl
    have hvote : ∀ offsets : ℕ → ℤ, majorityVote (some offsets) 2 =
      if offsets 0 = offsets 1 then offsets 0 else (int64 (offsets 0 + offsets 1)).tdiv 2 :=
      fun _ => rfl
    refine ⟨fun v hv => ?_, fun offsets' hperm => ?_⟩
    · -- both of them are the value
      have hall : (peerOffsets offsets 2).count v = (peerOffsets offsets 2).length := by
        have hle := List.count_le_length (a := v) (l := peerOffsets offsets 2)
        rw [hlist] at *
        rw [List.length_cons, List.length_singleton] at *
        omega
      rw [List.count_eq_length, hlist] at hall
      have hfirst := hall (offsets 0) List.mem_cons_self
      have hsecond := hall (offsets 1) (List.mem_cons_of_mem _ List.mem_cons_self)
      rw [hvote, if_pos (hfirst.symm.trans hsecond), ← hfirst]
    · rw [hlist, hlist] at hperm
      have hsum := hperm.sum_eq
      have hfirst := hperm.subset List.mem_cons_self
      rw [List.sum_pair, List.sum_pair] at hsum
      rw [List.mem_pair] at hfirst
      rw [hvote, hvote, hsum]
      split_ifs <;> omega

/-- **The vote is a majority vote** exactly for at most two peers, for peers of whom no more than
half are near the median, and where all those near it report the median itself. -/
theorem votesByMajority_iff (hpos : 1 ≤ count) (hle : count ≤ 8)
    (hbound : ∀ i : ℕ, i < count → |offsets i| < 2 ^ 62) :
    VotesByMajority offsets count ↔
      count ≤ 2 ∨ 2 * (nearVoteMedian (peerOffsets offsets count)).length ≤ count ∨
        ∀ x ∈ nearVoteMedian (peerOffsets offsets count),
          x = voteMedian (peerOffsets offsets count) := by
  by_cases hfew : count ≤ 2
  · exact iff_of_true (votesByMajority_of_le_two hpos hfew) (Or.inl hfew)
  have hlength : ((peerOffsets offsets count).length : ℤ) = count :=
    length_peerOffsets (by omega)
  have hne : peerOffsets offsets count ≠ [] := List.ne_nil_of_length_pos (by omega)
  have hvote := majorityVote_eq (by omega) hbound
  have hcount : 0 ≤ count := by omega
  -- what the vote says of every order of the cells, it says of every order of the list
  have horder := @forall_perm_peerOffsets offsets count hcount fun l =>
    listVote l = listVote (peerOffsets offsets count)
  have hvote' : ∀ offsets' : ℕ → ℤ,
      (peerOffsets offsets' count).Perm (peerOffsets offsets count) →
        majorityVote (some offsets') count = listVote (peerOffsets offsets' count) := by
    intro offsets' hperm
    refine majorityVote_eq (by omega) fun i hi => ?_
    have hmem : offsets' i ∈ peerOffsets offsets' count :=
      List.mem_map_of_mem (List.mem_range.mpr (Int.lt_toNat.mpr hi))
    exact peerOffsets_bounded hbound _ (hperm.subset hmem)
  rw [or_iff_right hfew]
  -- from three on the vote is a function of the list
  have hiff := listVote_perm_iff hne
  rw [horder] at hiff
  constructor
  · intro h
    obtain hmany | hall := hiff.mp fun offsets' hperm => by
      rw [← hvote' offsets' hperm, ← hvote, h.order offsets' hperm]
    · exact Or.inl (by omega)
    · exact Or.inr hall
  · intro h
    have hlist := h.imp_left fun hmany =>
      (by omega : 2 * (nearVoteMedian (peerOffsets offsets count)).length ≤
        (peerOffsets offsets count).length)
    refine ⟨fun v hv => ?_, fun offsets' hperm => ?_⟩
    · rw [hvote, listVote_eq_voteMedian hlist]
      exact OrderStatistics.ofRank_eq_of_majority (by omega) 0
    · rw [hvote' offsets' hperm, hvote, hiff.mpr hlist offsets' hperm]

end

/-- Three peers that report the same. -/
theorem votesByMajority_same : VotesByMajority (fun _ => 5) 3 :=
  (votesByMajority_iff (by decide) (by decide) fun _ _ => by decide).mpr
    (Or.inr (Or.inr (by decide)))

/-- Three peers of whom two report 5 us; the vote is the 7 us of the third. -/
theorem votesByMajority_fails :
    ¬ VotesByMajority (fun i => [5, 5, 7].getD i 0) 3 ∧
      (∀ i : Fin 3, |([5, 5, 7] : List ℤ).getD i 0| < 2 ^ 62) ∧
      majorityVote (some fun i => [5, 5, 7].getD i 0) 3 = 7 ∧
      majorityVote (some fun i => [5, 7, 5].getD i 0) 3 = 5 := by
  have hseven : majorityVote (some fun i => [5, 5, 7].getD i 0) 3 = 7 := by decide
  refine ⟨fun h => ?_, by decide, hseven, by decide⟩
  have hfive := h.majority 5 (by decide)
  rw [hseven] at hfive
  exact absurd hfive (by decide)

/-! ### The byte of the system offset -/

/-- A value of a signed byte is read back. -/
theorem toInt8_ofInt {x : ℤ} (hlow : -128 ≤ x) (hhigh : x ≤ 127) :
    (UInt8.ofInt x).toInt8.toInt = x := by
  have hall : ∀ k : Fin 256, (UInt8.ofInt ((k : ℤ) - 128)).toInt8.toInt = (k : ℤ) - 128 := by
    decide +kernel
  have hx := hall ⟨(x + 128).toNat, by omega⟩
  rwa [show (((x + 128).toNat : ℕ) : ℤ) - 128 = x by omega] at hx

/-- The vote as it is clamped. -/
def clampedVote (offsets : ℕ → ℤ) (count : ℤ) : ℤ :=
  max (-128) (min 127 (majorityVote (some offsets) count))

/-- `compute_system_offset` returns 16 if no peer survives, and else a byte that is the clamped
vote and not 16. -/
structure ReportsErrors (offsets : ℕ → ℤ) (count : ℤ) : Prop where
  error_iff : (computeSystemOffset (some offsets) count).1 = 16 ↔
    ∀ i : ℕ, i < count → isFalseTicker (offsets i) (systemMedian offsets count.toNat) = true
  value : (∃ i : ℕ, i < count ∧
      isFalseTicker (offsets i) (systemMedian offsets count.toNat) = false) →
    (computeSystemOffset (some offsets) count).1.toInt8.toInt = clampedVote offsets count

/-- The offsets whose vote is 16: an only peer with 16 us, two of mean 16, or more whose last offset
near the median, or the median, is 16. -/
def VotesSixteen (offsets : ℕ → ℤ) (count : ℤ) : Prop :=
  count = 1 ∧ offsets 0 = 16 ∨
    count = 2 ∧ 32 ≤ offsets 0 + offsets 1 ∧ offsets 0 + offsets 1 ≤ 33 ∨
      3 ≤ count ∧
        if count < 2 * (nearVoteMedian (peerOffsets offsets count)).length then
          (nearVoteMedian (peerOffsets offsets count)).getLast? = some 16
        else voteMedian (peerOffsets offsets count) = 16

section

variable {offsets : ℕ → ℤ} {count : ℤ}

/-- The peer with the median survives. -/
theorem exists_survivor (hpos : 1 ≤ count)
    (hbound : ∀ i : ℕ, i < count → |offsets i| < 2 ^ 62) :
    ∃ i : ℕ, i < count ∧ isFalseTicker (offsets i) (systemMedian offsets count.toNat) = false := by
  have hpositive : 0 < count.toNat := by omega
  obtain ⟨i, hi, hmedian⟩ := exists_eq_medianOffset offsets hpositive
  have hi' : (i : ℤ) < count := Int.lt_toNat.mp hi
  refine ⟨i, hi', ?_⟩
  rw [systemMedian, ← hmedian, ← Bool.not_eq_true,
    isFalseTicker_iff (hbound i hi') (hbound i hi'), sub_self]
  decide

theorem computeSystemOffset_eq (hpos : 1 ≤ count)
    (hbound : ∀ i : ℕ, i < count → |offsets i| < 2 ^ 62) :
    (computeSystemOffset (some offsets) count).1 = UInt8.ofInt (clampedVote offsets count) := by
  obtain ⟨i, hi, hsurvives⟩ := exists_survivor hpos hbound
  have hvalid : systemValid offsets count.toNat ≠ 0 := by
    refine Nat.pos_iff_ne_zero.mp (List.countP_pos_iff.mpr ⟨i, ?_, ?_⟩)
    · exact List.mem_range.mpr (Int.lt_toNat.mpr hi)
    · rw [hsurvives, Bool.not_false]
  unfold computeSystemOffset clampedVote
  dsimp only
  rw [if_neg (by omega), if_neg hvalid]
  refine congrArg UInt8.ofInt ?_
  split_ifs <;> omega

/-- The byte is 16 exactly if the vote is. -/
theorem computeSystemOffset_eq_sixteen_iff (hpos : 1 ≤ count)
    (hbound : ∀ i : ℕ, i < count → |offsets i| < 2 ^ 62) :
    (computeSystemOffset (some offsets) count).1 = 16 ↔ majorityVote (some offsets) count = 16 := by
  rw [computeSystemOffset_eq hpos hbound]
  constructor
  · intro h
    have hread := toInt8_ofInt (x := clampedVote offsets count) (le_max_left _ _)
      (max_le (by decide) (min_le_left _ _))
    rw [h] at hread
    have hsixteen : (16 : UInt8).toInt8.toInt = 16 := by decide
    unfold clampedVote at hread
    omega
  · intro h
    rw [clampedVote, h]
    decide

theorem majorityVote_eq_sixteen_iff (hpos : 1 ≤ count)
    (hbound : ∀ i : ℕ, i < count → |offsets i| < 2 ^ 62) :
    majorityVote (some offsets) count = 16 ↔ VotesSixteen offsets count := by
  unfold VotesSixteen
  obtain rfl | rfl | hcount : count = 1 ∨ count = 2 ∨ 3 ≤ count := by omega
  · have hvote : majorityVote (some offsets) 1 = offsets 0 := rfl
    rw [hvote]
    omega
  · have hvote : majorityVote (some offsets) 2 =
      if offsets 0 = offsets 1 then offsets 0 else (int64 (offsets 0 + offsets 1)).tdiv 2 := rfl
    have hfirst := abs_lt.mp (hbound 0 (by decide))
    have hsecond := abs_lt.mp (hbound 1 (by decide))
    have hmean := tdiv_bounds (offsets 0 + offsets 1) (b := 2) (by decide)
    rw [hvote, int64_eq (by unfold InInt64; omega)]
    rcases le_or_gt 0 (offsets 0 + offsets 1) with hsum | hsum
    · rw [Int.tdiv_eq_ediv_of_nonneg hsum]
      split_ifs <;> omega
    · split_ifs <;> omega
  · have hlength : ((peerOffsets offsets count).length : ℤ) = count :=
      length_peerOffsets (by omega)
    rw [majorityVote_eq hcount hbound, listVote]
    set near := nearVoteMedian (peerOffsets offsets count)
    by_cases hmajority : (peerOffsets offsets count).length < 2 * near.length
    · have hne : near ≠ [] := List.ne_nil_of_length_pos (by omega)
      rw [if_pos hmajority, if_pos (by omega), List.getLastD_eq_getLast?,
        List.getLast?_eq_some_getLast hne, Option.getD_some, Option.some_inj]
      omega
    · rw [if_neg hmajority, if_neg (by omega)]
      omega

/-- **The error is told apart from the offsets** exactly if the vote is not 16. -/
theorem reportsErrors_iff (hpos : 1 ≤ count) (_hle : count ≤ 8)
    (hbound : ∀ i : ℕ, i < count → |offsets i| < 2 ^ 62) :
    ReportsErrors offsets count ↔ ¬ VotesSixteen offsets count := by
  obtain ⟨i, hi, hsurvives⟩ := exists_survivor hpos hbound
  have hsixteen := computeSystemOffset_eq_sixteen_iff hpos hbound
  rw [majorityVote_eq_sixteen_iff hpos hbound] at hsixteen
  have hnone : ¬ ∀ i : ℕ, i < count →
      isFalseTicker (offsets i) (systemMedian offsets count.toNat) = true := by
    intro hall
    rw [hall i hi] at hsurvives
    exact absurd hsurvives (by decide)
  constructor
  · exact fun h hvote => hnone (h.error_iff.mp (hsixteen.mpr hvote))
  · intro hvote
    refine ⟨iff_of_false (fun h => hvote (hsixteen.mp h)) hnone, fun _ => ?_⟩
    rw [computeSystemOffset_eq hpos hbound]
    exact toInt8_ofInt (le_max_left _ _) (max_le (by decide) (min_le_left _ _))

end

/-- Three peers, of which the second one is 300 ms off. -/
def threeOffsets : ℕ → ℤ := fun i => [5, 300000, 7].getD i 0

theorem abs_threeOffsets_lt (i : ℕ) (hi : (i : ℤ) < 3) : |threeOffsets i| < 2 ^ 62 := by
  obtain rfl | rfl | rfl : i = 0 ∨ i = 1 ∨ i = 2 := by omega
  · decide
  · decide
  · decide

/-- The last of those near the median is 7 us off. -/
theorem reportsErrors_three : ReportsErrors threeOffsets 3 :=
  (reportsErrors_iff (by decide) (by decide) abs_threeOffsets_lt).mpr (by
    rintro (⟨hone, -⟩ | ⟨htwo, -⟩ | ⟨-, hvote⟩)
    · exact absurd hone (by decide)
    · exact absurd htwo (by decide)
    · exact absurd hvote (by decide))

/-- An only peer 16 us off, which is no falseticker. -/
theorem reportsErrors_fails :
    ¬ ReportsErrors (fun _ => 16) 1 ∧ (computeSystemOffset (some fun _ => 16) 1).1 = 16 ∧
      isFalseTicker 16 (systemMedian (fun _ => 16) 1) = false := by
  have hsurvives : isFalseTicker 16 (systemMedian (fun _ => 16) 1) = false := by decide
  refine ⟨fun h => ?_, by decide, hsurvives⟩
  have hnone := h.error_iff.mp (by decide) 0 (by decide)
  exact absurd (hnone.symm.trans hsurvives) (by decide)

end Dntpd
