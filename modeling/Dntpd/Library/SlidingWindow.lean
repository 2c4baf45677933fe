import Mathlib.Data.List.DropRight

/-!
# Bounded stores that slide, and bounded stores that fill up

Of a history `xs`, a store of `cap` entries that makes room for each new one holds `xs.rtake cap`,
the last entries; one that takes nothing once it is full holds `xs.take cap`, the first ones.  Along
a history the two agree as long as it fits, and otherwise only if nothing in it differs
(`forall_take_eq_rtake_iff`).
-/

universe u

namespace SlidingWindow

variable {α : Type u} {cap : ℕ} {xs : List α}

theorem rtake_of_length_le (h : xs.length ≤ cap) : xs.rtake cap = xs := by
  rw [List.rtake, Nat.sub_eq_zero_of_le h, List.drop_zero]

/-- A history of equal entries looks the same from both ends. -/
theorem take_eq_rtake_of_const (h : ∀ x ∈ xs, ∀ y ∈ xs, x = y) : xs.take cap = xs.rtake cap := by
  cases xs with
  | nil => rw [List.take_nil, List.rtake_nil]
  | cons a ys =>
    have hconst : a :: ys = List.replicate (ys.length + 1) a :=
      List.eq_replicate_of_mem fun x hx => h x hx a List.mem_cons_self
    rw [hconst, List.rtake, List.take_replicate, List.drop_replicate, List.length_replicate]
    congr 1
    omega

/-- If the first entries stay the last ones, each entry is the first one. -/
theorem getElem?_eq_of_take_eq_rtake (hcap : 0 < cap)
    (h : ∀ n ≤ xs.length, (xs.take n).take cap = (xs.take n).rtake cap) (hlen : cap < xs.length)
    {j : ℕ} (hj : j < xs.length) : xs[j]? = xs[0]? := by
  -- at the length `m`, the entry `i` from the start is the entry `m - cap + i`
  have hshift : ∀ m ≤ xs.length, cap < m → ∀ i < cap, xs[i]? = xs[m - cap + i]? := by
    intro m hm hfull i hi
    have hwindow : ((xs.take m).take cap)[i]? = ((xs.take m).rtake cap)[i]? := by rw [h m hm]
    rw [List.rtake, List.length_take_of_le hm, List.getElem?_drop, List.getElem?_take,
      List.getElem?_take, List.getElem?_take, if_pos hi, if_pos (by omega),
      if_pos (by omega)] at hwindow
    exact hwindow
  induction j using Nat.strong_induction_on with
  | _ j ih =>
    rcases Nat.eq_zero_or_pos j with hzero | hpos
    · rw [hzero]
    · by_cases hle : j ≤ cap
      · have hprev := hshift (cap + 1) (by omega) (by omega) (j - 1) (by omega)
        have hindex : cap + 1 - cap + (j - 1) = j := by omega
        rw [hindex] at hprev
        rw [← hprev]
        exact ih (j - 1) (by omega) (by omega)
      · have hlast := hshift (j + 1) (by omega) (by omega) (cap - 1) (by omega)
        have hindex : j + 1 - cap + (cap - 1) = j := by omega
        rw [hindex] at hlast
        rw [← hlast]
        exact ih (cap - 1) (by omega) (by omega)

/-- Along a history, the first entries are the last ones exactly if all of it fits or nothing in it
differs. -/
theorem forall_take_eq_rtake_iff (hcap : 0 < cap) :
    (∀ n ≤ xs.length, (xs.take n).take cap = (xs.take n).rtake cap) ↔
      xs.length ≤ cap ∨ ∀ x ∈ xs, ∀ y ∈ xs, x = y := by
  constructor
  · intro h
    by_cases hlen : xs.length ≤ cap
    · exact .inl hlen
    · -- beyond the capacity all elements are the same one
      refine .inr fun x hx y hy => ?_
      obtain ⟨i, hi, rfl⟩ := List.getElem_of_mem hx
      obtain ⟨j, hj, rfl⟩ := List.getElem_of_mem hy
      have hfirst := fun {k : ℕ} (hk : k < xs.length) =>
        getElem?_eq_of_take_eq_rtake hcap h (Nat.lt_of_not_le hlen) hk
      have hboth := (hfirst hi).trans (hfirst hj).symm
      rw [List.getElem?_eq_getElem hi, List.getElem?_eq_getElem hj] at hboth
      exact Option.some.inj hboth
  · rintro (hlen | hconst) n hn
    · have hfits : (xs.take n).length ≤ cap := (List.length_take_le n xs).trans (hn.trans hlen)
      rw [List.take_of_length_le hfits, rtake_of_length_le hfits]
    · exact take_eq_rtake_of_const fun x hx y hy =>
        hconst x (List.mem_of_mem_take hx) y (List.mem_of_mem_take hy)

end SlidingWindow
