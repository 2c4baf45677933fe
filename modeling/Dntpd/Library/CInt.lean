import Mathlib.Data.Rat.Floor
import Mathlib.Order.Defs.LinearOrder
import Mathlib.Tactic.Ring

/-!
# C integers

A signed 64-bit value is the integer it denotes; `int64` is the reduction an operation's exact
result goes through (signed overflow is undefined in C, two's complement on every target with
64-bit `time_t`).  `InInt64` is its range, on which `int64` is the identity.  Division is the
truncating `Int.tdiv`.  `UInt64` carries its natural order as a `LinearOrder`, so that the order
lemmas of Mathlib apply to unsigned words.
-/

/-- The unsigned order of 64-bit words. -/
instance uint64LinearOrder : LinearOrder UInt64 where
  le_refl := UInt64.le_refl
  le_trans _ _ _ := UInt64.le_trans
  le_antisymm _ _ := UInt64.le_antisymm
  le_total := UInt64.le_total
  lt_iff_le_not_ge a b := by
    rw [UInt64.lt_iff_toNat_lt, UInt64.le_iff_toNat_le, UInt64.le_iff_toNat_le]; omega
  toDecidableLE := inferInstance

namespace CInt

/-! ### Signed 64-bit values -/

/-- The value fits a signed 64-bit integer. -/
def InInt64 (x : ℤ) : Prop := -9223372036854775808 ≤ x ∧ x ≤ 9223372036854775807

instance : DecidablePred InInt64 := fun x => by unfold InInt64; infer_instance

/-- Two's-complement reduction to 64 bits. -/
def int64 (x : ℤ) : ℤ := (x + 9223372036854775808) % 18446744073709551616 - 9223372036854775808

/-- The largest signed 64-bit value. -/
def int64Max : ℤ := 9223372036854775807

/-- The smallest signed 64-bit value. -/
def int64Min : ℤ := -9223372036854775808

/-- An operation that does not overflow returns its exact result. -/
theorem int64_eq {x : ℤ} (h : InInt64 x) : int64 x = x := by
  unfold InInt64 at h
  unfold int64
  omega

/-- The conversion of a floating-point value to an integer type: truncation towards zero. -/
def trunc (q : ℚ) : ℤ := q.num.tdiv q.den

/-- Of a value that is not negative it is the floor. -/
theorem trunc_of_nonneg {q : ℚ} (h : 0 ≤ q) : trunc q = ⌊q⌋ := by
  rw [trunc, Int.tdiv_eq_ediv_of_nonneg (Rat.num_nonneg.mpr h), Rat.floor_def']

/-! ### Truncating division -/

/-- Truncation towards zero by a positive divisor moves a value by less than the divisor, towards
zero. -/
theorem tdiv_bounds (a : ℤ) {b : ℤ} (hb : 0 < b) :
    b * a.tdiv b - a < b ∧ a - b * a.tdiv b < b := by
  have hmod : b * a.tdiv b = a - a.tmod b := Int.mul_tdiv_self a b
  have hlt := Int.tmod_lt_of_pos a hb
  have hgt := Int.lt_tmod_of_pos a hb
  rw [hmod]
  constructor <;> omega

/-- A quotient by a positive divisor fits if the dividend does. -/
theorem inInt64_tdiv {x b : ℤ} (hb : 0 < b) (h : InInt64 x) : InInt64 (x.tdiv b) := by
  have habs := Int.natAbs_tdiv_le_natAbs x b
  unfold InInt64 at *
  rcases le_or_gt 0 x with hx | hx
  · omega
  · have hneg : (-x).tdiv b = -(x.tdiv b) := Int.neg_tdiv x b
    have hnonneg : 0 ≤ (-x).tdiv b := Int.tdiv_nonneg (by omega) hb.le
    omega

end CInt
