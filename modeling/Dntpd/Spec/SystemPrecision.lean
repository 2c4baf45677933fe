import Dntpd.Initial
import Dntpd.SystemPrecision
import Mathlib.Algebra.Order.Field.Power
import Mathlib.Tactic.NormNum
import Mathlib.Tactic.Positivity

/-!
# The precision is the floor of a logarithm

The loop doubles the resolution until it is a second.  After `k` turns the counter is `-k` and `ns`
is `2 ^ k` times the resolution, which stays below two seconds (`nanosecondLoop_doubles`), so the
last counter is the exponent of the power of two below the resolution
(`getSystemPrecision_floor`).
-/

namespace Dntpd

open Proc CInt

/-! ### Counting down -/

theorem toInt_sub_one_of_neg {p : Int8} {k : ℕ} (hp : p.toInt = -k) (hk : k ≤ 29) :
    (p - 1).toInt = -(k + 1 : ℕ) := by
  have hone : (1 : Int8).toInt = 1 := rfl
  rw [Int8.toInt_sub, hp, hone, Int.bmod_eq_of_le (by omega) (by omega)]
  omega

/-! ### The loop -/

/-- What a turn leaves is within bounds. -/
structure PrecisionTurn.InBounds (turn : PrecisionTurn) : Prop where
  ns_pos : 0 < turn.ns
  ns_le : turn.ns ≤ 2000000000
  counter_ge : -30 ≤ turn.counter.toInt
  counter_le : turn.counter.toInt ≤ -1

/-- **The loop doubles** up to a second, in `k` turns, and counts them. -/
theorem nanosecondLoop_doubles {n k : ℕ} {p : Int8} {ns : ℤ} (hpos : 0 < ns)
    (hp : p.toInt = -k) (hns : ns = n * 2 ^ k) (hk : k ≤ 30) (hlt : ns < 2000000000)
    (d : Daemon) :
    ∃ turns ≤ 30, (nanosecondLoop p ns hpos d).ret.toInt = -(turns : ℕ) ∧
      1000000000 ≤ n * 2 ^ turns ∧ n * 2 ^ turns < 2000000000 ∧
      (∀ turn ∈ (nanosecondLoop p ns hpos d).trace, turn.InBounds) ∧
      (nanosecondLoop p ns hpos d).trace.length = turns - k := by
  have hns' : ns = (n * 2 ^ k : ℕ) := by
    push_cast
    exact hns
  -- by induction on the turns that are left of thirty
  induction hm : 30 - k generalizing k p ns with
  | zero =>
    -- thirty turns are enough
    obtain rfl : k = 30 := by omega
    have hfull : ¬ ns < 1000000000 := by omega
    rw [nanosecondLoop, dif_neg hfull]
    exact ⟨30, le_rfl, hp, by omega, by omega, fun _ h => absurd h List.not_mem_nil, rfl⟩
  | succ m ih =>
    by_cases hless : ns < 1000000000
    · have hdouble : int64 (ns * 2) = ns * 2 := int64_eq (by unfold InInt64; omega)
      have hp' := toInt_sub_one_of_neg hp (by omega)
      have hns₂ : int64 (ns * 2) = n * 2 ^ (k + 1) := by
        rw [hdouble, hns]
        ring
      have hcast₂ : int64 (ns * 2) = (n * 2 ^ (k + 1) : ℕ) := by
        push_cast
        exact hns₂
      obtain ⟨turns, hturns, hret, hge, hlast, hbounds, hlength⟩ :=
        ih (int64_double_pos hpos hless) hp' hns₂ (by omega) (by omega) hcast₂ (by omega)
      -- the recursive call makes at least one turn more
      have hmore : k < turns := by
        by_contra hnot
        have hpow : 2 ^ turns ≤ 2 ^ k := Nat.pow_le_pow_right (by decide) (not_lt.mp hnot)
        have hle := Nat.mul_le_mul_left n hpow
        omega
      rw [nanosecondLoop, dif_pos hless]
      refine ⟨turns, hturns, hret, hge, hlast, ?_, ?_⟩
      · refine List.forall_mem_cons.mpr ⟨⟨?_, ?_, ?_, ?_⟩, hbounds⟩
        · exact int64_double_pos hpos hless
        · show int64 (ns * 2) ≤ 2000000000
          omega
        · rw [hp']
          omega
        · rw [hp']
          omega
      · show (nanosecondLoop (p - 1) (int64 (ns * 2)) _ d).trace.length + 1 = turns - k
        omega
    · rw [nanosecondLoop, dif_neg hless]
      exact ⟨k, hk, hp, by omega, by omega, fun _ h => absurd h List.not_mem_nil,
        (Nat.sub_self k).symm⟩

/-! ### The precision -/

/-- A resolution below a second goes to the loop as it is. -/
theorem getSystemPrecision_subsecond {ts : Timespec} (hsec : ts.sec = 0)
    (hpos : 0 < (ts.nsec : ℤ)) : getSystemPrecision (.ok ts) = nanosecondLoop 0 ts.nsec hpos := by
  have hlt := ts.nsec_lt
  have hns : int64 (int64 (ts.sec * 1000000000) + ts.nsec) = ts.nsec := by
    rw [hsec, zero_mul, int64_eq (x := 0) (by decide), zero_add]
    exact int64_eq (by unfold InInt64; omega)
  have hloop : ∀ ns : ℤ, ns = ts.nsec →
      (if h : ns ≤ 0 then pure (-20) else nanosecondLoop 0 ns (not_le.mp h)) =
        nanosecondLoop 0 ts.nsec hpos := by
    rintro _ rfl
    exact dif_neg (not_le.mpr hpos)
  unfold getSystemPrecision
  dsimp only
  rw [if_neg (by omega), if_neg (by omega)]
  exact hloop _ hns

/-- The precision is the floor of the logarithm of the resolution in seconds, and is stored as such;
the loop ends after as many turns, each within bounds. -/
structure PrecisionIsFloorLog (ts : Timespec) (d : Daemon) : Prop where
  stored : (setLocalPrecision (.ok ts) d).state.g.localPrecision =
    (getSystemPrecision (.ok ts) d).ret
  turns : ((getSystemPrecision (.ok ts) d).trace.length : ℤ) =
    -(getSystemPrecision (.ok ts) d).ret.toInt
  inBounds : ∀ turn ∈ (getSystemPrecision (.ok ts) d).trace, turn.InBounds
  le : (2 : ℚ) ^ (getSystemPrecision (.ok ts) d).ret.toInt ≤ ts.nsec / 1000000000
  lt : (ts.nsec : ℚ) / 1000000000 < 2 ^ ((getSystemPrecision (.ok ts) d).ret.toInt + 1)

/-- **The precision of a resolution below a second is the floor of its logarithm.** -/
theorem getSystemPrecision_floor {ts : Timespec} (hsec : ts.sec = 0) (hns : 1 ≤ ts.nsec)
    (d : Daemon) : PrecisionIsFloorLog ts d := by
  have hlt := ts.nsec_lt
  have hpos : 0 < (ts.nsec : ℤ) := by omega
  obtain ⟨turns, -, hret, hge, hlast, hbounds, hlength⟩ :=
    nanosecondLoop_doubles (n := ts.nsec) (k := 0) (p := 0) hpos rfl (mul_one _).symm
      (by decide) (by omega) d
  have hpow : (0 : ℚ) < 2 ^ turns := by positivity
  rw [← getSystemPrecision_subsecond hsec hpos] at hret hbounds hlength
  constructor
  · rfl
  · rw [hlength, hret]
    omega
  · exact hbounds
  · rw [hret, zpow_neg, zpow_natCast, inv_eq_one_div, div_le_div_iff₀ hpow (by norm_num), one_mul]
    exact_mod_cast hge
  · rw [hret, zpow_add₀ two_ne_zero, zpow_neg, zpow_natCast, zpow_one, inv_mul_eq_div,
      div_lt_div_iff₀ (by norm_num) hpow]
    exact_mod_cast hlast

/-- A clock that counts nanoseconds has the precision -30. -/
theorem getSystemPrecision_floor_nanosecond :
    PrecisionIsFloorLog ⟨0, 1, by decide⟩ Daemon.init :=
  getSystemPrecision_floor rfl (by decide) Daemon.init

end Dntpd
