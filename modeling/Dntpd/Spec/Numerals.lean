import Dntpd.Libc

/-!
# Decimal numbers as the C library reads them

A string of decimal digits is read up to the first other character (`scanDigits_digits`), and the
decimal numeral of a number is read as that number (`scanDigits_decimal`, `sscanfU_decimal`).
-/

namespace Dntpd

/-! ### Digits -/

/-- The value of a string of decimal digits. -/
def decimalValue (digits : CString) : ℕ :=
  digits.foldl (fun acc c => acc * 10 + (c.toNat - '0'.toNat)) 0

theorem digitValue?_of_digit {c : Char} (h : '0' ≤ c ∧ c ≤ '9') :
    digitValue? 10 c = some (c.toNat - '0'.toNat) := by
  have hle : c.toNat ≤ 57 := UInt32.le_iff_toNat_le.mp h.2
  have hlt : c.toNat - '0'.toNat < 10 := by
    have h0 : '0'.toNat = 48 := rfl
    omega
  unfold digitValue?
  rw [if_pos h, if_pos hlt]

theorem scanDigits_go_append {rest : CString} (hrest : ∀ c ∈ rest.head?, digitValue? 10 c = none) :
    ∀ (digits : CString), (∀ c ∈ digits, '0' ≤ c ∧ c ≤ '9') → ∀ n acc : ℕ,
      scanDigits.go 10 n acc (digits ++ rest) = (n + digits.length,
        digits.foldl (fun acc c => acc * 10 + (c.toNat - '0'.toNat)) acc, rest) := by
  intro digits
  induction digits with
  | nil =>
    intro _ n acc
    cases rest with
    | nil => rfl
    | cons c t =>
      rw [List.nil_append, scanDigits.go, hrest c rfl]
      rfl
  | cons c digits ih =>
    intro hdigits n acc
    rw [List.cons_append, scanDigits.go, digitValue?_of_digit (hdigits c List.mem_cons_self)]
    dsimp only
    rw [ih (fun c' hc' => hdigits c' (List.mem_cons_of_mem c hc')), List.length_cons,
      List.foldl_cons, Nat.add_right_comm, Nat.add_assoc]

/-- Digits are read up to the first other character. -/
theorem scanDigits_digits {digits rest : CString} (hdigits : ∀ c ∈ digits, '0' ≤ c ∧ c ≤ '9')
    (hrest : ∀ c ∈ rest.head?, digitValue? 10 c = none) :
    scanDigits 10 (digits ++ rest) = (digits.length, decimalValue digits, rest) := by
  unfold scanDigits
  rw [scanDigits_go_append hrest digits hdigits, Nat.zero_add]
  rfl

/-- A digit is neither a blank nor a sign. -/
theorem scanInteger_digit {c : Char} (h : '0' ≤ c ∧ c ≤ '9') (s : CString) :
    scanInteger (c :: s) =
      match scanDigits 10 (c :: s) with
      | (0, _, _) => none
      | (_, v, rest) => some (false, v, rest) := by
  have hge : 48 ≤ c.toNat := UInt32.le_iff_toNat_le.mp h.1
  -- a digit is no blank and no sign, so the scan begins with it
  have hblank : isspace c = false := by
    unfold isspace
    have hspace : c ≠ ' ' := by
      rintro rfl
      exact absurd hge (by decide)
    have hcontrol : ¬ c.toNat ≤ 13 := by omega
    simp [hspace, hcontrol]
  have hminus : c ≠ '-' := by
    rintro rfl
    exact absurd hge (by decide)
  have hplus : c ≠ '+' := by
    rintro rfl
    exact absurd hge (by decide)
  unfold scanInteger
  rw [List.dropWhile_cons_of_neg (by rw [hblank]; decide)]
  extract_lets text
  have htext : c :: s = text := rfl
  clear_value text
  split
  rename_i negative digits hsign
  -- a sign would be the digit
  split at hsign
  · exact absurd (List.cons.inj htext).1 hminus
  · exact absurd (List.cons.inj htext).1 hplus
  · obtain ⟨rfl, rfl⟩ := Prod.mk.inj hsign
    subst htext
    rfl

/-- A nonempty string of digits is read as its value. -/
theorem scanInteger_digits {digits rest : CString} (hne : digits ≠ [])
    (hdigits : ∀ c ∈ digits, '0' ≤ c ∧ c ≤ '9')
    (hrest : ∀ c ∈ rest.head?, digitValue? 10 c = none) :
    scanInteger (digits ++ rest) = some (false, decimalValue digits, rest) := by
  have hscan := scanDigits_digits hdigits hrest
  obtain ⟨c, t, rfl⟩ := List.exists_cons_of_ne_nil hne
  rw [List.cons_append, scanInteger_digit (hdigits c List.mem_cons_self), ← List.cons_append,
    hscan, List.length_cons]
  rfl

/-! ### Numerals -/

/-- The decimal numeral of a number. -/
def decimal (n : ℕ) : CString := Nat.toDigits 10 n

theorem decimal_ne_nil (n : ℕ) : decimal n ≠ [] := Nat.toDigits_ne_nil

theorem digit_of_mem_decimal {n : ℕ} {c : Char} (hc : c ∈ decimal n) : '0' ≤ c ∧ c ≤ '9' := by
  have hdigit := Nat.isDigit_of_mem_toDigits (by decide) le_rfl hc
  obtain ⟨hge, hle⟩ := Char.isDigit_iff_toNat.mp hdigit
  exact ⟨UInt32.le_iff_toNat_le.mpr hge, UInt32.le_iff_toNat_le.mpr hle⟩

@[simp] theorem decimalValue_decimal (n : ℕ) : decimalValue (decimal n) = n := by
  have h := Nat.ofDigitChars_ten_toDigits (n := n)
  unfold Nat.ofDigitChars at h
  unfold decimalValue decimal
  simpa only [Nat.mul_comm] using h

theorem scanDigits_decimal (n : ℕ) {rest : CString}
    (hrest : ∀ c ∈ rest.head?, digitValue? 10 c = none) :
    scanDigits 10 (decimal n ++ rest) = ((decimal n).length, n, rest) := by
  rw [scanDigits_digits (fun _ hc => digit_of_mem_decimal hc) hrest, decimalValue_decimal]

/-- `%u` reads a numeral as its number. -/
theorem sscanfU_decimal {n : ℕ} (h : n ≤ 18446744073709551615) :
    sscanfU (decimal n) = some (UInt32.ofNat n) := by
  have hinteger : scanInteger (decimal n) = some (false, n, []) := by
    have hread : scanInteger (decimal n ++ []) = some (false, decimalValue (decimal n), []) :=
      scanInteger_digits (decimal_ne_nil n) (fun _ hc => digit_of_mem_decimal hc) nofun
    rwa [List.append_nil, decimalValue_decimal] at hread
  unfold sscanfU strtoul
  rw [hinteger]
  dsimp only
  rw [if_neg (by omega), if_neg Bool.false_ne_true]

end Dntpd
