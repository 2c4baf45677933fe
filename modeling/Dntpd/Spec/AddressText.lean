import Mathlib.Data.List.TakeWhile
import Mathlib.Tactic.IntervalCases
import Dntpd.Library.PrefixMask
import Dntpd.ModeHandlerTables
import Dntpd.Spec.Numerals

/-!
# Addresses and networks as texts

`inet_addr` reads a dotted quad as its four bytes in network byte order (`inetAddr_text`), and
`parse_network` reads a quad with a prefix length as that address and the mask of the prefix
(`parseNetwork_text`).  Byte order does not matter for the match of an address with a network: it is
the equality of the first bits (`ipInNetwork_iff`).
-/

namespace Dntpd

/-! ### Byte order -/

/-- A bit of the word in network byte order: its byte is the one at the other end. -/
theorem getLsbD_htonl (v : UInt32) {i : ℕ} (hi : i < 32) :
    (htonl v).toBitVec.getLsbD i = v.toBitVec.getLsbD (8 * (3 - i / 8) + i % 8) := by
  unfold htonl
  simp only [UInt32.toBitVec_or, UInt32.toBitVec_and, UInt32.toBitVec_shiftLeft,
    UInt32.toBitVec_shiftRight, BitVec.getLsbD_or, BitVec.getLsbD_and]
  interval_cases i <;> simp

theorem htonl_and (x y : UInt32) : htonl (x &&& y) = htonl x &&& htonl y := by
  apply UInt32.toBitVec_inj.mp
  apply BitVec.eq_of_getLsbD_eq
  intro i hi
  rw [UInt32.toBitVec_and, BitVec.getLsbD_and, getLsbD_htonl _ hi, getLsbD_htonl _ hi,
    getLsbD_htonl _ hi, UInt32.toBitVec_and, BitVec.getLsbD_and]

theorem htonl_injective {x y : UInt32} (h : htonl x = htonl y) : x = y := by
  apply UInt32.toBitVec_inj.mp
  apply BitVec.eq_of_getLsbD_eq
  intro i hi
  have hj : 8 * (3 - i / 8) + i % 8 < 32 := by omega
  have hback : 8 * (3 - (8 * (3 - i / 8) + i % 8) / 8) + (8 * (3 - i / 8) + i % 8) % 8 = i := by
    omega
  have hx := getLsbD_htonl x hj
  have hy := getLsbD_htonl y hj
  rw [hback] at hx hy
  rw [← hx, ← hy, h]

@[simp] theorem htonl_zero : htonl 0 = 0 := rfl

theorem htonl_eq_zero_iff {x : UInt32} : htonl x = 0 ↔ x = 0 :=
  ⟨fun h => htonl_injective (h.trans htonl_zero.symm), fun h => h ▸ htonl_zero⟩

/-! ### Masks -/

/-- The mask of a prefix length, in network byte order. -/
theorem prefixMask_ofNat {len : ℕ} (hlen : len ≤ 32) :
    prefixMask (UInt32.ofNat len) = htonl ⟨PrefixMask.mask 32 len⟩ := by
  interval_cases len <;> rfl

/-- An address is in a network when the two have the same prefix. -/
theorem ipInNetwork_iff (ip net : UInt32) {len : ℕ} (hlen : len ≤ 32) :
    ipInNetwork (htonl ip) (htonl net) (prefixMask (UInt32.ofNat len)) = true ↔
      PrefixMask.SamePrefix len ip.toBitVec net.toBitVec := by
  unfold ipInNetwork
  rw [prefixMask_ofNat hlen, ← htonl_and, ← htonl_and, beq_iff_eq,
    ← PrefixMask.and_mask_eq_iff hlen]
  constructor
  · intro h
    exact congrArg UInt32.toBitVec (htonl_injective h)
  · intro h
    exact congrArg htonl (UInt32.toBitVec_inj.mp h)

theorem prefixMask_injective {n m : ℕ} (hn : n ≤ 32) (hm : m ≤ 32)
    (h : prefixMask (UInt32.ofNat n) = prefixMask (UInt32.ofNat m)) : n = m := by
  rw [prefixMask_ofNat hn, prefixMask_ofNat hm] at h
  exact PrefixMask.mask_injective hn hm (congrArg UInt32.toBitVec (htonl_injective h))

/-! ### Dotted quads -/

/-- An IPv4 address by its bytes. -/
structure Quad where
  a : UInt8
  b : UInt8
  c : UInt8
  d : UInt8
  deriving DecidableEq

namespace Quad

/-- The text `a.b.c.d`. -/
def text (q : Quad) : CString :=
  decimal q.a.toNat ++ '.' :: (decimal q.b.toNat ++ '.' :: (decimal q.c.toNat ++ '.' ::
    decimal q.d.toNat))

/-- The bytes as one number. -/
def toNat (q : Quad) : ℕ := ((q.a.toNat * 256 + q.b.toNat) * 256 + q.c.toNat) * 256 + q.d.toNat

/-- The address, the first byte at the high end. -/
def addr (q : Quad) : UInt32 := UInt32.ofNat q.toNat

theorem toNat_lt (q : Quad) : q.toNat < 4294967296 := by
  have ha := q.a.toNat_lt
  have hb := q.b.toNat_lt
  have hc := q.c.toNat_lt
  have hd := q.d.toNat_lt
  unfold toNat
  omega

theorem toNat_injective {q r : Quad} (h : q.toNat = r.toNat) : q = r := by
  have hq := q.b.toNat_lt
  have hq' := q.c.toNat_lt
  have hq'' := q.d.toNat_lt
  have hr := r.b.toNat_lt
  have hr' := r.c.toNat_lt
  have hr'' := r.d.toNat_lt
  unfold toNat at h
  have ha : q.a.toNat = r.a.toNat := by omega
  have hb : q.b.toNat = r.b.toNat := by omega
  have hc : q.c.toNat = r.c.toNat := by omega
  have hd : q.d.toNat = r.d.toNat := by omega
  cases q
  cases r
  rw [Quad.mk.injEq]
  exact ⟨UInt8.toNat_inj.mp ha, UInt8.toNat_inj.mp hb, UInt8.toNat_inj.mp hc,
    UInt8.toNat_inj.mp hd⟩

theorem addr_injective {q r : Quad} (h : q.addr = r.addr) : q = r := by
  apply toNat_injective
  have hnat := congrArg UInt32.toNat h
  unfold addr at hnat
  rwa [UInt32.toNat_ofNat_of_lt' q.toNat_lt, UInt32.toNat_ofNat_of_lt' r.toNat_lt] at hnat

end Quad

/-! ### `inet_addr` -/

/-- The numeral of a positive number does not start with a zero. -/
theorem head?_decimal {n : ℕ} (hn : 0 < n) : (decimal n).head? ≠ some '0' := by
  unfold decimal
  induction n using Nat.strong_induction_on with
  | _ n ih =>
    rw [Nat.toDigits_eq_if (by decide)]
    split_ifs with hlt
    · interval_cases n <;> decide
    · have hhead := ih (n / 10) (by omega) (by omega)
      rw [List.head?_append_of_ne_nil _ Nat.toDigits_ne_nil]
      exact hhead

/-- One part of the notation is read as its number up to the dot. -/
theorem scanPart_decimal (n : ℕ) {rest : CString} (hrest : ∀ c ∈ rest.head?, c = '.') :
    scanPart (decimal n ++ rest) = some (n, rest) := by
  -- `0` alone is read as octal, and any other decimal begins with a digit that is not `0`
  rcases Nat.eq_zero_or_pos n with rfl | hn
  · cases rest with
    | nil => rfl
    | cons c t =>
      obtain rfl := hrest c rfl
      rfl
  · have hstop : ∀ c ∈ rest.head?, digitValue? 10 c = none := by
      intro c hc
      rw [hrest c hc]
      decide
    have hscan := scanDigits_decimal n hstop
    have hhead := head?_decimal hn
    obtain ⟨c, t, hdecimal⟩ := List.exists_cons_of_ne_nil (decimal_ne_nil n)
    rw [hdecimal] at hscan hhead ⊢
    -- no prefix announces another base than 10
    have hc : c ≠ '0' := fun hc => hhead (congrArg some hc)
    have hbase : ∀ {k : ℕ} {r : ℕ × CString}, scanDigits 10 (c :: (t ++ rest)) = (k + 1, r) →
        scanPart (c :: (t ++ rest)) = some r := by
      intro k r hdigits
      unfold scanPart
      split
      rename_i base digits hprefix
      -- `0x`, `0X` and `0` all begin with `0`
      split at hprefix
      · exact absurd (List.cons.inj ‹_›).1 hc
      · exact absurd (List.cons.inj ‹_›).1 hc
      · exact absurd (List.cons.inj ‹_›).1 hc
      · obtain ⟨rfl, rfl⟩ := Prod.mk.inj hprefix
        rw [hdigits]
        rfl
    rw [List.cons_append, List.length_cons] at hscan
    exact hbase hscan

/-! ### Addresses -/

/-- One step of the walk over the parts. -/
theorem scanAddress_decimal_dot (more : ℕ) (parts : List ℕ) {n : ℕ} (hn : n ≤ 255)
    (rest : CString) : scanAddress (more + 1) parts (decimal n ++ '.' :: rest) =
      scanAddress more (parts ++ [n]) rest := by
  rw [scanAddress, scanPart_decimal n (by simp)]
  exact if_pos hn

/-- `inet_addr` reads a dotted quad. -/
theorem inetAddr_text (q : Quad) : inetAddr q.text = htonl q.addr := by
  -- the last part has no dot behind it
  have hlast : ∀ parts : List ℕ, parts.length = 3 → scanAddress 1 parts (decimal q.d.toNat) =
      some (parts.foldl (fun acc p => acc * 256 + p) 0 * 256 + q.d.toNat) := by
    intro parts hparts
    have hscan : scanPart (decimal q.d.toNat ++ []) = some (q.d.toNat, []) :=
      scanPart_decimal q.d.toNat nofun
    rw [List.append_nil] at hscan
    have hd := q.d.toNat_lt
    unfold scanAddress
    rw [hscan]
    simp [hparts, hd]
  have hbyte : ∀ x : UInt8, x.toNat ≤ 255 := fun x => Nat.le_of_lt_succ x.toNat_lt
  have hscan : scanAddress 4 [] q.text = some q.toNat := by
    unfold Quad.text
    rw [scanAddress_decimal_dot _ _ (hbyte _), scanAddress_decimal_dot _ _ (hbyte _),
      scanAddress_decimal_dot _ _ (hbyte _), hlast _ rfl]
    simp [Quad.toNat]
  unfold inetAddr
  rw [hscan]
  rfl

@[simp] theorem parseIp_text (q : Quad) : parseIp (some q.text) = htonl q.addr := inetAddr_text q

/-! ### Networks -/

/-- A network as the access control list reads it: an address and a prefix length, the length
written out or left out. -/
structure NetworkText where
  quad : Quad
  len : Option (Fin 33)
  deriving DecidableEq

namespace NetworkText

/-- `a.b.c.d` or `a.b.c.d/p`. -/
def text (n : NetworkText) : CString :=
  match n.len with
  | none => n.quad.text
  | some len => n.quad.text ++ '/' :: decimal len

/-- The number of bits of the prefix: all of them if the text names no number. -/
def prefixLen (n : NetworkText) : ℕ :=
  match n.len with
  | none => 32
  | some len => len

theorem prefixLen_le (n : NetworkText) : n.prefixLen ≤ 32 := by
  unfold prefixLen
  split
  · exact le_rfl
  · exact Nat.le_of_lt_succ (Fin.is_lt _)

end NetworkText

theorem decimal_byte_length (x : UInt8) : (decimal x.toNat).length ≤ 3 :=
  (Nat.length_toDigits_le_iff (by decide) (by decide)).mpr (x.toNat_lt.trans (by decide))

theorem Quad.length_text_lt (q : Quad) : q.text.length < 64 := by
  have ha := decimal_byte_length q.a
  have hb := decimal_byte_length q.b
  have hc := decimal_byte_length q.c
  have hd := decimal_byte_length q.d
  unfold Quad.text
  simp only [List.length_append, List.length_cons]
  omega

/-- No character of a quad is a slash. -/
theorem Quad.ne_slash (q : Quad) {c : Char} (hc : c ∈ q.text) : c ≠ '/' := by
  have hdigit : ∀ n : ℕ, ∀ c ∈ decimal n, c ≠ '/' := by
    rintro n c hc rfl
    exact absurd (digit_of_mem_decimal hc).1 (by decide)
  unfold Quad.text at hc
  simp only [List.mem_append, List.mem_cons] at hc
  rcases hc with hc | rfl | hc | rfl | hc | rfl | hc
  · exact hdigit _ c hc
  · decide
  · exact hdigit _ c hc
  · decide
  · exact hdigit _ c hc
  · decide
  · exact hdigit _ c hc

/-- The quad of the broadcast address is the only one that is read as all ones, and it is let
through. -/
theorem parseNetworkIn_text (q : Quad) (prefixLen : UInt32) :
    parseNetworkIn q.text prefixLen = some (htonl q.addr, prefixMask prefixLen) := by
  unfold parseNetworkIn
  rw [inetAddr_text]
  refine if_neg fun h => h.2 ?_
  -- `INADDR_NONE` is that address
  have haddr : htonl q.addr = htonl (Quad.mk 255 255 255 255).addr := h.1
  rw [Quad.addr_injective (htonl_injective haddr)]
  decide

/-- `parse_network` reads a network text as its address and the mask of its prefix. -/
theorem parseNetwork_text (n : NetworkText) :
    parseNetwork (some n.text) =
      some (htonl n.quad.addr, prefixMask (UInt32.ofNat n.prefixLen)) := by
  have hall : ∀ c ∈ n.quad.text, decide (c ≠ '/') = true := fun c hc =>
    decide_eq_true (n.quad.ne_slash hc)
  have hlen := Nat.not_le.mpr n.quad.length_text_lt
  unfold parseNetwork NetworkText.text NetworkText.prefixLen
  -- without a length the address is the whole text, otherwise it ends at the slash
  cases hprefix : n.len with
  | none =>
    dsimp only
    rw [List.takeWhile_eq_self_iff.mpr hall, List.dropWhile_eq_nil_iff.mpr hall, if_neg hlen]
    exact parseNetworkIn_text _ _
  | some len =>
    dsimp only
    have htake : (n.quad.text ++ '/' :: decimal len).takeWhile (· ≠ '/') = n.quad.text := by
      rw [List.takeWhile_append_of_pos hall, List.takeWhile_cons_of_neg (by decide),
        List.append_nil]
    have hdrop : (n.quad.text ++ '/' :: decimal len).dropWhile (· ≠ '/') = '/' :: decimal len := by
      rw [List.dropWhile_append_of_pos hall, List.dropWhile_cons_of_neg (by decide)]
    have hle : (len : ℕ) ≤ 32 := Nat.le_of_lt_succ len.is_lt
    have hscan : sscanfU (decimal len) = some (UInt32.ofNat len) := sscanfU_decimal (by omega)
    -- the test for a length above 32 fails
    have hsmall : ¬ UInt32.ofNat len > 32 := by
      rw [gt_iff_lt, UInt32.lt_iff_toNat_lt, UInt32.toNat_ofNat_of_lt' (hle.trans_lt (by decide))]
      exact Nat.not_lt.mpr hle
    rw [htake, hdrop, if_neg hlen]
    dsimp only
    rw [hscan]
    dsimp only
    rw [if_neg hsmall]
    exact parseNetworkIn_text _ _

end Dntpd
