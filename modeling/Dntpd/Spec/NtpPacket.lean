import Dntpd.NtpPacket

/-!
# What the parser accepts, and what it leaves

The walk over the extension fields accepts no header from position 48 on, which is where it
starts, so it skips nothing and leaves `g_ido_state` alone (`skipExtensionFields_eq`).  The
verdict of `parse_ntp_packet` is then decided by the size, by what `*pkt` held before the call
(the Kiss-o'-Death test reads it before the header is assigned) and by the header
(`parseNtpPacket_ok_iff`).
-/

namespace Dntpd

/-! ### Header bits -/

theorem li_le (h : NtpHeader) : h.li ≤ 3 := by
  unfold NtpHeader.li ntpLiMask ntpLiShift
  rw [UInt8.le_iff_toNat_le, UInt8.toNat_shiftRight, UInt8.toNat_and]
  calc (h.liVnMode.toNat &&& 192) >>> 6 ≤ 192 >>> 6 := by
        rw [Nat.shiftRight_eq_div_pow, Nat.shiftRight_eq_div_pow]
        exact Nat.div_le_div_right Nat.and_le_right
    _ = 3 := rfl

theorem li_cases (pkt : NtpHeader) : pkt.li = 0 ∨ pkt.li = 1 ∨ pkt.li = 2 ∨ pkt.li = 3 := by
  have h := UInt8.le_iff_toNat_le.mp (li_le pkt)
  simp only [← UInt8.toNat_inj]
  have h3 : (3 : UInt8).toNat = 3 := rfl
  have h2 : (2 : UInt8).toNat = 2 := rfl
  have h1 : (1 : UInt8).toNat = 1 := rfl
  have h0 : (0 : UInt8).toNat = 0 := rfl
  omega

theorem mode_le (h : NtpHeader) : h.mode ≤ 7 := by
  unfold NtpHeader.mode ntpModeMask
  rw [UInt8.le_iff_toNat_le, UInt8.toNat_and]
  exact Nat.and_le_right

/-! ### The extension-field walk -/

theorem parseExtensionFieldHeader_eq_none (data : Mem) {pos : ℕ} (hpos : 48 ≤ pos) :
    parseExtensionFieldHeader data pos = none := by
  unfold parseExtensionFieldHeader
  exact if_pos (by omega)

theorem skipExtensionFieldsFrom_eq (data : Mem) (size pos skipped : ℕ) (s : IdoState)
    (hpos : 48 ≤ pos) :
    skipExtensionFieldsFrom data size pos skipped s hpos = ((skipped : ℤ), s) := by
  rw [skipExtensionFieldsFrom]
  split_ifs
  · split
    · rfl
    · rename_i h
      rw [parseExtensionFieldHeader_eq_none data hpos] at h
      cases h
  · rfl

/-- The walk skips nothing and changes nothing. -/
@[simp] theorem skipExtensionFields_eq (data : Mem) (size : ℕ) (s : IdoState) :
    skipExtensionFields data size s = (0, s) := by
  unfold skipExtensionFields
  split_ifs
  · rfl
  · exact skipExtensionFieldsFrom_eq data size 48 0 s (le_refl 48)

/-! ### Well-formed extension fields -/

/-- A well-formed extension field: the total length is a multiple of four and fits its 16 bits. -/
structure ExtensionField where
  fieldType : UInt16
  payload : List UInt8
  aligned : (payload.length + 4) % 4 = 0
  length_le : payload.length + 4 ≤ 65532

namespace ExtensionField

/-- The total length, header included. -/
def length (f : ExtensionField) : ℕ := f.payload.length + 4

/-- The field on the wire. -/
def encode (f : ExtensionField) : List UInt8 :=
  [(f.fieldType >>> 8).toUInt8, f.fieldType.toUInt8,
    (UInt16.ofNat f.length >>> 8).toUInt8, (UInt16.ofNat f.length).toUInt8] ++ f.payload

/-- What a field is meant to do to the negotiation state: its handler, on the true payload. -/
def handle (s : IdoState) (f : ExtensionField) : IdoState :=
  let payload := some (Mem.ofList f.payload)
  if f.fieldType = ntpEfIDoOffer ∨ f.fieldType = ntpEfIDoResponse then
    (idoProcess s f.fieldType f.payload.length payload).2
  else if f.fieldType = ntpEfAutokeyKeyInstall then
    (autokeyProcessKeyInstall s f.fieldType f.payload.length payload).2
  else if f.fieldType = ntpEfAutokeyKeyRotate then
    (autokeyProcessKeyRotate s f.fieldType f.payload.length payload).2
  else if f.fieldType = ntpEfAutokeyKeyRevoke then
    (autokeyProcessKeyRevoke s f.fieldType f.payload.length payload).2
  else s

/-- The total length of a list of fields. -/
def totalLength (fields : List ExtensionField) : ℕ := (fields.map length).sum

/-- The walk skips `fields` and leaves the state their handlers make of `s`. -/
def Walks (header : Vector UInt8 48) (fields : List ExtensionField) (s : IdoState) : Prop :=
  let packet := header.toList ++ fields.flatMap encode
  skipExtensionFields (Mem.ofList packet) packet.length s
    = ((totalLength fields : ℤ), fields.foldl handle s)

theorem totalLength_eq_zero_iff (fields : List ExtensionField) :
    totalLength fields = 0 ↔ fields = [] := by
  cases fields with
  | nil => simp [totalLength]
  | cons f fs => simp [totalLength, length]

/-- A packet is walked as its fields ask exactly when it has none. -/
theorem walks_iff (header : Vector UInt8 48) (fields : List ExtensionField) (s : IdoState) :
    Walks header fields s ↔ fields = [] := by
  unfold Walks
  dsimp only
  rw [skipExtensionFields_eq]
  constructor
  · intro h
    have hlen : (0 : ℤ) = totalLength fields := congrArg Prod.fst h
    exact (totalLength_eq_zero_iff fields).mp (by exact_mod_cast hlen.symm)
  · rintro rfl
    rfl

/-- An I-DO Offer with four payload bytes. -/
def sampleOffer : ExtensionField := ⟨ntpEfIDoOffer, [1, 0, 0, 0], rfl, by decide⟩

/-- One Offer behind a zero header is not walked, though its handler would take it. -/
theorem not_walks_sampleOffer :
    ¬ Walks (Vector.replicate 48 0) [sampleOffer] IdoState.init ∧
      handle IdoState.init sampleOffer ≠ IdoState.init := by
  constructor
  · intro h
    unfold Walks at h
    dsimp only at h
    rw [skipExtensionFields_eq] at h
    exact absurd (congrArg Prod.fst h) (by decide)
  · decide

end ExtensionField

/-! ### The parser -/

/-- The checks on the header alone: version 4, a mode, a stratum of at most 16. -/
def HeaderAccepted (h : NtpHeader) : Prop := h.vn = ntpVn4 ∧ h.mode ≠ 0 ∧ h.stratum ≤ 16

instance : DecidablePred HeaderAccepted := fun h => by unfold HeaderAccepted; infer_instance

/-- The parser never changes the negotiation state. -/
@[simp] theorem parseNtpPacket_ido (data : Mem) (size : ℕ) (pkt : NtpPacket) (s : IdoState) :
    (parseNtpPacket data size pkt s).ido = s := by
  unfold parseNtpPacket
  dsimp only
  rw [skipExtensionFields_eq]
  split_ifs <;> rfl

/-- The verdict of the parser. -/
theorem parseNtpPacket_ok_iff (data : Mem) (size : ℕ) (pkt : NtpPacket) (s : IdoState) :
    (parseNtpPacket data size pkt s).ok = true ↔
      48 ≤ size ∧ ntpIsKod pkt.toNtpHeader = false ∧ HeaderAccepted (readHeader data) := by
  have hmode : ¬ (readHeader data).mode > 7 := UInt8.not_lt.mpr (mode_le _)
  have hli : ¬ (readHeader data).li > 3 := UInt8.not_lt.mpr (li_le _)
  unfold parseNtpPacket HeaderAccepted
  dsimp only
  rw [skipExtensionFields_eq, readPacket_toNtpHeader, ← UInt8.not_lt]
  split_ifs with hsize hkod hvn hmode0 hstratum <;> grind

/-- An accepted packet holds the header of the datagram. -/
theorem parseNtpPacket_toNtpHeader {data : Mem} {size : ℕ} {pkt : NtpPacket} {s : IdoState}
    (h : (parseNtpPacket data size pkt s).ok = true) :
    (parseNtpPacket data size pkt s).pkt.toNtpHeader = readHeader data := by
  revert h
  unfold parseNtpPacket
  dsimp only
  split_ifs <;> intro h
  all_goals first
    | exact readPacket_toNtpHeader data size pkt
    | cases h

/-! ### Dependence on the stale packet -/

/-- Two runs of the parser on one datagram agree: one verdict, and one header when it accepts. -/
def ParsesAlike (data : Mem) (size : ℕ) (p q : NtpPacket) (s : IdoState) : Prop :=
  let a := parseNtpPacket data size p s
  let b := parseNtpPacket data size q s
  a.ok = b.ok ∧ (a.ok = true → a.pkt.toNtpHeader = b.pkt.toNtpHeader)

/-- The runs agree exactly when both stale packets are Kiss-o'-Death markers or neither is, or the
datagram is rejected whatever `*pkt` held. -/
theorem parsesAlike_iff (data : Mem) (size : ℕ) (p q : NtpPacket) (s : IdoState) :
    ParsesAlike data size p q s ↔
      ntpIsKod p.toNtpHeader = ntpIsKod q.toNtpHeader ∨ size < 48 ∨
        ¬ HeaderAccepted (readHeader data) := by
  have hp := parseNtpPacket_ok_iff data size p s
  have hq := parseNtpPacket_ok_iff data size q s
  unfold ParsesAlike
  dsimp only
  constructor
  · -- the results are the same, and only the test for a Kiss-o'-Death reads the stale packet
    rintro ⟨hok, -⟩
    rw [hok, hq] at hp
    by_contra! hne
    obtain ⟨hkod, hsize, hacc⟩ := hne
    have hiff : ntpIsKod q.toNtpHeader = false ↔ ntpIsKod p.toNtpHeader = false := by
      simpa [hsize, hacc] using hp
    exact hkod (by grind)
  · intro h
    -- the results agree, and an accepted header is read from `data` alone
    have hok : (parseNtpPacket data size p s).ok = (parseNtpPacket data size q s).ok := by
      rw [Bool.eq_iff_iff, hp, hq]
      rcases h with hkod | hsize | hacc
      · rw [hkod]
      · omega
      · tauto
    refine ⟨hok, fun ha => ?_⟩
    rw [parseNtpPacket_toNtpHeader ha, parseNtpPacket_toNtpHeader (hok ▸ ha)]

/-- A server reply of stratum 1 with an all-zero rest. -/
def sampleReply : List UInt8 := [0x24, 1] ++ List.replicate 46 0

/-- The packet an earlier Kiss-o'-Death reply left in memory. -/
def staleKod : NtpPacket := { NtpPacket.zero with liVnMode := 0xE4, stratum := 127 }

/-- The reply is accepted over a zero packet and rejected over the stale one. -/
theorem not_parsesAlike_staleKod :
    ¬ ParsesAlike (Mem.ofList sampleReply) sampleReply.length NtpPacket.zero staleKod
      IdoState.init := by
  rintro ⟨hok, -⟩
  rw [Bool.eq_iff_iff, parseNtpPacket_ok_iff, parseNtpPacket_ok_iff] at hok
  revert hok
  decide

end Dntpd
