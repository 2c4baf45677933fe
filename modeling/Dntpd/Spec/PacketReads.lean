import Dntpd.PacketReads
import Dntpd.Spec.NtpPacket

/-!
# Which bytes of a datagram the parser reads

Without its trace the procedure of `Dntpd.PacketReads` is the parser (`Reads.parseNtpPacket_run`).
It reads the 48 bytes of the header, which every datagram has that gets so far, and for more than
68 bytes the key id and the digest, whose last byte has index 84.  So it leaves the datagram
exactly for the sizes 69 to 84 (`readsInBounds_iff`).
-/

namespace Dntpd

open Proc

namespace Reads

/-! ### Primitives -/

theorem memcpy_ret (off n : ℕ) (data : Mem) :
    (memcpy off n data).ret = Vector.ofFn fun i : Fin n => data.drop off i := rfl

theorem keyIdAt_ret (off : ℕ) (data : Mem) :
    (keyIdAt off data).ret = Dntpd.keyIdAt (data.drop off) := by
  unfold keyIdAt Dntpd.keyIdAt Mem.drop
  simp only [bind_ret, pure_ret, Nat.add_zero]
  rfl

theorem keyIdAt_state (off : ℕ) (data : Mem) : (keyIdAt off data).state = data := rfl

/-! ### Extension fields are processed as their handlers do -/

theorem storeKey_ret (store : ℕ → Vector UInt8 20 → IdoState → IdoState) (s : IdoState)
    (keyId off : ℕ) (data : Mem) : (storeKey store s keyId off data).ret =
      if keyId > 255 then s else store keyId (keyAt (data.drop off)) s := by
  unfold storeKey
  rw [ite_ret, bind_ret, memcpy_ret]
  rfl

/-- The reader is arbitrary here: the key id itself is a sum of large products, which must not be
evaluated. -/
theorem bind_storeKey_ret {p : BufferProc ℕ} {data : Mem} {keyId : ℕ}
    (hret : (p data).ret = keyId) (hstate : (p data).state = data)
    (store : ℕ → Vector UInt8 20 → IdoState → IdoState) (s : IdoState) (off : ℕ) :
    ((p >>= fun keyId => storeKey store s keyId off) data).ret =
      if keyId > 255 then s else store keyId (keyAt (data.drop off)) s := by
  rw [bind_ret, storeKey_ret, hret, hstate]

theorem processKeyField_ret (accepted : UInt16) (store : ℕ → Vector UInt8 20 → IdoState → IdoState)
    (s : IdoState) (efType : UInt16) (efLength off : ℕ) (data : Mem) :
    (processKeyField accepted store s efType efLength off data).ret =
      if efType ≠ accepted then s
      else if efLength < 24 ∨ efLength > autokeyMaxEfLength then s
      else if Dntpd.keyIdAt (data.drop off) > 255 then s
      else store (Dntpd.keyIdAt (data.drop off)) (keyAt (data.drop (off + 4))) s := by
  have hfield := bind_storeKey_ret (keyIdAt_ret off data) (keyIdAt_state off data) store s (off + 4)
  unfold processKeyField
  rw [ite_ret, ite_ret, hfield, pure_ret]

theorem drop_add (data : Mem) (off n : ℕ) :
    data.drop (off + n) = fun i => data.drop off (n + i) := by
  unfold Mem.drop
  simp only [Nat.add_assoc]

theorem autokeyProcessKeyInstall_ret (s : IdoState) (efType : UInt16) (efLength off : ℕ)
    (data : Mem) : (autokeyProcessKeyInstall s efType efLength off data).ret =
      (Dntpd.autokeyProcessKeyInstall s efType efLength (some (data.drop off))).2 := by
  unfold autokeyProcessKeyInstall Dntpd.autokeyProcessKeyInstall autokeyInstallKey
  rw [processKeyField_ret, drop_add]
  dsimp only
  generalize Dntpd.keyIdAt (data.drop off) = keyId
  split_ifs <;> rfl

theorem autokeyProcessKeyRotate_ret (s : IdoState) (efType : UInt16) (efLength off : ℕ)
    (data : Mem) : (autokeyProcessKeyRotate s efType efLength off data).ret =
      (Dntpd.autokeyProcessKeyRotate s efType efLength (some (data.drop off))).2 := by
  unfold autokeyProcessKeyRotate Dntpd.autokeyProcessKeyRotate autokeyRotateKey
  rw [processKeyField_ret, drop_add]
  dsimp only
  generalize Dntpd.keyIdAt (data.drop off) = keyId
  split_ifs <;> rfl

theorem autokeyProcessKeyRevoke_ret (s : IdoState) (efType : UInt16) (efLength off : ℕ)
    (data : Mem) : (autokeyProcessKeyRevoke s efType efLength off data).ret =
      (Dntpd.autokeyProcessKeyRevoke s efType efLength (some (data.drop off))).2 := by
  unfold autokeyProcessKeyRevoke Dntpd.autokeyProcessKeyRevoke autokeyRevokeKey
  rw [ite_ret, ite_ret, bind_ret, pure_ret, pure_ret, keyIdAt_ret]
  dsimp only
  generalize Dntpd.keyIdAt (data.drop off) = keyId
  split_ifs <;> rfl

theorem skipAutokeyField_ret (s : IdoState) (fieldType fieldLen : UInt16) (off : ℕ) (data : Mem) :
    (skipAutokeyField s fieldType fieldLen off data).ret =
      Dntpd.skipAutokeyField s fieldType fieldLen (data.drop off) := by
  unfold skipAutokeyField Dntpd.skipAutokeyField
  simp only [ite_ret, pure_ret, autokeyProcessKeyInstall_ret, autokeyProcessKeyRotate_ret,
    autokeyProcessKeyRevoke_ret]

theorem extensionFieldStep_ret (size pos : ℕ) (s : IdoState) (fieldType fieldLen : UInt16)
    (data : Mem) : (extensionFieldStep size pos s fieldType fieldLen data).ret =
      Dntpd.extensionFieldStep data size pos s fieldType fieldLen := by
  unfold extensionFieldStep Dntpd.extensionFieldStep
  simp only [ite_ret, pure_ret, bind_ret, skipAutokeyField_ret]

/-! ### The walk reads nothing -/

theorem parseExtensionFieldHeader_run {pos : ℕ} (hpos : 48 ≤ pos) (data : Mem) :
    parseExtensionFieldHeader pos data = ⟨none, data, []⟩ := by
  unfold parseExtensionFieldHeader
  rw [if_pos (by omega)]
  rfl

/-- No header is accepted from position 48 on, so the first turn ends the loop. -/
theorem skipExtensionFieldsLoop_run (size turns : ℕ) {pos : ℕ} (hpos : 48 ≤ pos) (skipped : ℕ)
    (s : IdoState) (data : Mem) :
    skipExtensionFieldsLoop size turns pos skipped s data = ⟨((skipped : ℤ), s), data, []⟩ := by
  cases turns with
  | zero => rfl
  | succ turns =>
    unfold skipExtensionFieldsLoop
    rw [ite_run]
    split_ifs with hsize
    · rw [bind_run, parseExtensionFieldHeader_run hpos]
      rfl
    · rfl

@[simp] theorem skipExtensionFields_run (size : ℕ) (s : IdoState) (data : Mem) :
    skipExtensionFields size s data = ⟨(0, s), data, []⟩ := by
  unfold skipExtensionFields
  rw [ite_run]
  split_ifs with hsize
  · rfl
  · exact skipExtensionFieldsLoop_run size size (le_refl 48) 0 s data

/-! ### The assignments -/

theorem readU32be_run (off : ℕ) (data : Mem) :
    readU32be off data =
      ⟨Dntpd.readU32be (data.drop off), data, [off, off + 1, off + 2, off + 3]⟩ := rfl

theorem readTimestamp_run (off : ℕ) (data : Mem) :
    readTimestamp off data = ⟨Dntpd.readTimestamp data off, data,
      [off, off + 1, off + 2, off + 3, off + 4, off + 5, off + 6, off + 7]⟩ := by
  unfold readTimestamp
  rw [bind_run, readU32be_run, bind_run, readU32be_run]
  rfl

/-- The header is read byte by byte, from the first to the last. -/
theorem readHeader_run (data : Mem) :
    readHeader data = ⟨Dntpd.readHeader data, data, List.range 48⟩ := by
  unfold readHeader
  simp only [bind_run, readU32be_run, readTimestamp_run]
  rfl

/-- The indices the assignments to `*pkt` read. -/
def packetIndices (size : ℕ) : List ℕ :=
  List.range 48 ++ if size > 68 then 64 :: (List.range 20).map (65 + ·) else []

theorem readPacket_run (size : ℕ) (pkt : NtpPacket) (data : Mem) :
    readPacket size pkt data = ⟨Dntpd.readPacket data size pkt, data, packetIndices size⟩ := by
  unfold readPacket Dntpd.readPacket packetIndices
  rw [bind_run, readHeader_run]
  dsimp only
  rw [ite_run]
  split_ifs with hsize
  · rfl
  · rfl

/-- The checks at the end of the parser, which read nothing. -/
theorem parseNtpPacket_run (size : ℕ) (pkt : NtpPacket) (s : IdoState) (data : Mem) :
    parseNtpPacket size pkt s data = ⟨Dntpd.parseNtpPacket data size pkt s, data,
      if size < 48 ∨ ntpIsKod pkt.toNtpHeader = true then [] else packetIndices size⟩ := by
  unfold parseNtpPacket Dntpd.parseNtpPacket
  by_cases hsize : size < 48
  · rw [if_pos hsize, if_pos hsize, if_pos (.inl hsize)]
    rfl
  rw [if_neg hsize, if_neg hsize, bind_run, skipExtensionFields_run, skipExtensionFields_eq]
  dsimp only
  by_cases hkod : ntpIsKod pkt.toNtpHeader = true
  · rw [if_pos hkod, if_pos hkod, if_pos (.inr hkod)]
    rfl
  rw [if_neg hkod, if_neg hkod, if_neg (not_or.mpr ⟨hsize, hkod⟩), bind_run, readPacket_run]
  dsimp only
  rw [List.nil_append]
  simp only [ite_run]
  split_ifs <;> simp [Pure.pure]

end Reads

/-! ### Staying inside the datagram -/

/-- Every index that the parser reads is one of the `size` bytes of the datagram. -/
def ReadsInBounds (data : Mem) (size : ℕ) (pkt : NtpPacket) (s : IdoState) : Prop :=
  ∀ i ∈ (Reads.parseNtpPacket size pkt s data).trace, i < size

instance (data : Mem) (size : ℕ) (pkt : NtpPacket) (s : IdoState) :
    Decidable (ReadsInBounds data size pkt s) := by
  unfold ReadsInBounds
  infer_instance

theorem forall_mem_packetIndices_iff {size : ℕ} (hsize : 48 ≤ size) :
    (∀ i ∈ Reads.packetIndices size, i < size) ↔ ¬ (68 < size ∧ size < 85) := by
  unfold Reads.packetIndices
  constructor
  · rintro h ⟨hmac, hlt⟩
    rw [if_pos hmac] at h
    -- the last byte of the digest
    have hlast : 84 < size := h 84 (by decide)
    omega
  · intro h i hi
    rcases List.mem_append.mp hi with hheader | hmac
    · have := List.mem_range.mp hheader
      omega
    · split_ifs at hmac with hgt
      · have hle : i ≤ 84 := by
          have hall : ∀ j ∈ 64 :: (List.range 20).map (65 + ·), j ≤ 84 := by decide
          exact hall i hmac
        omega
      · exact absurd hmac List.not_mem_nil

/-- The parser stays inside the datagram exactly when its size is none of 69 to 84, or the
Kiss-o'-Death test ends the parse before the first read. -/
theorem readsInBounds_iff (data : Mem) (size : ℕ) (pkt : NtpPacket) (s : IdoState) :
    ReadsInBounds data size pkt s ↔
      ¬ (68 < size ∧ size < 85) ∨ ntpIsKod pkt.toNtpHeader = true := by
  unfold ReadsInBounds
  rw [Reads.parseNtpPacket_run]
  dsimp only
  split_ifs with hreturns
  -- nothing is read
  · refine iff_of_true (fun _ hi => absurd hi List.not_mem_nil) ?_
    exact hreturns.imp_left fun hsize hmac => by omega
  · obtain ⟨hsize, hkod⟩ := not_or.mp hreturns
    rw [forall_mem_packetIndices_iff (not_lt.mp hsize), or_iff_left hkod]

/-- A client request with 21 bytes behind it is read 16 bytes past its end. -/
theorem not_readsInBounds_shortMac :
    let request := [0x23] ++ List.replicate 68 0
    request.length = 69 ∧
      ¬ ReadsInBounds (Mem.ofList request) request.length NtpPacket.zero IdoState.init := by
  intro request
  refine ⟨by decide, fun h => ?_⟩
  have hlast : 84 < 69 := by
    refine h 84 ?_
    rw [Reads.parseNtpPacket_run]
    decide
  omega

end Dntpd
