import Dntpd.Autokey
import Dntpd.NtpAlgorithms

/-!
# The packet format (`ntp_packet.c`, `ntpd.c`)

The extension-field walk, the parser, and the client request.

`skip_extension_fields` is a loop over positions; `extensionFieldStep` is its body after the
header was read and validated, and says how the loop goes on.  Fields are processed for their
effect on `g_ido_state`, so the walk and the parser return it.
-/

namespace Dntpd

/-! ### Extension field types -/

def ntpEfCryptoNak : UInt16 := 0x0000
def ntpEfMac : UInt16 := 0x0003
def ntpEfIDoOffer : UInt16 := 0x0007
def ntpEfIDoResponse : UInt16 := 0x8007
def ntpEfLastEf : UInt16 := 0x0008
def ntpEfChecksumComp : UInt16 := 0x0005
def ntpEfNtsUidReq : UInt16 := 0x0104
def ntpEfNtsAeefResp : UInt16 := 0x8404

/-! ### Big-endian words -/

/-- `read_u32be`. -/
def readU32be (p : Mem) : UInt32 :=
  ((p 0).toUInt32 <<< 24) ||| ((p 1).toUInt32 <<< 16) ||| ((p 2).toUInt32 <<< 8) ||| (p 3).toUInt32

/-- The four bytes `write_u32be` stores. -/
def writeU32be (v : UInt32) : List UInt8 :=
  [(v >>> 24).toUInt8, (v >>> 16).toUInt8, (v >>> 8).toUInt8, v.toUInt8]

/-- The bytes of a timestamp on the wire. -/
def writeTimestamp (t : NtpTimestamp) : List UInt8 := writeU32be t.sec ++ writeU32be t.frac

/-- `data + off`. -/
def Mem.drop (data : Mem) (off : ℕ) : Mem := fun i => data (off + i)

/-! ### Extension fields -/

/-- `validate_extension_field_length`. -/
def validateExtensionFieldLength (length : UInt16) (remaining : ℕ) : ℤ :=
  if length &&& 0x03 ≠ 0 then -1
  else if length > 65532 then -1
  else if 48 + length.toNat > remaining then -1
  else 0

/-- `parse_extension_field_header`: type and length of the field at `pos`, or `none`. -/
def parseExtensionFieldHeader (data : Mem) (pos : ℕ) : Option (UInt16 × UInt16) :=
  -- the bound is that of the header, behind which the fields lie
  if pos + 4 > 48 then none
  else
    let fieldType := ((data pos).toUInt16 <<< 8) ||| (data (pos + 1)).toUInt16
    let fieldLen := ((data (pos + 2)).toUInt16 <<< 8) ||| (data (pos + 3)).toUInt16
    some (fieldType, fieldLen)

/-- `(uint8_t)(field_len - 4)`. -/
def payloadLength (fieldLen : UInt16) : ℕ := (fieldLen.toNat + 252) % 256

/-- The I-DO branch of the walk: track, process without data, step the state machine. -/
def skipIdoField (s : IdoState) (fieldType fieldLen : UInt16) : IdoState :=
  -- an idle state is cleared again with every field
  let s := if s.idoState = idoStateIdle then idoStateInit s else s
  let s := (idoProcessSkip s fieldType (payloadLength fieldLen)).2
  let s := (idoProcess s fieldType (payloadLength fieldLen) none).2
  if fieldType = ntpEfIDoOffer then (idoStateMachine s idoStateOfferReceived).2
  else if fieldType = ntpEfIDoResponse then (idoStateMachine s idoStateResponseSent).2
  else s

/-- The Autokey key-management branch of the walk. -/
def skipAutokeyField (s : IdoState) (fieldType fieldLen : UInt16) (payload : Mem) : IdoState :=
  let s := (autokeyProcessSkip s fieldType (payloadLength fieldLen)).2
  if fieldType = ntpEfAutokeyKeyInstall then
    (autokeyProcessKeyInstall s fieldType (payloadLength fieldLen) (some payload)).2
  else if fieldType = ntpEfAutokeyKeyRotate then
    (autokeyProcessKeyRotate s fieldType (payloadLength fieldLen) (some payload)).2
  else if fieldType = ntpEfAutokeyKeyRevoke then
    (autokeyProcessKeyRevoke s fieldType (payloadLength fieldLen) (some payload)).2
  else s

/-- How the walk goes on after a field. -/
inductive FieldStep
  /-- `break` -/
  | stop
  /-- `return` -/
  | done (skipped : ℤ)
  /-- advance by the field's length and `continue` -/
  | next (s : IdoState)

/-- The body of the loop for a field at `pos` whose length is valid. -/
def extensionFieldStep (data : Mem) (size pos : ℕ) (s : IdoState) (fieldType fieldLen : UInt16) :
    FieldStep :=
  if fieldType = ntpEfLastEf then .stop
  else if fieldType = 0 ∧ fieldLen = 2 then .done (pos + fieldLen.toNat - 48)
  else if fieldType = ntpEfIDoOffer ∨ fieldType = ntpEfIDoResponse then
    .next (skipIdoField s fieldType fieldLen)
  else if fieldType ≥ ntpEfNtsUidReq ∧ fieldType ≤ ntpEfNtsAeefResp then .next s
  else if fieldType = ntpEfAutokeyKeyInstall ∨ fieldType = ntpEfAutokeyKeyRotate ∨
      fieldType = ntpEfAutokeyKeyRevoke then
    .next (skipAutokeyField s fieldType fieldLen (data.drop (pos + 4)))
  else if fieldType = ntpEfChecksumComp then .next s
  else if fieldType = ntpEfMac then .next s
  else if fieldType = ntpEfCryptoNak then .done (pos + fieldLen.toNat - 48)
  else if fieldLen ≥ 4 ∧ pos + fieldLen.toNat ≤ size then .next s
  else .stop

/-- The loop of `skip_extension_fields`.  It terminates because no header is accepted from
position 48 on. -/
def skipExtensionFieldsFrom (data : Mem) (size pos skipped : ℕ) (s : IdoState) (hpos : 48 ≤ pos) :
    ℤ × IdoState :=
  if pos + 4 ≤ size then
    match _h : parseExtensionFieldHeader data pos with
    | none => (skipped, s)
    | some (fieldType, fieldLen) =>
      if validateExtensionFieldLength fieldLen (size - 48) < 0 then (skipped, s)
      else
        match extensionFieldStep data size pos s fieldType fieldLen with
        | .stop => (skipped, s)
        | .done r => (r, s)
        | .next s' =>
          skipExtensionFieldsFrom data size (pos + fieldLen.toNat) (skipped + fieldLen.toNat) s'
            (by omega)
  else (skipped, s)
termination_by size - pos
decreasing_by
  -- a header that was accepted ends before position 48, where the walk never is
  unfold parseExtensionFieldHeader at _h
  split at _h
  · cases _h
  · omega

/-- `skip_extension_fields`: the number of bytes skipped and `g_ido_state` after the walk. -/
def skipExtensionFields (data : Mem) (size : ℕ) (s : IdoState) : ℤ × IdoState :=
  if size ≤ 48 then (0, s)
  else skipExtensionFieldsFrom data size 48 0 s (le_refl 48)

/-! ### Parsing -/

/-- `ntp_is_kod`. -/
def ntpIsKod (pkt : NtpHeader) : Bool := pkt.stratum == 127 && pkt.li == 3

/-- The timestamp at offset `off`. -/
def readTimestamp (data : Mem) (off : ℕ) : NtpTimestamp :=
  ⟨readU32be (data.drop off), readU32be (data.drop (off + 4))⟩

/-- The header fields of the first 48 bytes. -/
def readHeader (data : Mem) : NtpHeader where
  liVnMode := data 0
  stratum := data 1
  poll := (data 2).toInt8
  precision := (data 3).toInt8
  rootDelay := readU32be (data.drop 4)
  rootDisp := readU32be (data.drop 8)
  refId := readU32be (data.drop 12)
  refTs := readTimestamp data 16
  origTs := readTimestamp data 24
  recvTs := readTimestamp data 32
  xmitTs := readTimestamp data 40

/-- `*pkt` once the fields of the datagram are assigned: the header, and past 68 bytes the key id
and digest behind it. -/
def readPacket (data : Mem) (size : ℕ) (pkt : NtpPacket) : NtpPacket :=
  let pkt : NtpPacket := { pkt with toNtpHeader := readHeader data }
  if size > 68 then { pkt with keyId := data 64, macDigest := Vector.ofFn fun i => data (65 + i) }
  else pkt

@[simp] theorem readPacket_toNtpHeader (data : Mem) (size : ℕ) (pkt : NtpPacket) :
    (readPacket data size pkt).toNtpHeader = readHeader data := by
  unfold readPacket
  dsimp only
  split_ifs <;> rfl

/-- What `parse_ntp_packet` leaves: its verdict, `*pkt` and `g_ido_state`. -/
structure ParseResult where
  ok : Bool
  pkt : NtpPacket
  ido : IdoState

/-- `parse_ntp_packet`; `pkt` is what the output parameter holds before the call. -/
def parseNtpPacket (data : Mem) (size : ℕ) (pkt : NtpPacket) (s : IdoState) : ParseResult :=
  if size < 48 then ⟨false, pkt, s⟩
  else
    let s := (skipExtensionFields data size s).2
    -- `*pkt` still holds what the caller left in it
    if ntpIsKod pkt.toNtpHeader then ⟨false, pkt, s⟩
    else
      let pkt := readPacket data size pkt
      if pkt.vn ≠ ntpVn4 then ⟨false, pkt, s⟩
      else if pkt.mode = 0 ∨ pkt.mode > 7 then ⟨false, pkt, s⟩
      else if pkt.li > 3 then ⟨false, pkt, s⟩
      else if pkt.stratum > 16 then ⟨false, pkt, s⟩
      else ⟨true, pkt, s⟩

/-! ### The client request -/

/-- `create_ntp_request`: the 48 bytes of a request with transmit timestamp `t1`. -/
def createNtpRequest (g : Globals) (t1 : NtpTimestamp) : List UInt8 :=
  [(0 <<< ntpLiShift) ||| (ntpVn4 <<< ntpVnShift) ||| 3, 0,
    (if g.localPoll < 0 then 12 else g.localPoll).toUInt8, g.localPrecision.toUInt8]
    ++ List.replicate 36 0 ++ writeTimestamp t1

end Dntpd
