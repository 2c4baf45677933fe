import Dntpd.NtpPacket

/-!
# What the parser reads (`ntp_packet.c`, `autokey.c`)

The parser once more, as a procedure on the memory behind `buffer` whose trace is the list of the
indices it reads.  The memory is looked at through `readByte` and `memcpy` alone, so the trace has
every index; `Spec.PacketReads` shows that without the trace this is the parser of `NtpPacket`.
-/

namespace Dntpd

/-- A procedure that reads a buffer; its events are the indices it reads. -/
abbrev BufferProc (α : Type) := Proc Mem ℕ α

namespace Reads

/-- `data[i]` -/
def readByte (i : ℕ) : BufferProc UInt8 := do
  Proc.emit i
  let data ← Proc.read
  return data i

/-- `memcpy(…, data + off, n)` -/
def memcpy (off n : ℕ) : BufferProc (Vector UInt8 n) :=
  fun data => ⟨Vector.ofFn fun i => data (off + i), data, (List.range n).map (off + ·)⟩

/-- `read_u32be(data + off)` -/
def readU32be (off : ℕ) : BufferProc UInt32 := do
  let b0 ← readByte off
  let b1 ← readByte (off + 1)
  let b2 ← readByte (off + 2)
  let b3 ← readByte (off + 3)
  return (b0.toUInt32 <<< 24) ||| (b1.toUInt32 <<< 16) ||| (b2.toUInt32 <<< 8) ||| b3.toUInt32

/-! ### Key management fields, whose payload is at `data + off` -/

/-- The big-endian key id in the first four bytes of a payload. -/
def keyIdAt (off : ℕ) : BufferProc ℕ := do
  let b0 ← readByte off
  let b1 ← readByte (off + 1)
  let b2 ← readByte (off + 2)
  let b3 ← readByte (off + 3)
  return b0.toNat * 16777216 + b1.toNat * 65536 + b2.toNat * 256 + b3.toNat

/-- The key at `data + off` is stored by `store` unless its id is more than a byte. -/
def storeKey (store : ℕ → Vector UInt8 20 → IdoState → IdoState) (s : IdoState) (keyId off : ℕ) :
    BufferProc IdoState := do
  if keyId > 255 then return s
  else
    let key ← memcpy off 20
    return store keyId key s

/-- A field of the type `accepted` that carries a key id and a key. -/
def processKeyField (accepted : UInt16) (store : ℕ → Vector UInt8 20 → IdoState → IdoState)
    (s : IdoState) (efType : UInt16) (efLength off : ℕ) : BufferProc IdoState := do
  if efType ≠ accepted then return s
  else if efLength < 24 ∨ efLength > autokeyMaxEfLength then return s
  else
    let keyId ← keyIdAt off
    storeKey store s keyId (off + 4)

/-- `autokey_process_key_install`, with `autokey_install_key` -/
def autokeyProcessKeyInstall : IdoState → UInt16 → ℕ → ℕ → BufferProc IdoState :=
  processKeyField ntpEfAutokeyKeyInstall fun keyId key s =>
    { s with idoKeyId := UInt8.ofNat keyId, idoKey := key, idoEnabled := 1 }

/-- `autokey_process_key_rotate`, with `autokey_rotate_key` -/
def autokeyProcessKeyRotate : IdoState → UInt16 → ℕ → ℕ → BufferProc IdoState :=
  processKeyField ntpEfAutokeyKeyRotate fun keyId key s =>
    { s with idoKeyId := UInt8.ofNat keyId, idoKey := key }

/-- `autokey_process_key_revoke`, which stores nothing. -/
def autokeyProcessKeyRevoke (s : IdoState) (efType : UInt16) (efLength off : ℕ) :
    BufferProc IdoState := do
  if efType ≠ ntpEfAutokeyKeyRevoke then return s
  else if efLength < 4 ∨ efLength > autokeyMaxEfLength then return s
  else
    let keyId ← keyIdAt off
    return (autokeyRevokeKey s keyId).2

/-! ### The walk -/

/-- `parse_extension_field_header` -/
def parseExtensionFieldHeader (pos : ℕ) : BufferProc (Option (UInt16 × UInt16)) := do
  if pos + 4 > 48 then return none
  else
    let high ← readByte pos
    let low ← readByte (pos + 1)
    let b2 ← readByte (pos + 2)
    let b3 ← readByte (pos + 3)
    return some ((high.toUInt16 <<< 8) ||| low.toUInt16, (b2.toUInt16 <<< 8) ||| b3.toUInt16)

/-- The Autokey key-management branch of the walk. -/
def skipAutokeyField (s : IdoState) (fieldType fieldLen : UInt16) (off : ℕ) :
    BufferProc IdoState :=
  let s := (autokeyProcessSkip s fieldType (payloadLength fieldLen)).2
  if fieldType = ntpEfAutokeyKeyInstall then
    autokeyProcessKeyInstall s fieldType (payloadLength fieldLen) off
  else if fieldType = ntpEfAutokeyKeyRotate then
    autokeyProcessKeyRotate s fieldType (payloadLength fieldLen) off
  else if fieldType = ntpEfAutokeyKeyRevoke then
    autokeyProcessKeyRevoke s fieldType (payloadLength fieldLen) off
  else return s

/-- The body of the loop for a field at `pos` whose length is valid.  The I-DO branch passes a null
pointer on, and the NTS functions do not use theirs. -/
def extensionFieldStep (size pos : ℕ) (s : IdoState) (fieldType fieldLen : UInt16) :
    BufferProc FieldStep := do
  if fieldType = ntpEfLastEf then return .stop
  else if fieldType = 0 ∧ fieldLen = 2 then return .done (pos + fieldLen.toNat - 48)
  else if fieldType = ntpEfIDoOffer ∨ fieldType = ntpEfIDoResponse then
    return .next (skipIdoField s fieldType fieldLen)
  else if fieldType ≥ ntpEfNtsUidReq ∧ fieldType ≤ ntpEfNtsAeefResp then return .next s
  else if fieldType = ntpEfAutokeyKeyInstall ∨ fieldType = ntpEfAutokeyKeyRotate ∨
      fieldType = ntpEfAutokeyKeyRevoke then
    let s ← skipAutokeyField s fieldType fieldLen (pos + 4)
    return .next s
  else if fieldType = ntpEfChecksumComp then return .next s
  else if fieldType = ntpEfMac then return .next s
  else if fieldType = ntpEfCryptoNak then return .done (pos + fieldLen.toNat - 48)
  else if fieldLen ≥ 4 ∧ pos + fieldLen.toNat ≤ size then return .next s
  else return .stop

/-- `turns` turns of the loop of `skip_extension_fields` from `pos` on. -/
def skipExtensionFieldsLoop (size : ℕ) : ℕ → ℕ → ℕ → IdoState → BufferProc (ℤ × IdoState)
  | 0, _, skipped, s => return ((skipped : ℤ), s)
  | turns + 1, pos, skipped, s => do
    if pos + 4 ≤ size then
      match ← parseExtensionFieldHeader pos with
      | none => return ((skipped : ℤ), s)
      | some (fieldType, fieldLen) =>
        if validateExtensionFieldLength fieldLen (size - 48) < 0 then return ((skipped : ℤ), s)
        else
          match ← extensionFieldStep size pos s fieldType fieldLen with
          | .stop => return ((skipped : ℤ), s)
          | .done r => return (r, s)
          | .next s' =>
            skipExtensionFieldsLoop size turns (pos + fieldLen.toNat) (skipped + fieldLen.toNat) s'
    else return ((skipped : ℤ), s)

/-- `skip_extension_fields`; `size` turns are enough, for the walk never gets to a second one. -/
def skipExtensionFields (size : ℕ) (s : IdoState) : BufferProc (ℤ × IdoState) := do
  if size ≤ 48 then return (0, s)
  else skipExtensionFieldsLoop size size 48 0 s

/-! ### Parsing -/

/-- The timestamp at offset `off`. -/
def readTimestamp (off : ℕ) : BufferProc NtpTimestamp := do
  let sec ← readU32be off
  let frac ← readU32be (off + 4)
  return ⟨sec, frac⟩

/-- The assignments of the header fields. -/
def readHeader : BufferProc NtpHeader := do
  let liVnMode ← readByte 0
  let stratum ← readByte 1
  let poll ← readByte 2
  let precision ← readByte 3
  let rootDelay ← readU32be 4
  let rootDisp ← readU32be 8
  let refId ← readU32be 12
  let refTs ← readTimestamp 16
  let origTs ← readTimestamp 24
  let recvTs ← readTimestamp 32
  let xmitTs ← readTimestamp 40
  return ⟨liVnMode, stratum, poll.toInt8, precision.toInt8, rootDelay, rootDisp, refId, refTs,
    origTs, recvTs, xmitTs⟩

/-- The assignments to `*pkt`. -/
def readPacket (size : ℕ) (pkt : NtpPacket) : BufferProc NtpPacket := do
  let header ← readHeader
  let pkt : NtpPacket := { pkt with toNtpHeader := header }
  -- the key id and the digest take 21 bytes from 64 on
  if size > 68 then
    let keyId ← readByte 64
    let macDigest ← memcpy 65 20
    return { pkt with keyId := keyId, macDigest := macDigest }
  else return pkt

/-- `parse_ntp_packet` -/
def parseNtpPacket (size : ℕ) (pkt : NtpPacket) (s : IdoState) : BufferProc ParseResult := do
  if size < 48 then return ⟨false, pkt, s⟩
  else
    let r ← skipExtensionFields size s
    let s := r.2
    if ntpIsKod pkt.toNtpHeader then return ⟨false, pkt, s⟩
    else
      let pkt ← readPacket size pkt
      if pkt.vn ≠ ntpVn4 then return ⟨false, pkt, s⟩
      else if pkt.mode = 0 ∨ pkt.mode > 7 then return ⟨false, pkt, s⟩
      else if pkt.li > 3 then return ⟨false, pkt, s⟩
      else if pkt.stratum > 16 then return ⟨false, pkt, s⟩
      else return ⟨true, pkt, s⟩

end Reads

end Dntpd
