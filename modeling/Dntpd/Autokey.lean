import Dntpd.Ido

/-!
# Autokey (`autokey.c`), on the state it shares with `ido.c`

Negotiation, key management, and the message authentication codes.  libgcrypt is a parameter: the
error codes of its calls, and an arbitrary function in the place of HMAC-SHA1.
-/

namespace Dntpd

def autokeyMinEfLength : ℕ := 4
def autokeyMaxEfLength : ℕ := 48

def ntpEfAutokeyOffer : UInt16 := 0x000A
def ntpEfAutokeyResponse : UInt16 := 0x800A
def ntpEfAutokeyKeyInstall : UInt16 := 0x000B
def ntpEfAutokeyKeyRotate : UInt16 := 0x000C
def ntpEfAutokeyKeyRevoke : UInt16 := 0x000D

def autokeyStateIdle : UInt8 := idoStateIdle
def autokeyStateOfferReceived : UInt8 := idoStateOfferReceived
def autokeyStateResponseSent : UInt8 := idoStateResponseSent
def autokeyStateAuthenticated : UInt8 := idoStateAuthenticated
def autokeyStateRejected : UInt8 := idoStateRejected

def autokeyEventOfferReceived : UInt8 := 1
def autokeyEventResponseSent : UInt8 := 2
def autokeyEventAuthEstablished : UInt8 := 3
def autokeyEventNegotiationFailed : UInt8 := 4

/-! ### Negotiation -/

/-- `autokey_init_state`. -/
def autokeyInitState (_ : IdoState) : IdoState where
  idoState := autokeyStateIdle
  idoOfferReceived := 0
  idoResponseSent := 0
  idoCapabilities := 0
  idoKeyId := 0
  idoKey := Vector.replicate 20 0
  idoEnabled := 0
  idoAuthenticated := 0

/-- The capability flags of a payload. -/
def autokeyReadCapabilities (s : IdoState) (efLength : ℕ) (efData : Option Mem) : IdoState :=
  match efData with
  | some data => if efLength ≥ 4 then { s with idoCapabilities := data 0 &&& 0x07 } else s
  | none => s

/-- `autokey_process_offer`. -/
def autokeyProcessOffer (s : IdoState) (efType : UInt16) (efLength : ℕ) (efData : Option Mem) :
    Bool × IdoState :=
  if efType ≠ ntpEfAutokeyOffer then (false, s)
  else if efLength < autokeyMinEfLength ∨ efLength > autokeyMaxEfLength then (false, s)
  else
    (true, { autokeyReadCapabilities s efLength efData with
      idoOfferReceived := 1
      idoState := autokeyStateOfferReceived })

/-- `autokey_process_response`. -/
def autokeyProcessResponse (s : IdoState) (efType : UInt16) (efLength : ℕ) (efData : Option Mem) :
    Bool × IdoState :=
  if efType ≠ ntpEfAutokeyResponse then (false, s)
  else if efLength < autokeyMinEfLength ∨ efLength > autokeyMaxEfLength then (false, s)
  else
    (true, { autokeyReadCapabilities s efLength efData with
      idoResponseSent := 1
      idoState := autokeyStateAuthenticated
      idoAuthenticated := 1 })

/-- `autokey_process`. -/
def autokeyProcess (s : IdoState) (efType : UInt16) (efLength : ℕ) (efData : Option Mem) :
    Bool × IdoState :=
  if efData = none then (false, s)
  else if efType = ntpEfAutokeyOffer then autokeyProcessOffer s efType efLength efData
  else if efType = ntpEfAutokeyResponse then autokeyProcessResponse s efType efLength efData
  else (false, s)

/-- `autokey_process_skip`. -/
def autokeyProcessSkip (s : IdoState) (efType : UInt16) (efLength : ℕ) : Bool × IdoState :=
  if efType ≠ ntpEfAutokeyOffer ∧ efType ≠ ntpEfAutokeyResponse then (false, s)
  else if efLength < autokeyMinEfLength ∨ efLength > autokeyMaxEfLength then (false, s)
  else if efType = ntpEfAutokeyOffer then (true, { s with idoOfferReceived := 1 })
  else if efType = ntpEfAutokeyResponse then (true, { s with idoResponseSent := 1 })
  else (true, s)

/-- `autokey_state_machine`. -/
def autokeyStateMachine (s : IdoState) (event : UInt8) : UInt8 × IdoState :=
  let newState :=
    if event = autokeyEventOfferReceived then
      if s.idoState = autokeyStateIdle then autokeyStateOfferReceived else s.idoState
    else if event = autokeyEventResponseSent then
      if s.idoState = autokeyStateOfferReceived then autokeyStateResponseSent else s.idoState
    else if event = autokeyEventAuthEstablished then
      if s.idoState = autokeyStateResponseSent then autokeyStateAuthenticated else s.idoState
    else if event = autokeyEventNegotiationFailed then autokeyStateRejected
    else s.idoState
  (newState, { s with idoState := newState })

/-- `autokey_is_authenticated`. -/
def autokeyIsAuthenticated (s : IdoState) : Bool := s.idoAuthenticated != 0

/-! ### Keys -/

/-- The 20 key bytes at a pointer. -/
def keyAt (data : Mem) : Vector UInt8 20 := Vector.ofFn fun i => data i

/-- `autokey_install_key`. -/
def autokeyInstallKey (s : IdoState) (keyId : ℕ) (key : Mem) : ℤ × IdoState :=
  if keyId > 255 then (-1, s)
  else (0, { s with idoKeyId := UInt8.ofNat keyId, idoKey := keyAt key, idoEnabled := 1 })

/-- `autokey_rotate_key`. -/
def autokeyRotateKey (s : IdoState) (newKeyId : ℕ) (newKey : Mem) : ℤ × IdoState :=
  if newKeyId > 255 then (-1, s)
  else (0, { s with idoKeyId := UInt8.ofNat newKeyId, idoKey := keyAt newKey })

/-- `autokey_revoke_key`. -/
def autokeyRevokeKey (s : IdoState) (keyId : ℕ) : ℤ × IdoState :=
  if s.idoKeyId.toNat = keyId then (-1, s) else (0, s)

/-! ### Key management fields -/

/-- The big-endian key id in the first four bytes of a payload. -/
def keyIdAt (data : Mem) : ℕ :=
  (data 0).toNat * 16777216 + (data 1).toNat * 65536 + (data 2).toNat * 256 + (data 3).toNat

/-- `autokey_process_key_install`. -/
def autokeyProcessKeyInstall (s : IdoState) (efType : UInt16) (efLength : ℕ)
    (efData : Option Mem) : Bool × IdoState :=
  if efType ≠ ntpEfAutokeyKeyInstall then (false, s)
  else if efLength < 24 ∨ efLength > autokeyMaxEfLength then (false, s)
  else
    match efData with
    | some data =>
      let r := autokeyInstallKey s (keyIdAt data) fun i => data (4 + i)
      if r.1 < 0 then (false, r.2) else (true, r.2)
    | none => (true, s)

/-- `autokey_process_key_rotate`. -/
def autokeyProcessKeyRotate (s : IdoState) (efType : UInt16) (efLength : ℕ)
    (efData : Option Mem) : Bool × IdoState :=
  if efType ≠ ntpEfAutokeyKeyRotate then (false, s)
  else if efLength < 24 ∨ efLength > autokeyMaxEfLength then (false, s)
  else
    match efData with
    | some data =>
      let r := autokeyRotateKey s (keyIdAt data) fun i => data (4 + i)
      if r.1 < 0 then (false, r.2) else (true, r.2)
    | none => (true, s)

/-- `autokey_process_key_revoke`. -/
def autokeyProcessKeyRevoke (s : IdoState) (efType : UInt16) (efLength : ℕ)
    (efData : Option Mem) : Bool × IdoState :=
  if efType ≠ ntpEfAutokeyKeyRevoke then (false, s)
  else if efLength < 4 ∨ efLength > autokeyMaxEfLength then (false, s)
  else
    match efData with
    | some data =>
      let r := autokeyRevokeKey s (keyIdAt data)
      if r.1 < 0 then (false, r.2) else (true, r.2)
    | none => (true, s)

/-! ### Message authentication codes -/

/-- What libgcrypt answers: the error codes of `gcry_md_open` and `gcry_md_setkey`, whether
`gcry_md_read` returns a digest, and the digest of a key and a message. -/
structure Gcrypt where
  mdOpen : UInt32
  mdSetkey : UInt32
  mdRead : Bool
  hmacSha1 : List UInt8 → List UInt8 → Vector UInt8 20

/-- `GPG_ERR_NO_ERROR`. -/
def gpgErrNoError : UInt32 := 0

/-- `autokey_compute_hmac`: its status, and the digest it stores on success. -/
def autokeyComputeHmac (gcry : Gcrypt) (data : Option Mem) (dataLen : ℕ) (key : Option (List UInt8))
    (keyLen : ℕ) : ℤ × Option (Vector UInt8 20) :=
  match data, key with
  | some data, some key =>
    if keyLen = 0 ∨ keyLen > 64 then (-1, none)
    else if gcry.mdOpen ≠ gpgErrNoError then (-1, none)
    else if gcry.mdSetkey ≠ gpgErrNoError then (-1, none)
    else if gcry.mdRead then
      (0, some (gcry.hmacSha1 (key.take keyLen) ((List.range dataLen).map data)))
    else (-1, none)
  | _, _ => (-1, none)

/-- `autokey_verify_mac`, on `g_autokey_state`. -/
def autokeyVerifyMac (gcry : Gcrypt) (s : IdoState) (pkt : Option Mem) (pktLen keyId : ℕ) : ℤ :=
  match pkt with
  | none => -1
  | some pkt =>
    if s.idoKeyId.toNat ≠ keyId then -1
    else if s.idoEnabled = 0 then -1
    else
      -- the expected digest is computed, and compared with nothing
      let r := autokeyComputeHmac gcry (some pkt) pktLen (some s.idoKey.toList) 20
      if r.1 < 0 then -1 else 0

end Dntpd
