import Dntpd.Daemon

/-!
# I-DO capability negotiation (`ido.c`)

A field's payload is the memory behind `ef_data`, `none` for a null pointer.  `ef_length` is the
value of the `uint8_t` parameter; the narrowing happens at the call.
-/

namespace Dntpd

/-! ### Constants -/

def idoStateIdle : UInt8 := 0
def idoStateOfferReceived : UInt8 := 1
def idoStateResponseSent : UInt8 := 2
def idoStateAuthenticated : UInt8 := 3
def idoStateRejected : UInt8 := 4

def idoEventOfferReceived : UInt8 := 1
def idoEventResponseSent : UInt8 := 2
def idoEventAuthEstablished : UInt8 := 3
def idoEventNegotiationFailed : UInt8 := 4

def idoMinEfLength : ℕ := 4

def idoEfTypeOffer : UInt16 := 0x0007
def idoEfTypeResponse : UInt16 := 0x8007
def idoEfAutokeyOffer : UInt16 := 0x000A
def idoEfAutokeyResponse : UInt16 := 0x800A

/-! ### The negotiation machine -/

/-- The state `ido_state_init` writes. -/
def IdoState.init : IdoState where
  idoState := idoStateIdle
  idoOfferReceived := 0
  idoResponseSent := 0
  idoCapabilities := 0
  idoKeyId := 0
  idoKey := Vector.replicate 20 0
  idoEnabled := 0
  idoAuthenticated := 0

/-- `ido_state_init`. -/
def idoStateInit (_ : IdoState) : IdoState := IdoState.init

/-- The capability flags of a payload: the lower three bits of its first byte. -/
def idoReadCapabilities (s : IdoState) (efLength : ℕ) (efData : Option Mem) : IdoState :=
  match efData with
  | some data => if efLength ≥ 4 then { s with idoCapabilities := data 0 &&& 0x07 } else s
  | none => s

/-- `ido_process_offer`. -/
def idoProcessOffer (s : IdoState) (efType : UInt16) (efLength : ℕ) (efData : Option Mem) :
    Bool × IdoState :=
  if efType ≠ idoEfTypeOffer ∧ efType ≠ idoEfAutokeyOffer then (false, s)
  else if efLength < idoMinEfLength ∨ efLength > 48 then (false, s)
  else
    (true, { idoReadCapabilities s efLength efData with
      idoOfferReceived := 1
      idoState := idoStateOfferReceived })

/-- `ido_process_response`. -/
def idoProcessResponse (s : IdoState) (efType : UInt16) (efLength : ℕ) (efData : Option Mem) :
    Bool × IdoState :=
  if efType ≠ idoEfTypeResponse ∧ efType ≠ idoEfAutokeyResponse then (false, s)
  else if efLength < idoMinEfLength ∨ efLength > 48 then (false, s)
  else
    (true, { idoReadCapabilities s efLength efData with
      idoResponseSent := 1
      idoState := idoStateAuthenticated
      idoAuthenticated := 1 })

/-- `ido_process`. -/
def idoProcess (s : IdoState) (efType : UInt16) (efLength : ℕ) (efData : Option Mem) :
    Bool × IdoState :=
  if efData = none then (false, s)
  else if efType = idoEfTypeOffer ∨ efType = idoEfAutokeyOffer then
    idoProcessOffer s efType efLength efData
  else if efType = idoEfTypeResponse ∨ efType = idoEfAutokeyResponse then
    idoProcessResponse s efType efLength efData
  else (false, s)

/-- `ido_process_skip`. -/
def idoProcessSkip (s : IdoState) (efType : UInt16) (efLength : ℕ) : Bool × IdoState :=
  if efType ≠ idoEfTypeOffer ∧ efType ≠ idoEfTypeResponse ∧
      efType ≠ idoEfAutokeyOffer ∧ efType ≠ idoEfAutokeyResponse then (false, s)
  else if efLength < idoMinEfLength ∨ efLength > 48 then (false, s)
  else if efType = idoEfTypeOffer ∨ efType = idoEfAutokeyOffer then
    (true, { s with idoOfferReceived := 1 })
  else if efType = idoEfTypeResponse ∨ efType = idoEfAutokeyResponse then
    (true, { s with idoResponseSent := 1 })
  else (true, s)

/-- `ido_state_machine`. -/
def idoStateMachine (s : IdoState) (event : UInt8) : UInt8 × IdoState :=
  let newState :=
    if event = idoEventOfferReceived then
      if s.idoState = idoStateIdle then idoStateOfferReceived else s.idoState
    else if event = idoEventResponseSent then
      if s.idoState = idoStateOfferReceived then idoStateResponseSent else s.idoState
    else if event = idoEventAuthEstablished then
      if s.idoState = idoStateResponseSent then idoStateAuthenticated else s.idoState
    else if event = idoEventNegotiationFailed then idoStateRejected
    else s.idoState
  (newState, { s with idoState := newState })

/-- `ido_is_authenticated`. -/
def idoIsAuthenticated (s : IdoState) : Bool := s.idoAuthenticated != 0

end Dntpd
