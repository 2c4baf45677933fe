import Dntpd.Autokey
import Dntpd.Library.Simulation

/-!
# The two copies of the negotiation machine

`autokey.c` has the functions of `ido.c` once more, with constants of its own, and both write the
same structure.  On the two types of Autokey fields, which `ido.c` accepts beside its own, every
operation of one copy is that of the other, so they cannot be told apart over any run
(`autokey_runs_as_ido`).
-/

namespace Dntpd

open Simulation

/-- The type of an Autokey field: an Offer or a Response. -/
abbrev AutokeyFieldType := {efType : UInt16 // efType = 0x000A ∨ efType = 0x800A}

/-! ### Types of fields -/

namespace AutokeyFieldType

variable (efType : AutokeyFieldType)

/-- Of the types `ido.c` takes for Offers it can only be the one of Autokey. -/
theorem idoOffer_iff :
    (efType.val = idoEfTypeOffer ∨ efType.val = idoEfAutokeyOffer) ↔
      efType.val = ntpEfAutokeyOffer := by
  obtain ⟨_, rfl | rfl⟩ := efType <;> decide

theorem idoResponse_iff :
    (efType.val = idoEfTypeResponse ∨ efType.val = idoEfAutokeyResponse) ↔
      efType.val = ntpEfAutokeyResponse := by
  obtain ⟨_, rfl | rfl⟩ := efType <;> decide

theorem not_idoOffer_iff :
    (efType.val ≠ idoEfTypeOffer ∧ efType.val ≠ idoEfAutokeyOffer) ↔
      efType.val ≠ ntpEfAutokeyOffer := by
  rw [← not_or, efType.idoOffer_iff]

theorem not_idoResponse_iff :
    (efType.val ≠ idoEfTypeResponse ∧ efType.val ≠ idoEfAutokeyResponse) ↔
      efType.val ≠ ntpEfAutokeyResponse := by
  rw [← not_or, efType.idoResponse_iff]

end AutokeyFieldType

/-- The limits of a length are the same numbers. -/
theorem autokeyLength_iff (efLength : ℕ) :
    (efLength < autokeyMinEfLength ∨ efLength > autokeyMaxEfLength) ↔
      (efLength < idoMinEfLength ∨ efLength > 48) :=
  Iff.rfl

/-! ### Functions -/

theorem autokeyInitState_eq_ido (s : IdoState) : autokeyInitState s = idoStateInit s := rfl

theorem autokeyReadCapabilities_eq_ido (s : IdoState) (efLength : ℕ) (efData : Option Mem) :
    autokeyReadCapabilities s efLength efData = idoReadCapabilities s efLength efData := rfl

section

variable (s : IdoState) (efType : AutokeyFieldType) (efLength : ℕ) (efData : Option Mem)

theorem autokeyProcessOffer_eq_ido :
    autokeyProcessOffer s efType efLength efData = idoProcessOffer s efType efLength efData := by
  unfold autokeyProcessOffer idoProcessOffer
  simp only [efType.not_idoOffer_iff, autokeyLength_iff, autokeyReadCapabilities_eq_ido]
  rfl

theorem autokeyProcessResponse_eq_ido :
    autokeyProcessResponse s efType efLength efData =
      idoProcessResponse s efType efLength efData := by
  unfold autokeyProcessResponse idoProcessResponse
  simp only [efType.not_idoResponse_iff, autokeyLength_iff, autokeyReadCapabilities_eq_ido]
  rfl

theorem autokeyProcess_eq_ido :
    autokeyProcess s efType efLength efData = idoProcess s efType efLength efData := by
  unfold autokeyProcess idoProcess
  simp only [efType.idoOffer_iff, efType.idoResponse_iff, autokeyProcessOffer_eq_ido,
    autokeyProcessResponse_eq_ido]

theorem autokeyProcessSkip_eq_ido :
    autokeyProcessSkip s efType efLength = idoProcessSkip s efType efLength := by
  have htype : (efType.val ≠ idoEfTypeOffer ∧ efType.val ≠ idoEfTypeResponse ∧
      efType.val ≠ idoEfAutokeyOffer ∧ efType.val ≠ idoEfAutokeyResponse) ↔
      (efType.val ≠ ntpEfAutokeyOffer ∧ efType.val ≠ ntpEfAutokeyResponse) := by
    rw [← efType.not_idoOffer_iff, ← efType.not_idoResponse_iff]
    tauto
  unfold autokeyProcessSkip idoProcessSkip
  simp only [htype, efType.idoOffer_iff, efType.idoResponse_iff, autokeyLength_iff]

end

/-- The two transition tables. -/
theorem autokeyStateMachine_eq_ido (s : IdoState) (event : UInt8) :
    autokeyStateMachine s event = idoStateMachine s event := rfl

/-! ### Runs -/

/-- An operation of the negotiation machine, on the fields of Autokey. -/
inductive NegotiationOp
  | initState
  | processOffer (efType : AutokeyFieldType) (efLength : UInt8) (efData : Option Mem)
  | processResponse (efType : AutokeyFieldType) (efLength : UInt8) (efData : Option Mem)
  | process (efType : AutokeyFieldType) (efLength : UInt8) (efData : Option Mem)
  | processSkip (efType : AutokeyFieldType) (efLength : UInt8)
  | stateMachine (event : UInt8)
  | isAuthenticated

/-- What an operation returns. -/
inductive NegotiationRet
  | void
  | bool (b : Bool)
  | state (idoState : UInt8)
  deriving DecidableEq

namespace NegotiationOp

/-- The operation through the functions of `autokey.c`. -/
def autokey : NegotiationOp → IdoState → NegotiationRet × IdoState
  | initState, s => (.void, autokeyInitState s)
  | processOffer efType efLength efData, s =>
    (autokeyProcessOffer s efType efLength.toNat efData).map .bool id
  | processResponse efType efLength efData, s =>
    (autokeyProcessResponse s efType efLength.toNat efData).map .bool id
  | process efType efLength efData, s =>
    (autokeyProcess s efType efLength.toNat efData).map .bool id
  | processSkip efType efLength, s => (autokeyProcessSkip s efType efLength.toNat).map .bool id
  | stateMachine event, s => (autokeyStateMachine s event).map .state id
  | isAuthenticated, s => (.bool (autokeyIsAuthenticated s), s)

/-- The operation through the functions of `ido.c`. -/
def ido : NegotiationOp → IdoState → NegotiationRet × IdoState
  | initState, s => (.void, idoStateInit s)
  | processOffer efType efLength efData, s =>
    (idoProcessOffer s efType efLength.toNat efData).map .bool id
  | processResponse efType efLength efData, s =>
    (idoProcessResponse s efType efLength.toNat efData).map .bool id
  | process efType efLength efData, s => (idoProcess s efType efLength.toNat efData).map .bool id
  | processSkip efType efLength, s => (idoProcessSkip s efType efLength.toNat).map .bool id
  | stateMachine event, s => (idoStateMachine s event).map .state id
  | isAuthenticated, s => (.bool (idoIsAuthenticated s), s)

theorem autokey_eq_ido (op : NegotiationOp) (s : IdoState) : op.autokey s = op.ido s := by
  cases op with
  | initState => exact congrArg (Prod.mk _) (autokeyInitState_eq_ido s)
  | processOffer => exact congrArg (Prod.map _ id) (autokeyProcessOffer_eq_ido _ _ _ _)
  | processResponse => exact congrArg (Prod.map _ id) (autokeyProcessResponse_eq_ido _ _ _ _)
  | process => exact congrArg (Prod.map _ id) (autokeyProcess_eq_ido _ _ _ _)
  | processSkip => exact congrArg (Prod.map _ id) (autokeyProcessSkip_eq_ido _ _ _)
  | stateMachine => exact congrArg (Prod.map _ id) (autokeyStateMachine_eq_ido s _)
  | isAuthenticated => rfl

/-- **The copies have not drifted**: from any state, any sequence of operations has the same results
and goes through the same states in both. -/
theorem autokey_runs_as_ido (ops : List NegotiationOp) (s : IdoState) :
    runOps (withState autokey) ops s = runOps (withState ido) ops s :=
  runOps_withState_eq autokey_eq_ido ops s

end NegotiationOp

end Dntpd
