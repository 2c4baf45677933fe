import Dntpd.Autokey
import Dntpd.Library.Run

/-!
# Negotiation: the state and the authentication flag

The functions of `ido.c` and `autokey.c` that write the negotiation state make one of four moves
(`IdoCall.move`): an Offer is accepted, a Response is accepted, an event goes through the transition
table, or the state and the flag stay as they are (`IdoCall.after_follows`).

A Response authenticates whatever went before it, and nothing but a Response writes the flag, so the
documented machine is followed exactly in the runs whose moves meet a condition
(`authenticatedByOffer_iff`), and likewise flag and state agree (`flagAgrees_iff`).
-/

namespace Dntpd

/-! ### Moves -/

/-- What a call does to the state and the flag. -/
inductive Move
  | offer
  | response
  | event (e : UInt8)
  | keep
  deriving DecidableEq

/-- The transition table. -/
def transition (idoState event : UInt8) : UInt8 :=
  if event = idoEventOfferReceived then
    if idoState = idoStateIdle then idoStateOfferReceived else idoState
  else if event = idoEventResponseSent then
    if idoState = idoStateOfferReceived then idoStateResponseSent else idoState
  else if event = idoEventAuthEstablished then
    if idoState = idoStateResponseSent then idoStateAuthenticated else idoState
  else if event = idoEventNegotiationFailed then idoStateRejected
  else idoState

namespace Move

def state : Move → UInt8 → UInt8
  | .offer, _ => idoStateOfferReceived
  | .response, _ => idoStateAuthenticated
  | .event e, idoState => transition idoState e
  | .keep, idoState => idoState

def flag : Move → UInt8 → UInt8
  | .response, _ => 1
  | _, idoAuthenticated => idoAuthenticated

end Move

/-- A field of one of the types, of a length that is accepted. -/
def FieldOf (types : List UInt16) (efType : UInt16) (efLength : ℕ) : Prop :=
  efType ∈ types ∧ 4 ≤ efLength ∧ efLength ≤ 48

instance (types : List UInt16) (efType : UInt16) (efLength : ℕ) :
    Decidable (FieldOf types efType efLength) := by unfold FieldOf; infer_instance

def idoOfferTypes : List UInt16 := [idoEfTypeOffer, idoEfAutokeyOffer]
def idoResponseTypes : List UInt16 := [idoEfTypeResponse, idoEfAutokeyResponse]
def autokeyOfferTypes : List UInt16 := [ntpEfAutokeyOffer]
def autokeyResponseTypes : List UInt16 := [ntpEfAutokeyResponse]

/-- The move for a field, where these are the types of Offers and Responses. -/
def fieldMove (offers responses : List UInt16) (efType : UInt16) (efLength : ℕ) : Move :=
  if FieldOf offers efType efLength then .offer
  else if FieldOf responses efType efLength then .response
  else .keep

/-! ### Calls -/

/-- A call of a function that writes the negotiation state. -/
inductive IdoCall
  | idoProcessOffer (efType : UInt16) (efLength : UInt8) (efData : Option Mem)
  | idoProcessResponse (efType : UInt16) (efLength : UInt8) (efData : Option Mem)
  | idoProcess (efType : UInt16) (efLength : UInt8) (efData : Option Mem)
  | idoProcessSkip (efType : UInt16) (efLength : UInt8)
  | idoStateMachine (event : UInt8)
  | autokeyProcessOffer (efType : UInt16) (efLength : UInt8) (efData : Option Mem)
  | autokeyProcessResponse (efType : UInt16) (efLength : UInt8) (efData : Option Mem)
  | autokeyProcess (efType : UInt16) (efLength : UInt8) (efData : Option Mem)
  | autokeyProcessSkip (efType : UInt16) (efLength : UInt8)
  | autokeyStateMachine (event : UInt8)
  | autokeyProcessKeyInstall (efType : UInt16) (efLength : UInt8) (efData : Option Mem)
  | autokeyProcessKeyRotate (efType : UInt16) (efLength : UInt8) (efData : Option Mem)
  | autokeyProcessKeyRevoke (efType : UInt16) (efLength : UInt8) (efData : Option Mem)

namespace IdoCall

/-- The state after the call. -/
def after : IdoCall → IdoState → IdoState
  | .idoProcessOffer efType efLength efData, s =>
    (Dntpd.idoProcessOffer s efType efLength.toNat efData).2
  | .idoProcessResponse efType efLength efData, s =>
    (Dntpd.idoProcessResponse s efType efLength.toNat efData).2
  | .idoProcess efType efLength efData, s => (Dntpd.idoProcess s efType efLength.toNat efData).2
  | .idoProcessSkip efType efLength, s => (Dntpd.idoProcessSkip s efType efLength.toNat).2
  | .idoStateMachine event, s => (Dntpd.idoStateMachine s event).2
  | .autokeyProcessOffer efType efLength efData, s =>
    (Dntpd.autokeyProcessOffer s efType efLength.toNat efData).2
  | .autokeyProcessResponse efType efLength efData, s =>
    (Dntpd.autokeyProcessResponse s efType efLength.toNat efData).2
  | .autokeyProcess efType efLength efData, s =>
    (Dntpd.autokeyProcess s efType efLength.toNat efData).2
  | .autokeyProcessSkip efType efLength, s => (Dntpd.autokeyProcessSkip s efType efLength.toNat).2
  | .autokeyStateMachine event, s => (Dntpd.autokeyStateMachine s event).2
  | .autokeyProcessKeyInstall efType efLength efData, s =>
    (Dntpd.autokeyProcessKeyInstall s efType efLength.toNat efData).2
  | .autokeyProcessKeyRotate efType efLength efData, s =>
    (Dntpd.autokeyProcessKeyRotate s efType efLength.toNat efData).2
  | .autokeyProcessKeyRevoke efType efLength efData, s =>
    (Dntpd.autokeyProcessKeyRevoke s efType efLength.toNat efData).2

/-- The call processes an Offer, and returns true. -/
def AcceptsOffer : IdoCall → IdoState → Prop
  | .idoProcessOffer efType efLength efData, s =>
    (Dntpd.idoProcessOffer s efType efLength.toNat efData).1 = true
  | .idoProcess efType efLength efData, s =>
    efType ∈ idoOfferTypes ∧ (Dntpd.idoProcess s efType efLength.toNat efData).1 = true
  | .autokeyProcessOffer efType efLength efData, s =>
    (Dntpd.autokeyProcessOffer s efType efLength.toNat efData).1 = true
  | .autokeyProcess efType efLength efData, s =>
    efType ∈ autokeyOfferTypes ∧ (Dntpd.autokeyProcess s efType efLength.toNat efData).1 = true
  | _, _ => False

/-- The move of a call. -/
def move : IdoCall → Move
  | .idoProcessOffer efType efLength _ => fieldMove idoOfferTypes [] efType efLength.toNat
  | .idoProcessResponse efType efLength _ => fieldMove [] idoResponseTypes efType efLength.toNat
  | .idoProcess efType efLength efData =>
    if efData = none then .keep
    else fieldMove idoOfferTypes idoResponseTypes efType efLength.toNat
  | .autokeyProcessOffer efType efLength _ => fieldMove autokeyOfferTypes [] efType efLength.toNat
  | .autokeyProcessResponse efType efLength _ =>
    fieldMove [] autokeyResponseTypes efType efLength.toNat
  | .autokeyProcess efType efLength efData =>
    if efData = none then .keep
    else fieldMove autokeyOfferTypes autokeyResponseTypes efType efLength.toNat
  | .idoStateMachine event => .event event
  | .autokeyStateMachine event => .event event
  | _ => .keep

end IdoCall

/-! ### What the functions do -/

/-- From `s` to `s'` the state and the flag make the move. -/
structure Follows (m : Move) (s s' : IdoState) : Prop where
  state : s'.idoState = m.state s.idoState
  flag : s'.idoAuthenticated = m.flag s.idoAuthenticated

theorem Follows.keep (s : IdoState) : Follows .keep s s := ⟨rfl, rfl⟩

theorem not_fieldOf_nil (efType : UInt16) (efLength : ℕ) : ¬ FieldOf [] efType efLength :=
  fun h => List.not_mem_nil h.1

section

variable (s : IdoState) (efType : UInt16) (efLength : ℕ) (efData : Option Mem)

theorem idoReadCapabilities_idoAuthenticated :
    (idoReadCapabilities s efLength efData).idoAuthenticated = s.idoAuthenticated := by
  unfold idoReadCapabilities
  cases efData with
  | none => rfl
  | some data =>
    dsimp only
    split_ifs <;> rfl

/-- The state an accepted Offer leaves. -/
def offerState : IdoState :=
  { idoReadCapabilities s efLength efData with
    idoOfferReceived := 1
    idoState := idoStateOfferReceived }

/-- The state an accepted Response leaves. -/
def responseState : IdoState :=
  { idoReadCapabilities s efLength efData with
    idoResponseSent := 1
    idoState := idoStateAuthenticated
    idoAuthenticated := 1 }

theorem offerState_follows : Follows .offer s (offerState s efLength efData) :=
  ⟨rfl, idoReadCapabilities_idoAuthenticated s efLength efData⟩

theorem responseState_follows : Follows .response s (responseState s efLength efData) := ⟨rfl, rfl⟩

/-- The result for a field, where these are the types of Offers and Responses. -/
def processField (offers responses : List UInt16) : Bool × IdoState :=
  if FieldOf offers efType efLength then (true, offerState s efLength efData)
  else if FieldOf responses efType efLength then (true, responseState s efLength efData)
  else (false, s)

theorem processField_follows (offers responses : List UInt16) :
    Follows (fieldMove offers responses efType efLength) s
      (processField s efType efLength efData offers responses).2 := by
  unfold processField fieldMove
  split_ifs
  · exact offerState_follows s efLength efData
  · exact responseState_follows s efLength efData
  · exact .keep s

/-- An Offer is accepted exactly if that is the move. -/
theorem processField_offer_iff {offers responses : List UInt16}
    (hdisjoint : efType ∈ offers → efType ∉ responses) :
    efType ∈ offers ∧ (processField s efType efLength efData offers responses).1 = true ↔
      fieldMove offers responses efType efLength = .offer := by
  unfold processField fieldMove
  split_ifs with hoffer hresponse
  · exact iff_of_true ⟨hoffer.1, rfl⟩ rfl
  · exact iff_of_false (fun h => hdisjoint h.1 hresponse.1) nofun
  · exact iff_of_false (fun h => h.2.elim) nofun

/-- The checks of a function for one kind of field, of the type and of the length. -/
theorem checkField_eq (types : List UInt16) (s' : IdoState) :
    (if efType ∉ types then (false, s)
      else if efLength < 4 ∨ efLength > 48 then (false, s)
      else (true, s')) = if FieldOf types efType efLength then (true, s') else (false, s) := by
  by_cases hfield : FieldOf types efType efLength
  · have hlength : ¬ (efLength < 4 ∨ efLength > 48) := by
      have := hfield.2
      omega
    rw [if_pos hfield, if_neg (not_not.mpr hfield.1), if_neg hlength]
  · rw [if_neg hfield]
    split_ifs with htype hlength
    · rfl
    · exact absurd ⟨htype, by omega, by omega⟩ hfield
    · rfl

theorem processField_offers (types : List UInt16) : processField s efType efLength efData types [] =
    if FieldOf types efType efLength then (true, offerState s efLength efData) else (false, s) := by
  unfold processField
  rw [if_neg (not_fieldOf_nil efType efLength)]

theorem processField_responses (types : List UInt16) :
    processField s efType efLength efData [] types =
      if FieldOf types efType efLength then (true, responseState s efLength efData)
      else (false, s) := by
  unfold processField
  rw [if_neg (not_fieldOf_nil efType efLength)]

theorem idoProcessOffer_eq : idoProcessOffer s efType efLength efData =
    processField s efType efLength efData idoOfferTypes [] := by
  rw [processField_offers, ← checkField_eq]
  unfold idoProcessOffer idoOfferTypes
  simp only [List.mem_cons, List.not_mem_nil, or_false, not_or]
  rfl

theorem idoProcessResponse_eq : idoProcessResponse s efType efLength efData =
    processField s efType efLength efData [] idoResponseTypes := by
  rw [processField_responses, ← checkField_eq]
  unfold idoProcessResponse idoResponseTypes
  simp only [List.mem_cons, List.not_mem_nil, or_false, not_or]
  rfl

theorem autokeyProcessOffer_eq : autokeyProcessOffer s efType efLength efData =
    processField s efType efLength efData autokeyOfferTypes [] := by
  rw [processField_offers, ← checkField_eq]
  unfold autokeyProcessOffer autokeyOfferTypes
  simp only [List.mem_cons, List.not_mem_nil, or_false]
  rfl

theorem autokeyProcessResponse_eq : autokeyProcessResponse s efType efLength efData =
    processField s efType efLength efData [] autokeyResponseTypes := by
  rw [processField_responses, ← checkField_eq]
  unfold autokeyProcessResponse autokeyResponseTypes
  simp only [List.mem_cons, List.not_mem_nil, or_false]
  rfl

/-- The dispatch of a function for both kinds of field. -/
theorem processField_eq {offers responses : List UInt16}
    (hdisjoint : efType ∈ offers → efType ∉ responses) :
    (if efType ∈ offers then processField s efType efLength efData offers []
      else if efType ∈ responses then processField s efType efLength efData [] responses
      else (false, s)) = processField s efType efLength efData offers responses := by
  rw [processField_offers, processField_responses]
  unfold processField
  by_cases hoffer : efType ∈ offers
  · have hresponse : ¬ FieldOf responses efType efLength := fun h => hdisjoint hoffer h.1
    rw [if_pos hoffer, if_neg hresponse]
  · have hfield : ¬ FieldOf offers efType efLength := fun h => hoffer h.1
    rw [if_neg hoffer, if_neg hfield]
    by_cases hresponse : efType ∈ responses
    · rw [if_pos hresponse]
    · rw [if_neg hresponse, if_neg fun h => hresponse h.1]

theorem disjoint_idoTypes {efType : UInt16} (h : efType ∈ idoOfferTypes) :
    efType ∉ idoResponseTypes := by
  unfold idoOfferTypes at h
  rcases List.mem_cons.mp h with rfl | h
  · decide
  · rcases List.mem_singleton.mp h with rfl
    decide

theorem disjoint_autokeyTypes {efType : UInt16} (h : efType ∈ autokeyOfferTypes) :
    efType ∉ autokeyResponseTypes := by
  rcases List.mem_singleton.mp h with rfl
  decide

theorem idoProcess_eq : idoProcess s efType efLength efData =
    if efData = none then (false, s)
    else processField s efType efLength efData idoOfferTypes idoResponseTypes := by
  rw [← processField_eq _ _ _ _ disjoint_idoTypes, ← idoProcessOffer_eq, ← idoProcessResponse_eq]
  unfold idoProcess idoOfferTypes idoResponseTypes
  simp only [List.mem_cons, List.not_mem_nil, or_false]

theorem autokeyProcess_eq : autokeyProcess s efType efLength efData =
    if efData = none then (false, s)
    else processField s efType efLength efData autokeyOfferTypes autokeyResponseTypes := by
  rw [← processField_eq _ _ _ _ disjoint_autokeyTypes, ← autokeyProcessOffer_eq,
    ← autokeyProcessResponse_eq]
  unfold autokeyProcess autokeyOfferTypes autokeyResponseTypes
  simp only [List.mem_cons, List.not_mem_nil, or_false]

end

/-- The state machines go through the table. -/
theorem idoStateMachine_follows (s : IdoState) (event : UInt8) :
    Follows (.event event) s (idoStateMachine s event).2 := ⟨rfl, rfl⟩

theorem idoProcessSkip_follows (s : IdoState) (efType : UInt16) (efLength : ℕ) :
    Follows .keep s (idoProcessSkip s efType efLength).2 := by
  unfold idoProcessSkip
  split_ifs <;> exact ⟨rfl, rfl⟩

theorem autokeyProcessSkip_follows (s : IdoState) (efType : UInt16) (efLength : ℕ) :
    Follows .keep s (autokeyProcessSkip s efType efLength).2 := by
  unfold autokeyProcessSkip
  split_ifs <;> exact ⟨rfl, rfl⟩

theorem autokeyProcessKeyInstall_follows (s : IdoState) (efType : UInt16) (efLength : ℕ)
    (efData : Option Mem) :
    Follows .keep s (autokeyProcessKeyInstall s efType efLength efData).2 := by
  unfold autokeyProcessKeyInstall autokeyInstallKey
  cases efData <;> dsimp only <;> split_ifs <;> exact ⟨rfl, rfl⟩

theorem autokeyProcessKeyRotate_follows (s : IdoState) (efType : UInt16) (efLength : ℕ)
    (efData : Option Mem) :
    Follows .keep s (autokeyProcessKeyRotate s efType efLength efData).2 := by
  unfold autokeyProcessKeyRotate autokeyRotateKey
  cases efData <;> dsimp only <;> split_ifs <;> exact ⟨rfl, rfl⟩

theorem autokeyProcessKeyRevoke_follows (s : IdoState) (efType : UInt16) (efLength : ℕ)
    (efData : Option Mem) :
    Follows .keep s (autokeyProcessKeyRevoke s efType efLength efData).2 := by
  unfold autokeyProcessKeyRevoke autokeyRevokeKey
  cases efData <;> dsimp only <;> split_ifs <;> exact ⟨rfl, rfl⟩

namespace IdoCall

/-- Every call makes its move. -/
theorem after_follows (c : IdoCall) (s : IdoState) : Follows c.move s (c.after s) := by
  -- the functions of both families go through one handler of a field or one state machine
  cases c with
  | idoProcessOffer efType efLength efData =>
    rw [after, idoProcessOffer_eq]
    exact processField_follows _ _ _ _ _ _
  | idoProcessResponse efType efLength efData =>
    rw [after, idoProcessResponse_eq]
    exact processField_follows _ _ _ _ _ _
  | idoProcess efType efLength efData =>
    rw [after, idoProcess_eq, move]
    split_ifs
    · exact .keep s
    · exact processField_follows _ _ _ _ _ _
  | idoProcessSkip efType efLength => exact idoProcessSkip_follows s efType _
  | idoStateMachine event => exact idoStateMachine_follows s event
  | autokeyProcessOffer efType efLength efData =>
    rw [after, autokeyProcessOffer_eq]
    exact processField_follows _ _ _ _ _ _
  | autokeyProcessResponse efType efLength efData =>
    rw [after, autokeyProcessResponse_eq]
    exact processField_follows _ _ _ _ _ _
  | autokeyProcess efType efLength efData =>
    rw [after, autokeyProcess_eq, move]
    split_ifs
    · exact .keep s
    · exact processField_follows _ _ _ _ _ _
  | autokeyProcessSkip efType efLength => exact autokeyProcessSkip_follows s efType _
  | autokeyStateMachine event => exact idoStateMachine_follows s event
  | autokeyProcessKeyInstall efType efLength efData =>
    exact autokeyProcessKeyInstall_follows s efType _ efData
  | autokeyProcessKeyRotate efType efLength efData =>
    exact autokeyProcessKeyRotate_follows s efType _ efData
  | autokeyProcessKeyRevoke efType efLength efData =>
    exact autokeyProcessKeyRevoke_follows s efType _ efData

/-- A function for Offers alone accepts nothing else. -/
theorem offers_iff (s : IdoState) (efType : UInt16) (efLength : ℕ) (efData : Option Mem)
    (types : List UInt16) : (processField s efType efLength efData types []).1 = true ↔
      fieldMove types [] efType efLength = .offer := by
  rw [← processField_offer_iff s efType efLength efData fun _ => List.not_mem_nil]
  refine (and_iff_right_of_imp fun h => ?_).symm
  by_contra htype
  rw [processField_offers, if_neg fun hfield : FieldOf types efType efLength =>
    htype hfield.1] at h
  cases h

theorem fieldMove_nil_ne_offer (responses : List UInt16) (efType : UInt16) (efLength : ℕ) :
    fieldMove [] responses efType efLength ≠ .offer := by
  unfold fieldMove
  rw [if_neg (not_fieldOf_nil efType efLength)]
  split_ifs <;> nofun

/-- A function for both kinds of field accepts no Offer without data. -/
theorem dataOffer_iff {s : IdoState} {efType : UInt16} {efLength : ℕ} {efData : Option Mem}
    {offers responses : List UInt16} (hdisjoint : efType ∈ offers → efType ∉ responses) :
    efType ∈ offers ∧ (if efData = none then (false, s)
        else processField s efType efLength efData offers responses).1 = true ↔
      (if efData = none then .keep else fieldMove offers responses efType efLength) = .offer := by
  split_ifs
  · exact iff_of_false (fun h => h.2.elim) nofun
  · exact processField_offer_iff s efType efLength efData hdisjoint

/-- An Offer is accepted exactly in the calls whose move it is. -/
theorem acceptsOffer_iff (c : IdoCall) (s : IdoState) : c.AcceptsOffer s ↔ c.move = .offer := by
  cases c with
  | idoProcessOffer efType efLength efData =>
    rw [AcceptsOffer, idoProcessOffer_eq]
    exact offers_iff _ _ _ _ _
  | idoProcess efType efLength efData =>
    rw [AcceptsOffer, idoProcess_eq]
    exact dataOffer_iff disjoint_idoTypes
  | autokeyProcessOffer efType efLength efData =>
    rw [AcceptsOffer, autokeyProcessOffer_eq]
    exact offers_iff _ _ _ _ _
  | autokeyProcess efType efLength efData =>
    rw [AcceptsOffer, autokeyProcess_eq]
    exact dataOffer_iff disjoint_autokeyTypes
  | idoProcessResponse efType efLength efData =>
    exact iff_of_false id (fieldMove_nil_ne_offer idoResponseTypes efType efLength.toNat)
  | autokeyProcessResponse efType efLength efData =>
    exact iff_of_false id (fieldMove_nil_ne_offer autokeyResponseTypes efType efLength.toNat)
  | _ => exact iff_of_false id nofun

instance (c : IdoCall) (s : IdoState) : Decidable (c.AcceptsOffer s) :=
  decidable_of_iff _ (acceptsOffer_iff c s).symm

/-- Only a Response changes the answer of `ido_is_authenticated`. -/
theorem idoIsAuthenticated_after (c : IdoCall) (s : IdoState) : idoIsAuthenticated (c.after s) =
    if c.move = .response then true else idoIsAuthenticated s := by
  unfold idoIsAuthenticated
  rw [(c.after_follows s).flag]
  cases c.move <;> rfl

end IdoCall

/-! ### No authentication without negotiation -/

/-- The negotiation state, and whether an Offer has been accepted since the negotiation last
failed. -/
structure Negotiation where
  ido : IdoState
  offered : Bool

def Negotiation.start : Negotiation := ⟨IdoState.init, false⟩

/-- A Response comes after an Offer, and a failure before authentication. -/
structure Move.Negotiates (m : Move) (n : Negotiation) : Prop where
  response : m = .response → n.offered = true
  failure : m = .event idoEventNegotiationFailed → idoIsAuthenticated n.ido = false

namespace IdoCall

/-- The call, with what becomes of the Offers. -/
def negotiate (c : IdoCall) (n : Negotiation) : Negotiation where
  ido := c.after n.ido
  offered :=
    if c.AcceptsOffer n.ido then true
    else if c.move = .event idoEventNegotiationFailed then false
    else n.offered

/-- After the call, authenticated only with an Offer. -/
def AuthenticatedByOffer (c : IdoCall) (n : Negotiation) : Prop :=
  idoIsAuthenticated (c.negotiate n).ido = true → (c.negotiate n).offered = true

theorem negotiate_offered (c : IdoCall) (n : Negotiation) : (c.negotiate n).offered =
    if c.move = .offer then true
    else if c.move = .event idoEventNegotiationFailed then false
    else n.offered := by
  unfold negotiate
  simp only [acceptsOffer_iff]

/-- An Offer is in effect exactly if it was before and nothing failed, or a later one was accepted
and nothing failed after it. -/
theorem runSteps_offered_iff (calls : List IdoCall) : ∀ n : Negotiation,
    (Run.runSteps negotiate calls n).offered = true ↔
      (n.offered = true ∧ ∀ c ∈ calls, c.move ≠ .event idoEventNegotiationFailed) ∨
        ∃ before c after, calls = before ++ c :: after ∧ c.move = .offer ∧
          ∀ c' ∈ after, c'.move ≠ .event idoEventNegotiationFailed := by
  induction calls with
  | nil =>
    intro n
    simp
  | cons c calls ih =>
    intro n
    rw [Run.runSteps_cons, ih, negotiate_offered]
    -- the call that decides is the first of the list, or it is among the rest
    constructor
    · rintro (⟨hoffered, hrest⟩ | ⟨before, c', after, rfl, hc', hafter⟩)
      -- the first call is the Offer, or it leaves one in effect
      · by_cases hoffer : c.move = .offer
        · exact .inr ⟨[], c, calls, rfl, hoffer, hrest⟩
        · rw [if_neg hoffer] at hoffered
          by_cases hfailed : c.move = .event idoEventNegotiationFailed
          · rw [if_pos hfailed] at hoffered
            cases hoffered
          · rw [if_neg hfailed] at hoffered
            exact .inl ⟨hoffered, List.forall_mem_cons.mpr ⟨hfailed, hrest⟩⟩
      · exact .inr ⟨c :: before, c', after, rfl, hc', hafter⟩
    · rintro (⟨hoffered, hnone⟩ | ⟨before, c', after, hsplit, hc', hafter⟩)
      · obtain ⟨hfailed, hrest⟩ := List.forall_mem_cons.mp hnone
        refine .inl ⟨?_, hrest⟩
        rw [if_neg hfailed, hoffered, ite_self]
      · -- the Offer is the first call, or it is among the rest
        cases before with
        | nil =>
          obtain ⟨rfl, rfl⟩ := List.cons.inj hsplit
          exact .inl ⟨if_pos hc', hafter⟩
        | cons c'' before =>
          obtain ⟨-, hcalls⟩ := List.cons.inj hsplit
          exact .inr ⟨before, c', after, hcalls, hc', hafter⟩

/-- From the start an Offer is in effect if one was accepted and nothing failed after it. -/
theorem start_offered_iff (calls : List IdoCall) :
    (Run.runSteps negotiate calls Negotiation.start).offered = true ↔
      ∃ before c after, calls = before ++ c :: after ∧ c.move = .offer ∧
        ∀ c' ∈ after, c'.move ≠ .event idoEventNegotiationFailed :=
  (runSteps_offered_iff calls Negotiation.start).trans
    (or_iff_right fun h => Bool.false_ne_true h.1)

/-- One call keeps the order exactly under the condition. -/
theorem authenticatedByOffer_step {c : IdoCall} {n : Negotiation}
    (hn : idoIsAuthenticated n.ido = true → n.offered = true) :
    c.AuthenticatedByOffer n ↔ c.move.Negotiates n := by
  unfold AuthenticatedByOffer
  rw [negotiate_offered, negotiate, idoIsAuthenticated_after]
  generalize c.move = m
  cases m with
  | offer => exact iff_of_true (fun _ => rfl) ⟨nofun, nofun⟩
  | response => exact ⟨fun h => ⟨fun _ => h rfl, nofun⟩, fun h _ => h.response rfl⟩
  | keep => exact iff_of_true hn ⟨nofun, nofun⟩
  | event e =>
    rw [if_neg nofun, if_neg nofun]
    by_cases hfailed : e = idoEventNegotiationFailed
    · subst hfailed
      rw [if_pos rfl]
      constructor
      · intro h
        exact ⟨nofun, fun _ => Bool.eq_false_iff.mpr fun hauth => Bool.false_ne_true (h hauth)⟩
      · exact fun h hauth => absurd hauth (Bool.eq_false_iff.mp (h.failure rfl))
    -- no other event touches flag or Offer
    · have hother : Move.event e ≠ .event idoEventNegotiationFailed := fun h =>
        hfailed (Move.event.inj h)
      rw [if_neg hother]
      exact iff_of_true hn ⟨nofun, fun h => absurd h hother⟩

/-- Along a run there is no authentication without an Offer, and none that outlives a failure,
exactly if every Response comes after an Offer and every failure before authentication. -/
theorem authenticatedByOffer_iff (calls : List IdoCall) :
    Run.Along negotiate AuthenticatedByOffer calls Negotiation.start ↔
      Run.Along negotiate (fun c n => c.move.Negotiates n) calls Negotiation.start :=
  Run.along_iff_of_invariant
    (I := fun n : Negotiation => idoIsAuthenticated n.ido = true → n.offered = true)
    (fun _ _ hn => authenticatedByOffer_step hn) (fun _ _ _ h => h) nofun

/-- A Response, and nothing before it, authenticates. -/
theorem response_authenticates : ¬ Run.Along negotiate AuthenticatedByOffer
    [.idoProcess idoEfTypeResponse 4 (some (Mem.ofList [0, 0, 0, 0]))] Negotiation.start := by
  intro h
  exact absurd (h.1 (by decide)) (by decide)

/-! ### The flag and the state -/

end IdoCall

/-- The two records of authentication agree. -/
def FlagAgrees (s : IdoState) : Prop :=
  idoIsAuthenticated s = true ↔ s.idoState = idoStateAuthenticated

/-- Neither an Offer nor a failure comes after authentication, and the table does not establish
it. -/
structure Move.KeepsAgreement (m : Move) (s : IdoState) : Prop where
  offer : m = .offer → idoIsAuthenticated s = false
  failure : m = .event idoEventNegotiationFailed → idoIsAuthenticated s = false
  established : m = .event idoEventAuthEstablished → s.idoState ≠ idoStateResponseSent

/-- An event other than a failure leaves the state as it is, or moves it one on. -/
theorem transition_cases (idoState : UInt8) {event : UInt8}
    (hfailed : event ≠ idoEventNegotiationFailed) :
    transition idoState event = idoState ∨
      (idoState = idoStateIdle ∧ transition idoState event = idoStateOfferReceived) ∨
      (idoState = idoStateOfferReceived ∧ transition idoState event = idoStateResponseSent) ∨
      (event = idoEventAuthEstablished ∧ idoState = idoStateResponseSent ∧
        transition idoState event = idoStateAuthenticated) := by
  unfold transition
  split_ifs with hoffer hidle hsent hoffered hestablished hresponse
  · exact .inr (.inl ⟨hidle, rfl⟩)
  · exact .inl rfl
  · exact .inr (.inr (.inl ⟨hoffered, rfl⟩))
  · exact .inl rfl
  · exact .inr (.inr (.inr ⟨hestablished, hresponse, rfl⟩))
  · exact .inl rfl
  · exact .inl rfl

theorem transition_failed (idoState : UInt8) :
    transition idoState idoEventNegotiationFailed = idoStateRejected := rfl

theorem transition_established {idoState : UInt8} (h : idoState = idoStateResponseSent) :
    transition idoState idoEventAuthEstablished = idoStateAuthenticated := by
  subst h
  rfl

/-- Where the state is not that of authentication the flag agrees with it by being clear. -/
theorem flag_iff_of_ne {authenticated : Bool} {idoState : UInt8}
    (h : idoState ≠ idoStateAuthenticated) :
    (authenticated = true ↔ idoState = idoStateAuthenticated) ↔ authenticated = false := by
  rw [iff_false_right h, Bool.not_eq_true]

namespace IdoCall

/-- One call keeps the agreement exactly under the condition. -/
theorem flagAgrees_step {c : IdoCall} {s : IdoState} (hs : FlagAgrees s) :
    FlagAgrees (c.after s) ↔ c.move.KeepsAgreement s := by
  have hclear : s.idoState ≠ idoStateAuthenticated → idoIsAuthenticated s = false :=
    fun h => (flag_iff_of_ne h).mp hs
  unfold FlagAgrees at hs ⊢
  rw [idoIsAuthenticated_after, (c.after_follows s).state]
  generalize c.move = m
  cases m with
  | offer =>
    rw [if_neg nofun, Move.state, flag_iff_of_ne (by decide)]
    exact ⟨fun h => ⟨fun _ => h, nofun, nofun⟩, fun h => h.offer rfl⟩
  | response => exact iff_of_true (iff_of_true rfl rfl) ⟨nofun, nofun, nofun⟩
  | keep => exact iff_of_true hs ⟨nofun, nofun, nofun⟩
  | event e =>
    rw [if_neg nofun, Move.state]
    by_cases hfailed : e = idoEventNegotiationFailed
    · subst hfailed
      rw [transition_failed, flag_iff_of_ne (by decide)]
      exact ⟨fun h => ⟨nofun, fun _ => h, nofun⟩, fun h => h.failure rfl⟩
    -- only this event reaches the state of authentication without a Response
    · by_cases hdirect : e = idoEventAuthEstablished ∧ s.idoState = idoStateResponseSent
      · obtain ⟨rfl, hsent⟩ := hdirect
        -- the flag stays clear
        have hflag : idoIsAuthenticated s = false := hclear (by rw [hsent]; decide)
        rw [transition_established hsent, hflag]
        exact iff_of_false (fun h => Bool.false_ne_true (h.mpr rfl))
          fun h => h.established rfl hsent
      · refine iff_of_true ?_ ⟨nofun, fun h => absurd (Move.event.inj h) hfailed,
          fun h hsent => hdirect ⟨Move.event.inj h, hsent⟩⟩
        rcases transition_cases s.idoState hfailed with h | ⟨hidle, h⟩ | ⟨hoffered, h⟩ |
          ⟨he, hsent, -⟩
        · rwa [h]
        · rw [h, flag_iff_of_ne (by decide)]
          exact hclear (by rw [hidle]; decide)
        · rw [h, flag_iff_of_ne (by decide)]
          exact hclear (by rw [hoffered]; decide)
        · exact absurd ⟨he, hsent⟩ hdirect

/-- Along a run the flag agrees with the state exactly if Offers and failures come before
authentication, and authentication comes from a Response. -/
theorem flagAgrees_iff (calls : List IdoCall) :
    Run.Along after (fun c s => FlagAgrees (c.after s)) calls IdoState.init ↔
      Run.Along after (fun c s => c.move.KeepsAgreement s) calls IdoState.init :=
  Run.along_iff_of_invariant (I := FlagAgrees) (fun _ _ hs => flagAgrees_step hs)
    (fun _ _ _ h => h) (iff_of_false (by decide) (by decide))

/-- A rejection after a Response leaves the flag set. -/
theorem rejected_authenticated : ¬ Run.Along after (fun c s => FlagAgrees (c.after s))
    [.autokeyProcess ntpEfAutokeyResponse 4 (some (Mem.ofList [0, 0, 0, 0])),
      .autokeyStateMachine idoEventNegotiationFailed] IdoState.init := by
  intro h
  exact absurd (h.2.1.mp (by decide)) (by decide)

end IdoCall

end Dntpd
