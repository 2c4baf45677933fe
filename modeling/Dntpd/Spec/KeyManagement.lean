import Dntpd.Autokey
import Dntpd.Library.Run

/-!
# Key management

A field of key management either is refused, and changes nothing, or is accepted, and takes effect
as a whole (`KeyCall.process_cases`).  So after any run the key and its id are those of the last
field that installed or rotated one (`KeyCall.keyManagement_atomic`).
-/

namespace Dntpd

/-- A call for a key management field, with its payload. -/
inductive KeyCall
  | install (efType : UInt16) (efLength : UInt8) (efData : Mem)
  | rotate (efType : UInt16) (efLength : UInt8) (efData : Mem)
  | revoke (efType : UInt16) (efLength : UInt8) (efData : Mem)

/-- The active key, and its id. -/
def keyPair (s : IdoState) : ℕ × Vector UInt8 20 := (s.idoKeyId.toNat, s.idoKey)

/-- The key in a payload, behind the id. -/
def payloadKey (data : Mem) : Vector UInt8 20 := keyAt fun i => data (4 + i)

/-- The state with another key. -/
def withKey (s : IdoState) (keyId : ℕ) (key : Vector UInt8 20) : IdoState :=
  { s with idoKeyId := UInt8.ofNat keyId, idoKey := key }

theorem keyPair_withKey (s : IdoState) {keyId : ℕ} (hid : keyId ≤ 255) (key : Vector UInt8 20) :
    keyPair (withKey s keyId key) = (keyId, key) := by
  have hroundTrip : (UInt8.ofNat keyId).toNat = keyId := by
    rw [UInt8.toNat_ofNat']
    exact Nat.mod_eq_of_lt (by omega)
  exact Prod.ext hroundTrip rfl

theorem keyPair_enabled (s : IdoState) (enabled : UInt8) :
    keyPair { s with idoEnabled := enabled } = keyPair s := rfl

/-! ### One field -/

section

variable (s : IdoState)

theorem autokeyInstallKey_of_le {keyId : ℕ} (hid : keyId ≤ 255) (key : Mem) :
    autokeyInstallKey s keyId key =
      (0, { withKey s keyId (keyAt key) with idoEnabled := 1 }) := by
  unfold autokeyInstallKey
  exact if_neg (not_lt.mpr hid)

theorem autokeyRotateKey_of_le {keyId : ℕ} (hid : keyId ≤ 255) (key : Mem) :
    autokeyRotateKey s keyId key = (0, withKey s keyId (keyAt key)) := by
  unfold autokeyRotateKey
  exact if_neg (not_lt.mpr hid)

variable (efType : UInt16) (efLength : ℕ) (data : Mem)

theorem autokeyProcessKeyInstall_cases :
    autokeyProcessKeyInstall s efType efLength (some data) = (false, s) ∨
      keyIdAt data ≤ 255 ∧ autokeyProcessKeyInstall s efType efLength (some data) =
        (true, { withKey s (keyIdAt data) (payloadKey data) with idoEnabled := 1 }) := by
  unfold autokeyProcessKeyInstall
  split_ifs with htype hlength
  · exact .inl rfl
  · exact .inl rfl
  · dsimp only
    by_cases hid : keyIdAt data ≤ 255
    · rw [autokeyInstallKey_of_le s hid]
      exact .inr ⟨hid, rfl⟩
    · rw [autokeyInstallKey, if_pos (not_le.mp hid)]
      exact .inl rfl

theorem autokeyProcessKeyRotate_cases :
    autokeyProcessKeyRotate s efType efLength (some data) = (false, s) ∨
      keyIdAt data ≤ 255 ∧ autokeyProcessKeyRotate s efType efLength (some data) =
        (true, withKey s (keyIdAt data) (payloadKey data)) := by
  unfold autokeyProcessKeyRotate
  split_ifs with htype hlength
  · exact .inl rfl
  · exact .inl rfl
  · dsimp only
    by_cases hid : keyIdAt data ≤ 255
    · rw [autokeyRotateKey_of_le s hid]
      exact .inr ⟨hid, rfl⟩
    · rw [autokeyRotateKey, if_pos (not_le.mp hid)]
      exact .inl rfl

theorem autokeyProcessKeyRevoke_state (efData : Option Mem) :
    (autokeyProcessKeyRevoke s efType efLength efData).2 = s := by
  unfold autokeyProcessKeyRevoke autokeyRevokeKey
  cases efData <;> dsimp only <;> split_ifs <;> rfl

end

namespace KeyCall

/-- The call on a state. -/
def process : KeyCall → IdoState → Bool × IdoState
  | .install efType efLength efData, s =>
    autokeyProcessKeyInstall s efType efLength.toNat (some efData)
  | .rotate efType efLength efData, s =>
    autokeyProcessKeyRotate s efType efLength.toNat (some efData)
  | .revoke efType efLength efData, s =>
    autokeyProcessKeyRevoke s efType efLength.toNat (some efData)

def after (c : KeyCall) (s : IdoState) : IdoState := (c.process s).2

/-- The id and the key that the call sets. -/
def pair? : KeyCall → Option (ℕ × Vector UInt8 20)
  | .install _ _ efData => some (keyIdAt efData, payloadKey efData)
  | .rotate _ _ efData => some (keyIdAt efData, payloadKey efData)
  | .revoke _ _ _ => none

def isInstall : KeyCall → Bool
  | .install _ _ _ => true
  | _ => false

def isRevoke : KeyCall → Bool
  | .revoke _ _ _ => true
  | _ => false

/-- The calls of a run that return true. -/
def accepted : List KeyCall → IdoState → List KeyCall
  | [], _ => []
  | c :: calls, s =>
    if (c.process s).1 then c :: accepted calls (c.after s) else accepted calls (c.after s)

/-- The effect of an accepted call on key, id and switch. -/
structure Effect (c : KeyCall) (s s' : IdoState) : Prop where
  pair : keyPair s' = c.pair?.getD (keyPair s)
  id_le : ∀ p ∈ c.pair?, p.1 ≤ 255
  enabled : s'.idoEnabled = if c.isInstall then 1 else s.idoEnabled

/-- A field that sets a key, and the switch to the value it is to have. -/
theorem Effect.withKey {c : KeyCall} {s s' : IdoState} {keyId : ℕ} {key : Vector UInt8 20}
    (hid : keyId ≤ 255) (hc : c.pair? = some (keyId, key)) (hs' : keyPair s' = (keyId, key))
    (henabled : s'.idoEnabled = if c.isInstall then 1 else s.idoEnabled) : c.Effect s s' where
  pair := by rw [hs', hc, Option.getD_some]
  id_le := by
    rw [hc]
    rintro p hp
    obtain rfl := Option.mem_some.mp hp
    exact hid
  enabled := henabled

theorem revoke_after {c : KeyCall} (hrevoke : c.isRevoke = true) (s : IdoState) :
    c.after s = s := by
  cases c with
  | revoke efType efLength efData => exact autokeyProcessKeyRevoke_state s efType _ _
  | install => cases hrevoke
  | rotate => cases hrevoke

/-- A call changes nothing and returns false, or has its effect and returns true. -/
theorem process_cases (c : KeyCall) (s : IdoState) :
    ((c.process s).1 = false ∧ c.after s = s) ∨
      ((c.process s).1 = true ∧ c.Effect s (c.after s)) := by
  unfold after
  cases c with
  | install efType efLength efData =>
    rw [process]
    -- a refused field, or one with an id of one byte
    rcases autokeyProcessKeyInstall_cases s efType efLength.toNat efData with h | ⟨hid, h⟩
    · rw [h]
      exact .inl ⟨rfl, rfl⟩
    · rw [h]
      refine .inr ⟨rfl, .withKey hid rfl ?_ rfl⟩
      rw [keyPair_enabled]
      exact keyPair_withKey s hid _
  | rotate efType efLength efData =>
    rw [process]
    rcases autokeyProcessKeyRotate_cases s efType efLength.toNat efData with h | ⟨hid, h⟩
    · rw [h]
      exact .inl ⟨rfl, rfl⟩
    · rw [h]
      exact .inr ⟨rfl, .withKey hid rfl (keyPair_withKey s hid _) rfl⟩
  | revoke efType efLength efData =>
    rw [process, autokeyProcessKeyRevoke_state]
    cases (autokeyProcessKeyRevoke s efType efLength.toNat (some efData)).1 with
    | false => exact .inl ⟨rfl, rfl⟩
    | true => exact .inr ⟨rfl, rfl, nofun, rfl⟩

theorem process_false {c : KeyCall} {s : IdoState} (h : (c.process s).1 = false) :
    c.after s = s := by
  rcases process_cases c s with ⟨-, hs⟩ | ⟨htrue, -⟩
  · exact hs
  · rw [h] at htrue
    cases htrue

/-! ### Runs -/

/-- A step in front of a run: refused, it drops out. -/
theorem accepted_cons_refused {c : KeyCall} {calls : List KeyCall} {s : IdoState}
    (h : (c.process s).1 = false) : accepted (c :: calls) s = accepted calls s := by
  rw [accepted, h, process_false h]
  rfl

theorem accepted_cons_accepted {c : KeyCall} {calls : List KeyCall} {s : IdoState}
    (h : (c.process s).1 = true) :
    accepted (c :: calls) s = c :: accepted calls (c.after s) := by
  rw [accepted, if_pos h]

/-- The last pair of a list with one in front. -/
theorem getLast_filterMap_cons {α β : Type} (f : α → Option β) (a : α) (l : List α) (b : β) :
    ((a :: l).filterMap f).getLast?.getD b = (l.filterMap f).getLast?.getD ((f a).getD b) := by
  cases h : f a with
  | none => rw [List.filterMap_cons_none h, Option.getD_none]
  | some c =>
    rw [List.filterMap_cons_some h, List.getLast?_cons, Option.getD_some, Option.getD_some]

theorem keyPair_runSteps (calls : List KeyCall) : ∀ s : IdoState,
    keyPair (Run.runSteps after calls s) =
      ((accepted calls s).filterMap pair?).getLast?.getD (keyPair s) := by
  induction calls with
  | nil => exact fun _ => rfl
  | cons c calls ih =>
    intro s
    rw [Run.runSteps_cons, ih]
    rcases process_cases c s with ⟨hfalse, hs⟩ | ⟨htrue, heffect⟩
    · rw [accepted_cons_refused hfalse, hs]
    · rw [accepted_cons_accepted htrue, getLast_filterMap_cons, heffect.pair]

theorem accepted_id_le (calls : List KeyCall) : ∀ s : IdoState,
    ∀ c ∈ accepted calls s, ∀ p ∈ c.pair?, p.1 ≤ 255 := by
  induction calls with
  | nil => exact fun _ _ hc => absurd hc List.not_mem_nil
  | cons c calls ih =>
    intro s
    rcases process_cases c s with ⟨hfalse, -⟩ | ⟨htrue, heffect⟩
    · rw [accepted_cons_refused hfalse]
      exact ih s
    · rw [accepted_cons_accepted htrue]
      exact List.forall_mem_cons.mpr ⟨heffect.id_le, ih _⟩

theorem idoEnabled_runSteps (calls : List KeyCall) : ∀ s : IdoState,
    (Run.runSteps after calls s).idoEnabled =
      if (accepted calls s).any isInstall then 1 else s.idoEnabled := by
  induction calls with
  | nil => exact fun _ => rfl
  | cons c calls ih =>
    intro s
    rw [Run.runSteps_cons, ih]
    rcases process_cases c s with ⟨hfalse, hs⟩ | ⟨htrue, heffect⟩
    · rw [accepted_cons_refused hfalse, hs]
    · rw [accepted_cons_accepted htrue, heffect.enabled, List.any_cons]
      cases c.isInstall
      · rfl
      · rw [Bool.true_or, if_pos rfl, ite_self]

/-- Along every run a refused call and a revocation change nothing, and at its end the id and the
key are those of the last field accepted to install or rotate one, and installing has enabled
Autokey. -/
theorem keyManagement_atomic (calls : List KeyCall) (s : IdoState) :
    Run.Along after (fun c t => ((c.process t).1 = false → c.after t = t) ∧
        (c.isRevoke = true → c.after t = t)) calls s ∧
      keyPair (Run.runSteps after calls s) =
        ((accepted calls s).filterMap pair?).getLast?.getD (keyPair s) ∧
      (∀ p ∈ (accepted calls s).filterMap pair?, p.1 ≤ 255) ∧
      (Run.runSteps after calls s).idoEnabled =
        if (accepted calls s).any isInstall then 1 else s.idoEnabled := by
  refine ⟨?_, keyPair_runSteps calls s, ?_, idoEnabled_runSteps calls s⟩
  · exact Run.along_of_forall_mem fun c _ t =>
      ⟨process_false, fun hrevoke => revoke_after hrevoke t⟩
  · intro p hp
    obtain ⟨c, hc, hpair⟩ := List.mem_filterMap.mp hp
    exact accepted_id_le calls s c hc p hpair

/-- A switch that is on with another value than 1 keeps it. -/
theorem enabled_two_kept :
    ¬ ((Run.runSteps after [.revoke ntpEfAutokeyKeyRevoke 4 (Mem.ofList [0, 0, 0, 1])]
          { IdoState.init with idoEnabled := 2 }).idoEnabled = 1 ↔
        ({ IdoState.init with idoEnabled := 2 } : IdoState).idoEnabled ≠ 0 ∨
          (accepted [.revoke ntpEfAutokeyKeyRevoke 4 (Mem.ofList [0, 0, 0, 1])]
            { IdoState.init with idoEnabled := 2 }).any isInstall = true) := by
  intro h
  exact absurd (h.mpr (.inl (by decide))) (by decide)

end KeyCall

end Dntpd
