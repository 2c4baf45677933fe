import Dntpd.AuthenticationReads
import Dntpd.Spec.ModeHandler

/-!
# The grammar of the authentication walk

The bytes behind the header are read as a sequence of fields, each declaring its length in its
header, that start at multiples of 4 from one another (`ReadsAs`).  The walk finds a MAC field
exactly if they can be read up to one with none before it that ends the walk
(`macFieldFrom_iff`).  It reads each byte at most once, in order, and none behind the buffer
(`Reads.macFieldFrom_run`).
-/

namespace Dntpd

open Proc

/-! ### Fields -/

/-- What the header of an extension field declares. -/
structure ExtField where
  type : ℕ
  length : ℕ
  deriving DecidableEq, Repr

/-- The field whose header is at `pos`: two big-endian numbers. -/
def fieldAt (data : Mem) (pos : ℕ) : ExtField where
  type := (data pos).toNat * 256 + (data (pos + 1)).toNat
  length := (data (pos + 2)).toNat * 256 + (data (pos + 3)).toNat

/-- A length rounded up to a multiple of 4. -/
def roundUp4 (n : ℕ) : ℕ := (n + 3) / 4 * 4

/-- The `size` bytes can be read from `pos` on as these fields: each is at least as long as its
header and ends within the buffer. -/
inductive ReadsAs (data : Mem) (size : ℕ) : ℕ → List ExtField → Prop
  | nil (pos : ℕ) : ReadsAs data size pos []
  | cons {pos : ℕ} {f : ExtField} {fs : List ExtField} (header : fieldAt data pos = f)
      (long : 4 ≤ f.length) (ends : pos + f.length ≤ size)
      (rest : ReadsAs data size (pos + roundUp4 f.length) fs) : ReadsAs data size pos (f :: fs)

/-- They can be read up to a MAC field, with no MAC field and no last field before it. -/
def ReadsMac (data : Mem) (size pos : ℕ) : Prop :=
  ∃ (fs : List ExtField) (mac : ExtField), ReadsAs data size pos (fs ++ [mac]) ∧
    mac.type = 0x0003 ∧ ∀ f ∈ fs, f.type ≠ 0x0008 ∧ f.type ≠ 0x0003

/-! ### The walk -/

/-- Two bytes are put together as a big-endian number. -/
theorem toNat_u16be (high low : UInt8) :
    ((high.toUInt16 <<< 8) ||| low.toUInt16).toNat = high.toNat * 256 + low.toNat := by
  have hhigh := high.toNat_lt
  have hlow := low.toNat_lt
  have hshift : (high.toUInt16 <<< 8).toNat = high.toNat <<< 8 := by
    rw [UInt16.toNat_shiftLeft, UInt8.toNat_toUInt16]
    refine Nat.mod_eq_of_lt ?_
    rw [Nat.shiftLeft_eq]
    show high.toNat * 256 < 65536
    omega
  rw [UInt16.toNat_or, hshift, UInt8.toNat_toUInt16,
    ← Nat.shiftLeft_add_eq_or_of_lt (by omega), Nat.shiftLeft_eq]

section

variable (data : Mem) (size pos : ℕ)

/-- A turn of the walk on the field at `pos`. -/
theorem macFieldFrom_eq : macFieldFrom data size pos =
    if 4 ≤ (fieldAt data pos).length ∧ pos + (fieldAt data pos).length ≤ size then
      if (fieldAt data pos).type = 0x0003 then true
      else if (fieldAt data pos).type = 0x0008 then false
      else macFieldFrom data size (pos + roundUp4 (fieldAt data pos).length)
    else false := by
  -- the type and the length are read as words of two bytes each
  have htype : ∀ t : UInt16, ((data pos).toUInt16 <<< 8 ||| (data (pos + 1)).toUInt16) = t ↔
      (fieldAt data pos).type = t.toNat := by
    intro t
    rw [← UInt16.toNat_inj, toNat_u16be]
    rfl
  rw [macFieldFrom]
  simp only [toNat_u16be, htype]
  show _ = if 4 ≤ (data (pos + 2)).toNat * 256 + (data (pos + 3)).toNat ∧
    pos + ((data (pos + 2)).toNat * 256 + (data (pos + 3)).toNat) ≤ size then _ else _
  -- a field that does not fit ends the walk
  by_cases hfits : 4 ≤ (data (pos + 2)).toNat * 256 + (data (pos + 3)).toNat ∧
      pos + ((data (pos + 2)).toNat * 256 + (data (pos + 3)).toNat) ≤ size
  · rw [if_pos hfits, if_pos (by omega), if_neg (by omega)]
    rfl
  · rw [if_neg hfits]
    split_ifs <;> first | rfl | omega

/-- The field at `pos` fits, and is the MAC field or one that does not end the walk. -/
theorem readsMac_iff : ReadsMac data size pos ↔
    (4 ≤ (fieldAt data pos).length ∧ pos + (fieldAt data pos).length ≤ size) ∧
      ((fieldAt data pos).type = 0x0003 ∨
        ((fieldAt data pos).type ≠ 0x0008 ∧ (fieldAt data pos).type ≠ 0x0003) ∧
          ReadsMac data size (pos + roundUp4 (fieldAt data pos).length)) := by
  constructor
  · rintro ⟨fs, mac, hreads, hmac, hfs⟩
    cases fs with
    | nil =>
      obtain - | ⟨rfl, hlong, hends, -⟩ := hreads
      exact ⟨⟨hlong, hends⟩, Or.inl hmac⟩
    | cons f fs =>
      obtain - | ⟨rfl, hlong, hends, hrest⟩ := hreads
      refine ⟨⟨hlong, hends⟩, Or.inr ⟨hfs _ List.mem_cons_self, fs, mac, hrest, hmac, ?_⟩⟩
      exact fun g hg => hfs g (List.mem_cons_of_mem _ hg)
  · rintro ⟨⟨hlong, hends⟩, hmac | ⟨hgoesOn, fs, mac, hreads, hmac, hfs⟩⟩
    · exact ⟨[], fieldAt data pos, .cons rfl hlong hends (.nil _), hmac,
        fun g hg => absurd hg List.not_mem_nil⟩
    · refine ⟨fieldAt data pos :: fs, mac, .cons rfl hlong hends hreads, hmac, fun g hg => ?_⟩
      rcases List.mem_cons.mp hg with rfl | hg
      · exact hgoesOn
      · exact hfs g hg

end

/-- **The walk recognises the grammar**: it meets a MAC field exactly if the bytes can be read as
fields up to one. -/
theorem macFieldFrom_iff (data : Mem) (size pos : ℕ) :
    macFieldFrom data size pos = true ↔ ReadsMac data size pos := by
  induction hn : size - pos using Nat.strong_induction_on generalizing pos with
  | _ n ih =>
    rw [macFieldFrom_eq, readsMac_iff]
    by_cases hfits : 4 ≤ (fieldAt data pos).length ∧ pos + (fieldAt data pos).length ≤ size
    · have hadvance : (fieldAt data pos).length ≤ roundUp4 (fieldAt data pos).length := by
        unfold roundUp4
        omega
      rw [if_pos hfits, and_iff_right hfits, ← ih _ (by omega) _ rfl]
      split_ifs with hmac hlast
      · exact iff_of_true rfl (Or.inl hmac)
      · refine iff_of_false not_false ?_
        exact not_or.mpr ⟨hmac, fun h => h.1.1 hlast⟩
      · rw [or_iff_right hmac, and_iff_right ⟨hlast, hmac⟩]
    · rw [if_neg hfits]
      exact iff_of_false Bool.false_ne_true fun h => hfits h.1

/-! ### What the walk reads -/

namespace Reads

/-- The indices are within the buffer and increase, from `pos` on. -/
structure ReadsFrom (pos size : ℕ) (trace : List ℕ) : Prop where
  lower : ∀ i ∈ trace, pos ≤ i
  upper : ∀ i ∈ trace, i < size
  increasing : trace.Pairwise (· < ·)

theorem ReadsFrom.nil (pos size : ℕ) : ReadsFrom pos size [] :=
  ⟨fun _ hi => absurd hi List.not_mem_nil, fun _ hi => absurd hi List.not_mem_nil, .nil⟩

/-- One more byte is read in front. -/
theorem ReadsFrom.cons {pos next size : ℕ} {trace : List ℕ} (h : ReadsFrom next size trace)
    (hnext : pos < next) (hpos : pos < size) : ReadsFrom pos size (pos :: trace) where
  lower := List.forall_mem_cons.mpr ⟨le_rfl, fun i hi => (hnext.trans_le (h.lower i hi)).le⟩
  upper := List.forall_mem_cons.mpr ⟨hpos, h.upper⟩
  increasing := .cons (fun i hi => hnext.trans_le (h.lower i hi)) h.increasing

/-- The four bytes of a field header are read in front. -/
theorem ReadsFrom.header {pos next size : ℕ} {trace : List ℕ} (h : ReadsFrom next size trace)
    (hnext : pos + 4 ≤ next) (hpos : pos + 4 ≤ size) :
    ReadsFrom pos size (pos :: (pos + 1) :: (pos + 2) :: (pos + 3) :: trace) := by
  have hlast : ReadsFrom (pos + 3) size ((pos + 3) :: trace) := h.cons (by omega) (by omega)
  exact ((hlast.cons (by omega) (by omega)).cons (by omega) (by omega)).cons (by omega) (by omega)

theorem readByte_bind_run {α : Type} (i : ℕ) (f : UInt8 → BufferProc α) (data : Mem) :
    (readByte i >>= f) data =
      ⟨(f (data i) data).ret, (f (data i) data).state, i :: (f (data i) data).trace⟩ := rfl

/-- The procedure is the walk of the model, and reads each byte at most once. -/
theorem macFieldFrom_run (size pos : ℕ) (data : Mem) :
    (macFieldFrom size pos data).ret = Dntpd.macFieldFrom data size pos ∧
      ReadsFrom pos size (macFieldFrom size pos data).trace := by
  induction hn : size - pos using Nat.strong_induction_on generalizing pos with
  | _ n ih =>
    rw [macFieldFrom, Dntpd.macFieldFrom, ite_ret, ite_trace]
    by_cases hheader : pos + 4 ≤ size
    · have hempty := ReadsFrom.nil (pos + 4) size
      rw [if_pos hheader, if_pos hheader, if_pos hheader]
      simp only [readByte_bind_run, ite_ret, ite_trace, pure_ret, pure_trace]
      split_ifs with hfits hmac hlast
      · exact ⟨rfl, hempty.header le_rfl hheader⟩
      · exact ⟨rfl, hempty.header le_rfl hheader⟩
      · exact ⟨rfl, hempty.header le_rfl hheader⟩
      · refine ⟨(ih _ ?_ _ rfl).1, (ih _ ?_ _ rfl).2.header ?_ hheader⟩ <;> omega
    · rw [if_neg hheader, if_neg hheader, if_neg hheader]
      exact ⟨rfl, .nil pos size⟩

theorem validatePacketAuthentication_ret (size : ℕ) (data : Mem) (d : Daemon) :
    (validatePacketAuthentication d.mode.config.enableNtpAuth size data).ret =
      (Dntpd.validatePacketAuthentication (some data) size d).ret := by
  unfold validatePacketAuthentication Dntpd.validatePacketAuthentication
  dsimp only
  rw [ite_ret, ite_ret, ite_ret, ite_ret, bind_ret, ite_ret, (macFieldFrom_run size 48 data).1]
  simp only [pure_ret, ite_and, bind_ret]
  rfl

theorem validatePacketAuthentication_trace (authEnabled : UInt8) (size : ℕ) (data : Mem) :
    ReadsFrom 48 size (validatePacketAuthentication authEnabled size data).trace := by
  unfold validatePacketAuthentication
  rw [ite_trace, ite_trace, bind_trace, ite_trace, pure_trace, pure_trace, pure_trace, ite_self,
    List.append_nil]
  split_ifs
  · exact .nil 48 size
  · exact (macFieldFrom_run size 48 data).2
  · exact .nil 48 size

end Reads

/-! ### The validation -/

/-- `validate_packet_authentication` recognises its grammar: it reads each byte at most once and
none outside the buffer, its result is not 0 exactly for the buffers that can be read up to a MAC
field, and depends then on the configuration, which it leaves as it is. -/
structure RecognisesMac (data : Mem) (size : ℕ) (d : Daemon) : Prop where
  reads : ∀ i ∈ (Reads.validatePacketAuthentication d.mode.config.enableNtpAuth size data).trace,
    i < size
  once : (Reads.validatePacketAuthentication d.mode.config.enableNtpAuth size
    data).trace.Pairwise (· < ·)
  returns : (Reads.validatePacketAuthentication d.mode.config.enableNtpAuth size data).ret =
    (validatePacketAuthentication (some data) size d).ret
  nonzero_iff : (validatePacketAuthentication (some data) size d).ret ≠ 0 ↔
    48 ≤ size ∧ ReadsMac data size 48
  value : (validatePacketAuthentication (some data) size d).ret ≠ 0 →
    (validatePacketAuthentication (some data) size d).ret =
      if d.mode.config.enableNtpAuth ≠ 0 then 1 else -ENOTSUP
  state : (validatePacketAuthentication (some data) size d).state = d

theorem validatePacketAuthentication_ret (data : Mem) (size : ℕ) (d : Daemon) :
    (validatePacketAuthentication (some data) size d).ret =
      if 48 ≤ size ∧ macFieldFrom data size 48 = true then
        if d.mode.config.enableNtpAuth ≠ 0 then 1 else -ENOTSUP
      else 0 := by
  unfold validatePacketAuthentication
  dsimp only
  rw [ite_ret, ite_ret, bind_ret, modeHandlerGetConfig_run, pure_ret, pure_ret, ite_not]
  by_cases hsize : size < 48
  · rw [if_pos hsize, if_neg (by omega)]
  -- with the header alone there is no field
  have hheader : macFieldFrom data size 48 = true → size > 48 := by
    intro hmac
    obtain ⟨⟨hlong, hends⟩, -⟩ := (readsMac_iff data size 48).mp ((macFieldFrom_iff _ _ _).mp hmac)
    omega
  rw [if_neg hsize]
  refine if_congr ⟨fun h => ⟨by omega, h.2⟩, fun h => ⟨hheader h.2, h.2⟩⟩ rfl rfl

/-- **The validation recognises exactly its grammar**, whatever the bytes are. -/
theorem recognisesMac (data : Mem) (size : ℕ) (d : Daemon) : RecognisesMac data size d := by
  have hreads := Reads.validatePacketAuthentication_trace d.mode.config.enableNtpAuth size data
  have hret := validatePacketAuthentication_ret data size d
  have hvalue : (if d.mode.config.enableNtpAuth ≠ 0 then 1 else -ENOTSUP) ≠ 0 := by
    split_ifs <;> decide
  refine ⟨hreads.upper, hreads.increasing, Reads.validatePacketAuthentication_ret size data d,
    ?_, ?_, validatePacketAuthentication_state d (some data) size⟩
  · rw [hret, hvalue.ite_ne_right_iff, macFieldFrom_iff]
  · intro hne
    rw [hret] at hne ⊢
    exact if_pos (hvalue.ite_ne_right_iff.mp hne)

end Dntpd
