import Dntpd.Library.Session
import Dntpd.Ntpq
import Dntpd.Spec.AddressText
import Dntpd.Spec.DaemonRun

/-!
# What a client of ntpq is told

The thread that serves the clients follows a session with each of them: it asks a client once,
answers it once with the whole of a string if it has said something, and closes it before it accepts
the next one (`tcpAcceptLoop_session`).

The answer to `sysinfo` is unambiguous as a text, field by field.  But of the root delay and the
root dispersion it shows only the lower 16 bits, which are the fractions of a second, and the last
correction is always `NONE`, since what the clock thread notes is the status of the correction
(`sysinfo_tells`).
-/

namespace Dntpd

open Proc CInt Run Ntpq

/-! ### Formats -/

theorem mem_printU {n : ℕ} {c : Char} (hc : c ∈ printU n) : '0' ≤ c ∧ c ≤ '9' :=
  digit_of_mem_decimal hc

theorem printU_injective {m n : ℕ} (h : printU m = printU n) : m = n := by
  have hvalue := congrArg decimalValue h
  rwa [show printU m = decimal m from rfl, show printU n = decimal n from rfl,
    decimalValue_decimal, decimalValue_decimal] at hvalue

theorem length_printU_le {n k : ℕ} (hk : 0 < k) (h : n < 10 ^ k) : (printU n).length ≤ k :=
  (Nat.length_toDigits_le_iff (by decide) hk).mpr h

theorem printD_of_neg {v : ℤ} (h : v < 0) : printD v = '-' :: printU v.natAbs := if_pos h

theorem printD_of_nonneg {v : ℤ} (h : ¬ v < 0) : printD v = printU v.natAbs := if_neg h

theorem mem_printD {v : ℤ} {c : Char} (hc : c ∈ printD v) : c = '-' ∨ '0' ≤ c ∧ c ≤ '9' := by
  by_cases hv : v < 0
  · rw [printD_of_neg hv] at hc
    exact (List.mem_cons.mp hc).imp_right mem_printU
  · rw [printD_of_nonneg hv] at hc
    exact .inr (mem_printU hc)

/-- A digit is no sign. -/
theorem printU_ne_neg (m n : ℕ) : '-' :: printU m ≠ printU n := by
  intro h
  have hsign : '-' ∈ printU n := by
    rw [← h]
    exact List.mem_cons_self
  exact absurd (mem_printU hsign).1 (by decide)

theorem printD_injective {v w : ℤ} (h : printD v = printD w) : v = w := by
  by_cases hv : v < 0
  · by_cases hw : w < 0
    · rw [printD_of_neg hv, printD_of_neg hw] at h
      have habs := printU_injective (List.cons.inj h).2
      omega
    · rw [printD_of_neg hv, printD_of_nonneg hw] at h
      exact absurd h (printU_ne_neg _ _)
  · by_cases hw : w < 0
    · rw [printD_of_nonneg hv, printD_of_neg hw] at h
      exact absurd h.symm (printU_ne_neg _ _)
    · rw [printD_of_nonneg hv, printD_of_nonneg hw] at h
      have habs := printU_injective h
      omega

theorem length_printD_le {v : ℤ} {k : ℕ} (hk : 0 < k) (h : v.natAbs < 10 ^ k) :
    (printD v).length ≤ k + 1 := by
  have hlength := length_printU_le hk h
  by_cases hv : v < 0
  · rw [printD_of_neg hv, List.length_cons]
    omega
  · rw [printD_of_nonneg hv]
    omega

/-- A byte has two digits. -/
theorem printX2_eq {n : ℕ} (h : n < 256) :
    printX2 n = [Nat.digitChar (n / 16), Nat.digitChar (n % 16)] := by
  unfold printX2
  by_cases hsmall : n < 16
  · rw [Nat.toDigits_of_lt_base hsmall, Nat.div_eq_of_lt hsmall, Nat.mod_eq_of_lt hsmall]
    rfl
  · have hhigh : n / 16 < 16 := by omega
    rw [Nat.toDigits_of_base_le (by decide) (not_lt.mp hsmall), Nat.toDigits_of_lt_base hhigh]
    rfl

theorem digitChar_injective :
    ∀ i j : Fin 16, Nat.digitChar i.val = Nat.digitChar j.val → i = j := by
  decide

theorem printX2_injective {m n : ℕ} (hm : m < 256) (hn : n < 256) (h : printX2 m = printX2 n) :
    m = n := by
  rw [printX2_eq hm, printX2_eq hn] at h
  obtain ⟨hhigh, hlow⟩ := List.cons.inj h
  have hdiv := digitChar_injective ⟨m / 16, by omega⟩ ⟨n / 16, by omega⟩ hhigh
  have hmod := digitChar_injective ⟨m % 16, by omega⟩ ⟨n % 16, by omega⟩ (List.cons.inj hlow).1
  rw [Fin.mk.injEq] at hdiv hmod
  omega

/-! ### The texts -/

theorem length_correctionName_le (correction : ℤ) : (correctionName correction).length ≤ 4 := by
  unfold correctionName
  split_ifs <;> decide

/-- The upper half of a word has five digits. -/
theorem length_printU_half_le (x : UInt32) : (printU (x >>> 16).toNat).length ≤ 5 := by
  apply length_printU_le (by decide)
  have hx := x.toNat_lt
  have hhalf : (x >>> 16).toNat = x.toNat / 65536 := by
    rw [UInt32.toNat_shiftRight, Nat.shiftRight_eq_div_pow]
    rfl
  omega

theorem length_printD_int8_le (x : Int8) : (printD x.toInt).length ≤ 4 := by
  apply length_printD_le (by decide)
  have hge := x.le_toInt
  have hlt := x.toInt_lt
  omega

/-- The buffer has room for the longest answer. -/
theorem length_sysinfoResponse {offset : ℤ} (h : InInt64 offset) (g : Globals) (correction : ℤ) :
    0 < (sysinfoResponse g offset correction).length ∧
      (sysinfoResponse g offset correction).length ≤ 1023 := by
  -- the bound of each number in the format
  have hstratum : (printU g.localStratum.toNat).length ≤ 3 := by
    apply length_printU_le (by decide)
    have hlt := g.localStratum.toNat_lt
    omega
  have hpoll := length_printD_int8_le g.localPoll
  have hprecision := length_printD_int8_le g.localPrecision
  have hdelay := length_printU_half_le (htonl g.localRootDelay)
  have hdisp := length_printU_half_le (htonl g.localRootDisp)
  have hli : (printX2 g.localLi.toNat).length = 2 := by
    rw [printX2_eq g.localLi.toNat_lt]
    rfl
  have hoffset : (printD offset).length ≤ 20 := by
    apply length_printD_le (by decide)
    unfold InInt64 at h
    omega
  have hname := length_correctionName_le correction
  unfold sysinfoResponse
  simp only [List.length_append, String.reduceToList, List.length_cons, List.length_nil]
  omega

theorem length_associationsResponse (synced : Bool) (stratum : UInt8) :
    0 < (associationsResponse synced stratum).length ∧
      (associationsResponse synced stratum).length ≤ 1023 := by
  unfold associationsResponse
  split_ifs <;> decide

/-! ### The sessions -/

/-- The mutexes that the thread takes for an answer. -/
inductive NtpqLock
  | published
  | clock
  deriving DecidableEq

/-- How far the thread is with a client.  `reading` is inside a section, before the answer. -/
inductive NtpqSession
  | idle
  | accepted (fd : ℤ)
  | asked (fd : ℤ)
  | reading (fd : ℤ) (l : NtpqLock)
  | served (fd : ℤ)
  deriving DecidableEq

namespace NtpqSession

/-- The calls that the thread makes, by how far it is.  A client that has said something is answered
with the whole of a text, while no mutex is held. -/
def next : NtpqSession → NtpqCall → Option NtpqSession
  | .idle, .accept _ none => some .idle
  | .idle, .accept _ (some fd) => some (.accepted fd)
  | .accepted fd, .recv fd' request =>
    if fd' = fd then some (if request = [] then .served fd else .asked fd) else none
  | .asked fd, .daemon (.lock .gMutex) => some (.reading fd .published)
  | .reading fd .published, .daemon (.unlock .gMutex) => some (.asked fd)
  | .asked fd, .object .mutexLock => some (.reading fd .clock)
  | .reading fd .clock, .object .mutexUnlock => some (.asked fd)
  | .asked fd, .send fd' response len =>
    if fd' = fd ∧ response ≠ [] ∧ len = response.length then some (.served fd) else none
  | .served fd, .close fd' => if fd' = fd then some .idle else none
  | _, _ => none

end NtpqSession

section

variable {fd : ℤ}

open NtpqSession

theorem noteErrno_conducts {α : Type} (k : NtpqSession) (r : Except Errno α) :
    Conducts next k (noteErrno r) fun _ => k := by
  cases r with
  | ok _ => exact .pure _ rfl
  | error e => exact .update _

theorem accept_conducts (r : Except Errno ℕ) :
    Conducts next .idle (accept r) fun client => (client.map accepted).getD .idle := by
  have hnext : ∀ (sock : ℤ) (client : Option ℤ),
      next .idle (.accept sock client) = some ((client.map accepted).getD .idle) := by
    intro sock client
    cases client <;> rfl
  refine .bind .read fun s => .bind (.emit (hnext _ _)) fun _ => ?_
  exact .bind (noteErrno_conducts _ _) fun _ => .pure _ rfl

theorem recv_conducts (r : Except Errno (List Char)) :
    Conducts next (accepted fd) (recv fd r) fun request =>
      if request = [] then served fd else asked fd := by
  refine .bind (.emit (if_pos rfl)) fun _ => ?_
  exact .bind (noteErrno_conducts _ _) fun _ => .pure _ rfl

/-- A text with room in the buffer is sent as it is. -/
theorem sendResponse_conducts {text : CString} (h : 0 < text.length ∧ text.length ≤ 1023)
    (r : Except Errno Unit) :
    Conducts next (asked fd) (Ntpq.sendResponse fd text r) fun _ => served fd := by
  refine .bind (.emit ?_) fun _ => noteErrno_conducts _ _
  have htake : text.take 1023 = text := List.take_of_length_le h.2
  rw [htake]
  exact if_pos ⟨rfl, List.ne_nil_of_length_pos h.1, rfl⟩

theorem readPublished_conducts (published : Globals) :
    Conducts next (asked fd) (readPublished published) fun _ => asked fd := by
  refine .bind (.emit rfl) fun _ => .bind (.update _) fun _ => .bind .read fun s => ?_
  exact .bind (.emit rfl) fun _ => .pure _ rfl

/-- A getter of the clock thread has one section. -/
theorem lastOffset_conducts (offsetUs : ℤ) :
    Conducts next (asked fd) (lastOffset offsetUs) fun _ => asked fd := by
  refine .bind (.update _) fun _ => .zoom ?_
  refine .bind (.emit rfl) fun _ => .bind .read fun s => ?_
  exact .bind (.emit rfl) fun _ => .pure _ rfl

theorem lastCorrection_conducts (correction : ℤ) :
    Conducts next (asked fd) (lastCorrection correction) fun _ => asked fd := by
  refine .bind (.update _) fun _ => .zoom ?_
  refine .bind (.emit rfl) fun _ => .bind .read fun s => ?_
  exact .bind (.emit rfl) fun _ => .pure _ rfl

theorem close_conducts : Conducts next (served fd) (Proc.emit (.close fd) : NtpqProc Unit)
    fun _ => .idle :=
  .emit (if_pos rfl)

theorem answer_conducts {text : CString} (h : 0 < text.length ∧ text.length ≤ 1023)
    (r : Except Errno Unit) : Conducts next (asked fd) (answer fd text r) fun _ => .idle := by
  unfold answer
  rw [if_pos h.1]
  exact .bind (sendResponse_conducts h r) fun _ => close_conducts

/-- A client is served from its request to its end. -/
theorem handleNtpqRequest_conducts (turn : NtpqTurn) :
    Conducts next (accepted fd) (handleNtpqRequest fd turn) fun _ => .idle := by
  refine .bind (recv_conducts _) fun received => .ite (fun hempty => ?_) fun hasked => ?_
  · rw [if_pos hempty]
    exact close_conducts
  rw [if_neg hasked]
  refine .ite (fun _ => answer_conducts (by decide) _) fun _ => .ite (fun _ => ?_) fun _ => ?_
  · exact .bind (readPublished_conducts _) fun g =>
      answer_conducts (length_associationsResponse _ _) _
  refine .ite (fun _ => ?_) fun _ => .ite (fun _ => ?_) fun _ => answer_conducts (by decide) _
  · refine .bind (readPublished_conducts _) fun g => ?_
    refine .bind_of_ret (lastOffset_conducts _) (fun _ => rfl) ?_
    refine .bind (lastCorrection_conducts _) fun correction => ?_
    exact answer_conducts (length_sysinfoResponse turn.offset_int64 _ _) _
  · exact .bind (sendResponse_conducts (by decide) _) fun _ => close_conducts

/-- **The clients are served one after the other**: the thread asks each once, answers it once with
the whole of a text if it has said something, and closes it before the next.  It holds no mutex but
to read. -/
theorem tcpAcceptLoop_session (turns : List NtpqTurn) :
    Conducts next .idle (tcpAcceptLoop turns) fun _ => .idle := by
  induction turns with
  | nil => exact .pure _ rfl
  | cons turn turns ih =>
    refine .bind (accept_conducts _) fun client => ?_
    cases client with
    | none => exact .bind .read fun s => .ite (fun _ => ih) fun _ => .pure _ rfl
    | some clientFd => exact .bind (handleNtpqRequest_conducts turn) fun _ => ih

end

/-! ### The fields of an answer -/

theorem takeWhile_field {a : CString} {c : Char} (ha : c ∉ a) (s : CString) :
    (a ++ c :: s).takeWhile (· ≠ c) = a := by
  have hall : ∀ x ∈ a, decide (x ≠ c) = true := fun x hx =>
    decide_eq_true (ne_of_mem_of_not_mem hx ha)
  rw [List.takeWhile_append_of_pos hall, List.takeWhile_cons_of_neg (by simp), List.append_nil]

/-- Two texts whose first fields are ended by the same label have the same field and go on alike,
if the label starts with a character that is in no field. -/
theorem field_inj {a b label : CString} {c : Char} (hlabel : label.head? = some c) (ha : c ∉ a)
    (hb : c ∉ b) (s t : CString) : a ++ (label ++ s) = b ++ (label ++ t) ↔ a = b ∧ s = t := by
  obtain ⟨rest, rfl⟩ := List.head?_eq_some_iff.mp hlabel
  constructor
  · intro h
    have hfield : a = b := by
      have htake := congrArg (List.takeWhile (· ≠ c)) h
      rwa [List.cons_append, List.cons_append, takeWhile_field ha, takeWhile_field hb] at htake
    subst hfield
    exact ⟨rfl, List.append_cancel_left (List.append_cancel_left h)⟩
  · rintro ⟨rfl, rfl⟩
    rfl

theorem notMem_printU {c : Char} (hc : ¬ ('0' ≤ c ∧ c ≤ '9')) (n : ℕ) : c ∉ printU n :=
  mt mem_printU hc

theorem notMem_printD {c : Char} (hc : ¬ (c = '-' ∨ '0' ≤ c ∧ c ≤ '9')) (v : ℤ) : c ∉ printD v :=
  mt mem_printD hc

theorem notMem_printX2 {c : Char} (hc : ∀ i : Fin 16, c ≠ Nat.digitChar i.val) {n : ℕ}
    (hn : n < 256) : c ∉ printX2 n := by
  rw [printX2_eq hn, List.mem_cons, List.mem_singleton]
  rintro (hhigh | hlow)
  · exact hc ⟨n / 16, by omega⟩ hhigh
  · exact hc ⟨n % 16, by omega⟩ hlow

/-- The half of a swapped word that is shown is the lower half of the word. -/
theorem getLsbD_shown (x : UInt32) {i : ℕ} (hi : i < 16) :
    (htonl x >>> 16).toBitVec.getLsbD i = x.toBitVec.getLsbD (8 * (1 - i / 8) + i % 8) := by
  have hshift : (htonl x >>> 16).toBitVec = (htonl x).toBitVec >>> 16 := rfl
  have hbyte : 8 * (3 - (16 + i) / 8) + (16 + i) % 8 = 8 * (1 - i / 8) + i % 8 := by omega
  rw [hshift, BitVec.getLsbD_ushiftRight, getLsbD_htonl x (by omega), hbyte]

theorem shown_inj {x y : UInt32} :
    (htonl x >>> 16).toNat = (htonl y >>> 16).toNat ↔ x.toNat % 65536 = y.toNat % 65536 := by
  constructor
  · intro h
    have hshown : htonl x >>> 16 = htonl y >>> 16 := UInt32.toNat_inj.mp h
    apply Nat.eq_of_testBit_eq
    intro j
    rw [show 65536 = 2 ^ 16 from rfl, Nat.testBit_mod_two_pow, Nat.testBit_mod_two_pow]
    by_cases hj : j < 16
    · -- the bit of the shown half that comes from this one
      have hi : 8 * (1 - j / 8) + j % 8 < 16 := by omega
      have hback : 8 * (1 - (8 * (1 - j / 8) + j % 8) / 8) + (8 * (1 - j / 8) + j % 8) % 8 = j := by
        omega
      have hx := getLsbD_shown x hi
      have hy := getLsbD_shown y hi
      rw [hback] at hx hy
      have hbit : x.toBitVec.getLsbD j = y.toBitVec.getLsbD j := by rw [← hx, ← hy, hshown]
      exact congrArg (decide (j < 16) && ·) hbit
    · rw [decide_eq_false hj]
      rfl
  · -- conversely, the lower half of the value fills the whole of what is shown
    intro h
    apply congrArg UInt32.toNat
    apply UInt32.toBitVec_inj.mp
    apply BitVec.eq_of_getLsbD_eq
    intro i hi
    by_cases hlow : i < 16
    · have hj : 8 * (1 - i / 8) + i % 8 < 16 := by omega
      have hbit := congrArg (fun n => n.testBit (8 * (1 - i / 8) + i % 8)) h
      rw [show 65536 = 2 ^ 16 from rfl, Nat.testBit_mod_two_pow, Nat.testBit_mod_two_pow,
        decide_eq_true hj] at hbit
      rw [getLsbD_shown x hlow, getLsbD_shown y hlow]
      exact hbit
    · have hshift : ∀ z : UInt32, (htonl z >>> 16).toBitVec = (htonl z).toBitVec >>> 16 :=
        fun _ => rfl
      rw [hshift, hshift, BitVec.getLsbD_ushiftRight, BitVec.getLsbD_ushiftRight,
        BitVec.getLsbD_of_ge _ _ (by omega), BitVec.getLsbD_of_ge _ _ (by omega)]

/-- What an answer to `sysinfo` tells: half of the root delay and half of the root dispersion. -/
structure NtpqTurn.SameSysinfo (t t' : NtpqTurn) : Prop where
  stratum : t.published.localStratum = t'.published.localStratum
  poll : t.published.localPoll = t'.published.localPoll
  precision : t.published.localPrecision = t'.published.localPrecision
  rootDelay : t.published.localRootDelay.toNat % 65536 = t'.published.localRootDelay.toNat % 65536
  rootDisp : t.published.localRootDisp.toNat % 65536 = t'.published.localRootDisp.toNat % 65536
  li : t.published.localLi = t'.published.localLi
  offset : t.offsetUs = t'.offsetUs

theorem sysinfoResponse_inj {t t' : NtpqTurn} {name : ℤ} :
    sysinfoResponse t.published t.offsetUs name = sysinfoResponse t'.published t'.offsetUs name ↔
      t.SameSysinfo t' := by
  -- no number contains the character that ends its field
  have hnumber := fun n => notMem_printU (c := '\n') (by decide) n
  have hspace := fun n => notMem_printU (c := ' ') (by decide) n
  have hsigned := fun v => notMem_printD (c := '\n') (by decide) v
  have hoffset := fun v => notMem_printD (c := ' ') (by decide) v
  have hbyte : ∀ x : UInt8, '\n' ∉ printX2 x.toNat := fun x =>
    notMem_printX2 (by decide) x.toNat_lt
  unfold sysinfoResponse
  -- the format is taken apart from the left, one field at a time
  simp only [List.append_assoc]
  rw [List.append_cancel_left_eq, field_inj rfl (hnumber _) (hnumber _),
    field_inj rfl (hsigned _) (hsigned _), field_inj rfl (hsigned _) (hsigned _),
    field_inj rfl (hspace _) (hspace _), field_inj rfl (hspace _) (hspace _),
    field_inj rfl (hbyte _) (hbyte _), field_inj rfl (hoffset _) (hoffset _)]
  constructor
  · rintro ⟨hstratum, hpoll, hprecision, hdelay, hdisp, hli, hoffset, -⟩
    exact {
      stratum := UInt8.toNat_inj.mp (printU_injective hstratum)
      poll := Int8.toInt_inj.mp (printD_injective hpoll)
      precision := Int8.toInt_inj.mp (printD_injective hprecision)
      rootDelay := shown_inj.mp (printU_injective hdelay)
      rootDisp := shown_inj.mp (printU_injective hdisp)
      li := UInt8.toNat_inj.mp (printX2_injective t.published.localLi.toNat_lt
        t'.published.localLi.toNat_lt hli)
      offset := printD_injective hoffset }
  · intro h
    rw [h.stratum, h.poll, h.precision, shown_inj.mpr h.rootDelay, shown_inj.mpr h.rootDisp, h.li,
      h.offset]
    exact ⟨rfl, rfl, rfl, rfl, rfl, rfl, rfl, rfl⟩

/-! ### What is answered -/

/-- The texts that are sent. -/
def answers (tr : List NtpqCall) : List CString :=
  tr.filterMap fun
    | .send _ response _ => some response
    | _ => none

/-- The request in the buffer starts with `sysinfo`. -/
def NtpqTurn.AsksSysinfo (turn : NtpqTurn) : Prop :=
  ∃ request, turn.recv = .ok request ∧
    strncmpEq (cString (request.take 1023)) "sysinfo".toList 7 = true

theorem noteErrno_trace {α : Type} (r : Except Errno α) (s : ClockThreadState) :
    (noteErrno r s).trace = [] := by
  cases r <;> rfl

theorem answer_trace {text : CString} (h : 0 < text.length ∧ text.length ≤ 1023) (fd : ℤ)
    (r : Except Errno Unit) (s : ClockThreadState) :
    (answer fd text r s).trace = [.send fd text text.length, .close fd] := by
  unfold answer Ntpq.sendResponse
  simp only [if_pos h.1, bind_trace, emit_trace, noteErrno_trace, List.append_nil,
    List.take_of_length_le h.2]
  rfl

/-- A request for `sysinfo` is none for anything else. -/
theorem sysinfo_only {request : CString} (h : strncmpEq request "sysinfo".toList 7 = true) :
    request ≠ [] ∧ strncmpEq request "version".toList 7 = false ∧
      strncmpEq request "associations".toList 12 = false := by
  have htake : request.take 7 = "sysinfo".toList := eq_of_beq h
  refine ⟨?_, ?_, ?_⟩
  · rintro rfl
    cases htake
  · rw [← Bool.not_eq_true]
    intro hversion
    have hother : request.take 7 = "version".toList := eq_of_beq hversion
    exact absurd (htake.symm.trans hother) (by decide)
  · rw [← Bool.not_eq_true]
    intro hassociations
    have hother : request.take 12 = "associations".toList := eq_of_beq hassociations
    have hshort := congrArg (List.take 7) hother
    rw [List.take_take] at hshort
    exact absurd (htake.symm.trans hshort) (by decide)

theorem answers_append (tr tr' : List NtpqCall) :
    answers (tr ++ tr') = answers tr ++ answers tr' :=
  List.filterMap_append

/-- Behind a step that sends nothing and always returns the same. -/
theorem answers_bind {α β : Type} {p : NtpqProc α} {f : α → NtpqProc β} {a : α}
    {texts : List CString} (hp : ∀ s, answers (p s).trace = []) (ha : ∀ s, (p s).ret = a)
    (hf : ∀ s, answers (f a s).trace = texts) (s : ClockThreadState) :
    answers ((p >>= f) s).trace = texts := by
  rw [bind_trace, answers_append, hp, ha, hf]
  rfl

/-- Who asks for `sysinfo` is answered with the values of the turn, and nothing else. -/
theorem answers_of_asksSysinfo {turn : NtpqTurn} (h : turn.AsksSysinfo) (fd : ℤ) :
    ∀ s, answers (handleNtpqRequest fd turn s).trace =
      [sysinfoResponse turn.published turn.offsetUs turn.correction] := by
  obtain ⟨request, hrecv, hsysinfo⟩ := h
  obtain ⟨hne, hversion, hassociations⟩ := sysinfo_only hsysinfo
  have hreceived : request.take 1023 ≠ [] := fun hnil => hne (by rw [hnil]; rfl)
  have hlength := length_sysinfoResponse turn.offset_int64 turn.published turn.correction
  unfold handleNtpqRequest
  rw [hrecv]
  refine answers_bind (fun _ => rfl) (fun _ => rfl) ?_
  rw [show (Except.ok (ε := Errno) request).toOption.getD [] = request from rfl, if_neg hreceived]
  rw [hversion, hassociations, hsysinfo]
  refine answers_bind (fun _ => rfl) (fun _ => rfl) ?_
  refine answers_bind (fun _ => rfl) (fun _ => rfl) ?_
  refine answers_bind (fun _ => rfl) (fun _ => rfl) fun s' => ?_
  rw [answer_trace hlength]
  rfl

/-! ### The noted correction -/

theorem clockThreadIteration_lastCorrection (ctx : ClockThreadContext) (env : ClockThreadEnv)
    (d : Daemon) : (clockThreadIteration ctx env d).ret.1.lastCorrection ∈
      [ctx.lastCorrection, 0, -1] := by
  cases htime : env.gettimeofday with
  | error e =>
    unfold clockThreadIteration
    rw [htime]
    exact List.mem_cons_self
  | ok tv =>
    have hret : (clockThreadIteration ctx env d).ret.1.lastCorrection =
        (clockThreadCorrection tv env d).ret := by
      unfold clockThreadIteration
      rw [htime]
      rfl
    -- the status of a call that was made is 0 or -1
    have hstatus : ∀ call, env.correction.status call ∈ [0, -1] := by
      intro call
      cases call with
      | none => exact List.mem_cons_of_mem 0 List.mem_cons_self
      | some c =>
        show callStatus (env.correction.answer c) ∈ _
        cases env.correction.answer c with
        | ok _ => exact List.mem_cons_self
        | error e => exact List.mem_cons_of_mem 0 List.mem_cons_self
    rw [hret]
    apply List.mem_cons_of_mem
    unfold clockThreadCorrection
    rw [(applyTimeCorrection_correctionOutcome _ _ _ _).ret]
    exact hstatus _

theorem DaemonStep.lastCorrection_after (step : DaemonStep) (s : RunState) :
    (step.after s).ctx.lastCorrection ∈ [s.ctx.lastCorrection, 0, -1] := by
  cases step with
  | clockThread env => exact clockThreadIteration_lastCorrection _ _ _
  | activity a => exact List.mem_cons_self
  | modeHandler c => exact List.mem_cons_self

/-- A correction that is noted is a status. -/
def CorrectionNoted (s : RunState) : Prop := s.ctx.lastCorrection ∈ [0, -1]

theorem correctionNoted_run {s : RunState} (hs : CorrectionNoted s) (steps : List DaemonStep) :
    CorrectionNoted (runSteps DaemonStep.after steps s) := by
  induction steps generalizing s with
  | nil => exact hs
  | cons step steps ih =>
    apply ih
    rcases List.mem_cons.mp (step.lastCorrection_after s) with hkept | hnoted
    · exact (congrArg (· ∈ [0, -1]) hkept).mpr hs
    · exact hnoted

/-- A status has no name. -/
theorem CorrectionNoted.name {s : RunState} (hs : CorrectionNoted s) :
    correctionName s.ctx.lastCorrection = "NONE".toList := by
  rcases List.mem_cons.mp hs with hzero | hfailed
  · rw [hzero]
    rfl
  · rw [List.mem_singleton.mp hfailed]
    rfl

/-! ### Two clients -/

/-- A client that asks for `sysinfo` after the run. -/
structure NtpqTurn.AsksAfter (turn : NtpqTurn) (steps : List DaemonStep) (s : RunState) : Prop where
  asks : turn.AsksSysinfo
  correction : turn.correction = (runSteps DaemonStep.after steps s).ctx.lastCorrection

/-- The last correction is told as none. -/
theorem NtpqTurn.AsksAfter.answers_eq {turn : NtpqTurn} {steps : List DaemonStep} {s : RunState}
    (h : turn.AsksAfter steps s) (hs : CorrectionNoted s) (fd : ℤ) (c : ClockThreadState) :
    answers (handleNtpqRequest fd turn c).trace =
      [sysinfoResponse turn.published turn.offsetUs 0] := by
  have hname : correctionName turn.correction = correctionName 0 := by
    rw [h.correction]
    exact (correctionNoted_run hs steps).name
  rw [answers_of_asksSysinfo h.asks]
  unfold sysinfoResponse
  rw [hname]

/-- What the answer ends with if nothing was corrected. -/
theorem sysinfoResponse_none (g : Globals) (lastOffset : ℤ) :
    ∃ text, sysinfoResponse g lastOffset 0 = text ++ "correction: NONE\n".toList := by
  have hlabel : " us\ncorrection: ".toList = " us\n".toList ++ "correction: ".toList := by decide
  have hline : "correction: NONE\n".toList =
      "correction: ".toList ++ (correctionName 0 ++ "\n".toList) := by decide
  have hsplit : ∀ before unit label name eol : List Char,
      before ++ (unit ++ label) ++ name ++ eol = before ++ unit ++ (label ++ (name ++ eol)) := by
    intro before unit label name eol
    simp only [List.append_assoc]
  unfold sysinfoResponse
  rw [hlabel, hline]
  exact ⟨_, hsplit _ _ _ _ _⟩

/-- **Two clients are told the same when they cannot know the difference**: of the root delay and
the root dispersion they are told the lower 16 bits, and that there was no correction in every
run. -/
theorem sysinfo_tells {s s' : RunState} (hs : s.ctx.lastCorrection = 0)
    (hs' : s'.ctx.lastCorrection = 0) {steps steps' : List DaemonStep} {turn turn' : NtpqTurn}
    (h : turn.AsksAfter steps s) (h' : turn'.AsksAfter steps' s') (fd fd' : ℤ)
    (c c' : ClockThreadState) :
    (∃ text, answers (handleNtpqRequest fd turn c).trace =
      [text ++ "correction: NONE\n".toList]) ∧
      (answers (handleNtpqRequest fd turn c).trace =
        answers (handleNtpqRequest fd' turn' c').trace ↔ turn.SameSysinfo turn') := by
  have hnoted : CorrectionNoted s := List.mem_cons.mpr (.inl hs)
  have hnoted' : CorrectionNoted s' := List.mem_cons.mpr (.inl hs')
  rw [h.answers_eq hnoted, h'.answers_eq hnoted']
  constructor
  · obtain ⟨text, htext⟩ := sysinfoResponse_none turn.published turn.offsetUs
    rw [htext]
    exact ⟨text, rfl⟩
  · rw [List.singleton_inj, sysinfoResponse_inj]

/-- A client that asks a daemon with the root delay, when that correction is noted. -/
def sysinfoTurn (rootDelay : UInt32) (correction : ℤ) : NtpqTurn where
  accept := .ok 5
  recv := .ok "sysinfo".toList
  published := { Daemon.init.g with localRootDelay := rootDelay }
  offsetUs := 0
  offset_int64 := by decide
  correction := correction
  send := .ok ()

/-- The state at the start of the thread. -/
def ntpqInit : ClockThreadState := ⟨⟨0, 0, 0⟩, true, Daemon.init⟩

/-- A root delay of a second and a refused correction are told as neither. -/
theorem sysinfo_tells_second :
    (runSteps DaemonStep.after [.clockThread wallClockEnv] RunState.init).ctx.lastCorrection = -1 ∧
    (∃ text, answers (handleNtpqRequest 5 (sysinfoTurn 65536 (-1)) ntpqInit).trace =
      [text ++ "correction: NONE\n".toList]) ∧
      answers (handleNtpqRequest 5 (sysinfoTurn 65536 (-1)) ntpqInit).trace =
        answers (handleNtpqRequest 5 (sysinfoTurn 0 0) ntpqInit).trace := by
  have hrefused : (sysinfoTurn 65536 (-1)).AsksAfter [.clockThread wallClockEnv] RunState.init :=
    ⟨⟨_, rfl, by decide⟩, by decide +kernel⟩
  have hset : (sysinfoTurn 0 0).AsksAfter [.clockThread bootEnv] RunState.init :=
    ⟨⟨_, rfl, by decide⟩, by decide +kernel⟩
  obtain ⟨htold, hsame⟩ := sysinfo_tells rfl rfl hrefused hset 5 5 ntpqInit ntpqInit
  exact ⟨by decide +kernel, htold, hsame.mpr ⟨rfl, rfl, rfl, rfl, rfl, rfl, rfl⟩⟩

end Dntpd
