import Dntpd.Spec.TimeSync
import Dntpd.SyncMarks

/-!
# What the marks of an attempt tell

Without its marks the marked function is `sync_ntp_time` (`syncNtpTime_erases`), so a mark in its
trace tells where the run of `sync_ntp_time` has been.  It has been past the port validation exactly
if there is a socket and the port passes the test in the state that `get_sync_socket` leaves
(`pastPort_mem_iff`), and past the check of the originate timestamp exactly if it received a
datagram that parses and passes every check up to that one (`pastOrigin_mem_iff`).
-/

namespace Dntpd

open Proc

/-! ### The two checks -/

/-- The port test, made in the state that `get_sync_socket` leaves. -/
def PassesPortTest (port : CString) (d : Daemon) : Prop :=
  ¬ ((strtol port).value < 1 ∨ (strtol port).value > 65535 ∨
    (if (strtol port).erange = true then ERANGE else d.errno) ≠ 0)

/-- The checks of a parsed reply up to the originate timestamp. -/
structure PassesOrigin (t1 : NtpTimestamp) (pkt : NtpHeader) : Prop where
  li : pkt.li ≠ 3
  mode : pkt.mode = ntpModeServer
  origTs : pkt.origTs = t1

theorem li_ne_three_iff (pkt : NtpHeader) : pkt.li ≠ 3 ↔ pkt.li ≤ 2 := by
  rcases li_cases pkt with h | h | h | h <;> rw [h] <;> decide

/-- They are the four tests of `checkReply`: the one for a Kiss-o'-Death never fires behind the one
for the leap indicator. -/
theorem passesOrigin_iff (t1 : NtpTimestamp) (pkt : NtpHeader) (schedule : LeapScheduleEnv)
    (d : Daemon) :
    PassesOrigin t1 pkt ↔ (handleLeapIndicator pkt.li schedule d).ret = false ∧
      pkt.mode = ntpModeServer ∧ ntpIsKod pkt = false ∧ pkt.origTs = t1 := by
  rw [handleLeapIndicator_ret_eq_false_iff, ← li_ne_three_iff]
  constructor
  · intro h
    exact ⟨h.li, h.mode, ntpIsKod_of_li_le ((li_ne_three_iff pkt).mp h.li), h.origTs⟩
  · rintro ⟨hli, hmode, -, horigTs⟩
    exact ⟨hli, hmode, horigTs⟩

/-- A reply that passes them is checked further, any other is rejected. -/
theorem checkReply_eq (ip : CString) (sock : ℤ) (t1 t4 : NtpTimestamp) (pkt : NtpHeader)
    (env : SyncEnv) :
    (PassesOrigin t1 pkt → checkReply ip sock t1 t4 pkt env = (do
        let _ ← handleLeapIndicator pkt.li env.leapSchedule
        checkTimes ip sock t1 t4 pkt env)) ∧
      (¬ PassesOrigin t1 pkt → checkReply ip sock t1 t4 pkt env = (do
        let _ ← handleLeapIndicator pkt.li env.leapSchedule
        rejectReply sock)) := by
  constructor
  · intro h
    refine bind_congr_ret fun d => ?_
    obtain ⟨hskip, hmode, hkod, horigTs⟩ := (passesOrigin_iff t1 pkt env.leapSchedule d).mp h
    rw [hskip, if_neg Bool.false_ne_true, if_neg (not_not.mpr hmode), hkod,
      if_neg Bool.false_ne_true, if_neg (not_not.mpr horigTs)]
  · intro h
    refine bind_congr_ret fun d => ?_
    -- the first of the tests that fails ends it
    split_ifs with hskip hmode hkod horigTs
    · rfl
    · rfl
    · rfl
    · rfl
    · refine absurd ((passesOrigin_iff t1 pkt env.leapSchedule d).mpr ⟨?_, ?_, ?_, ?_⟩) h
      · exact eq_false_of_ne_true hskip
      · exact not_not.mp hmode
      · exact eq_false_of_ne_true hkod
      · exact not_not.mp horigTs

namespace SyncMarks

/-! ### Without the marks -/

theorem call_erases {α : Type} (p : DProc α) : Erases SyncMark.event? (call p) p :=
  .zoom p fun _ => rfl

theorem sendSyncRequest_erases (port : CString) (env : SyncEnv) :
    Erases SyncMark.event? (sendSyncRequest port env) (Dntpd.sendSyncRequest port env) := by
  refine .bind (call_erases _) fun sock => .ite (.pure _) ?_
  refine .bind (.update _) fun _ => .bind .read fun d => .ite (.pure _) ?_
  exact .emit_bind rfl (call_erases _)

theorem checkReply_erases (ip : CString) (sock : ℤ) (t1 t4 : NtpTimestamp) (pkt : NtpHeader)
    (env : SyncEnv) : Erases SyncMark.event? (checkReply ip sock t1 t4 pkt env)
      (Dntpd.checkReply ip sock t1 t4 pkt env) := by
  have hreject : Erases SyncMark.event? (call (rejectReply sock)) (rejectReply sock) :=
    call_erases _
  refine .bind (call_erases _) fun skip => ?_
  refine .ite hreject (.ite hreject (.ite hreject (.ite hreject ?_)))
  exact .emit_bind rfl (call_erases _)

theorem processReply_erases (ip port : CString) (sock : ℤ) (t1 : NtpTimestamp) (buffer : Mem)
    (recvLen : ℕ) (env : SyncEnv) :
    Erases SyncMark.event? (processReply ip port sock t1 buffer recvLen env)
      (Dntpd.processReply ip port sock t1 buffer recvLen env) := by
  refine .bind (call_erases _) fun _ => .bind (.update _) fun _ => .bind (call_erases _) fun _ => ?_
  refine .bind (call_erases _) fun t4 => .bind .read fun d => .bind (.update _) fun _ => ?_
  exact .ite (call_erases _) (checkReply_erases _ _ _ _ _ _)

/-- **Without its marks the function is `sync_ntp_time`.** -/
theorem syncNtpTime_erases (ip port : Option CString) (env : SyncEnv) :
    Erases SyncMark.event? (syncNtpTime ip port env) (Dntpd.syncNtpTime ip port env) := by
  cases ip with
  | none => exact .pure _
  | some ip =>
    cases port with
    | none => exact .pure _
    | some port =>
      refine .bind (sendSyncRequest_erases port env) fun request => ?_
      cases request with
      | none => exact .pure _
      | some request =>
        refine .bind (call_erases _) fun received => ?_
        cases received with
        | error e => exact call_erases _
        | ok dg => exact .ite (processReply_erases _ _ _ _ _ _ _) (call_erases _)

/-! ### Where the marks are -/

/-- What the daemon calls sets no mark. -/
theorem call_frame {m : SyncMark} (hm : m.event? = none) {α : Type} (p : DProc α) :
    Frame (fun _ => ()) (fun e => e ≠ m) (call p) := by
  refine .zoom_of_events p fun e he => ?_
  rw [← he] at hm
  cases hm

theorem not_mem_call {m : SyncMark} (hm : m.event? = none) {α : Type} (p : DProc α) (d : Daemon) :
    m ∉ (call p d).trace := fun hmem => (call_frame hm p).trace d m hmem rfl

/-- A mark behind a call is set by what follows it. -/
theorem mem_call_bind_iff {m : SyncMark} (hm : m.event? = none) {α β : Type} (p : DProc α)
    (f : α → MarkedProc β) (d : Daemon) :
    m ∈ ((call p >>= f) d).trace ↔ m ∈ (f (p d).ret (p d).state).trace :=
  List.mem_append.trans (or_iff_right (not_mem_call hm p d))

theorem checkReply_frame (ip : CString) (sock : ℤ) (t1 t4 : NtpTimestamp) (pkt : NtpHeader)
    (env : SyncEnv) :
    Frame (fun _ => ()) (fun e => e ≠ .pastPort) (checkReply ip sock t1 t4 pkt env) := by
  have hreject := call_frame (m := .pastPort) rfl (rejectReply sock)
  refine .bind (call_frame rfl _) fun skip => ?_
  refine .ite hreject (.ite hreject (.ite hreject (.ite hreject ?_)))
  exact .bind (.emit nofun) fun _ => call_frame rfl _

theorem processReply_frame (ip port : CString) (sock : ℤ) (t1 : NtpTimestamp) (buffer : Mem)
    (recvLen : ℕ) (env : SyncEnv) :
    Frame (fun _ => ()) (fun e => e ≠ .pastPort)
      (processReply ip port sock t1 buffer recvLen env) := by
  refine .bind (call_frame rfl _) fun _ => .bind (.update fun _ => rfl) fun _ => ?_
  refine .bind (call_frame rfl _) fun _ => .bind (call_frame rfl _) fun t4 => ?_
  refine .bind .read fun d => .bind (.update fun _ => rfl) fun _ => ?_
  exact .ite (call_frame rfl _) (checkReply_frame _ _ _ _ _ _)

/-- The mark behind the port validation is set where the port passes the test. -/
theorem sendSyncRequest_pastPort_iff (port : CString) (env : SyncEnv) (d : Daemon) :
    .pastPort ∈ (sendSyncRequest port env d).trace ↔
      ¬ (getSyncSocket env.socket d).ret < 0 ∧
        PassesPortTest port (getSyncSocket env.socket d).state := by
  set o := getSyncSocket env.socket d with ho
  set d' := { o.state with errno := if (strtol port).erange then ERANGE else o.state.errno }
  -- the port test on its own, with what it leads to
  have hbranch := ite_trace ((strtol port).value < 1 ∨ (strtol port).value > 65535 ∨ d'.errno ≠ 0)
    (pure none) (Proc.emit SyncMark.pastPort >>= fun _ =>
      call (sendToPort o.ret (strtol port).value env)) d'
  refine (mem_call_bind_iff rfl _ _ d).trans ?_
  rw [← ho]
  by_cases hsock : o.ret < 0
  · rw [if_pos hsock]
    exact iff_of_false List.not_mem_nil fun h => h.1 hsock
  rw [if_neg hsock, and_iff_right hsock]
  by_cases htest : PassesPortTest port o.state
  · refine iff_of_true ?_ htest
    exact (hbranch.trans (if_neg htest)) ▸ List.mem_cons_self
  · refine iff_of_false ?_ htest
    exact (hbranch.trans (if_pos (not_not.mp htest))) ▸ List.not_mem_nil

/-- The mark behind the originate timestamp is set where the reply passes the checks up to it. -/
theorem checkReply_pastOrigin_iff (ip : CString) (sock : ℤ) (t1 t4 : NtpTimestamp)
    (pkt : NtpHeader) (env : SyncEnv) (d : Daemon) :
    .pastOrigin ∈ (checkReply ip sock t1 t4 pkt env d).trace ↔ PassesOrigin t1 pkt := by
  refine (mem_call_bind_iff rfl _ _ d).trans ?_
  rw [passesOrigin_iff t1 pkt env.leapSchedule d]
  have hreject : ∀ d₁, SyncMark.pastOrigin ∉ (call (rejectReply sock) d₁).trace :=
    fun d₁ => not_mem_call rfl _ d₁
  split_ifs with hskip hmode hkod horigTs
  · exact iff_of_false (hreject _) fun h => Bool.false_ne_true (h.1.symm.trans hskip)
  · exact iff_of_false (hreject _) fun h => hmode h.2.1
  · exact iff_of_false (hreject _) fun h => Bool.false_ne_true (h.2.2.1.symm.trans hkod)
  · exact iff_of_false (hreject _) fun h => horigTs h.2.2.2
  · refine iff_of_true List.mem_cons_self ⟨eq_false_of_ne_true hskip, not_not.mp hmode, ?_, ?_⟩
    · exact eq_false_of_ne_true hkod
    · exact not_not.mp horigTs

/-- A datagram gets as far as the mark if it parses and its header passes the checks. -/
theorem processReply_pastOrigin_iff (ip port : CString) (sock : ℤ) (t1 : NtpTimestamp)
    (dg : Datagram) (env : SyncEnv) (d : Daemon) :
    .pastOrigin ∈
        (processReply ip port sock t1 dg.data (min dg.size bufferSize) env d).trace ↔
      (env.parse dg d.ido).ok = true ∧ PassesOrigin t1 (env.header dg d.ido) := by
  -- from the parse on, in a state with the negotiation of `d`
  have hparsed : ∀ t4 d₁, d₁.ido = d.ido →
      (SyncMark.pastOrigin ∈ ((do
        let d ← Proc.read
        let r := parseNtpPacket dg.data (min dg.size bufferSize) env.stalePkt d.ido
        Proc.update fun d => { d with ido := r.ido }
        if !r.ok then call (rejectReply sock)
        else checkReply ip sock t1 t4 r.pkt.toNtpHeader env : MarkedProc ℤ) d₁).trace ↔
        (env.parse dg d.ido).ok = true ∧ PassesOrigin t1 (env.header dg d.ido)) := by
    intro t4 d₁ hido
    rw [read_bind, update_bind, hido, ite_trace]
    split_ifs with hfails
    · have hok : (env.parse dg d.ido).ok = false := (Bool.not_eq_true' _).mp hfails
      exact iff_of_false (not_mem_call rfl _ _) fun h => Bool.false_ne_true (hok.symm.trans h.1)
    · have hok : (env.parse dg d.ido).ok = true := by
        rwa [Bool.not_eq_true', Bool.not_eq_false] at hfails
      rw [and_iff_right hok]
      exact checkReply_pastOrigin_iff _ _ _ _ _ _ _
  refine (mem_call_bind_iff rfl _ _ d).trans ?_
  rw [update_bind]
  refine (mem_call_bind_iff rfl _ _ _).trans ((mem_call_bind_iff rfl _ _ _).trans ?_)
  refine hparsed _ _ ?_
  exact (congrArg Daemon.ido ((readTimestampNow_frame env.t4Clock fun _ => False).state _) :)

/-- The request reaches the mark behind the port validation only. -/
theorem sendSyncRequest_frame (port : CString) (env : SyncEnv) :
    Frame (fun _ => ()) (fun e => e ≠ .pastOrigin) (sendSyncRequest port env) := by
  refine .bind (call_frame rfl _) fun sock => .ite (.pure _) ?_
  refine .bind (.update fun _ => rfl) fun _ => .bind .read fun d => .ite (.pure _) ?_
  exact .bind (.emit nofun) fun _ => call_frame rfl _

/-! ### The marks of an attempt -/

/-- **An attempt gets past the port validation exactly if it has a socket and the port passes the
test in the state that `get_sync_socket` leaves.** -/
theorem pastPort_mem_iff (ip port : CString) (env : SyncEnv) (d : Daemon) :
    .pastPort ∈ (syncNtpTime (some ip) (some port) env d).trace ↔
      ¬ (getSyncSocket env.socket d).ret < 0 ∧
        PassesPortTest port (getSyncSocket env.socket d).state := by
  rw [← sendSyncRequest_pastPort_iff]
  refine List.mem_append.trans (or_iff_left ?_)
  -- what follows the request does not set it
  generalize (sendSyncRequest port env d).ret = request
  generalize (sendSyncRequest port env d).state = d₁
  cases request with
  | none => exact List.not_mem_nil
  | some request =>
    refine mt (mem_call_bind_iff rfl _ _ _).mp ?_
    have hreject : SyncMark.pastPort ∉ (call (rejectReply request.1)
        (sys env.recvfrom d₁).state).trace := not_mem_call rfl _ _
    cases (sys env.recvfrom d₁).ret with
    | error e => exact hreject
    | ok dg =>
      dsimp only
      split_ifs
      · exact fun hmem => (processReply_frame _ _ _ _ _ _ _).trace _ _ hmem rfl
      · exact hreject

/-- **An attempt gets past the check of the originate timestamp exactly if it receives a datagram
that parses and whose header passes every check up to that one.** -/
theorem pastOrigin_mem_iff (ip port : CString) (env : SyncEnv) (d : Daemon) :
    .pastOrigin ∈ (syncNtpTime (some ip) (some port) env d).trace ↔
      ∃ dg, Received port env d dg ∧ (env.parse dg d.ido).ok = true ∧
        PassesOrigin (ntpTimestampNow env.t1Clock) (env.header dg d.ido) := by
  have hunsent : SyncMark.pastOrigin ∉ (sendSyncRequest port env d).trace := fun hmem =>
    (sendSyncRequest_frame port env).trace d _ hmem rfl
  refine List.mem_append.trans ((or_iff_right hunsent).trans ?_)
  -- the request goes out as in `sync_ntp_time`
  obtain ⟨hsameRet, hsameState⟩ := (sendSyncRequest_erases port env).agrees d
  rw [hsameRet, hsameState]
  have hsent := sendSyncRequest_ret port env d
  -- without a request there is no reply to come to the mark
  by_cases hrequest : RequestSent port env d
  swap
  · rw [hsent.2 hrequest]
    exact iff_of_false List.not_mem_nil fun ⟨_, hreceived, _⟩ => hrequest hreceived.sent
  obtain ⟨sock, hret⟩ := hsent.1 hrequest
  rw [hret]
  have hframe := ((sys_requestStep env.recvfrom).state _).trans
    ((Dntpd.sendSyncRequest_frame port env).state d)
  refine (mem_call_bind_iff rfl _ _ _).trans ?_
  rw [sys_ret]
  set d₁ := (sys env.recvfrom (Dntpd.sendSyncRequest port env d).state).state
  have hido : d₁.ido = d.ido := (congrArg Daemon.ido hframe :)
  have hreject : SyncMark.pastOrigin ∉ (call (rejectReply sock) d₁).trace := not_mem_call rfl _ _
  -- nothing received, an empty datagram, or one that is processed
  cases hrecv : env.recvfrom with
  | error e =>
    refine iff_of_false hreject fun ⟨dg, hreceived, _⟩ => ?_
    cases hrecv.symm.trans hreceived.datagram
  | ok dg =>
    dsimp only
    by_cases hsize : 0 < dg.size
    · rw [if_pos ((recvLen_pos_iff dg).mpr hsize), processReply_pastOrigin_iff, hido]
      constructor
      · rintro ⟨hok, hpasses⟩
        exact ⟨dg, ⟨hrequest, hrecv, hsize⟩, hok, hpasses⟩
      · rintro ⟨dg', hreceived, hok, hpasses⟩
        obtain rfl : dg = dg' := Except.ok.inj (hrecv.symm.trans hreceived.datagram)
        exact ⟨hok, hpasses⟩
    · rw [if_neg (mt (recvLen_pos_iff dg).mp hsize)]
      refine iff_of_false hreject fun ⟨dg', hreceived, _⟩ => ?_
      obtain rfl : dg = dg' := Except.ok.inj (hrecv.symm.trans hreceived.datagram)
      exact hsize hreceived.nonempty

end SyncMarks

end Dntpd
