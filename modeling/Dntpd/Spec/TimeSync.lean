import Dntpd.Spec.Filter
import Dntpd.Spec.NtpPacket
import Dntpd.Spec.Socket
import Dntpd.TimeSync

/-!
# What an attempt to synchronise does

`syncNtpTime_cases` lists the ways a run of `sync_ntp_time` can go: nothing is received, what is
received does not parse, the reply fails a check, or it passes all of them (`ReplyAccepted`) and
`acceptReply` runs.  In the first three the trace is that of an exchange (`ExchangeTrace`): no
correction, no frequency update, and `g_mutex` taken and released in order.
-/

namespace Dntpd

open Proc

/-! ### Traces of an exchange -/

/-- The events of an attempt outside `acceptReply`. -/
def Event.InExchange : Event → Prop
  | .lock m => m ∈ [Mutex.gMutex, Mutex.gTcpSockMutex, Mutex.gLeapSecondMutex]
  | .unlock m => m ∈ [Mutex.gMutex, Mutex.gTcpSockMutex, Mutex.gLeapSecondMutex]
  | .sendto s _ _ _ => s = .syncNtpTime
  | .close _ => True
  | _ => False

/-- A trace of such events in which `g_mutex` is used in order. -/
structure ExchangeTrace (tr : List Event) : Prop where
  events : ∀ e ∈ tr, e.InExchange
  disciplined : LockTrace.Disciplined (lockOps .gMutex tr)

theorem ExchangeTrace.nil : ExchangeTrace [] := ⟨nofun, LockTrace.disciplined_nil⟩

theorem ExchangeTrace.append {tr tr' : List Event} (h : ExchangeTrace tr) (h' : ExchangeTrace tr') :
    ExchangeTrace (tr ++ tr') where
  events e he := (List.mem_append.mp he).elim (h.events e) (h'.events e)
  disciplined := by
    rw [lockOps_append]
    exact h.disciplined.append h'.disciplined

/-- Without `g_mutex` there is nothing to keep in order. -/
theorem ExchangeTrace.of_locks {tr : List Event}
    (h : ∀ e ∈ tr, e.InExchange ∧ e.lockOp .gMutex = none) : ExchangeTrace tr where
  events e he := (h e he).1
  disciplined := by
    have hnil : lockOps .gMutex tr = [] := List.filterMap_eq_nil_iff.mpr fun e he => (h e he).2
    rw [hnil]
    exact LockTrace.disciplined_nil

/-- The critical section of a procedure that only computes. -/
theorem ExchangeTrace.section : ExchangeTrace [.lock .gMutex, .unlock .gMutex] :=
  ⟨by simp [Event.InExchange], by decide⟩

/-! ### The request -/

/-- The events of sending a request. -/
def Event.InRequest (e : Event) : Prop := e.InExchange ∧ e.lockOp .gMutex = none

/-- A step of sending a request. -/
abbrev RequestStep {α : Type} (p : DProc α) : Prop := Frame Daemon.eraseSocket Event.InRequest p

theorem requestStep_of_frame {α : Type} {p : DProc α}
    (hp : Frame Daemon.eraseErrno (fun _ => False) p) : RequestStep p :=
  hp.mono Daemon.eraseSocket fun _ he => he.elim

theorem sys_requestStep {α : Type} (r : Except Errno α) : RequestStep (sys r) :=
  requestStep_of_frame (sys_frame r _)

theorem network6CreateSocket_frame (env : SocketEnv) :
    Frame Daemon.eraseErrno (fun _ => False) (network6CreateSocket env) := by
  unfold network6CreateSocket
  refine .bind (sys_frame _ _) fun r => ?_
  cases r with
  | error e => exact .pure _
  | ok fd => exact .bind (sys_frame _ _) fun _ => .bind (sys_frame _ _) fun _ => .pure _

theorem getSyncSocket_frame (env : SyncSocketEnv) : RequestStep (getSyncSocket env) := by
  have hstore : ∀ sock : ℤ, RequestStep (do
      Proc.update fun d => { d with socket := { d.socket with syncSock := sock } }
      if sock < 0 then return -1
      else
        let _ ← sys env.reuseaddr
        return sock) := fun sock =>
    .bind (.update fun _ => rfl) fun _ =>
      .ite (.pure _) (.bind (sys_requestStep _) fun _ => .pure _)
  unfold getSyncSocket
  refine .bind .read fun d => .ite (.pure _) (.ite ?_ ?_)
  · exact .bind (requestStep_of_frame (network6CreateSocket_frame _)) hstore
  · exact .bind (requestStep_of_frame (network4CreateSocket_frame _)) hstore

theorem closeSocket_frame (sock : ℤ) : Frame (id : Daemon → Daemon) Event.InRequest
    (closeSocket sock) := by
  have hlock : Event.InRequest (.lock .gTcpSockMutex) := ⟨by simp [Event.InExchange], by decide⟩
  have hunlock : Event.InRequest (.unlock .gTcpSockMutex) := ⟨by simp [Event.InExchange], by decide⟩
  unfold closeSocket
  refine .bind (.emit hlock) fun _ => .bind .read fun d => .bind (.emit hunlock) fun _ => ?_
  exact .ite (.emit ⟨trivial, rfl⟩) (.pure _)

theorem rejectReply_frame (sock : ℤ) : Frame (id : Daemon → Daemon) Event.InRequest
    (rejectReply sock) :=
  .bind (closeSocket_frame sock) fun _ => .pure _

theorem getaddrinfo_frame (r : Except (Option Errno) UInt32) : RequestStep (getaddrinfo r) := by
  unfold getaddrinfo
  cases r with
  | ok addr => exact .pure _
  | error e => exact .bind (.update fun _ => rfl) fun _ => .pure _

theorem sendToPort_frame (sock portNum : ℤ) (env : SyncEnv) :
    RequestStep (sendToPort sock portNum env) := by
  have hclose : RequestStep (closeSocket sock) :=
    (closeSocket_frame sock).mono Daemon.eraseSocket fun _ he => he
  have hsendto : ∀ bytes dest, RequestStep (sendto .syncNtpTime bytes dest env.sendto) :=
    fun bytes dest =>
      .bind (sys_requestStep _) fun _ => .bind (.emit ⟨rfl, rfl⟩) fun _ => .pure _
  unfold sendToPort
  -- the address, the timeout and the datagram; the last two close the socket when they fail
  refine .bind (getaddrinfo_frame _) fun addr => ?_
  cases addr with
  | none => exact .pure _
  | some addr =>
    refine .bind (sys_requestStep _) fun r => ?_
    cases r with
    | error e => exact .bind hclose fun _ => .pure _
    | ok =>
      have hclock : RequestStep (readTimestampNow env.t1Clock) :=
        requestStep_of_frame (readTimestampNow_frame _ _)
      refine .bind hclock fun t1 => .bind .read fun d => .bind (hsendto _ _) fun sent => ?_
      exact .ite (.bind hclose fun _ => .pure _) (.pure _)

theorem sendSyncRequest_frame (port : CString) (env : SyncEnv) :
    RequestStep (sendSyncRequest port env) := by
  unfold sendSyncRequest
  refine .bind (getSyncSocket_frame _) fun sock => .ite (.pure _) ?_
  refine .bind (.update fun _ => rfl) fun _ => .bind .read fun d => .ite (.pure _) ?_
  exact sendToPort_frame sock _ env

/-! ### When a request is sent -/

/-- `errno` is clear after a call only if it was clear before and the call did not fail. -/
theorem sys_errno_eq_zero_iff {α : Type} (r : Except Errno α) (d : Daemon) :
    (sys r d).state.errno = 0 ↔ d.errno = 0 ∧ r.toBool = true := by
  cases r with
  | ok a => simp [sys]
  | error e => simp [sys, e.ne_zero]

/-- A number in the range of ports is not one out of range. -/
theorem strtol_erange {s : CString} (h : (strtol s).value ≤ 65535) (h' : 1 ≤ (strtol s).value) :
    (strtol s).erange = false := by
  unfold strtol at *
  cases hscan : scanInteger s with
  | none => rfl
  | some r =>
    simp only [hscan] at h h' ⊢
    -- a number past either end of the range of `long` is replaced by that end, no port
    generalize (if r.1 = true then -(r.2.1 : ℤ) else r.2.1) = x at *
    by_cases hmax : x > CInt.int64Max
    · rw [if_pos hmax] at h
      exact absurd h (by simp [CInt.int64Max])
    by_cases hmin : x < CInt.int64Min
    · rw [if_neg hmax, if_pos hmin] at h'
      exact absurd h' (by simp [CInt.int64Min])
    · rw [if_neg hmax, if_neg hmin]

/-- The sync socket is there, or is created without any call failing. -/
def SyncSocketReady (env : SyncSocketEnv) (d : Daemon) : Prop :=
  0 ≤ d.socket.syncSock ∨
    env.create.socket.toBool = true ∧ env.create.reuseaddr.toBool = true ∧
      (d.cli.familyPreference = 2 → env.create.v6only.toBool = true) ∧ env.reuseaddr.toBool = true

/-- The conditions under which an attempt sends its request.  `errno` has to be clear when the
attempt starts, because nothing clears it before the port is tested. -/
structure RequestSent (port : CString) (env : SyncEnv) (d : Daemon) : Prop where
  errno : d.errno = 0
  socket : SyncSocketReady env.socket d
  port_pos : 1 ≤ (strtol port).value
  port_le : (strtol port).value ≤ 65535
  address : env.getaddrinfo.toBool = true
  timeout : env.setsockopt.toBool = true
  sent : env.sendto.toBool = true

theorem getSyncSocket_ready_iff (env : SyncSocketEnv) (d : Daemon) :
    0 ≤ (getSyncSocket env d).ret ∧ (getSyncSocket env d).state.errno = 0 ↔
      d.errno = 0 ∧ SyncSocketReady env d := by
  unfold getSyncSocket SyncSocketReady
  by_cases hcached : 0 ≤ d.socket.syncSock
  · simp [hcached]
  by_cases hfamily : d.cli.familyPreference = 2
  · unfold network6CreateSocket
    cases env.create.socket with
    | error e => simp [hcached, hfamily]
    | ok fd =>
      have hfd : ¬ (fd : ℤ) < 0 := by omega
      simp [hcached, hfamily, hfd, sys_errno_eq_zero_iff, and_assoc]
  · unfold network4CreateSocket
    cases env.create.socket with
    | error e => simp [hcached, hfamily]
    | ok fd =>
      have hfd : ¬ (fd : ℤ) < 0 := by omega
      simp [hcached, hfamily, hfd, sys_errno_eq_zero_iff, and_assoc]

/-- The port test passes exactly for a port in range, `errno` being clear. -/
theorem portTest_iff (port : CString) (errno : ℤ) :
    ¬ ((strtol port).value < 1 ∨ (strtol port).value > 65535 ∨
        (if (strtol port).erange = true then ERANGE else errno) ≠ 0) ↔
      1 ≤ (strtol port).value ∧ (strtol port).value ≤ 65535 ∧ errno = 0 := by
  push Not
  constructor
  · rintro ⟨hpos, hle, herrno⟩
    rw [strtol_erange hle hpos] at herrno
    exact ⟨hpos, hle, herrno⟩
  · rintro ⟨hpos, hle, herrno⟩
    rw [strtol_erange hle hpos]
    exact ⟨hpos, hle, herrno⟩

/-- A request is sent exactly under these conditions, at the time the clock gives. -/
theorem sendSyncRequest_ret (port : CString) (env : SyncEnv) (d : Daemon) :
    (RequestSent port env d → ∃ sock, (sendSyncRequest port env d).ret =
        some (sock, ntpTimestampNow env.t1Clock)) ∧
      (¬ RequestSent port env d → (sendSyncRequest port env d).ret = none) := by
  have hready := getSyncSocket_ready_iff env.socket d
  set o := getSyncSocket env.socket d with ho
  -- the socket, the port test, then the three calls in their order
  by_cases hsock : o.ret < 0
  · refine ⟨fun h => ?_, fun _ => ?_⟩
    · exact absurd (hready.mpr ⟨h.errno, h.socket⟩).1 (not_le.mpr hsock)
    · unfold sendSyncRequest
      simp [← ho, hsock]
  have htest := portTest_iff port o.state.errno
  by_cases hport : (strtol port).value < 1 ∨ (strtol port).value > 65535 ∨
      (if (strtol port).erange = true then ERANGE else o.state.errno) ≠ 0
  · refine ⟨fun h => ?_, fun _ => ?_⟩
    · have herrno := (hready.mpr ⟨h.errno, h.socket⟩).2
      exact absurd hport (htest.mpr ⟨h.port_pos, h.port_le, herrno⟩)
    · unfold sendSyncRequest
      simp only [bind_ret, ← ho, if_neg hsock]
      exact (ite_ret _ _ _ _).trans (if_pos hport)
  obtain ⟨hpos, hle, herrno⟩ := htest.mp hport
  obtain ⟨herrno₀, hsocket⟩ := hready.mp ⟨not_lt.mp hsock, herrno⟩
  have hsent : RequestSent port env d ↔ env.getaddrinfo.toBool = true ∧
      env.setsockopt.toBool = true ∧ env.sendto.toBool = true :=
    ⟨fun h => ⟨h.address, h.timeout, h.sent⟩,
      fun h => ⟨herrno₀, hsocket, hpos, hle, h.1, h.2.1, h.2.2⟩⟩
  rw [hsent]
  -- past the port test only the three calls can fail
  unfold sendSyncRequest sendToPort getaddrinfo
  cases env.getaddrinfo with
  | error e => simp [← ho, hsock, hport]
  | ok addr =>
    cases env.setsockopt with
    | error e => simp [← ho, hsock, hport]
    | ok =>
      cases env.sendto with
      | error e => simp [← ho, hsock, hport]
      | ok => simp [← ho, hsock, hport]

/-! ### The checks on a reply -/

/-- A reply passes every check of `checkReply`, with this delay and this offset. -/
structure ReplyChecks (t1 t4 : NtpTimestamp) (pkt : NtpHeader) (delayUs : UInt64) (offsetUs : ℤ) :
    Prop where
  li : pkt.li ≤ 2
  mode : pkt.mode = ntpModeServer
  origTs : pkt.origTs = t1
  xmitTs : pkt.xmitTs ≠ ⟨0, 0⟩
  times : calculateDelayOffset t1 pkt.recvTs pkt.xmitTs t4 = some (delayUs, offsetUs)
  stratum_pos : 1 ≤ pkt.stratum
  stratum_le : pkt.stratum ≤ 15
  offset_le : |offsetUs| ≤ 1000000
  delay_le : delayUs ≤ 10000000

/-- The ways `checkReply` ends without accepting the reply, and what each does to the globals. -/
inductive RejectExit (sock : ℤ) (t1 : NtpTimestamp) (pkt : NtpHeader) :
    DProc ℤ → (Globals → Globals) → Prop
  | reject : RejectExit sock t1 pkt (rejectReply sock) id
  | demote (change : Globals → Globals)
      (hchange : change = Globals.unreachable ∨ change = Globals.unsynced)
      (hvalid : pkt.mode = ntpModeServer ∧ pkt.origTs = t1 ∧ pkt.xmitTs ≠ ⟨0, 0⟩) :
      RejectExit sock t1 pkt (demoteReply sock change) change

theorem handleLeapIndicator_ret_eq_false_iff (pkt : NtpHeader) (env : LeapScheduleEnv)
    (d : Daemon) : (handleLeapIndicator pkt.li env d).ret = false ↔ pkt.li ≤ 2 := by
  rw [handleLeapIndicator_ret]
  rcases li_cases pkt with h | h | h | h <;> rw [h] <;> decide

theorem abs_gt_maxDist_iff (offsetUs : ℤ) :
    (if offsetUs ≥ 0 then offsetUs else -offsetUs) > maxDist ↔ ¬ |offsetUs| ≤ 1000000 := by
  unfold maxDist
  rw [abs_le]
  split_ifs <;> omega

theorem stratum_test_iff (s : UInt8) : s = 0 ∨ s > 15 ↔ ¬ (1 ≤ s ∧ s ≤ 15) := by
  rw [← UInt8.toNat_inj, gt_iff_lt, UInt8.lt_iff_toNat_lt, UInt8.le_iff_toNat_le,
    UInt8.le_iff_toNat_le]
  have h15 : (15 : UInt8).toNat = 15 := rfl
  have h1 : (1 : UInt8).toNat = 1 := rfl
  have h0 : (0 : UInt8).toNat = 0 := rfl
  omega

/-- A Kiss-o'-Death marker has leap indicator 3. -/
theorem ntpIsKod_of_li_le {pkt : NtpHeader} (h : pkt.li ≤ 2) : ntpIsKod pkt = false := by
  unfold ntpIsKod
  rcases li_cases pkt with hli | hli | hli | hli
  · simp [hli]
  · simp [hli]
  · simp [hli]
  · rw [hli] at h
    exact absurd h (by decide)

/-- A reply that passes the checks is accepted. -/
theorem checkReply_of_checks {t1 t4 : NtpTimestamp} {pkt : NtpHeader} {delayUs : UInt64}
    {offsetUs : ℤ} (h : ReplyChecks t1 t4 pkt delayUs offsetUs) (ip : CString) (sock : ℤ)
    (env : SyncEnv) :
    checkReply ip sock t1 t4 pkt env = (do
      let _ ← handleLeapIndicator pkt.li env.leapSchedule
      acceptReply ip sock pkt t4 delayUs offsetUs env) := by
  unfold checkReply
  refine bind_congr_ret fun d => ?_
  have hstratum : ¬ (pkt.stratum = 0 ∨ pkt.stratum > 15) := by
    rw [stratum_test_iff]
    exact not_not.mpr ⟨h.stratum_pos, h.stratum_le⟩
  have hoffset : ¬ (if offsetUs ≥ 0 then offsetUs else -offsetUs) > maxDist := by
    rw [abs_gt_maxDist_iff]
    exact not_not.mpr h.offset_le
  -- none of the tests fires
  rw [(handleLeapIndicator_ret_eq_false_iff _ _ _).mpr h.li, if_neg Bool.false_ne_true,
    if_neg (not_not.mpr h.mode), ntpIsKod_of_li_le h.li, if_neg Bool.false_ne_true,
    if_neg (not_not.mpr h.origTs)]
  unfold checkTimes
  rw [if_neg h.xmitTs, h.times]
  dsimp only
  rw [if_neg hstratum, if_neg hoffset, if_neg (not_lt.mpr h.delay_le)]

/-- A reply that fails a check leads to one of the exits. -/
theorem checkReply_of_not_checks {t1 t4 : NtpTimestamp} {pkt : NtpHeader}
    (h : ∀ delayUs offsetUs, ¬ ReplyChecks t1 t4 pkt delayUs offsetUs) (ip : CString) (sock : ℤ)
    (env : SyncEnv) :
    ∃ exit change, RejectExit sock t1 pkt exit change ∧
      checkReply ip sock t1 t4 pkt env = (do
        let _ ← handleLeapIndicator pkt.li env.leapSchedule
        exit) := by
  -- in the order of the checks; the first one that fails decides on the exit
  by_cases hli : pkt.li ≤ 2
  swap
  · refine ⟨_, _, .reject, bind_congr_ret fun d => if_pos ?_⟩
    rw [← handleLeapIndicator_ret_eq_false_iff pkt env.leapSchedule d] at hli
    exact Bool.eq_true_of_not_eq_false hli
  have hskip : ∀ d, (handleLeapIndicator pkt.li env.leapSchedule d).ret = false := fun d =>
    (handleLeapIndicator_ret_eq_false_iff _ _ _).mpr hli
  have hkod := ntpIsKod_of_li_le hli
  by_cases hvalid : pkt.mode = ntpModeServer ∧ pkt.origTs = t1 ∧ pkt.xmitTs ≠ ⟨0, 0⟩
  swap
  · refine ⟨_, _, .reject, bind_congr_ret fun d => ?_⟩
    rw [hskip]
    unfold checkTimes
    grind
  obtain ⟨hmode, horig, hxmit⟩ := id hvalid
  cases htimes : calculateDelayOffset t1 pkt.recvTs pkt.xmitTs t4 with
  | none =>
    refine ⟨_, _, .reject, bind_congr_ret fun d => ?_⟩
    simp [checkTimes, hskip, hmode, hkod, horig, hxmit, htimes]
  | some r =>
    obtain ⟨delayUs, offsetUs⟩ := r
    by_cases hstratum : pkt.stratum = 0 ∨ pkt.stratum > 15
    · refine ⟨_, _, .demote _ (.inl rfl) hvalid, bind_congr_ret fun d => ?_⟩
      simp [checkTimes, hskip, hmode, hkod, horig, hxmit, htimes, hstratum]
    by_cases hoffset : (if offsetUs ≥ 0 then offsetUs else -offsetUs) > maxDist
    · refine ⟨_, _, .demote _ (.inl rfl) hvalid, bind_congr_ret fun d => ?_⟩
      simp [checkTimes, hskip, hmode, hkod, horig, hxmit, htimes, hstratum, hoffset]
    by_cases hdelay : delayUs > 10000000
    · refine ⟨_, _, .demote _ (.inr rfl) hvalid, bind_congr_ret fun d => ?_⟩
      simp [checkTimes, hskip, hmode, hkod, horig, hxmit, htimes, hstratum, hoffset, hdelay]
    -- none of them failed, which `h` excludes
    rw [stratum_test_iff, not_not] at hstratum
    rw [abs_gt_maxDist_iff, not_not] at hoffset
    exact absurd ⟨hli, hmode, horig, hxmit, htimes, hstratum.1, hstratum.2, hoffset,
      not_lt.mp hdelay⟩ (h delayUs offsetUs)

theorem demoteReply_run (sock : ℤ) (change : Globals → Globals) (d : Daemon) :
    (demoteReply sock change d).ret = -1 ∧
      (demoteReply sock change d).state = { d with g := change d.g } ∧
      ExchangeTrace (demoteReply sock change d).trace := by
  have hreject := rejectReply_frame sock
  refine ⟨rfl, hreject.state _, ?_⟩
  exact ExchangeTrace.section.append (.of_locks (hreject.trace { d with g := change d.g }))

theorem RejectExit.run {sock : ℤ} {t1 : NtpTimestamp} {pkt : NtpHeader} {exit : DProc ℤ}
    {change : Globals → Globals} (h : RejectExit sock t1 pkt exit change) (d : Daemon) :
    (exit d).ret = -1 ∧ (exit d).state = { d with g := change d.g } ∧
      ExchangeTrace (exit d).trace := by
  cases h with
  | reject =>
    have hreject := rejectReply_frame sock
    exact ⟨rfl, hreject.state d, .of_locks (hreject.trace d)⟩
  | demote change hchange hvalid => exact demoteReply_run sock change d

/-! ### The reception -/

/-- The parse of a received datagram. -/
def SyncEnv.parse (env : SyncEnv) (dg : Datagram) (s : IdoState) : ParseResult :=
  parseNtpPacket dg.data (min dg.size bufferSize) env.stalePkt s

/-- The daemon once the server's entry in the peer pool is marked. -/
def Daemon.marked (d : Daemon) (ip port : CString) (env : SyncEnv) : Daemon :=
  { d with peerPool := markReachable ip port env.peerTime d.peerPool }

/-- The daemon once the leap indicator `li` is handled. -/
def Daemon.leapIndicated (d : Daemon) (li : UInt8) (env : SyncEnv) : Daemon :=
  { d with leap := d.leap.indicated li env.leapSchedule }

/-- From a received datagram on: the pool is marked, and a reply that parses is checked. -/
theorem processReply_run (ip port : CString) (sock : ℤ) (t1 : NtpTimestamp) (dg : Datagram)
    (env : SyncEnv) (d : Daemon) :
    ∃ d₁ : Daemon, d₁.eraseSocket = (d.marked ip port env).eraseSocket ∧
      processReply ip port sock t1 dg.data (min dg.size bufferSize) env d =
        let rest := if (env.parse dg d.ido).ok then
            checkReply ip sock t1 (ntpTimestampNow env.t4Clock) (env.parse dg d.ido).pkt.toNtpHeader
              env
          else rejectReply sock
        ⟨(rest d₁).ret, (rest d₁).state,
          [.lock .gMutex, .unlock .gMutex] ++ (rest d₁).trace⟩ := by
  have hclock := readTimestampNow_frame env.t4Clock fun _ => False
  -- the state in which the clock has been read
  set d₁ := (readTimestampNow env.t4Clock (d.marked ip port env)).state with hd₁
  have herase : d₁.eraseErrno = (d.marked ip port env).eraseErrno := hclock.state _
  have hido : d₁.ido = d.ido := (congrArg Daemon.ido herase :)
  refine ⟨d₁, (congrArg Daemon.eraseSocket herase :), ?_⟩
  -- parsing leaves the state of the negotiation as it was
  have hupdate : { d₁ with ido := (env.parse dg d.ido).ido } = d₁ := by
    unfold SyncEnv.parse
    rw [parseNtpPacket_ido, ← hido]
  have hparse : env.parse dg d₁.ido = env.parse dg d.ido := by rw [hido]
  have hrun : processReply ip port sock t1 dg.data (min dg.size bufferSize) env d =
      let rest := if !(env.parse dg d₁.ido).ok then rejectReply sock
        else checkReply ip sock t1 (readTimestampNow env.t4Clock (d.marked ip port env)).ret
          (env.parse dg d₁.ido).pkt.toNtpHeader env
      let d₂ := { d₁ with ido := (env.parse dg d₁.ido).ido }
      ⟨(rest d₂).ret, (rest d₂).state, [.lock .gMutex, .unlock .gMutex] ++
        ((readTimestampNow env.t4Clock (d.marked ip port env)).trace ++ (rest d₂).trace)⟩ := rfl
  rw [hrun, hparse, hupdate, readTimestampNow_ret, readTimestampNow_trace]
  cases (env.parse dg d.ido).ok <;> rfl

/-- A datagram that an attempt receives. -/
structure Received (port : CString) (env : SyncEnv) (d : Daemon) (dg : Datagram) : Prop where
  sent : RequestSent port env d
  datagram : env.recvfrom = .ok dg
  nonempty : 0 < dg.size

/-- The header of the parsed datagram. -/
def SyncEnv.header (env : SyncEnv) (dg : Datagram) (s : IdoState) : NtpHeader :=
  (env.parse dg s).pkt.toNtpHeader

/-- The reply in `dg` passes every check, with this delay and this offset. -/
structure ReplyAccepted (port : CString) (env : SyncEnv) (d : Daemon) (dg : Datagram)
    (delayUs : UInt64) (offsetUs : ℤ) : Prop where
  received : Received port env d dg
  parses : (env.parse dg d.ido).ok = true
  checks : ReplyChecks (ntpTimestampNow env.t1Clock) (ntpTimestampNow env.t4Clock)
    (env.header dg d.ido) delayUs offsetUs

/-- The ways a run of `sync_ntp_time` from `d` can go. -/
inductive SyncRun (ip port : CString) (env : SyncEnv) (d : Daemon) (o : Outcome Daemon Event ℤ) :
    Prop
  | unreceived (hnot : ∀ dg, ¬ Received port env d dg) (hret : o.ret = -1)
      (hstate : o.state.eraseSocket = d.eraseSocket) (htrace : ExchangeTrace o.trace)
  | unparsed (dg : Datagram) (hreceived : Received port env d dg)
      (hparse : (env.parse dg d.ido).ok = false) (hret : o.ret = -1)
      (hstate : o.state.eraseSocket = (d.marked ip port env).eraseSocket)
      (htrace : ExchangeTrace o.trace)
  | rejected (dg : Datagram) (hreceived : Received port env d dg)
      (hparse : (env.parse dg d.ido).ok = true)
      (hchecks : ∀ delayUs offsetUs, ¬ ReplyChecks (ntpTimestampNow env.t1Clock)
        (ntpTimestampNow env.t4Clock) (env.header dg d.ido) delayUs offsetUs)
      (sock : ℤ) (exit : DProc ℤ) (change : Globals → Globals)
      (hexit : RejectExit sock (ntpTimestampNow env.t1Clock) (env.header dg d.ido) exit change)
      (hret : o.ret = -1)
      (hstate : o.state.eraseSocket =
        { (d.marked ip port env).leapIndicated (env.header dg d.ido).li env with
          g := change d.g }.eraseSocket)
      (htrace : ExchangeTrace o.trace)
  | accepted (dg : Datagram) (delayUs : UInt64) (offsetUs : ℤ)
      (haccepted : ReplyAccepted port env d dg delayUs offsetUs)
      (sock : ℤ) (d₁ : Daemon) (tr₁ : List Event)
      (hstate : d₁.eraseSocket =
        ((d.marked ip port env).leapIndicated (env.header dg d.ido).li env).eraseSocket)
      (htrace : ExchangeTrace tr₁)
      (hrun : o =
        let rest := acceptReply ip sock (env.header dg d.ido) (ntpTimestampNow env.t4Clock) delayUs
          offsetUs env d₁
        ⟨rest.ret, rest.state, tr₁ ++ rest.trace⟩)

/-- A leap indicator changes only the leap-second state. -/
theorem handleLeapIndicator_run (li : UInt8) (env : SyncEnv) (d : Daemon) :
    (handleLeapIndicator li env.leapSchedule d).state.eraseSocket =
        (d.leapIndicated li env).eraseSocket ∧
      ExchangeTrace (handleLeapIndicator li env.leapSchedule d).trace := by
  have hframe := handleLeapIndicator_frame li env.leapSchedule
  constructor
  · have hleap := handleLeapIndicator_leap li env.leapSchedule d
    have h := congrArg (fun e : Daemon => { e with leap := d.leap.indicated li env.leapSchedule })
      (hframe.state d)
    unfold Daemon.leapIndicated
    rw [← hleap] at h ⊢
    exact (congrArg Daemon.eraseSocket h :)
  · refine .of_locks fun e he => ?_
    have hlocks := hframe.trace d e he
    -- only the mutex of the leap second is taken
    cases e with
    | lock m =>
      obtain rfl := List.mem_singleton.mp hlocks
      exact ⟨by simp [Event.InExchange], by decide⟩
    | unlock m =>
      obtain rfl := List.mem_singleton.mp hlocks
      exact ⟨by simp [Event.InExchange], by decide⟩
    | _ => exact hlocks.elim

theorem syncNtpTime_of_none {ip port : CString} {env : SyncEnv} {d : Daemon}
    (h : (sendSyncRequest port env d).ret = none) :
    syncNtpTime (some ip) (some port) env d =
      ⟨-1, (sendSyncRequest port env d).state, (sendSyncRequest port env d).trace⟩ := by
  show (sendSyncRequest port env >>= _) d = _
  rw [bind_run, h]
  exact congrArg (Outcome.mk _ _) (List.append_nil _)

theorem recvLen_pos_iff (dg : Datagram) : min dg.size bufferSize > 0 ↔ 0 < dg.size := by
  rw [gt_iff_lt, lt_min_iff]
  exact and_iff_left (by decide)

/-- What follows a request that was sent. -/
def receiveReply (ip port : CString) (sock : ℤ) (t1 : NtpTimestamp) (env : SyncEnv) : DProc ℤ :=
  match env.recvfrom with
  | .error _ => rejectReply sock
  | .ok dg =>
    if 0 < dg.size then processReply ip port sock t1 dg.data (min dg.size bufferSize) env
    else rejectReply sock

theorem syncNtpTime_of_some {ip port : CString} {env : SyncEnv} {d : Daemon} {sock : ℤ}
    {t1 : NtpTimestamp} (h : (sendSyncRequest port env d).ret = some (sock, t1)) :
    syncNtpTime (some ip) (some port) env d =
      let rest := receiveReply ip port sock t1 env
        (sys env.recvfrom (sendSyncRequest port env d).state).state
      ⟨rest.ret, rest.state, (sendSyncRequest port env d).trace ++ rest.trace⟩ := by
  show (sendSyncRequest port env >>= _) d = _
  rw [bind_run, h]
  unfold receiveReply
  cases env.recvfrom with
  | error e => rfl
  | ok dg =>
    by_cases hsize : 0 < dg.size
    · dsimp only
      rw [if_pos hsize]
      simp only [bind_run, sys_ret, if_pos ((recvLen_pos_iff dg).mpr hsize)]
      rfl
    · dsimp only
      rw [if_neg hsize]
      simp only [bind_run, sys_ret, if_neg (mt (recvLen_pos_iff dg).mp hsize)]
      rfl

section

variable {ip port : CString} {env : SyncEnv} {d : Daemon} {dg : Datagram} {tr₁ : List Event}

/-- From the check of a parsed reply on, in a state that differs from `d` by the mark. -/
theorem SyncRun.of_checkReply (hreceived : Received port env d dg)
    (hparse : (env.parse dg d.ido).ok = true) {d₁ : Daemon}
    (hstate : d₁.eraseSocket = (d.marked ip port env).eraseSocket) (htrace : ExchangeTrace tr₁)
    (sock : ℤ) :
    let rest := checkReply ip sock (ntpTimestampNow env.t1Clock) (ntpTimestampNow env.t4Clock)
      (env.header dg d.ido) env d₁
    SyncRun ip port env d ⟨rest.ret, rest.state, tr₁ ++ rest.trace⟩ := by
  intro rest
  set pkt := env.header dg d.ido with hpkt
  -- the leap indicator is handled before any check is made
  obtain ⟨hleap, hleapTrace⟩ := handleLeapIndicator_run pkt.li env d₁
  set d₂ := (handleLeapIndicator pkt.li env.leapSchedule d₁).state with hd₂
  have hstate₂ : d₂.eraseSocket = ((d.marked ip port env).leapIndicated pkt.li env).eraseSocket :=
    hleap.trans (congrArg (fun e : Daemon => (e.leapIndicated pkt.li env).eraseSocket) hstate :)
  have htrace₂ := htrace.append hleapTrace
  by_cases hchecks : ∃ delayUs offsetUs, ReplyChecks (ntpTimestampNow env.t1Clock)
      (ntpTimestampNow env.t4Clock) pkt delayUs offsetUs
  · -- either all checks pass, or one of the exits is taken
    obtain ⟨delayUs, offsetUs, hchecks⟩ := hchecks
    have haccepted : ReplyAccepted port env d dg delayUs offsetUs := ⟨hreceived, hparse, hchecks⟩
    have hrun : rest =
        let o := acceptReply ip sock pkt (ntpTimestampNow env.t4Clock) delayUs offsetUs env d₂
        ⟨o.ret, o.state, (handleLeapIndicator pkt.li env.leapSchedule d₁).trace ++ o.trace⟩ :=
      congrFun (checkReply_of_checks hchecks ip sock env) d₁
    refine .accepted dg delayUs offsetUs haccepted sock d₂ _ hstate₂ htrace₂ ?_
    rw [hrun]
    dsimp only
    rw [List.append_assoc]
  · push Not at hchecks
    obtain ⟨exit, change, hexit, heq⟩ := checkReply_of_not_checks hchecks ip sock env
    obtain ⟨hexitRet, hexitState, hexitTrace⟩ := hexit.run d₂
    have hrun : rest = ⟨(exit d₂).ret, (exit d₂).state,
        (handleLeapIndicator pkt.li env.leapSchedule d₁).trace ++ (exit d₂).trace⟩ :=
      congrFun heq d₁
    rw [hrun]
    refine .rejected dg hreceived hparse hchecks sock exit change hexit hexitRet ?_ ?_
    · exact (congrArg Daemon.eraseSocket hexitState).trans
        (congrArg (fun e : Daemon => { e with g := change e.g }) hstate₂ :)
    · have h := htrace₂.append hexitTrace
      rwa [List.append_assoc] at h

/-- From a received datagram on, in a state that differs from `d` by `errno` and the sockets. -/
theorem SyncRun.of_processReply (hreceived : Received port env d dg) {d₁ : Daemon}
    (hstate : d₁.eraseSocket = d.eraseSocket) (htrace : ExchangeTrace tr₁) (sock : ℤ) :
    let rest := processReply ip port sock (ntpTimestampNow env.t1Clock) dg.data
      (min dg.size bufferSize) env d₁
    SyncRun ip port env d ⟨rest.ret, rest.state, tr₁ ++ rest.trace⟩ := by
  intro rest
  obtain ⟨d₂, hd₂, hprocess⟩ :=
    processReply_run ip port sock (ntpTimestampNow env.t1Clock) dg env d₁
  have hmarked : d₂.eraseSocket = (d.marked ip port env).eraseSocket :=
    hd₂.trans (congrArg (fun e : Daemon => (e.marked ip port env).eraseSocket) hstate :)
  have hido : d₁.ido = d.ido := (congrArg Daemon.ido hstate :)
  have htrace₂ := htrace.append ExchangeTrace.section
  rw [hido] at hprocess
  rw [show rest = _ from hprocess, ← List.append_assoc]
  -- a datagram that does not parse, or one that is checked
  cases hparse : (env.parse dg d.ido).ok with
  | false =>
    have hreject := rejectReply_frame sock
    refine .unparsed dg hreceived hparse rfl ?_ (htrace₂.append (.of_locks (hreject.trace d₂)))
    exact (congrArg Daemon.eraseSocket (hreject.state _)).trans hmarked
  | true => exact .of_checkReply hreceived hparse hmarked htrace₂ sock

end

/-- Every run goes one of these ways. -/
theorem syncNtpTime_cases (ip port : CString) (env : SyncEnv) (d : Daemon) :
    SyncRun ip port env d (syncNtpTime (some ip) (some port) env d) := by
  have hsend := sendSyncRequest_frame port env
  have hstate : (sendSyncRequest port env d).state.eraseSocket = d.eraseSocket := hsend.state d
  have htrace : ExchangeTrace (sendSyncRequest port env d).trace := .of_locks (hsend.trace d)
  obtain ⟨hsent, hunsent⟩ := sendSyncRequest_ret port env d
  -- without a request there is nothing to receive
  by_cases hrequest : RequestSent port env d
  swap
  · rw [syncNtpTime_of_none (hunsent hrequest)]
    exact .unreceived (fun dg h => hrequest h.sent) rfl hstate htrace
  obtain ⟨sock, hret⟩ := hsent hrequest
  rw [syncNtpTime_of_some hret]
  set d₁ := (sys env.recvfrom (sendSyncRequest port env d).state).state
  have hd₁ : d₁.eraseSocket = d.eraseSocket := ((sys_requestStep env.recvfrom).state _).trans hstate
  -- the exits where nothing was received
  have hnothing : (∀ dg, ¬ Received port env d dg) → SyncRun ip port env d
      ⟨(rejectReply sock d₁).ret, (rejectReply sock d₁).state,
        (sendSyncRequest port env d).trace ++ (rejectReply sock d₁).trace⟩ := by
    intro hnot
    have hreject := rejectReply_frame sock
    refine .unreceived hnot rfl ?_ (htrace.append (.of_locks (hreject.trace d₁)))
    exact (congrArg Daemon.eraseSocket (hreject.state d₁)).trans hd₁
  unfold receiveReply
  cases hrecv : env.recvfrom with
  | error e =>
    refine hnothing fun dg h => ?_
    cases hrecv.symm.trans h.datagram
  | ok dg =>
    dsimp only
    split_ifs with hsize
    · exact .of_processReply ⟨hrequest, hrecv, hsize⟩ hd₁ htrace sock
    · refine hnothing fun dg' h => ?_
      obtain rfl : dg = dg' := Except.ok.inj (hrecv.symm.trans h.datagram)
      exact hsize h.nonempty

end Dntpd
