import Dntpd.Socket
import Dntpd.Spec.LeapSecond
import Dntpd.Spec.NtpPacket
import Dntpd.Spec.Threads

/-!
# What the request handler of the listener sends

`admitRequest` changes nothing, and admits a request exactly under the conditions `Admitted` lists
(`admitRequest_ret`).  From there on the handler makes at most one attempt to answer; only when that
attempt succeeds may a broadcast copy follow, and then the client is recorded (`Served`).
-/

namespace Dntpd

open Proc

/-! ### Network calls -/

theorem sends_eq_nil {α : Type} {keep : Daemon → Daemon} {E : Event → Prop} {p : DProc α}
    (hp : Frame keep E p) (hE : ∀ e, E e → e.sent = none) (d : Daemon) : sends (p d).trace = [] :=
  hp.filterMap_eq_nil hE d

theorem network4CreateSocket_frame (env : SocketEnv) :
    Frame Daemon.eraseErrno (fun _ => False) (network4CreateSocket env) := by
  unfold network4CreateSocket
  refine .bind (sys_frame _ _) fun r => ?_
  cases r with
  | error e => exact .pure _
  | ok fd => exact .bind (sys_frame _ _) fun _ => .pure _

@[simp] theorem sends_network4CreateSocket (env : SocketEnv) (d : Daemon) :
    sends (network4CreateSocket env d).trace = [] :=
  sends_eq_nil (network4CreateSocket_frame env) (fun _ he => he.elim) d

@[simp] theorem network4CreateSocket_mode (env : SocketEnv) (d : Daemon) :
    (network4CreateSocket env d).state.mode = d.mode :=
  (congrArg Daemon.mode ((network4CreateSocket_frame env).state d) :)

@[simp] theorem network4CreateSocket_cli (env : SocketEnv) (d : Daemon) :
    (network4CreateSocket env d).state.cli = d.cli :=
  (congrArg Daemon.cli ((network4CreateSocket_frame env).state d) :)

@[simp] theorem sends_network4CloseSocket (sock : ℤ) (d : Daemon) :
    sends (network4CloseSocket sock d).trace = [] := by
  unfold network4CloseSocket
  rw [ite_run]
  split_ifs <;> rfl

@[simp] theorem network4CloseSocket_state (sock : ℤ) (d : Daemon) :
    (network4CloseSocket sock d).state = d := by
  unfold network4CloseSocket
  rw [ite_run]
  split_ifs <;> rfl

/-- A call on a socket that was created is a plain `sendto`. -/
theorem network4Sendto_of_nonneg {sock : ℤ} (h : ¬ sock < 0) (sender : Sender)
    (bytes : List UInt8) (dest : SockAddrIn) (r : Except Errno Unit) :
    network4Sendto sender sock bytes dest r = sendto sender bytes dest r := by
  unfold network4Sendto
  exact if_neg h

@[simp] theorem sendto_mode (sender : Sender) (bytes : List UInt8) (dest : SockAddrIn)
    (r : Except Errno Unit) (d : Daemon) : (sendto sender bytes dest r d).state.mode = d.mode :=
  (congrArg Daemon.mode ((sendto_frame sender bytes dest r).state d) :)

@[simp] theorem sendto_cli (sender : Sender) (bytes : List UInt8) (dest : SockAddrIn)
    (r : Except Errno Unit) (d : Daemon) : (sendto sender bytes dest r d).state.cli = d.cli :=
  (congrArg Daemon.cli ((sendto_frame sender bytes dest r).state d) :)

/-! ### The broadcast copy -/

/-- A broadcast copy of `response`, if one is sent: only in broadcast mode. -/
theorem sends_sendBroadcastResponse (response : List UInt8) (env : BroadcastEnv) (d : Daemon) :
    sends (sendBroadcastResponse response env d).trace = [] ∨
      d.cli.broadcastMode ≠ 0 ∧ ∃ dest ok, sends (sendBroadcastResponse response env d).trace =
        [(.sendBroadcastResponse, dest, response, ok)] := by
  unfold sendBroadcastResponse
  by_cases hmode : d.cli.broadcastMode = 0
  · left
    simp [hmode]
  -- the interval since the last broadcast, the socket and its option, in this order
  by_cases hnow : d.cli.broadcastInterval > 0 ∧
      env.now - d.socket.lastBroadcast < d.cli.broadcastInterval
  · left
    simp [hmode, hnow]
  by_cases hsock : (network4CreateSocket env.socket d).ret < 0
  · left
    simp [hmode, hnow, hsock]
  cases henable : env.enableBroadcast with
  | error e =>
    left
    simp [hmode, hnow, hsock]
  | ok =>
    right
    refine ⟨hmode, network4SetBroadcastAddr d.cli.broadcastAddr ntpPort, env.sendto.toBool, ?_⟩
    by_cases hsent : callStatus env.sendto < 0
    · simp [hmode, hnow, hsock, network4Sendto_of_nonneg hsock, hsent, Event.sent]
    · simp [hmode, hnow, hsock, network4Sendto_of_nonneg hsock, hsent, Event.sent]

/-! ### Answering -/

/-- The ways a run from the built response on can end, by what it did to the mode handler's tables
and what it sent: nothing is sent, or the response could not be sent, or it was sent, perhaps with a
broadcast copy, and the client was recorded.  `broadcasting` is the condition of the copy. -/
inductive Served (ip : CString) (now : ℤ) (response : List UInt8) (broadcasting : Prop)
    (before after : ModeState) (sent : List (Sender × SockAddrIn × List UInt8 × Bool)) : Prop
  | silent (htable : after = before) (hsent : sent = [])
  | failed (dest : SockAddrIn) (htable : after = before)
      (hsent : sent = [(.handlePeerRequestThread, dest, response, false)])
  | answered (dest : SockAddrIn) (htable : after = rateLimitUpdate before (some ip) now)
      (hsent : sent = [(.handlePeerRequestThread, dest, response, true)])
  | copied (dest dest' : SockAddrIn) (ok : Bool) (hcopy : broadcasting)
      (htable : after = rateLimitUpdate before (some ip) now)
      (hsent : sent = [(.handlePeerRequestThread, dest, response, true),
        (.sendBroadcastResponse, dest', response, ok)])

/-- The daemon without `errno` and its sockets. -/
def Daemon.eraseSocket (d : Daemon) : Daemon := { d with errno := 0, socket := ⟨-1, -1, 0⟩ }

theorem network4Call_frame {α : Type} {p : DProc α} {E : Event → Prop}
    (hp : Frame Daemon.eraseErrno E p) : Frame Daemon.eraseSocket (fun _ => True) p :=
  hp.mono Daemon.eraseSocket fun _ _ => trivial

theorem network4CloseSocket_frame (sock : ℤ) :
    Frame Daemon.eraseErrno (fun _ => True) (network4CloseSocket sock) :=
  .ite (.emit trivial) (.pure _)

theorem network4Sendto_frame (sender : Sender) (sock : ℤ) (bytes : List UInt8) (dest : SockAddrIn)
    (r : Except Errno Unit) :
    Frame Daemon.eraseErrno (fun _ => True) (network4Sendto sender sock bytes dest r) :=
  .ite (.pure _) (sendto_frame _ _ _ _)

theorem sendBroadcastResponse_frame (response : List UInt8) (env : BroadcastEnv) :
    Frame Daemon.eraseSocket (fun _ => True) (sendBroadcastResponse response env) := by
  have hclose := fun sock => network4Call_frame (network4CloseSocket_frame sock)
  unfold sendBroadcastResponse
  refine .bind .read fun d => .ite (.pure _) (.ite (.pure _) ?_)
  refine .bind (network4Call_frame (network4CreateSocket_frame _)) fun sock => ?_
  refine .ite (.pure _) (.bind (network4Call_frame (sys_frame _ fun _ => False)) fun r => ?_)
  cases r with
  | error e => exact .bind (hclose _) fun _ => .pure _
  | ok =>
    refine .bind (network4Call_frame (network4Sendto_frame _ _ _ _ _)) fun sent => ?_
    refine .bind (hclose _) fun _ => .ite (.pure _) ?_
    exact .bind (.update fun _ => rfl) fun _ => .pure _

@[simp] theorem sendBroadcastResponse_mode (response : List UInt8) (env : BroadcastEnv)
    (d : Daemon) : (sendBroadcastResponse response env d).state.mode = d.mode :=
  (congrArg Daemon.mode ((sendBroadcastResponse_frame response env).state d) :)

/-- The answer leaves the leap-second state alone. -/
theorem sendResponse_frame (responseMode : UInt8) (ip port : CString) (pkt : NtpHeader)
    (env : RequestEnv) :
    Frame Daemon.leap (fun _ => True) (sendResponse responseMode ip port pkt env) := by
  have hcall : ∀ {α : Type} {p : DProc α} {E : Event → Prop}, Frame Daemon.eraseErrno E p →
      Frame Daemon.leap (fun _ => True) p := fun hp => hp.mono Daemon.leap fun _ _ => trivial
  have hquery : ∀ {α : Type} {p : DProc α}, ModeQuery p → Frame Daemon.leap (fun _ => True) p :=
    fun hp => hp.mono Daemon.leap fun _ _ => trivial
  have hbroadcast : ∀ response, Frame Daemon.leap (fun _ => True)
      (sendBroadcastResponse response env.broadcast) := fun response =>
    (sendBroadcastResponse_frame _ _).mono Daemon.leap fun _ _ => trivial
  have hdeliver : ∀ response, Frame Daemon.leap (fun _ => True)
      (deliverResponse responseMode ip port response env) := by
    intro response
    unfold deliverResponse
    refine .bind (.update fun _ => rfl) fun _ => ?_
    -- no address, no socket, or an answer that was sent
    split
    · exact .pure _
    · refine .bind (hcall (network4CreateSocket_frame _)) fun sock => .ite (.pure _) ?_
      refine .bind (hcall (network4Sendto_frame _ _ _ _ _)) fun sent => ?_
      refine .bind (hcall (network4CloseSocket_frame _)) fun _ => .ite (.pure _) ?_
      exact .ite (.bind (hbroadcast _) fun _ => .update fun _ => rfl) (.update fun _ => rfl)
  unfold sendResponse
  refine .bind (hcall (readTimestampNow_frame _ fun _ => True)) fun t2 => ?_
  refine .bind (.emit trivial) fun _ => .bind .read fun d => ?_
  refine .bind (hquery modeGetDefaultStratum_frame) fun stratum => ?_
  refine .bind (hquery modeGetDefaultRefId_frame) fun refId => ?_
  refine .bind (hquery modeGetDefaultLi_frame) fun li => .bind (.emit trivial) fun _ => ?_
  exact .bind (hcall (readTimestampNow_frame _ fun _ => True)) fun t3 => hdeliver _

theorem deliverResponse_served (responseMode : UInt8) (ip port : CString) (response : List UInt8)
    (env : RequestEnv) (d : Daemon) :
    Served ip env.rateUpdateTime response
      (responseMode = ntpModeBroadcast ∧ d.cli.broadcastMode ≠ 0) d.mode
      (deliverResponse responseMode ip port response env d).state.mode
      (sends (deliverResponse responseMode ip port response env d).trace) := by
  set d' : Daemon := { d with errno := if (strtoul port).erange then ERANGE else 0 } with hd'
  unfold deliverResponse
  cases haddr : (parsePort port).bind (network4ParseAddress ip) with
  | none => exact .silent rfl rfl
  | some dest =>
    -- no socket, no datagram; with one, `sendto` decides
    by_cases hsock : (network4CreateSocket env.socket d').ret < 0
    · exact .silent (by simp [← hd', hsock]; rfl) (by simp [← hd', hsock])
    have hsendto := fun r => network4Sendto_of_nonneg hsock .handlePeerRequestThread response dest r
    cases hsent : env.sendto with
    | error e =>
      exact .failed dest (by simp [← hd', hsock, hsendto]; rfl)
        (by simp [← hd', hsock, hsendto, Event.sent, Except.toBool])
    | ok =>
      -- in broadcast mode a copy may follow the answer
      by_cases hmode : responseMode = ntpModeBroadcast
      · rcases sends_sendBroadcastResponse response env.broadcast
          (sendto .handlePeerRequestThread response dest (.ok ())
            (network4CreateSocket env.socket d').state).state with hnone | ⟨hbm, dest', ok, hone⟩
        · exact .answered dest (by simp [← hd', hsock, hsendto, hmode]; rfl)
            (by simp [← hd', hsock, hsendto, hmode, Event.sent, Except.toBool, hnone])
        · exact .copied dest dest' ok ⟨hmode, by simpa [hd'] using hbm⟩
            (by simp [← hd', hsock, hsendto, hmode]; rfl)
            (by simp [← hd', hsock, hsendto, hmode, Event.sent, Except.toBool, hone])
      · exact .answered dest (by simp [← hd', hsock, hsendto, hmode]; rfl)
          (by simp [← hd', hsock, hsendto, hmode, Event.sent, Except.toBool])

/-- The response to `pkt` of a daemon in the state `d`. -/
def responseTo (d : Daemon) (responseMode : UInt8) (pkt : NtpHeader) (env : RequestEnv) :
    List UInt8 :=
  peerResponse d.g responseMode (modeGetDefaultLi d).ret (modeGetDefaultStratum d).ret
    (modeGetDefaultRefId d).ret pkt (ntpTimestampNow env.t2Clock) (ntpTimestampNow env.t3Clock)

theorem responseTo_congr {d d' : Daemon} (hg : d'.g = d.g) (hmode : d'.mode = d.mode) :
    responseTo d' = responseTo d := by
  funext responseMode pkt env
  simp only [responseTo, modeGetDefaultLi_run, modeGetDefaultStratum_run, modeGetDefaultRefId_run,
    hg, hmode]

/-- The response is built from the server's variables and sent as `deliverResponse` does. -/
theorem sendResponse_served (responseMode : UInt8) (ip port : CString) (pkt : NtpHeader)
    (env : RequestEnv) (d : Daemon) :
    Served ip env.rateUpdateTime (responseTo d responseMode pkt env)
      (responseMode = ntpModeBroadcast ∧ d.cli.broadcastMode ≠ 0) d.mode
      (sendResponse responseMode ip port pkt env d).state.mode
      (sends (sendResponse responseMode ip port pkt env d).trace) := by
  set d₁ := (readTimestampNow env.t2Clock d).state with hd₁
  set d₂ := (readTimestampNow env.t3Clock d₁).state with hd₂
  -- the readings of the clock set no more than `errno`
  have h₁ : d₁.eraseErrno = d.eraseErrno :=
    (readTimestampNow_frame env.t2Clock fun _ => True).state d
  have h₂ : d₂.eraseErrno = d₁.eraseErrno :=
    (readTimestampNow_frame env.t3Clock fun _ => True).state d₁
  have h := deliverResponse_served responseMode ip port (responseTo d₁ responseMode pkt env) env d₂
  have hmode : d₂.mode = d.mode := (congrArg Daemon.mode (h₂.trans h₁) :)
  have hcli : d₂.cli = d.cli := (congrArg Daemon.cli (h₂.trans h₁) :)
  have hg₁ : d₁.g = d.g := (congrArg Daemon.g h₁ :)
  have hmode₁ : d₁.mode = d.mode := (congrArg Daemon.mode h₁ :)
  rw [← responseTo_congr hg₁ hmode₁, ← hmode, ← hcli]
  unfold sendResponse lock unlock
  simpa [← hd₁, ← hd₂, Event.sent, responseTo] using h

/-- A response can be delivered: the address and the port parse, a socket is to be had, and the call
succeeds. -/
structure Deliverable (ip port : CString) (env : RequestEnv) : Prop where
  address : ((parsePort port).bind (network4ParseAddress ip)).isSome = true
  socket : env.socket.socket.toBool = true
  sendto : env.sendto.toBool = true

theorem network4CreateSocket_ret_neg_iff (env : SocketEnv) (d : Daemon) :
    (network4CreateSocket env d).ret < 0 ↔ env.socket.toBool = false := by
  unfold network4CreateSocket
  cases env.socket with
  | error e => simp [sys]
  | ok fd =>
    have hfd : ¬ (fd : ℤ) < 0 := by omega
    simp [hfd]

theorem replies_deliverResponse_eq_nil_iff (responseMode : UInt8) (ip port : CString)
    (response : List UInt8) (env : RequestEnv) (d : Daemon) :
    replies (deliverResponse responseMode ip port response env d).trace = [] ↔
      ¬ Deliverable ip port env := by
  set d' : Daemon := { d with errno := if (strtoul port).erange then ERANGE else 0 } with hd'
  unfold deliverResponse replies
  cases haddr : (parsePort port).bind (network4ParseAddress ip) with
  | none =>
    refine iff_of_true rfl fun h => ?_
    have := h.address
    rw [haddr] at this
    cases this
  | some dest =>
    by_cases hsock : (network4CreateSocket env.socket d').ret < 0
    · refine iff_of_true (by simp [← hd', hsock]) fun h => ?_
      rw [network4CreateSocket_ret_neg_iff, h.socket] at hsock
      cases hsock
    have hcreated : env.socket.socket.toBool = true := by
      rwa [network4CreateSocket_ret_neg_iff, Bool.not_eq_false] at hsock
    have hsendto := fun r => network4Sendto_of_nonneg hsock .handlePeerRequestThread response dest r
    cases hsent : env.sendto with
    | error e =>
      refine iff_of_true (by simp [← hd', hsock, hsendto, Event.sent, Except.toBool]) fun h => ?_
      have := h.sendto
      rw [hsent] at this
      cases this
    | ok =>
      have hdeliverable : Deliverable ip port env :=
        ⟨by rw [haddr]; rfl, hcreated, by rw [hsent]; rfl⟩
      refine iff_of_false ?_ (not_not.mpr hdeliverable)
      by_cases hmode : responseMode = ntpModeBroadcast
      · simp [← hd', hsock, hsendto, hmode, Event.sent, Except.toBool]
      · simp [← hd', hsock, hsendto, hmode, Event.sent, Except.toBool]

/-- The response is delivered whatever the daemon's state is. -/
theorem replies_sendResponse_eq_nil_iff (responseMode : UInt8) (ip port : CString)
    (pkt : NtpHeader) (env : RequestEnv) (d : Daemon) :
    replies (sendResponse responseMode ip port pkt env d).trace = [] ↔
      ¬ Deliverable ip port env := by
  set d₁ := (readTimestampNow env.t2Clock d).state with hd₁
  set d₂ := (readTimestampNow env.t3Clock d₁).state with hd₂
  rw [← replies_deliverResponse_eq_nil_iff responseMode ip port
    (responseTo d₁ responseMode pkt env) env d₂]
  unfold sendResponse lock unlock replies
  simp [← hd₁, ← hd₂, Event.sent, responseTo]

/-! ### Admission -/

/-- The conditions under which a parsed request is answered. -/
structure Admitted (buffer : Mem) (size : ℕ) (ip : CString) (pkt : NtpHeader) (now : ℤ)
    (d : Daemon) (responseMode : UInt8) : Prop where
  version : pkt.vn = ntpVn4
  auth : (validatePacketAuthentication (some buffer) size d).ret ≠ -ENOTSUP
  acl : (aclCheckClient (some ip) pkt.mode d).ret = true
  rate : (rateLimitCheck (some ip) now d).ret = 0
  mode : responseModeFor d.cli.broadcastMode pkt.mode = some responseMode
  ratio : (validatePacketMode responseMode size 48 d).ret = 0

theorem validateNtpVersion_eq_zero (version : UInt8) :
    validateNtpVersion version = 0 ↔ version = ntpVn4 := by
  unfold validateNtpVersion
  split_ifs with h
  · exact ⟨fun _ => h, fun _ => rfl⟩
  · exact ⟨fun h0 => absurd h0 (by decide), fun hv => absurd hv h⟩

theorem controlAllowed_frame (mode : UInt8) : ModeQuery (controlAllowed mode) := by
  unfold controlAllowed
  exact .ite (.bind modeHandlerGetConfig_frame fun _ => .pure _) (.pure _)

theorem admitRequest_frame (buffer : Mem) (size : ℕ) (ip : CString) (pkt : NtpHeader)
    (env : RequestEnv) : ModeQuery (admitRequest buffer size ip pkt env) := by
  unfold admitRequest
  refine .ite (.pure _) (.bind (validatePacketAuthentication_frame _ _) fun auth => ?_)
  refine .ite (.pure _) (.bind (controlAllowed_frame _) fun control => ?_)
  refine .ite (.pure _) (.bind (aclCheckClient_frame _ _) fun acl => ?_)
  refine .ite (.pure _) (.bind (rateLimitCheck_frame _ _) fun rate => ?_)
  refine .ite (.pure _) (.bind .read fun d => ?_)
  split
  · exact .pure _
  · exact .bind (validatePacketMode_frame _ _ _) fun _ => .pure _

/-- A mode that has a response mode passes the test on control requests. -/
theorem controlAllowed_of_responseModeFor {broadcastMode : ℤ} {mode responseMode : UInt8}
    (h : responseModeFor broadcastMode mode = some responseMode) (d : Daemon) :
    (controlAllowed mode d).ret = true := by
  have hmode : ¬ (mode = ntpModeControl ∨ mode = ntpModePrivate) := by
    rintro (rfl | rfl)
    · cases h
    · cases h
  unfold controlAllowed
  rw [if_neg hmode]
  rfl

/-- A request is admitted under exactly these conditions. -/
theorem admitRequest_ret (buffer : Mem) (size : ℕ) (ip : CString) (pkt : NtpHeader)
    (env : RequestEnv) (d : Daemon) (responseMode : UInt8) :
    (admitRequest buffer size ip pkt env d).ret = some responseMode ↔
      Admitted buffer size ip pkt env.rateCheckTime d responseMode := by
  have hcontrol : (controlAllowed pkt.mode d).state = d := (controlAllowed_frame pkt.mode).state d
  cases hmode : responseModeFor d.cli.broadcastMode pkt.mode with
  | none =>
    have hnone : (admitRequest buffer size ip pkt env d).ret = none := by
      unfold admitRequest
      simp [hcontrol, hmode]
    rw [hnone]
    refine ⟨nofun, fun h => ?_⟩
    have := h.mode
    rw [hmode] at this
    exact this
  | some m =>
    have hctl := controlAllowed_of_responseModeFor hmode d
    have hret : (admitRequest buffer size ip pkt env d).ret = some responseMode ↔
        pkt.vn = ntpVn4 ∧ (validatePacketAuthentication (some buffer) size d).ret ≠ -ENOTSUP ∧
          (aclCheckClient (some ip) pkt.mode d).ret = true ∧
          (rateLimitCheck (some ip) env.rateCheckTime d).ret = 0 ∧
          (validatePacketMode m size 48 d).ret = 0 ∧ m = responseMode := by
      unfold admitRequest
      simp [hcontrol, hctl, hmode, validateNtpVersion_eq_zero]
    rw [hret]
    constructor
    · rintro ⟨hvn, hauth, hacl, hrate, hratio, rfl⟩
      exact ⟨hvn, hauth, hacl, hrate, hmode, hratio⟩
    · intro h
      have hm : m = responseMode := Option.some_injective _ (hmode.symm.trans h.mode)
      exact ⟨h.version, h.auth, h.acl, h.rate, hm ▸ h.ratio, hm⟩

/-! ### The handler -/

/-- The request is parsed and admitted with this response mode, and its leap indicator is not 3: the
conditions under which a response is built. -/
structure Handled (data : PeerRequestData) (env : RequestEnv) (d : Daemon) (buffer : Mem)
    (responseMode : UInt8) : Prop where
  received : data.buffer = some buffer
  ip : data.ip ≠ []
  port : data.port ≠ []
  parses : (parseNtpPacket buffer data.size env.stalePkt d.ido).ok = true
  admitted : Admitted buffer data.size data.ip (readHeader buffer) env.rateCheckTime d responseMode
  li : (readHeader buffer).li ≠ 3

section

variable {data : PeerRequestData} {env : RequestEnv} {d : Daemon} {buffer : Mem}
  {responseMode : UInt8}

theorem sends_admitRequest (buffer : Mem) (size : ℕ) (ip : CString) (pkt : NtpHeader)
    (env : RequestEnv) (d : Daemon) : sends (admitRequest buffer size ip pkt env d).trace = [] :=
  sends_eq_nil (admitRequest_frame buffer size ip pkt env) (fun _ he => he.sent_eq_none) d

theorem sends_handleLeapIndicator (li : UInt8) (env : LeapScheduleEnv) (d : Daemon) :
    sends (handleLeapIndicator li env d).trace = [] :=
  sends_eq_nil (handleLeapIndicator_frame li env) (fun _ he => he.sent_eq_none) d

/-- A handled request is answered after its leap indicator has had its effect. -/
theorem Handled.run (h : Handled data env d buffer responseMode) :
    let pkt := readHeader buffer
    let d' := (handleLeapIndicator pkt.li env.leapSchedule d).state
    (handlePeerRequestThread data env d).state =
        (sendResponse responseMode data.ip data.port pkt env d').state ∧
      sends (handlePeerRequestThread data env d).trace =
        sends (sendResponse responseMode data.ip data.port pkt env d').trace := by
  intro pkt d'
  have hsize : ¬ data.size < 48 := not_lt.mpr ((parseNtpPacket_ok_iff _ _ _ _).mp h.parses).1
  have haddress : ¬ (data.ip = [] ∨ data.port = []) := not_or.mpr ⟨h.ip, h.port⟩
  have hheader := parseNtpPacket_toNtpHeader h.parses
  have hadmit := (admitRequest_ret _ _ _ _ _ _ _).mpr h.admitted
  have hstate : (admitRequest buffer data.size data.ip pkt env d).state = d :=
    (admitRequest_frame buffer data.size data.ip pkt env).state d
  have hsends := sends_admitRequest buffer data.size data.ip pkt env d
  have hsends' := sends_handleLeapIndicator pkt.li env.leapSchedule d
  have hskip : (handleLeapIndicator pkt.li env.leapSchedule d).ret = false := by
    rw [handleLeapIndicator_ret]
    rcases li_cases pkt with hli | hli | hli | hli
    · rw [hli]
      rfl
    · rw [hli]
      rfl
    · rw [hli]
      rfl
    · exact absurd hli h.li
  have hkod : ntpIsKod pkt = false := by
    unfold ntpIsKod
    rw [beq_false_of_ne h.li, Bool.and_false]
  unfold handlePeerRequestThread
  rw [h.received]
  constructor
  · simp [hsize, haddress, h.parses, hheader, hadmit, hstate, hkod, hskip, pkt, d']
  · simp [hsize, haddress, h.parses, hheader, hadmit, hstate, hkod, hskip, pkt, d', hsends, hsends']

/-- Any other request leaves the state as it is and gets no answer. -/
theorem handlePeerRequestThread_of_not_handled
    (h : ∀ buffer responseMode, ¬ Handled data env d buffer responseMode) :
    (handlePeerRequestThread data env d).state = d ∧
      sends (handlePeerRequestThread data env d).trace = [] := by
  unfold handlePeerRequestThread
  cases hbuffer : data.buffer with
  | none => exact ⟨rfl, rfl⟩
  | some buffer =>
    -- the early exits, in the order of the code
    by_cases hsize : data.size < 48
    · exact ⟨by simp [hsize], by simp [hsize]⟩
    by_cases haddress : data.ip = [] ∨ data.port = []
    · exact ⟨by simp [hsize, haddress], by simp [hsize, haddress]⟩
    by_cases hok : (parseNtpPacket buffer data.size env.stalePkt d.ido).ok = true
    swap
    · exact ⟨by simp [hsize, haddress, hok], by simp [hsize, haddress, hok]⟩
    have hheader := parseNtpPacket_toNtpHeader hok
    set pkt := readHeader buffer with hpkt
    have hstate : (admitRequest buffer data.size data.ip pkt env d).state = d :=
      (admitRequest_frame buffer data.size data.ip pkt env).state d
    have hsends := sends_admitRequest buffer data.size data.ip pkt env d
    cases hret : (admitRequest buffer data.size data.ip pkt env d).ret with
    | none =>
      exact ⟨by simp [hsize, haddress, hok, hheader, hret, hstate],
        by simp [hsize, haddress, hok, hheader, hret, hsends]⟩
    | some responseMode =>
      have hadmitted := (admitRequest_ret _ _ _ _ _ _ _).mp hret
      by_cases hkod : ntpIsKod pkt = true
      · exact ⟨by simp [hsize, haddress, hok, hheader, hret, hstate, hkod],
          by simp [hsize, haddress, hok, hheader, hret, hsends, hkod]⟩
      -- what is left is a leap indicator of 3, which the helper leaves without an effect
      have hli : pkt.li = 3 := by
        by_contra hne
        obtain ⟨hip, hport⟩ := not_or.mp haddress
        exact h buffer responseMode ⟨hbuffer, hip, hport, hok, hadmitted, hne⟩
      have hskip : handleLeapIndicator pkt.li env.leapSchedule d = ⟨true, d, []⟩ := by
        rw [hli]
        rfl
      exact ⟨by simp [hsize, haddress, hok, hheader, hret, hstate, hkod, hskip],
        by simp [hsize, haddress, hok, hheader, hret, hsends, hstate, hkod, hskip]⟩

end

/-- The requests the handler replies to. -/
theorem replies_handlePeerRequestThread_eq_nil_iff (data : PeerRequestData) (env : RequestEnv)
    (d : Daemon) : replies (handlePeerRequestThread data env d).trace = [] ↔
      ¬ ((∃ buffer responseMode, Handled data env d buffer responseMode) ∧
        Deliverable data.ip data.port env) := by
  by_cases h : ∃ buffer responseMode, Handled data env d buffer responseMode
  · rw [and_iff_right h]
    obtain ⟨buffer, responseMode, h⟩ := h
    unfold replies
    rw [h.run.2]
    exact replies_sendResponse_eq_nil_iff _ _ _ _ _ _
  · refine iff_of_true ?_ fun hcond => h hcond.1
    push Not at h
    unfold replies
    rw [(handlePeerRequestThread_of_not_handled h).2]
    rfl

/-- A run of the handler either leaves the tables and sends nothing, or the request was parsed and
admitted, its leap indicator is not 3, and the run ends as `Served` says. -/
theorem handlePeerRequestThread_cases (data : PeerRequestData) (env : RequestEnv) (d : Daemon) :
    ((handlePeerRequestThread data env d).state.mode = d.mode ∧
        sends (handlePeerRequestThread data env d).trace = []) ∨
      ∃ buffer responseMode, Handled data env d buffer responseMode ∧
        Served data.ip env.rateUpdateTime (responseTo d responseMode (readHeader buffer) env)
          (responseMode = ntpModeBroadcast ∧ d.cli.broadcastMode ≠ 0) d.mode
          (handlePeerRequestThread data env d).state.mode
          (sends (handlePeerRequestThread data env d).trace) := by
  by_cases hhandled : ∃ buffer responseMode, Handled data env d buffer responseMode
  · obtain ⟨buffer, responseMode, h⟩ := hhandled
    obtain ⟨hstate, hsends⟩ := h.run
    refine .inr ⟨buffer, responseMode, h, ?_⟩
    -- the leap indicator touches neither the rate table nor what the response is built from
    have herase := (handleLeapIndicator_frame (readHeader buffer).li env.leapSchedule).state d
    have hserved := sendResponse_served responseMode data.ip data.port (readHeader buffer) env
      (handleLeapIndicator (readHeader buffer).li env.leapSchedule d).state
    rw [← hstate, ← hsends] at hserved
    generalize (handleLeapIndicator (readHeader buffer).li env.leapSchedule d).state = d' at *
    have hmode : d'.mode = d.mode := (congrArg Daemon.mode herase :)
    have hcli : d'.cli = d.cli := (congrArg Daemon.cli herase :)
    have hg : d'.g = d.g := (congrArg Daemon.g herase :)
    rwa [responseTo_congr hg hmode, hmode, hcli] at hserved
  · obtain ⟨hstate, hsends⟩ := handlePeerRequestThread_of_not_handled
      fun buffer responseMode h => hhandled ⟨buffer, responseMode, h⟩
    exact .inl ⟨congrArg Daemon.mode hstate, hsends⟩

/-! ### The response -/

theorem length_writeU32be (v : UInt32) : (writeU32be v).length = 4 := rfl

theorem length_writeTimestamp (t : NtpTimestamp) : (writeTimestamp t).length = 8 := rfl

theorem length_responseTo (d : Daemon) (responseMode : UInt8) (pkt : NtpHeader)
    (env : RequestEnv) : (responseTo d responseMode pkt env).length = 48 := by
  simp [responseTo, peerResponse, length_writeU32be, length_writeTimestamp]

theorem and_ntpModeMask_or (x y : UInt8) :
    (x ||| y) &&& ntpModeMask = (x &&& ntpModeMask) ||| (y &&& ntpModeMask) := by
  simp only [← UInt8.toNat_inj, UInt8.toNat_and, UInt8.toNat_or, Nat.and_or_distrib_right]

theorem toNat_and_ntpModeMask (x : UInt8) : (x &&& ntpModeMask).toNat = x.toNat % 8 := by
  rw [UInt8.toNat_and]
  exact Nat.and_two_pow_sub_one_eq_mod x.toNat 3

/-- The lower three bits of the first byte written are the response mode. -/
theorem and_ntpModeMask_firstByte (li : UInt8) {m : UInt8} (hm : m.toNat < 8) :
    (((li &&& 0x03) <<< ntpLiShift) ||| (ntpVn4 <<< ntpVnShift) ||| m) &&& ntpModeMask = m := by
  have hli : ((li &&& 0x03) <<< ntpLiShift) &&& ntpModeMask = 0 := by
    rw [← UInt8.toNat_inj, toNat_and_ntpModeMask, UInt8.toNat_shiftLeft, Nat.shiftLeft_eq]
    show (li &&& 0x03).toNat * 64 % 256 % 8 = 0
    omega
  have hvn : (ntpVn4 <<< ntpVnShift) &&& ntpModeMask = 0 := by decide
  have hself : m &&& ntpModeMask = m := by
    rw [← UInt8.toNat_inj, toNat_and_ntpModeMask]
    exact Nat.mod_eq_of_lt hm
  rw [and_ntpModeMask_or, and_ntpModeMask_or, hli, hvn, hself]
  simp

theorem responseModeFor_toNat_lt {broadcastMode : ℤ} {mode responseMode : UInt8}
    (h : responseModeFor broadcastMode mode = some responseMode) : responseMode.toNat < 8 := by
  unfold responseModeFor at h
  split_ifs at h <;> cases h <;> decide

theorem headD_responseTo (d : Daemon) {responseMode : UInt8} (hm : responseMode.toNat < 8)
    (pkt : NtpHeader) (env : RequestEnv) :
    (responseTo d responseMode pkt env).headD 0 &&& ntpModeMask = responseMode :=
  and_ntpModeMask_firstByte _ hm

/-! ### A safe responder -/

/-- The reply mode that answers a request mode. -/
inductive Answers : (requestMode replyMode : UInt8) → Prop
  | client : Answers 3 4
  | symmetricActive : Answers 1 2
  | symmetricPassive : Answers 2 2
  | broadcast : Answers 5 5

theorem answers_of_responseModeFor {broadcastMode : ℤ} {mode responseMode : UInt8}
    (h : responseModeFor broadcastMode mode = some responseMode) : Answers mode responseMode := by
  unfold responseModeFor at h
  split_ifs at h with hclient hsymmetric hbroadcast hoff
  · cases h
    exact hclient ▸ .client
  · cases h
    rcases hsymmetric with rfl | rfl
    · exact .symmetricActive
    · exact .symmetricPassive
  · obtain rfl := hbroadcast
    cases h
    exact .broadcast

theorem Answers.mem {mode replyMode : UInt8} (h : Answers mode replyMode) :
    mode ∈ ([1, 2, 3, 5] : List UInt8) := by
  cases h <;> decide

theorem Answers.not_mem {mode replyMode : UInt8} (h : Answers mode replyMode) :
    mode ∉ ([0, 4, 6, 7] : List UInt8) := by
  cases h <;> decide

/-- The datagram is a request the handler may answer. -/
structure Answerable (buffer : Mem) (size : ℕ) (ip : CString) (stale : NtpPacket) (now : ℤ)
    (d : Daemon) : Prop where
  size_le : 48 ≤ size
  parses : (parseNtpPacket buffer size stale d.ido).ok = true
  version : (readHeader buffer).vn = 4
  mode : (readHeader buffer).mode ∈ ([1, 2, 3, 5] : List UInt8)
  auth : (validatePacketAuthentication (some buffer) size d).ret ≠ -ENOTSUP
  acl : (aclCheckClient (some ip) (readHeader buffer).mode d).ret = true
  rate : (rateLimitCheck (some ip) now d).ret = 0
  li : (readHeader buffer).li ≠ 3

theorem Admitted.answerable {buffer : Mem} {size : ℕ} {ip : CString} {now : ℤ} {d : Daemon}
    {responseMode : UInt8} (h : Admitted buffer size ip (readHeader buffer) now d responseMode)
    {stale : NtpPacket} (hok : (parseNtpPacket buffer size stale d.ido).ok = true)
    (hli : (readHeader buffer).li ≠ 3) : Answerable buffer size ip stale now d where
  size_le := ((parseNtpPacket_ok_iff buffer size stale d.ido).mp hok).1
  parses := hok
  version := h.version
  mode := (answers_of_responseModeFor h.mode).mem
  auth := h.auth
  acl := h.acl
  rate := h.rate
  li := hli

/-- Datagrams have 48 bytes, no more than the request, and go only to requests that may be answered,
in the mode that answers them. -/
def SafeDatagram (data : PeerRequestData) (env : RequestEnv) (d : Daemon) (bytes : List UInt8) :
    Prop :=
  bytes.length = 48 ∧ 48 ≤ data.size ∧ ∃ buffer, data.buffer = some buffer ∧
    Answerable buffer data.size data.ip env.stalePkt env.rateCheckTime d ∧
    Answers (readHeader buffer).mode (bytes.headD 0 &&& ntpModeMask)

/-- What a run of the handler on `data` may send, and what it does to the rate table.  `before` is
the daemon before the run, `after` the tables after it, `sent` what was sent. -/
structure SafelyAnswered (data : PeerRequestData) (env : RequestEnv) (before : Daemon)
    (after : ModeState) (sent : List (Sender × SockAddrIn × List UInt8 × Bool)) : Prop where
  /-- At most one unicast datagram, followed by at most one broadcast copy. -/
  shape : ∃ unicasts copies, sent = unicasts ++ copies ∧
    unicasts.length ≤ 1 ∧ (∀ s ∈ unicasts, s.1 = .handlePeerRequestThread) ∧
    copies.length ≤ 1 ∧ (∀ s ∈ copies, s.1 = .sendBroadcastResponse)
  datagram : ∀ s ∈ sent, SafeDatagram data env before s.2.2.1
  /-- A broadcast copy repeats a reply of mode 5 that was sent. -/
  copy : ∀ s ∈ sent, s.1 = .sendBroadcastResponse →
    before.cli.broadcastMode ≠ 0 ∧ s.2.2.1.headD 0 &&& ntpModeMask = 5 ∧
    ∃ dest, (.handlePeerRequestThread, dest, s.2.2.1, true) ∈ sent
  unanswered : ∀ buffer, data.buffer = some buffer →
    (readHeader buffer).mode ∈ ([0, 4, 6, 7] : List UInt8) → sent = []
  /-- The client is recorded once if its reply was sent, and otherwise nothing is recorded. -/
  table : if ∃ s ∈ sent, s.1 = .handlePeerRequestThread ∧ s.2.2.2 = true then
      after = rateLimitUpdate before.mode (some data.ip) env.rateUpdateTime
    else after = before.mode

theorem SafelyAnswered.silent {data : PeerRequestData} {env : RequestEnv} {d : Daemon} :
    SafelyAnswered data env d d.mode [] where
  shape := ⟨[], [], rfl, by decide, nofun, by decide, nofun⟩
  datagram := nofun
  copy := nofun
  unanswered := fun _ _ _ => rfl
  table := by simp

section

variable {data : PeerRequestData} {env : RequestEnv} {d : Daemon}

theorem SafeDatagram.not_mem {bytes : List UInt8} (h : SafeDatagram data env d bytes)
    (buffer : Mem) (hbuffer : data.buffer = some buffer) :
    (readHeader buffer).mode ∉ ([0, 4, 6, 7] : List UInt8) := by
  obtain ⟨-, -, buffer', hbuffer', -, hanswers⟩ := h
  obtain rfl : buffer' = buffer := Option.some_injective _ (hbuffer'.symm.trans hbuffer)
  exact hanswers.not_mem

theorem SafelyAnswered.unicast {bytes : List UInt8} (hbytes : SafeDatagram data env d bytes)
    (dest : SockAddrIn) {ok : Bool} {after : ModeState}
    (htable : after =
      if ok = true then rateLimitUpdate d.mode (some data.ip) env.rateUpdateTime else d.mode) :
    SafelyAnswered data env d after [(.handlePeerRequestThread, dest, bytes, ok)] where
  shape := ⟨[_], [], rfl, le_rfl, by simp, Nat.zero_le 1, nofun⟩
  datagram s hs := by
    obtain rfl := List.mem_singleton.mp hs
    exact hbytes
  copy s hs hsender := by
    obtain rfl := List.mem_singleton.mp hs
    cases hsender
  unanswered buffer hbuffer hmode := absurd hmode (hbytes.not_mem buffer hbuffer)
  table := by
    rw [htable]
    cases ok <;> simp

theorem SafelyAnswered.copied {bytes : List UInt8} (hbytes : SafeDatagram data env d bytes)
    (hmode : bytes.headD 0 &&& ntpModeMask = 5) (hbroadcast : d.cli.broadcastMode ≠ 0)
    (dest dest' : SockAddrIn) (ok : Bool) :
    SafelyAnswered data env d (rateLimitUpdate d.mode (some data.ip) env.rateUpdateTime)
      [(.handlePeerRequestThread, dest, bytes, true),
        (.sendBroadcastResponse, dest', bytes, ok)] where
  shape := ⟨[_], [_], rfl, le_rfl, by simp, le_rfl, by simp⟩
  datagram s hs := by
    rcases List.mem_pair.mp hs with rfl | rfl
    · exact hbytes
    · exact hbytes
  copy s hs hsender := by
    rcases List.mem_pair.mp hs with rfl | rfl
    · cases hsender
    · exact ⟨hbroadcast, hmode, dest, List.mem_cons_self⟩
  unanswered buffer hbuffer hmode := absurd hmode (hbytes.not_mem buffer hbuffer)
  table := by simp

end

/-- Whatever the socket calls answer, the handler is a safe responder. -/
theorem handlePeerRequestThread_safe (data : PeerRequestData) (env : RequestEnv) (d : Daemon) :
    SafelyAnswered data env d (handlePeerRequestThread data env d).state.mode
      (sends (handlePeerRequestThread data env d).trace) := by
  obtain ⟨htable, hsent⟩ | ⟨buffer, responseMode, hhandled, hserved⟩ :=
    handlePeerRequestThread_cases data env d
  · rw [htable, hsent]
    exact .silent
  have hadmitted := hhandled.admitted
  set response := responseTo d responseMode (readHeader buffer) env with hresponse
  have hanswerable := hadmitted.answerable hhandled.parses hhandled.li
  have hfirst : response.headD 0 &&& ntpModeMask = responseMode :=
    headD_responseTo d (responseModeFor_toNat_lt hadmitted.mode) (readHeader buffer) env
  have hbytes : SafeDatagram data env d response :=
    ⟨length_responseTo d responseMode (readHeader buffer) env, hanswerable.size_le, buffer,
      hhandled.received, hanswerable, hfirst ▸ answers_of_responseModeFor hadmitted.mode⟩
  -- what was served, in the four ways in which it can be
  cases hserved with
  | silent htable hsent =>
    rw [htable, hsent]
    exact .silent
  | failed dest htable hsent =>
    rw [hsent]
    exact .unicast hbytes dest htable
  | answered dest htable hsent =>
    rw [hsent]
    exact .unicast hbytes dest htable
  | copied dest dest' ok hcopy htable hsent =>
    rw [htable, hsent]
    exact .copied hbytes (hfirst.trans hcopy.1) hcopy.2 dest dest' ok

end Dntpd
