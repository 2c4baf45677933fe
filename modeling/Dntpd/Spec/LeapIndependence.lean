import Dntpd.Library.Insensitive
import Dntpd.Spec.PacketCodec
import Dntpd.Spec.SyncReject

/-!
# What the leap indicator of a request does

Two requests that agree but for the leap indicator pass the same checks (`Eligible`), and a response
depends neither on the leap-second state nor on the indicator (`sendResponse_insensitive`).  What is
left is `handle_leap_indicator`, made for the replies of servers: it schedules an event for an
indicator of 1 or 2 and drops the request for 3.  `leapIndependent_iff` says for which requests
neither shows.
-/

namespace Dntpd

open Proc

/-! ### The response and the leap-second state -/

/-- The runs of `p` from two states that differ in the leap-second state or `errno` agree. -/
abbrev LeapInsensitive {α : Type} (p : DProc α) : Prop := Insensitive Daemon.eraseLeap p

theorem sys_insensitive {α : Type} (r : Except Errno α) : LeapInsensitive (sys r) := by
  cases r with
  | error e => exact .bind (.update fun _ _ h => h) fun _ => .pure _
  | ok a => exact .pure _

theorem readTimestampNow_insensitive (clock : Except Errno Timespec) :
    LeapInsensitive (readTimestampNow clock) :=
  .bind (sys_insensitive _) fun _ => .pure _

/-- A default of the mode handler is computed from the globals and the configuration. -/
theorem modeDefault_insensitive {α : Type} (f : Globals → ModeState → α) :
    LeapInsensitive (do
      lock .gModeMutex
      let d ← Proc.read
      unlock .gModeMutex
      return f d.g d.mode) := by
  refine .bind (.emit _) fun _ => .read_bind (fun d => .bind (.emit _) fun _ => .pure _) ?_
  intro s t h
  have hg : s.g = t.g := (congrArg Daemon.g h :)
  have hmode : s.mode = t.mode := (congrArg Daemon.mode h :)
  rw [hg, hmode]

theorem network4CreateSocket_insensitive (env : SocketEnv) :
    LeapInsensitive (network4CreateSocket env) := by
  unfold network4CreateSocket
  refine .bind (sys_insensitive _) fun r => ?_
  cases r with
  | error e => exact .pure _
  | ok fd => exact .bind (sys_insensitive _) fun _ => .pure _

theorem network4Sendto_insensitive (sender : Sender) (sock : ℤ) (bytes : List UInt8)
    (dest : SockAddrIn) (r : Except Errno Unit) :
    LeapInsensitive (network4Sendto sender sock bytes dest r) :=
  .ite (.pure _) (.bind (sys_insensitive _) fun _ => .bind (.emit _) fun _ => .pure _)

theorem network4CloseSocket_insensitive (sock : ℤ) : LeapInsensitive (network4CloseSocket sock) :=
  .ite (.emit _) (.pure _)

theorem sendBroadcastResponse_insensitive (response : List UInt8) (env : BroadcastEnv) :
    LeapInsensitive (sendBroadcastResponse response env) := by
  unfold sendBroadcastResponse
  refine .read_bind (fun d => .ite (.pure _) (.ite (.pure _) ?_)) ?_
  · refine .bind (network4CreateSocket_insensitive _) fun sock => .ite (.pure _) ?_
    refine .bind (sys_insensitive _) fun r => ?_
    cases r with
    | error e => exact .bind (network4CloseSocket_insensitive _) fun _ => .pure _
    | ok =>
      refine .bind (network4Sendto_insensitive _ _ _ _ _) fun sent => ?_
      refine .bind (network4CloseSocket_insensitive _) fun _ => .ite (.pure _) ?_
      refine .bind (.update fun s t h => ?_) fun _ => .pure _
      exact congrArg (fun d : Daemon =>
        { d with socket := { d.socket with lastBroadcast := env.now } }) h
  · intro s t h
    have hcli : s.cli = t.cli := (congrArg Daemon.cli h :)
    have hsocket : s.socket = t.socket := (congrArg Daemon.socket h :)
    simp only [hcli, hsocket]

theorem deliverResponse_insensitive (responseMode : UInt8) (ip port : CString)
    (response : List UInt8) (env : RequestEnv) :
    LeapInsensitive (deliverResponse responseMode ip port response env) := by
  have hrecord : LeapInsensitive (Proc.update fun d : Daemon =>
      { d with mode := rateLimitUpdate d.mode (some ip) env.rateUpdateTime } : DProc Unit) :=
    .update fun s t h => congrArg (fun d : Daemon =>
      { d with mode := rateLimitUpdate d.mode (some ip) env.rateUpdateTime }) h
  unfold deliverResponse
  refine .bind (.update fun _ _ h => h) fun _ => ?_
  split
  · exact .pure _
  · refine .bind (network4CreateSocket_insensitive _) fun sock => .ite (.pure _) ?_
    refine .bind (network4Sendto_insensitive _ _ _ _ _) fun sent => ?_
    refine .bind (network4CloseSocket_insensitive _) fun _ => .ite (.pure _) ?_
    exact .ite (.bind (sendBroadcastResponse_insensitive _ _) fun _ => hrecord) hrecord

/-- The answer depends neither on the leap-second state nor on an error left behind. -/
theorem sendResponse_insensitive (responseMode : UInt8) (ip port : CString) (pkt : NtpHeader)
    (env : RequestEnv) : LeapInsensitive (sendResponse responseMode ip port pkt env) := by
  unfold sendResponse
  refine .bind (readTimestampNow_insensitive _) fun t2 => .bind (.emit _) fun _ => ?_
  refine .read_bind (fun d => ?_) fun s t h => ?_
  · refine .bind (modeDefault_insensitive fun g m =>
      if g.timeSynced then g.localStratum else m.config.initialStratum) fun stratum => ?_
    refine .bind (modeDefault_insensitive fun g _ =>
      if g.timeSynced then g.localRefId else ntpRefIdInit) fun refId => ?_
    refine .bind (modeDefault_insensitive fun g _ =>
      if g.timeSynced then g.localLi else ntpLiAlarm) fun li => .bind (.emit _) fun _ => ?_
    exact .bind (readTimestampNow_insensitive _) fun t3 => deliverResponse_insensitive _ _ _ _ _
  · have hg : s.g = t.g := (congrArg Daemon.g h :)
    simp only [hg]

/-! ### Requests that differ in the leap indicator -/

/-- The memories agree but for the two leap bits of the first byte. -/
structure Mem.EqButLi (x y : Mem) : Prop where
  first : x 0 &&& 0x3f = y 0 &&& 0x3f
  rest : ∀ i, 1 ≤ i → x i = y i

namespace Mem.EqButLi

variable {x y : Mem}

theorem symm (h : x.EqButLi y) : y.EqButLi x := ⟨h.first.symm, fun i hi => (h.rest i hi).symm⟩

theorem and_eq (h : x.EqButLi y) {mask : UInt8} (hmask : 0x3f &&& mask = mask) :
    x 0 &&& mask = y 0 &&& mask := by
  rw [← hmask, ← UInt8.and_assoc, ← UInt8.and_assoc, h.first]

theorem drop_eq (h : x.EqButLi y) {off : ℕ} (hoff : 1 ≤ off) : x.drop off = y.drop off :=
  funext fun i => h.rest (off + i) (by omega)

/-- The headers agree but for the leap indicator. -/
theorem readHeader_eq (h : x.EqButLi y) :
    readHeader x = { readHeader y with liVnMode := x 0 } := by
  have hts : ∀ off, 1 ≤ off → readTimestamp x off = readTimestamp y off := by
    intro off hoff
    unfold readTimestamp
    rw [h.drop_eq hoff, h.drop_eq (by omega : 1 ≤ off + 4)]
  unfold readHeader
  rw [h.rest 1 (by decide), h.rest 2 (by decide), h.rest 3 (by decide), h.drop_eq (by decide),
    h.drop_eq (by decide), h.drop_eq (by decide), hts 16 (by decide), hts 24 (by decide),
    hts 32 (by decide), hts 40 (by decide)]

theorem vn_eq (h : x.EqButLi y) : (readHeader x).vn = (readHeader y).vn :=
  congrArg (· >>> ntpVnShift) (h.and_eq (by decide : 0x3f &&& ntpVnMask = ntpVnMask))

theorem mode_eq (h : x.EqButLi y) : (readHeader x).mode = (readHeader y).mode :=
  h.and_eq (by decide : 0x3f &&& ntpModeMask = ntpModeMask)

theorem headerAccepted_iff (h : x.EqButLi y) :
    HeaderAccepted (readHeader x) ↔ HeaderAccepted (readHeader y) := by
  have hstratum : (readHeader x).stratum = (readHeader y).stratum := h.rest 1 (by decide)
  unfold HeaderAccepted
  rw [h.vn_eq, h.mode_eq, hstratum]

end Mem.EqButLi

/-- The walk that looks for a MAC reads nothing before the position it starts from. -/
theorem macFieldFrom_congr {x y : Mem} (size : ℕ) {pos : ℕ} (h : ∀ i, pos ≤ i → x i = y i) :
    macFieldFrom x size pos = macFieldFrom y size pos := by
  induction hn : size - pos using Nat.strong_induction_on generalizing pos with
  | _ n ih =>
    rw [macFieldFrom.eq_def x, macFieldFrom.eq_def y, h pos le_rfl, h (pos + 1) (by omega),
      h (pos + 2) (by omega), h (pos + 3) (by omega)]
    dsimp only
    split_ifs with hle hshort hmac hlast
    · rfl
    · rfl
    · rfl
    · exact ih _ (by omega) (fun i hi => h i (by omega)) rfl
    · rfl

theorem validatePacketAuthentication_congr {x y : Mem} (h : x.EqButLi y) (size : ℕ) :
    validatePacketAuthentication (some x) size = validatePacketAuthentication (some y) size := by
  have hwalk : macFieldFrom x size 48 = macFieldFrom y size 48 :=
    macFieldFrom_congr size fun i hi => h.rest i (by omega)
  unfold validatePacketAuthentication
  simp only [hwalk]

/-- The requests agree but for the leap indicator. -/
structure PeerRequestData.EqButLi (data₁ data₂ : PeerRequestData) : Prop where
  buffer : Option.Rel Mem.EqButLi data₁.buffer data₂.buffer
  size : data₁.size = data₂.size
  ip : data₁.ip = data₂.ip
  port : data₁.port = data₂.port

namespace PeerRequestData.EqButLi

variable {data₁ data₂ : PeerRequestData}

theorem symm (h : data₁.EqButLi data₂) : data₂.EqButLi data₁ where
  buffer := by
    have hrel := h.buffer
    generalize data₁.buffer = b₁ at hrel ⊢
    generalize data₂.buffer = b₂ at hrel ⊢
    cases hrel with
    | none => exact .none
    | some hmem => exact .some hmem.symm
  size := h.size.symm
  ip := h.ip.symm
  port := h.port.symm

theorem exists_buffer (h : data₁.EqButLi data₂) {buffer₁ : Mem}
    (hbuffer : data₁.buffer = some buffer₁) :
    ∃ buffer₂, data₂.buffer = some buffer₂ ∧ buffer₁.EqButLi buffer₂ := by
  have hrel := h.buffer
  rw [hbuffer] at hrel
  cases hbuffer₂ : data₂.buffer with
  | none =>
    rw [hbuffer₂] at hrel
    cases hrel
  | some buffer₂ =>
    rw [hbuffer₂, Option.rel_some_some] at hrel
    exact ⟨buffer₂, rfl, hrel⟩

end PeerRequestData.EqButLi

/-! ### The handler but for the leap indicator -/

/-- The request passes the checks that do not look at its leap indicator. -/
structure Eligible (data : PeerRequestData) (env : RequestEnv) (d : Daemon) (buffer : Mem)
    (responseMode : UInt8) : Prop where
  received : data.buffer = some buffer
  ip : data.ip ≠ []
  port : data.port ≠ []
  parses : (parseNtpPacket buffer data.size env.stalePkt d.ido).ok = true
  admitted : Admitted buffer data.size data.ip (readHeader buffer) env.rateCheckTime d responseMode

section

variable {data data₁ data₂ : PeerRequestData} {env : RequestEnv} {d : Daemon}
  {buffer buffer₁ buffer₂ : Mem} {responseMode : UInt8}

theorem handled_iff : Handled data env d buffer responseMode ↔
    Eligible data env d buffer responseMode ∧ (readHeader buffer).li ≠ 3 :=
  ⟨fun h => ⟨⟨h.received, h.ip, h.port, h.parses, h.admitted⟩, h.li⟩,
    fun ⟨h, hli⟩ => ⟨h.received, h.ip, h.port, h.parses, h.admitted, hli⟩⟩

/-- Requests that agree but for the leap indicator are eligible together. -/
theorem Eligible.of_eqButLi (h : Eligible data₁ env d buffer₁ responseMode)
    (heq : data₁.EqButLi data₂) (hmem : buffer₁.EqButLi buffer₂)
    (hbuffer : data₂.buffer = some buffer₂) : Eligible data₂ env d buffer₂ responseMode := by
  -- every check reads a part of the request that the leap indicator is not in
  obtain ⟨hsize, hkod, hacc⟩ := (parseNtpPacket_ok_iff _ _ _ _).mp h.parses
  exact {
    received := hbuffer
    ip := heq.ip ▸ h.ip
    port := heq.port ▸ h.port
    parses := by
      rw [parseNtpPacket_ok_iff, ← heq.size, ← hmem.headerAccepted_iff]
      exact ⟨hsize, hkod, hacc⟩
    admitted := {
      version := hmem.vn_eq ▸ h.admitted.version
      auth := by
        rw [← heq.size, ← validatePacketAuthentication_congr hmem]
        exact h.admitted.auth
      acl := by
        rw [← heq.ip, ← hmem.mode_eq]
        exact h.admitted.acl
      rate := by
        rw [← heq.ip]
        exact h.admitted.rate
      mode := hmem.mode_eq ▸ h.admitted.mode
      ratio := by
        rw [← heq.size]
        exact h.admitted.ratio } }

/-- The replies to a handled request are those the daemon would have given before its leap indicator
had its effect. -/
theorem Handled.replies_eq (h : Handled data env d buffer responseMode) :
    replies (handlePeerRequestThread data env d).trace =
      replies (sendResponse responseMode data.ip data.port (readHeader buffer) env d).trace := by
  -- `sendResponse` reads nothing of the leap module
  have herase := (handleLeapIndicator_frame (readHeader buffer).li env.leapSchedule).state d
  have hsame := (sendResponse_insensitive responseMode data.ip data.port (readHeader buffer)
    env).trace _ _ herase
  unfold replies
  rw [h.run.2, hsame]

/-- The leap indicator has nothing to schedule. -/
def SchedulesNothing (li : UInt8) (env : LeapScheduleEnv) (s : LeapSecondState) : Prop :=
  ¬ (li = 1 ∨ li = 2) ∨ s.eventScheduled = true ∨ endOfMinuteTime env.endOfMinuteClock = 0

/-- A leap indicator of 3 makes the handler drop the request. -/
theorem Eligible.dropped (h : Eligible data env d buffer responseMode)
    (hli : (readHeader buffer).li = 3) : (handlePeerRequestThread data env d).state = d ∧
      replies (handlePeerRequestThread data env d).trace = [] := by
  -- a handled request has another leap indicator
  have hnot : ∀ buffer' m, ¬ Handled data env d buffer' m := by
    intro buffer' m hhandled
    obtain rfl : buffer = buffer' :=
      Option.some_injective _ (h.received.symm.trans hhandled.received)
    exact hhandled.li hli
  obtain ⟨hstate, hsends⟩ := handlePeerRequestThread_of_not_handled hnot
  refine ⟨hstate, ?_⟩
  unfold replies
  rw [hsends]
  rfl

/-- The scheduled event survives a request exactly if its leap indicator has nothing to schedule. -/
theorem Eligible.event_iff (h : Eligible data env d buffer responseMode) :
    (handlePeerRequestThread data env d).state.leap.event = d.leap.event ↔
      SchedulesNothing (readHeader buffer).li env.leapSchedule d.leap := by
  by_cases hli : (readHeader buffer).li = 3
  · rw [(h.dropped hli).1, hli]
    exact iff_of_true rfl (.inl (by decide))
  · have hleap : (handlePeerRequestThread data env d).state.leap =
        d.leap.indicated (readHeader buffer).li env.leapSchedule := by
      rw [(handled_iff.mpr ⟨h, hli⟩).run.1, (sendResponse_frame _ _ _ _ _).state,
        handleLeapIndicator_leap]
    rw [hleap]
    exact event_indicated_iff _ _ _

/-- The response looks at no more of the request than its poll byte and its transmit timestamp. -/
theorem sendResponse_congr {pkt₁ pkt₂ : NtpHeader} (hpoll : pkt₁.poll = pkt₂.poll)
    (hxmit : pkt₁.xmitTs = pkt₂.xmitTs) (ip port : CString) :
    sendResponse responseMode ip port pkt₁ env = sendResponse responseMode ip port pkt₂ env := by
  unfold sendResponse peerResponse
  rw [hpoll, hxmit]

/-- Eligible requests that agree but for the leap indicator get the same replies exactly if both are
dropped for it or neither is, or there is no way to reply. -/
theorem Eligible.replies_eq_iff (h : Eligible data₁ env d buffer₁ responseMode)
    (heq : data₁.EqButLi data₂) (hmem : buffer₁.EqButLi buffer₂)
    (hbuffer : data₂.buffer = some buffer₂) :
    replies (handlePeerRequestThread data₁ env d).trace =
        replies (handlePeerRequestThread data₂ env d).trace ↔
      ((readHeader buffer₁).li = 3 ↔ (readHeader buffer₂).li = 3) ∨
        ¬ Deliverable data₁.ip data₁.port env := by
  have h₂ := h.of_eqButLi heq hmem hbuffer
  by_cases hli₁ : (readHeader buffer₁).li = 3
  · rw [(h.dropped hli₁).2, iff_true_left hli₁]
    -- the first request gets no reply, so the second one must not get one
    by_cases hli₂ : (readHeader buffer₂).li = 3
    · rw [(h₂.dropped hli₂).2]
      exact iff_of_true rfl (.inl hli₂)
    · rw [(handled_iff.mpr ⟨h₂, hli₂⟩).replies_eq, eq_comm, replies_sendResponse_eq_nil_iff,
        or_iff_right hli₂, heq.ip, heq.port]
  · rw [(handled_iff.mpr ⟨h, hli₁⟩).replies_eq, iff_false_left hli₁]
    by_cases hli₂ : (readHeader buffer₂).li = 3
    · rw [(h₂.dropped hli₂).2, replies_sendResponse_eq_nil_iff,
        or_iff_right (not_not.mpr hli₂)]
    -- both are answered, and from the same bytes
    · have hheader := hmem.readHeader_eq
      rw [(handled_iff.mpr ⟨h₂, hli₂⟩).replies_eq, ← heq.ip, ← heq.port]
      have hsend : sendResponse responseMode data₁.ip data₁.port (readHeader buffer₁) env =
          sendResponse responseMode data₁.ip data₁.port (readHeader buffer₂) env :=
        sendResponse_congr (congrArg NtpHeader.poll hheader) (congrArg NtpHeader.xmitTs hheader) _ _
      exact iff_of_true (by rw [hsend]) (.inl hli₂)

end

/-! ### Independence of the leap indicator -/

/-- The two requests get the same replies, and neither changes the scheduled event. -/
structure LeapIndependent (data₁ data₂ : PeerRequestData) (env : RequestEnv) (d : Daemon) :
    Prop where
  replies : replies (handlePeerRequestThread data₁ env d).trace =
    replies (handlePeerRequestThread data₂ env d).trace
  event₁ : (handlePeerRequestThread data₁ env d).state.leap.event = d.leap.event
  event₂ : (handlePeerRequestThread data₂ env d).state.leap.event = d.leap.event

/-- Neither leap indicator has anything to schedule, and both requests are dropped for it or neither
is, or there is no way to reply. -/
structure LeapImmaterial (ip port : CString) (li₁ li₂ : UInt8) (env : RequestEnv) (d : Daemon) :
    Prop where
  schedules₁ : SchedulesNothing li₁ env.leapSchedule d.leap
  schedules₂ : SchedulesNothing li₂ env.leapSchedule d.leap
  dropped : (li₁ = 3 ↔ li₂ = 3) ∨ ¬ Deliverable ip port env

/-- Two requests that agree but for the leap indicator are handled alike, and without an effect on
the scheduled event, exactly if they fail a check or the indicators are immaterial. -/
theorem leapIndependent_iff {data₁ data₂ : PeerRequestData} (h : data₁.EqButLi data₂)
    (env : RequestEnv) (d : Daemon) :
    LeapIndependent data₁ data₂ env d ↔
      ∀ buffer₁ buffer₂ responseMode, Eligible data₁ env d buffer₁ responseMode →
        data₂.buffer = some buffer₂ →
          LeapImmaterial data₁.ip data₁.port (readHeader buffer₁).li (readHeader buffer₂).li env
            d := by
  constructor
  · intro hind buffer₁ buffer₂ responseMode heligible hbuffer
    obtain ⟨buffer₂', hbuffer', hmem⟩ := h.exists_buffer heligible.received
    obtain rfl : buffer₂' = buffer₂ := Option.some_injective _ (hbuffer'.symm.trans hbuffer)
    exact {
      schedules₁ := heligible.event_iff.mp hind.event₁
      schedules₂ := (heligible.of_eqButLi h hmem hbuffer).event_iff.mp hind.event₂
      dropped := (heligible.replies_eq_iff h hmem hbuffer).mp hind.replies }
  · intro himmaterial
    -- either both requests are eligible or neither is
    by_cases heligible : ∃ buffer₁ responseMode, Eligible data₁ env d buffer₁ responseMode
    · obtain ⟨buffer₁, responseMode, heligible⟩ := heligible
      obtain ⟨buffer₂, hbuffer, hmem⟩ := h.exists_buffer heligible.received
      have hcond := himmaterial _ _ _ heligible hbuffer
      exact {
        replies := (heligible.replies_eq_iff h hmem hbuffer).mpr hcond.dropped
        event₁ := heligible.event_iff.mpr hcond.schedules₁
        event₂ := (heligible.of_eqButLi h hmem hbuffer).event_iff.mpr hcond.schedules₂ }
    · -- then neither request gets past the checks
      have hnot₁ : ∀ buffer m, ¬ Handled data₁ env d buffer m := fun buffer m hhandled =>
        heligible ⟨buffer, m, (handled_iff.mp hhandled).1⟩
      have hnot₂ : ∀ buffer m, ¬ Handled data₂ env d buffer m := by
        intro buffer₂ m hhandled
        obtain ⟨buffer₁, hbuffer, hmem⟩ := h.symm.exists_buffer hhandled.received
        exact heligible ⟨buffer₁, m, (handled_iff.mp hhandled).1.of_eqButLi h.symm hmem hbuffer⟩
      obtain ⟨hstate₁, hsends₁⟩ := handlePeerRequestThread_of_not_handled hnot₁
      obtain ⟨hstate₂, hsends₂⟩ := handlePeerRequestThread_of_not_handled hnot₂
      exact {
        replies := by
          unfold replies
          rw [hsends₁, hsends₂]
        event₁ := by rw [hstate₁]
        event₂ := by rw [hstate₂] }

/-- The request of the client at `10.0.0.1` with a leap indicator. -/
def indicatingRequest (li : UInt8) : PeerRequestData :=
  { sampleRequest with
    buffer := some (Mem.ofList ((li <<< ntpLiShift ||| 0x23) ::
      (createNtpRequest Globals.init ⟨3900000000, 5⟩).tail)) }

theorem eqButLi_indicatingRequest : (indicatingRequest 0).EqButLi (indicatingRequest 1) where
  buffer := .some {
    first := by decide
    rest := fun i hi => by
      obtain ⟨i, rfl⟩ := Nat.exists_eq_add_of_le hi
      rw [Nat.add_comm]
      rfl }
  size := rfl
  ip := rfl
  port := rfl

theorem leapIndependent_iff_indicatingRequest :
    LeapIndependent (indicatingRequest 0) (indicatingRequest 1) workingRequestEnv openServer ↔
      ∀ buffer₁ buffer₂ responseMode,
        Eligible (indicatingRequest 0) workingRequestEnv openServer buffer₁ responseMode →
          (indicatingRequest 1).buffer = some buffer₂ →
            LeapImmaterial "10.0.0.1".toList "123".toList (readHeader buffer₁).li
              (readHeader buffer₂).li workingRequestEnv openServer :=
  leapIndependent_iff eqButLi_indicatingRequest workingRequestEnv openServer

/-- A leap indicator of 1 in a client's request schedules a minute's correction, and one of 3 costs
the client its reply. -/
theorem not_leapIndependent_indicatingRequest :
    (handlePeerRequestThread (indicatingRequest 1) workingRequestEnv openServer).state.leap.event =
        (true, 1, 60000000, 1700000040) ∧
      ¬ LeapIndependent (indicatingRequest 0) (indicatingRequest 1) workingRequestEnv openServer ∧
      ¬ LeapIndependent (indicatingRequest 0) (indicatingRequest 3) workingRequestEnv
        openServer := by
  have hevent : (handlePeerRequestThread (indicatingRequest 1) workingRequestEnv
      openServer).state.leap.event = (true, 1, 60000000, 1700000040) := by decide +kernel
  refine ⟨hevent, fun h => ?_, fun h => ?_⟩
  · have hkept := h.event₂
    rw [hevent] at hkept
    exact absurd hkept (by decide)
  · have hreplied := congrArg List.length h.replies
    exact absurd hreplied (by decide +kernel)

end Dntpd
