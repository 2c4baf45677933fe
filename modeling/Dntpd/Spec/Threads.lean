import Dntpd.Initial
import Dntpd.Spec.LeapSecond
import Dntpd.Spec.NtpPacket
import Dntpd.Threads

/-!
# What the peer thread's handler sends

`handle_peer_request` sends one datagram, to the address of the peer's last request, exactly for the
requests `PeerAnswers` describes (`sends_handlePeerRequest`).  The datagram is the in-memory image
of a client-mode packet, so the daemon's own client does not take it for an answer
(`not_answersClient`).
-/

namespace Dntpd

open Proc

/-! ### Calls -/

@[simp] theorem readTimestampNow_ret (clock : Except Errno Timespec) (d : Daemon) :
    (readTimestampNow clock d).ret = ntpTimestampNow clock := by
  unfold readTimestampNow
  rw [bind_ret, pure_ret, sys_ret]

@[simp] theorem readTimestampNow_trace (clock : Except Errno Timespec) (d : Daemon) :
    (readTimestampNow clock d).trace = [] := by
  unfold readTimestampNow
  rw [bind_trace, sys_trace]
  rfl

theorem readTimestampNow_frame (clock : Except Errno Timespec) (E : Event → Prop) :
    Frame Daemon.eraseErrno E (readTimestampNow clock) :=
  .bind (sys_frame _ _) fun _ => .pure _

@[simp] theorem sendto_trace (sender : Sender) (bytes : List UInt8) (dest : SockAddrIn)
    (r : Except Errno Unit) (d : Daemon) :
    (sendto sender bytes dest r d).trace = [.sendto sender dest bytes r.toBool] := by
  cases r <;> rfl

@[simp] theorem sendto_ret (sender : Sender) (bytes : List UInt8) (dest : SockAddrIn)
    (r : Except Errno Unit) (d : Daemon) : (sendto sender bytes dest r d).ret = callStatus r := by
  cases r <;> rfl

theorem sendto_frame (sender : Sender) (bytes : List UInt8) (dest : SockAddrIn)
    (r : Except Errno Unit) :
    Frame Daemon.eraseErrno (fun _ => True) (sendto sender bytes dest r) :=
  .bind (sys_frame _ _) fun _ => .bind (.emit trivial) fun _ => .pure _

/-! ### The handler -/

/-- The daemon without `errno` and the state of the extension that packets may carry. -/
def Daemon.eraseIdo (d : Daemon) : Daemon := { d with errno := 0, ido := Daemon.init.ido }

/-- The handler of the peer thread parses, and reads the published variables. -/
theorem handlePeerRequest_frame (buffer : Mem) (size : ℕ) (peerIdx : ℤ) (env : PeerReplyEnv) :
    Frame Daemon.eraseIdo (fun _ => True) (handlePeerRequest buffer size peerIdx env) := by
  have hreply : ∀ idx pkt, Frame Daemon.eraseIdo (fun _ => True) (sendPeerReply idx pkt env) := by
    intro idx pkt
    refine .bind (.emit trivial) fun _ => .bind .read fun d => .ite ?_ ?_
    · refine .bind ((readTimestampNow_frame _ fun _ => True).mono Daemon.eraseIdo fun _ he => he)
        fun _ => ?_
      refine .bind ((sendto_frame _ _ _ _).mono Daemon.eraseIdo fun _ he => he) fun _ => ?_
      exact .bind (.emit trivial) fun _ => .pure _
    · exact .bind (.emit trivial) fun _ => .pure _
  unfold handlePeerRequest
  split
  · refine .ite (.pure _) (.bind .read fun d => .bind (.update fun _ => rfl) fun _ => ?_)
    exact .ite (.pure _) (.ite (.pure _) (hreply _ _))
  · exact .pure _

/-- The requests the handler answers: the index is in range and its socket valid, the datagram has
the size of the packet in memory, and its header is an acceptable one of mode 3. -/
def PeerAnswers (buffer : Mem) (size : ℕ) (peerIdx : ℤ) (d : Daemon) : Prop :=
  ∃ idx : Fin maxPeers, (idx : ℤ) = peerIdx ∧ (d.peerCtx idx).sockValid = true ∧
    sizeofNtpPacket ≤ size ∧ HeaderAccepted (readHeader buffer) ∧
    (readHeader buffer).mode = ntpModeClient

/-- The datagram a valid peer context is answered with. -/
theorem sends_sendPeerReply (idx : Fin maxPeers) (pkt : NtpHeader) (env : PeerReplyEnv)
    (d : Daemon) :
    sends (sendPeerReply idx pkt env d).trace =
      if (d.peerCtx idx).sockValid = true then
        [(.handlePeerRequest, (d.peerCtx idx).clientAddr,
          packetImage (peerRequestResponse d.g pkt (ntpTimestampNow env.clock)), env.sendto.toBool)]
      else [] := by
  unfold sendPeerReply lock unlock
  by_cases hvalid : (d.peerCtx idx).sockValid = true
  · simp [hvalid, Event.sent]
  · simp [hvalid, Event.sent]

/-- What the handler sends for a datagram that reaches the reply. -/
theorem sends_handlePeerRequest_of_index (buffer : Mem) (size : ℕ) (idx : Fin maxPeers)
    (env : PeerReplyEnv) (d : Daemon) :
    sends (handlePeerRequest buffer size idx env d).trace =
      if sizeofNtpPacket ≤ size ∧ HeaderAccepted (readHeader buffer) ∧
          (readHeader buffer).mode = ntpModeClient ∧ (d.peerCtx idx).sockValid = true then
        [(.handlePeerRequest, (d.peerCtx idx).clientAddr,
          packetImage (peerRequestResponse d.g (readHeader buffer) (ntpTimestampNow env.clock)),
          env.sendto.toBool)]
      else [] := by
  have hidx : 0 ≤ (idx : ℤ) ∧ (idx : ℤ) < maxPeers := ⟨by omega, by exact_mod_cast idx.isLt⟩
  have hparse := parseNtpPacket_ok_iff buffer size NtpPacket.zero d.ido
  have hkod : ntpIsKod NtpPacket.zero.toNtpHeader = false := rfl
  unfold handlePeerRequest
  rw [dif_pos hidx]
  by_cases hsize : size < sizeofNtpPacket
  · simp [hsize]
  have h48 : 48 ≤ size := (by decide : 48 ≤ sizeofNtpPacket).trans (not_lt.mp hsize)
  -- the handler zeroes the packet, so the stale marker cannot fail the parse
  by_cases hok : (parseNtpPacket buffer size NtpPacket.zero d.ido).ok = true
  · have hhdr := parseNtpPacket_toNtpHeader hok
    have hacc : HeaderAccepted (readHeader buffer) := (hparse.mp hok).2.2
    by_cases hmode : (readHeader buffer).mode = ntpModeClient
    · simp [hsize, hok, hhdr, hmode, hacc, not_lt.mp hsize, sends_sendPeerReply]
    · simp [hsize, hok, hhdr, hmode]
  · have hacc : ¬ HeaderAccepted (readHeader buffer) := fun h => hok (hparse.mpr ⟨h48, hkod, h⟩)
    simp [hsize, hok, hacc]

/-- The handler sends exactly one datagram for the requests it answers, and none for others. -/
theorem sends_handlePeerRequest (buffer : Mem) (size : ℕ) (peerIdx : ℤ) (env : PeerReplyEnv)
    (d : Daemon) :
    (PeerAnswers buffer size peerIdx d → ∃ dest, sends (handlePeerRequest buffer size peerIdx env
        d).trace = [(.handlePeerRequest, dest,
          packetImage (peerRequestResponse d.g (readHeader buffer) (ntpTimestampNow env.clock)),
          env.sendto.toBool)]) ∧
      (¬ PeerAnswers buffer size peerIdx d →
        sends (handlePeerRequest buffer size peerIdx env d).trace = []) := by
  constructor
  · rintro ⟨idx, rfl, hvalid, hsize, hacc, hmode⟩
    exact ⟨_, by rw [sends_handlePeerRequest_of_index, if_pos ⟨hsize, hacc, hmode, hvalid⟩]⟩
  · intro hnot
    -- an index without a context is refused before anything is read
    by_cases hidx : 0 ≤ peerIdx ∧ peerIdx < maxPeers
    · obtain ⟨idx, rfl⟩ : ∃ idx : Fin maxPeers, (idx : ℤ) = peerIdx :=
        ⟨⟨peerIdx.toNat, by omega⟩, by simp [hidx.1]⟩
      rw [sends_handlePeerRequest_of_index, if_neg]
      rintro ⟨hsize, hacc, hmode, hvalid⟩
      exact hnot ⟨idx, rfl, hvalid, hsize, hacc, hmode⟩
    · unfold handlePeerRequest
      rw [dif_neg hidx]
      rfl

/-! ### The daemon's own client -/

/-- The datagrams of a trace that were sent. -/
def replies (tr : List Event) : List (SockAddrIn × List UInt8) :=
  (sends tr).filterMap fun s => if s.2.2.2 then some (s.2.1, s.2.2.1) else none

theorem mem_replies {tr : List Event} {dest : SockAddrIn} {bytes : List UInt8} :
    (dest, bytes) ∈ replies tr ↔ ∃ sender, (sender, dest, bytes, true) ∈ sends tr := by
  unfold replies
  rw [List.mem_filterMap]
  constructor
  · rintro ⟨⟨sender, dest', bytes', ok⟩, hmem, h⟩
    cases ok with
    | false => cases h
    | true =>
      cases h
      exact ⟨sender, hmem⟩
  · rintro ⟨sender, hmem⟩
    exact ⟨_, hmem, rfl⟩

/-- A client that asked at `t1` takes the header for an answer of a server in the state `g`: it
passes the checks before the delay is computed, and carries the server's variables. -/
structure AcceptableReply (g : Globals) (t1 : NtpTimestamp) (h : NtpHeader) : Prop where
  version : h.vn = ntpVn4
  mode : h.mode = ntpModeServer
  origTs : h.origTs = t1
  xmitTs : h.xmitTs ≠ ⟨0, 0⟩
  stratum : h.stratum = g.localStratum
  rootDelay : h.rootDelay = g.localRootDelay
  rootDisp : h.rootDisp = g.localRootDisp
  refId : h.refId = g.localRefId
  refTs : h.refTs = g.localRefTs

/-- The handler sends exactly one reply, which parses and which the client accepts. -/
def AnswersClient (t1 : NtpTimestamp) (buffer : Mem) (size : ℕ) (peerIdx : ℤ) (env : PeerReplyEnv)
    (d : Daemon) : Prop :=
  ∃ dest bytes, replies (handlePeerRequest buffer size peerIdx env d).trace = [(dest, bytes)] ∧
    ∃ pkt s, (parseNtpPacket (Mem.ofList bytes) bytes.length pkt s).ok = true ∧
      AcceptableReply d.g t1 (parseNtpPacket (Mem.ofList bytes) bytes.length pkt s).pkt.toNtpHeader

/-- The mode bits of the image the handler sends are those of a client. -/
theorem mode_peerRequestResponse (g : Globals) (pkt : NtpHeader) (now : NtpTimestamp) :
    (readHeader (Mem.ofList (packetImage (peerRequestResponse g pkt now)))).mode =
      ntpModeClient := by
  have hbyte : (readHeader (Mem.ofList (packetImage (peerRequestResponse g pkt now)))).liVnMode
      = 0x23 := rfl
  unfold NtpHeader.mode
  rw [hbyte]
  rfl

/-- The bytes of the handler's replies. -/
theorem eq_packetImage_of_mem_replies {buffer : Mem} {size : ℕ} {peerIdx : ℤ} {env : PeerReplyEnv}
    {d : Daemon} {dest : SockAddrIn} {bytes : List UInt8}
    (h : (dest, bytes) ∈ replies (handlePeerRequest buffer size peerIdx env d).trace) :
    bytes = packetImage
      (peerRequestResponse d.g (readHeader buffer) (ntpTimestampNow env.clock)) := by
  obtain ⟨sender, hmem⟩ := mem_replies.mp h
  obtain ⟨hanswers, hsilent⟩ := sends_handlePeerRequest buffer size peerIdx env d
  by_cases hp : PeerAnswers buffer size peerIdx d
  · obtain ⟨dest', hsends⟩ := hanswers hp
    rw [hsends, List.mem_singleton] at hmem
    exact congrArg (fun s => s.2.2.1) hmem
  · rw [hsilent hp] at hmem
    exact absurd hmem List.not_mem_nil

/-- No reply of the handler has server mode. -/
theorem mode_ne_of_mem_replies {buffer : Mem} {size : ℕ} {peerIdx : ℤ} {env : PeerReplyEnv}
    {d : Daemon} {dest : SockAddrIn} {bytes : List UInt8}
    (h : (dest, bytes) ∈ replies (handlePeerRequest buffer size peerIdx env d).trace) :
    (readHeader (Mem.ofList bytes)).mode ≠ ntpModeServer := by
  rw [eq_packetImage_of_mem_replies h, mode_peerRequestResponse]
  decide

theorem AnswersClient.exists_server_mode {t1 : NtpTimestamp} {buffer : Mem} {size : ℕ}
    {peerIdx : ℤ} {env : PeerReplyEnv} {d : Daemon}
    (h : AnswersClient t1 buffer size peerIdx env d) :
    ∃ dest bytes, (dest, bytes) ∈ replies (handlePeerRequest buffer size peerIdx env d).trace ∧
      (readHeader (Mem.ofList bytes)).mode = ntpModeServer := by
  obtain ⟨dest, bytes, hreplies, pkt, s, hok, hacc⟩ := h
  refine ⟨dest, bytes, ?_, ?_⟩
  · rw [hreplies]
    exact List.mem_singleton_self _
  · rw [← parseNtpPacket_toNtpHeader hok]
    exact hacc.mode

/-- No datagram makes the handler answer so that the daemon's client accepts it. -/
theorem not_answersClient (t1 : NtpTimestamp) (buffer : Mem) (size : ℕ) (peerIdx : ℤ)
    (env : PeerReplyEnv) (d : Daemon) : ¬ AnswersClient t1 buffer size peerIdx env d := by
  intro h
  obtain ⟨dest, bytes, hmem, hmode⟩ := h.exists_server_mode
  exact mode_ne_of_mem_replies hmem hmode

/-- A datagram that starts with the request a client sends at `t1`. -/
def IsClientRequest (client : Globals) (t1 : NtpTimestamp) (buffer : Mem) (size : ℕ) : Prop :=
  48 ≤ size ∧ ∀ i : Fin 48, buffer i = (createNtpRequest client t1).getD i 0

/-- A synchronised server of stratum 2 whose first peer socket is valid. -/
def syncedServer : Daemon :=
  { Daemon.init with
    g := { Globals.init with timeSynced := true, localStratum := 2 }
    peerCtx := fun _ => ⟨true, ⟨0x0100000A, 1024⟩⟩ }

/-- A clock reading. -/
def sampleTime : Except Errno Timespec := .ok ⟨1700000000, 0, by decide⟩

/-- A clock reading on the second. -/
def wholeSecond (sec : ℤ) : Timespec := ⟨sec, 0, by decide⟩

/-- A clock and a network that work. -/
def workingReplyEnv : PeerReplyEnv := ⟨sampleTime, .ok ()⟩

/-- The request alone gets no reply; followed by 32 zero bytes it gets one that no client
accepts. -/
theorem syncedServer_not_answersClient :
    let request := createNtpRequest Globals.init ⟨3900000000, 5⟩
    let padded := request ++ List.replicate 32 0
    (IsClientRequest Globals.init ⟨3900000000, 5⟩ (Mem.ofList request) request.length ∧
        replies (handlePeerRequest (Mem.ofList request) request.length 0 workingReplyEnv
          syncedServer).trace = [] ∧
        ¬ AnswersClient ⟨3900000000, 5⟩ (Mem.ofList request) request.length 0 workingReplyEnv
          syncedServer) ∧
      (IsClientRequest Globals.init ⟨3900000000, 5⟩ (Mem.ofList padded) padded.length ∧
        (replies (handlePeerRequest (Mem.ofList padded) padded.length 0 workingReplyEnv
          syncedServer).trace).length = 1 ∧
        ¬ AnswersClient ⟨3900000000, 5⟩ (Mem.ofList padded) padded.length 0 workingReplyEnv
          syncedServer) := by
  intro request padded
  have hnot : ∀ buffer size,
      ¬ AnswersClient ⟨3900000000, 5⟩ buffer size 0 workingReplyEnv syncedServer := by
    intro buffer size h
    obtain ⟨dest, bytes, hmem, hmode⟩ := h.exists_server_mode
    exact mode_ne_of_mem_replies hmem hmode
  have hsends := fun buffer size => sends_handlePeerRequest_of_index buffer size ⟨0, by decide⟩
    workingReplyEnv syncedServer
  refine ⟨⟨⟨by decide, by decide⟩, ?_, hnot _ _⟩, ⟨⟨by decide, by decide⟩, ?_, hnot _ _⟩⟩
  · -- the request is too short for the check, so nothing is sent
    have hnone := hsends (Mem.ofList request) request.length
    rw [if_neg (by decide)] at hnone
    exact congrArg _ hnone
  · -- with 32 bytes more it is answered, but in another mode
    have hone := hsends (Mem.ofList padded) padded.length
    rw [if_pos (by decide)] at hone
    exact congrArg (fun l => (List.filterMap _ l).length) hone

end Dntpd
