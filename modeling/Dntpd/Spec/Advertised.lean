import Dntpd.Library.Run
import Dntpd.Spec.PacketCodec
import Dntpd.Spec.PortValidation

/-!
# What an unsynchronised daemon says of itself

The listener's handler answers with a leap indicator of 3 and stratum 16 as long as `g_time_synced`
is false.  The peer thread's handler writes a leap indicator of 0 and whatever the other variables
hold, which after a demoted reply may be the stratum of a synchronised daemon
(`demotedDaemon_not_advertisesUnsynced`).  So a run is honest exactly if that handler does not reply
before the daemon is synchronised (`advertisesUnsynced_iff`).
-/

namespace Dntpd

open Proc

/-- The datagram says that its sender is not synchronised. -/
def SaysUnsynced (bytes : List UInt8) : Prop :=
  (readHeader (Mem.ofList bytes)).li = 3 ∧ (readHeader (Mem.ofList bytes)).stratum = 16

/-! ### The two handlers -/

theorem saysUnsynced_responseTo {d : Daemon} (h : d.g.timeSynced = false) {responseMode : UInt8}
    (hm : responseMode.toNat < 8) (pkt : NtpHeader) (env : RequestEnv) :
    SaysUnsynced (responseTo d responseMode pkt env) := by
  have hcarries := carriesResponse_responseHeader d hm pkt env
  have hunsynced : ¬ d.g.timeSynced = true := Bool.eq_false_iff.mp h
  unfold SaysUnsynced
  rw [responseTo_eq_writeHeader, readHeader_writeHeader, hcarries.li, hcarries.stratum,
    if_neg hunsynced, if_neg hunsynced]
  exact ⟨rfl, rfl⟩

/-- Every response of the listener's handler says so. -/
theorem saysUnsynced_of_mem_replies {data : PeerRequestData} {env : RequestEnv} {d : Daemon}
    (h : d.g.timeSynced = false) {reply : SockAddrIn × List UInt8}
    (hreply : reply ∈ replies (handlePeerRequestThread data env d).trace) :
    SaysUnsynced reply.2 := by
  obtain ⟨sender, hsent⟩ := mem_replies.mp hreply
  obtain ⟨buffer, responseMode, hhandled, hbytes⟩ := exists_responseTo_of_mem_sends hsent
  have hbytes' : reply.2 = responseTo d responseMode (readHeader buffer) env := hbytes
  rw [hbytes']
  exact saysUnsynced_responseTo h (responseModeFor_toNat_lt hhandled.admitted.mode) _ _

/-- No response of the peer thread's handler does. -/
theorem not_saysUnsynced_peerRequestResponse (g : Globals) (pkt : NtpHeader) (now : NtpTimestamp) :
    ¬ SaysUnsynced (packetImage (peerRequestResponse g pkt now)) := by
  have hbyte : (readHeader (Mem.ofList (packetImage (peerRequestResponse g pkt now)))).liVnMode
      = 0x23 := rfl
  rintro ⟨hli, -⟩
  unfold NtpHeader.li at hli
  rw [hbyte] at hli
  exact absurd hli (by decide)

theorem forall_saysUnsynced_handlePeerRequest_iff (buffer : Mem) (size : ℕ) (peerIdx : ℤ)
    (env : PeerReplyEnv) (d : Daemon) :
    (∀ reply ∈ replies (handlePeerRequest buffer size peerIdx env d).trace, SaysUnsynced reply.2) ↔
      ¬ (PeerAnswers buffer size peerIdx d ∧ env.sendto.toBool = true) := by
  rw [← replies_handlePeerRequest_eq_nil_iff]
  constructor
  · intro h
    -- any reply would not say so
    refine List.eq_nil_iff_forall_not_mem.mpr fun reply hreply => ?_
    have hsays := h reply hreply
    rw [eq_packetImage_of_mem_replies hreply] at hsays
    exact not_saysUnsynced_peerRequestResponse _ _ _ hsays
  · intro hnil reply hreply
    rw [hnil] at hreply
    exact absurd hreply List.not_mem_nil

/-! ### Runs -/

/-- What a run consists of: sync attempts, and requests to the two handlers. -/
inductive Activity
  | syncAttempt (a : SyncAttempt)
  | peerRequest (buffer : Mem) (size : ℕ) (peerIdx : ℤ) (env : PeerReplyEnv)
  | clientRequest (data : PeerRequestData) (env : RequestEnv)

namespace Activity

def after : Activity → Daemon → Daemon
  | .syncAttempt a, d => a.after d
  | .peerRequest buffer size peerIdx env, d => (handlePeerRequest buffer size peerIdx env d).state
  | .clientRequest data env, d => (handlePeerRequestThread data env d).state

/-- The responses a handler sends. -/
def responses : Activity → Daemon → List (SockAddrIn × List UInt8)
  | .syncAttempt _, _ => []
  | .peerRequest buffer size peerIdx env, d =>
    replies (handlePeerRequest buffer size peerIdx env d).trace
  | .clientRequest data env, d => replies (handlePeerRequestThread data env d).trace

/-- If the daemon is unsynchronised, the responses say so. -/
def AdvertisesUnsynced (a : Activity) (d : Daemon) : Prop :=
  d.g.timeSynced = false → ∀ reply ∈ a.responses d, SaysUnsynced reply.2

/-- The step is no reply of the peer thread's handler of an unsynchronised daemon. -/
def NoPeerReply : Activity → Daemon → Prop
  | .peerRequest buffer size peerIdx env, d =>
    ¬ (d.g.timeSynced = false ∧ PeerAnswers buffer size peerIdx d ∧ env.sendto.toBool = true)
  | _, _ => True

theorem advertisesUnsynced_step_iff (a : Activity) (d : Daemon) :
    a.AdvertisesUnsynced d ↔ a.NoPeerReply d := by
  cases a with
  | syncAttempt a => exact iff_of_true (fun _ => nofun) trivial
  | clientRequest data env =>
    exact iff_of_true (fun h reply hreply => saysUnsynced_of_mem_replies h hreply) trivial
  | peerRequest buffer size peerIdx env =>
    have hiff := forall_saysUnsynced_handlePeerRequest_iff buffer size peerIdx env d
    exact (imp_congr_right fun _ => hiff).trans not_and.symm

/-- Along a run, the responses of an unsynchronised daemon say that it is exactly if its peer
thread's handler sends none. -/
theorem advertisesUnsynced_iff (activities : List Activity) (d : Daemon) :
    Run.Along after AdvertisesUnsynced activities d ↔ Run.Along after NoPeerReply activities d :=
  Run.along_congr advertisesUnsynced_step_iff activities d

end Activity

/-! ### A demoted daemon -/

/-- A reply that copies the request's timestamp and is sent six seconds after it. -/
def slowReply : List UInt8 :=
  let t1 := ntpTimestampNow sampleTime
  let t2 : NtpTimestamp := ⟨t1.sec + 6, t1.frac⟩
  [0x24, 1] ++ List.replicate 22 0 ++ writeTimestamp t1 ++ writeTimestamp t2 ++ writeTimestamp t2

/-- An attempt that receives the reply twelve seconds after the request, and rejects it for its
delay. -/
def slowAttempt : SyncAttempt :=
  ⟨some "10.0.0.1".toList, some "123".toList,
    { workingSyncEnv slowReply with t4Clock := .ok (wholeSecond 1700000012) }⟩

/-- A daemon at program start with a peer thread. -/
def polledDaemon : Daemon :=
  { unreachedDaemon with peerCtx := fun _ => ⟨true, ⟨0x0100000A, 1024⟩⟩ }

/-- A client's request, padded to the size of the packet in memory. -/
def paddedRequest : Activity :=
  .peerRequest (Mem.ofList (createNtpRequest Globals.init ⟨3900000000, 5⟩ ++ List.replicate 32 0))
    80 0 workingReplyEnv

/-- The daemon after a reply it accepted, and one that was too slow. -/
def demotedDaemon : Daemon := slowAttempt.after (echoAttempt.after polledDaemon)

/-- The demoted daemon is not synchronised, and answers with a leap indicator of 0 and stratum 2. -/
theorem demotedDaemon_not_advertisesUnsynced :
    demotedDaemon.g.timeSynced = false ∧
      (paddedRequest.responses demotedDaemon).map (fun reply =>
        ((readHeader (Mem.ofList reply.2)).li, (readHeader (Mem.ofList reply.2)).stratum)) =
          [(0, 2)] ∧
      ¬ Run.Along Activity.after Activity.AdvertisesUnsynced
        [.syncAttempt echoAttempt, .syncAttempt slowAttempt, paddedRequest] polledDaemon := by
  have hsynced : demotedDaemon.g.timeSynced = false := by decide +kernel
  have hresponses : (paddedRequest.responses demotedDaemon).map (fun reply =>
      ((readHeader (Mem.ofList reply.2)).li, (readHeader (Mem.ofList reply.2)).stratum)) =
        [(0, 2)] := by decide +kernel
  refine ⟨hsynced, hresponses, fun h => ?_⟩
  obtain ⟨-, -, hadvertises, -⟩ := h
  have hadvertises' : paddedRequest.AdvertisesUnsynced demotedDaemon := hadvertises
  have hmem : ((0, 2) : UInt8 × UInt8) ∈ (paddedRequest.responses demotedDaemon).map (fun reply =>
      ((readHeader (Mem.ofList reply.2)).li, (readHeader (Mem.ofList reply.2)).stratum)) := by
    rw [hresponses]
    exact List.mem_singleton_self _
  obtain ⟨reply, hreply, hvalues⟩ := List.mem_map.mp hmem
  have hzero : (readHeader (Mem.ofList reply.2)).li = 0 := congrArg Prod.fst hvalues
  have hli := (hadvertises' hsynced reply hreply).1
  rw [hzero] at hli
  exact absurd hli (by decide)

end Dntpd
