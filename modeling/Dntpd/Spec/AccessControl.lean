import Dntpd.Spec.Socket
import Dntpd.Spec.Threads

/-!
# Access control on the two server paths

The handler of the listener answers no request that `acl_check_client` or `rate_limit_check`
refuses.  The handler of the peer thread asks neither, so on that path the refusals have no effect:
`accessControlled_iff` says for which requests this shows.
-/

namespace Dntpd

open Proc

/-- A request from `ip` of the mode `mode` is refused at the time `now`. -/
def Refused (ip : CString) (mode : UInt8) (now : ℤ) (d : Daemon) : Prop :=
  (aclCheckClient (some ip) mode d).ret = false ∨ (rateLimitCheck (some ip) now d).ret ≠ 0

theorem Admitted.not_refused {buffer : Mem} {size : ℕ} {ip : CString} {pkt : NtpHeader} {now : ℤ}
    {d : Daemon} {responseMode : UInt8} (h : Admitted buffer size ip pkt now d responseMode) :
    ¬ Refused ip pkt.mode now d := by
  rintro (hacl | hrate)
  · exact Bool.false_ne_true (hacl.symm.trans h.acl)
  · exact hrate h.rate

/-- The listener's handler sends nothing for a refused request. -/
theorem sends_handlePeerRequestThread_of_refused {buffer : Mem} {size : ℕ} {ip port : CString}
    {env : RequestEnv} {d : Daemon}
    (h : Refused ip (readHeader buffer).mode env.rateCheckTime d) :
    sends (handlePeerRequestThread ⟨some buffer, size, ip, port⟩ env d).trace = [] := by
  obtain ⟨-, hsent⟩ | ⟨buffer', responseMode, hhandled, -⟩ :=
    handlePeerRequestThread_cases ⟨some buffer, size, ip, port⟩ env d
  · exact hsent
  · obtain rfl : buffer = buffer' := Option.some_injective _ hhandled.received
    exact absurd h hhandled.admitted.not_refused

/-- The peer thread's handler replies unless the request is unacceptable or `sendto` fails. -/
theorem replies_handlePeerRequest_eq_nil_iff (buffer : Mem) (size : ℕ) (peerIdx : ℤ)
    (env : PeerReplyEnv) (d : Daemon) :
    replies (handlePeerRequest buffer size peerIdx env d).trace = [] ↔
      ¬ (PeerAnswers buffer size peerIdx d ∧ env.sendto.toBool = true) := by
  obtain ⟨hanswers, hsilent⟩ := sends_handlePeerRequest buffer size peerIdx env d
  by_cases hp : PeerAnswers buffer size peerIdx d
  · obtain ⟨dest, hsends⟩ := hanswers hp
    unfold replies
    rw [hsends]
    cases env.sendto.toBool with
    | false => simp
    | true => simp [hp]
  · unfold replies
    rw [hsilent hp]
    simp [hp]

/-- A refused request gets a reply on neither path. -/
def AccessControlled (buffer : Mem) (size : ℕ) (ip port : CString) (peerIdx : ℤ)
    (peerEnv : PeerReplyEnv) (env : RequestEnv) (d : Daemon) : Prop :=
  Refused ip (readHeader buffer).mode env.rateCheckTime d →
    replies (handlePeerRequest buffer size peerIdx peerEnv d).trace = [] ∧
      replies (handlePeerRequestThread ⟨some buffer, size, ip, port⟩ env d).trace = []

/-- Access control has its effect exactly when nothing is refused or the peer thread's handler has
another reason not to reply. -/
theorem accessControlled_iff (buffer : Mem) (size : ℕ) (ip port : CString) (peerIdx : ℤ)
    (peerEnv : PeerReplyEnv) (env : RequestEnv) (d : Daemon) :
    AccessControlled buffer size ip port peerIdx peerEnv env d ↔
      ¬ Refused ip (readHeader buffer).mode env.rateCheckTime d ∨
        ¬ (PeerAnswers buffer size peerIdx d ∧ peerEnv.sendto.toBool = true) := by
  unfold AccessControlled
  rw [replies_handlePeerRequest_eq_nil_iff]
  constructor
  · intro h
    by_cases hrefused : Refused ip (readHeader buffer).mode env.rateCheckTime d
    · exact .inr (h hrefused).1
    · exact .inl hrefused
  · rintro (hallowed | hsilent) hrefused
    · exact absurd hrefused hallowed
    · refine ⟨hsilent, ?_⟩
      unfold replies
      rw [sends_handlePeerRequestThread_of_refused hrefused]
      rfl

/-- Clocks and a network that work, for the listener's handler. -/
def workingRequestEnv : RequestEnv where
  stalePkt := NtpPacket.zero
  rateCheckTime := 1700000000
  leapSchedule := ⟨sampleTime, 1700000000⟩
  t2Clock := sampleTime
  t3Clock := sampleTime
  socket := ⟨.ok 5, .ok (), .ok ()⟩
  sendto := .ok ()
  broadcast := ⟨1700000000, ⟨.ok 5, .ok (), .ok ()⟩, .ok (), .ok ()⟩
  rateUpdateTime := 1700000000

/-- The default policy serves nobody; the peer thread's handler replies to `10.0.0.1` all the
same. -/
theorem syncedServer_not_accessControlled :
    let request := createNtpRequest Globals.init ⟨3900000000, 5⟩ ++ List.replicate 32 0
    Refused "10.0.0.1".toList (readHeader (Mem.ofList request)).mode 1700000000 syncedServer ∧
      (replies (handlePeerRequest (Mem.ofList request) request.length 0 workingReplyEnv
        syncedServer).trace).length = 1 ∧
      ¬ AccessControlled (Mem.ofList request) request.length "10.0.0.1".toList "1024".toList 0
        workingReplyEnv workingRequestEnv syncedServer := by
  intro request
  have hrefused :
      Refused "10.0.0.1".toList (readHeader (Mem.ofList request)).mode 1700000000 syncedServer :=
    .inl (by decide)
  have hsends := sends_handlePeerRequest_of_index (Mem.ofList request) request.length
    ⟨0, by decide⟩ workingReplyEnv syncedServer
  -- it is longer than a header, so the thread of the peer answers it
  rw [if_pos (by decide)] at hsends
  have hlength : (replies (handlePeerRequest (Mem.ofList request) request.length 0 workingReplyEnv
      syncedServer).trace).length = 1 :=
    congrArg (fun l => (List.filterMap _ l).length) hsends
  refine ⟨hrefused, hlength, fun h => ?_⟩
  rw [(h hrefused).1] at hlength
  exact absurd hlength (by decide)

end Dntpd
