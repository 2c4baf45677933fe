import Dntpd.Spec.PacketCodec
import Dntpd.Spec.RateLimit

/-!
# Replies between two servers

The handler answers requests of the modes 1, 2, 3 and 5, and its answers have the modes 2, 4 and 5:
the answer to a client is never taken for a request, but those to a symmetric peer and to a
broadcast are, wherever the receiver's own checks admit them (`Handled.reflected_iff`).  What slows
such an exchange down is the rate limiter: an address that was replied to is refused until the
interval has passed (`replies_eq_nil_of_recent`).
-/

namespace Dntpd

open Proc

/-- The datagram reaches the handler as this request, in this memory. -/
structure DeliveredAs (bytes : List UInt8) (data : PeerRequestData) (buffer : Mem) : Prop where
  received : data.buffer = some buffer
  size : data.size = bytes.length
  bytes : ∀ i < bytes.length, buffer i = bytes.getD i 0

/-- The header is determined by the first 48 bytes. -/
theorem readHeader_congr {x y : Mem} (h : ∀ i < 48, x i = y i) : readHeader x = readHeader y := by
  have hbytes : writeHeader (readHeader x) = writeHeader (readHeader y) := by
    rw [writeHeader_readHeader, writeHeader_readHeader]
    exact List.map_congr_left fun i hi => h i (List.mem_range.mp hi)
  calc readHeader x = readHeader (Mem.ofList (writeHeader (readHeader x))) :=
        (readHeader_writeHeader _).symm
    _ = readHeader (Mem.ofList (writeHeader (readHeader y))) := by rw [hbytes]
    _ = readHeader y := readHeader_writeHeader _

/-- What the answer of `sender` is read as. -/
theorem DeliveredAs.readHeader_eq {sender : Daemon} {mode : UInt8} {pkt : NtpHeader}
    {senderEnv : RequestEnv} {data : PeerRequestData} {buffer : Mem}
    (h : DeliveredAs (responseTo sender mode pkt senderEnv) data buffer) :
    readHeader buffer = responseHeader sender mode pkt senderEnv := by
  have hlength := length_responseTo sender mode pkt senderEnv
  rw [← readHeader_writeHeader (responseHeader sender mode pkt senderEnv),
    ← responseTo_eq_writeHeader]
  exact readHeader_congr fun i hi => h.bytes i (by omega)

/-- The modes of answers that are answered, and with what. -/
theorem responseModeFor_answer_iff {broadcastMode broadcastMode' : ℤ} {mode answer : UInt8}
    (h : responseModeFor broadcastMode mode = some answer) (answer' : UInt8) :
    responseModeFor broadcastMode' answer = some answer' ↔ answer' = answer ∧
      (answer = ntpModeSymmetricPassive ∨ answer = ntpModeBroadcast ∧ broadcastMode' ≠ 0) := by
  have hsymmetric : responseModeFor broadcastMode' 2 = some 2 := rfl
  -- the answer of each mode, taken as a request
  cases answers_of_responseModeFor h with
  | client =>
    refine iff_of_false ?_ fun hanswer => ?_
    · nofun
    · rcases hanswer.2 with hmode | ⟨hmode, -⟩
      · cases hmode
      · cases hmode
  | symmetricActive =>
    rw [hsymmetric, Option.some_inj, eq_comm, and_iff_left (.inl rfl)]
  | symmetricPassive =>
    rw [hsymmetric, Option.some_inj, eq_comm, and_iff_left (.inl rfl)]
  | broadcast =>
    have hbroadcast : responseModeFor broadcastMode' 5 =
      if broadcastMode' = 0 then none else some 5 := rfl
    rw [hbroadcast]
    by_cases hoff : broadcastMode' = 0
    · rw [if_pos hoff]
      refine iff_of_false nofun fun hanswer => ?_
      rcases hanswer.2 with hmode | ⟨-, hon⟩
      · cases hmode
      · exact hon hoff
    · rw [if_neg hoff, Option.some_inj, eq_comm, and_iff_left (.inr ⟨rfl, hoff⟩)]

theorem CarriesResponse.li_of_synced {d : Daemon} {mode : UInt8} {pkt h : NtpHeader}
    {env : RequestEnv} (hcarries : CarriesResponse d mode pkt env h)
    (hsynced : d.g.timeSynced = true) : h.li = d.g.localLi &&& 0x03 := by
  rw [hcarries.li, if_pos hsynced, modeGetDefaultLi_run, if_pos hsynced]

theorem CarriesResponse.stratum_of_synced {d : Daemon} {mode : UInt8} {pkt h : NtpHeader}
    {env : RequestEnv} (hcarries : CarriesResponse d mode pkt env h)
    (hsynced : d.g.timeSynced = true) : h.stratum = d.g.localStratum := by
  rw [hcarries.stratum, if_pos hsynced, modeGetDefaultStratum_run, if_pos hsynced]

/-- The receiver `d` replies to an answer of `sender` of the mode `answer`. -/
structure Reflects (sender : Daemon) (answer : UInt8) (data : PeerRequestData) (env : RequestEnv)
    (d : Daemon) : Prop where
  mode : answer = ntpModeSymmetricPassive ∨ answer = ntpModeBroadcast ∧ d.cli.broadcastMode ≠ 0
  synced : sender.g.timeSynced = true
  li : sender.g.localLi &&& 0x03 ≠ 3
  stratum : sender.g.localStratum ≤ 16
  stale : ntpIsKod env.stalePkt.toNtpHeader = false
  acl : (aclCheckClient (some data.ip) answer d).ret = true
  rate : (rateLimitCheck (some data.ip) env.rateCheckTime d).ret = 0
  ratio : (validatePacketMode answer 48 48 d).ret = 0
  deliverable : Deliverable data.ip data.port env

theorem Deliverable.ip_ne_nil {ip port : CString} {env : RequestEnv}
    (h : Deliverable ip port env) : ip ≠ [] := by
  rintro rfl
  have haddress := h.address
  cases hport : parsePort port with
  | none =>
    rw [hport] at haddress
    cases haddress
  | some n =>
    rw [hport] at haddress
    cases haddress

theorem Deliverable.port_ne_nil {ip port : CString} {env : RequestEnv}
    (h : Deliverable ip port env) : port ≠ [] := by
  rintro rfl
  have haddress := h.address
  cases haddress

section

variable {data₁ data₂ : PeerRequestData} {env₁ env₂ : RequestEnv} {d₁ d₂ : Daemon}
  {request buffer : Mem} {answer : UInt8}

/-- The receiver reads the header of the answer, with the fields it carries. -/
theorem DeliveredAs.carriesResponse
    (hdelivered : DeliveredAs (responseTo d₁ answer (readHeader request) env₁) data₂ buffer)
    (h : Handled data₁ env₁ d₁ request answer) :
    CarriesResponse d₁ answer (readHeader request) env₁ (readHeader buffer) := by
  rw [hdelivered.readHeader_eq]
  exact carriesResponse_responseHeader d₁ (responseModeFor_toNat_lt h.admitted.mode) _ env₁

theorem DeliveredAs.size_eq
    (hdelivered : DeliveredAs (responseTo d₁ answer (readHeader request) env₁) data₂ buffer) :
    data₂.size = 48 :=
  hdelivered.size.trans (length_responseTo d₁ answer (readHeader request) env₁)

/-- A handled answer shows that its sender was synchronized, and passes the receiver's checks. -/
theorem Handled.reflects (h : Handled data₁ env₁ d₁ request answer)
    (hdelivered : DeliveredAs (responseTo d₁ answer (readHeader request) env₁) data₂ buffer)
    {buffer' : Mem} {answer' : UInt8} (hhandled : Handled data₂ env₂ d₂ buffer' answer')
    (hdeliverable : Deliverable data₂.ip data₂.port env₂) : Reflects d₁ answer data₂ env₂ d₂ := by
  obtain rfl : buffer' = buffer :=
    Option.some_injective _ (hhandled.received.symm.trans hdelivered.received)
  have hcarries := hdelivered.carriesResponse h
  have hsize := hdelivered.size_eq
  have hadmitted := hhandled.admitted
  obtain ⟨-, hstale, -, -, hstratum⟩ := (parseNtpPacket_ok_iff _ _ _ _).mp hhandled.parses
  have hmode := hadmitted.mode
  rw [hcarries.mode] at hmode
  obtain ⟨rfl, hanswer⟩ := (responseModeFor_answer_iff h.admitted.mode answer').mp hmode
  -- an unsynchronised server sends LI 3, which is not handled
  have hsynced : d₁.g.timeSynced = true := by
    by_contra hunsynced
    exact hhandled.li (by rw [hcarries.li, if_neg hunsynced]; rfl)
  exact {
    mode := hanswer
    synced := hsynced
    li := hcarries.li_of_synced hsynced ▸ hhandled.li
    stratum := hcarries.stratum_of_synced hsynced ▸ hstratum
    stale := hstale
    acl := hcarries.mode ▸ hadmitted.acl
    rate := hadmitted.rate
    ratio := hsize ▸ hadmitted.ratio
    deliverable := hdeliverable }

/-- An answer that the receiver reflects is handled there, as a request of the same mode. -/
theorem Reflects.handled (h : Handled data₁ env₁ d₁ request answer)
    (hdelivered : DeliveredAs (responseTo d₁ answer (readHeader request) env₁) data₂ buffer)
    (hreflects : Reflects d₁ answer data₂ env₂ d₂) : Handled data₂ env₂ d₂ buffer answer := by
  have hcarries := hdelivered.carriesResponse h
  have hsize := hdelivered.size_eq
  have hli := hcarries.li_of_synced hreflects.synced
  have hstratum := hcarries.stratum_of_synced hreflects.synced
  have hmode : responseModeFor d₂.cli.broadcastMode answer = some answer :=
    (responseModeFor_answer_iff h.admitted.mode answer).mpr ⟨rfl, hreflects.mode⟩
  -- what was sent as an answer is well formed as a request
  have hacc : HeaderAccepted (readHeader buffer) := by
    refine ⟨hcarries.vn, ?_, hstratum ▸ hreflects.stratum⟩
    rw [hcarries.mode]
    exact responseModeFor_ne_zero h.admitted.mode
  -- 48 bytes leave no room for the fields the authentication test walks over
  have hauth : (validatePacketAuthentication (some buffer) data₂.size d₂).ret ≠ -ENOTSUP := by
    rw [hsize]
    exact (by decide : (0 : ℤ) ≠ -ENOTSUP)
  exact {
    received := hdelivered.received
    ip := hreflects.deliverable.ip_ne_nil
    port := hreflects.deliverable.port_ne_nil
    parses := (parseNtpPacket_ok_iff _ _ _ _).mpr ⟨hsize.ge, hreflects.stale, hacc⟩
    admitted := {
      version := hcarries.vn
      auth := hauth
      acl := hcarries.mode.symm ▸ hreflects.acl
      rate := hreflects.rate
      mode := hcarries.mode.symm ▸ hmode
      ratio := hsize.symm ▸ hreflects.ratio }
    li := hli ▸ hreflects.li }

/-- The answer to a handled request gets a reply in turn exactly if the receiver reflects it. -/
theorem Handled.reflected_iff (h : Handled data₁ env₁ d₁ request answer)
    (hdelivered : DeliveredAs (responseTo d₁ answer (readHeader request) env₁) data₂ buffer) :
    replies (handlePeerRequestThread data₂ env₂ d₂).trace ≠ [] ↔
      Reflects d₁ answer data₂ env₂ d₂ := by
  rw [ne_eq, replies_handlePeerRequestThread_eq_nil_iff, not_not]
  constructor
  · rintro ⟨⟨buffer', answer', hhandled⟩, hdeliverable⟩
    exact h.reflects hdelivered hhandled hdeliverable
  · intro hreflects
    exact ⟨⟨buffer, answer, hreflects.handled h hdelivered⟩, hreflects.deliverable⟩

/-- A client that was replied to is recorded. -/
theorem mode_of_replies_ne_nil {data : PeerRequestData} {env : RequestEnv} {d : Daemon}
    (h : replies (handlePeerRequestThread data env d).trace ≠ []) :
    parseIp (some data.ip) ≠ 0 ∧ (handlePeerRequestThread data env d).state.mode =
      rateLimitUpdate d.mode (some data.ip) env.rateUpdateTime := by
  unfold replies at h
  obtain ⟨-, hsent⟩ | ⟨buffer, responseMode, hhandled, hserved⟩ :=
    handlePeerRequestThread_cases data env d
  · rw [hsent] at h
    exact absurd rfl h
  -- an address that does not parse is not admitted
  have hip : parseIp (some data.ip) ≠ 0 := by
    intro hzero
    have hacl := hhandled.admitted.acl
    unfold aclCheckClient at hacl
    simp [hzero] at hacl
  refine ⟨hip, ?_⟩
  -- a datagram came through, so the table was updated
  cases hserved with
  | silent _ hsent =>
    rw [hsent] at h
    exact absurd rfl h
  | failed dest _ hsent =>
    rw [hsent] at h
    exact absurd rfl h
  | answered dest htable => exact htable
  | copied dest dest' ok _ htable => exact htable

/-- A server that replied to an address gives it no other reply until the interval has passed. -/
theorem replies_eq_nil_of_recent {data data' : PeerRequestData} {env env' : RequestEnv} {d : Daemon}
    (h : replies (handlePeerRequestThread data env d).trace ≠ []) (hip : data'.ip = data.ip)
    (htime : env'.rateCheckTime - env.rateUpdateTime < d.mode.config.rateLimitInterval.toNat) :
    replies (handlePeerRequestThread data' env' (handlePeerRequestThread data env d).state).trace =
      [] := by
  obtain ⟨hparse, hmode⟩ := mode_of_replies_ne_nil h
  have hrefused := rateLimitCheck_update hparse env.rateUpdateTime env'.rateCheckTime hmode
  rw [if_pos htime, ← hip] at hrefused
  rw [replies_handlePeerRequestThread_eq_nil_iff]
  rintro ⟨⟨buffer, responseMode, hhandled⟩, -⟩
  have hrate := hhandled.admitted.rate
  rw [hrefused] at hrate
  cases hrate

end

/-- No answer to a client is reflected. -/
theorem Reflects.not_client {sender : Daemon} {answer : UInt8} {data : PeerRequestData}
    {env : RequestEnv} {d : Daemon} (h : Reflects sender answer data env d) :
    answer ≠ ntpModeServer := by
  rintro rfl
  rcases h.mode with hmode | ⟨hmode, -⟩
  · cases hmode
  · cases hmode

/-- Answers to clients, and answers of unsynchronised servers, get no reply; the others get one
exactly where the receiver's own checks admit them, and never twice within its rate limit. -/
theorem reflection_bounded :
    (∀ (data₁ : PeerRequestData) (env₁ : RequestEnv) (d₁ : Daemon),
      ∀ sent ∈ sends (handlePeerRequestThread data₁ env₁ d₁).trace,
      ∀ (data₂ : PeerRequestData) (buffer : Mem), DeliveredAs sent.2.2.1 data₂ buffer →
      ∀ (env₂ : RequestEnv) (d₂ : Daemon),
        (replies (handlePeerRequestThread data₂ env₂ d₂).trace ≠ [] ↔
          Reflects d₁ (sent.2.2.1.headD 0 &&& ntpModeMask) data₂ env₂ d₂) ∧
        ∀ request, data₁.buffer = some request →
          (readHeader request).mode = ntpModeClient ∨ d₁.g.timeSynced = false →
            replies (handlePeerRequestThread data₂ env₂ d₂).trace = []) ∧
      ∀ (data : PeerRequestData) (env : RequestEnv) (d : Daemon),
        replies (handlePeerRequestThread data env d).trace ≠ [] →
        ∀ (data' : PeerRequestData) (env' : RequestEnv), data'.ip = data.ip →
          env'.rateCheckTime - env.rateUpdateTime < d.mode.config.rateLimitInterval.toNat →
            replies (handlePeerRequestThread data' env'
              (handlePeerRequestThread data env d).state).trace = [] := by
  -- the second clause is the limit on the rate of one address
  refine ⟨fun data₁ env₁ d₁ sent hsent data₂ buffer hdelivered env₂ d₂ => ?_,
    fun data env d h data' env' hip htime => replies_eq_nil_of_recent h hip htime⟩
  obtain ⟨request, answer, hhandled, hbytes⟩ := exists_responseTo_of_mem_sends hsent
  rw [hbytes] at hdelivered
  have hanswer := headD_responseTo d₁ (responseModeFor_toNat_lt hhandled.admitted.mode)
    (readHeader request) env₁
  rw [hbytes, hanswer]
  have hiff : replies (handlePeerRequestThread data₂ env₂ d₂).trace ≠ [] ↔
      Reflects d₁ answer data₂ env₂ d₂ := hhandled.reflected_iff hdelivered
  refine ⟨hiff, fun request' hrequest hcond => ?_⟩
  obtain rfl : request' = request :=
    Option.some_injective _ (hrequest.symm.trans hhandled.received)
  by_contra hreplies
  have hreflects := hiff.mp hreplies
  -- an answer to a client is no request, and one of an unsynchronised server is not handled
  rcases hcond with hclient | hunsynced
  · have hmode := hhandled.admitted.mode
    rw [hclient] at hmode
    exact hreflects.not_client (Option.some_injective _ hmode).symm
  · rw [hreflects.synced] at hunsynced
    cases hunsynced

/-- A synchronised server that serves everybody, symmetric peers among them. -/
def symmetricServer : Daemon := { openServer with g := { openServer.g with localLi := 0 } }

/-- A request of mode 1. -/
def symmetricRequest : PeerRequestData :=
  ⟨some (Mem.ofList (0x21 :: List.replicate 47 0)), 48, "10.0.0.2".toList, "123".toList⟩

/-- The answer to `symmetricRequest`. -/
def symmetricAnswer : List UInt8 :=
  responseTo symmetricServer 2 (readHeader (Mem.ofList (0x21 :: List.replicate 47 0)))
    workingRequestEnv

/-- The answer as the second server receives it. -/
def reflectedRequest : PeerRequestData :=
  ⟨some (Mem.ofList symmetricAnswer), 48, "10.0.0.1".toList, "123".toList⟩

theorem exists_mem_sends_symmetricRequest : ∃ sent ∈ sends (handlePeerRequestThread
    symmetricRequest workingRequestEnv symmetricServer).trace, sent.2.2.1 = symmetricAnswer := by
  have hsent : (sends (handlePeerRequestThread symmetricRequest workingRequestEnv
      symmetricServer).trace).map (fun sent => sent.2.2.1) = [symmetricAnswer] := by decide +kernel
  exact List.mem_map.mp (hsent ▸ List.mem_singleton_self symmetricAnswer)

theorem deliveredAs_reflectedRequest :
    DeliveredAs symmetricAnswer reflectedRequest (Mem.ofList symmetricAnswer) :=
  ⟨rfl, rfl, fun _ _ => rfl⟩

theorem replies_reflectedRequest : replies (handlePeerRequestThread reflectedRequest
    workingRequestEnv symmetricServer).trace ≠ [] := by
  decide +kernel

/-- A forged symmetric request is answered by one server, and the answer by the other. -/
theorem symmetricServer_reflects :
    (∃ sent ∈ sends (handlePeerRequestThread symmetricRequest workingRequestEnv
        symmetricServer).trace,
        DeliveredAs sent.2.2.1 reflectedRequest (Mem.ofList symmetricAnswer)) ∧
      replies (handlePeerRequestThread reflectedRequest workingRequestEnv symmetricServer).trace ≠
        [] := by
  obtain ⟨sent, hmem, hbytes⟩ := exists_mem_sends_symmetricRequest
  exact ⟨⟨sent, hmem, hbytes.symm ▸ deliveredAs_reflectedRequest⟩, replies_reflectedRequest⟩

/-- The second server replies to the answer, and refuses what comes from the first one in the
second after. -/
theorem reflection_bounded_symmetricServer :
    Reflects symmetricServer 2 reflectedRequest workingRequestEnv symmetricServer ∧
      ∀ data' : PeerRequestData, data'.ip = "10.0.0.1".toList →
        replies (handlePeerRequestThread data'
          { workingRequestEnv with rateCheckTime := 1700000001 }
          (handlePeerRequestThread reflectedRequest workingRequestEnv
            symmetricServer).state).trace = [] := by
  obtain ⟨hanswered, hrecent⟩ := reflection_bounded
  obtain ⟨sent, hmem, hbytes⟩ := exists_mem_sends_symmetricRequest
  have hmode : sent.2.2.1.headD 0 &&& ntpModeMask = 2 := by
    rw [hbytes]
    decide +kernel
  constructor
  · rw [← hmode]
    exact (hanswered symmetricRequest workingRequestEnv symmetricServer sent hmem reflectedRequest
      (Mem.ofList symmetricAnswer) (hbytes.symm ▸ deliveredAs_reflectedRequest) workingRequestEnv
      symmetricServer).1.mp replies_reflectedRequest
  · exact fun data' hip => hrecent reflectedRequest workingRequestEnv symmetricServer
      replies_reflectedRequest data' _ hip (by decide)

end Dntpd
