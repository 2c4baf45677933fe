import Dntpd.Spec.Reference
import Dntpd.Spec.Reflection

/-!
# Daemons that ask each other

In a timely exchange one daemon asks another, the request is answered, and the answer arrives with
times that the first can use.  Then it adopts what the other publishes, and keeps its own reference
if the other has none (`Exchange.Timely.reference`).

The stratum grows by one with every exchange, but not above 15, which a client still accepts.  So a
reference that goes round among daemons never ends: in every run of timely exchanges each daemon
that is synchronised stays so, though none of them has a source outside (`exchanges_keep`).
-/

namespace Dntpd

open Proc Run

/-- The daemon `client` asks the daemon `server`, which handles the request. -/
structure Exchange (ι : Type) where
  client : ι
  server : ι
  distinct : client ≠ server
  ip : CString
  port : CString
  env : SyncEnv
  data : PeerRequestData
  requestEnv : RequestEnv

namespace Exchange

variable {ι : Type} (x : Exchange ι) (node : ι → Daemon)

/-- The attempt of the client. -/
def attempt : SyncAttempt := ⟨some x.ip, some x.port, x.env⟩

/-- When the request was sent. -/
def t1 : NtpTimestamp := ntpTimestampNow x.env.t1Clock

/-- The delay and the offset that the four times give. -/
def times : Option (UInt64 × ℤ) :=
  calculateDelayOffset x.t1 (ntpTimestampNow x.requestEnv.t2Clock)
    (ntpTimestampNow x.requestEnv.t3Clock) (ntpTimestampNow x.env.t4Clock)

/-- The request arrives, and its answer too, with times that the client can use. -/
structure Timely : Prop where
  sent : RequestSent x.port x.env (node x.client)
  request : ∃ buffer, DeliveredAs (createNtpRequest (node x.client).g x.t1) x.data buffer
  answered : ∃ reply ∈ replies
    (handlePeerRequestThread x.data x.requestEnv (node x.server)).trace,
      x.env.recvfrom = .ok (Datagram.ofList reply.2)
  stale : ntpIsKod x.env.stalePkt.toNtpHeader = false
  xmitTs : ntpTimestampNow x.requestEnv.t3Clock ≠ ⟨0, 0⟩
  times : ∃ delayUs offsetUs, x.times = some (delayUs, offsetUs) ∧ |offsetUs| ≤ 1000000 ∧
    delayUs ≤ 10000000
  kept : ReplyKept x.env (node x.client)

/-- What the client makes of the server's reference. -/
def adopt (r : Reference) : Reference where
  stratum := ntpLocalStratumFromPeer r.stratum
  li := r.li
  refId := sourceId x.ip
  refTs := ntpTimestampNow x.env.t4Clock
  rootDelay := ntpU16_16FromUs ((x.times.map Prod.fst).getD 0)

/-- The answer is a server's, repeats the time of the request, and says what the server
publishes. -/
structure Answer (bytes : List UInt8) : Prop where
  length : bytes.length = 48
  carries : CarriesResponse (node x.server) ntpModeServer (requestHeader (node x.client).g x.t1)
    x.requestEnv (readHeader (Mem.ofList bytes))

/-- The daemons afterwards. -/
def after {ι : Type} [DecidableEq ι] (x : Exchange ι) (node : ι → Daemon) : ι → Daemon :=
  Function.update (Function.update node x.server
    (handlePeerRequestThread x.data x.requestEnv (node x.server)).state) x.client
    (x.attempt.after (node x.client))

section

variable {x node}

theorem Timely.answer (h : x.Timely node) :
    ∃ bytes, x.env.recvfrom = .ok (Datagram.ofList bytes) ∧ Answer x node bytes := by
  obtain ⟨buffer, hbuffer⟩ := h.request
  obtain ⟨⟨dest, bytes⟩, hreply, hreceived⟩ := h.answered
  obtain ⟨sender, hsent⟩ := mem_replies.mp hreply
  obtain ⟨buffer', responseMode, hhandled, hbytes⟩ := exists_responseTo_of_mem_sends hsent
  obtain rfl : buffer' = buffer :=
    Option.some_injective _ (hhandled.received.symm.trans hbuffer.received)
  -- what the server reads is what the client wrote
  have hheader : readHeader buffer' = requestHeader (node x.client).g x.t1 := by
    rw [← readHeader_writeHeader (requestHeader (node x.client).g x.t1),
      ← createNtpRequest_eq_writeHeader]
    exact readHeader_congr fun i hi => hbuffer.bytes i hi
  have hmode : (requestHeader (node x.client).g x.t1).mode = ntpModeClient :=
    (unpack_packFirstByte (h := requestHeader (node x.client).g x.t1) (by decide) rfl).2.2
  have hserver : responseMode = ntpModeServer := by
    have hanswers := hhandled.admitted.mode
    rw [hheader, hmode] at hanswers
    exact (Option.some_injective _ hanswers).symm
  subst hserver
  refine ⟨bytes, hreceived, ?_, ?_⟩
  · rw [show bytes = _ from hbytes, length_responseTo]
  · rw [show bytes = _ from hbytes, responseTo_eq_writeHeader, readHeader_writeHeader, hheader]
    exact carriesResponse_responseHeader _ (by decide) _ _

theorem reference_eq_some {g : Globals} {r : Reference} (h : g.reference = some r) :
    g.timeSynced = true ∧ g.localStratum = r.stratum ∧ g.localLi = r.li := by
  unfold Globals.reference at h
  cases hsynced : g.timeSynced with
  | false =>
    rw [hsynced] at h
    cases h
  | true =>
    rw [hsynced] at h
    obtain rfl := Option.some_injective _ h
    exact ⟨rfl, rfl, rfl⟩

/-- An unsynchronised server leaves its client alone. -/
theorem Answer.kept {bytes : List UInt8} (h : Answer x node bytes)
    (hreceived : x.env.recvfrom = .ok (Datagram.ofList bytes))
    (hserver : (node x.server).g.reference = none) :
    x.attempt.Decides (node x.client) .keep := by
  apply SyncAttempt.Decides.keeps
  intro ip port dg delayUs offsetUs hip hport hanswered
  obtain rfl : Datagram.ofList bytes = dg :=
    Except.ok.inj (hreceived.symm.trans hanswered.received.datagram)
  have hheader : x.env.header (Datagram.ofList bytes) (node x.client).ido =
      readHeader (Mem.ofList bytes) := parseNtpPacket_toNtpHeader hanswered.parses
  have hli : (readHeader (Mem.ofList bytes)).li = 3 := by
    rw [h.carries.li, if_neg (Bool.eq_false_iff.mp (reference_eq_none_iff.mp hserver))]
    rfl
  apply hanswered.origin.li
  rw [show x.attempt.env = x.env from rfl, hheader, hli]

section

variable {bytes : List UInt8} {r : Reference}

/-- What a synchronised server says. -/
theorem Answer.shows (h : Answer x node bytes) (hserver : (node x.server).g.reference = some r)
    (hr : r.Sound) : (readHeader (Mem.ofList bytes)).stratum = r.stratum ∧
      (readHeader (Mem.ofList bytes)).li = r.li := by
  obtain ⟨hsynced, hstratum, hli⟩ := reference_eq_some hserver
  constructor
  · rw [h.carries.stratum_of_synced hsynced, hstratum]
  · rw [h.carries.li_of_synced hsynced, hli, and_three_of_le hr.li_le]

theorem Answer.headerAccepted (h : Answer x node bytes)
    (hserver : (node x.server).g.reference = some r) (hr : r.Sound) :
    HeaderAccepted (readHeader (Mem.ofList bytes)) := by
  refine ⟨h.carries.vn, ?_, ?_⟩
  · rw [h.carries.mode]
    decide
  · rw [(h.shows hserver hr).1]
    exact UInt8.le_trans hr.stratum_le (by decide)

theorem Answer.replyChecks (h : Answer x node bytes) (htimely : x.Timely node)
    (hserver : (node x.server).g.reference = some r) (hr : r.Sound) {delayUs : UInt64}
    {offsetUs : ℤ} (htimes : x.times = some (delayUs, offsetUs)) (hoffset : |offsetUs| ≤ 1000000)
    (hdelay : delayUs ≤ 10000000) :
    ReplyChecks x.t1 (ntpTimestampNow x.env.t4Clock) (readHeader (Mem.ofList bytes)) delayUs
      offsetUs := by
  obtain ⟨hstratum, hli⟩ := h.shows hserver hr
  refine ⟨?_, h.carries.mode, h.carries.origTs, ?_, ?_, ?_, ?_, hoffset, hdelay⟩
  · rw [hli]
    exact hr.li_le
  · rw [h.carries.xmitTs]
    exact htimely.xmitTs
  · rw [h.carries.recvTs, h.carries.xmitTs]
    exact htimes
  · rw [hstratum]
    exact UInt8.le_trans (by decide) hr.stratum_ge
  · rw [hstratum]
    exact hr.stratum_le

/-- A synchronised server hands its reference on. -/
theorem Answer.adopted (h : Answer x node bytes) (htimely : x.Timely node)
    (hreceived : x.env.recvfrom = .ok (Datagram.ofList bytes))
    (hserver : (node x.server).g.reference = some r) (hr : r.Sound) :
    x.attempt.Decides (node x.client) (.store (some (x.adopt r))) := by
  -- the answer is read as the header that the server wrote
  obtain ⟨delayUs, offsetUs, htimes, hoffset, hdelay⟩ := htimely.times
  obtain ⟨hstratum, hli⟩ := h.shows hserver hr
  have hparses : (x.env.parse (Datagram.ofList bytes) (node x.client).ido).ok = true :=
    (QueuedAttempt.parse_ok_iff _ _ _).mpr
      ⟨h.length.ge, htimely.stale, h.headerAccepted hserver hr⟩
  have hheader : x.env.header (Datagram.ofList bytes) (node x.client).ido =
      readHeader (Mem.ofList bytes) := parseNtpPacket_toNtpHeader hparses
  have hnonempty : 0 < (Datagram.ofList bytes).size := by
    show 0 < bytes.length
    rw [h.length]
    decide
  -- it passes every check of the client
  have haccepted : ReplyAccepted x.port x.env (node x.client) (Datagram.ofList bytes) delayUs
      offsetUs := by
    refine ⟨⟨htimely.sent, hreceived, hnonempty⟩, hparses, ?_⟩
    rw [hheader]
    exact h.replyChecks htimely hserver hr htimes hoffset hdelay
  have hdecides : x.attempt.Decides (node x.client) (.store (some (replyReference x.ip
      (x.env.header (Datagram.ofList bytes) (node x.client).ido) (ntpTimestampNow x.env.t4Clock)
      delayUs))) := .adopts rfl rfl haccepted htimely.kept
  -- what the client publishes then is what the exchange computes from the reference
  have hadopt : replyReference x.ip (readHeader (Mem.ofList bytes))
      (ntpTimestampNow x.env.t4Clock) delayUs = x.adopt r := by
    unfold replyReference adopt
    rw [hstratum, hli, htimes]
    rfl
  rwa [hheader, hadopt] at hdecides

end

/-- The client adopts the reference of the server, if it has one. -/
theorem Timely.reference [DecidableEq ι] (h : x.Timely node)
    (hsound : ∀ r ∈ (node x.server).g.reference, r.Sound) :
    (x.after node x.client).g.reference =
      ((node x.server).g.reference.map x.adopt).or (node x.client).g.reference := by
  obtain ⟨bytes, hreceived, hanswer⟩ := h.answer
  have hafter : x.after node x.client = x.attempt.after (node x.client) :=
    Function.update_self _ _ _
  rw [hafter]
  cases hserver : (node x.server).g.reference with
  | none => exact (hanswer.kept hreceived hserver).after
  | some r => exact (hanswer.adopted h hreceived hserver (hsound r hserver)).after

/-- Everyone else publishes what they did. -/
theorem after_of_ne [DecidableEq ι] (x : Exchange ι) (node : ι → Daemon) {i : ι}
    (hi : i ≠ x.client) : (x.after node i).g = (node i).g := by
  unfold after
  rw [Function.update_of_ne hi]
  by_cases hserver : i = x.server
  · subst hserver
    rw [Function.update_self]
    exact handlePeerRequestThread_globals _ _ _
  · rw [Function.update_of_ne hserver]

/-! ### Runs -/

/-- Whoever publishes a reference publishes one of a client. -/
def AllSound (node : ι → Daemon) : Prop := ∀ i, ∀ r ∈ (node i).g.reference, r.Sound

theorem sound_adopt (x : Exchange ι) {r : Reference} (hr : r.Sound) : (x.adopt r).Sound := by
  have hzero : r.stratum ≠ 0 := by
    intro hzero
    have hge := hr.stratum_ge
    rw [hzero] at hge
    exact absurd hge (by decide)
  obtain ⟨hge, hle⟩ := ntpLocalStratumFromPeer_mem hzero (UInt8.not_lt.mpr hr.stratum_le)
  exact ⟨hge, hle, hr.li_le⟩

variable [DecidableEq ι]

theorem Timely.allSound (h : x.Timely node) (hnode : AllSound node) : AllSound (x.after node) := by
  intro i r hr
  by_cases hi : i = x.client
  · subst hi
    rw [h.reference (hnode _)] at hr
    rcases Option.or_eq_some_iff.mp hr with hserver | ⟨-, hclient⟩
    · obtain ⟨r', hr', rfl⟩ := Option.map_eq_some_iff.mp hserver
      exact sound_adopt x (hnode _ r' hr')
    · exact hnode _ r hclient
  · rw [after_of_ne x node hi] at hr
    exact hnode i r hr

/-- An exchange takes no reference away. -/
theorem Timely.synced (h : x.Timely node) (hnode : AllSound node) {i : ι}
    (hi : (node i).g.reference.isSome = true) : (x.after node i).g.reference.isSome = true := by
  by_cases hclient : i = x.client
  · subst hclient
    rw [h.reference (hnode _), Option.isSome_or, hi, Bool.or_true]
  · rw [after_of_ne x node hclient, hi]

/-- The client's reference is that of the server or its own, and the others keep theirs. -/
def HandsOn (x : Exchange ι) (node : ι → Daemon) : Prop :=
  (x.after node x.client).g.reference =
      ((node x.server).g.reference.map x.adopt).or (node x.client).g.reference ∧
    ∀ i ≠ x.client, (x.after node i).g.reference = (node i).g.reference

/-- **A reference that goes round does not end**: in every run of timely exchanges, each hands on
what the server publishes, and no daemon that publishes a reference ever ceases to. -/
theorem exchanges_keep {xs : List (Exchange ι)} {node : ι → Daemon}
    (hxs : Along Exchange.after Timely xs node) (hnode : AllSound node) :
    Along Exchange.after HandsOn xs node ∧ ∀ i, (node i).g.reference.isSome = true →
      (runSteps Exchange.after xs node i).g.reference.isSome = true := by
  obtain ⟨hsound, -⟩ := Along.invariant (fun _ _ hsound h => Timely.allSound h hsound) hnode hxs
  constructor
  · refine (hxs.and hsound).mono fun x node h => ⟨h.1.reference (h.2 _), fun i hi => ?_⟩
    rw [after_of_ne x node hi]
  · intro i hi
    refine (Along.invariant (I := fun node => AllSound node ∧ (node i).g.reference.isSome = true)
      (fun _ _ hI h => ⟨h.allSound hI.1, h.synced hI.1 hI.2⟩) ⟨hnode, hi⟩ hxs).2.2

/-- Two daemons that serve everybody, one of them synchronised. -/
def loopNode (synced : Bool) : Daemon :=
  { openServer with
    g := { Globals.init with timeSynced := synced, localStratum := 2, localLi := 0 } }

/-- The request of a daemon. -/
def loopRequest (d : Daemon) : List UInt8 := createNtpRequest d.g (ntpTimestampNow sampleTime)

/-- One of the two asks the other, which answers at once. -/
def loopExchange (client : Bool) (node : Bool → Daemon) : Exchange Bool where
  client := client
  server := !client
  distinct := by cases client <;> decide
  ip := "10.0.0.1".toList
  port := "123".toList
  env := workingSyncEnv (responseTo (node !client) ntpModeServer
    (readHeader (Mem.ofList (loopRequest (node client)))) workingRequestEnv)
  data := ⟨some (Mem.ofList (loopRequest (node client))), 48, "10.0.0.1".toList, "123".toList⟩
  requestEnv := workingRequestEnv

theorem timely_loopExchange {client : Bool} {node : Bool → Daemon}
    (herrno : (node client).errno = 0)
    (hanswered : responseTo (node !client) ntpModeServer
      (readHeader (Mem.ofList (loopRequest (node client)))) workingRequestEnv ∈
        (replies (handlePeerRequestThread (loopExchange client node).data workingRequestEnv
          (node !client)).trace).map Prod.snd) : (loopExchange client node).Timely node where
  sent := by
    have hpos : 1 ≤ (strtol "123".toList).value := by decide
    have hle : (strtol "123".toList).value ≤ 65535 := by decide
    exact ⟨herrno, .inr ⟨rfl, rfl, fun _ => rfl, rfl⟩, hpos, hle, rfl, rfl, rfl⟩
  request := ⟨_, rfl, rfl, fun _ _ => rfl⟩
  answered := by
    obtain ⟨reply, hreply, hbytes⟩ := List.mem_map.mp hanswered
    refine ⟨reply, hreply, ?_⟩
    rw [hbytes]
    rfl
  stale := rfl
  xmitTs := by
    show ntpTimestampNow sampleTime ≠ ⟨0, 0⟩
    decide
  times := by
    -- the delay is 999 us and the offset minus half of it
    refine ⟨999, -499, ?_, by decide, by decide⟩
    show calculateDelayOffset (ntpTimestampNow sampleTime) (ntpTimestampNow sampleTime)
      (ntpTimestampNow sampleTime) (ntpTimestampNow (.ok ⟨1700000000, 1000000, by decide⟩)) = _
    decide +kernel
  kept := .inl rfl

/-- The second daemon takes its time from the first, and the first takes it back. -/
def loopExchanges : List (Exchange Bool) :=
  [loopExchange false loopNode, loopExchange true ((loopExchange false loopNode).after loopNode)]

theorem exchanges_keep_loop :
    (runSteps Exchange.after loopExchanges loopNode true).g.reference.isSome = true := by
  have hnode : AllSound loopNode := by
    intro i r hr
    cases i with
    | false => cases hr
    | true =>
      obtain rfl := Option.some_injective _ hr
      exact ⟨by decide, by decide, by decide⟩
  have hfirst : (loopExchange false loopNode).Timely loopNode :=
    timely_loopExchange rfl (by decide +kernel)
  have hsecond : (loopExchange true ((loopExchange false loopNode).after loopNode)).Timely
      ((loopExchange false loopNode).after loopNode) :=
    timely_loopExchange (by decide +kernel) (by decide +kernel)
  have hxs : Along Exchange.after Timely loopExchanges loopNode := ⟨hfirst, hsecond, trivial⟩
  exact (exchanges_keep hxs hnode).2 true rfl

end

end Exchange

end Dntpd
