import Dntpd.Library.Run
import Dntpd.Spec.PacketCodec
import Dntpd.Spec.SyncOutcome

/-!
# The root delay along a chain of servers

An attempt publishes the measured delay as its root delay, without the root delay of the reply.  So
the two add up exactly for the replies whose root delay is 0, and along a chain of daemons
synchronised one from the other exactly if every server advertises 0 (`rootDelay_accumulates_iff`).
-/

namespace Dntpd

open Proc

/-! ### What an attempt publishes -/

theorem recordSync_rootDelay (ip : CString) (pkt : NtpHeader) (t4 : NtpTimestamp)
    (delayUs : UInt64) (offsetUs : ℤ) (env : SyncEnv) (d : Daemon) :
    let g := (recordSync ip pkt t4 delayUs offsetUs env d).state.g
    g.timeSynced = decide (ntpLocalStratumFromPeer pkt.stratum ≤ 15) ∧
      g.localRootDelay = ntpU16_16FromUs delayUs := by
  unfold recordSync lock unlock
  simp [updateRootDispersion_state, ntpOffsetJitterUsLocked_run]

/-- A delay that an attempt accepts is far from the end of the format. -/
theorem ntpU16_16FromUs_lt {us : UInt64} (h : us ≤ 10000000) :
    (ntpU16_16FromUs us).toNat < 4294967295 := by
  have hus : us.toNat ≤ 10000000 := UInt64.le_iff_toNat_le.mp h
  rw [toNat_ntpU16_16FromUs (hus.trans (by decide))]
  omega

section

variable {port : CString} {env : SyncEnv} {d : Daemon} {dg : Datagram} {delayUs : UInt64}
  {offsetUs : ℤ}

/-- A daemon that got past the filter is synchronised, with the measured delay for its root
delay. -/
theorem ReplyAccepted.published (h : ReplyAccepted port env d dg delayUs offsetUs)
    (hkept : ReplyKept env d) (ip : CString) :
    let g := (syncNtpTime (some ip) (some port) env d).state.g
    g.timeSynced = true ∧ g.localRootDelay = ntpU16_16FromUs delayUs := by
  obtain ⟨-, d₁, hg⟩ := h.finishedRun hkept ip
  obtain ⟨hsynced, hdelay⟩ := recordSync_rootDelay ip (env.header dg d.ido)
    (ntpTimestampNow env.t4Clock) delayUs offsetUs env d₁
  have hconsistent := recordSync_consistent h.checks ip env d₁
  -- a stratum the checks let pass stays below 16 when it is counted up
  have hstratum := (recordSync_g ip (env.header dg d.ido) (ntpTimestampNow env.t4Clock) delayUs
    offsetUs env d₁).1
  dsimp only
  rw [hg]
  exact ⟨hsynced.trans (decide_eq_true (hstratum ▸ hconsistent.stratum_le)), hdelay⟩

/-- The root delay afterwards is that of the reply and the measured delay, as far as the format
goes. -/
def AccumulatesRootDelay (ip port : CString) (env : SyncEnv) (d : Daemon) (dg : Datagram)
    (delayUs : UInt64) : Prop :=
  (syncNtpTime (some ip) (some port) env d).state.g.localRootDelay.toNat =
    min 4294967295 ((env.header dg d.ido).rootDelay.toNat + (ntpU16_16FromUs delayUs).toNat)

theorem ReplyAccepted.accumulatesRootDelay_iff (h : ReplyAccepted port env d dg delayUs offsetUs)
    (hkept : ReplyKept env d) (ip : CString) :
    AccumulatesRootDelay ip port env d dg delayUs ↔ (env.header dg d.ido).rootDelay = 0 := by
  have hlt := ntpU16_16FromUs_lt h.checks.delay_le
  unfold AccumulatesRootDelay
  rw [(h.published hkept ip).2, ← UInt32.toNat_inj]
  have hzero : (0 : UInt32).toNat = 0 := rfl
  omega

end

/-! ### Chains -/

/-- The root delay a daemon advertises. -/
def Globals.advertisedRootDelay (g : Globals) : UInt32 :=
  if g.timeSynced then g.localRootDelay else 0

/-- A daemon `client` synchronises from another one, whose state is `serving` when it answers. -/
structure SyncHop where
  serving : Daemon
  data : PeerRequestData
  requestEnv : RequestEnv
  client : Daemon
  ip : CString
  port : CString
  env : SyncEnv

namespace SyncHop

/-- The variables of the client afterwards; it is the server of the next hop. -/
def after (hop : SyncHop) (_ : Globals) : Globals :=
  (syncNtpTime (some hop.ip) (some hop.port) hop.env hop.client).state.g

/-- The client receives and accepts what the server with the variables `g` sent. -/
structure Linked (hop : SyncHop) (g : Globals) : Prop where
  serving : hop.serving.g = g
  answered : ∃ s ∈ sends (handlePeerRequestThread hop.data hop.requestEnv hop.serving).trace,
    hop.env.recvfrom = .ok (Datagram.ofList s.2.2.1)
  accepted : ∃ dg delayUs offsetUs, ReplyAccepted hop.port hop.env hop.client dg delayUs offsetUs
  kept : ReplyKept hop.env hop.client

/-- The delays add up at the hop, and the client advertises no less than the server. -/
def Accumulates (hop : SyncHop) (g : Globals) : Prop :=
  (∀ dg delayUs offsetUs, ReplyAccepted hop.port hop.env hop.client dg delayUs offsetUs →
    AccumulatesRootDelay hop.ip hop.port hop.env hop.client dg delayUs) ∧
  g.advertisedRootDelay ≤ (hop.after g).advertisedRootDelay

/-- The reply carries the root delay that the server advertises. -/
theorem Linked.rootDelay {hop : SyncHop} {g : Globals} (h : hop.Linked g) {dg : Datagram}
    {delayUs : UInt64} {offsetUs : ℤ}
    (haccepted : ReplyAccepted hop.port hop.env hop.client dg delayUs offsetUs) :
    (hop.env.header dg hop.client.ido).rootDelay = g.advertisedRootDelay := by
  obtain ⟨s, hs, hdatagram⟩ := h.answered
  -- what the server wrote is what the client reads
  obtain ⟨buffer, responseMode, -, hbytes⟩ := exists_responseTo_of_mem_sends hs
  obtain rfl : Datagram.ofList s.2.2.1 = dg :=
    Except.ok.inj (hdatagram.symm.trans haccepted.received.datagram)
  have hheader : hop.env.header (Datagram.ofList s.2.2.1) hop.client.ido =
      readHeader (Mem.ofList s.2.2.1) := parseNtpPacket_toNtpHeader haccepted.parses
  rw [hheader, hbytes, responseTo_eq_writeHeader, readHeader_writeHeader, ← h.serving]
  rfl

/-- The client advertises the delay it measured, and nothing else. -/
theorem Linked.advertisedRootDelay {hop : SyncHop} {g : Globals} (h : hop.Linked g) {dg : Datagram}
    {delayUs : UInt64} {offsetUs : ℤ}
    (haccepted : ReplyAccepted hop.port hop.env hop.client dg delayUs offsetUs) :
    (hop.after g).advertisedRootDelay = ntpU16_16FromUs delayUs := by
  obtain ⟨hsynced, hdelay⟩ := haccepted.published h.kept hop.ip
  unfold after Globals.advertisedRootDelay
  rw [if_pos hsynced]
  exact hdelay

theorem Linked.accumulates_iff {hop : SyncHop} {g : Globals} (h : hop.Linked g) :
    hop.Accumulates g ↔ g.advertisedRootDelay = 0 := by
  obtain ⟨dg, delayUs, offsetUs, haccepted⟩ := h.accepted
  constructor
  · rintro ⟨hsum, -⟩
    rw [← h.rootDelay haccepted]
    exact (haccepted.accumulatesRootDelay_iff h.kept hop.ip).mp (hsum _ _ _ haccepted)
  · intro hzero
    refine ⟨fun dg' delayUs' offsetUs' haccepted' => ?_, ?_⟩
    · rw [haccepted'.accumulatesRootDelay_iff h.kept hop.ip, h.rootDelay haccepted', hzero]
    · rw [hzero]
      exact UInt32.zero_le

/-- A reply's root delay and the measured delay add up exactly if the root delay is 0, and they do
so along a chain, with no daemon advertising less than the one above it, exactly if each server of
it advertises 0. -/
theorem rootDelay_accumulates_iff {hops : List SyncHop} {g : Globals}
    (hlinked : Run.Along after Linked hops g) :
    (∀ (port : CString) (env : SyncEnv) (d : Daemon) (dg : Datagram) (delayUs : UInt64)
        (offsetUs : ℤ), ReplyAccepted port env d dg delayUs offsetUs → ReplyKept env d →
        ∀ ip, AccumulatesRootDelay ip port env d dg delayUs ↔
          (env.header dg d.ido).rootDelay = 0) ∧
      (Run.Along after Accumulates hops g ↔
        Run.Along after (fun _ g => g.advertisedRootDelay = 0) hops g) :=
  ⟨fun _ _ _ _ _ _ h hkept ip => h.accumulatesRootDelay_iff hkept ip,
    Run.along_iff_of_along (fun _ _ h => h.accumulates_iff) hlinked⟩

/-- A stratum 1 server with the root delay `rootDelay`. -/
def rootServer (rootDelay : UInt32) : Daemon :=
  { openServer with
    g := { Globals.init with
      timeSynced := true
      localStratum := 1
      localLi := 0
      localRootDelay := rootDelay } }

/-- The request of the client, sent at `sampleTime`. -/
def rootRequest : PeerRequestData :=
  ⟨some (Mem.ofList (createNtpRequest Globals.init (ntpTimestampNow sampleTime))), 48,
    "10.0.0.1".toList, "123".toList⟩

/-- The server's reply. -/
def rootReply (rootDelay : UInt32) : List UInt8 :=
  responseTo (rootServer rootDelay) ntpModeServer
    (readHeader (Mem.ofList (createNtpRequest Globals.init (ntpTimestampNow sampleTime))))
    workingRequestEnv

/-- A client that was not synchronised before. -/
def rootHop (rootDelay : UInt32) : SyncHop where
  serving := rootServer rootDelay
  data := rootRequest
  requestEnv := workingRequestEnv
  client := unreachedDaemon
  ip := "10.0.0.1".toList
  port := "123".toList
  env := workingSyncEnv (rootReply rootDelay)

/-- A reply that is sent and passes the checks with a delay of 999 us is received and accepted. -/
theorem linked_rootHop {rootDelay : UInt32}
    (hsends : rootReply rootDelay ∈ (sends (handlePeerRequestThread rootRequest
      workingRequestEnv (rootServer rootDelay)).trace).map fun s => s.2.2.1)
    (hlength : 0 < (rootReply rootDelay).length)
    (hok : ((rootHop rootDelay).env.parse (Datagram.ofList (rootReply rootDelay))
      unreachedDaemon.ido).ok = true)
    (hchecks : ReplyChecks (ntpTimestampNow sampleTime)
      (ntpTimestampNow (rootHop rootDelay).env.t4Clock)
      (readHeader (Mem.ofList (rootReply rootDelay))) 999 (-499)) :
    (rootHop rootDelay).Linked (rootServer rootDelay).g ∧
      ReplyAccepted "123".toList (rootHop rootDelay).env unreachedDaemon
        (Datagram.ofList (rootReply rootDelay)) 999 (-499) := by
  have hheader : (rootHop rootDelay).env.header (Datagram.ofList (rootReply rootDelay))
      unreachedDaemon.ido = readHeader (Mem.ofList (rootReply rootDelay)) :=
    parseNtpPacket_toNtpHeader hok
  -- the root's reply as it arrives passes the checks
  have haccepted : ReplyAccepted "123".toList (rootHop rootDelay).env unreachedDaemon
      (Datagram.ofList (rootReply rootDelay)) 999 (-499) := by
    refine ⟨received_workingSyncEnv rfl (.inr ⟨rfl, rfl, fun _ => rfl, rfl⟩) hlength, hok, ?_⟩
    rw [hheader]
    exact hchecks
  obtain ⟨s, hs, hbytes⟩ := List.mem_map.mp hsends
  refine ⟨⟨rfl, ⟨s, hs, ?_⟩, ⟨_, _, _, haccepted⟩, .inl rfl⟩, haccepted⟩
  rw [hbytes]
  rfl

/-- The server has no root delay of its own. -/
theorem rootDelay_accumulates_rootHop :
    Run.Along after Accumulates [rootHop 0] (rootServer 0).g := by
  have hfirst := @linked_rootHop 0 (by decide +kernel) (by decide +kernel)
    ((parseNtpPacket_ok_iff _ _ _ _).mpr (by decide +kernel))
    ⟨by decide +kernel, by decide +kernel, by decide +kernel, by decide +kernel,
      by decide +kernel, by decide +kernel, by decide +kernel, by decide, by decide⟩
  have hlinked : Run.Along after Linked [rootHop 0] (rootServer 0).g := ⟨hfirst.1, trivial⟩
  exact (rootDelay_accumulates_iff hlinked).2.mpr ⟨rfl, trivial⟩

/-- Below a server that advertises a root delay of 1 s, the client advertises 1 ms. -/
theorem rootHop_not_accumulates :
    Run.Along after Linked [rootHop 65536] (rootServer 65536).g ∧
      ¬ Run.Along after Accumulates [rootHop 65536] (rootServer 65536).g ∧
      (rootServer 65536).g.advertisedRootDelay = 65536 ∧
      ((rootHop 65536).after (rootServer 65536).g).advertisedRootDelay = 65 := by
  obtain ⟨hlinked, haccepted⟩ := @linked_rootHop 65536 (by decide +kernel) (by decide +kernel)
    ((parseNtpPacket_ok_iff _ _ _ _).mpr (by decide +kernel))
    ⟨by decide +kernel, by decide +kernel, by decide +kernel, by decide +kernel,
      by decide +kernel, by decide +kernel, by decide +kernel, by decide, by decide⟩
  have hbelow : ((rootHop 65536).after (rootServer 65536).g).advertisedRootDelay = 65 :=
    (hlinked.advertisedRootDelay haccepted).trans (by decide)
  refine ⟨⟨hlinked, trivial⟩, fun h => ?_, rfl, hbelow⟩
  obtain ⟨⟨-, hle⟩, -⟩ := h
  rw [hbelow] at hle
  exact absurd hle (by decide)

end SyncHop

end Dntpd
