import Dntpd.Library.Network
import Dntpd.Spec.MainLoop
import Dntpd.Spec.Reference
import Dntpd.Spec.Reflection

/-!
# Networks of daemons

Daemons that take their time from each other, over a medium that loses, delays, duplicates and
reorders datagrams.  Requests may come from anyone; what an attempt receives is a datagram that some
daemon has sent, or one from outside the network.

A daemon that accepts a reply hands on what the reply offers, with a stratum that is one higher but
never above 15.  So whatever a daemon advertises comes from outside, over as many daemons as the
stratum tells if it is below 15 (`network_provenance`).
-/

namespace Dntpd

open Proc Run

/-! ### Messages -/

/-- What is received of a datagram. -/
def Datagram.bytes (dg : Datagram) : List UInt8 := (List.range dg.size).map dg.data

theorem Datagram.bytes_ofList (l : List UInt8) : (Datagram.ofList l).bytes = l := by
  apply List.ext_getElem?
  intro i
  unfold Datagram.bytes
  rw [List.getElem?_map]
  by_cases hi : i < l.length
  · rw [show (Datagram.ofList l).size = l.length from rfl, List.getElem?_range hi,
      List.getElem?_eq_getElem hi]
    exact congrArg some (List.getD_eq_getElem l 0 hi)
  · rw [List.getElem?_eq_none (not_lt.mp hi), List.getElem?_eq_none]
    · rfl
    · rw [List.length_range]
      exact not_lt.mp hi

/-- The header is read from the bytes. -/
theorem Datagram.readHeader_bytes {dg : Datagram} (h : 48 ≤ dg.size) :
    readHeader (Mem.ofList dg.bytes) = readHeader dg.data := by
  apply readHeader_congr
  intro i hi
  show dg.bytes.getD i 0 = dg.data i
  unfold Datagram.bytes
  rw [List.getD_eq_getElem?_getD, List.getElem?_map, List.getElem?_range (by omega)]
  rfl

namespace DaemonStep

/-- The events of a step. -/
def trace : DaemonStep → RunState → List Event
  | .activity (.syncAttempt a), s => (a.run s.daemon).trace
  | .activity (.peerRequest buffer size peerIdx env), s =>
    (handlePeerRequest buffer size peerIdx env s.daemon).trace
  | .activity (.clientRequest data env), s => (handlePeerRequestThread data env s.daemon).trace
  | .clockThread env, s => (clockThreadIteration s.ctx env s.daemon).trace
  | .modeHandler c, s => (c.run s.daemon).trace

/-- The datagrams that it sends. -/
def sent (step : DaemonStep) (s : RunState) : List (List UInt8) :=
  (replies (step.trace s)).map Prod.snd

/-- What an attempt receives. -/
def received : DaemonStep → Option (List UInt8)
  | .activity (.syncAttempt a) => a.env.recvfrom.toOption.map Datagram.bytes
  | _ => none

/-- A daemon in a network. -/
def behaviour : Behaviour DaemonStep RunState (List UInt8) := ⟨after, sent, received⟩

end DaemonStep

/-! ### What a reply offers -/

/-- A client that asks can take its time from the datagram. -/
structure Offers (bytes : List UInt8) (h : NtpHeader) : Prop where
  header : readHeader (Mem.ofList bytes) = h
  mode : h.mode = ntpModeServer
  li : h.li ≤ 2
  stratum_pos : 1 ≤ h.stratum
  stratum_le : h.stratum ≤ 15

/-- The stratum and the leap indicator are those that a datagram from the outside offers, handed on
by `n` daemons. -/
def HandedOn (outside : List UInt8 → Prop) (n : ℕ) (stratum li : UInt8) : Prop :=
  ∃ bytes h, outside bytes ∧ Offers bytes h ∧ stratum.toNat = min (h.stratum.toNat + n) 15 ∧
    li = h.li

theorem toNat_ntpLocalStratumFromPeer {s : UInt8} (hpos : 1 ≤ s) (hle : s ≤ 15) :
    (ntpLocalStratumFromPeer s).toNat = min (s.toNat + 1) 15 := by
  have hpos' := UInt8.le_iff_toNat_le.mp hpos
  have hle' := UInt8.le_iff_toNat_le.mp hle
  have hall : ∀ i : Fin 16, 1 ≤ i.val →
      (ntpLocalStratumFromPeer (UInt8.ofNat i.val)).toNat = min (i.val + 1) 15 := by decide
  have hs := hall ⟨s.toNat, Nat.lt_succ_of_le hle'⟩ hpos'
  rwa [UInt8.ofNat_toNat] at hs

section

variable {outside : List UInt8 → Prop}

theorem HandedOn.next {n : ℕ} {stratum li : UInt8} (h : HandedOn outside n stratum li)
    (hpos : 1 ≤ stratum) (hle : stratum ≤ 15) :
    HandedOn outside (n + 1) (ntpLocalStratumFromPeer stratum) li := by
  obtain ⟨bytes, header, hbytes, hoffers, hstratum, hli⟩ := h
  refine ⟨bytes, header, hbytes, hoffers, ?_, hli⟩
  rw [toNat_ntpLocalStratumFromPeer hpos hle, hstratum]
  omega

theorem HandedOn.li_le {n : ℕ} {stratum li : UInt8} (h : HandedOn outside n stratum li) :
    li ≤ 2 := by
  obtain ⟨bytes, header, -, hoffers, -, rfl⟩ := h
  exact hoffers.li

/-- What is published was handed on by at least the daemon itself. -/
def PublishesHandedOn (outside : List UInt8 → Prop) (s : RunState) : Prop :=
  ∀ r ∈ s.daemon.g.reference, ∃ n, HandedOn outside (n + 1) r.stratum r.li

/-- What a datagram offers was handed on. -/
def OffersHandedOn (outside : List UInt8 → Prop) (bytes : List UInt8) : Prop :=
  ∀ h, Offers bytes h → ∃ n, HandedOn outside n h.stratum h.li

theorem offersHandedOn_of_outside {bytes : List UInt8} (h : outside bytes) :
    OffersHandedOn outside bytes := by
  intro header hoffers
  have hle := UInt8.le_iff_toNat_le.mp hoffers.stratum_le
  exact ⟨0, bytes, header, h, hoffers, (min_eq_left hle).symm, rfl⟩

/-- Only a reply offers anything. -/
theorem offersHandedOn_of_mode {bytes : List UInt8}
    (h : (readHeader (Mem.ofList bytes)).mode ≠ ntpModeServer) : OffersHandedOn outside bytes := by
  intro header hoffers
  rw [hoffers.header] at h
  exact absurd hoffers.mode h

/-! ### A step -/

theorem mode_createNtpRequest (g : Globals) (t1 : NtpTimestamp) :
    (readHeader (Mem.ofList (createNtpRequest g t1))).mode = ntpModeClient := by
  rw [createNtpRequest_eq_writeHeader, readHeader_writeHeader]
  exact (unpack_packFirstByte (h := requestHeader g t1) (by decide) rfl).2.2

theorem SyncAttempt.asksOnly (a : SyncAttempt) {d : Daemon} {e : Event} (he : e ∈ (a.run d).trace) :
    e.AsksOnly := by
  obtain ⟨ip, port, env⟩ := a
  cases ip with
  | none => exact absurd he List.not_mem_nil
  | some ip =>
    cases port with
    | none => exact absurd he List.not_mem_nil
    | some port => exact (syncNtpTime_cliStep ip port env).trace d e he

/-- A reply that is accepted hands on what it offers. -/
theorem SyncAttempt.publishesHandedOn {a : SyncAttempt} {s : RunState}
    (hs : PublishesHandedOn outside s)
    (hreceived : ∀ bytes ∈ a.env.recvfrom.toOption.map Datagram.bytes,
      OffersHandedOn outside bytes) :
    PublishesHandedOn outside ((DaemonStep.activity (.syncAttempt a)).after s) := by
  obtain ⟨v, hv⟩ := a.exists_decides s.daemon
  have hafter : ((DaemonStep.activity (.syncAttempt a)).after s).daemon.g.reference =
      v.apply s.daemon.g.reference := hv.after
  unfold PublishesHandedOn
  rw [hafter]
  -- only an adopted reply changes what is published, and it comes from the network
  cases hv with
  | keeps _ => exact hs
  | withdraws _ _ _ _ => exact fun r hr => absurd hr (Option.not_mem_none r)
  | adopts hip hport haccepted hkept =>
    rename_i ip port dg delayUs offsetUs
    intro r hr
    obtain rfl := Option.some_injective _ hr
    have hchecks := haccepted.checks
    have hheader : a.env.header dg s.daemon.ido = readHeader dg.data :=
      parseNtpPacket_toNtpHeader haccepted.parses
    have hsize : 48 ≤ dg.size := (QueuedAttempt.parse_ok_iff _ _ _).mp haccepted.parses |>.1
    have hoffers : Offers dg.bytes (a.env.header dg s.daemon.ido) :=
      ⟨(Datagram.readHeader_bytes hsize).trans hheader.symm, hchecks.mode, hchecks.li,
        hchecks.stratum_pos, hchecks.stratum_le⟩
    have hbytes : dg.bytes ∈ a.env.recvfrom.toOption.map Datagram.bytes := by
      rw [haccepted.received.datagram]
      exact rfl
    -- it was handed on to this node, so the node is one further from the outside
    obtain ⟨n, hn⟩ := hreceived _ hbytes _ hoffers
    exact ⟨n, hn.next hchecks.stratum_pos hchecks.stratum_le⟩

theorem DaemonStep.publishesHandedOn {step : DaemonStep} {s : RunState}
    (hs : PublishesHandedOn outside s)
    (hreceived : ∀ bytes ∈ step.received, OffersHandedOn outside bytes) :
    PublishesHandedOn outside (step.after s) := by
  by_cases hattempt : ∃ a, step = .activity (.syncAttempt a)
  · obtain ⟨a, rfl⟩ := hattempt
    exact SyncAttempt.publishesHandedOn hs hreceived
  · push Not at hattempt
    have hg := DaemonStep.after_g hattempt s
    unfold PublishesHandedOn
    rw [hg]
    exact hs

/-- What a daemon sends offers what it publishes, or nothing. -/
theorem DaemonStep.offersHandedOn {step : DaemonStep} {s : RunState}
    (hs : PublishesHandedOn outside s) {bytes : List UInt8} (hbytes : bytes ∈ step.sent s) :
    OffersHandedOn outside bytes := by
  obtain ⟨⟨dest, bytes⟩, hreply, rfl⟩ := List.mem_map.mp hbytes
  -- a step without a datagram
  have hsilent : (∀ e ∈ step.trace s, e.sent = none) → OffersHandedOn outside bytes := by
    intro hnone
    obtain ⟨sender, hsend⟩ := mem_replies.mp hreply
    obtain ⟨e, he, hsent⟩ := List.mem_filterMap.mp hsend
    rw [hnone e he] at hsent
    cases hsent
  -- only an answer to a client can offer the time; the other datagrams have other modes
  cases step with
  | activity a =>
    cases a with
    | syncAttempt a =>
      obtain ⟨sender, hsend⟩ := mem_replies.mp hreply
      obtain ⟨e, he, hsent⟩ := List.mem_filterMap.mp hsend
      obtain ⟨g, t1, hrequest⟩ := a.asksOnly he _ hsent
      apply offersHandedOn_of_mode
      rw [show bytes = createNtpRequest g t1 from hrequest, mode_createNtpRequest]
      decide
    | peerRequest buffer size peerIdx env =>
      exact offersHandedOn_of_mode (mode_ne_of_mem_replies hreply)
    | clientRequest data env =>
      intro header hoffers
      have hli : ∀ r ∈ s.daemon.g.reference, r.li ≤ 2 := by
        intro r hr
        obtain ⟨n, hn⟩ := hs r hr
        exact hn.li_le
      have hadvertises := advertises_of_mem_replies hli hreply
      rw [hoffers.header] at hadvertises
      obtain ⟨hstratum, hheaderLi, -⟩ := hadvertises
      -- what an answer says of its server is what was published when it was made
      cases hreference : s.daemon.g.reference with
      | none =>
        rw [hreference] at hheaderLi
        have hle := hoffers.li
        rw [hheaderLi] at hle
        exact absurd hle (by decide)
      | some r =>
        rw [hreference] at hstratum hheaderLi
        obtain ⟨n, hn⟩ := hs r hreference
        rw [hstratum, hheaderLi]
        exact ⟨n + 1, hn⟩
  | clockThread env =>
    apply hsilent
    intro e he
    have hevent := (clockThreadIteration_frame s.ctx env).trace s.daemon e he
    cases e with
    | sendto sender dest bytes ok => exact hevent.elim
    | _ => rfl
  | modeHandler c =>
    exact hsilent fun e he => (c.modeStep.trace s.daemon e he).sent_eq_none

/-! ### Runs -/

/-- **What a daemon of a network advertises comes from outside**, in every run of daemons that start
unsynchronised, whatever becomes of their datagrams. -/
theorem network_provenance {ι : Type} [DecidableEq ι] {net : Net ι RunState (List UInt8)}
    (hstart : ∀ i, (net.node i).daemon.g.timeSynced = false) (hsent : net.sent = [])
    {steps : List (ι × DaemonStep)} (hlegal : Along (Net.step DaemonStep.behaviour)
      (Net.Legal DaemonStep.behaviour outside) steps net) (i : ι) :
    ∀ r ∈ ((runSteps (Net.step DaemonStep.behaviour) steps net).node i).daemon.g.reference,
      ∃ n, HandedOn outside (n + 1) r.stratum r.li := by
  have hnet : Net.Holds (PublishesHandedOn outside) (OffersHandedOn outside) net := by
    constructor
    · intro j r hr
      rw [reference_eq_none_iff.mpr (hstart j)] at hr
      cases hr
    · intro bytes hbytes
      rw [hsent] at hbytes
      exact absurd hbytes List.not_mem_nil
  have hend := Net.invariant (fun _ _ => DaemonStep.publishesHandedOn)
    (fun _ _ hs _ _ => DaemonStep.offersHandedOn hs) (fun _ => offersHandedOn_of_outside) hnet
    hlegal
  exact hend.node i

/-- A daemon that serves everybody, and has not been synchronised. -/
def upstreamDaemon : Daemon := { openServer with g := Globals.init }

/-- The answer of that daemon once it has taken its time from `echoReply`. -/
def relayedReply : List UInt8 :=
  responseTo (echoAttempt.after upstreamDaemon) ntpModeServer
    (readHeader (Mem.ofList (createNtpRequest Globals.init (ntpTimestampNow sampleTime))))
    workingRequestEnv

/-- Two daemons. -/
def relayNet : Net Bool RunState (List UInt8) :=
  ⟨fun upstream => ⟨⟨0, 0, 0⟩, if upstream then upstreamDaemon else unreachedDaemon⟩, []⟩

/-- The one takes its time from outside, and answers the other. -/
def relaySteps : List (Bool × DaemonStep) :=
  [(true, .activity (.syncAttempt echoAttempt)),
    (true, .activity (.clientRequest SyncHop.rootRequest workingRequestEnv)),
    (false, .activity (.syncAttempt ⟨some "10.0.0.1".toList, some "123".toList,
      workingSyncEnv relayedReply⟩))]

/-- The other is synchronised in the end. -/
theorem network_provenance_relay :
    ∃ r ∈ ((runSteps (Net.step DaemonStep.behaviour) relaySteps relayNet).node false
      ).daemon.g.reference, ∃ n, HandedOn (· = echoReply) (n + 1) r.stratum r.li := by
  have hstart : ∀ i, (relayNet.node i).daemon.g.timeSynced = false := by
    intro i
    cases i <;> rfl
  have hsent : relayedReply ∈ DaemonStep.behaviour.sent (.activity (.clientRequest
      SyncHop.rootRequest workingRequestEnv)) ⟨⟨0, 0, 0⟩, echoAttempt.after upstreamDaemon⟩ := by
    decide +kernel
  have hnode : (Net.step DaemonStep.behaviour (true, .activity (.syncAttempt echoAttempt))
      relayNet).node true = ⟨⟨0, 0, 0⟩, echoAttempt.after upstreamDaemon⟩ :=
    Function.update_self true _ relayNet.node
  -- the root asks outside, and the client asks the root
  have hlegal : Along (Net.step DaemonStep.behaviour)
      (Net.Legal DaemonStep.behaviour (· = echoReply)) relaySteps relayNet := by
    have hmem := Net.mem_sent_step hnode hsent
    refine ⟨?_, nofun, ?_, trivial⟩
    · intro bytes hbytes
      obtain rfl := Option.some_injective _ hbytes
      exact .inr (Datagram.bytes_ofList _)
    · intro bytes hbytes
      obtain rfl := Option.some_injective _ hbytes
      rw [Datagram.bytes_ofList]
      exact .inl hmem
  have hsynced : ((runSteps (Net.step DaemonStep.behaviour) relaySteps relayNet).node false
      ).daemon.g.reference.isSome = true := by
    decide +kernel
  obtain ⟨r, hr⟩ := Option.isSome_iff_exists.mp hsynced
  exact ⟨r, hr, network_provenance hstart rfl hlegal false r hr⟩

end

end Dntpd
