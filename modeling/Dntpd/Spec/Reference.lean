import Dntpd.Library.Register
import Dntpd.Spec.DaemonRun
import Dntpd.Spec.RootDelay
import Dntpd.Spec.SyncQueue

/-!
# What the server says of its source

A synchronised daemon publishes a reference: the stratum, leap indicator, identifier and root delay
of its source, and the time of the reply that they are from.  An attempt adopts the reference of the
reply that it accepts.  It withdraws the reference for a reply to its own request that it cannot
use, and keeps it for anything else that it receives, or for nothing.  So in every run the answers
of the listener's handler say what the last attempt decided that decided anything
(`replies_advertise`).
-/

namespace Dntpd

open Proc Register Run

/-- What a synchronised daemon says of its source. -/
structure Reference where
  stratum : UInt8
  li : UInt8
  refId : UInt32
  refTs : NtpTimestamp
  rootDelay : UInt32
  deriving DecidableEq

/-- The reference that is published. -/
def Globals.reference (g : Globals) : Option Reference :=
  if g.timeSynced then
    some ⟨g.localStratum, g.localLi, g.localRefId, g.localRefTs, g.localRootDelay⟩
  else none

theorem reference_eq_none_iff {g : Globals} : g.reference = none ↔ g.timeSynced = false := by
  unfold Globals.reference
  cases g.timeSynced with
  | false => simp
  | true => simp

/-- The identifier of a source: its address, if it is given as one. -/
def sourceId (ip : CString) : UInt32 := ((inetPton ip).map htonl).getD refIdLocl

/-- The reference of a reply that was received at `t4`. -/
def replyReference (ip : CString) (pkt : NtpHeader) (t4 : NtpTimestamp) (delayUs : UInt64) :
    Reference where
  stratum := ntpLocalStratumFromPeer pkt.stratum
  li := pkt.li
  refId := sourceId ip
  refTs := t4
  rootDelay := ntpU16_16FromUs delayUs

/-! ### The decision of an attempt -/

/-- The datagram answers the request of the attempt, and its timestamps give a delay and an
offset. -/
structure Answered (port : CString) (env : SyncEnv) (d : Daemon) (dg : Datagram)
    (delayUs : UInt64) (offsetUs : ℤ) : Prop where
  received : Received port env d dg
  parses : (env.parse dg d.ido).ok = true
  origin : PassesOrigin (ntpTimestampNow env.t1Clock) (env.header dg d.ido)
  xmitTs : (env.header dg d.ido).xmitTs ≠ ⟨0, 0⟩
  times : calculateDelayOffset (ntpTimestampNow env.t1Clock) (env.header dg d.ido).recvTs
    (env.header dg d.ido).xmitTs (ntpTimestampNow env.t4Clock) = some (delayUs, offsetUs)

/-- The server is synchronised, and neither far away nor far off. -/
structure Usable (pkt : NtpHeader) (delayUs : UInt64) (offsetUs : ℤ) : Prop where
  stratum_pos : 1 ≤ pkt.stratum
  stratum_le : pkt.stratum ≤ 15
  offset_le : |offsetUs| ≤ 1000000
  delay_le : delayUs ≤ 10000000

/-- An accepted reply is an answer that can be used. -/
theorem replyAccepted_iff {port : CString} {env : SyncEnv} {d : Daemon} {dg : Datagram}
    {delayUs : UInt64} {offsetUs : ℤ} :
    ReplyAccepted port env d dg delayUs offsetUs ↔ Answered port env d dg delayUs offsetUs ∧
      Usable (env.header dg d.ido) delayUs offsetUs := by
  constructor
  · -- the checks of a reply fall into those that make it an answer and those that make it usable
    rintro ⟨hreceived, hparses, hchecks⟩
    have horigin : PassesOrigin (ntpTimestampNow env.t1Clock) (env.header dg d.ido) :=
      ⟨(li_ne_three_iff _).mpr hchecks.li, hchecks.mode, hchecks.origTs⟩
    exact ⟨⟨hreceived, hparses, horigin, hchecks.xmitTs, hchecks.times⟩,
      ⟨hchecks.stratum_pos, hchecks.stratum_le, hchecks.offset_le, hchecks.delay_le⟩⟩
  · rintro ⟨hanswered, husable⟩
    exact ⟨hanswered.received, hanswered.parses, {
      li := (li_ne_three_iff _).mp hanswered.origin.li
      mode := hanswered.origin.mode
      origTs := hanswered.origin.origTs
      xmitTs := hanswered.xmitTs
      times := hanswered.times
      stratum_pos := husable.stratum_pos
      stratum_le := husable.stratum_le
      offset_le := husable.offset_le
      delay_le := husable.delay_le }⟩

/-- What an attempt decides on the reference of the daemon `d`. -/
inductive SyncAttempt.Decides (a : SyncAttempt) (d : Daemon) : Decision (Option Reference) → Prop
  | adopts {ip port : CString} {dg : Datagram} {delayUs : UInt64} {offsetUs : ℤ}
      (hip : a.ip = some ip) (hport : a.port = some port)
      (haccepted : ReplyAccepted port a.env d dg delayUs offsetUs) (hkept : ReplyKept a.env d) :
    Decides a d (.store (some (replyReference ip (a.env.header dg d.ido)
      (ntpTimestampNow a.env.t4Clock) delayUs)))
  | withdraws {ip port : CString} {dg : Datagram} {delayUs : UInt64} {offsetUs : ℤ}
      (hip : a.ip = some ip) (hport : a.port = some port)
      (hanswered : Answered port a.env d dg delayUs offsetUs)
      (hunused : ¬ (Usable (a.env.header dg d.ido) delayUs offsetUs ∧ ReplyKept a.env d)) :
    Decides a d (.store none)
  | keeps (h : ∀ ip port dg delayUs offsetUs, a.ip = some ip → a.port = some port →
      ¬ Answered port a.env d dg delayUs offsetUs) :
    Decides a d .keep

/-! ### Adopted -/

theorem recordSync_refId (ip : CString) (pkt : NtpHeader) (t4 : NtpTimestamp) (delayUs : UInt64)
    (offsetUs : ℤ) (env : SyncEnv) (d : Daemon)
    (hstratum : 2 ≤ ntpLocalStratumFromPeer pkt.stratum ∧
      ntpLocalStratumFromPeer pkt.stratum ≤ 15) :
    (recordSync ip pkt t4 delayUs offsetUs env d).state.g.localRefId = sourceId ip := by
  obtain ⟨hge, hle⟩ := hstratum
  unfold recordSync lock unlock
  simp only [updateRootDispersion_state, ntpOffsetJitterUsLocked_run, bind_state,
    update_state, emit_state, read_state, read_ret]
  show syncRefId ip _ = sourceId ip
  unfold syncRefId sourceId
  rw [if_pos ⟨decide_eq_true hle, hge⟩]
  cases inetPton ip <;> rfl

/-- The last section publishes the reference of the reply. -/
theorem recordSync_reference {t1 t4 : NtpTimestamp} {pkt : NtpHeader} {delayUs : UInt64}
    {offsetUs : ℤ} (h : ReplyChecks t1 t4 pkt delayUs offsetUs) (ip : CString) (env : SyncEnv)
    (d : Daemon) : (recordSync ip pkt t4 delayUs offsetUs env d).state.g.reference =
      some (replyReference ip pkt t4 delayUs) := by
  have hconsistent := recordSync_consistent h ip env d
  obtain ⟨hstratum, hli, hrefTs, -⟩ := recordSync_g ip pkt t4 delayUs offsetUs env d
  obtain ⟨hsynced, hdelay⟩ := recordSync_rootDelay ip pkt t4 delayUs offsetUs env d
  have hbounds : 2 ≤ ntpLocalStratumFromPeer pkt.stratum ∧
      ntpLocalStratumFromPeer pkt.stratum ≤ 15 := by
    rw [← hstratum]
    exact ⟨hconsistent.stratum_ge, hconsistent.stratum_le⟩
  have hrefId := recordSync_refId ip pkt t4 delayUs offsetUs env d hbounds
  unfold Globals.reference
  rw [if_pos (hsynced.trans (decide_eq_true hbounds.2)), hstratum, hli, hrefId, hrefTs, hdelay]
  rfl

section

variable {port : CString} {env : SyncEnv} {d : Daemon} {dg : Datagram} {delayUs : UInt64}
  {offsetUs : ℤ}

theorem ReplyAccepted.adopted (h : ReplyAccepted port env d dg delayUs offsetUs)
    (hkept : ReplyKept env d) (ip : CString) :
    (syncNtpTime (some ip) (some port) env d).state.g.reference =
      some (replyReference ip (env.header dg d.ido) (ntpTimestampNow env.t4Clock) delayUs) := by
  obtain ⟨-, d₁, hg⟩ := h.finishedRun hkept ip
  rw [hg]
  exact recordSync_reference h.checks ip env d₁

/-! ### Withdrawn or kept -/

/-- From a reply that parses an attempt goes on with its checks, with the variables as they were. -/
theorem Received.checked (h : Received port env d dg) (hparses : (env.parse dg d.ido).ok = true)
    (ip : CString) :
    ∃ sock d₁, d₁.g = d.g ∧ (syncNtpTime (some ip) (some port) env d).state =
      (checkReply ip sock (ntpTimestampNow env.t1Clock) (ntpTimestampNow env.t4Clock)
        (env.header dg d.ido) env d₁).state := by
  obtain ⟨sock, hret⟩ := (sendSyncRequest_ret port env d).1 h.sent
  have hsent : (sendSyncRequest port env d).state.eraseSocket = d.eraseSocket :=
    (sendSyncRequest_frame port env).state d
  have herase := ((sys_requestStep env.recvfrom).state (sendSyncRequest port env d).state).trans
    hsent
  set d₀ := (sys env.recvfrom (sendSyncRequest port env d).state).state
  -- the datagram is taken apart in the state that the request leaves
  obtain ⟨d₁, hd₁, hprocess⟩ :=
    processReply_run ip port sock (ntpTimestampNow env.t1Clock) dg env d₀
  have hido : d₀.ido = d.ido := (congrArg Daemon.ido herase :)
  have hg : d₁.g = d₀.g := (congrArg Daemon.g hd₁ :)
  refine ⟨sock, d₁, hg.trans (congrArg Daemon.g herase :), ?_⟩
  rw [hido, hparses, if_pos rfl] at hprocess
  have hreceive : receiveReply ip port sock (ntpTimestampNow env.t1Clock) env = processReply ip
      port sock (ntpTimestampNow env.t1Clock) dg.data (min dg.size bufferSize) env := by
    unfold receiveReply
    rw [h.datagram]
    exact if_pos h.nonempty
  rw [syncNtpTime_of_some hret, hreceive]
  exact (congrArg Outcome.state hprocess :)

theorem handleLeapIndicator_globals (li : UInt8) (env : LeapScheduleEnv) (d : Daemon) :
    (handleLeapIndicator li env d).state.g = d.g :=
  (congrArg Daemon.g ((handleLeapIndicator_frame li env).state d) :)

theorem rejectReply_globals (sock : ℤ) (d : Daemon) : (rejectReply sock d).state.g = d.g :=
  (congrArg Daemon.g ((rejectReply_frame sock).state d) :)

/-- An answer that cannot be used withdraws the reference. -/
theorem Answered.withdrawn (h : Answered port env d dg delayUs offsetUs)
    (hunusable : ¬ Usable (env.header dg d.ido) delayUs offsetUs) (ip : CString) :
    (syncNtpTime (some ip) (some port) env d).state.g.timeSynced = false := by
  obtain ⟨sock, d₁, -, hrun⟩ := h.received.checked h.parses ip
  have hdemote : ∀ change : Globals → Globals, (∀ g, (change g).timeSynced = false) → ∀ d₂,
      (demoteReply sock change d₂).state.g.timeSynced = false := by
    intro change hchange d₂
    rw [(demoteReply_run sock change d₂).2.1]
    exact hchange _
  rw [hrun, (checkReply_eq ip sock _ _ _ env).1 h.origin]
  show (checkTimes ip sock _ _ _ env _).state.g.timeSynced = false
  unfold checkTimes
  rw [if_neg h.xmitTs, h.times]
  dsimp only
  -- the first of the three tests that fails ends it
  by_cases hstratum : (env.header dg d.ido).stratum = 0 ∨ (env.header dg d.ido).stratum > 15
  · rw [if_pos hstratum]
    exact hdemote _ (fun _ => rfl) _
  rw [if_neg hstratum]
  by_cases hoffset : (if offsetUs ≥ 0 then offsetUs else -offsetUs) > maxDist
  · rw [if_pos hoffset]
    exact hdemote _ (fun _ => rfl) _
  rw [if_neg hoffset]
  by_cases hdelay : delayUs > 10000000
  · rw [if_pos hdelay]
    exact hdemote _ (fun _ => rfl) _
  rw [stratum_test_iff, not_not] at hstratum
  rw [abs_gt_maxDist_iff, not_not] at hoffset
  exact absurd ⟨hstratum.1, hstratum.2, hoffset, not_lt.mp hdelay⟩ hunusable

/-- So does one that the filter drops. -/
theorem Answered.unused (h : Answered port env d dg delayUs offsetUs)
    (hunused : ¬ (Usable (env.header dg d.ido) delayUs offsetUs ∧ ReplyKept env d))
    (ip : CString) : (syncNtpTime (some ip) (some port) env d).state.g.timeSynced = false := by
  by_cases husable : Usable (env.header dg d.ido) delayUs offsetUs
  · have hdropped : ¬ ReplyKept env d := mt (And.intro husable) hunused
    rw [((replyAccepted_iff.mpr ⟨h, husable⟩).droppedRun hdropped ip).2]
    rfl
  · exact h.withdrawn husable ip

/-- A reply that is no answer leaves the variables alone. -/
theorem Received.ignored (h : Received port env d dg) (hparses : (env.parse dg d.ido).ok = true)
    (hnot : ∀ delayUs offsetUs, ¬ Answered port env d dg delayUs offsetUs) (ip : CString) :
    (syncNtpTime (some ip) (some port) env d).state.g = d.g := by
  obtain ⟨sock, d₁, hg, hrun⟩ := h.checked hparses ip
  have hreject : ∀ d₂, d₂.g = d.g → (rejectReply sock d₂).state.g = d.g := fun d₂ hd₂ =>
    (rejectReply_globals sock d₂).trans hd₂
  have hleap : (handleLeapIndicator (env.header dg d.ido).li env.leapSchedule d₁).state.g = d.g :=
    (handleLeapIndicator_globals _ _ _).trans hg
  have hcheck := checkReply_eq ip sock (ntpTimestampNow env.t1Clock)
    (ntpTimestampNow env.t4Clock) (env.header dg d.ido) env
  rw [hrun]
  -- the checks before the delay is computed, and each of them ends in the same exit
  by_cases horigin : PassesOrigin (ntpTimestampNow env.t1Clock) (env.header dg d.ido)
  swap
  · rw [hcheck.2 horigin]
    exact hreject _ hleap
  rw [hcheck.1 horigin]
  show (checkTimes ip sock _ _ _ env _).state.g = d.g
  unfold checkTimes
  by_cases hxmit : (env.header dg d.ido).xmitTs = ⟨0, 0⟩
  · rw [if_pos hxmit]
    exact hreject _ hleap
  rw [if_neg hxmit]
  cases htimes : calculateDelayOffset (ntpTimestampNow env.t1Clock) (env.header dg d.ido).recvTs
      (env.header dg d.ido).xmitTs (ntpTimestampNow env.t4Clock) with
  | none => exact hreject _ hleap
  | some times => exact absurd ⟨h, hparses, horigin, hxmit, htimes⟩ (hnot times.1 times.2)

/-- An attempt without an answer leaves the variables alone. -/
theorem globals_of_not_answered
    (h : ∀ dg delayUs offsetUs, ¬ Answered port env d dg delayUs offsetUs) (ip : CString) :
    (syncNtpTime (some ip) (some port) env d).state.g = d.g := by
  cases syncNtpTime_cases ip port env d with
  | unreceived hnot hret hstate htrace => exact (congrArg Daemon.g hstate :)
  | unparsed dg hreceived hparse hret hstate htrace => exact (congrArg Daemon.g hstate :)
  | rejected dg hreceived hparse => exact hreceived.ignored hparse (h dg) ip
  | accepted dg delayUs offsetUs haccepted =>
    exact absurd (replyAccepted_iff.mp haccepted).1 (h dg delayUs offsetUs)

end

/-- The reference after an attempt is what the attempt decides. -/
theorem SyncAttempt.Decides.after {a : SyncAttempt} {d : Daemon}
    {v : Decision (Option Reference)} (h : a.Decides d v) :
    (a.after d).g.reference = v.apply d.g.reference := by
  obtain ⟨ip, port, env⟩ := a
  -- one case for each of the three decisions
  cases h with
  | adopts hip hport haccepted hkept =>
    obtain rfl := hip
    obtain rfl := hport
    exact haccepted.adopted hkept _
  | withdraws hip hport hanswered hunused =>
    obtain rfl := hip
    obtain rfl := hport
    rw [Decision.apply_store, reference_eq_none_iff]
    exact hanswered.unused hunused _
  | keeps h =>
    cases ip with
    | none => rfl
    | some ip =>
      cases port with
      | none => rfl
      | some port =>
        have hnot : ∀ dg delayUs offsetUs, ¬ Answered port env d dg delayUs offsetUs :=
          fun dg delayUs offsetUs => h ip port dg delayUs offsetUs rfl rfl
        exact congrArg Globals.reference (globals_of_not_answered hnot ip)

/-- Every attempt decides something. -/
theorem SyncAttempt.exists_decides (a : SyncAttempt) (d : Daemon) : ∃ v, a.Decides d v := by
  by_cases h : ∀ ip port dg delayUs offsetUs, a.ip = some ip → a.port = some port →
      ¬ Answered port a.env d dg delayUs offsetUs
  · exact ⟨_, .keeps h⟩
  · push Not at h
    obtain ⟨ip, port, dg, delayUs, offsetUs, hip, hport, hanswered⟩ := h
    by_cases hused : Usable (a.env.header dg d.ido) delayUs offsetUs ∧ ReplyKept a.env d
    · exact ⟨_, .adopts hip hport (replyAccepted_iff.mpr ⟨hanswered, hused.1⟩) hused.2⟩
    · exact ⟨_, .withdraws hip hport hanswered hused⟩

/-! ### Runs -/

/-- What a step decides on the reference: only an attempt decides anything. -/
def DaemonStep.Decides : DaemonStep → RunState → Decision (Option Reference) → Prop
  | .activity (.syncAttempt a), s, v => a.Decides s.daemon v
  | _, _, v => v = .keep

theorem DaemonStep.Decides.after {step : DaemonStep} {s : RunState}
    {v : Decision (Option Reference)} (h : step.Decides s v) :
    (step.after s).daemon.g.reference = v.apply s.daemon.g.reference := by
  by_cases hattempt : ∃ a, step = .activity (.syncAttempt a)
  · obtain ⟨a, rfl⟩ := hattempt
    exact SyncAttempt.Decides.after h
  · push Not at hattempt
    have hkeep : v = .keep := by
      cases step with
      | activity a =>
        cases a with
        | syncAttempt a => exact absurd rfl (hattempt a)
        | _ => exact h
      | _ => exact h
    rw [hkeep, Decision.apply_keep, DaemonStep.after_g hattempt]

theorem DaemonStep.exists_decides (step : DaemonStep) (s : RunState) :
    ∃ v, step.Decides s v := by
  cases step with
  | activity a =>
    cases a with
    | syncAttempt a => exact a.exists_decides s.daemon
    | _ => exact ⟨_, rfl⟩
  | _ => exact ⟨_, rfl⟩

/-- What the run has decided, for a daemon that starts unsynchronised. -/
def Stands (steps : List DaemonStep) (s : RunState) (r : Option Reference) : Prop :=
  LastStored DaemonStep.after DaemonStep.Decides steps s r ∨
    (NeverStored DaemonStep.after DaemonStep.Decides steps s ∧ r = none)

/-- The published reference is what the run has decided. -/
theorem stands_iff {steps : List DaemonStep} {s : RunState} (hs : s.daemon.g.timeSynced = false)
    {r : Option Reference} :
    Stands steps s r ↔ (runSteps DaemonStep.after steps s).daemon.g.reference = r := by
  have hregister : (runSteps DaemonStep.after steps s).daemon.g.reference = r ↔
      LastStored DaemonStep.after DaemonStep.Decides steps s r ∨
        (NeverStored DaemonStep.after DaemonStep.Decides steps s ∧ s.daemon.g.reference = r) :=
    @register_eq_iff _ _ _ _ (fun s => s.daemon.g.reference) _
      (fun _ _ _ => DaemonStep.Decides.after) DaemonStep.exists_decides _ _ _
  rw [reference_eq_none_iff.mpr hs] at hregister
  rw [hregister, eq_comm]
  rfl

/-- The header says what the reference is, or that there is none. -/
def NtpHeader.Advertises (h : NtpHeader) (r : Option Reference) : Prop :=
  h.stratum = (r.map Reference.stratum).getD 16 ∧ h.li = (r.map Reference.li).getD 3 ∧
    h.refId = (r.map Reference.refId).getD refIdLocl ∧
    h.refTs = (r.map Reference.refTs).getD ⟨0, 0⟩ ∧
    h.rootDelay = (r.map Reference.rootDelay).getD 0

/-- The stratum is one of a synchronised client, and the leap indicator is no alarm. -/
structure Reference.Sound (r : Reference) : Prop where
  stratum_ge : 2 ≤ r.stratum
  stratum_le : r.stratum ≤ 15
  li_le : r.li ≤ 2

/-- A reference that stands is one of a reply that was accepted. -/
theorem Stands.sound {steps : List DaemonStep} {s : RunState} {r : Reference}
    (h : Stands steps s (some r)) : r.Sound := by
  rcases h with ⟨pre, step, post, -, hstore, -⟩ | ⟨-, hnone⟩
  swap
  · cases hnone
  -- nothing but an attempt of the client stores a reference
  have hadopts : ∃ a, step = .activity (.syncAttempt a) := by
    cases step with
    | activity a =>
      cases a with
      | syncAttempt a => exact ⟨a, rfl⟩
      | _ => cases hstore
    | _ => cases hstore
  obtain ⟨a, rfl⟩ := hadopts
  cases hstore with
  | adopts hip hport haccepted hkept =>
    have hchecks := haccepted.checks
    have hstratum := (not_congr (stratum_test_iff _)).mpr
      (not_not.mpr ⟨hchecks.stratum_pos, hchecks.stratum_le⟩)
    obtain ⟨hzero, hlarge⟩ := not_or.mp hstratum
    obtain ⟨hge, hle⟩ := ntpLocalStratumFromPeer_mem hzero hlarge
    exact ⟨hge, hle, hchecks.li⟩

theorem and_three_of_le {li : UInt8} (h : li ≤ 2) : li &&& 0x03 = li := by
  have hle : li.toNat ≤ 2 := UInt8.le_iff_toNat_le.mp h
  rw [← UInt8.toNat_inj, UInt8.toNat_and]
  exact (Nat.and_two_pow_sub_one_eq_mod li.toNat 2).trans (Nat.mod_eq_of_lt (by omega))

/-- An answer says what the reference of the daemon is. -/
theorem advertises_of_mem_replies {data : PeerRequestData} {env : RequestEnv} {d : Daemon}
    (hli : ∀ r ∈ d.g.reference, r.li ≤ 2) {reply : SockAddrIn × List UInt8}
    (hreply : reply ∈ replies (handlePeerRequestThread data env d).trace) :
    (readHeader (Mem.ofList reply.2)).Advertises d.g.reference := by
  obtain ⟨sender, hsent⟩ := mem_replies.mp hreply
  obtain ⟨buffer, responseMode, hhandled, hbytes⟩ := exists_responseTo_of_mem_sends hsent
  have hcarries := carriesResponse_responseHeader d
    (responseModeFor_toNat_lt hhandled.admitted.mode) (readHeader buffer) env
  have hheader : readHeader (Mem.ofList reply.2) =
      responseHeader d responseMode (readHeader buffer) env := by
    rw [show reply.2 = _ from hbytes, responseTo_eq_writeHeader, readHeader_writeHeader]
  rw [hheader]
  unfold NtpHeader.Advertises
  rw [hcarries.stratum, hcarries.li, hcarries.refId, hcarries.refTs, hcarries.rootDelay,
    modeGetDefaultLi_run, modeGetDefaultStratum_run, modeGetDefaultRefId_run]
  unfold Globals.reference at hli ⊢
  -- without a reference the three defaults are sent, with one its own values
  cases hsynced : d.g.timeSynced with
  | false =>
    have hthree : (3 : UInt8) &&& 0x03 = 3 := by decide
    exact ⟨rfl, hthree, rfl, rfl, rfl⟩
  | true =>
    rw [hsynced] at hli
    exact ⟨rfl, and_three_of_le (hli _ rfl), rfl, rfl, rfl⟩

/-- After the run exactly one reference stands, and every answer of the listener's handler carries
it, or says that there is none. -/
def AdvertisesLast (steps : List DaemonStep) (s : RunState) : Prop :=
  ∃ r, (∀ r', Stands steps s r' ↔ r' = r) ∧ (∀ r' ∈ r, r'.Sound) ∧ ∀ data env,
    ∀ reply ∈ replies
      (handlePeerRequestThread data env (runSteps DaemonStep.after steps s).daemon).trace,
    (readHeader (Mem.ofList reply.2)).Advertises r

/-- **The server says what its last deciding attempt decided**, in every run of a daemon that starts
unsynchronised. -/
theorem replies_advertise (steps : List DaemonStep) {s : RunState}
    (hs : s.daemon.g.timeSynced = false) : AdvertisesLast steps s := by
  set g := (runSteps DaemonStep.after steps s).daemon.g with hg
  have hstands : ∀ r', Stands steps s r' ↔ r' = g.reference := fun r' =>
    (stands_iff hs).trans eq_comm
  have hsound : ∀ r' ∈ g.reference, r'.Sound := fun r' hr' =>
    ((hstands (some r')).mpr hr'.symm).sound
  refine ⟨g.reference, hstands, hsound, fun data env reply hreply => ?_⟩
  exact advertises_of_mem_replies (fun r' hr' => (hsound r' hr').li_le) hreply

/-- The daemon accepts a reply, then one that is too slow. -/
theorem replies_advertise_slowReply :
    AdvertisesLast [.activity (.syncAttempt echoAttempt), .activity (.syncAttempt slowAttempt)]
      ⟨⟨0, 0, 0⟩, unreachedDaemon⟩ :=
  replies_advertise _ rfl

end Dntpd
