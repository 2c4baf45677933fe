import Dntpd.Spec.NtpAlgorithms
import Dntpd.Spec.SyncReject

/-!
# What an accepted reply leads to

The filter keeps a sample of every store that has one, so an accepted reply leads to a correction by
its own offset (`mem_trace_finishSync`), whatever the filter made of its sample.  The section that
follows starts with an unlock of `g_mutex`, which is not held there.

An attempt corrects the clock only for a reply that passed every check, and after any number of
attempts the published variables are consistent (`syncNtpTime_safe`); an attempt keeps the
discipline of `g_mutex` exactly when it gets no further than the filter (`lockDisciplined_iff`); and
a reply whose sample the filter rejects is applied all the same (`not_offsetWithheld`).
-/

namespace Dntpd

open Proc

/-! ### The filter -/

/-- The daemon without `errno` and the samples. -/
def Daemon.eraseFilter (d : Daemon) : Daemon := { d with errno := 0, samples := SampleStore.empty }

theorem addSyncSample_frame (delayUs : UInt64) (offsetUs : ℤ) (r : Except Errno Timeval) :
    Frame Daemon.eraseFilter (Event.LocksOnly [.gMutex]) (addSyncSample delayUs offsetUs r) := by
  unfold addSyncSample
  refine .bind ((sys_frame r _).mono Daemon.eraseFilter fun _ he => he) fun r => ?_
  cases r with
  | error e => exact .pure _
  | ok tv => exact (marxAddSampleUs_frame _ _ _).mono Daemon.eraseFilter fun _ he => he

theorem filterReply_frame (delayUs : UInt64) (offsetUs : ℤ) (r : Except Errno Timeval) :
    Frame Daemon.eraseFilter (Event.LocksOnly [.gMutex]) (filterReply delayUs offsetUs r) :=
  .bind (addSyncSample_frame _ _ _) fun _ => .bind .read fun _ =>
    (marxFilterOutliers_frame _ _).mono Daemon.eraseFilter fun _ he => he

theorem addSyncSample_guarded (delayUs : UInt64) (offsetUs : ℤ) (r : Except Errno Timeval) :
    GMutexGuarded (addSyncSample delayUs offsetUs r) := by
  unfold addSyncSample
  refine .bind (.of_frame (sys_frame r fun _ => False) fun _ he => he.elim) fun r => ?_
  cases r with
  | error e => exact .pure _
  | ok tv => exact marxAddSampleUs_guarded _ _ _

theorem filterReply_guarded (delayUs : UInt64) (offsetUs : ℤ) (r : Except Errno Timeval) :
    GMutexGuarded (filterReply delayUs offsetUs r) :=
  .bind (addSyncSample_guarded _ _ _) fun _ => .bind .read fun _ => marxFilterOutliers_guarded _ _

/-- A store that was added to is not empty. -/
theorem one_le_count_add (s : SampleStore) (x : NtpSample) : 1 ≤ (s.add x).count := by
  unfold SampleStore.add
  split_ifs with h
  · show 1 ≤ s.count + 1
    omega
  · have : 1 ≤ maxSamples := by decide
    omega

/-- The store is empty after a sample was to be added only if it was empty and the time of day could
not be read. -/
theorem count_addSyncSample_eq_zero_iff (delayUs : UInt64) (offsetUs : ℤ)
    (r : Except Errno Timeval) (d : Daemon) :
    (addSyncSample delayUs offsetUs r d).state.samples.count = 0 ↔
      r.toBool = false ∧ d.samples.count = 0 := by
  unfold addSyncSample
  cases r with
  | error e => exact (and_iff_right rfl).symm
  | ok tv =>
    have h := one_le_count_add d.samples ⟨timevalNs tv, delayUs, offsetUs⟩
    refine ⟨fun h0 => ?_, fun h0 => absurd h0.1 (by simp)⟩
    have h0' : (d.samples.add ⟨timevalNs tv, delayUs, offsetUs⟩).count = 0 := h0
    omega

/-- The filter keeps nothing only if there is nothing. -/
theorem filterReply_eq_zero_iff (delayUs : UInt64) (offsetUs : ℤ) (r : Except Errno Timeval)
    (d : Daemon) :
    (filterReply delayUs offsetUs r d).ret = 0 ↔ r.toBool = false ∧ d.samples.count = 0 := by
  rw [← count_addSyncSample_eq_zero_iff delayUs offsetUs r d]
  set d' := (addSyncSample delayUs offsetUs r d).state with hd'
  have hret : (filterReply delayUs offsetUs r d).ret =
    (marxFilterOutliers d'.samples.count 3 d').ret := rfl
  rw [hret]
  constructor
  · intro h0
    by_contra hne
    have := marxFilterOutliers_pos (d := d') (by omega) 3
    omega
  · intro h0
    rw [h0]
    rfl

/-! ### The correction -/

/-- The event is no correction and no frequency update of the attempt itself, or is one by
`offsetUs`. -/
def Event.ByOffset (offsetUs : ℤ) : Event → Prop
  | .applyTimeCorrectionSlewOrStep c off =>
    c = .leapSecondApplyCorrection ∨ c = .syncNtpTime ∧ off = offsetUs
  | .updateFrequencyDiscipline off _ => off = offsetUs
  | _ => True

theorem Event.LocksOnly.byOffset {ms : List Mutex} {e : Event} (he : e.LocksOnly ms)
    (offsetUs : ℤ) : e.ByOffset offsetUs := by
  cases e <;> trivial

theorem Event.InLeapModule.byOffset {e : Event} (he : e.InLeapModule) (offsetUs : ℤ) :
    e.ByOffset offsetUs := by
  cases e with
  | applyTimeCorrectionSlewOrStep c off => exact .inl he
  | updateFrequencyDiscipline off pollExp => exact he.elim
  | _ => trivial

theorem Event.InCorrection.byOffset {offsetUs : ℤ} {e : Event}
    (he : e.InCorrection .syncNtpTime offsetUs) : e.ByOffset offsetUs := by
  cases e with
  | applyTimeCorrectionSlewOrStep c off => exact .inr he
  | updateFrequencyDiscipline off pollExp => exact he.elim
  | _ => trivial

theorem Event.InExchange.byOffset {e : Event} (he : e.InExchange) (offsetUs : ℤ) :
    e.ByOffset offsetUs := by
  cases e <;> trivial

/-- A step of an accepted reply with this offset that leaves the globals alone. -/
abbrev OffsetStep (offsetUs : ℤ) {α : Type} (p : DProc α) : Prop :=
  Frame Daemon.g (Event.ByOffset offsetUs) p

theorem ntpOffsetJitterUsLocked_frame :
    Frame (id : Daemon → Daemon) (Event.LocksOnly [.gMutex]) ntpOffsetJitterUsLocked where
  state d := (ntpOffsetJitterUsLocked_run d).1
  trace d e he := by
    rw [(ntpOffsetJitterUsLocked_run d).2] at he
    rcases List.mem_pair.mp he with rfl | rfl
    · exact List.mem_singleton_self _
    · exact List.mem_singleton_self _

/-- The events of an update of the discipline by `offsetUs` at the poll exponent `pollExp`. -/
def Event.InDiscipline (offsetUs pollExp : ℤ) : Event → Prop
  | .updateFrequencyDiscipline off p => off = offsetUs ∧ p = pollExp
  | .lock m => m = .gMutex
  | .unlock m => m = .gMutex
  | .adjtime _ _ _ => True
  | .adjtimex _ _ => True
  | _ => False

theorem Event.InDiscipline.byOffset {offsetUs pollExp : ℤ} {e : Event}
    (he : e.InDiscipline offsetUs pollExp) : e.ByOffset offsetUs := by
  cases e with
  | applyTimeCorrectionSlewOrStep c off => exact he.elim
  | updateFrequencyDiscipline off p => exact he.1
  | _ => trivial

theorem Event.LocksOnly.inDiscipline {offsetUs pollExp : ℤ} {e : Event}
    (he : e.LocksOnly [.gMutex]) : e.InDiscipline offsetUs pollExp := by
  cases e with
  | lock m => exact List.mem_singleton.mp he
  | unlock m => exact List.mem_singleton.mp he
  | _ => exact he.elim

/-- The daemon without `errno` and the state of the frequency discipline. -/
def Daemon.eraseFreq (d : Daemon) : Daemon := { d with errno := 0, freq := FreqState.init }

theorem applyFrequencyAdjustment_frame (offsetUs pollExp : ℤ) (ppm : ℚ) (env : FreqEnv) :
    Frame Daemon.eraseFreq (Event.InDiscipline offsetUs pollExp)
      (applyFrequencyAdjustment ppm env) := by
  have hsys : ∀ {α : Type} (r : Except Errno α),
      Frame Daemon.eraseFreq (Event.InDiscipline offsetUs pollExp) (sys r) := fun r =>
    (sys_frame r fun _ => False).mono Daemon.eraseFreq fun _ he => he.elim
  have hadjtime : ∀ ppm, Frame Daemon.eraseFreq (Event.InDiscipline offsetUs pollExp)
      (applyFreqAdjtime ppm env) := fun ppm =>
    .bind (hsys _) fun _ => .bind (.emit trivial) fun _ => .pure _
  have hadjtimex : ∀ ppm, Frame Daemon.eraseFreq (Event.InDiscipline offsetUs pollExp)
      (applyFreqAdjtimex ppm env) := fun ppm => by
    unfold applyFreqAdjtimex
    refine .bind (hsys _) fun r => .bind (.emit trivial) fun _ => ?_
    cases r with
    | error e => exact .pure _
    | ok answer => exact .pure _
  unfold applyFrequencyAdjustment
  refine .ite (.pure _) (.bind (hadjtimex _) fun r => .ite ?_ (hadjtime _))
  exact .bind (.update fun _ => rfl) fun _ => .pure _

theorem updateFrequencyDiscipline_frame (offsetUs pollExp : ℤ) (env : FreqEnv) :
    Frame Daemon.eraseFreq (Event.InDiscipline offsetUs pollExp)
      (updateFrequencyDiscipline offsetUs pollExp env) := by
  have hjitter : Frame Daemon.eraseFreq (Event.InDiscipline offsetUs pollExp)
      ntpOffsetJitterUsLocked :=
    ntpOffsetJitterUsLocked_frame.mono Daemon.eraseFreq fun _ he => he.inDiscipline
  unfold updateFrequencyDiscipline updateFrequencyDisciplineInternal
  refine .bind (.emit ⟨rfl, rfl⟩) fun _ => .bind (.emit rfl) fun _ => ?_
  refine .bind hjitter fun jitterUs => .bind ?_ fun _ => .bind (.emit rfl) fun _ => .pure _
  exact .bind (.update fun _ => rfl) fun _ => .bind .read fun d =>
    applyFrequencyAdjustment_frame _ _ _ _

theorem updateFrequencyDiscipline_offsetStep (offsetUs pollExp : ℤ) (env : FreqEnv) :
    OffsetStep offsetUs (updateFrequencyDiscipline offsetUs pollExp env) :=
  (updateFrequencyDiscipline_frame offsetUs pollExp env).mono Daemon.g fun _ he => he.byOffset

theorem correctClock_offsetStep (offsetUs : ℤ) (env : SyncEnv) :
    OffsetStep offsetUs (correctClock offsetUs env) := by
  unfold correctClock
  refine .bind ((applyTimeCorrection_frame _ _ _).mono Daemon.g fun _ he => he.byOffset) fun _ => ?_
  exact .bind .read fun d => .bind (updateFrequencyDiscipline_offsetStep _ _ _) fun _ => .pure _

theorem closeSocket_offsetStep (offsetUs : ℤ) (sock : ℤ) : OffsetStep offsetUs (closeSocket sock) :=
  (closeSocket_frame sock).mono Daemon.g fun _ he => he.1.byOffset offsetUs

theorem leapSecondIntegrationCheck_offsetStep (offsetUs : ℤ) (env : LeapCheckEnv) :
    OffsetStep offsetUs (leapSecondIntegrationCheck env) :=
  (leapSecondIntegrationCheck_frame env).mono Daemon.g fun _ he => he.byOffset offsetUs

theorem filterReply_offsetStep (offsetUs : ℤ) (delayUs : UInt64) (r : Except Errno Timeval) :
    OffsetStep offsetUs (filterReply delayUs offsetUs r) :=
  (filterReply_frame delayUs offsetUs r).mono Daemon.g fun _ he => he.byOffset offsetUs

/-! ### The published variables -/

/-- A synchronised daemon publishes a stratum from 2 to 15, a leap indicator other than 3, and the
time of the last synchronisation as its reference time. -/
structure Consistent (g : Globals) : Prop where
  stratum_ge : 2 ≤ g.localStratum
  stratum_le : g.localStratum ≤ 15
  li_le : g.localLi ≤ 2
  refTs : g.localRefTs = g.lastSyncTs

/-- The invariant of the globals over attempts. -/
def SyncInvariant (g : Globals) : Prop := g.timeSynced = true → Consistent g

theorem updateRootDispersion_state (disp : UInt32) (offsetUs jitterUs : UInt64) (now : ℤ)
    (d : Daemon) : (updateRootDispersion disp offsetUs jitterUs now d).state =
      { d with g := { d.g with lastDispersionUpdate := now } } := by
  unfold updateRootDispersion lock unlock
  by_cases h : d.g.lastDispersionUpdate = 0 <;> simp [h]

/-- The last section leaves the variables of the reply. -/
theorem recordSync_g (ip : CString) (pkt : NtpHeader) (t4 : NtpTimestamp) (delayUs : UInt64)
    (offsetUs : ℤ) (env : SyncEnv) (d : Daemon) :
    let g := (recordSync ip pkt t4 delayUs offsetUs env d).state.g
    g.localStratum = ntpLocalStratumFromPeer pkt.stratum ∧ g.localLi = pkt.li ∧
      g.localRefTs = t4 ∧ g.lastSyncTs = t4 := by
  unfold recordSync lock unlock
  simp [updateRootDispersion_state, ntpOffsetJitterUsLocked_run]

theorem recordSync_consistent {t1 t4 : NtpTimestamp} {pkt : NtpHeader} {delayUs : UInt64}
    {offsetUs : ℤ} (h : ReplyChecks t1 t4 pkt delayUs offsetUs) (ip : CString) (env : SyncEnv)
    (d : Daemon) : Consistent (recordSync ip pkt t4 delayUs offsetUs env d).state.g := by
  obtain ⟨hstratum, hli, hrefTs, hlast⟩ := recordSync_g ip pkt t4 delayUs offsetUs env d
  have htest : ¬ (pkt.stratum = 0 ∨ pkt.stratum > 15) := by
    rw [stratum_test_iff]
    exact not_not.mpr ⟨h.stratum_pos, h.stratum_le⟩
  obtain ⟨hzero, hlarge⟩ := not_or.mp htest
  obtain ⟨hge, hle⟩ := ntpLocalStratumFromPeer_mem hzero hlarge
  exact {
    stratum_ge := hstratum ▸ hge
    stratum_le := hstratum ▸ hle
    li_le := hli ▸ h.li
    refTs := hrefTs.trans hlast.symm }

/-- The procedure is a step of an accepted reply whatever it does to the state. -/
abbrev OffsetTrace (offsetUs : ℤ) {α : Type} (p : DProc α) : Prop :=
  Frame (fun _ : Daemon => ()) (Event.ByOffset offsetUs) p

theorem OffsetStep.offsetTrace {offsetUs : ℤ} {α : Type} {p : DProc α}
    (hp : OffsetStep offsetUs p) : OffsetTrace offsetUs p :=
  hp.mono (fun _ => ()) fun _ he => he

/-- The last section leaves the poll exponent and the leap-second state alone. -/
theorem recordSync_frame (ip : CString) (pkt : NtpHeader) (t4 : NtpTimestamp) (delayUs : UInt64)
    (offsetUs : ℤ) (env : SyncEnv) :
    Frame (fun d => (d.g.localPoll, d.leap)) (Event.LocksOnly [.gMutex])
      (recordSync ip pkt t4 delayUs offsetUs env) := by
  have hlock : Event.LocksOnly [.gMutex] (.lock .gMutex) := List.mem_singleton_self _
  have hunlock : Event.LocksOnly [.gMutex] (.unlock .gMutex) := List.mem_singleton_self _
  have hdisp : ∀ disp offsetUs' jitterUs, Frame (fun d => (d.g.localPoll, d.leap))
      (Event.LocksOnly [.gMutex])
      (updateRootDispersion disp offsetUs' jitterUs env.dispersionTime) := by
    intro disp offsetUs' jitterUs
    unfold updateRootDispersion
    refine .bind (.emit hlock) fun _ => .bind .read fun d => ?_
    refine .bind (.update fun _ => rfl) fun _ => ?_
    exact .bind (.emit hunlock) fun _ => .ite (.pure _) (.pure _)
  unfold recordSync
  refine .bind (.emit hlock) fun _ => .bind (.update fun _ => rfl) fun _ => ?_
  -- what the jitter reads is under the same mutex
  refine .bind
    (ntpOffsetJitterUsLocked_frame.mono (fun d => (d.g.localPoll, d.leap)) fun _ he => he)
    fun jitterUs => ?_
  refine .bind .read fun d => .bind (hdisp _ _ _) fun disp => ?_
  refine .bind (.update fun _ => rfl) fun _ => ?_
  exact .bind (.update fun _ => rfl) fun _ => .emit hunlock

theorem recordSync_offsetTrace (ip : CString) (pkt : NtpHeader) (t4 : NtpTimestamp)
    (delayUs : UInt64) (offsetUs : ℤ) (env : SyncEnv) :
    OffsetTrace offsetUs (recordSync ip pkt t4 delayUs offsetUs env) :=
  (recordSync_frame ip pkt t4 delayUs offsetUs env).mono (fun _ => ()) fun _ he =>
    he.byOffset offsetUs

/-! ### The run of an accepted reply -/

section

variable (ip : CString) (sock : ℤ) (pkt : NtpHeader) (t4 : NtpTimestamp) (delayUs : UInt64)
  (offsetUs : ℤ) (env : SyncEnv)

theorem finishSync_offsetTrace (validCount : ℕ) :
    OffsetTrace offsetUs (finishSync ip sock pkt t4 delayUs offsetUs validCount env) := by
  have hrest : OffsetTrace offsetUs (do
      recordSync ip pkt t4 delayUs offsetUs env
      let _ ← leapSecondIntegrationCheck env.leapCheck
      closeSocket sock
      return (0 : ℤ)) :=
    .bind (recordSync_offsetTrace _ _ _ _ _ _) fun _ =>
      .bind (leapSecondIntegrationCheck_offsetStep _ _).offsetTrace fun _ =>
        .bind (closeSocket_offsetStep _ _).offsetTrace fun _ => .pure _
  unfold finishSync
  refine .bind (.update fun _ => rfl) fun _ => .bind (.emit trivial) fun _ => .ite ?_ ?_
  · exact .bind (correctClock_offsetStep _ _).offsetTrace fun _ => hrest
  · exact hrest

/-- The globals a finished attempt leaves are those of its last section, which starts from the new
poll exponent. -/
theorem finishSync_g (validCount : ℕ) (d : Daemon) :
    ∃ d₁, d₁.g.localPoll = adjustPollInterval d.g.localPoll pkt.poll delayUs offsetUs ∧
      (finishSync ip sock pkt t4 delayUs offsetUs validCount env d).state.g =
        (recordSync ip pkt t4 delayUs offsetUs env d₁).state.g := by
  have hcorrect := (correctClock_offsetStep offsetUs env).state
  have hleap := (leapSecondIntegrationCheck_offsetStep offsetUs env.leapCheck).state
  have hclose := (closeSocket_offsetStep offsetUs sock).state
  -- the leap-second check and the close come after the last section and leave the globals alone
  unfold finishSync
  by_cases h : validCount ≥ 1
  · refine ⟨_, ?_, by simp only [h, if_true, bind_state, pure_state, hclose, hleap]; rfl⟩
    exact congrArg Globals.localPoll (hcorrect _)
  · exact ⟨_, rfl, by simp only [h, if_false, bind_state, pure_state, hclose, hleap]; rfl⟩

/-- The first thing a finished attempt does outside the daemon is to unlock `g_mutex`. -/
theorem finishSync_trace (validCount : ℕ) (d : Daemon) :
    ∃ tr, (finishSync ip sock pkt t4 delayUs offsetUs validCount env d).trace =
      .unlock .gMutex :: tr := ⟨_, rfl⟩

/-- A finished attempt applies its own offset. -/
theorem mem_trace_finishSync {validCount : ℕ} (h : validCount ≠ 0) (d : Daemon) :
    .applyTimeCorrectionSlewOrStep .syncNtpTime offsetUs
      ∈ (finishSync ip sock pkt t4 delayUs offsetUs validCount env d).trace := by
  have hcorrect : ∀ d, .applyTimeCorrectionSlewOrStep .syncNtpTime offsetUs
      ∈ (correctClock offsetUs env d).trace := fun d =>
    List.mem_append_left _ (mem_applyTimeCorrection_trace _ _ _ d)
  have hpos : validCount ≥ 1 := Nat.one_le_iff_ne_zero.mpr h
  unfold finishSync
  rw [if_pos hpos]
  simp only [bind_trace, update_trace, List.nil_append]
  exact List.mem_append_right _ (List.mem_append_left _ (hcorrect _))

variable {ip sock pkt t4 delayUs offsetUs env} in
/-- The reply is dropped when the filter keeps nothing. -/
theorem acceptReply_of_eq_zero {d : Daemon}
    (h : (filterReply delayUs offsetUs env.gettimeofday d).ret = 0) :
    acceptReply ip sock pkt t4 delayUs offsetUs env d =
      let o := filterReply delayUs offsetUs env.gettimeofday d
      let rest := demoteReply sock Globals.unsynced o.state
      ⟨rest.ret, rest.state, o.trace ++ rest.trace⟩ := by
  unfold acceptReply
  rw [bind_run, if_pos h]

variable {ip sock pkt t4 delayUs offsetUs env} in
theorem acceptReply_of_ne_zero {d : Daemon}
    (h : (filterReply delayUs offsetUs env.gettimeofday d).ret ≠ 0) :
    acceptReply ip sock pkt t4 delayUs offsetUs env d =
      let o := filterReply delayUs offsetUs env.gettimeofday d
      let rest := finishSync ip sock pkt t4 delayUs offsetUs o.ret env o.state
      ⟨rest.ret, rest.state, o.trace ++ rest.trace⟩ := by
  unfold acceptReply
  rw [bind_run, if_neg h]

theorem acceptReply_offsetTrace : OffsetTrace offsetUs
    (acceptReply ip sock pkt t4 delayUs offsetUs env) := by
  have hdemote : OffsetTrace offsetUs (demoteReply sock Globals.unsynced) :=
    ⟨fun _ => rfl, fun d e he => ((demoteReply_run sock _ d).2.2.events e he).byOffset offsetUs⟩
  unfold acceptReply
  refine .bind (filterReply_offsetStep _ _ _).offsetTrace fun validCount => ?_
  exact .ite hdemote (finishSync_offsetTrace _ _ _ _ _ _ _ _)

end

/-- An accepted reply leaves the daemon unsynchronised or its variables consistent. -/
theorem acceptReply_invariant {t1 t4 : NtpTimestamp} {pkt : NtpHeader} {delayUs : UInt64}
    {offsetUs : ℤ} (h : ReplyChecks t1 t4 pkt delayUs offsetUs) (ip : CString) (sock : ℤ)
    (env : SyncEnv) (d : Daemon) :
    SyncInvariant (acceptReply ip sock pkt t4 delayUs offsetUs env d).state.g := by
  by_cases hkept : (filterReply delayUs offsetUs env.gettimeofday d).ret = 0
  · rw [acceptReply_of_eq_zero hkept]
    dsimp only
    rw [(demoteReply_run _ _ _).2.1]
    exact fun hsynced => absurd hsynced Bool.false_ne_true
  · rw [acceptReply_of_ne_zero hkept]
    dsimp only
    obtain ⟨d₁, -, hg⟩ := finishSync_g ip sock pkt t4 delayUs offsetUs env
      (filterReply delayUs offsetUs env.gettimeofday d).ret
      (filterReply delayUs offsetUs env.gettimeofday d).state
    rw [hg]
    exact fun _ => recordSync_consistent h ip env d₁

/-! ### Accepted or not -/

theorem ReplyAccepted.unique {port : CString} {env : SyncEnv} {d : Daemon} {dg dg' : Datagram}
    {delayUs delayUs' : UInt64} {offsetUs offsetUs' : ℤ}
    (h : ReplyAccepted port env d dg delayUs offsetUs)
    (h' : ReplyAccepted port env d dg' delayUs' offsetUs') :
    dg = dg' ∧ delayUs = delayUs' ∧ offsetUs = offsetUs' := by
  obtain rfl : dg = dg' := Except.ok.inj (h.received.datagram.symm.trans h'.received.datagram)
  have htimes := Option.some_injective _ (h.checks.times.symm.trans h'.checks.times)
  exact ⟨rfl, congrArg Prod.fst htimes, congrArg Prod.snd htimes⟩

/-- What a rejected reply does to the globals keeps them or withdraws the state "synchronised". -/
theorem RejectExit.change_cases {sock : ℤ} {t1 : NtpTimestamp} {pkt : NtpHeader} {exit : DProc ℤ}
    {change : Globals → Globals} (h : RejectExit sock t1 pkt exit change) (g : Globals) :
    change g = g ∨ (change g).timeSynced = false := by
  cases h with
  | reject => exact .inl rfl
  | demote change hchange hvalid =>
    rcases hchange with rfl | rfl
    · exact .inr rfl
    · exact .inr rfl

/-- A run of an accepted reply is an exchange, and then `acceptReply` on the same samples. -/
structure AcceptedRun (ip : CString) (env : SyncEnv) (d : Daemon) (dg : Datagram)
    (delayUs : UInt64) (offsetUs : ℤ) (sock : ℤ) (d₁ : Daemon) (tr₁ : List Event)
    (o : Outcome Daemon Event ℤ) : Prop where
  samples : d₁.samples = d.samples
  exchange : ExchangeTrace tr₁
  run : o =
    let rest := acceptReply ip sock (env.header dg d.ido) (ntpTimestampNow env.t4Clock) delayUs
      offsetUs env d₁
    ⟨rest.ret, rest.state, tr₁ ++ rest.trace⟩

/-- The filter keeps the reply's own sample, or one of the store. -/
theorem AcceptedRun.filterReply_ne_zero_iff {ip : CString} {env : SyncEnv} {d : Daemon}
    {dg : Datagram} {delayUs : UInt64} {offsetUs : ℤ} {sock : ℤ} {d₁ : Daemon} {tr₁ : List Event}
    {o : Outcome Daemon Event ℤ} (h : AcceptedRun ip env d dg delayUs offsetUs sock d₁ tr₁ o) :
    (filterReply delayUs offsetUs env.gettimeofday d₁).ret ≠ 0 ↔
      env.gettimeofday.toBool = true ∨ 0 < d.samples.count := by
  rw [ne_eq, filterReply_eq_zero_iff, h.samples, Nat.pos_iff_ne_zero, not_and_or,
    Bool.not_eq_false]

/-- What is not accepted leads to an exchange that leaves the globals or withdraws the state
"synchronised". -/
structure UnacceptedRun (d : Daemon) (o : Outcome Daemon Event ℤ) : Prop where
  g : o.state.g = d.g ∨ o.state.g.timeSynced = false
  exchange : ExchangeTrace o.trace

/-- The state from which an accepted reply is taken over: the pool is marked, and the leap indicator
handled. -/
theorem ReplyAccepted.acceptedRun_state {port : CString} {env : SyncEnv} {d : Daemon}
    {dg : Datagram} {delayUs : UInt64} {offsetUs : ℤ}
    (h : ReplyAccepted port env d dg delayUs offsetUs) (ip : CString) :
    ∃ sock d₁ tr₁, d₁.eraseSocket =
        ((d.marked ip port env).leapIndicated (env.header dg d.ido).li env).eraseSocket ∧
      AcceptedRun ip env d dg delayUs offsetUs sock d₁ tr₁
        (syncNtpTime (some ip) (some port) env d) := by
  cases syncNtpTime_cases ip port env d with
  | unreceived hnot => exact absurd h.received (hnot dg)
  | unparsed dg' hreceived hparse =>
    obtain rfl : dg = dg' := Except.ok.inj (h.received.datagram.symm.trans hreceived.datagram)
    exact absurd (hparse.symm.trans h.parses) Bool.false_ne_true
  | rejected dg' hreceived hparse hchecks =>
    obtain rfl : dg = dg' := Except.ok.inj (h.received.datagram.symm.trans hreceived.datagram)
    exact absurd h.checks (hchecks delayUs offsetUs)
  | accepted dg' delayUs' offsetUs' haccepted sock d₁ tr₁ hstate htrace hrun =>
    obtain ⟨rfl, rfl, rfl⟩ := h.unique haccepted
    exact ⟨sock, d₁, tr₁, hstate, (congrArg Daemon.samples hstate :), htrace, hrun⟩

theorem ReplyAccepted.acceptedRun_g {port : CString} {env : SyncEnv} {d : Daemon} {dg : Datagram}
    {delayUs : UInt64} {offsetUs : ℤ} (h : ReplyAccepted port env d dg delayUs offsetUs)
    (ip : CString) :
    ∃ sock d₁ tr₁, d₁.g = d.g ∧ AcceptedRun ip env d dg delayUs offsetUs sock d₁ tr₁
      (syncNtpTime (some ip) (some port) env d) := by
  obtain ⟨sock, d₁, tr₁, hstate, hrun⟩ := h.acceptedRun_state ip
  exact ⟨sock, d₁, tr₁, (congrArg Daemon.g hstate :), hrun⟩

theorem ReplyAccepted.acceptedRun {port : CString} {env : SyncEnv} {d : Daemon} {dg : Datagram}
    {delayUs : UInt64} {offsetUs : ℤ} (h : ReplyAccepted port env d dg delayUs offsetUs)
    (ip : CString) :
    ∃ sock d₁ tr₁, AcceptedRun ip env d dg delayUs offsetUs sock d₁ tr₁
      (syncNtpTime (some ip) (some port) env d) := by
  obtain ⟨sock, d₁, tr₁, -, hrun⟩ := h.acceptedRun_g ip
  exact ⟨sock, d₁, tr₁, hrun⟩

theorem unacceptedRun_of_not {port : CString} {env : SyncEnv} {d : Daemon}
    (h : ∀ dg delayUs offsetUs, ¬ ReplyAccepted port env d dg delayUs offsetUs) (ip : CString) :
    UnacceptedRun d (syncNtpTime (some ip) (some port) env d) := by
  cases syncNtpTime_cases ip port env d with
  | unreceived hnot hret hstate htrace => exact ⟨.inl (congrArg Daemon.g hstate :), htrace⟩
  | unparsed dg hreceived hparse hret hstate htrace =>
    exact ⟨.inl (congrArg Daemon.g hstate :), htrace⟩
  | rejected dg hreceived hparse hchecks sock exit change hexit hret hstate htrace =>
    have hg : (syncNtpTime (some ip) (some port) env d).state.g = change d.g :=
      (congrArg Daemon.g hstate :)
    exact ⟨(hexit.change_cases d.g).imp hg.trans (congrArg Globals.timeSynced hg).trans, htrace⟩
  | accepted dg delayUs offsetUs haccepted => exact absurd haccepted (h dg delayUs offsetUs)

/-! ### Safety of attempts -/

/-- One call of `sync_ntp_time`, with what the outside answers to it. -/
structure SyncAttempt where
  ip : Option CString
  port : Option CString
  env : SyncEnv

def SyncAttempt.run (a : SyncAttempt) : DProc ℤ := syncNtpTime a.ip a.port a.env

/-- The attempt receives a reply of version 4 that passes every check with this offset. -/
def SyncAttempt.Justifies (a : SyncAttempt) (d : Daemon) (offsetUs : ℤ) : Prop :=
  ∃ port dg delayUs, a.port = some port ∧ ReplyAccepted port a.env d dg delayUs offsetUs ∧
    (a.env.header dg d.ido).vn = 4

theorem ReplyAccepted.version {port : CString} {env : SyncEnv} {d : Daemon} {dg : Datagram}
    {delayUs : UInt64} {offsetUs : ℤ} (h : ReplyAccepted port env d dg delayUs offsetUs) :
    (env.header dg d.ido).vn = 4 := by
  have hheader : env.header dg d.ido = readHeader dg.data := parseNtpPacket_toNtpHeader h.parses
  rw [hheader]
  exact ((parseNtpPacket_ok_iff _ _ _ _).mp h.parses).2.2.1

/-- The clock, the frequency and the state "synchronised" change only for a reply that justifies
it. -/
structure SafeAttempt (a : SyncAttempt) (d : Daemon) : Prop where
  correction : ∀ offsetUs, .applyTimeCorrectionSlewOrStep .syncNtpTime offsetUs ∈ (a.run d).trace →
    a.Justifies d offsetUs
  frequency : ∀ offsetUs pollExp, .updateFrequencyDiscipline offsetUs pollExp ∈ (a.run d).trace →
    a.Justifies d offsetUs
  synced : d.g.timeSynced = false → (a.run d).state.g.timeSynced = true →
    ∃ offsetUs, a.Justifies d offsetUs

/-- An attempt that accepts nothing is safe, and preserves the invariant. -/
theorem UnacceptedRun.step {a : SyncAttempt} {d : Daemon} (h : UnacceptedRun d (a.run d)) :
    SafeAttempt a d ∧ (SyncInvariant d.g → SyncInvariant (a.run d).state.g) := by
  constructor
  · exact {
      correction := fun _ he => (h.exchange.events _ he).elim
      frequency := fun _ _ he => (h.exchange.events _ he).elim
      synced := fun hbefore hafter => by
        rcases h.g with hg | hg
        · rw [hg, hbefore] at hafter
          cases hafter
        · rw [hg] at hafter
          cases hafter }
  · intro hinv
    rcases h.g with hg | hg
    · rwa [hg]
    · intro hsynced
      rw [hg] at hsynced
      cases hsynced

/-- An attempt that accepts a reply is safe, and leaves the invariant. -/
theorem ReplyAccepted.step {ip port : CString} {env : SyncEnv} {d : Daemon} {dg : Datagram}
    {delayUs : UInt64} {offsetUs : ℤ} (h : ReplyAccepted port env d dg delayUs offsetUs) :
    let a : SyncAttempt := ⟨some ip, some port, env⟩
    SafeAttempt a d ∧ SyncInvariant (a.run d).state.g := by
  intro a
  obtain ⟨sock, d₁, tr₁, hrun⟩ := h.acceptedRun ip
  have hjustifies : a.Justifies d offsetUs := ⟨port, dg, delayUs, rfl, h, h.version⟩
  have heq : a.run d = _ := hrun.run
  -- every event that is about an offset is about that of the reply
  have htrace : ∀ e ∈ (a.run d).trace, e.ByOffset offsetUs := by
    intro e he
    rw [heq] at he
    rcases List.mem_append.mp he with he | he
    · exact (hrun.exchange.events e he).byOffset offsetUs
    · exact (acceptReply_offsetTrace _ _ _ _ _ _ _).trace d₁ e he
  constructor
  · -- the leap-second module corrects the clock too, but under its own name
    exact {
      correction := fun off he => by
        rcases htrace _ he with hleap | ⟨-, rfl⟩
        · cases hleap
        · exact hjustifies
      frequency := fun off pollExp he => by
        obtain rfl : off = offsetUs := htrace _ he
        exact hjustifies
      synced := fun _ _ => ⟨offsetUs, hjustifies⟩ }
  · rw [heq]
    exact acceptReply_invariant h.checks ip sock env d₁

/-- One attempt is safe, and preserves the invariant. -/
theorem SyncAttempt.step (a : SyncAttempt) (d : Daemon) :
    SafeAttempt a d ∧ (SyncInvariant d.g → SyncInvariant (a.run d).state.g) := by
  obtain ⟨ip, port, env⟩ := a
  cases ip with
  | none => exact UnacceptedRun.step ⟨.inl rfl, .nil⟩
  | some ip =>
    cases port with
    | none => exact UnacceptedRun.step ⟨.inl rfl, .nil⟩
    | some port =>
      by_cases h : ∃ dg delayUs offsetUs, ReplyAccepted port env d dg delayUs offsetUs
      · obtain ⟨dg, delayUs, offsetUs, h⟩ := h
        exact h.step.imp_right fun hinv _ => hinv
      · push Not at h
        exact UnacceptedRun.step (unacceptedRun_of_not h ip)

/-- Whatever is received, an attempt is safe; and after any number of attempts of a daemon that
starts unsynchronised, the variables it publishes are consistent. -/
theorem syncNtpTime_safe :
    (∀ (a : SyncAttempt) (d : Daemon), SafeAttempt a d) ∧
      ∀ (attempts : List SyncAttempt) (d : Daemon),
        SyncInvariant (runAll (attempts.map SyncAttempt.run) { d with g := d.g.unsynced }).1.g := by
  refine ⟨fun a d => (a.step d).1, fun attempts d => ?_⟩
  refine runAll_invariant (I := fun d : Daemon => SyncInvariant d.g) (fun p hp d hinv => ?_) ?_
  · obtain ⟨a, -, rfl⟩ := List.mem_map.mp hp
    exact (a.step d).2 hinv
  · exact fun hsynced => absurd hsynced Bool.false_ne_true

/-! ### The lock -/

/-- The reply gets past the filter: it is accepted, and there is a sample. -/
def PassesFilter (port : CString) (env : SyncEnv) (d : Daemon) : Prop :=
  (∃ dg delayUs offsetUs, ReplyAccepted port env d dg delayUs offsetUs) ∧
    (env.gettimeofday.toBool = true ∨ 0 < d.samples.count)

/-- The run keeps the discipline of `g_mutex`, which the caller does not hold. -/
def LockDisciplined (ip port : CString) (env : SyncEnv) (d : Daemon) : Prop :=
  LockTrace.Disciplined (lockOps .gMutex (syncNtpTime (some ip) (some port) env d).trace)

theorem disciplined_acceptReply_iff (ip : CString) (sock : ℤ) (pkt : NtpHeader) (t4 : NtpTimestamp)
    (delayUs : UInt64) (offsetUs : ℤ) (env : SyncEnv) (d : Daemon) :
    LockTrace.Disciplined
        (lockOps .gMutex (acceptReply ip sock pkt t4 delayUs offsetUs env d).trace) ↔
      env.gettimeofday.toBool = false ∧ d.samples.count = 0 := by
  have hfilter : LockTrace.Disciplined
      (lockOps .gMutex (filterReply delayUs offsetUs env.gettimeofday d).trace) :=
    filterReply_guarded delayUs offsetUs env.gettimeofday d
  rw [← filterReply_eq_zero_iff delayUs offsetUs env.gettimeofday d]
  by_cases hkept : (filterReply delayUs offsetUs env.gettimeofday d).ret = 0
  · -- nothing kept: the state is withdrawn in a section of its own
    rw [acceptReply_of_eq_zero hkept]
    dsimp only
    rw [lockOps_append, hfilter.append_iff]
    exact iff_of_true (demoteReply_run _ _ _).2.2.disciplined hkept
  · -- the mutex is unlocked for the poll interval, and nothing has locked it
    rw [acceptReply_of_ne_zero hkept]
    dsimp only
    obtain ⟨tr, htr⟩ := finishSync_trace ip sock pkt t4 delayUs offsetUs env
      (filterReply delayUs offsetUs env.gettimeofday d).ret
      (filterReply delayUs offsetUs env.gettimeofday d).state
    rw [lockOps_append, hfilter.append_iff, htr]
    exact iff_of_false LockTrace.not_disciplined_release hkept

/-- The run of an accepted reply keeps the discipline only if the filter has no sample at all. -/
theorem ReplyAccepted.disciplined_iff {port : CString} {env : SyncEnv} {d : Daemon}
    {dg : Datagram} {delayUs : UInt64} {offsetUs : ℤ}
    (h : ReplyAccepted port env d dg delayUs offsetUs) (ip : CString) :
    LockDisciplined ip port env d ↔ env.gettimeofday.toBool = false ∧ d.samples.count = 0 := by
  obtain ⟨sock, d₁, tr₁, hrun⟩ := h.acceptedRun ip
  unfold LockDisciplined
  rw [hrun.run]
  dsimp only
  rw [lockOps_append, hrun.exchange.disciplined.append_iff, disciplined_acceptReply_iff,
    hrun.samples]

/-- An attempt keeps the discipline of `g_mutex` exactly when no reply gets past the filter. -/
theorem lockDisciplined_iff (ip port : CString) (env : SyncEnv) (d : Daemon) :
    LockDisciplined ip port env d ↔ ¬ PassesFilter port env d := by
  unfold PassesFilter
  by_cases h : ∃ dg delayUs offsetUs, ReplyAccepted port env d dg delayUs offsetUs
  · obtain ⟨dg, delayUs, offsetUs, haccepted⟩ := id h
    rw [haccepted.disciplined_iff ip, and_iff_right h, not_or, Bool.not_eq_true,
      Nat.pos_iff_ne_zero, not_not]
  · refine iff_of_true ?_ fun hpasses => h hpasses.1
    push Not at h
    exact (unacceptedRun_of_not h ip).exchange.disciplined

/-- A reply of a stratum 1 server that copies the request's timestamp. -/
def echoReply : List UInt8 :=
  let t1 := writeTimestamp (ntpTimestampNow sampleTime)
  [0x24, 1] ++ List.replicate 22 0 ++ t1 ++ t1 ++ t1

/-- The reply is accepted whatever the samples are: a delay of 999 us, an offset of -499 us. -/
theorem replyAccepted_echoReply (samples : SampleStore) :
    ReplyAccepted "123".toList (workingSyncEnv echoReply)
      { unreachedDaemon with samples := samples } (Datagram.ofList echoReply) 999 (-499) := by
  have hok : ((workingSyncEnv echoReply).parse (Datagram.ofList echoReply)
      unreachedDaemon.ido).ok = true :=
    (parseNtpPacket_ok_iff _ _ _ _).mpr (by decide)
  have hheader : (workingSyncEnv echoReply).header (Datagram.ofList echoReply)
      unreachedDaemon.ido = readHeader (Mem.ofList echoReply) := parseNtpPacket_toNtpHeader hok
  refine ⟨received_workingSyncEnv rfl (.inr ⟨rfl, rfl, fun _ => rfl, rfl⟩) (by decide), hok, ?_⟩
  rw [hheader]
  exact ⟨by decide, by decide, by decide, by decide, by decide, by decide, by decide, by decide,
    by decide⟩

/-- The first synchronisation already breaks the discipline. -/
theorem unreachedDaemon_not_lockDisciplined :
    ¬ LockDisciplined "10.0.0.1".toList "123".toList (workingSyncEnv echoReply)
      unreachedDaemon := by
  intro h
  have hfails :=
    (((replyAccepted_echoReply SampleStore.empty).disciplined_iff "10.0.0.1".toList).mp h).1
  cases hfails

/-! ### Samples the filter rejects -/

/-- The reply is accepted, but its delay is past the threshold of the filter over the stored samples
and its own. -/
structure SampleRejected (port : CString) (env : SyncEnv) (d : Daemon) (dg : Datagram)
    (delayUs : UInt64) (offsetUs : ℤ) : Prop where
  count_ge : 2 ≤ d.samples.count
  count_lt : d.samples.count < maxSamples
  accepted : ReplyAccepted port env d dg delayUs offsetUs
  rejected : marxThreshold (d.samples.delays ++ [delayUs]) 3 < delayUs

/-- The attempt does not correct the clock by the offset. -/
def OffsetWithheld (ip port : CString) (env : SyncEnv) (d : Daemon) (offsetUs : ℤ) : Prop :=
  .applyTimeCorrectionSlewOrStep .syncNtpTime offsetUs ∉
    (syncNtpTime (some ip) (some port) env d).trace

/-- With a sample in the store the offset of an accepted reply is applied. -/
theorem ReplyAccepted.mem_trace {port : CString} {env : SyncEnv} {d : Daemon}
    {dg : Datagram} {delayUs : UInt64} {offsetUs : ℤ}
    (h : ReplyAccepted port env d dg delayUs offsetUs) (hcount : d.samples.count ≠ 0)
    (ip : CString) : .applyTimeCorrectionSlewOrStep .syncNtpTime offsetUs ∈
      (syncNtpTime (some ip) (some port) env d).trace := by
  obtain ⟨sock, d₁, tr₁, hrun⟩ := h.acceptedRun ip
  have hkept := hrun.filterReply_ne_zero_iff.mpr (.inr (Nat.pos_of_ne_zero hcount))
  rw [hrun.run, acceptReply_of_ne_zero hkept]
  refine List.mem_append_right _ (List.mem_append_right _ ?_)
  exact mem_trace_finishSync _ _ _ _ _ _ _ hkept _

/-- A reply whose sample the filter rejects is applied all the same. -/
theorem not_offsetWithheld {port : CString} {env : SyncEnv} {d : Daemon} {dg : Datagram}
    {delayUs : UInt64} {offsetUs : ℤ} (h : SampleRejected port env d dg delayUs offsetUs)
    (ip : CString) : ¬ OffsetWithheld ip port env d offsetUs := by
  have hcount : d.samples.count ≠ 0 := by
    have := h.count_ge
    omega
  exact not_not.mpr (h.accepted.mem_trace hcount ip)

/-- Two samples with a delay of 10 us. -/
def fastSamples : SampleStore := ⟨fun _ => ⟨0, 10, 0⟩, 2, by decide⟩

theorem sampleRejected_echoReply :
    SampleRejected "123".toList (workingSyncEnv echoReply)
      { unreachedDaemon with samples := fastSamples } (Datagram.ofList echoReply) 999 (-499) where
  count_ge := by decide
  count_lt := by decide
  accepted := replyAccepted_echoReply fastSamples
  rejected := by decide

theorem not_offsetWithheld_echoReply :
    ¬ OffsetWithheld "10.0.0.1".toList "123".toList (workingSyncEnv echoReply)
      { unreachedDaemon with samples := fastSamples } (-499) :=
  not_offsetWithheld sampleRejected_echoReply "10.0.0.1".toList

/-- The threshold is 10 us, the reply took 999 us, and its offset is applied. -/
theorem fastSamples_not_offsetWithheld :
    marxThreshold (fastSamples.delays ++ [999]) 3 = 10 ∧
      ¬ OffsetWithheld "10.0.0.1".toList "123".toList (workingSyncEnv echoReply)
        { unreachedDaemon with samples := fastSamples } (-499) :=
  ⟨by decide, not_not.mpr ((replyAccepted_echoReply fastSamples).mem_trace (by decide) _)⟩

end Dntpd
