import Dntpd.Spec.LeapModule
import Dntpd.Spec.SyncAccept

/-!
# The leap-second corrections of a day

`leapApplied` reads off a trace the corrections for the module that took place, where `leapAttempts`
reads off those that were asked for.  An activity of the daemon asks for one at most, by the 60 s of
the pending event, and the event is gone afterwards, whether the clock was set or not
(`LeapActivity.run_of_applies`, `LeapActivity.run_of_not_applies`).

So the module keeps to one second for each announcement exactly along the runs that never apply an
event (`LeapActivity.oneLeapSecond_iff`).
-/

namespace Dntpd

open Proc

/-! ### Corrections that took place -/

/-- The corrections for the module that set the clock or its slew; `asked` is the one under way. -/
def leapApplied (asked : Option ℤ) : List Event → List ℤ
  | [] => []
  | .applyTimeCorrectionSlewOrStep .leapSecondApplyCorrection offsetUs :: tr =>
    leapApplied (some offsetUs) tr
  | .applyTimeCorrectionSlewOrStep .syncNtpTime _ :: tr => leapApplied none tr
  | .clockSettime _ _ true :: tr => asked.toList ++ leapApplied none tr
  | .adjtime _ _ true :: tr => asked.toList ++ leapApplied none tr
  | .unlock .gLeapSecondMutex :: tr => leapApplied none tr
  | _ :: tr => leapApplied asked tr

/-- Only what was asked for takes place, each at most once. -/
theorem leapApplied_sublist (asked : Option ℤ) (tr : List Event) :
    (leapApplied asked tr).Sublist (asked.toList ++ leapAttempts tr) := by
  -- what is asked for replaces what is under way, and everything else leaves it or ends it
  fun_induction leapApplied asked tr with
  | case1 => exact List.nil_sublist _
  | case2 asked offsetUs tr ih => exact ih.trans (List.sublist_append_right _ _)
  | case3 asked offsetUs tr ih => exact ih.trans (List.sublist_append_right _ _)
  | case4 asked sec nsec tr ih => exact (List.Sublist.refl _).append ih
  | case5 asked sec usec tr ih => exact (List.Sublist.refl _).append ih
  | case6 asked tr ih => exact ih.trans (List.sublist_append_right _ _)
  | case7 asked e tr hleap hsync hsettime hadjtime hunlock ih =>
    have hattempts : leapAttempts (e :: tr) = leapAttempts tr := by
      refine List.filterMap_cons_none ?_
      unfold Event.leapAttempt
      split
      · exact absurd rfl (hleap _)
      · rfl
    rw [hattempts]
    exact ih

/-- Of one correction that was asked for, all or nothing takes place. -/
theorem leapApplied_of_attempts_eq_singleton {tr : List Event} {offsetUs : ℤ}
    (h : leapAttempts tr = [offsetUs]) :
    leapApplied none tr = [] ∨ leapApplied none tr = [offsetUs] := by
  have hsub := leapApplied_sublist none tr
  rw [h] at hsub
  exact List.sublist_singleton.mp hsub

theorem leapApplied_of_attempts_eq_nil {tr : List Event} (h : leapAttempts tr = []) :
    leapApplied none tr = [] := by
  have hsub := leapApplied_sublist none tr
  rw [h] at hsub
  exact List.sublist_nil.mp hsub

/-! ### One activity of the daemon -/

/-- The procedure leaves the module's state alone, and asks for no correction on its behalf. -/
abbrev LeapSilent {α : Type} (p : DProc α) : Prop :=
  Frame Daemon.leap (fun e => e.leapAttempt = none) p

namespace LeapEffect

variable {α β : Type} {d : Daemon} {leap leap' : LeapSecondState} {attempts attempts' : List ℤ}

theorem of_silent {p : DProc α} (hp : LeapSilent p) (d : Daemon) : LeapEffect (p d) d.leap [] where
  leap := hp.state d
  attempts := hp.filterMap_eq_nil (fun _ he => he) d

theorem bind_of_nil {p : DProc α} {f : α → DProc β} (hp : LeapEffect (p d) leap [])
    (hf : LeapEffect (f (p d).ret (p d).state) leap' attempts') :
    LeapEffect ((p >>= f) d) leap' attempts' := hp.bind hf

theorem silent_bind {p : DProc α} (hp : LeapSilent p) {f : α → DProc β}
    (hf : LeapEffect (f (p d).ret (p d).state) leap attempts) :
    LeapEffect ((p >>= f) d) leap attempts :=
  (of_silent hp d).bind_of_nil hf

theorem update_bind {g : Daemon → Daemon} {f : PUnit → DProc β}
    (h : LeapEffect (f ⟨⟩ (g d)) leap attempts) :
    LeapEffect ((Proc.update g >>= f) d) leap attempts := ⟨h.leap, h.attempts⟩

theorem bind_silent {p : DProc α} (hp : LeapEffect (p d) leap attempts) {f : α → DProc β}
    (hf : ∀ a, LeapSilent (f a)) : LeapEffect ((p >>= f) d) leap attempts where
  leap := ((hf _).state _).trans hp.leap
  attempts := by
    rw [bind_trace, leapAttempts_append, hp.attempts, (of_silent (hf _) _).attempts,
      List.append_nil]

end LeapEffect

theorem Event.LocksOnly.leapAttempt {ms : List Mutex} {e : Event} (he : e.LocksOnly ms) :
    e.leapAttempt = none := by
  cases e <;> first | rfl | exact he.elim

theorem Event.InExchange.leapAttempt {e : Event} (he : e.InExchange) : e.leapAttempt = none := by
  cases e <;> first | rfl | exact he.elim

theorem Event.InDiscipline.leapAttempt {offsetUs pollExp : ℤ} {e : Event}
    (he : e.InDiscipline offsetUs pollExp) : e.leapAttempt = none := by
  cases e <;> first | rfl | exact he.elim

theorem Event.InCorrection.leapAttempt {offsetUs : ℤ} {e : Event}
    (he : e.InCorrection .syncNtpTime offsetUs) : e.leapAttempt = none := by
  cases e with
  | applyTimeCorrectionSlewOrStep c off =>
    obtain ⟨rfl, rfl⟩ := he
    rfl
  | _ => rfl

theorem ExchangeTrace.leapAttempts {tr : List Event} (h : ExchangeTrace tr) :
    leapAttempts tr = [] :=
  List.filterMap_eq_nil_iff.mpr fun e he => (h.events e he).leapAttempt

theorem correctClock_silent (offsetUs : ℤ) (env : SyncEnv) :
    LeapSilent (correctClock offsetUs env) := by
  have hcorrection : LeapSilent (applyTimeCorrectionSlewOrStep .syncNtpTime offsetUs
      env.correction) :=
    (applyTimeCorrection_frame _ _ _).mono Daemon.leap fun _ he => he.leapAttempt
  have hfrequency : ∀ pollExp,
      LeapSilent (updateFrequencyDiscipline offsetUs pollExp env.freq) := fun pollExp =>
    (updateFrequencyDiscipline_frame _ _ _).mono Daemon.leap fun _ he => he.leapAttempt
  unfold correctClock
  exact .bind hcorrection fun _ => .bind .read fun d => .bind (hfrequency _) fun _ => .pure _

/-- The file and the event are looked at, the event only if the file did not fail. -/
def LeapSecondState.Applies (s : LeapSecondState) (env : LeapCheckEnv) : Prop :=
  s.fileStatus env.file = 0 ∧ (s.fileChecked env.file).Due env.now ∧
    (s.fileChecked env.file).Due env.apply.now

instance (s : LeapSecondState) (env : LeapCheckEnv) : Decidable (s.Applies env) := by
  unfold LeapSecondState.Applies
  infer_instance

theorem leapSecondIntegrationCheck_effect (env : LeapCheckEnv) (d : Daemon) :
    LeapEffect (leapSecondIntegrationCheck env d)
      (if d.leap.Applies env then (d.leap.fileChecked env.file).cleared
        else d.leap.fileChecked env.file)
      (if d.leap.Applies env then [(d.leap.fileChecked env.file).pendingOffsetUs] else []) := by
  have hfile := leapSecondCheckFile_outcome env.file d
  have happly := (leapSecondCheckAndApply_outcome env.now env.apply
    (leapSecondCheckFile env.file d).state).toLeapEffect
  rw [hfile.leap] at happly
  unfold leapSecondIntegrationCheck
  refine hfile.toLeapEffect.bind_of_nil ?_
  rw [leapSecondCheckFile_ret]
  by_cases hstatus : d.leap.fileStatus env.file = 0
  · rw [if_neg (not_not.mpr hstatus)]
    simp only [LeapSecondState.Applies, hstatus, true_and]
    exact happly.bind_silent fun _ => .pure _
  · rw [if_pos hstatus]
    simp only [LeapSecondState.Applies, hstatus, false_and, if_false]
    exact ⟨hfile.leap, rfl⟩

/-- The event the module has after the check that follows a synchronisation. -/
def LeapSecondState.checked (s : LeapSecondState) (env : LeapCheckEnv) : LeapSecondState :=
  if s.Applies env then (s.fileChecked env.file).cleared else s.fileChecked env.file

/-- The corrections the check asks for. -/
def LeapSecondState.checkAttempts (s : LeapSecondState) (env : LeapCheckEnv) : List ℤ :=
  if s.Applies env then [(s.fileChecked env.file).pendingOffsetUs] else []

section

variable (ip : CString) (sock : ℤ) (pkt : NtpHeader) (t4 : NtpTimestamp) (delayUs : UInt64)
  (offsetUs : ℤ) (env : SyncEnv)

/-- Of a finished attempt only the last check concerns the module. -/
theorem finishSync_effect {validCount : ℕ} (h : validCount ≠ 0) (d : Daemon) :
    LeapEffect (finishSync ip sock pkt t4 delayUs offsetUs validCount env d)
      (d.leap.checked env.leapCheck) (d.leap.checkAttempts env.leapCheck) := by
  have hrecord : LeapSilent (recordSync ip pkt t4 delayUs offsetUs env) :=
    (recordSync_frame ip pkt t4 delayUs offsetUs env).mono Prod.snd fun _ he => he.leapAttempt
  have hclose : LeapSilent (closeSocket sock) :=
    (closeSocket_frame sock).mono Daemon.leap fun _ he => he.1.leapAttempt
  have hcheck : ∀ d' : Daemon, d'.leap = d.leap →
      LeapEffect (leapSecondIntegrationCheck env.leapCheck d') (d.leap.checked env.leapCheck)
        (d.leap.checkAttempts env.leapCheck) := by
    intro d' hleap
    have heffect := leapSecondIntegrationCheck_effect env.leapCheck d'
    rwa [hleap] at heffect
  have hcorrect := correctClock_silent offsetUs env
  have hpos : validCount ≥ 1 := Nat.one_le_iff_ne_zero.mpr h
  unfold finishSync
  rw [if_pos hpos]
  refine .update_bind ?_
  refine .silent_bind (.emit rfl) ?_
  -- neither the correction nor the record touches the leap second
  refine .silent_bind hcorrect ?_
  refine .silent_bind hrecord ?_
  refine .bind_silent (hcheck _ ?_) fun _ => .bind hclose fun _ => .pure _
  exact (hrecord.state _).trans (hcorrect.state _)

/-- A reply that gets past the filter leads to the check; a reply that does not, to nothing. -/
theorem acceptReply_effect (d : Daemon) :
    LeapEffect (acceptReply ip sock pkt t4 delayUs offsetUs env d)
      (if env.gettimeofday.toBool = false ∧ d.samples.count = 0 then d.leap
        else d.leap.checked env.leapCheck)
      (if env.gettimeofday.toBool = false ∧ d.samples.count = 0 then []
        else d.leap.checkAttempts env.leapCheck) := by
  have hfilter : LeapSilent (filterReply delayUs offsetUs env.gettimeofday) :=
    (filterReply_frame _ _ _).mono Daemon.leap fun _ he => he.leapAttempt
  have hzero := filterReply_eq_zero_iff delayUs offsetUs env.gettimeofday d
  unfold acceptReply
  refine .silent_bind hfilter ?_
  have hleap := hfilter.state d
  by_cases hdropped : env.gettimeofday.toBool = false ∧ d.samples.count = 0
  · -- nothing kept: the state "synchronised" is withdrawn, and no check is made
    rw [if_pos hdropped, if_pos hdropped, if_pos (hzero.mpr hdropped)]
    obtain ⟨-, hstate, htrace⟩ := demoteReply_run sock Globals.unsynced
      (filterReply delayUs offsetUs env.gettimeofday d).state
    exact ⟨(congrArg Daemon.leap hstate).trans hleap, htrace.leapAttempts⟩
  · -- a kept reply ends in the check for a due leap second
    have hkept := hzero.not.mpr hdropped
    have hfinish := finishSync_effect ip sock pkt t4 delayUs offsetUs env hkept
      (filterReply delayUs offsetUs env.gettimeofday d).state
    rw [hleap] at hfinish
    rw [if_neg hdropped, if_neg hdropped, if_neg hkept]
    exact hfinish

end

/-- An attempt whose reply is accepted schedules what the reply announces, and goes on to the check
if the reply gets past the filter. -/
theorem ReplyAccepted.leapEffect {port : CString} {env : SyncEnv} {d : Daemon} {dg : Datagram}
    {delayUs : UInt64} {offsetUs : ℤ} (h : ReplyAccepted port env d dg delayUs offsetUs)
    (ip : CString) :
    LeapEffect (syncNtpTime (some ip) (some port) env d)
      (if env.gettimeofday.toBool = false ∧ d.samples.count = 0 then
        d.leap.indicated (env.header dg d.ido).li env.leapSchedule
      else (d.leap.indicated (env.header dg d.ido).li env.leapSchedule).checked env.leapCheck)
      (if env.gettimeofday.toBool = false ∧ d.samples.count = 0 then []
      else (d.leap.indicated (env.header dg d.ido).li env.leapSchedule).checkAttempts
        env.leapCheck) := by
  -- the leap indicator is handled before, and what follows finds its event
  obtain ⟨sock, d₁, tr₁, hstate, hrun⟩ := h.acceptedRun_state ip
  have hleap : d₁.leap = d.leap.indicated (env.header dg d.ido).li env.leapSchedule :=
    (congrArg Daemon.leap hstate :)
  have heffect := acceptReply_effect ip sock (env.header dg d.ido) (ntpTimestampNow env.t4Clock)
    delayUs offsetUs env d₁
  rw [hleap, hrun.samples] at heffect
  rw [hrun.run]
  refine ⟨heffect.leap, ?_⟩
  dsimp only
  rw [leapAttempts_append, hrun.exchange.leapAttempts]
  exact heffect.attempts

/-! ### Runs of a day -/

/-- What the leap second of a day depends on: a synchronisation, or a look at the event. -/
inductive LeapActivity
  | syncAttempt (ip port : CString) (env : SyncEnv)
  | checkAndApply (now : ℤ) (env : LeapApplyEnv)

/-- The seconds that the clocks show during an attempt. -/
def SyncEnv.clockReadings (env : SyncEnv) : List ℤ :=
  let clocks := [env.t1Clock, env.t4Clock, env.leapSchedule.endOfMinuteClock, env.correction.clock,
    env.leapCheck.file.schedule.endOfMinuteClock, env.leapCheck.apply.correction.clock]
  clocks.filterMap (fun r => r.toOption.map Timespec.sec) ++
    (env.gettimeofday.toOption.map Timeval.sec).toList ++
    [env.peerTime, env.leapSchedule.now, env.freq.now, env.dispersionTime, env.leapCheck.file.now,
      env.leapCheck.file.schedule.now, env.leapCheck.now, env.leapCheck.apply.now]

/-- The daemon, and the correction that the leap-second module has applied so far. -/
structure CorrectionHistory where
  daemon : Daemon
  appliedUs : ℤ

/-- The pending event, if there is one, is by 60 s. -/
def LeapSecondState.MinuteOffset (s : LeapSecondState) : Prop :=
  s.eventScheduled = true → |s.pendingOffsetUs| = 60000000

namespace LeapSecondState.MinuteOffset

variable {s : LeapSecondState}

theorem schedule (leapDir : UInt8) (endOfMinute now : ℤ) :
    (s.schedule leapDir endOfMinute now).MinuteOffset := by
  intro _
  unfold LeapSecondState.schedule
  dsimp only
  split_ifs <;> decide

theorem indicated (hs : s.MinuteOffset) (li : UInt8) (env : LeapScheduleEnv) :
    (s.indicated li env).MinuteOffset := by
  unfold LeapSecondState.indicated
  split_ifs
  · exact .schedule _ _ _
  · exact hs

theorem announced (hs : s.MinuteOffset) (leapDir : UInt8) (env : LeapScheduleEnv) :
    (s.announced leapDir env).MinuteOffset := by
  unfold LeapSecondState.announced
  split_ifs
  · exact hs
  · exact .schedule _ _ _

theorem fileChecked (hs : s.MinuteOffset) (env : LeapFileEnv) :
    (s.fileChecked env).MinuteOffset := by
  have hread : (s.fileRead env).MinuteOffset := by
    unfold LeapSecondState.fileRead
    cases env.announcement with
    | none => exact hs
    | some leapDir => exact hs.announced _ _
  unfold LeapSecondState.fileChecked
  split_ifs
  · exact hread
  · exact hs

end LeapSecondState.MinuteOffset

namespace LeapActivity

def run : LeapActivity → DProc ℤ
  | .syncAttempt ip port env => syncNtpTime (some ip) (some port) env
  | .checkAndApply now env => leapSecondCheckAndApply now env

/-- An attempt of the day receives a valid reply with the leap indicator `li`, which is 1 or 2. -/
def Announces (li : UInt8) (day : ℤ) : LeapActivity → Daemon → Prop
  | .syncAttempt _ port env, d =>
    (li = 1 ∨ li = 2) ∧ (∃ dg delayUs offsetUs, ReplyAccepted port env d dg delayUs offsetUs ∧
      (env.header dg d.ido).li = li) ∧ ∀ now ∈ env.clockReadings, now / 86400 = day
  | .checkAndApply _ _, _ => True

/-- The activity applies an event: it finds one that is due. -/
def Applies (li : UInt8) : LeapActivity → Daemon → Prop
  | .syncAttempt _ _ env, d =>
    ¬ (env.gettimeofday.toBool = false ∧ d.samples.count = 0) ∧
      (d.leap.indicated li env.leapSchedule).Applies env.leapCheck
  | .checkAndApply now env, d => d.leap.Due now ∧ d.leap.Due env.now

def after (a : LeapActivity) (h : CorrectionHistory) : CorrectionHistory where
  daemon := (a.run h.daemon).state
  appliedUs := h.appliedUs + (leapApplied none (a.run h.daemon).trace).sum

/-- The correction for a leap second. -/
def leapSecondUs (li : UInt8) : ℤ := if li = 1 then 1000000 else -1000000

/-- After the activity at most a second has been applied, and that in one piece and of the right
sign; an event whose correction failed is still scheduled. -/
structure OneLeapSecond (li : UInt8) (a : LeapActivity) (h : CorrectionHistory) : Prop where
  bounded : |(a.after h).appliedUs| ≤ 1000000
  amount : leapApplied none (a.run h.daemon).trace ≠ [] → (a.after h).appliedUs = leapSecondUs li
  kept : leapApplied none (a.run h.daemon).trace ≠ leapAttempts (a.run h.daemon).trace →
    (a.run h.daemon).state.leap.eventScheduled = true

variable {li : UInt8} {day : ℤ} {a : LeapActivity} {d : Daemon}

/-- An event that is applied is by 60 s, and gone afterwards. -/
theorem run_of_applies (hannounces : a.Announces li day d) (hminute : d.leap.MinuteOffset)
    (happlies : a.Applies li d) : ∃ leap offsetUs, leap.eventScheduled = false ∧
      |offsetUs| = 60000000 ∧ LeapEffect (a.run d) leap [offsetUs] := by
  cases a with
  | syncAttempt ip port env =>
    obtain ⟨-, ⟨dg, delayUs, offsetUs, haccepted, rfl⟩, -⟩ := hannounces
    obtain ⟨hkept, hcheck⟩ := happlies
    have heffect := haccepted.leapEffect ip
    unfold LeapSecondState.checked LeapSecondState.checkAttempts at heffect
    rw [if_neg hkept, if_neg hkept, if_pos hcheck, if_pos hcheck] at heffect
    exact ⟨_, _, rfl, ((hminute.indicated _ _).fileChecked _) hcheck.2.1.1, heffect⟩
  | checkAndApply now env =>
    have hdue : d.leap.Due now ∧ d.leap.Due env.now := happlies
    have heffect := (leapSecondCheckAndApply_outcome now env d).toLeapEffect
    rw [if_pos hdue, if_pos hdue] at heffect
    exact ⟨_, _, rfl, hminute hdue.1.1, heffect⟩

theorem run_of_not_applies (hannounces : a.Announces li day d) (hminute : d.leap.MinuteOffset)
    (happlies : ¬ a.Applies li d) :
    ∃ leap : LeapSecondState, leap.MinuteOffset ∧ LeapEffect (a.run d) leap [] := by
  cases a with
  | syncAttempt ip port env =>
    obtain ⟨-, ⟨dg, delayUs, offsetUs, haccepted, rfl⟩, -⟩ := hannounces
    have heffect := haccepted.leapEffect ip
    by_cases hdropped : env.gettimeofday.toBool = false ∧ d.samples.count = 0
    · rw [if_pos hdropped, if_pos hdropped] at heffect
      exact ⟨_, hminute.indicated _ _, heffect⟩
    · have hcheck := fun h => happlies ⟨hdropped, h⟩
      unfold LeapSecondState.checked LeapSecondState.checkAttempts at heffect
      rw [if_neg hdropped, if_neg hdropped, if_neg hcheck, if_neg hcheck] at heffect
      exact ⟨_, (hminute.indicated _ _).fileChecked _, heffect⟩
  | checkAndApply now env =>
    have hdue : ¬ (d.leap.Due now ∧ d.leap.Due env.now) := happlies
    have heffect := (leapSecondCheckAndApply_outcome now env d).toLeapEffect
    rw [if_neg hdue, if_neg hdue] at heffect
    exact ⟨_, hminute, heffect⟩

/-- Nothing has been applied so far, and a pending event is by 60 s. -/
structure Unapplied (h : CorrectionHistory) : Prop where
  applied : h.appliedUs = 0
  minute : h.daemon.leap.MinuteOffset

variable {h : CorrectionHistory}

/-- An activity that applies no event applies no correction. -/
theorem after_unapplied (hannounces : a.Announces li day h.daemon) (hunapplied : Unapplied h)
    (happlies : ¬ a.Applies li h.daemon) : Unapplied (a.after h) := by
  obtain ⟨leap, hminute, heffect⟩ := run_of_not_applies hannounces hunapplied.minute happlies
  refine ⟨?_, ?_⟩
  · unfold after
    rw [leapApplied_of_attempts_eq_nil heffect.attempts, hunapplied.applied]
    rfl
  · unfold after
    rw [heffect.leap]
    exact hminute

/-- The first activity that applies an event is too much: by a minute if the correction succeeds,
and if it fails, by the event that is dropped. -/
theorem oneLeapSecond_iff_not_applies (hannounces : a.Announces li day h.daemon)
    (hunapplied : Unapplied h) : OneLeapSecond li a h ↔ ¬ a.Applies li h.daemon := by
  constructor
  · intro hone happlies
    obtain ⟨leap, offsetUs, hidle, hoffset, heffect⟩ :=
      run_of_applies hannounces hunapplied.minute happlies
    -- an attempt that was made has failed or has set the clock
    rcases leapApplied_of_attempts_eq_singleton heffect.attempts with hfailed | hdone
    · -- the correction failed, and the event went with it
      have hkept := hone.kept (by rw [hfailed, heffect.attempts]; exact nofun)
      rw [heffect.leap, hidle] at hkept
      cases hkept
    · -- the clock was set, but by a minute
      have happlied : (a.after h).appliedUs = offsetUs := by
        unfold after
        rw [hdone, hunapplied.applied, List.sum_singleton, zero_add]
      have hbounded := hone.bounded
      rw [happlied, hoffset] at hbounded
      omega
  · intro happlies
    -- conversely, without an attempt nothing of the announcement is lost
    obtain ⟨leap, -, heffect⟩ := run_of_not_applies hannounces hunapplied.minute happlies
    have hnone := leapApplied_of_attempts_eq_nil heffect.attempts
    have happlied := (after_unapplied hannounces hunapplied happlies).applied
    exact {
      bounded := by rw [happlied]; decide
      amount := fun hsome => absurd hnone hsome
      kept := fun hfailed => absurd (hnone.trans heffect.attempts.symm) hfailed }

/-- Along a run of a day whose replies announce the same leap second, that leap second is applied
once exactly if no event is ever applied. -/
theorem oneLeapSecond_iff {activities : List LeapActivity} (hidle : d.leap.eventScheduled = false)
    (hannounces : Run.Along after (fun a h => a.Announces li day h.daemon) activities ⟨d, 0⟩) :
    Run.Along after (OneLeapSecond li) activities ⟨d, 0⟩ ↔
      Run.Along after (fun a h => ¬ a.Applies li h.daemon) activities ⟨d, 0⟩ := by
  have hstart : Unapplied ⟨d, 0⟩ := ⟨rfl, fun h => absurd (hidle.symm.trans h) Bool.false_ne_true⟩
  -- up to the first event that is applied nothing has been applied
  refine Run.Along.iff_of_invariant (I := Unapplied) ?_ ?_ hstart hannounces
  · exact fun a h hunapplied hannounces => oneLeapSecond_iff_not_applies hannounces hunapplied
  · intro a h hunapplied hannounces hone
    exact after_unapplied hannounces hunapplied
      ((oneLeapSecond_iff_not_applies hannounces hunapplied).mp hone)

/-- `echoReply`, announcing a leap second. -/
def announcingReply : List UInt8 :=
  let t1 := writeTimestamp (ntpTimestampNow sampleTime)
  [0x64, 1] ++ List.replicate 22 0 ++ t1 ++ t1 ++ t1

/-- A daemon with an initialized module, before its first synchronisation. -/
def announcedDaemon : Daemon := { unreachedDaemon with leap := LeapSecondState.init }

/-- A synchronisation that announces a leap second. -/
def announcingAttempt : LeapActivity :=
  .syncAttempt "10.0.0.1".toList "123".toList (workingSyncEnv announcingReply)

/-- The look at the event when it is due. -/
def dueCheck : LeapActivity :=
  .checkAndApply 1700000100 ⟨1700000100, ⟨.ok (wholeSecond 1700000100), .ok (), .ok ()⟩⟩

theorem announcingAttempt_announces : announcingAttempt.Announces 1 19675 announcedDaemon := by
  have hok : ((workingSyncEnv announcingReply).parse (Datagram.ofList announcingReply)
      announcedDaemon.ido).ok = true :=
    (parseNtpPacket_ok_iff _ _ _ _).mpr (by decide)
  have hheader : (workingSyncEnv announcingReply).header (Datagram.ofList announcingReply)
      announcedDaemon.ido = readHeader (Mem.ofList announcingReply) :=
    parseNtpPacket_toNtpHeader hok
  have hreceived : Received "123".toList (workingSyncEnv announcingReply) announcedDaemon
      (Datagram.ofList announcingReply) :=
    received_workingSyncEnv rfl (.inr ⟨rfl, rfl, fun _ => rfl, rfl⟩) (by decide)
  refine ⟨.inl rfl, ⟨Datagram.ofList announcingReply, 999, -499, ⟨hreceived, hok, ?_⟩, ?_⟩,
    by decide⟩
  · rw [hheader]
    exact ⟨by decide, by decide, by decide, by decide, by decide, by decide, by decide, by decide,
      by decide⟩
  · rw [hheader]
    decide

/-- The attempt schedules an event, and its own look at the file fails. -/
theorem announcingAttempt_effect :
    LeapEffect (announcingAttempt.run announcedDaemon)
      (LeapSecondState.init.schedule 1 1700000040 1700000000) [] := by
  obtain ⟨-, ⟨dg, delayUs, offsetUs, haccepted, hli⟩, -⟩ := announcingAttempt_announces
  have heffect := haccepted.leapEffect "10.0.0.1".toList
  rw [hli] at heffect
  exact heffect

theorem announcingAttempt_not_applies : ¬ announcingAttempt.Applies 1 announcedDaemon :=
  fun h => absurd h.2.1 (by decide)

/-- A run of a day in which the leap second is announced only. -/
theorem announcingAttempt_oneLeapSecond :
    Run.Along after (OneLeapSecond 1) [announcingAttempt] ⟨announcedDaemon, 0⟩ := by
  have hannounces : Run.Along after (fun a h => a.Announces 1 19675 h.daemon) [announcingAttempt]
      ⟨announcedDaemon, 0⟩ := ⟨announcingAttempt_announces, trivial⟩
  exact (oneLeapSecond_iff rfl hannounces).mpr ⟨announcingAttempt_not_applies, trivial⟩

/-- A leap second is announced, and 100 s later the clock is set by a minute. -/
theorem dueCheck_not_oneLeapSecond :
    Run.Along after (fun a h => a.Announces 1 19675 h.daemon) [announcingAttempt, dueCheck]
        ⟨announcedDaemon, 0⟩ ∧
      ¬ Run.Along after (OneLeapSecond 1) [announcingAttempt, dueCheck] ⟨announcedDaemon, 0⟩ := by
  refine ⟨⟨announcingAttempt_announces, trivial, trivial⟩, fun ⟨_, hone, _⟩ => ?_⟩
  set h := announcingAttempt.after ⟨announcedDaemon, 0⟩ with hafter
  have hunapplied : Unapplied h := after_unapplied announcingAttempt_announces
    ⟨rfl, fun h => absurd h Bool.false_ne_true⟩ announcingAttempt_not_applies
  have hannounces : dueCheck.Announces 1 19675 h.daemon := trivial
  have hdue : h.daemon.leap.Due 1700000100 := by
    rw [hafter, after, announcingAttempt_effect.leap]
    decide
  exact (oneLeapSecond_iff_not_applies hannounces hunapplied).mp hone ⟨hdue, hdue⟩

end LeapActivity

end Dntpd
