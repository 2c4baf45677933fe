import Dntpd.Spec.DaemonRun
import Dntpd.Spec.ExpectedTime
import Dntpd.Spec.SyncOutcome

/-!
# The clock thread never corrects the clock

The thread compares the time of day with `g_last_sync_ts`, as if that counted from 1970.  It is zero
until a reply is accepted, and counts from 1900 from then on.  So for every clock from 29 January
1972 to 3 December 2037 the difference is of more than two years, which is past every panic
threshold, and in every run the thread neither steps nor slews the clock (`clockThread_idle`).
-/

namespace Dntpd

open Proc CInt Run

/-! ### The difference -/

/-- The timestamp is that of no reply, or counts from 1900 and is not before 1970. -/
def SyncTimeKnown (t : NtpTimestamp) : Prop := t = ⟨0, 0⟩ ∨ 2208988800 ≤ t.sec.toNat

/-- A time of day from 29 January 1972 to 3 December 2037: it is by more than the highest panic
threshold behind 1970, and before 2040, which 1970 looks like when counted from 1900. -/
def SetClock (tv : Timeval) : Prop := 65535001 ≤ tv.sec ∧ tv.sec ≤ 2143453799

theorem SetClock.nowNs_eq {tv : Timeval} (h : SetClock tv) :
    nowNs tv = tv.sec * 1000000000 + tv.usec * 1000 := by
  have husec := tv.usec_lt
  obtain ⟨hge, hle⟩ := h
  unfold nowNs
  rw [int64_eq (x := tv.sec * 1000000000) (by unfold InInt64; omega),
    int64_eq (by unfold InInt64; omega)]

/-- The difference is past the highest threshold. -/
theorem clockThreadOffset_large {tv : Timeval} {t : NtpTimestamp} (htv : SetClock tv)
    (ht : SyncTimeKnown t) :
    InInt64 (clockThreadOffset tv t * 1000) ∧
      65535 * 1000000000 < |clockThreadOffset tv t| := by
  have husec := tv.usec_lt
  have hsec := t.sec.toNat_lt
  have hnow := htv.nowNs_eq
  obtain ⟨hge, hle⟩ := htv
  set ns := nowNs tv - expectedNs t with hns
  -- the fraction counts for less than five seconds
  have hexpected := expectedNs_eq t
  have hfrac : t.frac.toNat * 1000 % 2 ^ 32 < 4294967296 := Nat.mod_lt _ (by decide)
  have hrange : InInt64 ns := by
    unfold InInt64
    omega
  have hdiv := tdiv_bounds ns (b := 1000) (by decide)
  have hoffset : clockThreadOffset tv t = ns.tdiv 1000 := by
    unfold clockThreadOffset
    rw [int64_eq hrange]
  have hfar : 65535000000001000 ≤ ns ∨ ns ≤ -65535000000001000 := by
    rcases ht with rfl | hera
    · have hzero : expectedNs ⟨0, 0⟩ = 0 := by decide
      exact .inl (by omega)
    · exact .inr (by omega)
  rw [hoffset]
  refine ⟨?_, lt_abs.mpr ?_⟩
  · unfold InInt64 at hrange ⊢
    omega
  · omega

/-- The correction is refused, and noted as one that failed. -/
theorem clockThreadIteration_idle {tv : Timeval} {d : Daemon} (htv : SetClock tv)
    (hd : SyncTimeKnown d.g.lastSyncTs) (ctx : ClockThreadContext) {env : ClockThreadEnv}
    (htime : env.gettimeofday = .ok tv) :
    clockCalls (clockThreadIteration ctx env d).trace = [] ∧
      (clockThreadIteration ctx env d).ret.1.lastCorrection = -1 := by
  obtain ⟨hrange, hlarge⟩ := clockThreadOffset_large htv hd
  have hthreshold : (d.mode.config.panicThreshold.toNat : ℤ) ≤ 65535 := by
    have hlt := d.mode.config.panicThreshold.toNat_lt
    omega
  have hnone : correctionCall d.mode.config.panicThreshold (clockThreadOffset tv d.g.lastSyncTs)
      env.correction.clock = none :=
    (correctionCall_eq_none_iff hrange).mpr (.inl (by omega))
  have hret : (clockThreadCorrection tv env d).ret = -1 := by
    unfold clockThreadCorrection
    rw [(applyTimeCorrection_correctionOutcome _ _ _ _).ret, hnone]
    rfl
  constructor
  · rw [clockCalls_clockThreadIteration htime, hnone]
    rfl
  · unfold clockThreadIteration
    rw [htime]
    exact hret

/-! ### The time of the last reply -/

theorem syncTimeKnown_now {clock : Except Errno Timespec}
    (h : ∀ ts, clock = .ok ts → 0 ≤ ts.sec ∧ ts.sec ≤ int64Max) :
    SyncTimeKnown (ntpTimestampNow clock) := by
  cases clock with
  | error e => exact .inl rfl
  | ok ts =>
    obtain ⟨hge, hle⟩ := h ts rfl
    unfold int64Max at hle
    right
    unfold ntpTimestampNow ntpUnixEpochDelta
    dsimp only
    split_ifs with hend
    · show 2208988800 ≤ 4294967295
      decide
    · have hsize : UInt32.size = 4294967296 := rfl
      rw [UInt32.toNat_ofNat_of_lt' (by omega)]
      omega

/-- An attempt leaves the time of the last reply, or sets it to that of its own. -/
theorem SyncAttempt.lastSyncTs_after (a : SyncAttempt) (d : Daemon) :
    (a.after d).g.lastSyncTs = d.g.lastSyncTs ∨
      (a.after d).g.lastSyncTs = ntpTimestampNow a.env.t4Clock := by
  have hunchanged : ∀ {o : Outcome Daemon Event ℤ}, o.state.g = d.g →
      o.state.g.lastSyncTs = d.g.lastSyncTs := fun h => congrArg Globals.lastSyncTs h
  obtain ⟨ip, port, env⟩ := a
  cases ip with
  | none => exact .inl rfl
  | some ip =>
    cases port with
    | none => exact .inl rfl
    | some port =>
      -- a call that does not accept a reply leaves the stamp alone
      cases syncNtpTime_cases ip port env d with
      | unreceived hnot hret hstate htrace => exact .inl (hunchanged (congrArg Daemon.g hstate :))
      | unparsed dg hreceived hparse hret hstate htrace =>
        exact .inl (hunchanged (congrArg Daemon.g hstate :))
      | rejected dg hreceived hparse hchecks sock exit change hexit hret hstate htrace =>
        have hg : (syncNtpTime (some ip) (some port) env d).state.g = change d.g :=
          (congrArg Daemon.g hstate :)
        refine .inl ((congrArg Globals.lastSyncTs hg).trans ?_)
        cases hexit with
        | reject => rfl
        | demote change hchange hvalid => rcases hchange with rfl | rfl <;> rfl
      | accepted dg delayUs offsetUs haccepted =>
        -- only a reply that the filter keeps is recorded
        by_cases hkept : ReplyKept env d
        · obtain ⟨-, d₁, hg⟩ := haccepted.finishedRun hkept ip
          have hrecord := (recordSync_g ip (env.header dg d.ido) (ntpTimestampNow env.t4Clock)
            delayUs offsetUs env d₁).2.2.2
          exact .inr ((congrArg Globals.lastSyncTs hg).trans hrecord)
        · exact .inl (congrArg Globals.lastSyncTs (haccepted.droppedRun hkept ip).2 :)

/-! ### Runs -/

namespace DaemonStep

/-- Clocks in the step: the thread reads one from January 1972 to December 2037 (`SetClock`), and an
attempt one that is not before 1970. -/
def Plausible : DaemonStep → Prop
  | clockThread env => ∀ tv, env.gettimeofday = .ok tv → SetClock tv
  | activity (.syncAttempt a) =>
    ∀ ts, a.env.t4Clock = .ok ts → 0 ≤ ts.sec ∧ ts.sec ≤ int64Max
  | _ => True

/-- An iteration of the thread leaves the clock alone, and notes a correction that failed if it can
read the clock. -/
def LeavesClock : DaemonStep → RunState → Prop
  | clockThread env, s =>
    clockCalls (clockThreadIteration s.ctx env s.daemon).trace = [] ∧
      (env.gettimeofday.toBool = true →
        (clockThreadIteration s.ctx env s.daemon).ret.1.lastCorrection = -1)
  | _, _ => True

theorem Plausible.syncTimeKnown {step : DaemonStep} (h : step.Plausible) {s : RunState}
    (hs : SyncTimeKnown s.daemon.g.lastSyncTs) :
    SyncTimeKnown (step.after s).daemon.g.lastSyncTs := by
  by_cases hattempt : ∃ a, step = .activity (.syncAttempt a)
  · obtain ⟨a, rfl⟩ := hattempt
    show SyncTimeKnown (a.after s.daemon).g.lastSyncTs
    rcases a.lastSyncTs_after s.daemon with hsame | hnow
    · rwa [hsame]
    · rw [hnow]
      exact syncTimeKnown_now h
  · push Not at hattempt
    rwa [after_g hattempt]

theorem Plausible.leavesClock {step : DaemonStep} (h : step.Plausible) {s : RunState}
    (hs : SyncTimeKnown s.daemon.g.lastSyncTs) : step.LeavesClock s := by
  cases step with
  | clockThread env =>
    cases htime : env.gettimeofday with
    | error e =>
      have hcalls : clockCalls (clockThreadIteration s.ctx env s.daemon).trace = [] := by
        unfold clockThreadIteration
        rw [htime]
        rfl
      refine ⟨hcalls, fun hok => ?_⟩
      rw [htime] at hok
      cases hok
    | ok tv =>
      obtain ⟨hcalls, hnoted⟩ := clockThreadIteration_idle (h tv htime) hs s.ctx htime
      exact ⟨hcalls, fun _ => hnoted⟩
  | _ => trivial

end DaemonStep

/-- **The clock thread never corrects the clock**: in every run from a state that no reply has
touched, whatever the other threads do and whatever the panic threshold is. -/
theorem clockThread_idle {steps : List DaemonStep} {s : RunState}
    (hsteps : ∀ step ∈ steps, step.Plausible) (hs : SyncTimeKnown s.daemon.g.lastSyncTs) :
    Along DaemonStep.after DaemonStep.LeavesClock steps s := by
  have hlegal : Along DaemonStep.after (fun step _ => step.Plausible) steps s :=
    along_of_forall_mem fun step hstep _ => hsteps step hstep
  have hknown : Along DaemonStep.after (fun _ s => SyncTimeKnown s.daemon.g.lastSyncTs) steps s :=
    (Along.invariant (I := fun s : RunState => SyncTimeKnown s.daemon.g.lastSyncTs)
      (fun _ _ hs h => h.syncTimeKnown hs) hs hlegal).1
  exact (hlegal.and hknown).mono fun _ _ h => h.1.leavesClock h.2

/-- An iteration before the first reply, the reply, and an iteration behind it. -/
theorem clockThread_idle_echo :
    Along DaemonStep.after DaemonStep.LeavesClock
      [.clockThread wallClockEnv, .activity (.syncAttempt echoAttempt), .clockThread wallClockEnv]
      ⟨⟨1000, 0, 0⟩, unreachedDaemon⟩ := by
  have hclock : (DaemonStep.clockThread wallClockEnv).Plausible := by
    rintro _ ⟨⟩
    exact ⟨by decide, by decide⟩
  refine clockThread_idle (fun step hstep => ?_) (.inl rfl)
  simp only [List.mem_cons, List.not_mem_nil, or_false] at hstep
  rcases hstep with rfl | rfl | rfl
  · exact hclock
  · rintro _ ⟨⟩
    exact ⟨by decide, by decide⟩
  · exact hclock

end Dntpd
