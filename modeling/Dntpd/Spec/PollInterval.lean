import Dntpd.Library.Run
import Dntpd.Spec.PortValidation

/-!
# The range of the poll exponent

`adjust_poll_interval` takes the peer's exponent when it is the smaller one, and bounds only its own
step of one: a peer that offers less than 2^3 s takes the exponent below the range for good
(`adjustPollInterval_inPollRange_iff`).  Along a run the exponent, and with it every shift count of
the frequency discipline, stays in the range exactly as long as no accepted reply does so
(`SyncAttempt.keepsPollRange_iff`).
-/

namespace Dntpd

open Proc

/-! ### One adjustment -/

/-- `POLL_INTERVAL_MIN` to `POLL_INTERVAL_MAX`. -/
def InPollRange (poll : Int8) : Prop := pollIntervalMin ≤ poll ∧ poll ≤ pollIntervalMax

/-- The measurement makes `adjust_poll_interval` add one. -/
def RaisesPoll (delayUs : UInt64) (offsetUs : ℤ) : Prop :=
  delayUs > pollDelayHighThresholdUs ∨ offsetUs > pollOffsetHighThresholdUs ∨
    offsetUs < -pollOffsetHighThresholdUs

theorem inPollRange_iff (poll : Int8) : InPollRange poll ↔ 4 ≤ poll.toInt ∧ poll.toInt ≤ 12 := by
  unfold InPollRange
  rw [Int8.le_iff_toInt_le, Int8.le_iff_toInt_le]
  rfl

theorem toInt_add_one {poll : Int8} (h : poll.toInt < 12) : (poll + 1).toInt = poll.toInt + 1 := by
  have hge : -128 ≤ poll.toInt := Int8.le_toInt poll
  rw [Int8.toInt_add]
  exact Int.bmod_eq_of_le (by simp; omega) (by simp; omega)

theorem toInt_sub_one {poll : Int8} (h : 4 < poll.toInt) : (poll - 1).toInt = poll.toInt - 1 := by
  have hlt : poll.toInt < 128 := Int8.toInt_lt poll
  rw [Int8.toInt_sub]
  exact Int.bmod_eq_of_le (by simp; omega) (by simp; omega)

/-- What the adjustment computes, in the integers. -/
theorem toInt_adjustPollInterval (currentPoll peerPoll : Int8) (delayUs : UInt64) (offsetUs : ℤ) :
    (RaisesPoll delayUs offsetUs →
      (adjustPollInterval currentPoll peerPoll delayUs offsetUs).toInt =
        if min peerPoll.toInt currentPoll.toInt < 12 then min peerPoll.toInt currentPoll.toInt + 1
        else min peerPoll.toInt currentPoll.toInt) ∧
    (¬ RaisesPoll delayUs offsetUs →
      (adjustPollInterval currentPoll peerPoll delayUs offsetUs).toInt =
          min peerPoll.toInt currentPoll.toInt ∨
        4 < min peerPoll.toInt currentPoll.toInt ∧
          (adjustPollInterval currentPoll peerPoll delayUs offsetUs).toInt =
            min peerPoll.toInt currentPoll.toInt - 1) := by
  unfold adjustPollInterval
  extract_lets newPoll
  -- the smaller of the two intervals is what is adjusted
  have hnew : newPoll.toInt = min peerPoll.toInt currentPoll.toInt := by
    unfold newPoll
    by_cases hlt : peerPoll < currentPoll
    · rw [if_pos hlt, min_eq_left (Int8.lt_iff_toInt_lt.mp hlt).le]
    · rw [if_neg hlt, min_eq_right (not_lt.mp fun h => hlt (Int8.lt_iff_toInt_lt.mpr h))]
  rw [← hnew]
  constructor
  · intro hraises
    unfold RaisesPoll at hraises
    rw [if_pos hraises]
    by_cases hmax : newPoll < pollIntervalMax
    · have hmax' : newPoll.toInt < 12 := Int8.lt_iff_toInt_lt.mp hmax
      rw [if_pos hmax, if_pos hmax', toInt_add_one hmax']
    · have hmax' : ¬ newPoll.toInt < 12 := fun h => hmax (Int8.lt_iff_toInt_lt.mpr h)
      rw [if_neg hmax, if_neg hmax']
  · intro hraises
    unfold RaisesPoll at hraises
    rw [if_neg hraises]
    -- a larger offset lowers it, unless it is at the minimum already
    split_ifs with hlow hmin
    · have hmin' : 4 < newPoll.toInt := Int8.lt_iff_toInt_lt.mp hmin
      exact .inr ⟨hmin', toInt_sub_one hmin'⟩
    · exact .inl rfl
    · exact .inl rfl

/-- From the range the adjustment stays in it if the peer offers at least 2^4 s, or 2^3 s along with
a measurement that raises the exponent. -/
theorem adjustPollInterval_inPollRange_iff {currentPoll : Int8} (h : InPollRange currentPoll)
    (peerPoll : Int8) (delayUs : UInt64) (offsetUs : ℤ) :
    InPollRange (adjustPollInterval currentPoll peerPoll delayUs offsetUs) ↔
      4 ≤ peerPoll.toInt ∨ peerPoll.toInt = 3 ∧ RaisesPoll delayUs offsetUs := by
  obtain ⟨hraised, hkept⟩ := toInt_adjustPollInterval currentPoll peerPoll delayUs offsetUs
  rw [inPollRange_iff] at h ⊢
  -- raised, the smaller interval may be 3; otherwise it has to be in the range already
  by_cases hraises : RaisesPoll delayUs offsetUs
  · rw [hraised hraises, and_iff_left hraises]
    split_ifs with hmax
    · omega
    · omega
  · rw [and_iff_left_of_imp fun hle => ?_, or_iff_left fun hthree => hraises hthree.2]
    · rcases hkept hraises with heq | ⟨hmin, heq⟩
      · rw [heq]
        omega
      · rw [heq]
        omega
    · rcases hkept hraises with heq | ⟨hmin, heq⟩
      · rw [heq]
        omega
      · rw [heq]
        omega

/-! ### The adjustment of an attempt -/

/-- The event updates the frequency at this poll exponent, if it is such an update. -/
def Event.AtPoll (poll : Int8) : Event → Prop
  | .updateFrequencyDiscipline _ pollExp => pollExp = poll.toInt
  | _ => True

/-- The event is no update of the frequency. -/
def Event.NoFrequency : Event → Prop
  | .updateFrequencyDiscipline _ _ => False
  | _ => True

theorem Event.NoFrequency.atPoll {e : Event} (he : e.NoFrequency) (poll : Int8) :
    e.AtPoll poll := by
  cases e with
  | updateFrequencyDiscipline off p => exact he.elim
  | _ => trivial

theorem Event.InExchange.noFrequency {e : Event} (he : e.InExchange) : e.NoFrequency := by
  cases e <;> first | exact he.elim | trivial

theorem Event.LocksOnly.noFrequency {ms : List Mutex} {e : Event} (he : e.LocksOnly ms) :
    e.NoFrequency := by
  cases e <;> first | exact he.elim | trivial

theorem Event.InLeapModule.noFrequency {e : Event} (he : e.InLeapModule) : e.NoFrequency := by
  cases e <;> first | exact he.elim | trivial

theorem Event.InCorrection.noFrequency {c : CorrectionCaller} {offsetUs : ℤ} {e : Event}
    (he : e.InCorrection c offsetUs) : e.NoFrequency := by
  cases e <;> first | exact he.elim | trivial

theorem Event.InDiscipline.atPoll {offsetUs : ℤ} {poll : Int8} {e : Event}
    (he : e.InDiscipline offsetUs poll.toInt) : e.AtPoll poll := by
  cases e with
  | updateFrequencyDiscipline off p => exact he.2
  | _ => trivial

/-- The correction leaves the poll exponent for the discipline as it is. -/
theorem correctClock_atPoll (offsetUs : ℤ) (env : SyncEnv) (d : Daemon) :
    ∀ e ∈ (correctClock offsetUs env d).trace, e.AtPoll d.g.localPoll := by
  intro e he
  have hcorrection := applyTimeCorrection_frame .syncNtpTime offsetUs env.correction
  rcases List.mem_append.mp he with he | he
  · exact (hcorrection.trace d e he).noFrequency.atPoll _
  · have hpoll : (applyTimeCorrectionSlewOrStep .syncNtpTime offsetUs
        env.correction d).state.g.localPoll = d.g.localPoll :=
      (congrArg (fun d => d.g.localPoll) (hcorrection.state d) :)
    have he' : e ∈ (updateFrequencyDiscipline offsetUs
        (applyTimeCorrectionSlewOrStep .syncNtpTime offsetUs
          env.correction d).state.g.localPoll.toInt env.freq
        (applyTimeCorrectionSlewOrStep .syncNtpTime offsetUs env.correction d).state).trace := by
      simpa [bind_trace] using he
    rw [← hpoll]
    exact ((updateFrequencyDiscipline_frame _ _ _).trace _ e he').atPoll

section

variable (ip : CString) (sock : ℤ) (pkt : NtpHeader) (t4 : NtpTimestamp) (delayUs : UInt64)
  (offsetUs : ℤ) (validCount : ℕ) (env : SyncEnv)

theorem finishSync_localPoll (d : Daemon) :
    (finishSync ip sock pkt t4 delayUs offsetUs validCount env d).state.g.localPoll =
      adjustPollInterval d.g.localPoll pkt.poll delayUs offsetUs := by
  obtain ⟨d₁, hpoll, hg⟩ := finishSync_g ip sock pkt t4 delayUs offsetUs env validCount d
  rw [hg]
  have hrecord := (recordSync_frame ip pkt t4 delayUs offsetUs env).state d₁
  exact (congrArg Prod.fst hrecord).trans hpoll

/-- A finished attempt updates the frequency at the new exponent. -/
theorem finishSync_atPoll (d : Daemon) :
    ∀ e ∈ (finishSync ip sock pkt t4 delayUs offsetUs validCount env d).trace,
      e.AtPoll (adjustPollInterval d.g.localPoll pkt.poll delayUs offsetUs) := by
  have hrecord : Frame (fun _ : Daemon => ()) Event.NoFrequency
      (recordSync ip pkt t4 delayUs offsetUs env) :=
    (recordSync_frame _ _ _ _ _ _).mono (fun _ => ()) fun _ he => he.noFrequency
  have hleap : Frame (fun _ : Daemon => ()) Event.NoFrequency
      (leapSecondIntegrationCheck env.leapCheck) :=
    (leapSecondIntegrationCheck_frame _).mono (fun _ => ()) fun _ he => he.noFrequency
  have hclose : Frame (fun _ : Daemon => ()) Event.NoFrequency (closeSocket sock) :=
    (closeSocket_frame sock).mono (fun _ => ()) fun _ he => he.1.noFrequency
  have hrest : Frame (fun _ : Daemon => ()) Event.NoFrequency (do
      recordSync ip pkt t4 delayUs offsetUs env
      let _ ← leapSecondIntegrationCheck env.leapCheck
      closeSocket sock
      return (0 : ℤ)) :=
    .bind hrecord fun _ => .bind hleap fun _ => .bind hclose fun _ => .pure _
  intro e he
  unfold finishSync at he
  rw [bind_trace, update_trace, List.nil_append, bind_trace] at he
  rcases List.mem_append.mp he with he | he
  · obtain rfl := List.mem_singleton.mp he
    trivial
  · rw [ite_trace] at he
    split_ifs at he with hkept
    · rcases List.mem_append.mp he with he | he
      · exact correctClock_atPoll offsetUs env _ e he
      · exact (hrest.trace _ e he).atPoll _
    · exact (hrest.trace _ e he).atPoll _

end

/-- A rejected reply keeps the poll exponent. -/
theorem RejectExit.change_localPoll {sock : ℤ} {t1 : NtpTimestamp} {pkt : NtpHeader}
    {exit : DProc ℤ} {change : Globals → Globals} (h : RejectExit sock t1 pkt exit change)
    (g : Globals) : (change g).localPoll = g.localPoll := by
  cases h with
  | reject => rfl
  | demote change hchange hvalid =>
    rcases hchange with rfl | rfl
    · rfl
    · rfl

namespace SyncAttempt

/-- The attempt accepts a reply with these values and gets as far as `adjust_poll_interval`. -/
def Adjusts (a : SyncAttempt) (d : Daemon) (peerPoll : Int8) (delayUs : UInt64) (offsetUs : ℤ) :
    Prop :=
  ∃ ip port dg, a.ip = some ip ∧ a.port = some port ∧
    ReplyAccepted port a.env d dg delayUs offsetUs ∧ (a.env.header dg d.ido).poll = peerPoll ∧
    (a.env.gettimeofday.toBool = true ∨ 0 < d.samples.count)

/-- The exponent after the attempt, and the exponents it updates the frequency at. -/
structure PollRun (a : SyncAttempt) (d : Daemon) (poll : Int8) : Prop where
  localPoll : (a.after d).g.localPoll = poll
  frequency : ∀ e ∈ (a.run d).trace, e.AtPoll poll

theorem Adjusts.pollRun {a : SyncAttempt} {d : Daemon} {peerPoll : Int8} {delayUs : UInt64}
    {offsetUs : ℤ} (h : a.Adjusts d peerPoll delayUs offsetUs) :
    a.PollRun d (adjustPollInterval d.g.localPoll peerPoll delayUs offsetUs) := by
  obtain ⟨ip, port, env⟩ := a
  obtain ⟨ip', port', dg, hip, hport, haccepted, rfl, hsample⟩ := h
  obtain rfl : ip = some ip' := hip
  obtain rfl : port = some port' := hport
  obtain ⟨sock, d₁, tr₁, hg, hrun⟩ := haccepted.acceptedRun_g ip'
  have hfilter := filterReply_offsetStep offsetUs delayUs env.gettimeofday
  have hkept := hrun.filterReply_ne_zero_iff.mpr hsample
  have hpoll : (filterReply delayUs offsetUs env.gettimeofday d₁).state.g.localPoll =
      d.g.localPoll :=
    congrArg Globals.localPoll ((hfilter.state d₁).trans hg)
  have heq := hrun.run
  rw [acceptReply_of_ne_zero hkept] at heq
  -- the interval is written once, at the end of the run
  constructor
  · unfold after run
    rw [heq, ← hpoll]
    exact finishSync_localPoll _ _ _ _ _ _ _ _ _
  · intro e he
    unfold run at he
    rw [heq] at he
    -- neither the exchange nor the filter touches it
    rcases List.mem_append.mp he with he | he
    · exact (hrun.exchange.events e he).noFrequency.atPoll _
    · rcases List.mem_append.mp he with he | he
      · exact ((filterReply_frame _ _ _).trace d₁ e he).noFrequency.atPoll _
      · rw [← hpoll]
        exact finishSync_atPoll _ _ _ _ _ _ _ _ _ e he

theorem pollRun_of_exchange {a : SyncAttempt} {d : Daemon}
    (hpoll : (a.after d).g.localPoll = d.g.localPoll) (htrace : ExchangeTrace (a.run d).trace) :
    a.PollRun d d.g.localPoll :=
  ⟨hpoll, fun e he => (htrace.events e he).noFrequency.atPoll _⟩

/-- An accepted reply of which the filter keeps nothing demotes the daemon, and keeps the
exponent. -/
theorem pollRun_of_dropped {ip port : CString} {env : SyncEnv} {d : Daemon} {dg : Datagram}
    {delayUs : UInt64} {offsetUs : ℤ} (haccepted : ReplyAccepted port env d dg delayUs offsetUs)
    (hsample : ¬ (env.gettimeofday.toBool = true ∨ 0 < d.samples.count)) :
    (SyncAttempt.mk (some ip) (some port) env).PollRun d d.g.localPoll := by
  obtain ⟨sock, d₁, tr₁, hg, hrun⟩ := haccepted.acceptedRun_g ip
  have hfilter := filterReply_frame delayUs offsetUs env.gettimeofday
  have hzero := not_not.mp (hrun.filterReply_ne_zero_iff.not.mpr hsample)
  have hfiltered : (filterReply delayUs offsetUs env.gettimeofday d₁).state.g = d.g :=
    (congrArg Daemon.g (hfilter.state d₁) :).trans hg
  obtain ⟨-, hdemoted, hdemote⟩ := demoteReply_run sock Globals.unsynced
    (filterReply delayUs offsetUs env.gettimeofday d₁).state
  have heq := hrun.run
  -- the filter keeps nothing, so the run ends with the demotion
  rw [acceptReply_of_eq_zero hzero] at heq
  constructor
  · unfold after run
    rw [heq]
    dsimp only
    rw [hdemoted]
    exact (congrArg Globals.localPoll hfiltered :)
  · intro e he
    unfold run at he
    rw [heq] at he
    rcases List.mem_append.mp he with he | he
    · exact (hrun.exchange.events e he).noFrequency.atPoll _
    · rcases List.mem_append.mp he with he | he
      · exact (hfilter.trace d₁ e he).noFrequency.atPoll _
      · exact (hdemote.events e he).noFrequency.atPoll _

/-- An attempt that does not get that far keeps the exponent. -/
theorem pollRun_of_not_adjusts {a : SyncAttempt} {d : Daemon}
    (h : ∀ peerPoll delayUs offsetUs, ¬ a.Adjusts d peerPoll delayUs offsetUs) :
    a.PollRun d d.g.localPoll := by
  obtain ⟨ip, port, env⟩ := a
  cases ip with
  | none => exact pollRun_of_exchange rfl .nil
  | some ip =>
    cases port with
    | none => exact pollRun_of_exchange rfl .nil
    | some port =>
      cases syncNtpTime_cases ip port env d with
      | unreceived hnot hret hstate htrace =>
        exact pollRun_of_exchange (congrArg (fun d => d.g.localPoll) hstate :) htrace
      | unparsed dg hreceived hparse hret hstate htrace =>
        exact pollRun_of_exchange (congrArg (fun d => d.g.localPoll) hstate :) htrace
      | rejected dg hreceived hparse hchecks sock exit change hexit hret hstate htrace =>
        have hpoll : (syncNtpTime (some ip) (some port) env d).state.g.localPoll =
            (change d.g).localPoll := (congrArg (fun d => d.g.localPoll) hstate :)
        exact pollRun_of_exchange (hpoll.trans (hexit.change_localPoll d.g)) htrace
      | accepted dg delayUs offsetUs haccepted sock d₁ tr₁ hstate htrace hrun =>
        -- accepted, so it must be the filter that kept nothing
        exact pollRun_of_dropped haccepted fun hsample =>
          h _ delayUs offsetUs ⟨ip, port, dg, rfl, rfl, haccepted, rfl, hsample⟩

/-! ### The range along a run -/

/-- After the attempt the exponent is in the range, and so is every shift count of the frequency
discipline. -/
structure KeepsPollRange (a : SyncAttempt) (d : Daemon) : Prop where
  localPoll : InPollRange (a.after d).g.localPoll
  shiftCount : ∀ offsetUs pollExp, .updateFrequencyDiscipline offsetUs pollExp ∈ (a.run d).trace →
    4 ≤ pollExp ∧ pollExp ≤ 12

/-- If the attempt adjusts the exponent, the peer offers at least 2^4 s, or 2^3 s along with a
measurement that raises the exponent. -/
def OffersPollInRange (a : SyncAttempt) (d : Daemon) : Prop :=
  ∀ (peerPoll : Int8) (delayUs : UInt64) (offsetUs : ℤ), a.Adjusts d peerPoll delayUs offsetUs →
    4 ≤ peerPoll.toInt ∨ peerPoll.toInt = 3 ∧ RaisesPoll delayUs offsetUs

theorem PollRun.keeps_iff {a : SyncAttempt} {d : Daemon} {poll : Int8}
    (h : a.PollRun d poll) : a.KeepsPollRange d ↔ InPollRange poll := by
  constructor
  · intro hkeeps
    rw [← h.localPoll]
    exact hkeeps.localPoll
  · intro hpoll
    refine ⟨h.localPoll.symm ▸ hpoll, fun offsetUs pollExp he => ?_⟩
    obtain rfl : pollExp = poll.toInt := h.frequency _ he
    exact (inPollRange_iff poll).mp hpoll

theorem Adjusts.unique {a : SyncAttempt} {d : Daemon} {peerPoll peerPoll' : Int8}
    {delayUs delayUs' : UInt64} {offsetUs offsetUs' : ℤ}
    (h : a.Adjusts d peerPoll delayUs offsetUs) (h' : a.Adjusts d peerPoll' delayUs' offsetUs') :
    peerPoll = peerPoll' ∧ delayUs = delayUs' ∧ offsetUs = offsetUs' := by
  obtain ⟨ip, port, dg, -, hport, haccepted, rfl, -⟩ := h
  obtain ⟨ip', port', dg', -, hport', haccepted', rfl, -⟩ := h'
  obtain rfl : port = port' := Option.some_injective _ (hport.symm.trans hport')
  obtain ⟨rfl, rfl, rfl⟩ := haccepted.unique haccepted'
  exact ⟨rfl, rfl, rfl⟩

/-- One attempt from an exponent in the range. -/
theorem keepsPollRange_step_iff (a : SyncAttempt) {d : Daemon} (h : InPollRange d.g.localPoll) :
    a.KeepsPollRange d ↔ a.OffersPollInRange d := by
  by_cases hadjusts : ∃ peerPoll delayUs offsetUs, a.Adjusts d peerPoll delayUs offsetUs
  · obtain ⟨peerPoll, delayUs, offsetUs, hadjusts⟩ := hadjusts
    rw [hadjusts.pollRun.keeps_iff, adjustPollInterval_inPollRange_iff h]
    constructor
    · intro hpeer peerPoll' delayUs' offsetUs' hadjusts'
      obtain ⟨rfl, rfl, rfl⟩ := hadjusts.unique hadjusts'
      exact hpeer
    · exact fun hoffers => hoffers _ _ _ hadjusts
  · push Not at hadjusts
    rw [(pollRun_of_not_adjusts hadjusts).keeps_iff]
    exact iff_of_true h fun peerPoll delayUs offsetUs hadjusts' =>
      absurd hadjusts' (hadjusts peerPoll delayUs offsetUs)

/-- Along a run from the initial exponent, every attempt keeps the range exactly if every reply that
adjusts the exponent offers one that does not lead out of it. -/
theorem keepsPollRange_iff {d : Daemon} (h : d.g.localPoll = Globals.init.localPoll)
    (attempts : List SyncAttempt) :
    Run.Along after KeepsPollRange attempts d ↔ Run.Along after OffersPollInRange attempts d := by
  have hinit : InPollRange d.g.localPoll := by
    rw [h]
    exact ⟨by decide, by decide⟩
  exact Run.along_iff_of_invariant (I := fun d => InPollRange d.g.localPoll)
    (fun a d hpoll => a.keepsPollRange_step_iff hpoll) (fun a d _ hkeeps => hkeeps.localPoll) hinit

theorem keepsPollRange_iff_echoAttempt :
    Run.Along after KeepsPollRange [echoAttempt, echoAttempt] unreachedDaemon ↔
      Run.Along after OffersPollInRange [echoAttempt, echoAttempt] unreachedDaemon :=
  keepsPollRange_iff rfl _

/-- A server that leaves the poll byte 0 takes the exponent to 0 with its first reply, and the
discipline shifts by 0. -/
theorem echoAttempt_not_keepsPollRange :
    (echoAttempt.after unreachedDaemon).g.localPoll = 0 ∧
      .updateFrequencyDiscipline (-499) 0 ∈ (echoAttempt.run unreachedDaemon).trace ∧
      ¬ Run.Along after KeepsPollRange [echoAttempt] unreachedDaemon := by
  have hpoll : (echoAttempt.after unreachedDaemon).g.localPoll = 0 := by decide +kernel
  refine ⟨hpoll, by decide +kernel, fun h => ?_⟩
  have hge := h.1.localPoll.1
  rw [hpoll] at hge
  exact absurd hge (by decide)

end SyncAttempt

end Dntpd
