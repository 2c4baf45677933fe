import Dntpd.Library.Run
import Dntpd.RequestThreads
import Dntpd.Spec.PacketCodec
import Dntpd.Spec.RateTable

/-!
# Rate limiting of requests handled side by side

The parts of the handler, run one after the other, are the handler (`handlePeerRequestThread_eq`).
Between the check of one thread and its update another thread may pass the check as well; as long as
no thread does, at most one of the requests of a second is answered
(`rateConcurrency_atMostOne`).
-/

namespace Dntpd

open Proc Run

/-! ### The parts make up the handler -/

theorem deliverResponse_eq (responseMode : UInt8) (ip port : CString) (response : List UInt8)
    (env : RequestEnv) : deliverResponse responseMode ip port response env = (do
      let sent ← deliverUpToUpdate responseMode ip port response env
      if sent then rateLimitRecord (some ip) env.rateUpdateTime else pure ()) := by
  unfold deliverResponse deliverUpToUpdate
  rw [Proc.bind_assoc]
  congr 1
  funext u
  cases (parsePort port).bind (network4ParseAddress ip) with
  | none => rfl
  | some clientAddr =>
    dsimp only
    simp only [Proc.bind_assoc, Proc.ite_bind, Proc.pure_bind]
    rfl

theorem sendResponse_eq (responseMode : UInt8) (ip port : CString) (pkt : NtpHeader)
    (env : RequestEnv) : sendResponse responseMode ip port pkt env = (do
      let sent ← sendUpToUpdate responseMode ip port pkt env
      if sent then rateLimitRecord (some ip) env.rateUpdateTime else pure ()) := by
  unfold sendResponse sendUpToUpdate
  simp only [Proc.bind_assoc, deliverResponse_eq]

theorem handlePeerRequestThread_eq (data : PeerRequestData) (env : RequestEnv) :
    handlePeerRequestThread data env = (do
      match ← reachRateCheck data env with
      | none => pure ()
      | some pkt =>
        let rate ← rateLimitCheck (some data.ip) env.rateCheckTime
        if rate ≠ 0 then pure ()
        else
          let sent ← answerUpToUpdate data env pkt
          if sent then rateLimitRecord (some data.ip) env.rateUpdateTime else pure ()) := by
  unfold handlePeerRequestThread reachRateCheck
  cases data.buffer with
  | none => rfl
  | some buffer =>
    dsimp only
    -- the function is cut at its check of the rate and at its update
    unfold admitRequest answerUpToUpdate
    simp only [Proc.bind_assoc, Proc.ite_bind, Proc.pure_bind, sendResponse_eq]
    refine Proc.else_congr (Proc.else_congr (Proc.bind_congr fun d => Proc.bind_congr fun _ => ?_))
    refine Proc.else_congr (Proc.else_congr (Proc.bind_congr fun _ => Proc.else_congr ?_))
    refine Proc.bind_congr fun _ => Proc.else_congr (Proc.bind_congr fun _ => Proc.else_congr ?_)
    refine Proc.bind_congr fun _ => Proc.else_congr (Proc.bind_congr fun d' => ?_)
    cases responseModeFor d'.cli.broadcastMode
      (parseNtpPacket buffer data.size env.stalePkt d.ido).pkt.mode with
    | none => rfl
    | some responseMode =>
      dsimp only
      simp only [Proc.bind_assoc, Proc.ite_bind, Proc.pure_bind, Bool.false_eq_true, ↓reduceIte]
      refine Proc.bind_congr fun ratio => ?_
      by_cases hratio : ratio ≠ 0
      · rw [if_pos hratio, if_pos hratio]
      · rw [if_neg hratio, if_neg hratio]

/-- The steps of a thread, one after the other, are the handler. -/
theorem RequestThread.steps_eq (data : PeerRequestData) (env : RequestEnv) :
    (do
      let t ← (RequestThread.mk data env .arrived).step
      let t ← t.step
      let t ← t.step
      let _ ← t.step) = handlePeerRequestThread data env := by
  rw [handlePeerRequestThread_eq]
  show (reachRateCheck data env >>= _) >>= _ = _
  rw [Proc.bind_assoc]
  -- each step is the next piece, and a thread that has ended stays as it is
  refine Proc.bind_congr fun reached => ?_
  cases reached with
  | none => rfl
  | some pkt =>
    dsimp only
    rw [Proc.pure_bind]
    show (rateLimitCheck (some data.ip) env.rateCheckTime >>= _) >>= _ = _
    rw [Proc.bind_assoc]
    refine Proc.bind_congr fun rate => ?_
    dsimp only
    rw [Proc.pure_bind]
    by_cases hrate : rate ≠ 0
    · rw [if_pos hrate, if_pos hrate]
      rfl
    · rw [if_neg hrate, if_neg hrate]
      show (answerUpToUpdate data env pkt >>= _) >>= _ = _
      rw [Proc.bind_assoc]
      refine Proc.bind_congr fun sent => ?_
      cases sent with
      | false => rfl
      | true => rfl

/-! ### What a step of a thread does -/

/-- A procedure that leaves the state of the mode handler alone. -/
abbrev KeepsMode {α : Type} (p : DProc α) : Prop := Frame Daemon.mode (fun _ => True) p

theorem keepsMode_of_query {α : Type} {p : DProc α} (hp : ModeQuery p) : KeepsMode p :=
  hp.mono Daemon.mode fun _ _ => trivial

theorem reachRateCheck_keepsMode (data : PeerRequestData) (env : RequestEnv) :
    KeepsMode (reachRateCheck data env) := by
  unfold reachRateCheck
  split
  · exact .pure _
  · refine .ite (.pure _) (.ite (.pure _) (.bind .read fun d => ?_))
    refine .bind (.update fun _ => rfl) fun _ => .ite (.pure _) (.ite (.pure _) ?_)
    refine .bind (keepsMode_of_query (validatePacketAuthentication_frame _ _)) fun _ => ?_
    refine .ite (.pure _) (.bind (keepsMode_of_query (controlAllowed_frame _)) fun _ => ?_)
    refine .ite (.pure _) (.bind (keepsMode_of_query (aclCheckClient_frame _ _)) fun _ => ?_)
    exact .ite (.pure _) (.pure _)

theorem deliverUpToUpdate_keepsMode (responseMode : UInt8) (ip port : CString)
    (response : List UInt8) (env : RequestEnv) :
    KeepsMode (deliverUpToUpdate responseMode ip port response env) := by
  have hcall : ∀ {α : Type} {p : DProc α} {E : Event → Prop}, Frame Daemon.eraseErrno E p →
      KeepsMode p := fun hp => hp.mono Daemon.mode fun _ _ => trivial
  unfold deliverUpToUpdate
  refine .bind (.update fun _ => rfl) fun _ => ?_
  split
  · exact .pure _
  · refine .bind (hcall (network4CreateSocket_frame _)) fun sock => .ite (.pure _) ?_
    refine .bind (hcall (network4Sendto_frame _ _ _ _ _)) fun sent => ?_
    refine .bind (hcall (network4CloseSocket_frame _)) fun _ => .ite (.pure _) (.ite ?_ (.pure _))
    exact .bind ((sendBroadcastResponse_frame _ _).mono Daemon.mode fun _ _ => trivial) fun _ =>
      .pure _

theorem answerUpToUpdate_keepsMode (data : PeerRequestData) (env : RequestEnv)
    (pkt : NtpHeader) : KeepsMode (answerUpToUpdate data env pkt) := by
  have hclock : ∀ clock, KeepsMode (readTimestampNow clock) := fun clock =>
    (readTimestampNow_frame clock fun _ => True).mono Daemon.mode fun _ _ => trivial
  have hsend : ∀ responseMode ip port, KeepsMode (sendUpToUpdate responseMode ip port pkt env) := by
    intro responseMode ip port
    unfold sendUpToUpdate
    refine .bind (hclock _) fun t2 => .bind (.emit trivial) fun _ => .bind .read fun d => ?_
    refine .bind (keepsMode_of_query modeGetDefaultStratum_frame) fun stratum => ?_
    refine .bind (keepsMode_of_query modeGetDefaultRefId_frame) fun refId => ?_
    refine .bind (keepsMode_of_query modeGetDefaultLi_frame) fun li => ?_
    exact .bind (.emit trivial) fun _ => .bind (hclock _) fun t3 =>
      deliverUpToUpdate_keepsMode _ _ _ _ _
  unfold answerUpToUpdate
  refine .bind .read fun d => ?_
  -- without an answer in this mode nothing more is done
  split
  · exact .pure _
  · refine .bind (keepsMode_of_query (validatePacketMode_frame _ _ _)) fun _ => ?_
    refine .ite (.pure _) (.ite (.pure _) (.bind ?_ fun _ => .ite (.pure _) (hsend _ _ _)))
    exact (handleLeapIndicator_frame _ _).mono Daemon.mode fun _ _ => trivial

/-- Only clients with an address get as far as `rate_limit_check`. -/
theorem parseIp_ne_zero_of_reachRateCheck {data : PeerRequestData} {env : RequestEnv} {d : Daemon}
    {pkt : NtpHeader} (h : (reachRateCheck data env d).ret = some pkt) :
    parseIp (some data.ip) ≠ 0 := by
  intro hip
  have hacl : ∀ mode, Returns (· = false) (aclCheckClient (some data.ip) mode) := by
    intro mode
    unfold aclCheckClient
    rw [if_neg nofun, if_pos hip]
    exact .pure rfl
  -- each exit before the test of the list returns nothing, and so does the one behind it
  have hnone : Returns (· = none) (reachRateCheck data env) := by
    unfold reachRateCheck
    split
    · exact .pure rfl
    · refine .ite (.pure rfl) (.ite (.pure rfl) (.of_bind fun d => .of_bind fun _ => ?_))
      refine .ite (.pure rfl) (.ite (.pure rfl) (.of_bind fun _ => .ite (.pure rfl) ?_))
      refine .of_bind fun _ => .ite (.pure rfl) (.bind (hacl _) fun acl hfalse => ?_)
      rw [hfalse]
      exact .pure rfl
  rw [hnone d] at h
  cases h

/-- The thread has passed the check, and its response is not recorded yet. -/
def RequestThread.Pending (t : RequestThread) : Prop :=
  (∃ pkt, t.phase = .passed pkt) ∨ t.phase = .answered

/-- The thread is at its call of `rate_limit_check`. -/
def RequestThread.Checking (t : RequestThread) : Prop := ∃ pkt, t.phase = .checking pkt

/-- The thread has sent a response. -/
def RequestThread.Answered (t : RequestThread) : Prop := t.phase = .answered ∨ t.phase = .recorded

instance (t : RequestThread) : Decidable t.Pending :=
  match h : t.phase with
  | .passed pkt => .isTrue (.inl ⟨pkt, h⟩)
  | .answered => .isTrue (.inr h)
  | .arrived => .isFalse (by simp [RequestThread.Pending, h])
  | .checking _ => .isFalse (by simp [RequestThread.Pending, h])
  | .recorded => .isFalse (by simp [RequestThread.Pending, h])
  | .ended => .isFalse (by simp [RequestThread.Pending, h])

instance (t : RequestThread) : Decidable t.Checking :=
  match h : t.phase with
  | .checking pkt => .isTrue ⟨pkt, h⟩
  | .arrived => .isFalse (by simp [RequestThread.Checking, h])
  | .passed _ => .isFalse (by simp [RequestThread.Checking, h])
  | .answered => .isFalse (by simp [RequestThread.Checking, h])
  | .recorded => .isFalse (by simp [RequestThread.Checking, h])
  | .ended => .isFalse (by simp [RequestThread.Checking, h])

instance (t : RequestThread) : Decidable t.Answered :=
  inferInstanceAs (Decidable (t.phase = .answered ∨ t.phase = .recorded))

/-- What a step of the thread `t` can do; `t'` and `d'` are the thread and the daemon behind it. -/
inductive ThreadStep (t : RequestThread) (d : Daemon) (t' : RequestThread) (d' : Daemon) : Prop
  | quiet (hmode : d'.mode = d.mode) (hidle : ¬ t'.Pending) (hnot : t'.phase ≠ .recorded)
      (hunrecorded : t.phase ≠ .recorded)
      (haddr : t'.Checking → parseIp (some t.data.ip) ≠ 0)
  | passes (hmode : d'.mode = d.mode) (hchecking : t.Checking)
      (hcheck : (rateLimitCheck (some t.data.ip) t.env.rateCheckTime d).ret = 0)
      (hpassed : t'.phase ≠ .recorded)
  | answers (hmode : d'.mode = d.mode) (hpending : t.Pending) (hanswered : t'.phase = .answered)
  | records (hpending : t.Pending) (hrecorded : t'.phase = .recorded)
      (hmode : d'.mode = rateLimitUpdate d.mode (some t.data.ip) t.env.rateUpdateTime)
  | rests (hthread : t' = t) (hdaemon : d' = d)

theorem RequestThread.step_cases (t : RequestThread) (d : Daemon) :
    ThreadStep t d (t.step d).ret (t.step d).state := by
  unfold RequestThread.step
  -- one case for each phase that the thread can be in
  cases hphase : t.phase with
  | arrived =>
    have hmode := (reachRateCheck_keepsMode t.data t.env).state d
    dsimp only
    rw [bind_ret, bind_state]
    cases hreach : (reachRateCheck t.data t.env d).ret with
    | none => exact .quiet hmode (by simp [Pending]) nofun (by simp [hphase]) (by simp [Checking])
    | some pkt =>
      exact .quiet hmode (by simp [Pending]) nofun (by simp [hphase])
        fun _ => parseIp_ne_zero_of_reachRateCheck hreach
  | checking pkt =>
    have hstate : (rateLimitCheck (some t.data.ip) t.env.rateCheckTime d).state = d :=
      rateLimitCheck_state _ _ _
    dsimp only
    rw [bind_ret, bind_state, hstate]
    by_cases hcheck : (rateLimitCheck (some t.data.ip) t.env.rateCheckTime d).ret = 0
    · refine .passes rfl ⟨pkt, hphase⟩ hcheck ?_
      simp [hcheck]
    · exact .quiet rfl (by simp [Pending, hcheck]) (by simp [hcheck]) (by simp [hphase])
        (by simp [Checking, hcheck])
  | passed pkt =>
    have hmode := (answerUpToUpdate_keepsMode t.data t.env pkt).state d
    dsimp only
    rw [bind_ret, bind_state]
    cases hsent : (answerUpToUpdate t.data t.env pkt d).ret with
    | true => exact .answers hmode (.inl ⟨pkt, hphase⟩) rfl
    | false => exact .quiet hmode (by simp [Pending]) nofun (by simp [hphase]) (by simp [Checking])
  | answered => exact .records (.inr hphase) rfl rfl
  | recorded => exact .rests rfl rfl
  | ended => exact .rests rfl rfl

/-- A step changes neither the request nor what the outside answers. -/
theorem RequestThread.step_request (t : RequestThread) (d : Daemon) :
    (t.step d).ret.data = t.data ∧ (t.step d).ret.env = t.env := by
  unfold RequestThread.step
  cases t.phase with
  | arrived =>
    dsimp only
    rw [bind_ret]
    cases (reachRateCheck t.data t.env d).ret <;> exact ⟨rfl, rfl⟩
  | _ => exact ⟨rfl, rfl⟩

/-! ### The clients of one second -/

section

variable {ι : Type}

/-- Requests of one address, all at their start, in one second of the clock. -/
structure SameSecond (a : UInt32) (now : ℤ) (s : Server ι) : Prop where
  arrived : ∀ i, (s.thread i).phase = .arrived
  ip : ∀ i, parseIp (some (s.thread i).data.ip) = a
  time : ∀ i, (s.thread i).env.rateCheckTime = now ∧ (s.thread i).env.rateUpdateTime = now
  interval : 1 ≤ s.daemon.mode.config.rateLimitInterval.toNat

/-- No thread makes its check while another one has passed it and is not recorded yet. -/
def ChecksAlone (move : ServerMove ι) (s : Server ι) : Prop :=
  match move with
  | .thread i => (s.thread i).Checking → ∀ j, ¬ (s.thread j).Pending
  | .outside _ => True

instance {n : ℕ} (move : ServerMove (Fin n)) (s : Server (Fin n)) :
    Decidable (ChecksAlone move s) :=
  match move with
  | .thread i => inferInstanceAs (Decidable ((s.thread i).Checking → ∀ j, ¬ (s.thread j).Pending))
  | .outside _ => .isTrue trivial

/-- At most one of the requests is answered. -/
def AtMostOneAnswered (s : Server ι) : Prop :=
  ∀ i j, (s.thread i).Answered → (s.thread j).Answered → i = j

/-- At most one thread has passed the check, and once its response is recorded the address is
refused. -/
structure SoloInvariant (a : UInt32) (now : ℤ) (s : Server ι) : Prop where
  ip : ∀ i, parseIp (some (s.thread i).data.ip) = a
  time : ∀ i, (s.thread i).env.rateCheckTime = now ∧ (s.thread i).env.rateUpdateTime = now
  interval : 1 ≤ s.daemon.mode.config.rateLimitInterval.toNat
  addr : ∀ i, (s.thread i).Checking ∨ (s.thread i).Pending → a ≠ 0
  pending : ∀ i j, (s.thread i).Pending → (s.thread j).Pending → i = j
  unpending : ∀ i j, (s.thread i).phase = .recorded → ¬ (s.thread j).Pending
  once : ∀ i j, (s.thread i).phase = .recorded → (s.thread j).phase = .recorded → i = j
  refused : ∀ i, (s.thread i).phase = .recorded → ∀ ip, parseIp (some ip) = a →
    (rateLimitCheck (some ip) now s.daemon).ret ≠ 0

theorem SameSecond.soloInvariant {a : UInt32} {now : ℤ} {s : Server ι} (h : SameSecond a now s) :
    SoloInvariant a now s := by
  have hpending : ∀ i, ¬ (s.thread i).Pending := fun i => by
    simp [RequestThread.Pending, h.arrived i]
  have hchecking : ∀ i, ¬ (s.thread i).Checking := fun i => by
    simp [RequestThread.Checking, h.arrived i]
  have hrecorded : ∀ i, (s.thread i).phase ≠ .recorded := fun i => by simp [h.arrived i]
  exact {
    ip := h.ip
    time := h.time
    interval := h.interval
    addr := fun i hi => hi.elim (fun hc => absurd hc (hchecking i)) fun hp => absurd hp (hpending i)
    pending := fun i _ hi => absurd hi (hpending i)
    unpending := fun i _ hi => absurd hi (hrecorded i)
    once := fun i _ hi => absurd hi (hrecorded i)
    refused := fun i hi => absurd hi (hrecorded i) }

theorem SoloInvariant.atMostOneAnswered {a : UInt32} {now : ℤ} {s : Server ι}
    (h : SoloInvariant a now s) : AtMostOneAnswered s := by
  intro i j hi hj
  rcases hi with hi | hi
  · rcases hj with hj | hj
    · exact h.pending i j (.inr hi) (.inr hj)
    · exact absurd (.inr hi) (h.unpending j i hj)
  · rcases hj with hj | hj
    · exact absurd (.inr hj) (h.unpending i j hi)
    · exact h.once i j hi hj

/-- The check reads nothing but the state of the mode handler. -/
theorem rateLimitCheck_congr {d d' : Daemon} (h : d'.mode = d.mode) (ip : CString) (now : ℤ) :
    (rateLimitCheck (some ip) now d').ret = (rateLimitCheck (some ip) now d).ret := by
  rw [rateLimitCheck_ret, rateLimitCheck_ret, h]

/-- The invariant is kept by a step that makes no thread pending or recorded. -/
theorem SoloInvariant.shrink {a : UInt32} {now : ℤ} {s s' : Server ι} (h : SoloInvariant a now s)
    (hmode : s'.daemon.mode = s.daemon.mode)
    (hrequest : ∀ i, (s'.thread i).data = (s.thread i).data ∧ (s'.thread i).env = (s.thread i).env)
    (hpending : ∀ i, (s'.thread i).Pending → (s.thread i).Pending)
    (hrecorded : ∀ i, (s'.thread i).phase = .recorded → (s.thread i).phase = .recorded)
    (haddr : ∀ i, (s'.thread i).Checking → a ≠ 0) : SoloInvariant a now s' where
  ip i := by
    rw [(hrequest i).1]
    exact h.ip i
  time i := by
    rw [(hrequest i).2]
    exact h.time i
  interval := by
    rw [hmode]
    exact h.interval
  -- each field from that of `s`, since fewer threads are pending or recorded
  addr i hi := hi.elim (haddr i) fun hp => h.addr i (.inr (hpending i hp))
  pending i j hi hj := h.pending i j (hpending i hi) (hpending j hj)
  unpending i j hi hj := h.unpending i j (hrecorded i hi) (hpending j hj)
  once i j hi hj := h.once i j (hrecorded i hi) (hrecorded j hj)
  refused i hi ip hip := by
    rw [rateLimitCheck_congr hmode]
    exact h.refused i (hrecorded i hi) ip hip

/-- An update refuses its address for the rest of the second. -/
theorem refused_of_update {d d' : Daemon} {ip ip' : CString} {now : ℤ}
    (hmode : d'.mode = rateLimitUpdate d.mode (some ip) now) (haddr : parseIp (some ip) ≠ 0)
    (hsame : parseIp (some ip') = parseIp (some ip))
    (hinterval : 1 ≤ d.mode.config.rateLimitInterval.toNat) :
    (rateLimitCheck (some ip') now d').ret ≠ 0 := by
  have hupdate : rateLimitUpdate d.mode (some ip) now = rateLimitUpdate d.mode (some ip') now := by
    unfold rateLimitUpdate rateLimitInsert rateLimitFind
    rw [hsame]
  rw [hupdate] at hmode
  rw [rateLimitCheck_update (by rwa [hsame]) now now hmode, if_pos (by omega)]
  decide

/-- Only the thread `i` has moved, if any, and its request is the same. -/
structure OnlyMoves (i : ι) (s s' : Server ι) : Prop where
  other : ∀ j, j ≠ i → s'.thread j = s.thread j
  request : ∀ j, (s'.thread j).data = (s.thread j).data ∧ (s'.thread j).env = (s.thread j).env

section

variable {a : UInt32} {now : ℤ} {i : ι} {s s' : Server ι}

/-- What holds of the thread that moved, and held of the others before, holds of all. -/
theorem OnlyMoves.all {P : ι → RequestThread → Prop} (h : OnlyMoves i s s')
    (hi : P i (s'.thread i)) (hrest : ∀ j, P j (s.thread j)) : ∀ j, P j (s'.thread j) := by
  intro j
  by_cases hj : j = i
  · exact hj ▸ hi
  · exact h.other j hj ▸ hrest j

/-- A step by which the thread becomes neither pending nor recorded. -/
theorem SoloInvariant.moves (h : SoloInvariant a now s) (hmoves : OnlyMoves i s s')
    (hmode : s'.daemon.mode = s.daemon.mode)
    (hpending : (s'.thread i).Pending → (s.thread i).Pending)
    (hrecorded : (s'.thread i).phase ≠ .recorded)
    (haddr : (s'.thread i).Checking → a ≠ 0) : SoloInvariant a now s' := by
  refine h.shrink hmode hmoves.request ?_ ?_ ?_
  · exact hmoves.all (P := fun j t => t.Pending → (s.thread j).Pending) hpending fun _ hp => hp
  · exact hmoves.all (P := fun j t => t.phase = .recorded → (s.thread j).phase = .recorded)
      (fun hr => absurd hr hrecorded) fun _ hr => hr
  · exact hmoves.all (P := fun _ t => t.Checking → a ≠ 0) haddr fun j hc => h.addr j (.inl hc)

/-- A thread passes the check, and none is pending: then none is recorded either. -/
theorem SoloInvariant.passes (h : SoloInvariant a now s) (hmoves : OnlyMoves i s s')
    (hmode : s'.daemon.mode = s.daemon.mode) (hchecking : (s.thread i).Checking)
    (hcheck : (rateLimitCheck (some (s.thread i).data.ip) (s.thread i).env.rateCheckTime
      s.daemon).ret = 0)
    (hpassed : (s'.thread i).phase ≠ .recorded) (hidle : ∀ j, ¬ (s.thread j).Pending) :
    SoloInvariant a now s' := by
  rw [(h.time i).1] at hcheck
  -- the table would have refused a thread behind a recorded one
  have hunrecorded : ∀ j, (s.thread j).phase ≠ .recorded := fun j hj =>
    h.refused j hj _ (h.ip i) hcheck
  have hpending : ∀ j, (s'.thread j).Pending → j = i :=
    hmoves.all (P := fun j t => t.Pending → j = i) (fun _ => rfl) fun j hp => absurd hp (hidle j)
  have hrecorded : ∀ j, (s'.thread j).phase ≠ .recorded :=
    hmoves.all (P := fun _ t => t.phase ≠ .recorded) hpassed hunrecorded
  exact {
    ip := fun j => (hmoves.request j).1 ▸ h.ip j
    time := fun j => (hmoves.request j).2 ▸ h.time j
    interval := hmode ▸ h.interval
    addr := fun _ _ => h.addr i (.inl hchecking)
    pending := fun j k hj hk => (hpending j hj).trans (hpending k hk).symm
    unpending := fun j _ hj => absurd hj (hrecorded j)
    once := fun j _ hj => absurd hj (hrecorded j)
    refused := fun j hj => absurd hj (hrecorded j) }

/-- The response of the pending thread is recorded: then none is pending. -/
theorem SoloInvariant.records (h : SoloInvariant a now s) (hmoves : OnlyMoves i s s')
    (hpending : (s.thread i).Pending) (hrecorded : (s'.thread i).phase = .recorded)
    (hmode : s'.daemon.mode = rateLimitUpdate s.daemon.mode (some (s.thread i).data.ip)
      (s.thread i).env.rateUpdateTime) : SoloInvariant a now s' := by
  -- no thread has recorded before this one
  have honly : ∀ j, (s'.thread j).phase = .recorded → j = i :=
    hmoves.all (P := fun j t => t.phase = .recorded → j = i) (fun _ => rfl)
      fun j hj => absurd hpending (h.unpending j i hj)
  -- the recorded thread was the only one that was pending
  have hidle : ∀ j, ¬ (s'.thread j).Pending := by
    intro j hp
    by_cases hj : j = i
    · rw [hj, RequestThread.Pending, hrecorded] at hp
      simp at hp
    · rw [hmoves.other j hj] at hp
      exact hj (h.pending j i hp hpending)
  have haddr : parseIp (some (s.thread i).data.ip) ≠ 0 :=
    (h.ip i).symm ▸ h.addr i (.inr hpending)
  rw [(h.time i).2] at hmode
  exact {
    ip := fun j => (hmoves.request j).1 ▸ h.ip j
    time := fun j => (hmoves.request j).2 ▸ h.time j
    interval := by
      rw [hmode, rateLimitUpdate_config haddr]
      exact h.interval
    addr := fun _ _ => h.addr i (.inr hpending)
    pending := fun j _ hj => absurd hj (hidle j)
    unpending := fun _ j _ => hidle j
    once := fun j k hj hk => (honly j hj).trans (honly k hk).symm
    refused := fun _ _ ip hip =>
      refused_of_update hmode haddr (hip.trans (h.ip i).symm) h.interval }

end

variable [DecidableEq ι]

theorem onlyMoves_step (i : ι) (s : Server ι) : OnlyMoves i s ((ServerMove.thread i).step s) where
  other j hj := Function.update_of_ne hj ..
  request := by
    intro j
    by_cases hj : j = i
    · subst hj
      have hself : ((ServerMove.thread j).step s).thread j = ((s.thread j).step s.daemon).ret :=
        Function.update_self ..
      rw [hself]
      exact (s.thread j).step_request s.daemon
    · have hother : ((ServerMove.thread i).step s).thread j = s.thread j :=
        Function.update_of_ne hj ..
      rw [hother]
      exact ⟨rfl, rfl⟩

theorem SoloInvariant.step {a : UInt32} {now : ℤ} (move : ServerMove ι) (s : Server ι)
    (h : SoloInvariant a now s) (halone : ChecksAlone move s) :
    SoloInvariant a now (move.step s) := by
  -- the rest of the daemon leaves the threads alone; a thread moves by one of the kinds of step
  cases move with
  | outside d =>
    exact h.shrink rfl (fun _ => ⟨rfl, rfl⟩) (fun _ hp => hp) (fun _ hr => hr)
      (fun i hc => h.addr i (.inl hc))
  | thread i =>
    have hmoves := onlyMoves_step i s
    have hstep := (s.thread i).step_cases s.daemon
    set s' := (ServerMove.thread i).step s with hs'
    have hself : s'.thread i = ((s.thread i).step s.daemon).ret := Function.update_self ..
    have hdaemon : s'.daemon = ((s.thread i).step s.daemon).state := rfl
    rw [← hself, ← hdaemon] at hstep
    cases hstep with
    | quiet hmode hidle hnot hunrecorded haddr =>
      exact h.moves hmoves hmode (fun hp => absurd hp hidle) hnot fun hc => h.ip i ▸ haddr hc
    | passes hmode hchecking hcheck hpassed =>
      exact h.passes hmoves hmode hchecking hcheck hpassed (halone hchecking)
    | answers hmode hpending hanswered =>
      refine h.moves hmoves hmode (fun _ => hpending) ?_ fun _ => h.addr i (.inr hpending)
      rw [hanswered]
      nofun
    | records hpending hrecorded hmode => exact h.records hmoves hpending hrecorded hmode
    | rests hthread hd =>
      have hsame : s' = s := by
        show Server.mk _ _ = _
        rw [← hself, ← hdaemon, hthread, hd, Function.update_eq_self]
      rw [hsame]
      exact h

/-- If no thread makes its check while another one has passed it and is not recorded yet, at most
one of the requests of one address in one second is answered. -/
theorem rateConcurrency_atMostOne (moves : List (ServerMove ι)) {s : Server ι} {a : UInt32}
    {now : ℤ} (hstart : SameSecond a now s)
    (halone : Along ServerMove.step ChecksAlone moves s) :
    Along ServerMove.step (fun _ s => AtMostOneAnswered s) moves s ∧
      AtMostOneAnswered (runSteps ServerMove.step moves s) := by
  obtain ⟨halong, hend⟩ := Along.invariant SoloInvariant.step hstart.soloInvariant halone
  exact ⟨halong.mono fun _ _ h => h.atMostOneAnswered, hend.atMostOneAnswered⟩

end

/-- Two requests of the client at `10.0.0.1` at the time 100. -/
def twoRequests : Server (Fin 2) where
  daemon := openServer
  thread _ := ⟨sampleRequest,
    { workingRequestEnv with rateCheckTime := 100, rateUpdateTime := 100 }, .arrived⟩

theorem sameSecond_twoRequests : SameSecond 0x0100000A 100 twoRequests where
  arrived _ := rfl
  ip _ := by
    show parseIp (some sampleRequest.ip) = 0x0100000A
    decide
  time _ := ⟨rfl, rfl⟩
  interval := by decide

/-- One after the other, the first request is answered and the second one refused. -/
theorem rateConcurrency_twoRequests :
    AtMostOneAnswered (runSteps ServerMove.step
      [.thread 0, .thread 0, .thread 0, .thread 0, .thread 1, .thread 1] twoRequests) :=
  (rateConcurrency_atMostOne [.thread 0, .thread 0, .thread 0, .thread 0, .thread 1, .thread 1]
    sameSecond_twoRequests (by decide +kernel)).2

/-- Side by side, both threads make their check before the other one has answered, and both
requests are answered. -/
theorem twoRequests_not_atMostOneAnswered :
    ¬ AtMostOneAnswered (runSteps ServerMove.step
      [.thread 0, .thread 0, .thread 1, .thread 1, .thread 0, .thread 0, .thread 1, .thread 1]
      twoRequests) := by
  intro h
  have hsame := h 0 1 (by decide +kernel) (by decide +kernel)
  exact absurd hsame (by decide)

end Dntpd
