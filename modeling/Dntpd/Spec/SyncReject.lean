import Dntpd.Spec.TimeSync

/-!
# What a rejected reply leaves behind

The server's entry in the peer pool is marked before the reply is parsed, and the leap indicator is
handled before the mode and the timestamps are checked.  A reply that is rejected for these leaves
its traces exactly where one of the two has something to change (`leavesNoTrace_iff`).
-/

namespace Dntpd

open Proc

/-! ### The peer pool -/

/-- The entry is one of the server `ip`, `port`. -/
def PeerState.serves (ip port : CString) (p : PeerState) : Bool :=
  strncmpEq p.ip ip 63 && strncmpEq p.port port 15

/-- No flag changes if the first entry of the server, if there is one, is marked already. -/
theorem map_reachable_markReachable_iff (ip port : CString) (now : ℤ) (pool : List PeerState) :
    (markReachable ip port now pool).map PeerState.reachable = pool.map PeerState.reachable ↔
      ∀ p, pool.find? (PeerState.serves ip port) = some p → p.reachable = true := by
  induction pool with
  | nil => simp [markReachable]
  | cons p ps ih =>
    rw [markReachable, List.find?_cons]
    -- the first entry that serves the address is marked, and those behind it are not looked at
    by_cases hp : strncmpEq p.ip ip 63 = true ∧ strncmpEq p.port port 15 = true
    · have hserves : p.serves ip port = true := by
        rwa [PeerState.serves, Bool.and_eq_true]
      rw [if_pos hp, hserves, List.map_cons, List.map_cons]
      constructor
      · rintro h q ⟨⟩
        exact (List.cons.inj h).1.symm
      · intro h
        rw [h p rfl]
    · have hserves : p.serves ip port = false := by
        rwa [PeerState.serves, Bool.eq_false_iff, ne_eq, Bool.and_eq_true]
      rw [if_neg hp, hserves, List.map_cons, List.map_cons, List.cons_inj_right]
      exact ih

/-! ### The leap-second state -/

/-- The fields a scheduled event consists of. -/
def LeapSecondState.event (s : LeapSecondState) : Bool × UInt8 × ℤ × ℤ :=
  (s.eventScheduled, s.pendingLeapDir, s.pendingOffsetUs, s.eventTime)

/-- A leap indicator changes nothing if it announces nothing, an event is scheduled already, or the
end of the minute is not to be had. -/
theorem event_indicated_iff (s : LeapSecondState) (li : UInt8) (env : LeapScheduleEnv) :
    (s.indicated li env).event = s.event ↔
      ¬ (li = 1 ∨ li = 2) ∨ s.eventScheduled = true ∨
        endOfMinuteTime env.endOfMinuteClock = 0 := by
  unfold LeapSecondState.indicated
  by_cases h : (li = 1 ∨ li = 2) ∧
      ¬ (s.eventScheduled = true ∨ endOfMinuteTime env.endOfMinuteClock = 0)
  · rw [if_pos h]
    refine ⟨fun hevent => ?_, fun hcond => ?_⟩
    · have hscheduled : true = s.eventScheduled := congrArg Prod.fst hevent
      exact absurd (.inl hscheduled.symm) h.2
    · rcases hcond with hli | hcond
      · exact absurd h.1 hli
      · exact absurd hcond h.2
  · rw [if_neg h]
    refine ⟨fun _ => ?_, fun _ => rfl⟩
    rwa [not_and_or, not_not] at h

/-! ### Rejected replies -/

/-- A datagram that is received but does not parse, has the wrong mode or the wrong origin
timestamp, or has no transmit timestamp. -/
structure InvalidReply (port : CString) (env : SyncEnv) (d : Daemon) (dg : Datagram) : Prop where
  received : Received port env d dg
  invalid : (env.parse dg d.ido).ok = false ∨ (env.header dg d.ido).mode ≠ 4 ∨
    (env.header dg d.ido).origTs ≠ ntpTimestampNow env.t1Clock ∨
    (env.header dg d.ido).xmitTs = ⟨0, 0⟩

/-- The event sets the system clock or its rate. -/
def Event.SetsClock : Event → Prop
  | .clockSettime _ _ _ => True
  | .adjtime _ _ _ => True
  | .adjtimex _ _ => True
  | _ => False

/-- A run that returns -1 and leaves the clock, the leap second, the frequency, the samples, the
globals and the reachable flags of the peers as they were. -/
structure Untouched (before : Daemon) (o : Outcome Daemon Event ℤ) : Prop where
  ret : o.ret = -1
  event : o.state.leap.event = before.leap.event
  clock : ∀ e ∈ o.trace, ¬ e.SetsClock
  freq : o.state.freq = before.freq
  samples : o.state.samples = before.samples
  g : o.state.g = before.g
  reachable : o.state.peerPool.map PeerState.reachable = before.peerPool.map PeerState.reachable

/-- An invalid reply leaves no trace. -/
def LeavesNoTrace (ip port : CString) (env : SyncEnv) (d : Daemon) (dg : Datagram) : Prop :=
  InvalidReply port env d dg → Untouched d (syncNtpTime (some ip) (some port) env d)

/-- The pool has no flag to set for the server. -/
def KnownReachable (ip port : CString) (pool : List PeerState) : Prop :=
  ∀ p, pool.find? (PeerState.serves ip port) = some p → p.reachable = true

/-- The datagram announces no leap second that could be scheduled. -/
def NothingToSchedule (env : SyncEnv) (d : Daemon) (dg : Datagram) : Prop :=
  (env.parse dg d.ido).ok = false ∨
    ¬ ((env.header dg d.ido).li = 1 ∨ (env.header dg d.ido).li = 2) ∨
    d.leap.eventScheduled = true ∨ endOfMinuteTime env.leapSchedule.endOfMinuteClock = 0

theorem ExchangeTrace.not_setsClock {tr : List Event} (h : ExchangeTrace tr) :
    ∀ e ∈ tr, ¬ e.SetsClock := by
  intro e he hclock
  have hexchange := h.events e he
  cases e <;> first | exact hclock | exact hexchange

/-- A run whose trace is that of an exchange, and that left the state of `d` with another pool and
another leap-second state, left no trace if these two show none. -/
theorem untouched_iff_of_exchange {d : Daemon} (pool : List PeerState) (leap : LeapSecondState)
    {o : Outcome Daemon Event ℤ} (hret : o.ret = -1)
    (hstate : o.state.eraseSocket = { d with peerPool := pool, leap := leap }.eraseSocket)
    (htrace : ExchangeTrace o.trace) :
    Untouched d o ↔ leap.event = d.leap.event ∧
      pool.map PeerState.reachable = d.peerPool.map PeerState.reachable := by
  -- what the exchange cannot change is the same by its frame
  have hleap : o.state.leap = leap := (congrArg Daemon.leap hstate :)
  have hpool : o.state.peerPool = pool := (congrArg Daemon.peerPool hstate :)
  constructor
  · intro h
    exact ⟨hleap ▸ h.event, hpool ▸ h.reachable⟩
  · rintro ⟨hevent, hreachable⟩
    exact {
      ret := hret
      event := hleap ▸ hevent
      clock := htrace.not_setsClock
      freq := (congrArg Daemon.freq hstate :)
      samples := (congrArg Daemon.samples hstate :)
      g := (congrArg Daemon.g hstate :)
      reachable := hpool ▸ hreachable }

/-- What an invalid reply leaves. -/
theorem InvalidReply.untouched_iff {ip port : CString} {env : SyncEnv} {d : Daemon} {dg : Datagram}
    (h : InvalidReply port env d dg) :
    Untouched d (syncNtpTime (some ip) (some port) env d) ↔
      KnownReachable ip port d.peerPool ∧ NothingToSchedule env d dg := by
  have hdg : ∀ dg', Received port env d dg' → dg' = dg := fun dg' h' =>
    Except.ok.inj (h'.datagram.symm.trans h.received.datagram)
  -- an invalid reply that is received fails to parse, or one of the checks rejects it
  cases syncNtpTime_cases ip port env d with
  | unreceived hnot => exact absurd h.received (hnot dg)
  | unparsed dg' hreceived hparse hret hstate htrace =>
    obtain rfl := hdg dg' hreceived
    rw [untouched_iff_of_exchange (d.marked ip port env).peerPool d.leap hret hstate htrace,
      Daemon.marked, map_reachable_markReachable_iff]
    exact ⟨fun hu => ⟨hu.2, .inl hparse⟩, fun hc => ⟨rfl, hc.1⟩⟩
  | rejected dg' hreceived hparse hchecks sock exit change hexit hret hstate htrace =>
    obtain rfl := hdg dg' hreceived
    have hinvalid := h.invalid.resolve_left fun hfalse =>
      Bool.false_ne_true (hfalse.symm.trans hparse)
    -- the exits that change the globals come behind the checks that this reply fails
    obtain rfl : change = id := by
      cases hexit with
      | reject => rfl
      | demote change hchange hvalid =>
        obtain ⟨hmode, horig, hxmit⟩ := hvalid
        rcases hinvalid with hmode' | horig' | hxmit'
        · exact absurd hmode hmode'
        · exact absurd horig horig'
        · exact absurd hxmit' hxmit
    rw [untouched_iff_of_exchange (d.marked ip port env).peerPool
      (d.leap.indicated (env.header dg' d.ido).li env.leapSchedule) hret hstate htrace,
      Daemon.marked, map_reachable_markReachable_iff, event_indicated_iff]
    unfold NothingToSchedule KnownReachable
    rw [hparse]
    simp [and_comm]
  | accepted dg' delayUs offsetUs haccepted =>
    obtain rfl := hdg dg' haccepted.received
    rcases h.invalid with hparse | hmode | horig | hxmit
    · exact absurd (hparse.symm.trans haccepted.parses) Bool.false_ne_true
    · exact absurd haccepted.checks.mode hmode
    · exact absurd haccepted.checks.origTs horig
    · exact absurd hxmit haccepted.checks.xmitTs

/-- An invalid reply leaves no trace exactly when the pool has no flag to set for the server and the
datagram announces no leap second that could be scheduled. -/
theorem leavesNoTrace_iff (ip port : CString) (env : SyncEnv) (d : Daemon) (dg : Datagram) :
    LeavesNoTrace ip port env d dg ↔
      ¬ InvalidReply port env d dg ∨
        KnownReachable ip port d.peerPool ∧ NothingToSchedule env d dg := by
  unfold LeavesNoTrace
  by_cases h : InvalidReply port env d dg
  · rw [h.untouched_iff]
    simp [h]
  · simp [h]

/-- An attempt in which every call succeeds and `reply` is received 1 ms after the request. -/
def workingSyncEnv (reply : List UInt8) : SyncEnv where
  socket := ⟨⟨.ok 5, .ok (), .ok ()⟩, .ok ()⟩
  getaddrinfo := .ok 0x0100000A
  setsockopt := .ok ()
  t1Clock := sampleTime
  sendto := .ok ()
  recvfrom := .ok (Datagram.ofList reply)
  peerTime := 1700000000
  t4Clock := .ok ⟨1700000000, 1000000, by decide⟩
  stalePkt := NtpPacket.zero
  leapSchedule := ⟨sampleTime, 1700000000⟩
  gettimeofday := .ok ⟨1700000000, 1000, by decide⟩
  correction := ⟨sampleTime, .ok (), .ok ()⟩
  freq := ⟨1700000000, .ok ⟨0, 0⟩, .ok ()⟩
  dispersionTime := 1700000000
  leapCheck := ⟨⟨1700000000, some 2023, .ok (), .ok (), none, ⟨sampleTime, 1700000000⟩⟩, 1700000000,
    ⟨1700000000, ⟨sampleTime, .ok (), .ok ()⟩⟩⟩

/-- The reply is received if the socket is to be had. -/
theorem received_workingSyncEnv {reply : List UInt8} {d : Daemon} (herrno : d.errno = 0)
    (hsocket : SyncSocketReady (workingSyncEnv reply).socket d) (hreply : 0 < reply.length) :
    Received "123".toList (workingSyncEnv reply) d (Datagram.ofList reply) where
  sent := ⟨herrno, hsocket, by decide, by decide, rfl, rfl, rfl⟩
  datagram := rfl
  nonempty := hreply

/-- A daemon whose pool has one server, not reached so far. -/
def unreachedDaemon : Daemon :=
  { Daemon.init with peerPool := [⟨"10.0.0.1".toList, "123".toList, 0, 0, 0, 0, 0, 0, false⟩] }

/-- A reply of the server's mode that announces a leap second, without any timestamp. -/
def leapReply : List UInt8 := [0x64, 1] ++ List.replicate 46 0

/-- The reply is rejected for its timestamps, but not without a trace. -/
theorem unreachedDaemon_not_leavesNoTrace :
    InvalidReply "123".toList (workingSyncEnv leapReply) unreachedDaemon
        (Datagram.ofList leapReply) ∧
      ¬ LeavesNoTrace "10.0.0.1".toList "123".toList (workingSyncEnv leapReply) unreachedDaemon
        (Datagram.ofList leapReply) := by
  have hok : ((workingSyncEnv leapReply).parse (Datagram.ofList leapReply)
      unreachedDaemon.ido).ok = true :=
    (parseNtpPacket_ok_iff _ _ _ _).mpr (by decide)
  have hheader : (workingSyncEnv leapReply).header (Datagram.ofList leapReply)
      unreachedDaemon.ido = readHeader (Mem.ofList leapReply) := parseNtpPacket_toNtpHeader hok
  have hinvalid : InvalidReply "123".toList (workingSyncEnv leapReply) unreachedDaemon
      (Datagram.ofList leapReply) := by
    refine ⟨received_workingSyncEnv rfl (.inr ⟨rfl, rfl, fun _ => rfl, rfl⟩) (by decide),
      .inr (.inr (.inr ?_))⟩
    rw [hheader]
    decide
  refine ⟨hinvalid, fun h => ?_⟩
  have hknown := (hinvalid.untouched_iff.mp (h hinvalid)).1
  exact absurd (hknown _ rfl) (by decide)

end Dntpd
