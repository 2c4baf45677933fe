import Dntpd.Spec.LockOrder
import Dntpd.Spec.ModeLocks
import Dntpd.Spec.SyncAccept
import Mathlib.Data.Fintype.EquivFin
import Mathlib.Order.Fin.Basic

/-!
# The threads of the daemon do not deadlock with one another

The threads synchronise, answer requests, correct the clock and set up or shut down the mode
handler, in any number and order, and each call finds the daemon in any state.  The mutexes are
`g_mutex`, `g_mode_mutex`, `g_leap_second_mutex`, `g_tcp_sock_mutex` and the `sock_mutex` of each
peer, and not the `clock_mutex` that the clock thread waits on.  In every interleaving of them,
whoever waits for a mutex waits in the end for a thread that can go on, or for one that waits for
itself; and a thread that waits for itself has accepted a reply or shuts down the mode handler
(`threads_deadlock_alone`).
-/

namespace Dntpd

open Proc LockOrder

/-! ### Synchronisation -/

section

variable {r : MutexRule}

theorem closeSocket_inMutexOrder (sock : ℤ) : InMutexOrder r ∅ (closeSocket sock) := by
  refine inMutexOrder_section Admits.empty (.bind .read fun d => mutexOrder_unlock ?_)
  exact .ite (inMutexOrder_emit rfl) (.pure _)

theorem rejectReply_inMutexOrder (sock : ℤ) : InMutexOrder r ∅ (rejectReply sock) :=
  .bind (closeSocket_inMutexOrder sock) fun _ => .pure _

theorem demoteReply_inMutexOrder (sock : ℤ) (change : Globals → Globals) :
    InMutexOrder r ∅ (demoteReply sock change) := by
  refine inMutexOrder_section Admits.empty (.bind (.update _) fun _ => mutexOrder_unlock ?_)
  exact rejectReply_inMutexOrder sock

theorem createSocket_inMutexOrder {held : Set Mutex} (env : SocketEnv) :
    InMutexOrder r held (network4CreateSocket env) ∧
      InMutexOrder r held (network6CreateSocket env) :=
  ⟨.of_frame (network4CreateSocket_frame env) nofun,
    .of_frame (network6CreateSocket_frame env) nofun⟩

theorem readTimestampNow_inMutexOrder {held : Set Mutex} (clock : Except Errno Timespec) :
    InMutexOrder r held (readTimestampNow clock) :=
  .bind (inMutexOrder_sys _) fun _ => .pure _

theorem sendto_inMutexOrder {held : Set Mutex} (sender : Sender) (bytes : List UInt8)
    (dest : SockAddrIn) (sent : Except Errno Unit) :
    InMutexOrder r held (sendto sender bytes dest sent) :=
  .bind (inMutexOrder_sys _) fun _ => .bind (inMutexOrder_emit rfl) fun _ => .pure _

theorem sendToPort_inMutexOrder (sock portNum : ℤ) (env : SyncEnv) :
    InMutexOrder r ∅ (sendToPort sock portNum env) := by
  have hclose : InMutexOrder r ∅ (do
      closeSocket sock
      return none : DProc (Option (ℤ × NtpTimestamp))) :=
    .bind (closeSocket_inMutexOrder sock) fun _ => .pure _
  have hresolve : InMutexOrder r ∅ (getaddrinfo env.getaddrinfo) := by
    unfold getaddrinfo
    cases env.getaddrinfo with
    | ok addr => exact .pure _
    | error e => exact .bind (.update _) fun _ => .pure _
  refine .bind hresolve fun addr => ?_
  cases addr with
  | none => exact .pure _
  | some addr =>
    refine .bind (inMutexOrder_sys _) fun timeout => ?_
    cases timeout with
    | error e => exact hclose
    | ok =>
      refine .bind (readTimestampNow_inMutexOrder _) fun t1 => .bind .read fun d => ?_
      exact .bind (sendto_inMutexOrder _ _ _ _) fun sent => .ite hclose (.pure _)

theorem sendSyncRequest_inMutexOrder (port : CString) (env : SyncEnv) :
    InMutexOrder r ∅ (sendSyncRequest port env) := by
  have hsocket : InMutexOrder r ∅ (getSyncSocket env.socket) := by
    have hstore : ∀ sock : ℤ, InMutexOrder r ∅ (do
        Proc.update fun d => { d with socket := { d.socket with syncSock := sock } }
        if sock < 0 then return -1
        else
          let _ ← sys env.socket.reuseaddr
          return sock : DProc ℤ) := fun sock =>
      .bind (.update _) fun _ => .ite (.pure _) (.bind (inMutexOrder_sys _) fun _ => .pure _)
    have hcreate := @createSocket_inMutexOrder r ∅ env.socket.create
    refine .bind .read fun d => .ite (.pure _) ?_
    exact .ite (.bind hcreate.2 hstore) (.bind hcreate.1 hstore)
  refine .bind hsocket fun sock => .ite (.pure _) ?_
  refine .bind (.update _) fun _ => .bind .read fun d => .ite (.pure _) ?_
  exact sendToPort_inMutexOrder sock _ env

theorem filterReply_inMutexOrder (delayUs : UInt64) (offsetUs : ℤ)
    (time : Except Errno Timeval) : InMutexOrder r ∅ (filterReply delayUs offsetUs time) := by
  -- the sample is stored under `g_mutex`, and only if the clock could be read
  have hadd : InMutexOrder r ∅ (addSyncSample delayUs offsetUs time) := by
    refine .bind (inMutexOrder_sys _) fun tv => ?_
    cases tv with
    | error e => exact .pure _
    | ok tv =>
      refine inMutexOrder_section Admits.empty (.bind (.update _) fun _ => ?_)
      exact mutexOrder_exit ()
  have hremove : ∀ i, InMutexOrder r ∅ (marxRemoveSample i) := by
    intro i
    refine .bind .read fun d => .ite ?_ (.pure _)
    refine inMutexOrder_section Admits.empty (.bind (.update _) fun _ => ?_)
    exact mutexOrder_exit ()
  -- each turn of the loop copies an entry or removes one
  have hloop : ∀ threshold n i filtered,
      InMutexOrder r ∅ (marxFilterLoop threshold n i filtered) := by
    intro threshold n
    induction n with
    | zero => exact fun _ _ => .pure _
    | succ n ih =>
      intro i filtered
      refine .bind (.bind .read fun d => .ite ?_ ?_) fun _ => ih _ _
      · exact .bind (.update _) fun _ => .pure _
      · exact .bind (hremove i) fun _ => .pure _
  refine .bind hadd fun _ => .bind .read fun d => .ite (.pure _) (.bind .read fun d => ?_)
  exact .bind (hloop _ _ _ _) fun _ => .pure _

end

/-- The jitter is computed from what is read in one section. -/
theorem ntpOffsetJitter_inMutexOrder {r : MutexRule} {held : Set Mutex}
    (h : Admits r held .gMutex) : InMutexOrder r held ntpOffsetJitterUsLocked :=
  inMutexOrder_section h
    (.bind .read fun _ => mutexOrder_unlock (.ite (.pure _) (.pure _)))

/-- The jitter is asked for inside the section. -/
theorem updateFrequencyDiscipline_inMutexOrder (offsetUs pollExp : ℤ) (env : FreqEnv) :
    InMutexOrder NestedRule ∅ (updateFrequencyDiscipline offsetUs pollExp env) := by
  have hadjtime : ∀ {held : Set Mutex} ppm,
      InMutexOrder NestedRule held (applyFreqAdjtime ppm env) := fun ppm =>
    .bind (inMutexOrder_sys _) fun _ => .bind (inMutexOrder_emit rfl) fun _ => .pure _
  have hadjtimex : ∀ {held : Set Mutex} ppm,
      InMutexOrder NestedRule held (applyFreqAdjtimex ppm env) := by
    intro held ppm
    refine .bind (inMutexOrder_sys _) fun c => .bind (inMutexOrder_emit rfl) fun _ => ?_
    cases c with
    | error e => exact .pure _
    | ok answer => exact .pure _
  have happly : ∀ {held : Set Mutex} ppm,
      InMutexOrder NestedRule held (applyFrequencyAdjustment ppm env) := fun ppm =>
    .ite (.pure _) (.bind (hadjtimex _) fun _ =>
      .ite (.bind (.update _) fun _ => .pure _) (hadjtime _))
  refine .bind (inMutexOrder_emit rfl) fun _ => inMutexOrder_section Admits.empty ?_
  refine .bind (ntpOffsetJitter_inMutexOrder (nestedRule_same _)) fun _ => ?_
  refine .bind (.bind (.update _) fun _ => .bind .read fun d => happly _) fun _ => ?_
  exact mutexOrder_exit _

/-- The last section takes its mutex twice more. -/
theorem recordSync_inMutexOrder (ip : CString) (pkt : NtpHeader) (t4 : NtpTimestamp)
    (delayUs : UInt64) (offsetUs : ℤ) (env : SyncEnv) :
    InMutexOrder NestedRule ∅ (recordSync ip pkt t4 delayUs offsetUs env) := by
  have hdisp : ∀ disp off jitter, InMutexOrder NestedRule (insert .gMutex ∅)
      (updateRootDispersion disp off jitter env.dispersionTime) := by
    intro disp off jitter
    refine inMutexOrder_section (nestedRule_same _) (.bind .read fun d => ?_)
    exact .bind (.update _) fun _ => mutexOrder_unlock (.ite (.pure _) (.pure _))
  refine inMutexOrder_section Admits.empty (.bind (.update _) fun _ => ?_)
  refine .bind (ntpOffsetJitter_inMutexOrder (nestedRule_same _)) fun _ => .bind .read fun d => ?_
  refine .bind (hdisp _ _ _) fun _ => .bind (.update _) fun _ => .bind (.update _) fun _ => ?_
  exact mutexOrder_exit ()

theorem finishSync_inMutexOrder (ip : CString) (sock : ℤ) (pkt : NtpHeader) (t4 : NtpTimestamp)
    (delayUs : UInt64) (offsetUs : ℤ) (validCount : ℕ) (env : SyncEnv) :
    InMutexOrder NestedRule ∅ (finishSync ip sock pkt t4 delayUs offsetUs validCount env) := by
  have hcorrect : InMutexOrder NestedRule ∅ (correctClock offsetUs env) :=
    .bind (applyTimeCorrection_inMutexOrder Admits.empty _ _ _) fun _ => .bind .read fun d =>
      .bind (updateFrequencyDiscipline_inMutexOrder _ _ _) fun _ => .pure _
  have hunlock : InMutexOrder NestedRule ∅ (unlock .gMutex) :=
    InOrder.mono (.release rfl) Set.sdiff_subset
  have hrecord : InMutexOrder NestedRule ∅ (do
      recordSync ip pkt t4 delayUs offsetUs env
      let _ ← leapSecondIntegrationCheck env.leapCheck
      closeSocket sock
      return 0 : DProc ℤ) :=
    .bind (recordSync_inMutexOrder _ _ _ _ _ _) fun _ =>
      .bind (leapSecondIntegrationCheck_inMutexOrder _) fun _ =>
        .bind (closeSocket_inMutexOrder _) fun _ => .pure _
  refine .bind (.update _) fun _ => .bind hunlock fun _ => ?_
  exact .ite (.bind hcorrect fun _ => hrecord) hrecord

section

variable {r : MutexRule} {E : Event → Prop}
  (hfinish : ∀ ip sock pkt t4 delayUs offsetUs validCount env, validCount ≠ 0 →
    TidyUnless Event.mutexOp r E
      (finishSync ip sock pkt t4 delayUs offsetUs validCount env))

include hfinish

/-- An attempt keeps a rule unless its end does not. -/
theorem syncNtpTime_tidyUnless (ip port : Option CString) (env : SyncEnv) :
    TidyUnless Event.mutexOp r E (syncNtpTime ip port env) := by
  -- from the exits back to the entry, as the function falls through its checks
  have hreject : ∀ sock, TidyUnless Event.mutexOp r E (rejectReply sock) :=
    fun sock => .of_inOrder (rejectReply_inMutexOrder sock)
  have hdemote : ∀ sock change,
      TidyUnless Event.mutexOp r E (demoteReply sock change) :=
    fun sock change => .of_inOrder (demoteReply_inMutexOrder sock change)
  have haccept : ∀ ip sock pkt t4 delayUs offsetUs, TidyUnless Event.mutexOp r E
      (acceptReply ip sock pkt t4 delayUs offsetUs env) := fun ip sock pkt t4 delayUs offsetUs =>
    .bind (filterReply_inMutexOrder _ _ _) fun validCount =>
      .ite_of_not (hdemote _ _) fun hkept => hfinish _ _ _ _ _ _ _ _ hkept
  have htimes : ∀ ip sock t1 t4 pkt, TidyUnless Event.mutexOp r E
      (checkTimes ip sock t1 t4 pkt env) := by
    intro ip sock t1 t4 pkt
    refine .ite (hreject _) ?_
    split
    · exact hreject _
    · exact .ite (hdemote _ _) (.ite (hdemote _ _) (.ite (hdemote _ _) (haccept _ _ _ _ _ _)))
  have hcheck : ∀ ip sock t1 t4 pkt, TidyUnless Event.mutexOp r E
      (checkReply ip sock t1 t4 pkt env) := by
    intro ip sock t1 t4 pkt
    refine .bind (handleLeapIndicator_inMutexOrder Admits.empty _ _) fun skip => ?_
    refine .ite (hreject _) (.ite (hreject _) (.ite (hreject _) (.ite (hreject _) ?_)))
    exact htimes ip sock t1 t4 pkt
  have hprocess : ∀ ip port sock t1 buffer recvLen, TidyUnless Event.mutexOp r E
      (processReply ip port sock t1 buffer recvLen env) := by
    intro ip port sock t1 buffer recvLen
    have hmark : InMutexOrder r ∅ (do
        lock .gMutex
        Proc.update fun d => { d with peerPool := markReachable ip port env.peerTime d.peerPool }
        unlock .gMutex) :=
      -- the section that marks the server reachable takes no other mutex
      inMutexOrder_section Admits.empty (.bind (.update _) fun _ => mutexOrder_exit ())
    show TidyUnless _ _ _ ((do
        lock .gMutex
        Proc.update fun d => { d with peerPool := markReachable ip port env.peerTime d.peerPool }
        unlock .gMutex : DProc Unit) >>= fun _ => _)
    refine .bind hmark fun _ => .bind (readTimestampNow_inMutexOrder _) fun t4 => ?_
    refine .bind .read fun d => .bind (.update _) fun _ => .ite (hreject _) (hcheck _ _ _ _ _)
  cases ip with
  | none => exact .of_inOrder (.pure _)
  | some ip =>
    cases port with
    | none => exact .of_inOrder (.pure _)
    | some port =>
      refine .bind (sendSyncRequest_inMutexOrder port env) fun request => ?_
      cases request with
      | none => exact .of_inOrder (.pure _)
      | some request =>
        refine .bind (inMutexOrder_sys _) fun received => ?_
        cases received with
        | error e => exact hreject _
        | ok dg => exact .ite (hprocess _ _ _ _ _ _) (hreject _)

end

/-! ### Requests and the clock thread -/

section

variable {r : MutexRule}

theorem handlePeerRequest_inMutexOrder (buffer : Mem) (size : ℕ) (peerIdx : ℤ)
    (env : PeerReplyEnv) : InMutexOrder r ∅ (handlePeerRequest buffer size peerIdx env) := by
  have hreply : ∀ idx pkt, InMutexOrder r ∅ (sendPeerReply idx pkt env) := by
    intro idx pkt
    refine inMutexOrder_section Admits.empty (.bind .read fun d => .ite ?_ (mutexOrder_exit _))
    refine .bind (readTimestampNow_inMutexOrder _) fun now => ?_
    exact .bind (sendto_inMutexOrder _ _ _ _) fun ret => mutexOrder_exit _
  unfold handlePeerRequest
  split_ifs
  · exact .pure _
  · exact .bind .read fun d => .bind (.update _) fun _ =>
      .ite (.pure _) (.ite (.pure _) (hreply _ _))
  · exact .pure _

theorem admitRequest_inMutexOrder (buffer : Mem) (size : ℕ) (ip : CString) (pkt : NtpHeader)
    (env : RequestEnv) : InMutexOrder r ∅ (admitRequest buffer size ip pkt env) := by
  have hmode : Admits r ∅ .gModeMutex := Admits.empty
  have hcontrol : InMutexOrder r ∅ (controlAllowed pkt.mode) :=
    .ite (withConfig_inMutexOrder hmode fun _ => .pure _) (.pure _)
  refine .ite (.pure _) (.bind (validatePacketAuthentication_inMutexOrder hmode _ _) fun auth => ?_)
  refine .ite (.pure _) (.bind hcontrol fun control => .ite (.pure _) ?_)
  refine .bind (aclCheckClient_inMutexOrder hmode _ _) fun acl => .ite (.pure _) ?_
  refine .bind (rateLimitCheck_inMutexOrder hmode _ _) fun rate => .ite (.pure _) ?_
  refine .bind .read fun d => ?_
  split
  · exact .pure _
  · exact .bind (validatePacketMode_inMutexOrder hmode _ _ _) fun _ => .pure _

theorem deliverResponse_inMutexOrder (responseMode : UInt8) (ip port : CString)
    (response : List UInt8) (env : RequestEnv) :
    InMutexOrder r ∅ (deliverResponse responseMode ip port response env) := by
  have hclose : ∀ sock, InMutexOrder r ∅ (network4CloseSocket sock) := fun sock =>
    .ite (inMutexOrder_emit rfl) (.pure _)
  have hsend : ∀ sender sock bytes dest sent,
      InMutexOrder r ∅ (network4Sendto sender sock bytes dest sent) := fun _ _ _ _ _ =>
    .ite (.pure _) (sendto_inMutexOrder _ _ _ _)
  have hbroadcast : InMutexOrder r ∅ (sendBroadcastResponse response env.broadcast) := by
    refine .bind .read fun d => .ite (.pure _) (.ite (.pure _) ?_)
    refine .bind (createSocket_inMutexOrder _).1 fun sock => .ite (.pure _) ?_
    refine .bind (inMutexOrder_sys _) fun enabled => ?_
    cases enabled with
    | error e => exact .bind (hclose sock) fun _ => .pure _
    | ok =>
      refine .bind (hsend _ _ _ _ _) fun sent => .bind (hclose sock) fun _ => .ite (.pure _) ?_
      exact .bind (.update _) fun _ => .pure _
  -- the answer, and in broadcast mode the copy behind it, are sent without a mutex
  refine .bind (.update _) fun _ => ?_
  split
  · exact .pure _
  · refine .bind (createSocket_inMutexOrder _).1 fun sock => .ite (.pure _) ?_
    refine .bind (hsend _ _ _ _ _) fun sent => .bind (hclose sock) fun _ => .ite (.pure _) ?_
    exact .ite (.bind hbroadcast fun _ => .update _) (.update _)

theorem clockThreadMain_inMutexOrder (serverCount : ℕ) (ctx : ClockThreadContext)
    (envs : List ClockThreadEnv) : InMutexOrder r ∅ (clockThreadMain serverCount ctx envs) := by
  have hwait : ∀ intervalMs env, InMutexOrder r ∅ (clockThreadWait intervalMs env) := by
    intro intervalMs env
    refine .bind (inMutexOrder_sys _) fun clock => ?_
    cases clock with
    | error e => exact .pure _
    | ok now => exact .pure _
  have hiteration : ∀ ctx env, InMutexOrder r ∅ (clockThreadIteration ctx env) := by
    intro ctx env
    refine .bind (inMutexOrder_sys _) fun time => ?_
    cases time with
    | error e => exact .pure _
    | ok tv =>
      -- the section under `g_mutex` reads the offset, and the clock is set outside it
      refine inMutexOrder_section Admits.empty (.bind .read fun d => mutexOrder_unlock ?_)
      refine .bind (applyTimeCorrection_inMutexOrder Admits.empty _ _ _) fun correction => ?_
      exact .bind (hwait _ _) fun _ => .pure _
  have hloop : ∀ ctx, InMutexOrder r ∅ (clockThreadLoop ctx envs) := by
    induction envs with
    | nil => exact fun _ => .pure _
    | cons env envs ih =>
      exact fun ctx => .ite (.bind (hiteration ctx env) fun c => .ite (ih _) (.pure _)) (.pure _)
  exact .ite (.pure _) (hloop ctx)

variable (hnested : r .gMutex .gModeMutex)

include hnested

theorem handlePeerRequestThread_inMutexOrder (data : PeerRequestData) (env : RequestEnv) :
    InMutexOrder r ∅ (handlePeerRequestThread data env) := by
  -- the defaults are asked for inside a section of `g_mutex`
  have hmode : Admits r (insert .gMutex ∅) .gModeMutex := Admits.empty.insert hnested
  have hdefault : ∀ {α : Type} (f : Daemon → α), InMutexOrder r (insert .gMutex ∅) (do
      lock .gModeMutex
      let d ← Proc.read
      unlock .gModeMutex
      return f d) := fun f => inMutexOrder_read hmode f
  have hsend : ∀ responseMode ip port pkt,
      InMutexOrder r ∅ (sendResponse responseMode ip port pkt env) := by
    intro responseMode ip port pkt
    refine .bind (readTimestampNow_inMutexOrder _) fun t2 => inMutexOrder_section Admits.empty ?_
    refine .bind .read fun d => .bind (hdefault _) fun stratum => .bind (hdefault _) fun refId => ?_
    refine .bind (hdefault _) fun li => mutexOrder_unlock ?_
    refine .bind (readTimestampNow_inMutexOrder _) fun t3 => ?_
    exact deliverResponse_inMutexOrder _ _ _ _ _
  unfold handlePeerRequestThread
  split
  · exact .pure _
  · refine .ite (.pure _) (.ite (.pure _) (.bind .read fun d => .bind (.update _) fun _ => ?_))
    refine .ite (.pure _) (.bind (admitRequest_inMutexOrder _ _ _ _ _) fun mode => ?_)
    cases mode with
    | none => exact .pure _
    | some responseMode =>
      refine .ite (.pure _) ?_
      refine .bind (handleLeapIndicator_inMutexOrder Admits.empty _ _) fun skip => ?_
      exact .ite (.pure _) (hsend _ _ _ _)

end

/-! ### The threads -/

/-- What a thread of the daemon calls. -/
inductive ThreadCall
  | syncNtpTime (a : SyncAttempt)
  | handlePeerRequest (buffer : Mem) (size : ℕ) (peerIdx : ℤ) (env : PeerReplyEnv)
  | handlePeerRequestThread (data : PeerRequestData) (env : RequestEnv)
  | clockThreadMain (serverCount : ℕ) (ctx : ClockThreadContext) (envs : List ClockThreadEnv)
  | modeHandler (c : ModeHandlerCall)

namespace ThreadCall

/-- The events of the call, if it finds the daemon `d`. -/
def trace : ThreadCall → Daemon → List Event
  | syncNtpTime a, d => (a.run d).trace
  | handlePeerRequest buffer size peerIdx env, d =>
    (Dntpd.handlePeerRequest buffer size peerIdx env d).trace
  | handlePeerRequestThread data env, d => (Dntpd.handlePeerRequestThread data env d).trace
  | clockThreadMain serverCount ctx envs, d =>
    (Dntpd.clockThreadMain serverCount ctx envs d).trace
  | modeHandler c, d => (c.run d).trace

/-- The call accepts a reply, or counts the entries of the access control list inside its own
section. -/
def TakesTwice : ThreadCall → Daemon → Prop
  | syncNtpTime a, d => ∃ offsetUs, a.Justifies d offsetUs
  | modeHandler c, _ => c.CountsEntriesLocked
  | _, _ => False

/-- The end of an attempt asks for the correction of the reply that it accepted. -/
def Corrects (e : Event) : Prop :=
  ∃ offsetUs, e = .applyTimeCorrectionSlewOrStep .syncNtpTime offsetUs

theorem modeHandler_inMutexOrder {r : MutexRule} {c : ModeHandlerCall}
    (h : ¬ c.CountsEntriesLocked) : InMutexOrder r ∅ c.run := by
  -- what a call returns plays no part
  have hdrop : ∀ {α : Type} {p : DProc α}, InMutexOrder r ∅ p →
      InMutexOrder r ∅ (do let _ ← p) := fun hp => .bind hp fun _ => .pure _
  have hmode : Admits r ∅ .gModeMutex := Admits.empty
  cases c with
  | modeHandlerInit => exact hdrop (inMutexOrder_update hmode _ _)
  | modeHandlerCleanup => exact absurd trivial h
  | modeHandlerSetConfig config =>
    obtain rfl : config = none := not_not.mp h
    exact hdrop (.pure _)
  | modeHandlerGetConfig config =>
    cases config with
    | none => exact hdrop (.pure _)
    | some config => exact hdrop (withConfig_inMutexOrder hmode fun _ => .pure _)
  | aclAddEntry network flags => exact hdrop (aclAddEntry_inMutexOrder hmode network flags)
  | aclRemoveEntry network => exact hdrop (aclRemoveEntry_inMutexOrder hmode network)
  | aclClearEntries => exact hdrop (aclClearEntries_inMutexOrder hmode)
  | aclGetEntryCount => exact hdrop (aclGetEntryCount_inMutexOrder hmode)
  | aclCheckClient ip mode => exact hdrop (aclCheckClient_inMutexOrder hmode ip mode)
  | aclGetClientFlags ip => exact hdrop (aclGetClientFlags_inMutexOrder hmode ip)
  | rateLimitCheck ip now => exact hdrop (rateLimitCheck_inMutexOrder hmode ip now)
  | rateLimitUpdate ip now => exact .update _
  | rateLimitCleanup => exact rateLimitCleanup_inMutexOrder hmode
  | modeGetDefaultLi => exact hdrop (inMutexOrder_read hmode _)
  | modeGetDefaultStratum => exact hdrop (inMutexOrder_read hmode _)
  | modeGetDefaultRefId => exact hdrop (inMutexOrder_read hmode _)
  | validatePacketMode mode req resp =>
    exact hdrop (validatePacketMode_inMutexOrder hmode mode req resp)
  | validateNtpVersion version => exact .pure _
  | modeHandlerParseConfig file env =>
    exact hdrop (modeHandlerParseConfig_inMutexOrder hmode file env)
  | validatePacketAuthentication buffer size =>
    exact hdrop (validatePacketAuthentication_inMutexOrder hmode buffer size)
  | checkPanicCondition offset => exact hdrop (checkPanicCondition_inMutexOrder hmode offset)

/-- A call that takes no mutex twice takes only `g_mode_mutex` inside a section. -/
theorem tidy_of_not {c : ThreadCall} {d : Daemon} (h : ¬ c.TakesTwice d) :
    Tidy Event.mutexOp (Inside Mutex.rank) (c.trace d) := by
  cases c with
  | syncNtpTime a =>
    have hattempt : TidyUnless Event.mutexOp (Inside Mutex.rank) Corrects a.run :=
      syncNtpTime_tidyUnless (fun ip sock pkt t4 delayUs offsetUs validCount env hkept d =>
        .inr ⟨_, mem_trace_finishSync ip sock pkt t4 delayUs offsetUs env hkept d, _, rfl⟩) _ _ _
    refine (hattempt d).resolve_right ?_
    rintro ⟨_, he, offsetUs, rfl⟩
    exact h ⟨offsetUs, (a.step d).1.correction offsetUs he⟩
  | handlePeerRequest buffer size peerIdx env =>
    exact (handlePeerRequest_inMutexOrder buffer size peerIdx env).tidy d
  | handlePeerRequestThread data env =>
    have hnested : Inside Mutex.rank .gMutex .gModeMutex := show (0 : Fin 2) < 1 by decide
    exact (handlePeerRequestThread_inMutexOrder hnested data env).tidy d
  | clockThreadMain serverCount ctx envs =>
    exact (clockThreadMain_inMutexOrder serverCount ctx envs).tidy d
  | modeHandler c => exact (modeHandler_inMutexOrder h).tidy d

/-- Every call takes only `g_mode_mutex` inside a section, or the mutex that is held. -/
theorem tidy (c : ThreadCall) (d : Daemon) : Tidy Event.mutexOp NestedRule (c.trace d) := by
  by_cases h : c.TakesTwice d
  · cases c with
    | syncNtpTime a =>
      have hattempt : TidyUnless Event.mutexOp NestedRule (fun _ => False) a.run :=
        syncNtpTime_tidyUnless (fun _ _ _ _ _ _ _ _ _ =>
          .of_inOrder (finishSync_inMutexOrder _ _ _ _ _ _ _ _)) _ _ _
      exact (hattempt d).resolve_right fun ⟨_, _, he⟩ => he
    | modeHandler c =>
      cases c with
      | modeHandlerCleanup => exact modeHandlerCleanup_inMutexOrder.tidy d
      | modeHandlerSetConfig config =>
        exact (InOrder.bind (modeHandlerSetConfig_inMutexOrder config) fun _ => .pure _).tidy d
      | _ => exact h.elim
    | _ => exact h.elim
  · exact (tidy_of_not h).mono fun _ _ => .inr

end ThreadCall

/-- The events of a thread that makes these calls, each on the daemon that it finds. -/
def threadTrace (calls : List (ThreadCall × Daemon)) : List Event :=
  calls.flatMap fun c => c.1.trace c.2

theorem tidy_threadTrace {r : MutexRule} {calls : List (ThreadCall × Daemon)}
    (h : ∀ c ∈ calls, Tidy Event.mutexOp r (c.1.trace c.2)) :
    Tidy Event.mutexOp r (threadTrace calls) := by
  induction calls with
  | nil => exact .nil
  | cons c calls ih =>
    obtain ⟨hc, hcalls⟩ := List.forall_mem_cons.mp h
    exact hc.append (ih hcalls)

/-- **A deadlock is one of a thread with itself**: in every interleaving of the threads, behind a
thread that is not done is one that can go on, or one that waits for a mutex of `Mutex` that it
holds since it has accepted a reply or shuts down the mode handler. -/
theorem threads_deadlock_alone {ι : Type} [DecidableEq ι] (threads : ι → List (ThreadCall × Daemon))
    {s : System ι Mutex Event}
    (hs : Reachable Event.mutexOp (fun i => threadTrace (threads i)) s) {i : ι}
    (hi : s.todo i ≠ []) :
    ∃ j, Relation.ReflTransGen (WaitsFor Event.mutexOp s) i j ∧ (CanGoOn Event.mutexOp s j ∨
      WaitsFor Event.mutexOp s j j ∧ ∃ c ∈ threads j, c.1.TakesTwice c.2) := by
  obtain ⟨j, hchain, hend⟩ :=
    hs.progress (fun i => tidy_threadTrace fun c _ => c.1.tidy c.2) hi
  refine ⟨j, hchain, hend.imp_right fun hself => ⟨hself, ?_⟩⟩
  by_contra hnone
  push Not at hnone
  exact hs.not_waitsFor_self
    (tidy_threadTrace fun c hc => ThreadCall.tidy_of_not (hnone c hc)) hself

/-- The main thread shuts the mode handler down while another one tests an offset. -/
def shutdownThreads (main : Bool) : List (ThreadCall × Daemon) :=
  if main then [(.modeHandler .modeHandlerCleanup, Daemon.init)]
  else [(.modeHandler (.checkPanicCondition 1), Daemon.init)]

/-- The main thread has taken `g_mode_mutex`. -/
def shutdownSystem : System Bool Mutex Event where
  todo := Function.update (fun i => threadTrace (shutdownThreads i)) true
    (threadTrace (shutdownThreads true)).tail
  owner := Function.update (fun _ => none) .gModeMutex (some true)

theorem threads_deadlock_alone_shutdown :
    ∃ j, Relation.ReflTransGen (WaitsFor Event.mutexOp shutdownSystem) false j ∧
      (CanGoOn Event.mutexOp shutdownSystem j ∨ WaitsFor Event.mutexOp shutdownSystem j j ∧
        ∃ c ∈ shutdownThreads j, c.1.TakesTwice c.2) :=
  threads_deadlock_alone shutdownThreads (.single ⟨true, .acquire rfl rfl rfl⟩)
    (List.cons_ne_nil _ _)

end Dntpd
