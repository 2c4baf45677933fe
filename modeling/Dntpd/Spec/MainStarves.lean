import Dntpd.Spec.Main
import Dntpd.Spec.MainLoop
import Dntpd.Spec.ModeFrame
import Dntpd.Spec.SocketLifetime

/-!
# The program never synchronises

The socket of the listener of ntpq is one for datagrams, and the kernel refuses to listen on such a
socket.  `main` goes on without the listener, with the error number of that call, which nothing
clears before its loop.  So no attempt of the loop gets as far as sending a request
(`main_starves`), whatever the arguments, the files and the servers are.
-/

namespace Dntpd

open Proc

/-- An event of the loop. -/
def MainEvent.OfLoop : MainEvent → Prop
  | loop _ => True
  | _ => False

/-! ### The listener -/

namespace TcpListener

/-- A socket that is refused leaves an error number. -/
theorem createTcpSocket_refused {env : TcpSocketEnv} {e : Errno} (h : env.listen = .error e)
    (port : UInt16) (d : Daemon) :
    (createTcpSocket port env d).ret < 0 ∧ (createTcpSocket port env d).state.errno ≠ 0 := by
  have hneg : (-1 : ℤ) < 0 := by decide
  cases hsocket : env.create.socket with
  | error e' =>
    obtain ⟨⟨socket, reuse, v6only⟩, reuseaddr, bind, listen⟩ := env
    obtain rfl : socket = .error e' := hsocket
    exact ⟨hneg, e'.ne_zero⟩
  | ok fd =>
    rw [createTcpSocket_created hsocket]
    obtain ⟨create, reuseaddr, bind, listen⟩ := env
    obtain rfl : listen = .error e := h
    cases bind with
    | error e' => exact ⟨hneg, e'.ne_zero⟩
    | ok _ => exact ⟨hneg, e.ne_zero⟩

/-- So does the listener, unless it was started before. -/
theorem startTcpListener_refused {env : TcpSocketEnv} {e : Errno} (h : env.listen = .error e)
    {d : Daemon} (hd : d.socket.tcpSock < 0) :
    (startTcpListener env d).ret < 0 ∧ (startTcpListener env d).state.errno ≠ 0 := by
  unfold startTcpListener
  rw [emit_bind, read_bind, ite_run, if_neg (not_le.mpr hd)]
  exact createTcpSocket_refused h defaultNtpqPort d

end TcpListener

namespace Main

/-! ### The way to the loop -/

/-- A procedure of the mode handler leaves the rest of the daemon as it is. -/
theorem keepsDaemon_of_modeStep {α : Type} {p : DProc α} (hp : ModeStep p) : KeepsDaemon p :=
  hp.mono kept fun _ _ => trivial

/-- A function of the daemon keeps in the program what it keeps there. -/
theorem onDaemon_keeps {α : Type} {p : DProc α} (hp : KeepsDaemon p) : Keeps (onDaemon p) :=
  ⟨fun _ => hp.state _, fun _ _ _ => trivial⟩

theorem applyUserPrivileges_keeps (username : Option CString) (env : BackgroundEnv) :
    Keeps (applyUserPrivileges username env) := by
  unfold applyUserPrivileges
  split
  · exact .pure _
  · split
    · exact .pure _
    · exact .bind (noteErrno_keeps _) fun _ => .pure _
    · refine .bind (.emit trivial) fun _ => .bind (noteErrno_keeps _) fun _ => .ite ?_ (.pure _)
      exact .bind (.emit trivial) fun _ => .bind (noteErrno_keeps _) fun _ =>
        .ite (.pure _) (.pure _)

theorem goIntoBackground_keeps (env : BackgroundEnv) : Keeps (goIntoBackground env) := by
  have hpid : Keeps (writePidFile env.pidFile) := by
    refine .bind .read fun s => ?_
    split
    · exact .pure _
    · exact .bind (.emit trivial) fun _ => noteErrno_keeps _
  refine .bind .read fun s => .ite ?_ (.pure _)
  refine .bind (.emit trivial) fun _ => .bind (noteErrno_keeps _) fun _ => .bind hpid fun _ => ?_
  exact .bind (applyUserPrivileges_keeps _ _) fun _ => .pure _

theorem initModules_keeps (env : ModulesEnv) : Keeps (initModules env) := by
  have hload : KeepsDaemon (loadFrequencyPersistent (env.freqFile.toOption.bind id)) := by
    unfold loadFrequencyPersistent
    split
    · exact .ite (.bind (.update fun _ => rfl) fun _ => .pure _)
        (.bind (.update fun _ => rfl) fun _ => .pure _)
    · exact .bind (.update fun _ => rfl) fun _ => .pure _
  have hleap : KeepsDaemon leapSecondInit :=
    .bind (.emit trivial) fun _ => .bind (.update fun _ => rfl) fun _ =>
      .bind (.emit trivial) fun _ => .pure _
  refine .bind (onDaemon_keeps (keepsDaemon_of_modeStep modeHandlerInit_modeStep)) fun _ => ?_
  refine .bind
    (onDaemon_keeps (keepsDaemon_of_modeStep (modeHandlerParseConfig_modeStep _ _))) fun _ => ?_
  refine .bind (noteErrno_keeps _) fun _ => ?_
  refine .bind (onDaemon_keeps (.update fun _ => rfl)) fun _ => ?_
  refine .bind (onDaemon_keeps (.bind (.update fun _ => rfl) fun _ => .pure _)) fun _ => ?_
  refine .bind (noteErrno_keeps _) fun _ => .bind (onDaemon_keeps hload) fun _ => ?_
  exact .bind (onDaemon_keeps hleap) fun _ => .pure _

/-! ### The start of the threads -/

/-- A procedure that leaves the listener's socket as it is. -/
abbrev KeepsTcp {α : Type} (p : MainProc α) : Prop :=
  Frame (fun s : MainState => s.daemon.socket.tcpSock) (fun _ => True) p

theorem Keeps.keepsTcp {α : Type} {p : MainProc α} (hp : Keeps p) : KeepsTcp p :=
  hp.mono (fun k => k.1.tcpSock) fun _ he => he

theorem startClockThread_keepsTcp (intervalMs : ℤ) (env : StartEnv) :
    KeepsTcp (onClock (ClockThreadObjects.startClockThread intervalMs env)) := by
  have hinit : Frame ClockThreadState.daemon (fun _ => True)
      (ClockThreadObjects.clockThreadInit intervalMs env) := by
    have hcleanup : ∀ ret, Frame ClockThreadState.daemon (fun _ => True)
        (ClockThreadObjects.cleanupMutex ret) := fun _ =>
      .bind (.emit trivial) fun _ => .bind (.emit trivial) fun _ => .pure _
    refine .bind (.update fun _ => rfl) fun _ => .bind (.emit trivial) fun _ => .ite (.pure _) ?_
    exact .bind (.emit trivial) fun _ => .ite (hcleanup _) (hcleanup _)
  have hstart : Frame ClockThreadState.daemon (fun _ => True)
      (ClockThreadObjects.startClockThread intervalMs env) :=
    .bind hinit fun _ => .ite (.pure _) (.ite (.pure _) (.ite (.pure _) (.pure _)))
  exact ⟨fun _ => congrArg (fun d : Daemon => d.socket.tcpSock) (hstart.state _),
    fun _ _ _ => trivial⟩

theorem createUdpSocket_keepsTcp (port : ℤ) (env : SocketCalls.UdpSocketEnv) :
    KeepsTcp (onSocket (SocketCalls.createUdpSocket port env)) := by
  have hcall : ∀ {α : Type} (c : SocketCall) (r : Except Errno α),
      KeepsDaemon (SocketCalls.call c r) := fun c r =>
    ⟨fun _ => by cases r <;> rfl, fun _ _ _ => trivial⟩
  -- a failed socket or bind returns at once, with nothing of the daemon written
  have hclose : ∀ sock, KeepsDaemon (SocketCalls.networkCloseSocket sock) := fun _ =>
    .ite (.emit trivial) (.pure _)
  have hcreate : ∀ v6, KeepsDaemon (SocketCalls.createSocket v6 env.create) := by
    intro v6
    cases v6 with
    | true =>
      refine .bind (hcall _ _) fun r => ?_
      cases r with
      | error e => exact .pure _
      | ok fd => exact .bind (hcall _ _) fun _ => .bind (hcall _ _) fun _ => .pure _
    | false =>
      refine .bind (hcall _ _) fun r => ?_
      cases r with
      | error e => exact .pure _
      | ok fd => exact .bind (hcall _ _) fun _ => .pure _
  have hbind : ∀ sock family port,
      KeepsDaemon (SocketCalls.bindSocket sock family port env.bind) := by
    intro sock family port
    refine .bind (hcall _ _) fun r => ?_
    cases r with
    | error e => exact .bind (.emit trivial) fun _ => .pure _
    | ok _ => exact .pure _
  have hfinish : ∀ sock ret, KeepsDaemon (SocketCalls.finishUdpSocket sock ret) := fun _ _ =>
    .ite (.bind (hclose _) fun _ => .pure _) (.pure _)
  -- the two branches for IPv4 differ in the interface they bind to
  have hinet : ∀ interface, KeepsDaemon (do
      let sock ← SocketCalls.createSocket false env.create
      if sock < 0 then return -1
      else
        let ret ← SocketCalls.network4BindSocket sock interface (UInt16.ofNat port.toNat) env.bind
        SocketCalls.finishUdpSocket sock ret) := by
    intro interface
    refine .bind (hcreate false) fun sock => .ite (.pure _) (.bind ?_ fun _ => hfinish _ _)
    rw [SocketCalls.network4BindSocket_eq]
    exact .ite (.pure _) (hbind _ _ _)
  have hudp : KeepsDaemon (SocketCalls.createUdpSocket port env) := by
    refine .ite (.pure _) (.bind .read fun d => .ite ?_ (.ite (hinet _) (hinet _)))
    exact .bind (hcreate true) fun sock => .ite (.pure _) (.bind (hbind _ _ _) fun _ => hfinish _ _)
  exact ⟨fun _ => congrArg (fun k => k.1.tcpSock) (hudp.state _), fun _ _ _ => trivial⟩

theorem startPeerThread_keepsTcp (sock : ℤ) (ip port : Option CString) (idx : ℤ)
    (env : PeerThread.PeerStartEnv) :
    KeepsTcp (onPeers (PeerThread.startPeerThread sock ip port idx env)) := by
  -- the sockets of the threads are kept apart from those of the daemon
  have hupdate : ∀ {f : PeerThreads → PeerThreads}, (∀ s, (f s).daemon.socket = s.daemon.socket) →
      Frame (fun s : PeerThreads => s.daemon.socket) (fun _ => True)
        (Proc.update f : PeerProc Unit) :=
    fun hf => .update hf
  have hvalidate : ∀ idx, Frame (fun s : PeerThreads => s.daemon.socket) (fun _ => True)
      (PeerThread.validateSocket idx sock) := fun idx =>
    .bind ⟨fun _ => rfl, fun _ _ _ => trivial⟩ fun _ =>
      .bind (.bind .read fun _ => hupdate fun _ => rfl) fun _ => .bind .read fun _ =>
        .bind (hupdate fun _ => rfl) fun _ => ⟨fun _ => rfl, fun _ _ _ => trivial⟩
  have hinit : ∀ idx, Frame (fun s : PeerThreads => s.daemon.socket) (fun _ => True)
      (PeerThread.peerThreadInit sock idx env.mutexInit) := fun idx =>
    .bind (hupdate fun _ => rfl) fun _ => .bind (hupdate fun _ => rfl) fun _ =>
      .bind (.emit trivial) fun _ => .ite (.pure _) (.pure _)
  have hstart : Frame (fun s : PeerThreads => s.daemon.socket) (fun _ => True)
      (PeerThread.startPeerThread sock ip port idx env) := by
    unfold PeerThread.startPeerThread
    by_cases hparams : sock < 0 ∨ ip = none ∨ port = none ∨ idx < 0 ∨ idx ≥ maxPeers
    · rw [dif_pos hparams]
      exact .pure _
    · rw [dif_neg hparams]
      refine .bind (hinit _) fun _ => .ite (.pure _) (.ite (.pure _) (.ite (.pure _) ?_))
      exact .bind (hupdate fun _ => rfl) fun _ => .bind (hvalidate _) fun _ => .pure _
  exact ⟨fun _ => congrArg SocketState.tcpSock (hstart.state _), fun _ _ _ => trivial⟩

/-- Where there is no listener, a start that succeeds leaves an error number. -/
def LeavesErrno (p : MainProc Bool) : Prop :=
  ∀ s : MainState, s.daemon.socket.tcpSock < 0 → (p s).ret = true → (p s).state.daemon.errno ≠ 0

theorem LeavesErrno.of_keeps {α : Type} {p : MainProc α} {f : α → MainProc Bool} (hp : KeepsTcp p)
    (hf : ∀ a, LeavesErrno (f a)) : LeavesErrno (p >>= f) := fun s hs =>
  hf _ _ ((hp.state s).trans_lt hs)

theorem LeavesErrno.ite {c : Prop} [Decidable c] {p q : MainProc Bool} (hp : LeavesErrno p)
    (hq : LeavesErrno q) : LeavesErrno (if c then p else q) := by
  split_ifs
  · exact hp
  · exact hq

theorem leavesErrno_false : LeavesErrno (pure false) := fun _ _ h => absurd h Bool.false_ne_true

/-- The listener is refused, and the program goes on. -/
theorem startNtpq_errno {env : ThreadsEnv} {e : Errno} (h : env.tcp.listen = .error e)
    {s : MainState} (hs : s.daemon.socket.tcpSock < 0) :
    (startNtpq env s).state.daemon.errno ≠ 0 := by
  obtain ⟨hret, herrno⟩ := TcpListener.startTcpListener_refused h hs
  have hret' : ¬ (onListener (TcpListener.startTcpListener env.tcp) s).ret ≥ 0 := not_le.mpr hret
  unfold startNtpq
  rw [bind_state, if_neg hret']
  exact herrno

theorem startThreads_leavesErrno {env : ThreadsEnv} {e : Errno} (h : env.tcp.listen = .error e) :
    LeavesErrno (startThreads env) := by
  have hact : ∀ others : Interference, KeepsTcp (Proc.update others.act) := fun others =>
    .update others.tcpSock
  have hpeer : KeepsTcp (startPeer env) := by
    have hclose : ∀ sock, KeepsTcp (onSocket (SocketCalls.networkCloseSocket sock)) := by
      intro sock
      unfold SocketCalls.networkCloseSocket
      split_ifs <;> exact ⟨fun _ => rfl, fun _ _ _ => trivial⟩
    refine .bind (createUdpSocket_keepsTcp _ _) fun sock => .ite ?_ (.pure _)
    exact .bind (startPeerThread_keepsTcp _ _ _ _ _) fun ret =>
      .ite (.bind (hclose _) fun _ => .pure _) (.pure _)
  refine .of_keeps .read fun s => .of_keeps (startClockThread_keepsTcp _ _) fun ret => ?_
  refine .ite leavesErrno_false (.of_keeps (hact _) fun _ => .of_keeps hpeer fun started => ?_)
  refine .ite (.of_keeps (hact _) fun _ s hs _ => ?_) leavesErrno_false
  exact startNtpq_errno h hs

/-! ### The loop -/

/-- Where there is no listener, the loop of the program shows nothing but failed attempts. -/
def Starves {α : Type} (p : MainProc α) : Prop :=
  ∀ s : MainState, s.daemon.socket.tcpSock < 0 → ∀ e, .loop e ∈ (p s).trace → e.Starved

/-- A procedure outside the loop. -/
abbrev Outside {α : Type} (p : MainProc α) : Prop := Does (fun e => ¬ e.OfLoop) p

theorem Outside.starves {α : Type} {p : MainProc α} (hp : Outside p) : Starves p := fun s _ e he =>
  absurd trivial (hp.trace s (.loop e) he)

theorem Starves.of_keeps {α β : Type} {p : MainProc α} {f : α → MainProc β} (hp : Outside p)
    (hkeeps : KeepsTcp p) (hf : ∀ a, Starves (f a)) : Starves (p >>= f) := by
  intro s hs e he
  rcases List.mem_append.mp he with he | he
  · exact hp.starves s hs e he
  · exact hf _ _ ((hkeeps.state s).trans_lt hs) e he

theorem Starves.ite {α : Type} {c : Prop} [Decidable c] {p q : MainProc α} (hp : Starves p)
    (hq : Starves q) : Starves (if c then p else q) := by
  split_ifs
  · exact hp
  · exact hq

theorem Starves.bind_outside {α β : Type} {p : MainProc α} {f : α → MainProc β} (hp : Starves p)
    (hf : ∀ a, Outside (f a)) : Starves (p >>= f) := by
  intro s hs e he
  rcases List.mem_append.mp he with he | he
  · exact hp s hs e he
  · exact absurd trivial ((hf _).trace _ _ he)

theorem cleanupResources_outside (env : CleanupEnv) : Outside (cleanupResources env) := by
  refine cleanupResources_does ⟨fun _ => id, fun _ => id, fun _ => id, fun _ => id, ?_⟩ env
  intro e he
  cases e <;> first | exact he.elim | exact id

theorem runLoop_starved {s : MainState} (hs : s.daemon.errno ≠ 0) (rounds : List RoundEnv) :
    ∀ e, .loop e ∈ (runLoop rounds s).trace → e.Starved := by
  intro e he
  have hrun : (runLoop rounds s).trace =
      (syncLoop s.servers rounds s.daemon).trace.map .loop ++ [] := rfl
  rw [hrun, List.append_nil] at he
  obtain ⟨e', he', heq⟩ := List.mem_map.mp he
  obtain rfl := MainEvent.loop.inj heq
  exact (syncLoop_starved hs s.servers rounds).events e' he'

theorem serveThreads_starves {env : MainEnv} {e : Errno} (h : env.threads.tcp.listen = .error e) :
    Starves (serveThreads env) := by
  have hthreads : StartsThreads fun e => ¬ e.OfLoop :=
    ⟨fun _ => id, fun _ => id, fun _ => id, fun _ => id⟩
  have hstart : Outside (startThreads env.threads) := startThreads_does hthreads _
  have hcleanup : Outside (do
      cleanupResources env.failedCleanup
      return exitFailure) := .bind (cleanupResources_outside _) fun _ => .pure _
  -- what the modules do before the threads start leaves the socket as it is
  refine .of_keeps (initModules_does (fun _ => id) _) (initModules_keeps _).keepsTcp fun _ => ?_
  intro s hs e he
  rw [bind_trace, List.mem_append] at he
  rcases he with he | he
  · exact hstart.starves s hs e he
  -- the loop runs only if the threads were started, with the error of `listen` in `errno`
  by_cases hstarted : (startThreads env.threads s).ret = true
  · rw [if_pos hstarted] at he
    rcases List.mem_append.mp he with he | he
    · exact runLoop_starved (startThreads_leavesErrno h s hs hstarted) _ e he
    · exact absurd he List.not_mem_nil
  · rw [if_neg hstarted] at he
    exact absurd trivial (hcleanup.trace _ _ he)

theorem run_starves {env : MainEnv} {e : Errno} (h : env.threads.tcp.listen = .error e) :
    Starves (run env) := by
  have hbackground : Outside (goIntoBackground env.background) :=
    goIntoBackground_does (fun e he => by cases e <;> first | exact he.elim | exact id) _
  have hserve : Starves (serve env) :=
    .of_keeps hbackground (goIntoBackground_keeps _).keepsTcp fun _ => serveThreads_starves h
  unfold run
  refine .of_keeps (.emit id) (.emit trivial) fun _ => ?_
  refine .of_keeps (openLogFile_does _) (openLogFile_keeps _).keepsTcp fun _ => ?_
  refine .of_keeps (.zoom_of_events _ fun _ => id)
    ⟨fun _ => congrArg (fun k => k.1.tcpSock) ((setLocalPrecision_keeps _).state _),
      fun _ _ _ => trivial⟩ fun _ => ?_
  refine .of_keeps (.zoom_of_events _ fun _ => id)
    ⟨fun _ => congrArg (fun k => k.1.tcpSock) ((loadServerConfig_keeps _).state _),
      fun _ _ _ => trivial⟩ fun count => ?_
  exact .ite (Outside.starves (.pure _)) hserve

/-- **The program never synchronises**: since the kernel does not listen on a socket for datagrams,
no attempt of any round sends a request, corrects the clock or does anything else, and every one is
reported as failed. -/
theorem main_starves (args : List CString) {env : MainEnv} {e : Errno}
    (hlisten : env.threads.tcp.listen = .error e) :
    ∀ ev, .loop ev ∈ (main args env MainState.init).trace → ev.Starved := by
  have hend : ∀ status, Outside (do
      cleanupResources env.cleanup
      Proc.emit (.exit status)) := fun status =>
    .bind (cleanupResources_outside _) fun _ => .emit id
  have hstarves : Starves (main args env) := by
    refine .of_keeps (readArguments_does _ _) ⟨fun _ => rfl, fun _ _ _ => trivial⟩ fun ret => ?_
    refine .ite (Outside.starves (.emit id)) (.ite (Outside.starves (.emit id)) ?_)
    exact (run_starves hlisten).bind_outside hend
  exact hstarves MainState.init (by decide)

/-- The error number of `listen` on a socket for datagrams. -/
def EOPNOTSUPP : Errno := ⟨95, by omega⟩

/-- A run in the background with two servers, in which everything succeeds that can. -/
def poolEnv : MainEnv where
  argumentsErrno := 0
  logFile := .ok ()
  clockGetres := .ok ⟨0, 1, by decide⟩
  serverFile := poolFile
  background := ⟨.ok (), .ok (), fun _ => .ok ⟨1000, 1000⟩, .ok (), .ok ()⟩
  modules := ⟨⟨some [], fun _ => ⟨0, [], false⟩⟩, ⟨2, by decide⟩, .ok (some 0)⟩
  threads := {
    clock := ⟨true, true, true, true⟩
    clockStarted := Interference.none
    udp := ⟨⟨.ok 5, .ok (), .ok ()⟩, .ok ()⟩
    peer := ⟨true, true, true⟩
    peerStarted := Interference.none
    tcp := ⟨⟨.ok 6, .ok (), .ok ()⟩, .ok (), .ok (), .error EOPNOTSUPP⟩
    ntpqCreate := true }
  rounds := [quietRound]
  failedCleanup := ⟨Interference.none, .ok (), .ok ()⟩
  cleanup := ⟨Interference.none, .ok (), .ok ()⟩

theorem main_starves_pool :
    ¬ ∃ ev, .loop ev ∈ (main [] poolEnv MainState.init).trace ∧ ¬ ev.Starved :=
  fun ⟨ev, hin, hfed⟩ => hfed (main_starves [] rfl ev hin)

end Main

end Dntpd
