import Dntpd.Library.Blocking
import Dntpd.Library.Phases
import Dntpd.Main

/-!
# How the program ends

`mode_handler_cleanup` takes the mutex that it holds, and `cleanup_resources` calls it.  What is
registered for the end of the program therefore never ends: a process that gets past its arguments
does not exit by itself, and does nothing of what stands behind that call (`main_exits_iff`).

Users are changed before a socket is made, and only in the background (`main_privileges`).
-/

namespace Dntpd

open Proc LockTrace

/-! ### Kinds of events -/

/-- The event of the daemon among those of the program. -/
def MainEvent.event? : MainEvent → Option Event
  | daemon e => some e
  | peer (.daemon e) => some e
  | loop (.sync e) => some e
  | _ => none

/-- The operation of an event on the mutex of the mode handler. -/
def MainEvent.modeOp (e : MainEvent) : Option LockTrace.Op :=
  e.event?.bind (Event.lockOp .gModeMutex)

/-- What the clean-up does last: the frequency is saved, the PID file removed, the servers freed. -/
def MainEvent.Releases : MainEvent → Prop
  | writeFreqFile _ => True
  | unlink _ => True
  | freeServers => True
  | _ => False

/-- An event of the end of the program. -/
def MainEvent.Final : MainEvent → Prop
  | exit _ => True
  | e => e.Releases

/-- A call about sockets. -/
def MainEvent.OnSockets : MainEvent → Prop
  | socketCall _ => True
  | listener _ => True
  | peer _ => True
  | loop _ => True
  | _ => False

/-- What only a program in the background does. -/
def MainEvent.OfBackground : MainEvent → Prop
  | setsid => True
  | writePidFile _ _ => True
  | setgid _ _ => True
  | setuid _ _ => True
  | _ => False

namespace Main

/-- The events of `p` are of the kind `E`. -/
abbrev Does {α : Type} (E : MainEvent → Prop) (p : MainProc α) : Prop := Frame (fun _ => ()) E p

theorem noteErrno_does {α : Type} {E : MainEvent → Prop} (r : Except Errno α) :
    Does E (noteErrno r) := by
  refine .bind ⟨fun _ => rfl, fun s e he => ?_⟩ fun _ => .pure _
  rw [onDaemon, zoom_trace, sys_trace] at he
  exact absurd he List.not_mem_nil

theorem readArguments_does {E : MainEvent → Prop} (args : List CString) (errno : ℤ) :
    Does E (readArguments args errno) :=
  .bind .read fun _ => .bind (.update fun _ => rfl) fun _ => .pure _

theorem openLogFile_does {E : MainEvent → Prop} (r : Except Errno Unit) : Does E (openLogFile r) :=
  .bind .read fun _ => .ite (.pure _) (noteErrno_does r)

/-! ### The clean-up -/

/-- A procedure without an event of the end. -/
abbrev Early {α : Type} (p : MainProc α) : Prop := Does (fun e => ¬ e.Final) p

/-- The procedure hangs before it gets to an event of the end. -/
abbrev Hangs {α : Type} (p : MainProc α) : Prop := Blocks MainEvent.modeOp MainEvent.Final p

/-- The procedure hangs there, or has no event of the end. -/
abbrev HangsOrEarly {α : Type} (p : MainProc α) : Prop :=
  BlocksOrAvoids MainEvent.modeOp MainEvent.Final p

theorem Early.hangsOrEarly {α : Type} {p : MainProc α} (hp : Early p) : HangsOrEarly p :=
  .of_frame hp fun _ => id

/-- The mutex is taken twice. -/
theorem modeHandlerCleanup_hangs : Hangs (onDaemon modeHandlerCleanup) := by
  intro s
  refine ⟨[], .daemon (.lock .gModeMutex), [], .daemon (.lock .gModeMutex), _, rfl, rfl, nofun, rfl,
    fun e he => ?_⟩
  rw [List.mem_singleton.mp he]
  exact id

/-- **The clean-up hangs** before the frequency is saved. -/
theorem cleanupResources_hangs (env : CleanupEnv) : Hangs (cleanupResources env) := by
  have hearly : ∀ {α β : Type} {p : MainProc α} {f : α → MainProc β}, Early p →
      (∀ a, Hangs (f a)) → Hangs (p >>= f) := fun hp hf => hp.hangsOrEarly.bind_blocks hf
  unfold cleanupResources
  refine hearly (.update fun _ => rfl) fun _ => ?_
  refine hearly (.zoom_of_events _ fun _ => id) fun _ => ?_
  refine hearly (.zoom_of_events _ fun _ => id) fun _ => ?_
  refine hearly (.zoom_of_events _ fun _ => id) fun _ => ?_
  refine hearly (.zoom_of_events _ fun _ => id) fun _ => ?_
  refine hearly (.zoom_of_events _ fun _ => id) fun _ => ?_
  refine hearly (.zoom_of_events _ fun _ => id) fun _ => ?_
  refine hearly (.zoom_of_events _ fun _ => id) fun _ => ?_
  exact modeHandlerCleanup_hangs.bind _

/-! ### The way there -/

theorem applyUserPrivileges_does {E : MainEvent → Prop} (hgid : ∀ gid ok, E (.setgid gid ok))
    (huid : ∀ uid ok, E (.setuid uid ok)) (username : Option CString) (env : BackgroundEnv) :
    Does E (applyUserPrivileges username env) := by
  unfold applyUserPrivileges
  split
  · exact .pure _
  · split
    · exact .pure _
    · exact .bind (noteErrno_does _) fun _ => .pure _
    · refine .bind (.emit (hgid _ _)) fun _ => .bind (noteErrno_does _) fun _ => .ite ?_ (.pure _)
      exact .bind (.emit (huid _ _)) fun _ => .bind (noteErrno_does _) fun _ =>
        .ite (.pure _) (.pure _)

theorem goIntoBackground_does {E : MainEvent → Prop} (hE : ∀ e, e.OfBackground → E e)
    (env : BackgroundEnv) : Does E (goIntoBackground env) := by
  have hpid : Does E (writePidFile env.pidFile) := by
    refine .bind .read fun s => ?_
    split
    · exact .pure _
    · exact .bind (.emit (hE _ trivial)) fun _ => noteErrno_does _
  unfold goIntoBackground
  refine .bind .read fun s => .ite ?_ (.pure _)
  refine .bind (.emit (hE _ trivial)) fun _ => .bind (noteErrno_does _) fun _ => ?_
  refine .bind hpid fun _ => ?_
  exact .bind (applyUserPrivileges_does (fun _ _ => hE _ trivial) (fun _ _ => hE _ trivial) _ env)
    fun _ => .pure _

theorem initModules_does {E : MainEvent → Prop} (hE : ∀ e, E (.daemon e)) (env : ModulesEnv) :
    Does E (initModules env) := by
  unfold initModules
  refine .bind (.zoom_of_events _ hE) fun _ => .bind (.zoom_of_events _ hE) fun _ => ?_
  refine .bind (noteErrno_does _) fun _ => .bind (.zoom_of_events _ hE) fun _ => ?_
  refine .bind (.zoom_of_events _ hE) fun _ => .bind (noteErrno_does _) fun _ => ?_
  exact .bind (.zoom_of_events _ hE) fun _ => .bind (.zoom_of_events _ hE) fun _ => .pure _

/-- The events while the threads are started. -/
structure StartsThreads (E : MainEvent → Prop) : Prop where
  object : ∀ c, E (.object c)
  socketCall : ∀ c, E (.socketCall c)
  listener : ∀ c, E (.listener c)
  peer : ∀ c, E (.peer c)

theorem startThreads_does {E : MainEvent → Prop} (hE : StartsThreads E) (env : ThreadsEnv) :
    Does E (startThreads env) := by
  have hntpq : Does E (startNtpq env) :=
    .bind (.zoom_of_events _ hE.listener) fun _ => .ite
      (.bind (.zoom_of_events _ hE.listener) fun _ =>
        .ite (.zoom_of_events _ hE.listener) (.pure _))
      (.pure _)
  have hpeer : Does E (startPeer env) :=
    .bind (.zoom_of_events _ hE.socketCall) fun _ => .ite
      (.bind (.zoom_of_events _ hE.peer) fun _ => .ite
        (.bind (.zoom_of_events _ hE.socketCall) fun _ => .pure _) (.pure _)) (.pure _)
  unfold startThreads
  refine .bind .read fun s => .bind (.zoom_of_events _ hE.object) fun ret => .ite (.pure _) ?_
  refine .bind (.update fun _ => rfl) fun _ => .bind hpeer fun started => .ite ?_ (.pure _)
  exact .bind (.update fun _ => rfl) fun _ => .bind hntpq fun _ => .pure _

theorem runLoop_does {E : MainEvent → Prop} (hE : ∀ e, E (.loop e)) (rounds : List RoundEnv) :
    Does E (runLoop rounds) :=
  .bind .read fun _ => .bind (.zoom_of_events _ hE) fun _ => .update fun _ => rfl

/-- Behind the arguments nothing of the end happens, unless a start fails and the clean-up hangs. -/
theorem run_hangsOrEarly (env : MainEnv) : HangsOrEarly (run env) := by
  have hbackground : Early (goIntoBackground env.background) :=
    goIntoBackground_does (fun e he => by cases e <;> first | exact he.elim | exact id) _
  have hthreads : StartsThreads fun e => ¬ e.Final :=
    ⟨fun _ => id, fun _ => id, fun _ => id, fun _ => id⟩
  have hserve : HangsOrEarly (serve env) := by
    refine .bind hbackground.hangsOrEarly fun _ => ?_
    unfold serveThreads
    refine .bind (Early.hangsOrEarly (initModules_does (fun _ => id) _)) fun _ => ?_
    refine .bind (Early.hangsOrEarly (startThreads_does hthreads _)) fun started => .ite ?_ ?_
    · exact .bind (Early.hangsOrEarly (runLoop_does (fun _ => id) _)) fun _ =>
        Early.hangsOrEarly (.pure _)
    · exact ((cleanupResources_hangs _).bind _).blocksOrAvoids
  unfold run
  refine .bind (Early.hangsOrEarly (.emit id)) fun _ => ?_
  refine .bind (Early.hangsOrEarly (openLogFile_does _)) fun _ => ?_
  refine .bind (Early.hangsOrEarly (.zoom_of_events _ fun _ => id)) fun _ => ?_
  refine .bind (Early.hangsOrEarly (.zoom_of_events _ fun _ => id)) fun _ => .ite ?_ hserve
  exact Early.hangsOrEarly (.pure _)

/-! ### The end -/

/-- What a process gets to of its run; it starts without the mutex. -/
def execution (args : List CString) (env : MainEnv) : List MainEvent :=
  executed MainEvent.modeOp false (main args env MainState.init).trace

/-- **Only its arguments make the program exit**: a process exits by itself exactly if it is asked
for its help or its version, or does not understand its arguments.  Every other one hangs if it gets
to its end, and has not saved the frequency, removed the PID file or freed the servers. -/
theorem main_exits_iff (args : List CString) (env : MainEnv) :
    ((∃ status, .exit status ∈ execution args env) ↔ (parseArguments args CliConfig.init).1 ≠ 0) ∧
      ∀ e ∈ execution args env, ¬ e.Releases := by
  set ret := (parseArguments args CliConfig.init).1 with hret
  -- arguments that ask for help, that are wrong, or that start the daemon
  have htrace : ∃ s, (main args env MainState.init).trace =
      (if ret = 2 ∨ ret = 3 then ⟨⟨⟩, s, [.exit exitSuccess]⟩
        else if ret ≠ 0 then ⟨⟨⟩, s, [.exit exitFailure]⟩
        else (do
          let status ← run env
          cleanupResources env.cleanup
          Proc.emit (.exit status) : MainProc Unit) s : Outcome _ _ _).trace := by
    refine ⟨(readArguments args env.argumentsErrno MainState.init).state, ?_⟩
    unfold main
    rw [bind_trace, ite_trace, ite_trace]
    show (if ret = 2 ∨ ret = 3 then _ else if ret ≠ 0 then _ else _) = _
    split_ifs <;> rfl
  obtain ⟨s, htrace⟩ := htrace
  unfold execution
  rw [htrace]
  have hexit : ∀ status, executed MainEvent.modeOp false [.exit status] = [.exit status] :=
    fun _ => rfl
  by_cases hasked : ret = 2 ∨ ret = 3
  · rw [if_pos hasked, hexit]
    have hne : ret ≠ 0 := by omega
    refine ⟨iff_of_true ⟨_, List.mem_singleton_self _⟩ hne, fun e he => ?_⟩
    rw [List.mem_singleton.mp he]
    exact id
  rw [if_neg hasked]
  by_cases hne : ret ≠ 0
  · rw [if_pos hne, hexit]
    refine ⟨iff_of_true ⟨_, List.mem_singleton_self _⟩ hne, fun e he => ?_⟩
    rw [List.mem_singleton.mp he]
    exact id
  rw [if_neg hne]
  -- the clean-up takes the mutex of the modes twice, if the run gets that far
  have hhangs : Hangs (do
      let status ← run env
      cleanupResources env.cleanup
      Proc.emit (.exit status) : MainProc Unit) :=
    (run_hangsOrEarly env).bind_blocks fun _ => (cleanupResources_hangs _).bind _
  refine ⟨iff_of_false ?_ hne, fun e he hrel => ?_⟩
  · rintro ⟨status, hmem⟩
    exact (hhangs s).not_mem_executed hmem trivial
  · refine (hhangs s).not_mem_executed he ?_
    cases e <;> first | exact hrel | exact hrel.elim

/-! ### The background -/

/-- What the functions in front of the threads do not change: the sockets, and whether the program
goes into the background. -/
def kept (d : Daemon) : SocketState × ℤ × ℤ := (d.socket, d.cli.foreground, d.cli.noDaemonize)

/-- A procedure that leaves it as it is. -/
abbrev KeepsDaemon {ε α : Type} (p : Proc Daemon ε α) : Prop := Frame kept (fun _ => True) p

theorem nanosecondLoop_keeps (p : Int8) (ns : ℤ) (hpos : 0 < ns) :
    KeepsDaemon (nanosecondLoop p ns hpos) := by
  induction p, ns, hpos using nanosecondLoop.induct with
  | case1 p ns hpos hlt ih =>
    rw [nanosecondLoop, dif_pos hlt]
    exact .bind (.emit trivial) fun _ => ih
  | case2 p ns hpos hlt =>
    rw [nanosecondLoop, dif_neg hlt]
    exact .pure _

theorem setLocalPrecision_keeps (res : Except Errno Timespec) :
    KeepsDaemon (setLocalPrecision res) := by
  refine .bind ?_ fun _ => .update fun _ => rfl
  unfold getSystemPrecision
  cases res with
  | error e => exact .bind (.update fun _ => rfl) fun _ => .pure _
  | ok ts =>
    refine .ite (.pure _) (.ite (.pure _) ?_)
    dsimp only
    split_ifs
    · exact .pure _
    · exact nanosecondLoop_keeps _ _ _

/-- A procedure on the servers that leaves it as it is. -/
abbrev KeepsServers {α : Type} (p : ServerProc α) : Prop :=
  Frame (fun s : ServerState => kept s.daemon) (fun _ => True) p

theorem loadServerLine_keeps (allocs : LineAllocs) (line : CString) :
    KeepsServers (loadServerLine allocs line) := by
  -- whatever the keyword is, only the configuration, the list and the heap are written
  have hstrtol : ∀ s, KeepsServers (strtolInt s) := fun s =>
    .bind (.update fun _ => rfl) fun _ => .pure _
  have henable : KeepsServers (enableBroadcastLine line) := by
    unfold enableBroadcastLine
    split
    · exact .pure _
    · exact .bind (hstrtol _) fun _ => .ite (.update fun _ => rfl) (.pure _)
  have haddr : KeepsServers (broadcastAddrLine allocs.strndup line) := by
    unfold broadcastAddrLine
    split
    · exact .pure _
    · exact .ite (.update fun _ => rfl) (.pure _)
  have hinterval : KeepsServers (broadcastIntervalLine line) := by
    unfold broadcastIntervalLine
    split
    · exact .pure _
    · exact .bind (hstrtol _) fun _ => .ite (.update fun _ => rfl) (.pure _)
  have hserver : KeepsServers (serverLine allocs line) := by
    have hfree : KeepsServers freeServers := .bind (.update fun _ => rfl) fun _ => .pure _
    unfold serverLine
    split
    · exact .pure _
    · refine .ite (.pure _) (.ite (.pure _) (.ite (.pure _) (.ite hfree (.ite hfree ?_))))
      refine .bind ?_ fun _ => .bind ?_ fun _ => .pure _
      · exact .bind (.emit trivial) fun _ => .bind (.update fun _ => rfl) fun _ => .emit trivial
      · refine .bind (.emit trivial) fun _ => .bind (.update fun s => ?_) fun _ => .emit trivial
        split_ifs <;> rfl
  unfold loadServerLine
  refine .ite (.pure _) (.ite ?_ (.ite ?_ (.ite ?_ hserver)))
  · exact .bind henable fun _ => .pure _
  · exact .bind haddr fun _ => .pure _
  · exact .bind hinterval fun _ => .pure _

theorem loadServerConfig_keeps (env : ServerConfigEnv) : KeepsServers (loadServerConfig env) := by
  have hlines : ∀ allocs turn file, KeepsServers (loadServerLines allocs turn file) := by
    intro allocs turn file
    induction turn, file using loadServerLines.induct with
    | case1 turn file hend =>
      rw [loadServerLines, hend]
      exact .bind .read fun _ => .pure _
    | case2 turn file line rest hline ih =>
      rw [loadServerLines, hline]
      exact .bind (loadServerLine_keeps _ _) fun _ => .ite ih (.pure _)
  unfold loadServerConfig
  refine .bind .read fun s => ?_
  split
  · exact .pure _
  · exact hlines _ _ _

/-- A procedure of the program that leaves it as it is. -/
abbrev Keeps {α : Type} (p : MainProc α) : Prop :=
  Frame (fun s : MainState => kept s.daemon) (fun _ => True) p

/-- The procedure goes into the background before it makes a socket. -/
abbrev BackgroundFirst {α : Type} (p : MainProc α) : Prop :=
  Phased MainEvent.OfBackground MainEvent.OnSockets p

/-- A procedure without an event of the background. -/
abbrev Foreground {α : Type} (p : MainProc α) : Prop := Does (fun e => ¬ e.OfBackground) p

/-- The events of the clean-up. -/
structure CleansUp (E : MainEvent → Prop) : Prop where
  daemon : ∀ e, E (.daemon e)
  object : ∀ c, E (.object c)
  listener : ∀ c, E (.listener c)
  peer : ∀ c, E (.peer c)
  releases : ∀ e, e.Releases → E e

theorem cleanupResources_does {E : MainEvent → Prop} (hE : CleansUp E) (env : CleanupEnv) :
    Does E (cleanupResources env) := by
  have hsave : Does E (saveFrequencyPersistent env.freqFile) :=
    .bind .read fun _ => .ite (.pure _) (.bind (noteErrno_does _) fun _ =>
      .ite (.bind (.emit (hE.releases _ trivial)) fun _ => .pure _) (.pure _))
  have hunlink : Does E (removePidFile env.unlink) := by
    refine .bind .read fun s => ?_
    split
    · exact .pure _
    · exact .bind (.emit (hE.releases _ trivial)) fun _ => noteErrno_does _
  have hservers : Does E releaseServers :=
    .bind .read fun _ => .ite (.pure _)
      (.bind (.emit (hE.releases _ trivial)) fun _ => .update fun _ => rfl)
  unfold cleanupResources
  refine .bind (.update fun _ => rfl) fun _ => .bind (.zoom_of_events _ hE.listener) fun _ => ?_
  refine .bind (.zoom_of_events _ hE.object) fun _ => ?_
  refine .bind (.zoom_of_events _ hE.object) fun _ => ?_
  refine .bind (.zoom_of_events _ hE.peer) fun _ => .bind (.zoom_of_events _ hE.peer) fun _ => ?_
  refine .bind (.zoom_of_events _ hE.daemon) fun _ => ?_
  refine .bind (.zoom_of_events _ hE.daemon) fun _ => ?_
  refine .bind (.zoom_of_events _ hE.daemon) fun _ => ?_
  exact .bind hsave fun _ => .bind hunlink fun _ => hservers

theorem cleanupResources_foreground (env : CleanupEnv) : Foreground (cleanupResources env) := by
  refine cleanupResources_does ⟨fun _ => id, fun _ => id, fun _ => id, fun _ => id, ?_⟩ env
  intro e he
  cases e <;> first | exact he.elim | exact id

theorem serveThreads_foreground (env : MainEnv) : Foreground (serveThreads env) := by
  have hthreads : StartsThreads fun e => ¬ e.OfBackground :=
    ⟨fun _ => id, fun _ => id, fun _ => id, fun _ => id⟩
  refine .bind (initModules_does (fun _ => id) _) fun _ => ?_
  refine .bind (startThreads_does hthreads _) fun started => .ite ?_ ?_
  · exact .bind (runLoop_does (fun _ => id) _) fun _ => .pure _
  · exact .bind (cleanupResources_foreground _) fun _ => .pure _

theorem run_backgroundFirst (env : MainEnv) : BackgroundFirst (run env) := by
  have hbackground : Does (fun e => ¬ e.OnSockets) (goIntoBackground env.background) :=
    goIntoBackground_does (fun e he => by cases e <;> first | exact he.elim | exact id) _
  have hserve : BackgroundFirst (serve env) :=
    .bind_frame (.of_frame hbackground) fun _ => serveThreads_foreground env
  unfold run
  refine .frame_bind (.emit id : Does (fun e => ¬ e.OnSockets) _) fun _ => ?_
  refine .frame_bind (openLogFile_does (E := fun e => ¬ e.OnSockets) _) fun _ => ?_
  refine .frame_bind (.zoom_of_events _ fun _ => id : Does (fun e => ¬ e.OnSockets) _) fun _ => ?_
  refine .frame_bind (.zoom_of_events _ fun _ => id : Does (fun e => ¬ e.OnSockets) _) fun _ => ?_
  exact .ite (.of_frame (.pure _ : Does (fun e => ¬ e.OnSockets) _)) hserve

/-- A program in the foreground stays there. -/
def StaysForeground {α : Type} (p : MainProc α) : Prop :=
  ∀ s : MainState, ¬ s.daemon.cli.Background → ∀ e ∈ (p s).trace, ¬ e.OfBackground

theorem StaysForeground.of_keeps {α β : Type} {p : MainProc α} {f : α → MainProc β}
    (hp : Foreground p) (hkeeps : Keeps p) (hf : ∀ a, StaysForeground (f a)) :
    StaysForeground (p >>= f) := by
  intro s hs
  have hkept : kept (p s).state.daemon = kept s.daemon := hkeeps.state s
  have hs' : ¬ (p s).state.daemon.cli.Background := by
    rintro ⟨hforeground, hdaemonize⟩
    obtain ⟨-, hcli⟩ := Prod.mk.inj hkept
    obtain ⟨hforeground', hdaemonize'⟩ := Prod.mk.inj hcli
    exact hs ⟨hforeground'.symm.trans hforeground, hdaemonize'.symm.trans hdaemonize⟩
  exact List.forall_mem_append.mpr ⟨hp.trace s, hf _ _ hs'⟩

theorem noteErrno_keeps {α : Type} (r : Except Errno α) : Keeps (noteErrno r) :=
  .bind ⟨fun _ => by cases r <;> rfl, fun _ _ _ => trivial⟩ fun _ => .pure _

theorem openLogFile_keeps (r : Except Errno Unit) : Keeps (openLogFile r) :=
  .bind .read fun _ => .ite (.pure _) (noteErrno_keeps r)

theorem run_staysForeground (env : MainEnv) : StaysForeground (run env) := by
  have hbackground : StaysForeground (goIntoBackground env.background) := by
    intro s hs
    unfold goIntoBackground
    rw [read_bind, ite_run, if_neg hs]
    exact fun _ he => absurd he List.not_mem_nil
  have hserve : StaysForeground (serve env) := fun s hs =>
    List.forall_mem_append.mpr ⟨hbackground s hs, (serveThreads_foreground env).trace _⟩
  unfold run
  refine .of_keeps (.emit id) (.emit trivial) fun _ => ?_
  refine .of_keeps (openLogFile_does _) (openLogFile_keeps _) fun _ => ?_
  refine .of_keeps (.zoom_of_events _ fun _ => id)
    ((setLocalPrecision_keeps _).zoom (fun _ _ => rfl) fun _ _ => trivial) fun _ => ?_
  refine .of_keeps (.zoom_of_events _ fun _ => id)
    ⟨fun _ => (loadServerConfig_keeps _).state _, fun _ _ _ => trivial⟩ fun count => ?_
  intro s hs
  rw [ite_run]
  split_ifs
  · exact fun _ he => absurd he List.not_mem_nil
  · exact hserve s hs

/-- **The user is changed before a socket is made**, if it is changed at all: whatever fails, no
call of the part that goes to the background stands behind one on a socket, and none is made in the
foreground. -/
theorem main_privileges (args : List CString) (env : MainEnv) :
    ((main args env MainState.init).trace.Pairwise fun e e' => e.OnSockets → ¬ e'.OfBackground) ∧
      (¬ (parseArguments args CliConfig.init).2.Background →
        ∀ e ∈ (main args env MainState.init).trace, ¬ e.OfBackground) := by
  have hexit : ∀ {E : MainEvent → Prop} (status : ℤ), (∀ s, E (.exit s)) →
      Does E (Proc.emit (.exit status)) := fun status hE => .emit (hE status)
  have hend : ∀ status, Foreground (do
      cleanupResources env.cleanup
      Proc.emit (.exit status)) := fun status =>
    .bind (cleanupResources_foreground _) fun _ => hexit status fun _ => id
  constructor
  · refine InPhases.pairwise ((Phased.frame_bind (readArguments_does _ _) fun ret => ?_) _)
    refine .ite (.of_frame (hexit _ fun _ => id)) (.ite (.of_frame (hexit _ fun _ => id)) ?_)
    exact (run_backgroundFirst env).bind_frame hend
  · intro hcli
    unfold main
    rw [bind_trace, ite_trace, ite_trace]
    refine List.forall_mem_append.mpr ⟨(readArguments_does _ _).trace _, ?_⟩
    split_ifs
    · exact (hexit (E := fun e => ¬ e.OfBackground) _ fun _ => id).trace _
    · exact (hexit (E := fun e => ¬ e.OfBackground) _ fun _ => id).trace _
    · exact List.forall_mem_append.mpr
        ⟨run_staysForeground env _ hcli, (hend _).trace _⟩

end Main

end Dntpd
