import Dntpd.LeapSecond
import Dntpd.MainLoop
import Dntpd.ModeConfigFile
import Dntpd.PeerThread
import Dntpd.SystemPrecision
import Dntpd.TcpListener

/-!
# The program (`main.c`)

`main` is put together from the functions of the other modules, each of which works on its part of
the variables.  It hands `cleanup_resources` to `atexit` once the arguments are read, and calls it
itself when a start fails.  Messages are left out, and with them the log file but for the error
number of its `fopen`.  The signal handler sets the flag that the loop reads, and nothing else.
-/

namespace Dntpd

/-- The variables of the program. -/
structure MainState where
  daemon : Daemon
  servers : List ServerConfig
  clockCtx : ClockThreadContext
  clockRunning : Bool
  peerSockets : Fin maxPeers → PeerSocket
  peersRunning : Fin maxPeers → Bool

/-- Their initial values. -/
def MainState.init : MainState where
  daemon := Daemon.init
  servers := []
  clockCtx := ⟨0, 0, 0⟩
  clockRunning := false
  peerSockets := fun _ => PeerSocket.zero
  peersRunning := fun _ => false

/-- What the program does.  `atexit` is the registration of `cleanup_resources`, and `exit` the end
of the process, behind what is registered. -/
inductive MainEvent
  | daemon (e : Event)
  | precision (turn : PrecisionTurn)
  | object (c : ObjectCall)
  | socketCall (c : SocketCall)
  | listener (c : ListenerCall)
  | peer (c : PeerCall)
  | loop (e : LoopEvent)
  | atexit
  | setsid
  | writePidFile (path : CString) (ok : Bool)
  | setgid (gid : ℕ) (ok : Bool)
  | setuid (uid : ℕ) (ok : Bool)
  | writeFreqFile (ppm : ℚ)
  | unlink (path : CString)
  | freeServers
  | exit (status : ℤ)
  deriving DecidableEq

/-- A function of the program. -/
abbrev MainProc (α : Type) := Proc MainState MainEvent α

/-- The program is to run in the background. -/
def CliConfig.Background (cli : CliConfig) : Prop := cli.foreground = 0 ∧ cli.noDaemonize = 0

instance (cli : CliConfig) : Decidable cli.Background := inferInstanceAs (Decidable (_ ∧ _))

namespace Main

/-! ### Functions of the other modules -/

def onDaemon {α : Type} (p : DProc α) : MainProc α :=
  Proc.zoom MainState.daemon (fun s d => { s with daemon := d }) .daemon p

def onPrecision {α : Type} (p : PrecisionProc α) : MainProc α :=
  Proc.zoom MainState.daemon (fun s d => { s with daemon := d }) .precision p

def onServers {α : Type} (p : ServerProc α) : MainProc α :=
  Proc.zoom (fun s => ⟨s.daemon, s.servers⟩)
    (fun s t => { s with daemon := t.daemon, servers := t.servers }) .daemon p

def onClock {α : Type} (p : ObjectProc α) : MainProc α :=
  Proc.zoom (fun s => ⟨s.clockCtx, s.clockRunning, s.daemon⟩)
    (fun s t => { s with clockCtx := t.ctx, clockRunning := t.running, daemon := t.daemon })
    .object p

def onSocket {α : Type} (p : SocketProc α) : MainProc α :=
  Proc.zoom MainState.daemon (fun s d => { s with daemon := d }) .socketCall p

def onListener {α : Type} (p : ListenerProc α) : MainProc α :=
  Proc.zoom MainState.daemon (fun s d => { s with daemon := d }) .listener p

def onPeers {α : Type} (p : PeerProc α) : MainProc α :=
  Proc.zoom (fun s => ⟨s.daemon, s.peerSockets, s.peersRunning⟩)
    (fun s t => { s with daemon := t.daemon, peerSockets := t.sockets, peersRunning := t.running })
    .peer p

def onLoop {α : Type} (p : LoopProc α) : MainProc α :=
  Proc.zoom MainState.daemon (fun s d => { s with daemon := d }) .loop p

/-- A call whose outcome only shows in `errno`. -/
def noteErrno {α : Type} (r : Except Errno α) : MainProc Unit := do
  let _ ← onDaemon (sys r)
  return ()

/-- What the other threads do between two steps of `main`.  `errno`, the arguments, the list of the
servers and the socket of the listener are not theirs. -/
structure Interference where
  act : MainState → MainState
  errno : ∀ s, (act s).daemon.errno = s.daemon.errno
  cli : ∀ s, (act s).daemon.cli = s.daemon.cli
  tcpSock : ∀ s, (act s).daemon.socket.tcpSock = s.daemon.socket.tcpSock
  servers : ∀ s, (act s).servers = s.servers

/-- The other threads do nothing. -/
def Interference.none : Interference :=
  ⟨id, fun _ => rfl, fun _ => rfl, fun _ => rfl, fun _ => rfl⟩

/-! ### Clean-up -/

/-- What the outside does while the program cleans up. -/
structure CleanupEnv where
  others : Interference
  freqFile : Except Errno Unit
  unlink : Except Errno Unit

/-- `save_frequency_persistent`; the frequency goes to the file of which `r` is the `fopen`. -/
def saveFrequencyPersistent (r : Except Errno Unit) : MainProc ℤ := do
  let s ← Proc.read
  if s.daemon.freq.state ≠ .sync then return 0
  else
    noteErrno r
    if r.toBool then
      Proc.emit (.writeFreqFile s.daemon.freq.ppm)
      return 0
    else return 0

/-- The PID file is removed. -/
def removePidFile (r : Except Errno Unit) : MainProc Unit := do
  let s ← Proc.read
  match s.daemon.cli.pidFile with
  | none => return ()
  | some path =>
    Proc.emit (.unlink path)
    noteErrno r

/-- The servers are freed. -/
def releaseServers : MainProc Unit := do
  let s ← Proc.read
  if s.servers = [] then return ()
  else
    Proc.emit .freeServers
    Proc.update fun s => { s with servers := [] }

/-- `cleanup_resources`. -/
def cleanupResources (env : CleanupEnv) : MainProc Unit := do
  Proc.update env.others.act
  onListener TcpListener.stopTcpListener
  onClock ClockThreadObjects.stopClockThread
  onClock ClockThreadObjects.cleanupClockThread
  onPeers PeerThread.stopPeerThread
  onPeers PeerThread.cleanupPeerThread
  -- `ido_state_cleanup` and `leap_second_cleanup`
  onDaemon (Proc.update fun d => { d with ido := idoStateInit d.ido })
  let _ ← onDaemon leapSecondCleanup
  onDaemon modeHandlerCleanup
  let _ ← saveFrequencyPersistent env.freqFile
  removePidFile env.unlink
  releaseServers

/-! ### Going into the background -/

/-- What `getpwnam` finds. -/
structure Passwd where
  uid : ℕ
  gid : ℕ

/-- What the outside answers while the program goes into the background; `getpwnam` leaves an error
number or none. -/
structure BackgroundEnv where
  setsid : Except Errno Unit
  pidFile : Except Errno Unit
  getpwnam : CString → Except (Option Errno) Passwd
  setgid : Except Errno Unit
  setuid : Except Errno Unit

/-- The PID file is written. -/
def writePidFile (r : Except Errno Unit) : MainProc Unit := do
  let s ← Proc.read
  match s.daemon.cli.pidFile with
  | none => return ()
  | some path =>
    Proc.emit (.writePidFile path r.toBool)
    noteErrno r

/-- `apply_user_privileges` from `setuid` on. -/
def applyUid (uid : ℕ) (r : Except Errno Unit) : MainProc ℤ := do
  Proc.emit (.setuid uid r.toBool)
  noteErrno r
  if r.toBool then return 0 else return -1

/-- `apply_user_privileges`. -/
def applyUserPrivileges (username : Option CString) (env : BackgroundEnv) : MainProc ℤ := do
  match username with
  | none => return 0
  | some username =>
    match env.getpwnam username with
    | .error none => return -1
    | .error (some e) =>
      noteErrno (.error e : Except Errno Unit)
      return -1
    | .ok pw =>
      Proc.emit (.setgid pw.gid env.setgid.toBool)
      noteErrno env.setgid
      if env.setgid.toBool then applyUid pw.uid env.setuid else return -1

/-- The program goes into the background, unless it is told not to.  It does not fork, and goes on
if it cannot change the user. -/
def goIntoBackground (env : BackgroundEnv) : MainProc Unit := do
  let s ← Proc.read
  if s.daemon.cli.Background then
    Proc.emit .setsid
    noteErrno env.setsid
    writePidFile env.pidFile
    let _ ← applyUserPrivileges s.daemon.cli.runUser env
    return ()
  else return ()

/-! ### Modules -/

/-- What the outside answers while the modules are initialised: the two files, where an open that
fails leaves an error number, and a file of the frequency may hold no number. -/
structure ModulesEnv where
  modes : ModeConfigFileEnv
  modesErrno : Errno
  freqFile : Except Errno (Option ℚ)

/-- `MODES_CONFIG_FILE`. -/
def modesConfigFile : CString := "/etc/dntpd/modes.conf".toList

/-- The modules are initialised. -/
def initModules (env : ModulesEnv) : MainProc Unit := do
  let _ ← onDaemon modeHandlerInit
  let _ ← onDaemon (modeHandlerParseConfig (some modesConfigFile) env.modes)
  noteErrno (if env.modes.file.isSome then .ok () else .error env.modesErrno)
  onDaemon (Proc.update fun d => { d with ido := idoStateInit d.ido })
  let _ ← onDaemon initFrequencyDiscipline
  noteErrno env.freqFile
  let _ ← onDaemon (loadFrequencyPersistent (env.freqFile.toOption.bind id))
  let _ ← onDaemon leapSecondInit
  return ()

/-! ### Threads -/

/-- What the outside does while the threads are started. -/
structure ThreadsEnv where
  clock : StartEnv
  clockStarted : Interference
  udp : SocketCalls.UdpSocketEnv
  peer : PeerThread.PeerStartEnv
  peerStarted : Interference
  tcp : TcpSocketEnv
  ntpqCreate : Bool

/-- The listener of ntpq is started; the program goes on if that fails. -/
def startNtpq (env : ThreadsEnv) : MainProc Unit := do
  let sock ← onListener (TcpListener.startTcpListener env.tcp)
  if sock ≥ 0 then
    let ret ← onListener (TcpListener.startNtpqThread env.ntpqCreate)
    if ret ≠ 0 then onListener TcpListener.stopTcpListener else return ()
  else return ()

/-- The socket and the thread for the requests: whether they are there. -/
def startPeer (env : ThreadsEnv) : MainProc Bool := do
  let peerSock ← onSocket (SocketCalls.createUdpSocket ntpPort.toNat env.udp)
  if peerSock ≥ 0 then
    let ret ← onPeers (PeerThread.startPeerThread peerSock (some "0.0.0.0".toList)
      (some "123".toList) 0 env.peer)
    if ret ≠ 0 then
      onSocket (SocketCalls.networkCloseSocket peerSock)
      return false
    else return true
  else return false

/-- The threads are started: whether those for the clock and for the requests are. -/
def startThreads (env : ThreadsEnv) : MainProc Bool := do
  let s ← Proc.read
  -- the interval is in seconds, and is taken for milliseconds
  let ret ← onClock (ClockThreadObjects.startClockThread (syncInterval s.daemon.cli) env.clock)
  if ret ≠ 0 then return false
  else
    Proc.update env.clockStarted.act
    let started ← startPeer env
    if started then
      Proc.update env.peerStarted.act
      startNtpq env
      return true
    else return false

/-! ### main -/

/-- What the outside does during a run: `rounds` are the turns of the loop up to a signal. -/
structure MainEnv where
  argumentsErrno : ℤ
  logFile : Except Errno Unit
  clockGetres : Except Errno Timespec
  serverFile : ServerConfigEnv
  background : BackgroundEnv
  modules : ModulesEnv
  threads : ThreadsEnv
  rounds : List RoundEnv
  failedCleanup : CleanupEnv
  cleanup : CleanupEnv

/-- `EXIT_SUCCESS` and `EXIT_FAILURE`. -/
def exitSuccess : ℤ := 0
def exitFailure : ℤ := 1

/-- The log file is opened. -/
def openLogFile (r : Except Errno Unit) : MainProc Unit := do
  let s ← Proc.read
  if s.daemon.cli.logFile = none then return () else noteErrno r

/-- The loop of `main`. -/
def runLoop (rounds : List RoundEnv) : MainProc Unit := do
  let s ← Proc.read
  let servers ← onLoop (syncLoop s.servers rounds)
  Proc.update fun s => { s with servers := servers }

/-- `main` from `mode_handler_init` on: the status it returns. -/
def serveThreads (env : MainEnv) : MainProc ℤ := do
  initModules env.modules
  let started ← startThreads env.threads
  if started then
    runLoop env.rounds
    return exitSuccess
  else
    cleanupResources env.failedCleanup
    return exitFailure

/-- `main` once there are servers: the status it returns. -/
def serve (env : MainEnv) : MainProc ℤ := do
  goIntoBackground env.background
  serveThreads env

/-- `main` behind its arguments: the status it returns. -/
def run (env : MainEnv) : MainProc ℤ := do
  Proc.emit .atexit
  openLogFile env.logFile
  onPrecision (setLocalPrecision env.clockGetres)
  let count ← onServers (loadServerConfig env.serverFile)
  if count ≤ 0 then return exitFailure else serve env

/-- The arguments are read: what `parse_arguments` returns. -/
def readArguments (args : List CString) (errno : ℤ) : MainProc ℤ := do
  let s ← Proc.read
  let r := parseArguments args s.daemon.cli
  Proc.update fun s => { s with daemon := { s.daemon with cli := r.2, errno := errno } }
  return r.1

/-- `main` with what is registered for its end. -/
def main (args : List CString) (env : MainEnv) : MainProc Unit := do
  let ret ← readArguments args env.argumentsErrno
  if ret = 2 ∨ ret = 3 then Proc.emit (.exit exitSuccess)
  else if ret ≠ 0 then Proc.emit (.exit exitFailure)
  else
    let status ← run env
    cleanupResources env.cleanup
    Proc.emit (.exit status)

end Main

end Dntpd
