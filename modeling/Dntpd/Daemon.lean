import Dntpd.Library.ProcFrame
import Dntpd.Types

/-!
# The state of the daemon and the events of its procedures

`Daemon` gathers the variables of all translation units, one record for each unit that owns some
(`main.c` owns the `g_…` globals, here the field `g`).  A function of the daemon is a `DProc`:
what the kernel and the C library answer is an argument of the function, what the function asks
of them (lock operations, clock corrections, datagrams) is its trace.

Lock operations are events and never block: a procedure runs on as if each acquisition had been
granted, and whether it may is a statement about its trace (`lockOps`).
-/

namespace Dntpd

/-! ### main.c -/

/-- The scalar globals of `main.c`. -/
structure Globals where
  timeSynced : Bool
  localStratum : UInt8
  localRefId : UInt32
  localRefTs : NtpTimestamp
  lastSyncTs : NtpTimestamp
  localRootDelay : UInt32
  localRootDisp : UInt32
  localLi : UInt8
  lastDispersionUpdate : ℤ
  localPrecision : Int8
  localPoll : Int8
  peerPoll : Int8
  deriving DecidableEq

/-- The values `main.c` initialises its globals with. -/
def Globals.init : Globals where
  timeSynced := false
  localStratum := 16
  localRefId := refIdLocl
  localRefTs := ⟨0, 0⟩
  lastSyncTs := ⟨0, 0⟩
  localRootDelay := 0
  localRootDisp := 0
  localLi := 3
  lastDispersionUpdate := 0
  localPrecision := -20
  localPoll := 4
  peerPoll := 4

/-- `g_samples` with `g_sample_count`; the array has `MAX_SAMPLES` entries. -/
structure SampleStore where
  entries : ℕ → NtpSample
  count : ℕ
  count_le : count ≤ maxSamples

/-- The empty store. -/
def SampleStore.empty : SampleStore := ⟨fun _ => ⟨0, 0, 0⟩, 0, Nat.zero_le _⟩

/-- The delays of the stored samples, in array order. -/
def SampleStore.delays (s : SampleStore) : List UInt64 :=
  (List.range s.count).map fun i => (s.entries i).delay

/-- An entry of `g_peer_pool`. -/
structure PeerState where
  ip : CString
  port : CString
  stratum : UInt8
  delayUs : UInt64
  offsetUs : ℤ
  jitterUs : UInt64
  rootDisp : UInt32
  lastUpdate : ℤ
  reachable : Bool
  deriving DecidableEq

/-! ### time_sync.c -/

/-- `FREQ_STATE_NSET`, `FREQ_STATE_FSET`, `FREQ_STATE_SYNC`, `FREQ_STATE_RECOVER`. -/
inductive FreqMode
  | nset
  | fset
  | sync
  | recover
  deriving DecidableEq, Repr

structure FreqState where
  ppm : ℚ
  lastUpdate : ℤ
  lastOffsetUs : ℤ
  state : FreqMode
  ppmFilter : ℚ
  dynamicPllGain : ℚ
  dynamicFllGain : ℚ
  deriving DecidableEq

/-- The zero-initialised `g_freq_state`. -/
def FreqState.zero : FreqState := ⟨0, 0, 0, .nset, 0, 0, 0⟩

/-! ### leap_second.c -/

structure LeapSecondState where
  initialized : Bool
  lastCheckTime : ℤ
  nextCheckTime : ℤ
  pendingOffsetUs : ℤ
  pendingLeapDir : UInt8
  eventScheduled : Bool
  eventTime : ℤ
  checkIntervalSec : ℤ
  eventIntervalSec : ℤ
  deriving DecidableEq

/-- The zero-initialised `g_leap_second_state`. -/
def LeapSecondState.zero : LeapSecondState := ⟨false, 0, 0, 0, 0, false, 0, 0, 0⟩

/-! ### ido.c -/

/-- `IdoState`, which `autokey.c` shares under the name `AutokeyState`. -/
structure IdoState where
  idoState : UInt8
  idoOfferReceived : UInt8
  idoResponseSent : UInt8
  idoCapabilities : UInt8
  idoKeyId : UInt8
  idoKey : Vector UInt8 20
  idoEnabled : UInt8
  idoAuthenticated : UInt8
  deriving DecidableEq

/-! ### mode_handler.c -/

structure ModeConfig where
  enableControlMessages : UInt8
  enableSymmetricMode : UInt8
  enableBroadcast : UInt8
  dropUnauthenticatedControl : UInt8
  enableNtpAuth : UInt8
  aclDefaultPolicy : UInt8
  rateLimitInterval : UInt8
  maxResponseRatio : ℚ
  initialStratum : UInt8
  panicThreshold : UInt16
  deriving DecidableEq

structure AclEntry where
  ip : UInt32
  mask : UInt32
  flags : UInt8
  deriving DecidableEq

structure RateLimitEntry where
  ip : UInt32
  lastRequest : ℤ
  count : UInt8
  deriving DecidableEq

/-- `g_mode_config` and the two tables. -/
structure ModeState where
  config : ModeConfig
  aclEntries : List AclEntry
  rateLimitEntries : List RateLimitEntry
  deriving DecidableEq

/-! ### config.c, socket.c, threads.c -/

structure CliConfig where
  configFile : Option CString
  pidFile : Option CString
  logFile : Option CString
  runUser : Option CString
  interface : Option CString
  foreground : ℤ
  debugLevel : ℤ
  noDaemonize : ℤ
  timeoutSec : ℤ
  quitAfterSync : ℤ
  familyPreference : ℤ
  broadcastMode : ℤ
  broadcastAddr : Option CString
  broadcastInterval : ℤ
  deriving DecidableEq

/-- The sockets `socket.c` caches (negative when there is none) and its broadcast clock. -/
structure SocketState where
  syncSock : ℤ
  tcpSock : ℤ
  lastBroadcast : ℤ
  deriving DecidableEq

/-- The part of `PeerThreadContext` a request handler looks at. -/
structure PeerThreadContext where
  sockValid : Bool
  clientAddr : SockAddrIn
  deriving DecidableEq

/-! ### The whole state -/

/-- All variables of the daemon, and `errno` of the thread that runs the procedure. -/
structure Daemon where
  g : Globals
  samples : SampleStore
  peerPool : List PeerState
  freq : FreqState
  leap : LeapSecondState
  ido : IdoState
  mode : ModeState
  cli : CliConfig
  socket : SocketState
  peerCtx : Fin maxPeers → PeerThreadContext
  errno : ℤ

/-- The mutexes that the functions of the daemon take, all non-recursive.  `clock_mutex` is not one
of them: `clock_thread_init` has destroyed it before the clock thread starts, and what is done to it
is modelled with that thread's objects (`ClockObject`). -/
inductive Mutex
  | gMutex
  | gModeMutex
  | gLeapSecondMutex
  | gTcpSockMutex
  | sockMutex (peerIdx : Fin maxPeers)
  deriving DecidableEq

/-- The functions that call `apply_time_correction_slew_or_step`. -/
inductive CorrectionCaller
  | syncNtpTime
  | leapSecondApplyCorrection
  | clockThreadMain
  deriving DecidableEq

/-- The functions that send datagrams. -/
inductive Sender
  | handlePeerRequest
  | handlePeerRequestThread
  | sendBroadcastResponse
  | syncNtpTime
  deriving DecidableEq

/-- What a procedure does outside the daemon's state; `ok` is the outcome of the call. -/
inductive Event
  | lock (m : Mutex)
  | unlock (m : Mutex)
  | applyTimeCorrectionSlewOrStep (caller : CorrectionCaller) (offsetUs : ℤ)
  | updateFrequencyDiscipline (offsetUs : ℤ) (pollExp : ℤ)
  | clockSettime (sec nsec : ℤ) (ok : Bool)
  | adjtime (sec usec : ℤ) (ok : Bool)
  | adjtimex (freq : ℤ) (ok : Bool)
  | sendto (sender : Sender) (dest : SockAddrIn) (bytes : List UInt8) (ok : Bool)
  | close (sock : ℤ)
  deriving DecidableEq

/-- A function of the daemon. -/
abbrev DProc (α : Type) := Proc Daemon Event α

/-! ### Events -/

def lock (m : Mutex) : DProc Unit := Proc.emit (.lock m)
def unlock (m : Mutex) : DProc Unit := Proc.emit (.unlock m)

/-- The operation of an event on the mutex `m`, if it is one. -/
def Event.lockOp (m : Mutex) : Event → Option LockTrace.Op
  | .lock m' => if m' = m then some .acquire else none
  | .unlock m' => if m' = m then some .release else none
  | _ => none

/-- The operations of a trace on the mutex `m`. -/
def lockOps (m : Mutex) (tr : List Event) : List LockTrace.Op := tr.filterMap (Event.lockOp m)

@[simp] theorem lockOps_append (m : Mutex) (tr tr' : List Event) :
    lockOps m (tr ++ tr') = lockOps m tr ++ lockOps m tr' :=
  List.filterMap_append

/-- The event is a lock operation on one of the mutexes `ms`. -/
def Event.LocksOnly (ms : List Mutex) : Event → Prop
  | .lock m => m ∈ ms
  | .unlock m => m ∈ ms
  | _ => False

/-- The datagram an event sends, if it sends one. -/
def Event.sent : Event → Option (Sender × SockAddrIn × List UInt8 × Bool)
  | .sendto sender dest bytes ok => some (sender, dest, bytes, ok)
  | _ => none

/-- The datagrams a trace sends: sender, destination, bytes, and whether the call succeeded. -/
def sends (tr : List Event) : List (Sender × SockAddrIn × List UInt8 × Bool) :=
  tr.filterMap Event.sent

@[simp] theorem sends_nil : sends [] = [] := rfl

@[simp] theorem sends_append (tr tr' : List Event) : sends (tr ++ tr') = sends tr ++ sends tr' :=
  List.filterMap_append

@[simp] theorem sends_cons (e : Event) (tr : List Event) :
    sends (e :: tr) = e.sent.toList ++ sends tr := by
  unfold sends
  rw [List.filterMap_cons]
  cases e.sent <;> rfl

theorem Event.LocksOnly.sent_eq_none {ms : List Mutex} {e : Event} (he : e.LocksOnly ms) :
    e.sent = none := by
  cases e with
  | sendto => exact he.elim
  | _ => rfl

/-! ### Calls that may fail -/

/-- A call whose outcome is `r`: a failure leaves its error number in `errno`, a success leaves
`errno` as it is. -/
def sys {α : Type} (r : Except Errno α) : DProc (Except Errno α) := do
  match r with
  | .ok _ => pure r
  | .error e =>
    Proc.update fun d => { d with errno := e.val }
    pure r

@[simp] theorem sys_ret {α : Type} (r : Except Errno α) (d : Daemon) : (sys r d).ret = r := by
  cases r <;> rfl

@[simp] theorem sys_trace {α : Type} (r : Except Errno α) (d : Daemon) : (sys r d).trace = [] := by
  cases r <;> rfl

@[simp] theorem toBool_ok {ε α : Type} (a : α) : (.ok a : Except ε α).toBool = true := rfl

@[simp] theorem toBool_error {ε α : Type} (e : ε) : (.error e : Except ε α).toBool = false := rfl

/-- A call changes at most `errno`. -/
theorem sys_frame {α : Type} (r : Except Errno α) (E : Event → Prop) :
    Proc.Frame (fun d : Daemon => { d with errno := 0 }) E (sys r) where
  state d := by cases r <;> rfl
  trace d e he := by
    rw [sys_trace] at he
    exact absurd he List.not_mem_nil

end Dntpd
