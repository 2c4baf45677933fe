import Dntpd.ClockThread

/-!
# The mutex and the condition variable of the clock thread (`threads.c`)

The functions that start, ask, stop and clean up the clock thread, and the iteration of its loop
once more, with the calls on `clock_mutex` and `clock_cond` for events.  They work on `g_clock_ctx`
and `g_clock_thread_running`; what an iteration does to the rest of the daemon is that of
`ClockThread`, without its events.  The results of `pthread_mutex_destroy` and
`pthread_cond_destroy` are only logged.
-/

namespace Dntpd

open CInt

/-- The objects of `g_clock_ctx`. -/
inductive ClockObject
  | clockMutex
  | clockCond
  deriving DecidableEq

/-- A call on one of them; `ok` is the outcome of an initialisation. -/
inductive ObjectCall
  | mutexInit (ok : Bool)
  | condInit (ok : Bool)
  | mutexDestroy
  | condDestroy
  | mutexLock
  | mutexUnlock
  | condSignal
  | condTimedwait
  deriving DecidableEq

/-- What the functions share. -/
structure ClockThreadState where
  ctx : ClockThreadContext
  running : Bool
  daemon : Daemon

/-- A function that makes such calls. -/
abbrev ObjectProc (α : Type) := Proc ClockThreadState ObjectCall α

/-- What `pthread_mutex_init`, `pthread_cond_init`, `pthread_create` and `pthread_detach` answer:
whether they succeed. -/
structure StartEnv where
  mutexInit : Bool
  condInit : Bool
  create : Bool
  detach : Bool

namespace ClockThreadObjects

/-! ### Start -/

/-- From the label `cleanup_mutex` on; the attribute object is a local variable. -/
def cleanupMutex (ret : ℤ) : ObjectProc ℤ := do
  Proc.emit .mutexDestroy
  Proc.emit .condDestroy
  return ret

/-- `clock_thread_init`. -/
def clockThreadInit (intervalMs : ℤ) (env : StartEnv) : ObjectProc ℤ := do
  Proc.update fun s => { s with ctx := ⟨intervalMs, 0, 0⟩ }
  Proc.emit (.mutexInit env.mutexInit)
  if env.mutexInit = false then return -1
  else
    Proc.emit (.condInit env.condInit)
    if env.condInit = false then cleanupMutex (-1)
    -- there is no return in front of the label
    else cleanupMutex 0

/-- `start_clock_thread`. -/
def startClockThread (intervalMs : ℤ) (env : StartEnv) : ObjectProc ℤ := do
  let r ← clockThreadInit intervalMs env
  if r ≠ 0 then return -1
  else if env.create = false then return -1
  else if env.detach = false then return -1
  else return 0

/-! ### The thread -/

/-- A procedure of the daemon, whose events are on other objects. -/
def onDaemon {α : Type} (p : DProc α) : ObjectProc α := fun s =>
  ⟨(p s.daemon).ret, { s with daemon := (p s.daemon).state }, []⟩

/-- The beginning of `clock_thread_main`, for a daemon with `serverCount` servers. -/
def clockThreadEntry (serverCount : ℕ) : ObjectProc Unit :=
  Proc.update fun s => { s with running := decide (serverCount ≠ 0) }

/-- `update_system_clock`. -/
def updateSystemClock (offsetUs correction : ℤ) : ObjectProc Unit := do
  Proc.emit .mutexLock
  Proc.update fun s =>
    { s with ctx := { s.ctx with lastOffsetUs := offsetUs, lastCorrection := correction } }
  Proc.emit .mutexUnlock

/-- The end of an iteration. -/
def clockThreadWait (env : ClockThreadEnv) : ObjectProc Bool := do
  match ← onDaemon (sys env.deadlineClock) with
  | .error _ => return true
  | .ok now =>
    let s ← Proc.read
    let deadline := waitDeadline now s.ctx.intervalMs
    Proc.emit .mutexLock
    Proc.emit .condTimedwait
    let rc := env.timedwait deadline.1 deadline.2
    Proc.emit .mutexUnlock
    return if rc = ETIMEDOUT then true else if rc = EINTR then env.interrupted else false

/-- One iteration of the loop: whether the loop goes on. -/
def clockThreadIteration (env : ClockThreadEnv) : ObjectProc Bool := do
  match ← onDaemon (sys env.gettimeofday) with
  | .error _ => return true
  | .ok tv =>
    let s ← Proc.read
    let offsetNs := int64 (nowNs tv - expectedNs s.daemon.g.lastSyncTs)
    let offsetUs := offsetNs.tdiv 1000
    let correction ←
      onDaemon (applyTimeCorrectionSlewOrStep .clockThreadMain offsetUs env.correction)
    updateSystemClock offsetUs correction
    clockThreadWait env

/-! ### Other threads -/

/-- `stop_clock_thread`; the thread it joins is one that `start_clock_thread` detached. -/
def stopClockThread : ObjectProc Unit := do
  let s ← Proc.read
  if s.running = false then return ()
  else
    Proc.update fun s => { s with running := false }
    Proc.emit .mutexLock
    Proc.emit .condSignal
    Proc.emit .mutexUnlock

/-- `clock_thread_notify`. -/
def clockThreadNotify : ObjectProc ℤ := do
  Proc.emit .mutexLock
  Proc.emit .condSignal
  Proc.emit .mutexUnlock
  return 0

/-- `clock_thread_get_last_offset`. -/
def clockThreadGetLastOffset : ObjectProc ℤ := do
  Proc.emit .mutexLock
  let s ← Proc.read
  Proc.emit .mutexUnlock
  return s.ctx.lastOffsetUs

/-- `clock_thread_get_last_correction`. -/
def clockThreadGetLastCorrection : ObjectProc ℤ := do
  Proc.emit .mutexLock
  let s ← Proc.read
  Proc.emit .mutexUnlock
  return s.ctx.lastCorrection

/-- `cleanup_clock_thread`. -/
def cleanupClockThread : ObjectProc Unit := do
  Proc.emit .mutexDestroy
  Proc.emit .condDestroy

end ClockThreadObjects

end Dntpd
