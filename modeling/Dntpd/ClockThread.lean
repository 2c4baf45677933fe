import Dntpd.TimeCorrection

/-!
# The clock thread (`clock_thread_main` of `threads.c`)

The context is passed through the loop; its mutex and condition variable only serve those who read
it, and are left out.  The running flag belongs to the other threads, so what is read of it is an
answer of the outside, as is the status of the wait.
-/

namespace Dntpd

open CInt

/-- `ClockThreadContext`. -/
structure ClockThreadContext where
  intervalMs : ℤ
  lastOffsetUs : ℤ
  lastCorrection : ℤ
  deriving DecidableEq

def ETIMEDOUT : ℤ := 110
def EINTR : ℤ := 4

/-- What the outside answers during one iteration.  `timedwait` is the status of the wait up to a
deadline in seconds and nanoseconds, `interrupted` the running flag behind an interrupted wait. -/
structure ClockThreadEnv where
  running : Bool
  gettimeofday : Except Errno Timeval
  correction : CorrectionEnv
  deadlineClock : Except Errno Timespec
  timedwait : ℤ → ℤ → ℤ
  interrupted : Bool

/-- `now_ns`: the nanoseconds of a `gettimeofday` reading. -/
def nowNs (tv : Timeval) : ℤ := int64 (int64 (tv.sec * 1000000000) + tv.usec * 1000)

/-- `expected_ns`: what the thread takes a timestamp for. -/
def expectedNs (t : NtpTimestamp) : ℤ :=
  -- the product with the fraction is one of 32 bits
  int64 (int64 (t.sec.toNat * 1000000000) + (t.frac * 1000).toNat)

/-- `update_system_clock`, which only notes the correction. -/
def updateSystemClock (ctx : ClockThreadContext) (offsetUs correction : ℤ) : ClockThreadContext :=
  { ctx with lastOffsetUs := offsetUs, lastCorrection := correction }

/-- The absolute time a wait of `intervalMs` ends at. -/
def waitDeadline (now : Timespec) (intervalMs : ℤ) : ℤ × ℤ :=
  let sec := now.sec + intervalMs.tdiv 1000
  let nsec := (now.nsec : ℤ) + intervalMs.tmod 1000 * 1000000
  if nsec ≥ 1000000000 then (sec + 1, nsec - 1000000000) else (sec, nsec)

/-- The end of an iteration: whether the loop goes on after the wait. -/
def clockThreadWait (intervalMs : ℤ) (env : ClockThreadEnv) : DProc Bool := do
  match ← sys env.deadlineClock with
  | .error _ => return true
  | .ok now =>
    -- a condition that is signalled ends the thread
    let deadline := waitDeadline now intervalMs
    let rc := env.timedwait deadline.1 deadline.2
    return if rc = ETIMEDOUT then true else if rc = EINTR then env.interrupted else false

/-- One iteration of the loop: the context, and whether the loop goes on. -/
def clockThreadIteration (ctx : ClockThreadContext) (env : ClockThreadEnv) :
    DProc (ClockThreadContext × Bool) := do
  match ← sys env.gettimeofday with
  | .error _ => return (ctx, true)
  | .ok tv =>
    lock .gMutex
    let d ← Proc.read
    unlock .gMutex
    let offsetNs := int64 (nowNs tv - expectedNs d.g.lastSyncTs)
    let offsetUs := offsetNs.tdiv 1000
    let correction ← applyTimeCorrectionSlewOrStep .clockThreadMain offsetUs env.correction
    let goesOn ← clockThreadWait ctx.intervalMs env
    return (updateSystemClock ctx offsetUs correction, goesOn)

/-- The loop, as far as there are answers. -/
def clockThreadLoop (ctx : ClockThreadContext) : List ClockThreadEnv → DProc ClockThreadContext
  | [] => return ctx
  | env :: envs => do
    if env.running then
      let r ← clockThreadIteration ctx env
      if r.2 then clockThreadLoop r.1 envs else return r.1
    else return ctx

/-- `clock_thread_main` for a daemon with `serverCount` servers. -/
def clockThreadMain (serverCount : ℕ) (ctx : ClockThreadContext) (envs : List ClockThreadEnv) :
    DProc ClockThreadContext :=
  if serverCount = 0 then return ctx else clockThreadLoop ctx envs

end Dntpd
