import Dntpd.ClockThreadObjects
import Dntpd.Initial
import Dntpd.Library.Lifecycle

/-!
# The objects of the clock thread are dead when it starts

`clock_thread_init` has no return in front of its cleanup label, so it destroys what it has
initialised also when it succeeds.  After `start_clock_thread` has returned 0 no later call finds an
object alive, and `cleanup_clock_thread` destroys both of them a second time
(`clockObjects_dead`).  A failing initialisation leaves nothing behind.
-/

namespace Dntpd

open Proc Lifecycle

/-! ### Operations of calls -/

/-- The operations of a call on the objects. -/
def ObjectCall.ops : ObjectCall → List (Op ClockObject)
  | .mutexInit ok => if ok then [.init .clockMutex] else []
  | .condInit ok => if ok then [.init .clockCond] else []
  | .mutexDestroy => [.destroy .clockMutex]
  | .condDestroy => [.destroy .clockCond]
  | .mutexLock => [.use .clockMutex]
  | .mutexUnlock => [.use .clockMutex]
  | .condSignal => [.use .clockCond]
  | .condTimedwait => [.use .clockCond, .use .clockMutex]

/-- The operations of a trace. -/
def objectOps (tr : List ObjectCall) : List (Op ClockObject) := tr.flatMap ObjectCall.ops

/-- A call other than those that initialise and destroy. -/
def ObjectCall.Uses : ObjectCall → Prop
  | .mutexInit _ => False
  | .condInit _ => False
  | .mutexDestroy => False
  | .condDestroy => False
  | _ => True

theorem ObjectCall.Uses.ops {c : ObjectCall} (hc : c.Uses) :
    c.ops ≠ [] ∧ ∀ op ∈ c.ops, op.IsUse := by
  cases c <;> first | exact hc.elim | decide

/-- A trace of uses has none but uses for operations, and at least as many. -/
theorem objectOps_uses {tr : List ObjectCall} (h : ∀ c ∈ tr, c.Uses) :
    (objectOps tr = [] ↔ tr = []) ∧ ∀ op ∈ objectOps tr, op.IsUse := by
  constructor
  · unfold objectOps
    rw [List.flatMap_eq_nil_iff]
    constructor
    · intro hnil
      exact List.eq_nil_iff_forall_not_mem.mpr fun c hc => (h c hc).ops.1 (hnil c hc)
    · rintro rfl c hc
      exact absurd hc List.not_mem_nil
  · intro op hop
    obtain ⟨c, hc, hop⟩ := List.mem_flatMap.mp hop
    exact (h c hc).ops.2 op hop

namespace ClockThreadObjects

/-! ### Start -/

theorem clockThreadInit_ret (intervalMs : ℤ) (env : StartEnv) (s : ClockThreadState) :
    (clockThreadInit intervalMs env s).ret = 0 ↔ env.mutexInit = true ∧ env.condInit = true := by
  unfold clockThreadInit cleanupMutex
  have hfail : ¬ (-1 : ℤ) = 0 := by decide
  cases env.mutexInit with
  | false => exact iff_of_false hfail nofun
  | true =>
    cases env.condInit with
    | false => exact iff_of_false hfail nofun
    | true => exact iff_of_true rfl ⟨rfl, rfl⟩

/-- Whatever the outcome, what is initialised is destroyed. -/
theorem clockThreadInit_trace (intervalMs : ℤ) (env : StartEnv) (s : ClockThreadState) :
    (clockThreadInit intervalMs env s).trace = .mutexInit env.mutexInit ::
      if env.mutexInit = true then [.condInit env.condInit, .mutexDestroy, .condDestroy]
      else [] := by
  unfold clockThreadInit cleanupMutex
  cases env.mutexInit with
  | false => rfl
  | true =>
    cases env.condInit with
    | false => rfl
    | true => rfl

/-- The rest of `start_clock_thread` makes no call on the objects. -/
theorem startClockThread_trace (intervalMs : ℤ) (env : StartEnv) (s : ClockThreadState) :
    (startClockThread intervalMs env s).trace = (clockThreadInit intervalMs env s).trace := by
  unfold startClockThread
  rw [bind_trace, ite_trace, ite_trace, ite_trace]
  split_ifs <;> exact List.append_nil _

theorem clockThreadInit_ret_of_start {intervalMs : ℤ} {env : StartEnv} {s : ClockThreadState}
    (h : (startClockThread intervalMs env s).ret = 0) :
    (clockThreadInit intervalMs env s).ret = 0 := by
  by_contra hfail
  unfold startClockThread at h
  rw [bind_ret, if_pos hfail, pure_ret] at h
  exact absurd h (by decide)

/-- A start that succeeds leaves both objects destroyed. -/
theorem after_start {intervalMs : ℤ} {env : StartEnv} {s : ClockThreadState}
    (h : (startClockThread intervalMs env s).ret = 0) (lives : ClockObject → Life)
    (o : ClockObject) :
    after (objectOps (startClockThread intervalMs env s).trace) lives o = .destroyed := by
  obtain ⟨hmutex, hcond⟩ :=
    (clockThreadInit_ret intervalMs env s).mp (clockThreadInit_ret_of_start h)
  rw [startClockThread_trace, clockThreadInit_trace, hmutex, hcond]
  cases o with
  | clockMutex => rfl
  | clockCond => rfl

/-- An initialisation, which may fail, has destroyed what it initialised. -/
theorem after_init {intervalMs : ℤ} {env : StartEnv} {s : ClockThreadState}
    (lives : ClockObject → Life) {o : ClockObject}
    (ho : .init o ∈ objectOps (clockThreadInit intervalMs env s).trace) :
    after (objectOps (clockThreadInit intervalMs env s).trace) lives o = .destroyed := by
  rw [clockThreadInit_trace] at ho ⊢
  cases hmutex : env.mutexInit with
  | false =>
    rw [hmutex] at ho
    exact absurd ho List.not_mem_nil
  | true =>
    cases o with
    | clockMutex => cases env.condInit <;> rfl
    | clockCond => cases env.condInit <;> rfl

/-! ### Later calls -/

/-- A procedure that does not initialise or destroy. -/
abbrev UsesOnly {α : Type} (p : ObjectProc α) : Prop := Frame (fun _ => ()) ObjectCall.Uses p

theorem onDaemon_usesOnly {α : Type} (p : DProc α) : UsesOnly (onDaemon p) :=
  ⟨fun _ => rfl, fun _ _ he => absurd he List.not_mem_nil⟩

theorem updateSystemClock_usesOnly (offsetUs correction : ℤ) :
    UsesOnly (updateSystemClock offsetUs correction) :=
  .bind (.emit trivial) fun _ => .bind (.update fun _ => rfl) fun _ => .emit trivial

theorem clockThreadWait_usesOnly (env : ClockThreadEnv) : UsesOnly (clockThreadWait env) := by
  unfold clockThreadWait
  refine .bind (onDaemon_usesOnly _) fun r => ?_
  cases r with
  | error e => exact .pure _
  | ok now =>
    refine .bind .read fun s => .bind (.emit trivial) fun _ => .bind (.emit trivial) fun _ => ?_
    exact .bind (.emit trivial) fun _ => .pure _

theorem clockThreadIteration_usesOnly (env : ClockThreadEnv) :
    UsesOnly (clockThreadIteration env) := by
  unfold clockThreadIteration
  refine .bind (onDaemon_usesOnly _) fun r => ?_
  cases r with
  | error e => exact .pure _
  | ok tv =>
    refine .bind .read fun s => .bind (onDaemon_usesOnly _) fun correction => ?_
    exact .bind (updateSystemClock_usesOnly _ _) fun _ => clockThreadWait_usesOnly env

/-- Without the calls on the objects an iteration is that of the model. -/
theorem clockThreadIteration_model (env : ClockThreadEnv) (s : ClockThreadState) :
    let r := Dntpd.clockThreadIteration s.ctx env s.daemon
    (clockThreadIteration env s).ret = r.ret.2 ∧
      (clockThreadIteration env s).state = { s with ctx := r.ret.1, daemon := r.state } := by
  obtain ⟨running, gettimeofday, correction, deadlineClock, timedwait, interrupted⟩ := env
  cases gettimeofday with
  | error e => exact ⟨rfl, rfl⟩
  | ok tv =>
    cases deadlineClock with
    | error e => exact ⟨rfl, rfl⟩
    | ok now => exact ⟨rfl, rfl⟩

/-- A call of the API, or a step of the thread. -/
inductive Call
  | notify
  | getLastOffset
  | getLastCorrection
  | entry (serverCount : ℕ)
  | iteration (env : ClockThreadEnv)
  | stop

/-- Perform a call. -/
def Call.perform : Call → ObjectProc Unit
  | notify => do
    let _ ← clockThreadNotify
    return ()
  | getLastOffset => do
    let _ ← clockThreadGetLastOffset
    return ()
  | getLastCorrection => do
    let _ ← clockThreadGetLastCorrection
    return ()
  | entry serverCount => clockThreadEntry serverCount
  | iteration env => do
    let _ ← clockThreadIteration env
    return ()
  | stop => stopClockThread

/-- Perform the calls one after the other. -/
def performAll : List Call → ObjectProc Unit
  | [] => return ()
  | call :: calls => do
    call.perform
    performAll calls

theorem perform_usesOnly (call : Call) : UsesOnly call.perform := by
  cases call with
  | notify =>
    exact .bind (.bind (.emit trivial) fun _ => .bind (.emit trivial) fun _ =>
      .bind (.emit trivial) fun _ => .pure _) fun _ => .pure _
  | getLastOffset =>
    exact .bind (.bind (.emit trivial) fun _ => .bind .read fun _ =>
      .bind (.emit trivial) fun _ => .pure _) fun _ => .pure _
  | getLastCorrection =>
    exact .bind (.bind (.emit trivial) fun _ => .bind .read fun _ =>
      .bind (.emit trivial) fun _ => .pure _) fun _ => .pure _
  | entry serverCount => exact .update fun _ => rfl
  | iteration env => exact .bind (clockThreadIteration_usesOnly env) fun _ => .pure _
  | stop =>
    exact .bind .read fun s => .ite (.pure _) (.bind (.update fun _ => rfl) fun _ =>
      .bind (.emit trivial) fun _ => .bind (.emit trivial) fun _ => .emit trivial)

theorem performAll_usesOnly (calls : List Call) : UsesOnly (performAll calls) := by
  induction calls with
  | nil => exact .pure _
  | cons call calls ih => exact .bind (perform_usesOnly call) fun _ => ih

/-! ### Runs -/

/-- A start, calls, and a cleanup. -/
structure Lifetime where
  intervalMs : ℤ
  env : StartEnv
  calls : List Call

namespace Lifetime

variable (run : Lifetime) (s : ClockThreadState)

/-- The start. -/
def started : Outcome ClockThreadState ObjectCall ℤ := startClockThread run.intervalMs run.env s

/-- The calls after it. -/
def served : Outcome ClockThreadState ObjectCall Unit :=
  performAll run.calls (run.started s).state

/-- The cleanup after them. -/
def cleaned : Outcome ClockThreadState ObjectCall Unit :=
  cleanupClockThread (run.served s).state

/-- The operations before the cleanup. -/
def opsBefore : List (Op ClockObject) :=
  objectOps (run.started s).trace ++ objectOps (run.served s).trace

/-- Every use is of an object that is initialised, and the cleanup destroys each object once, which
is alive until then. -/
structure ObjectsAlive (lives : ClockObject → Life) : Prop where
  uses : OnLive Op.IsUse (run.opsBefore s) lives
  destroys : ∀ o, after (run.opsBefore s) lives o = .initialised ∧
    (objectOps (run.cleaned s).trace).count (.destroy o) = 1

variable {run s}

theorem not_isUse_started : ∀ op ∈ objectOps (run.started s).trace, ¬ op.IsUse := by
  have htrace := (startClockThread_trace run.intervalMs run.env s).trans
    (clockThreadInit_trace run.intervalMs run.env s)
  unfold started
  rw [htrace]
  cases run.env.mutexInit with
  | false =>
    rw [if_neg Bool.false_ne_true]
    decide
  | true => cases run.env.condInit <;> decide

theorem after_started (hstart : (run.started s).ret = 0) (lives : ClockObject → Life)
    (o : ClockObject) : after (objectOps (run.started s).trace) lives o ≠ .initialised := by
  have hdestroyed : after (objectOps (run.started s).trace) lives o = .destroyed :=
    after_start hstart lives o
  rw [hdestroyed]
  exact nofun

theorem served_uses : (objectOps (run.served s).trace = [] ↔ (run.served s).trace = []) ∧
    ∀ op ∈ objectOps (run.served s).trace, op.IsUse :=
  objectOps_uses ((performAll_usesOnly run.calls).trace (run.started s).state)

/-- The uses are of objects alive only if there are none. -/
theorem uses_iff (hstart : (run.started s).ret = 0) (lives : ClockObject → Life) :
    OnLive Op.IsUse (run.opsBefore s) lives ↔ (run.served s).trace = [] := by
  obtain ⟨hnil, huses⟩ := @served_uses run s
  unfold opsBefore
  rw [onLive_append, and_iff_right (onLive_of_forall_not not_isUse_started lives),
    onLive_iff_of_dead (fun op hop => (huses op hop).not_isInit) (after_started hstart lives),
    ← hnil, List.eq_nil_iff_forall_not_mem]
  exact forall_congr' fun op =>
    ⟨fun h hop => h hop (huses op hop), fun h hop => absurd hop h⟩

/-- Before the cleanup no object is alive. -/
theorem after_opsBefore (hstart : (run.started s).ret = 0) (lives : ClockObject → Life)
    (o : ClockObject) : after (run.opsBefore s) lives o ≠ .initialised := by
  obtain ⟨-, huses⟩ := @served_uses run s
  unfold opsBefore
  rw [after_append]
  exact after_dead (fun op hop => (huses op hop).not_isInit) (after_started hstart lives) o

end Lifetime

end ClockThreadObjects

open ClockThreadObjects

/-- **The objects of the clock thread are dead when they are used**: in no run that starts with a
success are they alive throughout; its uses are of objects alive only if there are none, and its
cleanup destroys what is destroyed.  An initialisation that fails destroys what it initialised. -/
theorem clockObjects_dead (run : Lifetime) {s : ClockThreadState}
    (hstart : (run.started s).ret = 0) (lives : ClockObject → Life) :
    ¬ run.ObjectsAlive s lives ∧
      (OnLive Op.IsUse (run.opsBefore s) lives ↔ (run.served s).trace = []) ∧
      (∀ o, after (run.opsBefore s) lives o ≠ .initialised) ∧
      ∀ (intervalMs : ℤ) (env : StartEnv) (s' : ClockThreadState) (lives' : ClockObject → Life)
        (o : ClockObject), (clockThreadInit intervalMs env s').ret ≠ 0 →
        .init o ∈ objectOps (clockThreadInit intervalMs env s').trace →
        after (objectOps (clockThreadInit intervalMs env s').trace) lives' o = .destroyed := by
  have hdead := Lifetime.after_opsBefore hstart lives
  refine ⟨fun halive => ?_, Lifetime.uses_iff hstart lives, hdead, ?_⟩
  · exact hdead .clockMutex (halive.destroys .clockMutex).1
  · exact fun _ _ _ lives' _ _ ho => after_init lives' ho

/-- A start that succeeds, a notification and the cleanup. -/
def notifiedLifetime : Lifetime := ⟨1000, ⟨true, true, true, true⟩, [.notify]⟩

/-- The state before the first start. -/
def clockThreadIdle : ClockThreadState := ⟨⟨0, 0, 0⟩, false, Daemon.init⟩

theorem clockObjects_dead_notified :
    ¬ notifiedLifetime.ObjectsAlive clockThreadIdle fun _ => .uninitialised :=
  (clockObjects_dead notifiedLifetime rfl fun _ => .uninitialised).1

/-- The notification locks a mutex that is destroyed, and the cleanup destroys it again. -/
theorem notifiedLifetime_fails :
    (notifiedLifetime.started clockThreadIdle).ret = 0 ∧
      ¬ OnLive Op.IsUse (notifiedLifetime.opsBefore clockThreadIdle) (fun _ => .uninitialised) ∧
      ∀ o ∈ [ClockObject.clockMutex, .clockCond],
        (notifiedLifetime.opsBefore clockThreadIdle).count (.destroy o) = 1 ∧
        (objectOps (notifiedLifetime.cleaned clockThreadIdle).trace).count (.destroy o) = 1 := by
  decide

end Dntpd
