import Dntpd.ClockThread
import Dntpd.Library.LockOrder
import Dntpd.ModeConfigFile
import Dntpd.Spec.LeapSecond
import Dntpd.Spec.Threads
import Dntpd.TimeSync

/-!
# The order of the mutexes

A thread takes `g_mode_mutex` inside a section of `g_mutex` or of `g_leap_second_mutex`, and no
other mutex inside a section of a different one.  Some functions take the mutex that they or their
callers hold; they keep `NestedRule`, which allows it.  The others keep every rule that lets them
take what they take.
-/

namespace Dntpd

open Proc LockOrder

/-- What an event does to the mutexes. -/
def Event.mutexOp : Event → Option (LockOrder.Op Mutex)
  | .lock m => some (.acquire m)
  | .unlock m => some (.release m)
  | _ => none

/-- `g_mode_mutex` comes last, and the others are not taken inside one another. -/
def Mutex.rank : Mutex → Fin 2
  | .gModeMutex => 1
  | _ => 0

/-- The rules on which mutex may be taken inside a section of which. -/
abbrev MutexRule := Mutex → Mutex → Prop

/-- A thread that holds the mutexes `pre` keeps the rule as it does `p`, and then holds none but the
mutexes `post`. -/
abbrev MutexOrder {α : Type} (r : MutexRule) (pre : Set Mutex) (p : DProc α) (post : Set Mutex) :
    Prop :=
  InOrder Event.mutexOp r pre p post

/-- The same for a procedure that gives back what it takes. -/
abbrev InMutexOrder {α : Type} (r : MutexRule) (held : Set Mutex) (p : DProc α) : Prop :=
  MutexOrder r held p held

/-- Inside a section of `g_mutex` or of `g_leap_second_mutex` only `g_mode_mutex` is taken, or the
mutex that is held. -/
abbrev NestedRule : MutexRule := InsideOrSame Mutex.rank

/-! ### Sections -/

section

variable {α : Type} {r : MutexRule} {held : Set Mutex} {m : Mutex}

theorem inMutexOrder_section (hm : Admits r held m) {f : Unit → DProc α}
    (hf : MutexOrder r (insert m held) (f ()) held) : InMutexOrder r held (lock m >>= f) :=
  .bind (.acquire rfl hm) fun _ => hf

/-- The end of a section. -/
theorem mutexOrder_unlock {f : Unit → DProc α} (hf : InMutexOrder r held (f ())) :
    MutexOrder r (insert m held) (unlock m >>= f) held := by
  have hunlock : MutexOrder r (insert m held) (unlock m) held :=
    InOrder.mono (.release rfl) fun m' hm' =>
      (Set.mem_insert_iff.mp hm'.1).resolve_left hm'.2
  exact hunlock.bind fun _ => hf

/-- The end of a section with what it returns. -/
theorem mutexOrder_exit (a : α) : MutexOrder r (insert m held) (do
    unlock m
    return a) held :=
  mutexOrder_unlock (.pure a)

/-- A section that reads and returns something. -/
theorem inMutexOrder_read (hm : Admits r held m) (f : Daemon → α) :
    InMutexOrder r held (do
      lock m
      let d ← Proc.read
      unlock m
      return f d) :=
  inMutexOrder_section hm (.bind .read fun _ => mutexOrder_exit _)

/-- A section that updates the daemon and returns something. -/
theorem inMutexOrder_update (hm : Admits r held m) (g : Daemon → Daemon) (a : α) :
    InMutexOrder r held (do
      lock m
      Proc.update g
      unlock m
      return a) :=
  inMutexOrder_section hm (.bind (.update g) fun _ => mutexOrder_exit _)

theorem inMutexOrder_sys (c : Except Errno α) : InMutexOrder r held (sys c) :=
  .of_frame (sys_frame c fun _ => False) nofun

theorem inMutexOrder_emit {e : Event} (he : e.mutexOp = none) :
    InMutexOrder r held (Proc.emit e : DProc Unit) :=
  have hframe : Frame id (fun e' => e'.mutexOp = none) (Proc.emit e : DProc Unit) := .emit he
  .of_frame hframe fun _ h => h

end

/-! ### The mode handler -/

section

variable {r : MutexRule} {held : Set Mutex} (hmode : Admits r held .gModeMutex)

include hmode

theorem modeHandlerGetConfig_inMutexOrder : InMutexOrder r held modeHandlerGetConfig :=
  inMutexOrder_read hmode _

/-- A test on the configuration. -/
theorem withConfig_inMutexOrder {α : Type} {f : ModeConfig → DProc α}
    (hf : ∀ cfg, InMutexOrder r held (f cfg)) : InMutexOrder r held (modeHandlerGetConfig >>= f) :=
  .bind (modeHandlerGetConfig_inMutexOrder hmode) hf

theorem aclCheckClient_inMutexOrder (clientIp : Option CString) (packetMode : UInt8) :
    InMutexOrder r held (aclCheckClient clientIp packetMode) := by
  have htable : InMutexOrder r held (aclCheckTable (parseIp clientIp) packetMode) :=
    inMutexOrder_read hmode _
  unfold aclCheckClient
  refine .ite (.pure _) (.ite (.pure _) (.ite ?_ (.ite ?_ htable)))
  · exact withConfig_inMutexOrder hmode fun _ => .ite (.pure _) htable
  · exact withConfig_inMutexOrder hmode fun _ => .ite (.pure _) htable

theorem rateLimitCheck_inMutexOrder (clientIp : Option CString) (now : ℤ) :
    InMutexOrder r held (rateLimitCheck clientIp now) := by
  unfold rateLimitCheck
  refine .ite (.pure _) (withConfig_inMutexOrder hmode fun cfg => .bind .read fun d => ?_)
  dsimp only
  split
  · exact .pure _
  · exact .pure _

theorem validatePacketMode_inMutexOrder (mode : UInt8) (reqSize respSize : ℕ) :
    InMutexOrder r held (validatePacketMode mode reqSize respSize) :=
  .ite (.pure _) (withConfig_inMutexOrder hmode fun _ => .pure _)

theorem validatePacketAuthentication_inMutexOrder (buffer : Option Mem) (size : ℕ) :
    InMutexOrder r held (validatePacketAuthentication buffer size) := by
  unfold validatePacketAuthentication
  split
  · exact .pure _
  · exact .ite (.pure _) (.ite (withConfig_inMutexOrder hmode fun _ => .pure _) (.pure _))

theorem checkPanicCondition_inMutexOrder (timeOffset : ℤ) :
    InMutexOrder r held (checkPanicCondition timeOffset) :=
  .ite (.pure _) (withConfig_inMutexOrder hmode fun _ => .pure _)

theorem aclAddEntry_inMutexOrder (network : Option CString) (flags : UInt8) :
    InMutexOrder r held (aclAddEntry network flags) := by
  cases network with
  | none => exact .pure _
  | some network =>
    have happend : InMutexOrder r (insert .gModeMutex held) (aclAppend network flags) := by
      refine .bind .read fun d => .ite (.pure _) ?_
      split
      · exact .pure _
      · exact .ite (.pure _) (.bind (.update _) fun _ => .pure _)
    exact inMutexOrder_section hmode (.bind happend fun _ => mutexOrder_exit _)

theorem aclRemoveEntry_inMutexOrder (network : Option CString) :
    InMutexOrder r held (aclRemoveEntry network) := by
  have hdelete : ∀ net mask, InMutexOrder r (insert .gModeMutex held) (aclDelete net mask) := by
    intro net mask
    refine .bind .read fun d => ?_
    split
    · exact .pure _
    · exact .bind (.update _) fun _ => .pure _
  unfold aclRemoveEntry
  split
  · exact .pure _
  · refine .ite (.pure _) (inMutexOrder_section hmode ?_)
    exact .bind (hdelete _ _) fun _ => mutexOrder_exit _

theorem aclClearEntries_inMutexOrder : InMutexOrder r held aclClearEntries :=
  inMutexOrder_update hmode _ _

theorem aclGetEntryCount_inMutexOrder : InMutexOrder r held aclGetEntryCount :=
  inMutexOrder_read hmode _

theorem aclGetClientFlags_inMutexOrder (clientIp : Option CString) :
    InMutexOrder r held (aclGetClientFlags clientIp) :=
  .ite (.bind .read fun _ => .pure _) (inMutexOrder_read hmode _)

theorem rateLimitCleanup_inMutexOrder : InMutexOrder r held rateLimitCleanup :=
  inMutexOrder_section hmode (.bind (.update _) fun _ => mutexOrder_exit _)

theorem applyModeConfig_inMutexOrder (strtod : CString → StrtoResult ℚ) (key val : CString) :
    InMutexOrder r held (applyModeConfig strtod key val) := by
  have hset : ∀ {α : Type} (set : ModeConfig → α → ModeConfig) (value : Option α),
      InMutexOrder r held (setModeConfig set value) := by
    intro α set value
    cases value with
    | none => exact .pure _
    | some v => exact .update _
  have hbool : ∀ set, InMutexOrder r held (setModeBool set val) := fun set => hset set _
  have huint8 : InMutexOrder r held (parseUint8 val) :=
    .bind (.bind (.update _) fun _ => .pure _) fun _ => .pure _
  have hfloat : InMutexOrder r held (parseFloat strtod val) :=
    .bind (.bind (.update _) fun _ => .pure _) fun _ => .pure _
  have hpanic : InMutexOrder r held (parsePanicThreshold val) :=
    .bind (.bind (.update _) fun _ => .pure _) fun _ => .pure _
  -- the keys in the order in which they are compared; the last two change the list
  unfold applyModeConfig
  refine .ite (hbool _) (.ite (hbool _) (.ite (hbool _) (.ite (hbool _) (.ite (hbool _) ?_))))
  refine .ite (hset _ _) (.ite (.bind huint8 fun _ => hset _ _) ?_)
  refine .ite (.bind hfloat fun _ => hset _ _) (.ite (.bind huint8 fun _ => hset _ _) ?_)
  refine .ite (.bind hpanic fun _ => hset _ _) ?_
  refine .ite (.bind (aclAddEntry_inMutexOrder hmode _ _) fun _ => .pure _) ?_
  exact .ite (.bind (aclRemoveEntry_inMutexOrder hmode _) fun _ => .pure _) (.pure _)

theorem parseModeConfigLines_inMutexOrder (strtod : CString → StrtoResult ℚ) (file : List Char) :
    InMutexOrder r held (parseModeConfigLines strtod file) := by
  have hline : ∀ line, InMutexOrder r held (parseModeConfigLine strtod line) := by
    intro line
    unfold parseModeConfigLine
    split
    · exact .pure _
    · split
      · exact .pure _
      · exact applyModeConfig_inMutexOrder hmode strtod _ _
  induction file using parseModeConfigLines.induct with
  | case1 file hend =>
    rw [parseModeConfigLines, hend]
    exact .pure _
  | case2 file line rest hnext ih =>
    rw [parseModeConfigLines, hnext]
    exact .bind (hline _) fun _ => ih

theorem modeHandlerParseConfig_inMutexOrder (configFile : Option CString)
    (env : ModeConfigFileEnv) : InMutexOrder r held (modeHandlerParseConfig configFile env) := by
  unfold modeHandlerParseConfig
  split
  · exact .pure _
  · exact .pure _
  · exact .bind (parseModeConfigLines_inMutexOrder hmode _ _) fun _ => .pure _

/-! ### Corrections of the clock -/

theorem applyTimeCorrection_inMutexOrder (caller : CorrectionCaller) (offsetUs : ℤ)
    (env : CorrectionEnv) :
    InMutexOrder r held (applyTimeCorrectionSlewOrStep caller offsetUs env) := by
  have hstep : InMutexOrder r held (stepClock offsetUs env) := by
    refine .bind (inMutexOrder_sys _) fun clock => ?_
    cases clock with
    | error e => exact .pure _
    | ok now =>
      refine .ite (.pure _) (.ite (.pure _) (.bind (inMutexOrder_sys _) fun _ => ?_))
      exact .bind (inMutexOrder_emit rfl) fun _ => .pure _
  have hslew : InMutexOrder r held (slewClock offsetUs env) :=
    .bind (inMutexOrder_sys _) fun _ => .bind (inMutexOrder_emit rfl) fun _ => .pure _
  refine .bind (inMutexOrder_emit rfl) fun _ => ?_
  exact .bind (checkPanicCondition_inMutexOrder hmode _) fun _ => .ite (.pure _) (.ite hstep hslew)

end

/-! ### Leap seconds -/

section

variable {r : MutexRule} {held : Set Mutex} (hleap : Admits r held .gLeapSecondMutex)

include hleap

theorem leapSecondScheduleEvent_inMutexOrder (leapDir : UInt8) (env : LeapScheduleEnv) :
    InMutexOrder r held (leapSecondScheduleEvent leapDir env) := by
  have htime : ∀ clock, InMutexOrder r (insert .gLeapSecondMutex held)
      (leapSecondGetEndOfMinuteTime clock) := by
    intro clock
    refine .bind (inMutexOrder_sys _) fun t => ?_
    cases t with
    | error e => exact .pure _
    | ok ts => exact .pure _
  refine inMutexOrder_section hleap (.bind .read fun d => .ite (mutexOrder_exit _) ?_)
  refine .bind (htime _) fun endOfMinute => .ite (mutexOrder_exit _) ?_
  exact .bind (.update _) fun _ => mutexOrder_exit _

theorem handleLeapIndicator_inMutexOrder (li : UInt8) (env : LeapScheduleEnv) :
    InMutexOrder r held (handleLeapIndicator li env) := by
  have hschedule : ∀ leapDir, InMutexOrder r held (do
      let _ ← leapSecondScheduleEvent leapDir env
      return false) := fun leapDir =>
    .bind (leapSecondScheduleEvent_inMutexOrder hleap leapDir env) fun _ => .pure _
  exact .ite (.pure _) (.ite (hschedule _) (.ite (hschedule _) (.pure _)))

theorem leapSecondApplyCorrection_inMutexOrder
    (hmode : Admits r (insert .gLeapSecondMutex held) .gModeMutex) (leapDir : UInt8)
    (env : LeapApplyEnv) : InMutexOrder r held (leapSecondApplyCorrection leapDir env) := by
  refine inMutexOrder_section hleap (.bind .read fun d => ?_)
  refine .ite (mutexOrder_exit _) (.ite (mutexOrder_exit _) ?_)
  refine .bind (applyTimeCorrection_inMutexOrder hmode _ _ _) fun _ => .bind (.update _) fun _ => ?_
  exact mutexOrder_exit _

end

/-! ### Functions that take a mutex twice -/

/-- `g_mode_mutex` may be taken at any time. -/
theorem nestedRule_gModeMutex (held : Set Mutex) : Admits NestedRule held .gModeMutex := by
  intro m _
  cases m with
  | gModeMutex => exact .inl rfl
  | _ => exact .inr (show (0 : Fin 2) < 1 by decide)

/-- A mutex may be taken by a thread that holds no other one. -/
theorem nestedRule_same (m : Mutex) : Admits NestedRule (insert m ∅) m :=
  Admits.empty.insert (.inl rfl)

theorem modeHandlerCleanup_inMutexOrder : InMutexOrder NestedRule ∅ modeHandlerCleanup := by
  refine inMutexOrder_section Admits.empty ?_
  refine .bind (aclGetEntryCount_inMutexOrder (nestedRule_same _)) fun _ => ?_
  refine .bind (aclClearEntries_inMutexOrder (nestedRule_same _)) fun _ => ?_
  refine .bind (rateLimitCleanup_inMutexOrder (nestedRule_same _)) fun _ => ?_
  exact .bind (.update _) fun _ => mutexOrder_exit _

theorem modeHandlerSetConfig_inMutexOrder (config : Option ModeConfig) :
    InMutexOrder NestedRule ∅ (modeHandlerSetConfig config) := by
  cases config with
  | none => exact .pure _
  | some config =>
    refine inMutexOrder_section Admits.empty ?_
    refine .bind (aclGetEntryCount_inMutexOrder (nestedRule_same _)) fun _ => ?_
    exact .bind (.update _) fun _ => mutexOrder_exit _

theorem leapSecondCheckAndApply_inMutexOrder (now : ℤ) (env : LeapApplyEnv) :
    InMutexOrder NestedRule ∅ (leapSecondCheckAndApply now env) := by
  refine inMutexOrder_section Admits.empty (.bind .read fun d => .ite ?_ (mutexOrder_exit _))
  refine .bind ?_ fun _ => mutexOrder_exit _
  exact leapSecondApplyCorrection_inMutexOrder (nestedRule_same _) (nestedRule_gModeMutex _) _ _

theorem leapSecondCheckFile_inMutexOrder (env : LeapFileEnv) :
    InMutexOrder NestedRule ∅ (leapSecondCheckFile env) := by
  have hread : InMutexOrder NestedRule (insert .gLeapSecondMutex ∅) (leapSecondReadFile env) := by
    refine .bind (inMutexOrder_sys _) fun stat => ?_
    cases stat with
    | error e => exact .pure _
    | ok =>
      refine .bind (inMutexOrder_sys _) fun fopen => ?_
      cases fopen with
      | error e => exact .pure _
      | ok =>
        cases env.leapDir with
        | none => exact .pure _
        | some leapDir =>
          refine .ite (.pure _) (.bind ?_ fun _ => .pure _)
          -- the event is scheduled under the mutex that is held
          exact leapSecondScheduleEvent_inMutexOrder (nestedRule_same _) _ _
  refine inMutexOrder_section Admits.empty (.bind .read fun d => ?_)
  refine .ite (mutexOrder_exit _) (.ite (mutexOrder_exit _) ?_)
  cases env.year with
  | none => exact mutexOrder_exit _
  | some year =>
    refine .ite (mutexOrder_exit _) (.bind hread fun read => ?_)
    exact .ite (.bind (.update _) fun _ => mutexOrder_exit _) (mutexOrder_exit _)

theorem leapSecondIntegrationCheck_inMutexOrder (env : LeapCheckEnv) :
    InMutexOrder NestedRule ∅ (leapSecondIntegrationCheck env) := by
  refine .bind (leapSecondCheckFile_inMutexOrder _) fun file => .ite (.pure _) ?_
  exact .bind (leapSecondCheckAndApply_inMutexOrder _ _) fun _ => .pure _

end Dntpd
