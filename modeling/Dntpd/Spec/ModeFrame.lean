import Dntpd.Spec.ModeLocks

/-!
# The mode handler works on its own state

Whatever is called of `mode_handler.c`, all that changes is the configuration of the modes with its
two tables, and `errno`, which the reading of a number sets.
-/

namespace Dntpd

open Proc

/-- The state without that of the mode handler. -/
def Daemon.eraseMode (d : Daemon) : Daemon := { d with mode := Daemon.init.mode, errno := 0 }

/-- A procedure that changes nothing outside the mode handler, and only takes its mutex. -/
abbrev ModeStep {α : Type} (p : DProc α) : Prop :=
  Frame Daemon.eraseMode (Event.LocksOnly [.gModeMutex]) p

theorem ModeQuery.modeStep {α : Type} {p : DProc α} (hp : ModeQuery p) : ModeStep p :=
  hp.mono Daemon.eraseMode fun _ he => he

theorem modeStep_lock : ModeStep (lock .gModeMutex) := .emit List.mem_cons_self

theorem modeStep_unlock : ModeStep (unlock .gModeMutex) := .emit List.mem_cons_self

/-- A section that ends in an update of the mode handler's state. -/
theorem modeStep_section {α : Type} {p : DProc α} (hp : ModeStep p) : ModeStep (do
    lock .gModeMutex
    let a ← p
    unlock .gModeMutex
    return a) :=
  .bind modeStep_lock fun _ => .bind hp fun _ => .bind modeStep_unlock fun _ => .pure _

/-! ### The table -/

theorem aclAddEntry_modeStep (network : Option CString) (flags : UInt8) :
    ModeStep (aclAddEntry network flags) := by
  unfold aclAddEntry
  split
  · exact .pure _
  · refine modeStep_section (.bind .read fun d => .ite (.pure _) ?_)
    split
    · exact .pure _
    · exact .ite (.pure _) (.bind (.update fun _ => rfl) fun _ => .pure _)

theorem aclRemoveEntry_modeStep (network : Option CString) :
    ModeStep (aclRemoveEntry network) := by
  unfold aclRemoveEntry
  split
  · exact .pure _
  · refine .ite (.pure _) (modeStep_section (.bind .read fun d => ?_))
    split
    · exact .pure _
    · exact .bind (.update fun _ => rfl) fun _ => .pure _

/-! ### The file -/

theorem setModeConfig_modeStep {α : Type} (set : ModeConfig → α → ModeConfig)
    (value : Option α) : ModeStep (setModeConfig set value) := by
  cases value with
  | none => exact .pure _
  | some v => exact .update fun _ => rfl

theorem applyModeConfig_modeStep (strtod : CString → StrtoResult ℚ) (key val : CString) :
    ModeStep (applyModeConfig strtod key val) := by
  have hbool : ∀ set, ModeStep (setModeBool set val) := fun set => setModeConfig_modeStep set _
  have hstrto : ∀ {α : Type} (r : StrtoResult α), ModeStep (strtoCleared r) := fun _ =>
    .bind (.update fun _ => rfl) fun _ => .pure _
  have huint8 : ModeStep (parseUint8 val) := .bind (hstrto _) fun _ => .pure _
  have hfloat : ModeStep (parseFloat strtod val) := .bind (hstrto _) fun _ => .pure _
  have hpanic : ModeStep (parsePanicThreshold val) := .bind (hstrto _) fun _ => .pure _
  unfold applyModeConfig
  refine .ite (hbool _) (.ite (hbool _) (.ite (hbool _) (.ite (hbool _) (.ite (hbool _) ?_))))
  refine .ite (setModeConfig_modeStep _ _) ?_
  refine .ite (.bind huint8 fun _ => setModeConfig_modeStep _ _) ?_
  refine .ite (.bind hfloat fun _ => setModeConfig_modeStep _ _) ?_
  refine .ite (.bind huint8 fun _ => setModeConfig_modeStep _ _) ?_
  refine .ite (.bind hpanic fun _ => setModeConfig_modeStep _ _) ?_
  refine .ite (.bind (aclAddEntry_modeStep _ _) fun _ => .pure _) ?_
  exact .ite (.bind (aclRemoveEntry_modeStep _) fun _ => .pure _) (.pure _)

theorem parseModeConfigLines_modeStep (strtod : CString → StrtoResult ℚ) (file : List Char) :
    ModeStep (parseModeConfigLines strtod file) := by
  have hline : ∀ line, ModeStep (parseModeConfigLine strtod line) := by
    intro line
    unfold parseModeConfigLine
    split
    · exact .pure _
    · split
      · exact .pure _
      · exact applyModeConfig_modeStep strtod _ _
  induction file using parseModeConfigLines.induct with
  | case1 file hend =>
    rw [parseModeConfigLines, hend]
    exact .pure _
  | case2 file line rest hfgets ih =>
    rw [parseModeConfigLines, hfgets]
    exact .bind (hline _) fun _ => ih

theorem modeHandlerParseConfig_modeStep (configFile : Option CString) (env : ModeConfigFileEnv) :
    ModeStep (modeHandlerParseConfig configFile env) := by
  unfold modeHandlerParseConfig
  split
  · exact .pure _
  · exact .pure _
  · exact .bind (parseModeConfigLines_modeStep _ _) fun _ => .pure _

/-! ### All functions -/

theorem modeHandlerInit_modeStep : ModeStep modeHandlerInit :=
  .bind modeStep_lock fun _ => .bind (.update fun _ => rfl) fun _ =>
    .bind modeStep_unlock fun _ => .pure _

theorem aclClearEntries_modeStep : ModeStep aclClearEntries :=
  .bind modeStep_lock fun _ => .bind (.update fun _ => rfl) fun _ =>
    .bind modeStep_unlock fun _ => .pure _

theorem aclGetEntryCount_modeStep : ModeStep aclGetEntryCount := (modeQuery_section _).modeStep

theorem rateLimitCleanup_modeStep : ModeStep rateLimitCleanup :=
  .bind modeStep_lock fun _ => .bind (.update fun _ => rfl) fun _ => modeStep_unlock

theorem modeHandlerCleanup_modeStep : ModeStep modeHandlerCleanup := by
  refine .bind modeStep_lock fun _ => .bind aclGetEntryCount_modeStep fun _ => ?_
  refine .bind aclClearEntries_modeStep fun _ => .bind rateLimitCleanup_modeStep fun _ => ?_
  exact .bind (.update fun _ => rfl) fun _ => modeStep_unlock

theorem modeHandlerSetConfig_modeStep (config : Option ModeConfig) :
    ModeStep (modeHandlerSetConfig config) := by
  cases config with
  | none => exact .pure _
  | some config =>
    refine .bind modeStep_lock fun _ => .bind aclGetEntryCount_modeStep fun _ => ?_
    exact .bind (.update fun _ => rfl) fun _ => .bind modeStep_unlock fun _ => .pure _

/-- Every call works on the state of the mode handler. -/
theorem ModeHandlerCall.modeStep (c : ModeHandlerCall) : ModeStep c.run := by
  have hdrop : ∀ {α : Type} {p : DProc α}, ModeStep p → ModeStep (do let _ ← p) := fun hp =>
    .bind hp fun _ => .pure _
  have hquery : ∀ {α : Type} {p : DProc α}, ModeQuery p → ModeStep (do let _ ← p) := fun hp =>
    hdrop hp.modeStep
  -- one case for each function of the module
  cases c with
  | modeHandlerInit => exact hdrop modeHandlerInit_modeStep
  | modeHandlerCleanup => exact modeHandlerCleanup_modeStep
  | modeHandlerSetConfig config => exact hdrop (modeHandlerSetConfig_modeStep config)
  | modeHandlerGetConfig config =>
    cases config with
    | none => exact .pure _
    | some config => exact hdrop (.bind modeHandlerGetConfig_frame.modeStep fun _ => .pure _)
  | aclAddEntry network flags => exact hdrop (aclAddEntry_modeStep network flags)
  | aclRemoveEntry network => exact hdrop (aclRemoveEntry_modeStep network)
  | aclClearEntries => exact hdrop aclClearEntries_modeStep
  | aclGetEntryCount => exact hdrop aclGetEntryCount_modeStep
  | aclCheckClient ip mode => exact hquery (aclCheckClient_frame ip mode)
  | aclGetClientFlags ip =>
    refine hdrop (.ite (.bind .read fun _ => .pure _) ?_)
    exact .bind modeStep_lock fun _ => .bind .read fun _ =>
      .bind modeStep_unlock fun _ => .pure _
  | rateLimitCheck ip now => exact hquery (rateLimitCheck_frame ip now)
  | rateLimitUpdate ip now => exact .update fun _ => rfl
  | rateLimitCleanup => exact rateLimitCleanup_modeStep
  | modeGetDefaultLi => exact hquery modeGetDefaultLi_frame
  | modeGetDefaultStratum => exact hquery modeGetDefaultStratum_frame
  | modeGetDefaultRefId => exact hquery modeGetDefaultRefId_frame
  | validatePacketMode mode req resp => exact hquery (validatePacketMode_frame mode req resp)
  | validateNtpVersion version => exact .pure _
  | modeHandlerParseConfig file env => exact hdrop (modeHandlerParseConfig_modeStep file env)
  | validatePacketAuthentication buffer size =>
    exact hquery (validatePacketAuthentication_frame buffer size)
  | checkPanicCondition offset => exact hquery (checkPanicCondition_frame offset)

end Dntpd
