import Dntpd.Initial
import Dntpd.ModeConfigFile
import Dntpd.Spec.ModeHandler

/-!
# The lock discipline of the mode handler

Every public function of `mode_handler.c` takes `g_mode_mutex` in sections that contain no other
lock operation, except the two that call `acl_get_entry_count` inside their own section.
`modeHandlerCall_disciplined_iff` says that these are the calls that lock what they hold.
-/

namespace Dntpd

open Proc

/-- The operations on `g_mode_mutex` are disciplined. -/
abbrev ModeGuarded {α : Type} (p : DProc α) : Prop := Guarded (Event.lockOp .gModeMutex) p

/-! ### Sections -/

/-- A section whose body performs no event. -/
theorem modeSection_guarded {α : Type} {p : DProc α} (hp : ∀ d, (p d).trace = []) :
    ModeGuarded (do
      lock .gModeMutex
      let r ← p
      unlock .gModeMutex
      return r) := by
  intro d
  show LockTrace.Disciplined (lockOps .gModeMutex ([.lock .gModeMutex] ++ ((p d).trace ++
    ([.unlock .gModeMutex] ++ []))))
  rw [hp]
  rfl

@[simp] theorem aclAppend_trace (network : CString) (flags : UInt8) (d : Daemon) :
    (aclAppend network flags d).trace = [] := by
  unfold aclAppend
  rw [bind_trace, ite_trace]
  split_ifs
  · rfl
  cases parseNetwork (some network) with
  | none => rfl
  | some r =>
    dsimp only
    rw [ite_trace]
    split_ifs <;> rfl

@[simp] theorem aclDelete_trace (net mask : UInt32) (d : Daemon) :
    (aclDelete net mask d).trace = [] := by
  unfold aclDelete
  rw [bind_trace, read_ret]
  cases d.mode.aclEntries.findIdx? fun e => e.ip == net && e.mask == mask with
  | none => rfl
  | some i => rfl

/-! ### The functions that keep the discipline -/

theorem modeHandlerGetConfig_guarded : ModeGuarded modeHandlerGetConfig := fun _ => rfl

theorem modeHandlerGetConfigTo_guarded (config : Option ModeConfig) :
    ModeGuarded (modeHandlerGetConfigTo config) := by
  cases config with
  | none => exact .pure _
  | some config => exact .bind modeHandlerGetConfig_guarded fun _ => .pure _

theorem aclAddEntry_guarded (network : Option CString) (flags : UInt8) :
    ModeGuarded (aclAddEntry network flags) := by
  cases network with
  | none => exact .pure _
  | some network => exact modeSection_guarded (aclAppend_trace network flags)

theorem aclRemoveEntry_guarded (network : Option CString) :
    ModeGuarded (aclRemoveEntry network) := by
  unfold aclRemoveEntry
  split
  · exact .pure _
  · exact .ite (.pure _) (modeSection_guarded (aclDelete_trace _ _))

theorem aclCheckTable_guarded (ip : UInt32) (packetMode : UInt8) :
    ModeGuarded (aclCheckTable ip packetMode) := fun _ => rfl

theorem aclCheckClient_guarded (clientIp : Option CString) (packetMode : UInt8) :
    ModeGuarded (aclCheckClient clientIp packetMode) := by
  -- modes 1, 2 and 5 have to be enabled first
  have hgate : ∀ enabled : ModeConfig → UInt8, ModeGuarded (do
      let cfg ← modeHandlerGetConfig
      if enabled cfg = 0 then return false else aclCheckTable (parseIp clientIp) packetMode) :=
    fun _ => .bind modeHandlerGetConfig_guarded fun _ =>
      .ite (.pure _) (aclCheckTable_guarded _ _)
  unfold aclCheckClient
  exact .ite (.pure _) (.ite (.pure _) (.ite (hgate _) (.ite (hgate _)
    (aclCheckTable_guarded _ _))))

theorem aclGetClientFlags_guarded (clientIp : Option CString) :
    ModeGuarded (aclGetClientFlags clientIp) := by
  unfold aclGetClientFlags
  exact .ite (.bind .read fun _ => .pure _) fun _ => rfl

theorem rateLimitCheck_guarded (clientIp : Option CString) (now : ℤ) :
    ModeGuarded (rateLimitCheck clientIp now) := by
  unfold rateLimitCheck
  refine .ite (.pure _) (.bind modeHandlerGetConfig_guarded fun cfg => .bind .read fun d => ?_)
  dsimp only
  split
  · exact .pure _
  · exact .pure _

theorem validatePacketMode_guarded (mode : UInt8) (reqSize respSize : ℕ) :
    ModeGuarded (validatePacketMode mode reqSize respSize) := by
  unfold validatePacketMode
  exact .ite (.pure _) (.bind modeHandlerGetConfig_guarded fun _ => .pure _)

theorem validatePacketAuthentication_guarded (buffer : Option Mem) (size : ℕ) :
    ModeGuarded (validatePacketAuthentication buffer size) := by
  unfold validatePacketAuthentication
  split
  · exact .pure _
  · exact .ite (.pure _)
      (.ite (.bind modeHandlerGetConfig_guarded fun _ => .pure _) (.pure _))

theorem checkPanicCondition_guarded (timeOffset : ℤ) :
    ModeGuarded (checkPanicCondition timeOffset) := by
  unfold checkPanicCondition
  exact .ite (.pure _) (.bind modeHandlerGetConfig_guarded fun _ => .pure _)

/-! ### The configuration file -/

theorem setModeConfig_guarded {α : Type} (set : ModeConfig → α → ModeConfig) (value : Option α) :
    ModeGuarded (setModeConfig set value) := by
  cases value with
  | none => exact .pure _
  | some v => exact .update _

theorem strtoCleared_guarded {α : Type} (r : StrtoResult α) : ModeGuarded (strtoCleared r) :=
  fun _ => rfl

/-- Whatever the line says, it is applied with the mutex free before and after. -/
theorem applyModeConfig_guarded (strtod : CString → StrtoResult ℚ) (key val : CString) :
    ModeGuarded (applyModeConfig strtod key val) := by
  have hbool : ∀ set, ModeGuarded (setModeBool set val) := fun set =>
    setModeConfig_guarded set _
  have huint8 : ModeGuarded (parseUint8 val) := .bind (strtoCleared_guarded _) fun _ => .pure _
  have hfloat : ModeGuarded (parseFloat strtod val) :=
    .bind (strtoCleared_guarded _) fun _ => .pure _
  have hpanic : ModeGuarded (parsePanicThreshold val) :=
    .bind (strtoCleared_guarded _) fun _ => .pure _
  unfold applyModeConfig
  refine .ite (hbool _) (.ite (hbool _) (.ite (hbool _) (.ite (hbool _) (.ite (hbool _) ?_))))
  refine .ite (setModeConfig_guarded _ _) ?_
  refine .ite (.bind huint8 fun _ => setModeConfig_guarded _ _) ?_
  refine .ite (.bind hfloat fun _ => setModeConfig_guarded _ _) ?_
  refine .ite (.bind huint8 fun _ => setModeConfig_guarded _ _) ?_
  refine .ite (.bind hpanic fun _ => setModeConfig_guarded _ _) ?_
  refine .ite (.bind (aclAddEntry_guarded _ _) fun _ => .pure _) ?_
  exact .ite (.bind (aclRemoveEntry_guarded _) fun _ => .pure _) (.pure _)

theorem parseModeConfigLine_guarded (strtod : CString → StrtoResult ℚ) (line : CString) :
    ModeGuarded (parseModeConfigLine strtod line) := by
  unfold parseModeConfigLine
  split
  · exact .pure _
  · split
    · exact .pure _
    · exact applyModeConfig_guarded strtod _ _

theorem parseModeConfigLines_guarded (strtod : CString → StrtoResult ℚ) (file : List Char) :
    ModeGuarded (parseModeConfigLines strtod file) := by
  induction file using parseModeConfigLines.induct with
  | case1 file hend =>
    rw [parseModeConfigLines, hend]
    exact .pure _
  | case2 file line rest hline ih =>
    rw [parseModeConfigLines, hline]
    exact .bind (parseModeConfigLine_guarded strtod _) fun _ => ih

theorem modeHandlerParseConfig_guarded (configFile : Option CString) (env : ModeConfigFileEnv) :
    ModeGuarded (modeHandlerParseConfig configFile env) := by
  unfold modeHandlerParseConfig
  split
  · exact .pure _
  · exact .pure _
  · exact .bind (parseModeConfigLines_guarded _ _) fun _ => .pure _

/-! ### All functions -/

/-- A call of a public function of `mode_handler.c`. -/
inductive ModeHandlerCall
  | modeHandlerInit
  | modeHandlerCleanup
  | modeHandlerSetConfig (config : Option ModeConfig)
  | modeHandlerGetConfig (config : Option ModeConfig)
  | aclAddEntry (network : Option CString) (flags : UInt8)
  | aclRemoveEntry (network : Option CString)
  | aclClearEntries
  | aclGetEntryCount
  | aclCheckClient (clientIp : Option CString) (packetMode : UInt8)
  | aclGetClientFlags (clientIp : Option CString)
  | rateLimitCheck (clientIp : Option CString) (now : ℤ)
  | rateLimitUpdate (clientIp : Option CString) (now : ℤ)
  | rateLimitCleanup
  | modeGetDefaultLi
  | modeGetDefaultStratum
  | modeGetDefaultRefId
  | validatePacketMode (mode : UInt8) (reqSize respSize : ℕ)
  | validateNtpVersion (version : UInt8)
  | modeHandlerParseConfig (configFile : Option CString) (env : ModeConfigFileEnv)
  | validatePacketAuthentication (buffer : Option Mem) (size : ℕ)
  | checkPanicCondition (timeOffset : ℤ)

/-- What the call does, its result dropped. -/
def ModeHandlerCall.run : ModeHandlerCall → DProc Unit
  | .modeHandlerInit => do let _ ← Dntpd.modeHandlerInit
  | .modeHandlerCleanup => Dntpd.modeHandlerCleanup
  | .modeHandlerSetConfig config => do let _ ← Dntpd.modeHandlerSetConfig config
  | .modeHandlerGetConfig config => do let _ ← modeHandlerGetConfigTo config
  | .aclAddEntry network flags => do let _ ← Dntpd.aclAddEntry network flags
  | .aclRemoveEntry network => do let _ ← Dntpd.aclRemoveEntry network
  | .aclClearEntries => do let _ ← Dntpd.aclClearEntries
  | .aclGetEntryCount => do let _ ← Dntpd.aclGetEntryCount
  | .aclCheckClient ip mode => do let _ ← Dntpd.aclCheckClient ip mode
  | .aclGetClientFlags ip => do let _ ← Dntpd.aclGetClientFlags ip
  | .rateLimitCheck ip now => do let _ ← Dntpd.rateLimitCheck ip now
  | .rateLimitUpdate ip now => rateLimitRecord ip now
  | .rateLimitCleanup => Dntpd.rateLimitCleanup
  | .modeGetDefaultLi => do let _ ← Dntpd.modeGetDefaultLi
  | .modeGetDefaultStratum => do let _ ← Dntpd.modeGetDefaultStratum
  | .modeGetDefaultRefId => do let _ ← Dntpd.modeGetDefaultRefId
  | .validatePacketMode mode req resp => do let _ ← Dntpd.validatePacketMode mode req resp
  | .validateNtpVersion version => do let _ := Dntpd.validateNtpVersion version
  | .modeHandlerParseConfig file env => do let _ ← Dntpd.modeHandlerParseConfig file env
  | .validatePacketAuthentication buffer size => do
    let _ ← Dntpd.validatePacketAuthentication buffer size
  | .checkPanicCondition offset => do let _ ← Dntpd.checkPanicCondition offset

/-- The calls that ask for the number of entries inside their own section. -/
def ModeHandlerCall.CountsEntriesLocked : ModeHandlerCall → Prop
  | .modeHandlerCleanup => True
  | .modeHandlerSetConfig config => config ≠ none
  | _ => False

/-- A call by a thread that does not hold the mutex keeps the discipline. -/
def ModeHandlerCall.Disciplined (c : ModeHandlerCall) (d : Daemon) : Prop :=
  LockTrace.Disciplined (lockOps .gModeMutex (c.run d).trace)

theorem ModeHandlerCall.disciplined_of_not {c : ModeHandlerCall} (h : ¬ c.CountsEntriesLocked)
    (d : Daemon) : c.Disciplined d := by
  have hdrop : ∀ {α : Type} {p : DProc α}, ModeGuarded p →
      ModeGuarded (do let _ ← p) := fun hp => .bind hp fun _ => .pure _
  revert d
  -- each of the other functions takes the mutex once around what it reads and writes
  cases c with
  | modeHandlerInit => exact hdrop fun _ => rfl
  | modeHandlerCleanup => exact absurd trivial h
  | modeHandlerSetConfig config =>
    -- without a configuration it returns at once
    obtain rfl : config = none := not_not.mp h
    exact fun _ => rfl
  | modeHandlerGetConfig config => exact hdrop (modeHandlerGetConfigTo_guarded config)
  | aclAddEntry network flags => exact hdrop (aclAddEntry_guarded network flags)
  | aclRemoveEntry network => exact hdrop (aclRemoveEntry_guarded network)
  | aclClearEntries => exact hdrop fun _ => rfl
  | aclGetEntryCount => exact hdrop fun _ => rfl
  | aclCheckClient ip mode => exact hdrop (aclCheckClient_guarded ip mode)
  | aclGetClientFlags ip => exact hdrop (aclGetClientFlags_guarded ip)
  | rateLimitCheck ip now => exact hdrop (rateLimitCheck_guarded ip now)
  | rateLimitUpdate ip now => exact Guarded.update _
  | rateLimitCleanup => exact fun _ => rfl
  | modeGetDefaultLi => exact hdrop fun _ => rfl
  | modeGetDefaultStratum => exact hdrop fun _ => rfl
  | modeGetDefaultRefId => exact hdrop fun _ => rfl
  | validatePacketMode mode req resp => exact hdrop (validatePacketMode_guarded mode req resp)
  | validateNtpVersion version => exact fun _ => rfl
  | modeHandlerParseConfig file env => exact hdrop (modeHandlerParseConfig_guarded file env)
  | validatePacketAuthentication buffer size =>
    exact hdrop (validatePacketAuthentication_guarded buffer size)
  | checkPanicCondition offset => exact hdrop (checkPanicCondition_guarded offset)

/-- A call keeps the discipline exactly when it does not ask for the number of entries inside its
own section. -/
theorem modeHandlerCall_disciplined_iff (c : ModeHandlerCall) (d : Daemon) :
    c.Disciplined d ↔ ¬ c.CountsEntriesLocked := by
  refine ⟨fun hdisciplined hcounts => ?_, fun h => c.disciplined_of_not h d⟩
  cases c with
  | modeHandlerCleanup => exact absurd hdisciplined nofun
  | modeHandlerSetConfig config =>
    cases config with
    | none => exact hcounts rfl
    | some config => exact absurd hdisciplined nofun
  | _ => exact hcounts

/-- The shutdown of a freshly started daemon locks the mutex it holds. -/
theorem modeHandlerCleanup_not_disciplined :
    ¬ ModeHandlerCall.modeHandlerCleanup.Disciplined Daemon.init := nofun

end Dntpd
