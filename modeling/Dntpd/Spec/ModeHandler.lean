import Dntpd.ModeHandler

/-!
# Frames of the mode handler: its queries change nothing and touch only their own mutex
-/

namespace Dntpd

open Proc

/-- A query of the mode handler: no effect on the daemon, no event but operations on
`g_mode_mutex`. -/
abbrev ModeQuery {α : Type} (p : DProc α) : Prop :=
  Frame (id : Daemon → Daemon) (Event.LocksOnly [.gModeMutex]) p

@[simp] theorem modeHandlerGetConfig_run (d : Daemon) :
    modeHandlerGetConfig d = ⟨d.mode.config, d, [.lock .gModeMutex, .unlock .gModeMutex]⟩ := rfl

/-- Anything computed from what is read in one critical section of the mode handler. -/
theorem modeQuery_section {α : Type} (f : Daemon → α) :
    ModeQuery (do
      lock .gModeMutex
      let d ← Proc.read
      unlock .gModeMutex
      return f d) := by
  refine .bind (.emit ?_) fun _ => .bind .read fun _ => .bind (.emit ?_) fun _ => .pure _
  · exact List.mem_singleton_self _
  · exact List.mem_singleton_self _

theorem modeHandlerGetConfig_frame : ModeQuery modeHandlerGetConfig := modeQuery_section _

theorem aclCheckTable_frame (ip : UInt32) (packetMode : UInt8) :
    ModeQuery (aclCheckTable ip packetMode) := modeQuery_section _

theorem aclCheckClient_frame (clientIp : Option CString) (packetMode : UInt8) :
    ModeQuery (aclCheckClient clientIp packetMode) := by
  have hgate : ∀ enabled : ModeConfig → UInt8, ModeQuery (do
      let cfg ← modeHandlerGetConfig
      if enabled cfg = 0 then return false else aclCheckTable (parseIp clientIp) packetMode) :=
    fun _ => .bind modeHandlerGetConfig_frame fun _ => .ite (.pure _) (aclCheckTable_frame _ _)
  unfold aclCheckClient
  exact .ite (.pure _) (.ite (.pure _) (.ite (hgate _) (.ite (hgate _) (aclCheckTable_frame _ _))))

theorem rateLimitCheck_frame (clientIp : Option CString) (now : ℤ) :
    ModeQuery (rateLimitCheck clientIp now) := by
  unfold rateLimitCheck
  refine .ite (.pure _) (.bind modeHandlerGetConfig_frame fun cfg => .bind .read fun d => ?_)
  dsimp only
  split
  · exact .pure _
  · exact .pure _

theorem validatePacketMode_frame (mode : UInt8) (reqSize respSize : ℕ) :
    ModeQuery (validatePacketMode mode reqSize respSize) := by
  unfold validatePacketMode
  exact .ite (.pure _) (.bind modeHandlerGetConfig_frame fun _ => .pure _)

theorem validatePacketAuthentication_frame (buffer : Option Mem) (size : ℕ) :
    ModeQuery (validatePacketAuthentication buffer size) := by
  unfold validatePacketAuthentication
  split
  · exact .pure _
  · exact .ite (.pure _)
      (.ite (.bind modeHandlerGetConfig_frame fun _ => .pure _) (.pure _))

theorem checkPanicCondition_frame (timeOffset : ℤ) :
    ModeQuery (checkPanicCondition timeOffset) := by
  unfold checkPanicCondition
  exact .ite (.pure _) (.bind modeHandlerGetConfig_frame fun _ => .pure _)

/-! ### The defaults of a response, in one step -/

theorem modeGetDefaultLi_frame : ModeQuery modeGetDefaultLi := modeQuery_section _

theorem modeGetDefaultStratum_frame : ModeQuery modeGetDefaultStratum := modeQuery_section _

theorem modeGetDefaultRefId_frame : ModeQuery modeGetDefaultRefId := modeQuery_section _

@[simp] theorem modeGetDefaultLi_run (d : Daemon) :
    modeGetDefaultLi d = ⟨if d.g.timeSynced then d.g.localLi else ntpLiAlarm, d,
      [.lock .gModeMutex, .unlock .gModeMutex]⟩ := rfl

@[simp] theorem modeGetDefaultStratum_run (d : Daemon) :
    modeGetDefaultStratum d =
      ⟨if d.g.timeSynced then d.g.localStratum else d.mode.config.initialStratum, d,
        [.lock .gModeMutex, .unlock .gModeMutex]⟩ := rfl

@[simp] theorem modeGetDefaultRefId_run (d : Daemon) :
    modeGetDefaultRefId d = ⟨if d.g.timeSynced then d.g.localRefId else ntpRefIdInit, d,
      [.lock .gModeMutex, .unlock .gModeMutex]⟩ := rfl

/-! ### Queries leave the state alone -/

section

variable (clientIp : Option CString) (d : Daemon)

@[simp] theorem aclCheckClient_state (packetMode : UInt8) :
    (aclCheckClient clientIp packetMode d).state = d :=
  (aclCheckClient_frame clientIp packetMode).state d

@[simp] theorem rateLimitCheck_state (now : ℤ) : (rateLimitCheck clientIp now d).state = d :=
  (rateLimitCheck_frame clientIp now).state d

@[simp] theorem validatePacketAuthentication_state (buffer : Option Mem) (size : ℕ) :
    (validatePacketAuthentication buffer size d).state = d :=
  (validatePacketAuthentication_frame buffer size).state d

end

end Dntpd
