import Dntpd.Spec.Advertised
import Dntpd.Spec.ClockThread
import Dntpd.Spec.ModeFrame

/-!
# Runs of the daemon

What the threads of the daemon do, in any order: sync attempts, requests to the two handlers,
iterations of the clock thread and calls of the mode handler.  Of all these only an attempt changes
the variables that the daemon publishes (`DaemonStep.after_g`).
-/

namespace Dntpd

open Proc

/-- A step of a run. -/
inductive DaemonStep
  | activity (a : Activity)
  | clockThread (env : ClockThreadEnv)
  | modeHandler (c : ModeHandlerCall)

/-- The variables of the daemon with those of its clock thread. -/
structure RunState where
  ctx : ClockThreadContext
  daemon : Daemon

/-- The state at the start of the program. -/
def RunState.init : RunState := ⟨⟨0, 0, 0⟩, Daemon.init⟩

namespace DaemonStep

def after : DaemonStep → RunState → RunState
  | .activity a, s => { s with daemon := a.after s.daemon }
  | .clockThread env, s =>
    let o := clockThreadIteration s.ctx env s.daemon
    ⟨o.ret.1, o.state⟩
  | .modeHandler c, s => { s with daemon := (c.run s.daemon).state }

end DaemonStep

/-! ### What the handlers change -/

/-- The daemon without what an answer changes: the sockets and the tables of the mode handler. -/
def Daemon.eraseAnswer (d : Daemon) : Daemon := { d.eraseSocket with mode := Daemon.init.mode }

/-- The answer is built from the published variables, and sent. -/
theorem sendResponse_published (responseMode : UInt8) (ip port : CString) (pkt : NtpHeader)
    (env : RequestEnv) :
    Frame Daemon.eraseAnswer (fun _ => True) (sendResponse responseMode ip port pkt env) := by
  have hcall : ∀ {α : Type} {p : DProc α} {E : Event → Prop}, Frame Daemon.eraseErrno E p →
      Frame Daemon.eraseAnswer (fun _ => True) p := fun hp =>
    hp.mono Daemon.eraseAnswer fun _ _ => trivial
  have hquery : ∀ {α : Type} {p : DProc α}, ModeQuery p →
      Frame Daemon.eraseAnswer (fun _ => True) p := fun hp =>
    hp.mono Daemon.eraseAnswer fun _ _ => trivial
  have hcopy : ∀ response, Frame Daemon.eraseAnswer (fun _ => True)
      (sendBroadcastResponse response env.broadcast) := fun response =>
    (sendBroadcastResponse_frame _ _).mono Daemon.eraseAnswer fun _ _ => trivial
  have hdeliver : ∀ response, Frame Daemon.eraseAnswer (fun _ => True)
      (deliverResponse responseMode ip port response env) := by
    intro response
    refine .bind (.update fun _ => rfl) fun _ => ?_
    -- without an address nothing is sent, and without a socket neither
    split
    · exact .pure _
    · refine .bind (hcall (network4CreateSocket_frame _)) fun sock => .ite (.pure _) ?_
      refine .bind (hcall (network4Sendto_frame _ _ _ _ _)) fun sent => ?_
      refine .bind (hcall (network4CloseSocket_frame _)) fun _ => .ite (.pure _) ?_
      exact .ite (.bind (hcopy _) fun _ => .update fun _ => rfl) (.update fun _ => rfl)
  -- the section under `g_mutex` only reads
  refine .bind (hcall (readTimestampNow_frame _ fun _ => True)) fun t2 => ?_
  refine .bind (.emit trivial) fun _ => .bind .read fun d => ?_
  refine .bind (hquery modeGetDefaultStratum_frame) fun stratum => ?_
  refine .bind (hquery modeGetDefaultRefId_frame) fun refId => ?_
  refine .bind (hquery modeGetDefaultLi_frame) fun li => .bind (.emit trivial) fun _ => ?_
  exact .bind (hcall (readTimestampNow_frame _ fun _ => True)) fun t3 => hdeliver _

/-- The daemon without what a request changes, whose leap indicator is handled. -/
def Daemon.eraseRequest (d : Daemon) : Daemon :=
  { d.eraseAnswer with leap := LeapSecondState.zero }

theorem eraseRequest_of_eraseAnswer {d d' : Daemon} (h : d'.eraseAnswer = d.eraseAnswer) :
    d'.eraseRequest = d.eraseRequest := (congrArg Daemon.eraseRequest h :)

theorem eraseRequest_of_eraseLeap {d d' : Daemon} (h : d'.eraseLeap = d.eraseLeap) :
    d'.eraseRequest = d.eraseRequest := (congrArg Daemon.eraseRequest h :)

theorem handlePeerRequestThread_request (data : PeerRequestData) (env : RequestEnv) (d : Daemon) :
    (handlePeerRequestThread data env d).state.eraseRequest = d.eraseRequest := by
  by_cases h : ∃ buffer responseMode, Handled data env d buffer responseMode
  · obtain ⟨buffer, responseMode, h⟩ := h
    have hleap := (handleLeapIndicator_frame (readHeader buffer).li env.leapSchedule).state d
    have hsend := (sendResponse_published responseMode data.ip data.port (readHeader buffer)
      env).state (handleLeapIndicator (readHeader buffer).li env.leapSchedule d).state
    rw [h.run.1]
    exact (eraseRequest_of_eraseAnswer hsend).trans (eraseRequest_of_eraseLeap hleap)
  · push Not at h
    rw [(handlePeerRequestThread_of_not_handled h).1]

/-! ### What leaves the published variables alone -/

theorem handlePeerRequestThread_globals (data : PeerRequestData) (env : RequestEnv) (d : Daemon) :
    (handlePeerRequestThread data env d).state.g = d.g :=
  (congrArg Daemon.g (handlePeerRequestThread_request data env d) :)

/-- **Only an attempt publishes**: any other step leaves the published variables as they are. -/
theorem DaemonStep.after_g {step : DaemonStep} (h : ∀ a, step ≠ .activity (.syncAttempt a))
    (s : RunState) : (step.after s).daemon.g = s.daemon.g := by
  cases step with
  | activity a =>
    cases a with
    | syncAttempt a => exact absurd rfl (h a)
    | peerRequest buffer size peerIdx env =>
      exact (congrArg Daemon.g ((handlePeerRequest_frame buffer size peerIdx env).state s.daemon) :)
    | clientRequest data env => exact handlePeerRequestThread_globals data env s.daemon
  | clockThread env =>
    exact (congrArg Daemon.g ((clockThreadIteration_frame s.ctx env).state s.daemon) :)
  | modeHandler c => exact (congrArg Daemon.g (c.modeStep.state s.daemon) :)

end Dntpd
