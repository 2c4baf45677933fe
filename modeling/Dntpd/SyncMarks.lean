import Dntpd.Library.Zoom
import Dntpd.TimeSync

/-!
# How far an attempt gets

`sync_ntp_time` returns -1 wherever it gives up, so neither its result nor what it leaves tells at
which check that was.  The function stands here once more with two marks in its trace: one where it
is past the validation of the port, one where it is past the check of the originate timestamp.
Everything else is what `syncNtpTime` calls.
-/

namespace Dntpd

/-- An event of the daemon, or a mark. -/
inductive SyncMark
  | event (e : Event)
  | pastPort
  | pastOrigin
  deriving DecidableEq

/-- The event that is not a mark. -/
def SyncMark.event? : SyncMark → Option Event
  | .event e => some e
  | .pastPort => none
  | .pastOrigin => none

/-- A procedure with marks. -/
abbrev MarkedProc (α : Type) := Proc Daemon SyncMark α

namespace SyncMarks

/-- A procedure of the daemon, which sets no mark. -/
def call {α : Type} (p : DProc α) : MarkedProc α := Proc.zoom id (fun _ d => d) .event p

/-- `sendSyncRequest` with its mark. -/
def sendSyncRequest (port : CString) (env : SyncEnv) :
    MarkedProc (Option (ℤ × NtpTimestamp)) := do
  let sock ← call (getSyncSocket env.socket)
  if sock < 0 then return none
  else
    let portNum := strtol port
    Proc.update fun d => { d with errno := if portNum.erange then ERANGE else d.errno }
    let d ← Proc.read
    if portNum.value < 1 ∨ portNum.value > 65535 ∨ d.errno ≠ 0 then return none
    else
      Proc.emit .pastPort
      call (sendToPort sock portNum.value env)

/-- `checkReply` with its mark. -/
def checkReply (ip : CString) (sock : ℤ) (t1 t4 : NtpTimestamp) (pkt : NtpHeader) (env : SyncEnv) :
    MarkedProc ℤ := do
  let skip ← call (handleLeapIndicator pkt.li env.leapSchedule)
  if skip then call (rejectReply sock)
  else if pkt.mode ≠ ntpModeServer then call (rejectReply sock)
  else if ntpIsKod pkt then call (rejectReply sock)
  else if pkt.origTs ≠ t1 then call (rejectReply sock)
  else
    Proc.emit .pastOrigin
    call (checkTimes ip sock t1 t4 pkt env)

/-- `processReply` over the marked checks. -/
def processReply (ip port : CString) (sock : ℤ) (t1 : NtpTimestamp) (buffer : Mem) (recvLen : ℕ)
    (env : SyncEnv) : MarkedProc ℤ := do
  call (lock .gMutex)
  Proc.update fun d => { d with peerPool := markReachable ip port env.peerTime d.peerPool }
  call (unlock .gMutex)
  let t4 ← call (readTimestampNow env.t4Clock)
  let d ← Proc.read
  let r := parseNtpPacket buffer recvLen env.stalePkt d.ido
  Proc.update fun d => { d with ido := r.ido }
  if !r.ok then call (rejectReply sock)
  else checkReply ip sock t1 t4 r.pkt.toNtpHeader env

/-- `syncNtpTime` over the marked parts. -/
def syncNtpTime (ip port : Option CString) (env : SyncEnv) : MarkedProc ℤ := do
  match ip, port with
  | some ip, some port =>
    match ← sendSyncRequest port env with
    | none => return -1
    | some (sock, t1) =>
      match ← call (sys env.recvfrom) with
      | .error _ => call (rejectReply sock)
      | .ok dg =>
        let recvLen := min dg.size bufferSize
        if recvLen > 0 then processReply ip port sock t1 dg.data recvLen env
        else call (rejectReply sock)
  | _, _ => return -1

end SyncMarks

end Dntpd
