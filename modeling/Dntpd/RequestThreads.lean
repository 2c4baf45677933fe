import Dntpd.ModeHandlerTables
import Dntpd.Socket

/-!
# Request threads side by side (`handle_client_request` of `socket.c`)

Every request runs `handle_peer_request_thread` in a thread of its own.  The threads meet at the
rate table, so the handler is cut at its calls of `rate_limit_check` and `rate_limit_update`: each
of the two is one step, and so is what lies before, between and behind them.  In between, other
threads may change anything but the state of the mode handler.
-/

namespace Dntpd

/-! ### The parts of the handler -/

/-- The handler up to its call of `rate_limit_check`: the packet, or `none` where it
returns before. -/
def reachRateCheck (data : PeerRequestData) (env : RequestEnv) :
    DProc (Option NtpHeader) := do
  match data.buffer with
  | none => return none
  | some buffer =>
    if data.size < 48 then return none
    else if data.ip = [] ∨ data.port = [] then return none
    else
      let d ← Proc.read
      let r := parseNtpPacket buffer data.size env.stalePkt d.ido
      Proc.update fun d => { d with ido := r.ido }
      if !r.ok then return none
      else
        let pkt := r.pkt.toNtpHeader
        if validateNtpVersion pkt.vn ≠ 0 then return none
        else
          let auth ← validatePacketAuthentication (some buffer) data.size
          if auth = -ENOTSUP then return none
          else
            let control ← controlAllowed pkt.mode
            if !control then return none
            else
              let acl ← aclCheckClient (some data.ip) pkt.mode
              if !acl then return none else return some pkt

/-- The delivery of a response up to the call of `rate_limit_update`: whether it is reached. -/
def deliverUpToUpdate (responseMode : UInt8) (ip port : CString) (response : List UInt8)
    (env : RequestEnv) : DProc Bool := do
  Proc.update fun d => { d with errno := if (strtoul port).erange then ERANGE else 0 }
  match (parsePort port).bind (network4ParseAddress ip) with
  | none => return false
  | some clientAddr =>
    let sock ← network4CreateSocket env.socket
    if sock < 0 then return false
    else
      let sent ← network4Sendto .handlePeerRequestThread sock response clientAddr env.sendto
      network4CloseSocket sock
      if sent < 0 then return false
      else if responseMode = ntpModeBroadcast then
        let _ ← sendBroadcastResponse response env.broadcast
        return true
      else return true

/-- `sendResponse` up to the call of `rate_limit_update`. -/
def sendUpToUpdate (responseMode : UInt8) (ip port : CString) (pkt : NtpHeader)
    (env : RequestEnv) : DProc Bool := do
  let t2 ← readTimestampNow env.t2Clock
  lock .gMutex
  let d ← Proc.read
  let stratum ← modeGetDefaultStratum
  let refId ← modeGetDefaultRefId
  let li ← modeGetDefaultLi
  unlock .gMutex
  let t3 ← readTimestampNow env.t3Clock
  deliverUpToUpdate responseMode ip port (peerResponse d.g responseMode li stratum refId pkt t2 t3)
    env

/-- The handler from its call of `rate_limit_check` to that of `rate_limit_update`: whether the
second one is reached. -/
def answerUpToUpdate (data : PeerRequestData) (env : RequestEnv) (pkt : NtpHeader) :
    DProc Bool := do
  let d ← Proc.read
  match responseModeFor d.cli.broadcastMode pkt.mode with
  | none => return false
  | some responseMode =>
    let ratio ← validatePacketMode responseMode data.size 48
    if ratio ≠ 0 then return false
    else if ntpIsKod pkt then return false
    else
      let skip ← handleLeapIndicator pkt.li env.leapSchedule
      if skip then return false
      else sendUpToUpdate responseMode data.ip data.port pkt env

/-! ### Threads -/

/-- Where a thread is: before its first step, before `rate_limit_check`, behind it, before
`rate_limit_update`, behind that, or at an earlier return. -/
inductive ThreadPhase
  | arrived
  | checking (pkt : NtpHeader)
  | passed (pkt : NtpHeader)
  | answered
  | recorded
  | ended
  deriving DecidableEq

/-- A thread that handles a request. -/
structure RequestThread where
  data : PeerRequestData
  env : RequestEnv
  phase : ThreadPhase

/-- The thread runs up to the next cut. -/
def RequestThread.step (t : RequestThread) : DProc RequestThread := do
  match t.phase with
  | .arrived =>
    match ← reachRateCheck t.data t.env with
    | none => return { t with phase := .ended }
    | some pkt => return { t with phase := .checking pkt }
  | .checking pkt =>
    let rate ← rateLimitCheck (some t.data.ip) t.env.rateCheckTime
    return { t with phase := if rate ≠ 0 then .ended else .passed pkt }
  | .passed pkt =>
    let sent ← answerUpToUpdate t.data t.env pkt
    return { t with phase := if sent then .answered else .ended }
  | .answered =>
    rateLimitRecord (some t.data.ip) t.env.rateUpdateTime
    return { t with phase := .recorded }
  | .recorded => return t
  | .ended => return t

/-- The daemon and its request threads. -/
structure Server (ι : Type) where
  daemon : Daemon
  thread : ι → RequestThread

/-- A step of one of the threads, or a change of what the mode handler does not own. -/
inductive ServerMove (ι : Type)
  | thread (i : ι)
  | outside (d : Daemon)

def ServerMove.step {ι : Type} [DecidableEq ι] (move : ServerMove ι) (s : Server ι) : Server ι :=
  match move with
  | .thread i =>
    let o := (s.thread i).step s.daemon
    ⟨o.state, Function.update s.thread i o.ret⟩
  | .outside d => ⟨{ d with mode := s.daemon.mode }, s.thread⟩

end Dntpd
