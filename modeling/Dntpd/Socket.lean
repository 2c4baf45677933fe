import Dntpd.LeapSecond
import Dntpd.Network
import Dntpd.NtpPacket

/-!
# The sockets of the daemon and the request handler of the listener (`socket.c`)

`handle_peer_request_thread` is one function with a return after every check.  The model cuts it
where its data changes hands: `admitRequest` decides whether a parsed request is to be answered and
with which mode, `sendResponse` builds the answer, `deliverResponse` sends it.
-/

namespace Dntpd

/-! ### Cached sockets -/

/-- What the kernel answers while the sync socket is created. -/
structure SyncSocketEnv where
  create : SocketEnv
  reuseaddr : Except Errno Unit

/-- `get_sync_socket`. -/
def getSyncSocket (env : SyncSocketEnv) : DProc ℤ := do
  let d ← Proc.read
  if d.socket.syncSock ≥ 0 then return d.socket.syncSock
  else
    let sock ← if d.cli.familyPreference = 2 then network6CreateSocket env.create
      else network4CreateSocket env.create
    Proc.update fun d => { d with socket := { d.socket with syncSock := sock } }
    if sock < 0 then return -1
    else
      let _ ← sys env.reuseaddr
      return sock

/-- `close_socket`: cached sockets stay open. -/
def closeSocket (sock : ℤ) : DProc Unit := do
  lock .gTcpSockMutex
  let d ← Proc.read
  unlock .gTcpSockMutex
  if sock ≥ 0 ∧ sock ≠ d.socket.syncSock ∧ sock ≠ d.socket.tcpSock then Proc.emit (.close sock)
  else pure ()

/-! ### Broadcast copies -/

/-- What the outside answers while a broadcast copy is sent. -/
structure BroadcastEnv where
  now : ℤ
  socket : SocketEnv
  enableBroadcast : Except Errno Unit
  sendto : Except Errno Unit

/-- `send_broadcast_response`. -/
def sendBroadcastResponse (response : List UInt8) (env : BroadcastEnv) : DProc ℤ := do
  let d ← Proc.read
  if d.cli.broadcastMode = 0 then return 0
  else if d.cli.broadcastInterval > 0 ∧
      env.now - d.socket.lastBroadcast < d.cli.broadcastInterval then return 0
  else
    let sock ← network4CreateSocket env.socket
    if sock < 0 then return -1
    else
      match ← sys env.enableBroadcast with
      | .error _ =>
        network4CloseSocket sock
        return -1
      | .ok _ =>
        let sent ← network4Sendto .sendBroadcastResponse sock response
          (network4SetBroadcastAddr d.cli.broadcastAddr ntpPort) env.sendto
        network4CloseSocket sock
        if sent < 0 then return -1
        else
          Proc.update fun d => { d with socket := { d.socket with lastBroadcast := env.now } }
          return 0

/-! ### Requests -/

/-- `PeerRequestData`; `buffer` is `none` for a null pointer. -/
structure PeerRequestData where
  buffer : Option Mem
  size : ℕ
  ip : CString
  port : CString

/-- What the outside answers while a request is handled, and the stale memory `pkt` is parsed
into. -/
structure RequestEnv where
  stalePkt : NtpPacket
  rateCheckTime : ℤ
  leapSchedule : LeapScheduleEnv
  t2Clock : Except Errno Timespec
  t3Clock : Except Errno Timespec
  socket : SocketEnv
  sendto : Except Errno Unit
  broadcast : BroadcastEnv
  rateUpdateTime : ℤ

/-- The mode of the response to a request of mode `mode`, if it gets one. -/
def responseModeFor (broadcastMode : ℤ) (mode : UInt8) : Option UInt8 :=
  if mode = ntpModeClient then some ntpModeServer
  else if mode = ntpModeSymmetricActive ∨ mode = ntpModeSymmetricPassive then
    some ntpModeSymmetricPassive
  else if mode = ntpModeBroadcast then
    if broadcastMode = 0 then none else some ntpModeBroadcast
  else none

/-- The test on control and private requests. -/
def controlAllowed (mode : UInt8) : DProc Bool := do
  if mode = ntpModeControl ∨ mode = ntpModePrivate then
    let cfg ← modeHandlerGetConfig
    return cfg.enableControlMessages ≠ 0
  else return true

/-- The checks from the version to the response size: the mode of the response, or `none` where the
handler returns. -/
def admitRequest (buffer : Mem) (size : ℕ) (ip : CString) (pkt : NtpHeader) (env : RequestEnv) :
    DProc (Option UInt8) := do
  if validateNtpVersion pkt.vn ≠ 0 then return none
  else
    let auth ← validatePacketAuthentication (some buffer) size
    if auth = -ENOTSUP then return none
    else
      let control ← controlAllowed pkt.mode
      if !control then return none
      else
        let acl ← aclCheckClient (some ip) pkt.mode
        if !acl then return none
        else
          let rate ← rateLimitCheck (some ip) env.rateCheckTime
          if rate ≠ 0 then return none
          else
            let d ← Proc.read
            match responseModeFor d.cli.broadcastMode pkt.mode with
            | none => return none
            | some responseMode =>
              let ratio ← validatePacketMode responseMode size 48
              return if ratio ≠ 0 then none else some responseMode

/-- The 48 bytes of the response. -/
def peerResponse (g : Globals) (responseMode li stratum : UInt8) (refId : UInt32) (pkt : NtpHeader)
    (t2 t3 : NtpTimestamp) : List UInt8 :=
  let outLi : UInt8 := if g.timeSynced then li else 3
  [((outLi &&& 0x03) <<< ntpLiShift) ||| (ntpVn4 <<< ntpVnShift) ||| responseMode,
    if g.timeSynced then stratum else 16, pkt.poll.toUInt8, g.localPrecision.toUInt8]
    ++ writeU32be (if g.timeSynced then g.localRootDelay else 0)
    ++ writeU32be (if g.timeSynced then g.localRootDisp else 0)
    ++ writeU32be (if g.timeSynced then refId else refIdLocl)
    ++ writeTimestamp (if g.timeSynced then g.localRefTs else ⟨0, 0⟩)
    ++ writeTimestamp pkt.xmitTs ++ writeTimestamp t2 ++ writeTimestamp t3

/-- The port number of a port string, if the handler takes it. -/
def parsePort (port : CString) : Option UInt16 :=
  let r := strtoul port
  if r.endptr = port ∨ r.endptr ≠ [] ∨ r.erange = true ∨ r.value > 65535 then none
  else some (UInt16.ofNat r.value)

/-- The handler once the response is built: the address is parsed, the response sent and the client
recorded. -/
def deliverResponse (responseMode : UInt8) (ip port : CString) (response : List UInt8)
    (env : RequestEnv) : DProc Unit := do
  Proc.update fun d => { d with errno := if (strtoul port).erange then ERANGE else 0 }
  match (parsePort port).bind (network4ParseAddress ip) with
  | none => pure ()
  | some clientAddr =>
    let sock ← network4CreateSocket env.socket
    if sock < 0 then pure ()
    else
      let sent ← network4Sendto .handlePeerRequestThread sock response clientAddr env.sendto
      network4CloseSocket sock
      if sent < 0 then pure ()
      else
        -- a copy that fails has no effect on what follows
        if responseMode = ntpModeBroadcast then
          let _ ← sendBroadcastResponse response env.broadcast
        Proc.update fun d => { d with mode := rateLimitUpdate d.mode (some ip) env.rateUpdateTime }

/-- The handler from the receive timestamp on. -/
def sendResponse (responseMode : UInt8) (ip port : CString) (pkt : NtpHeader) (env : RequestEnv) :
    DProc Unit := do
  let t2 ← readTimestampNow env.t2Clock
  lock .gMutex
  let d ← Proc.read
  let stratum ← modeGetDefaultStratum
  let refId ← modeGetDefaultRefId
  let li ← modeGetDefaultLi
  unlock .gMutex
  let t3 ← readTimestampNow env.t3Clock
  deliverResponse responseMode ip port (peerResponse d.g responseMode li stratum refId pkt t2 t3)
    env

/-- `handle_peer_request_thread`. -/
def handlePeerRequestThread (data : PeerRequestData) (env : RequestEnv) : DProc Unit := do
  match data.buffer with
  | none => pure ()
  | some buffer =>
    if data.size < 48 then pure ()
    else if data.ip = [] ∨ data.port = [] then pure ()
    else
      let d ← Proc.read
      let r := parseNtpPacket buffer data.size env.stalePkt d.ido
      Proc.update fun d => { d with ido := r.ido }
      if !r.ok then pure ()
      else
        let pkt := r.pkt.toNtpHeader
        match ← admitRequest buffer data.size data.ip pkt env with
        | none => pure ()
        | some responseMode =>
          if ntpIsKod pkt then pure ()
          else
            let skip ← handleLeapIndicator pkt.li env.leapSchedule
            if skip then pure ()
            else sendResponse responseMode data.ip data.port pkt env

end Dntpd
