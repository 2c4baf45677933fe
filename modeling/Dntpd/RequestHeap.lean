import Dntpd.Socket

/-!
# The memory of a request (`handle_client_request` of `socket.c`)

`handle_client_request` puts a copy of the request on the heap and hands it to a thread that runs
`handle_peer_request_thread`.  Here the two functions are written once more with what they do to
the two objects for events; what the thread does to the daemon is what it does in `Socket`, without
its events there.
-/

namespace Dntpd

/-- The objects of a request: the `PeerRequestData` and its buffer. -/
inductive HeapObject
  | data
  | buffer
  deriving DecidableEq

/-- What is done to them; `ok` is the outcome of an allocation. -/
inductive HeapCall
  | malloc (o : HeapObject) (ok : Bool)
  | use (o : HeapObject)
  | free (o : HeapObject)
  deriving DecidableEq

/-- A function that does such things. -/
abbrev HeapProc (α : Type) := Proc Daemon HeapCall α

namespace RequestHeap

/-- A procedure of the daemon that touches neither object. -/
def onDaemon {α : Type} (p : DProc α) : HeapProc α := fun d => ⟨(p d).ret, (p d).state, []⟩

def use (o : HeapObject) : HeapProc Unit := Proc.emit (.use o)

/-- `free(data->buffer)` and `free(data)`. -/
def release : HeapProc Unit := do
  use .data
  Proc.emit (.free .buffer)
  Proc.emit (.free .data)

/-! ### The thread -/

/-- The checks from the version to the response size: the mode of the response, or `none` where the
thread releases the request. -/
def admitRequest (buffer : Mem) (size : ℕ) (ip : CString) (pkt : NtpHeader) (env : RequestEnv) :
    HeapProc (Option UInt8) := do
  if validateNtpVersion pkt.vn ≠ 0 then return none
  else
    use .buffer
    let auth ← onDaemon (validatePacketAuthentication (some buffer) size)
    if auth = -ENOTSUP then return none
    else
      let control ← onDaemon (controlAllowed pkt.mode)
      if !control then return none
      else
        use .data
        let acl ← onDaemon (aclCheckClient (some ip) pkt.mode)
        if !acl then return none
        else
          use .data
          let rate ← onDaemon (rateLimitCheck (some ip) env.rateCheckTime)
          if rate ≠ 0 then return none
          else
            let d ← Proc.read
            match responseModeFor d.cli.broadcastMode pkt.mode with
            | none => return none
            | some responseMode =>
              let ratio ← onDaemon (validatePacketMode responseMode size 48)
              return if ratio ≠ 0 then none else some responseMode

/-- The thread once the response is built; the returns in front of `rate_limit_update` release
nothing. -/
def deliverResponse (responseMode : UInt8) (ip port : CString) (response : List UInt8)
    (env : RequestEnv) : HeapProc Unit := do
  use .data
  onDaemon (Proc.update fun d => { d with errno := if (strtoul port).erange then ERANGE else 0 })
  match parsePort port with
  | none => use .data
  | some portNumber =>
    use .data
    match network4ParseAddress ip portNumber with
    | none => use .data
    | some clientAddr =>
      let sock ← onDaemon (network4CreateSocket env.socket)
      if sock < 0 then pure ()
      else
        let sent ← onDaemon
          (network4Sendto .handlePeerRequestThread sock response clientAddr env.sendto)
        onDaemon (network4CloseSocket sock)
        if sent < 0 then pure ()
        else
          if responseMode = ntpModeBroadcast then
            let _ ← onDaemon (sendBroadcastResponse response env.broadcast)
          use .data
          onDaemon (Proc.update fun d =>
            { d with mode := rateLimitUpdate d.mode (some ip) env.rateUpdateTime })
          use .data
          release

/-- The thread from the receive timestamp on. -/
def sendResponse (responseMode : UInt8) (ip port : CString) (pkt : NtpHeader) (env : RequestEnv) :
    HeapProc Unit := do
  let t2 ← onDaemon (readTimestampNow env.t2Clock)
  let d ← Proc.read
  let stratum ← onDaemon modeGetDefaultStratum
  let refId ← onDaemon modeGetDefaultRefId
  let li ← onDaemon modeGetDefaultLi
  let t3 ← onDaemon (readTimestampNow env.t3Clock)
  deliverResponse responseMode ip port (peerResponse d.g responseMode li stratum refId pkt t2 t3)
    env

/-- The thread from `ntp_is_kod` on; a packet of that kind and a leap indicator release nothing. -/
def answerRequest (responseMode : UInt8) (ip port : CString) (pkt : NtpHeader) (env : RequestEnv) :
    HeapProc Unit := do
  if ntpIsKod pkt then use .data
  else
    let skip ← onDaemon (handleLeapIndicator pkt.li env.leapSchedule)
    if skip then pure () else sendResponse responseMode ip port pkt env

/-- `handle_peer_request_thread` on the copy of a request. -/
def handlePeerRequestThread (buffer : Mem) (size : ℕ) (ip port : CString) (env : RequestEnv) :
    HeapProc Unit := do
  use .data
  if size < 48 then release
  else if ip = [] ∨ port = [] then release
  else
    use .buffer
    let d ← Proc.read
    let r := parseNtpPacket buffer size env.stalePkt d.ido
    Proc.update fun d => { d with ido := r.ido }
    if !r.ok then release
    else
      match ← admitRequest buffer size ip r.pkt.toNtpHeader env with
      | none => release
      | some responseMode => answerRequest responseMode ip port r.pkt.toNtpHeader env

/-! ### The function that starts it -/

/-- What `malloc` and `pthread_create` answer: whether they succeed. -/
structure ClientRequestEnv where
  mallocData : Bool
  mallocBuffer : Bool
  create : Bool

/-- `handle_client_request` up to its `free(data)` behind `pthread_detach`: whether there is a
thread then. -/
def startRequest (env : ClientRequestEnv) : HeapProc Bool := do
  Proc.emit (.malloc .data env.mallocData)
  if env.mallocData = false then return false
  else
    use .data
    Proc.emit (.malloc .buffer env.mallocBuffer)
    use .data
    if env.mallocBuffer = false then
      Proc.emit (.free .data)
      return false
    else
      use .buffer
      use .data
      if env.create = false then
        release
        return false
      else return true

end RequestHeap

end Dntpd
