import Dntpd.ClockThreadObjects
import Dntpd.Library.Zoom
import Dntpd.SocketCalls

/-!
# The listener of ntpq (`socket.c`)

The socket is made by the functions that make the UDP sockets, so their calls are among those of the
listener.  A client is served from `accept` to `close` by the one thread that accepts.
-/

namespace Dntpd

/-! ### The listening socket -/

/-- What the functions of the listener do. -/
inductive ListenerCall
  | socketCall (c : SocketCall)
  | listen (sock : ℤ)
  | lockTcpSock
  | unlockTcpSock
  deriving DecidableEq

/-- A function of the listener. -/
abbrev ListenerProc (α : Type) := Proc Daemon ListenerCall α

/-- A function that makes socket calls. -/
def onSocket {α : Type} (p : SocketProc α) : ListenerProc α :=
  Proc.zoom id (fun _ d => d) .socketCall p

/-- What the kernel answers while the listener's socket is created. -/
structure TcpSocketEnv where
  create : SocketEnv
  reuseaddr : Except Errno Unit
  bind : Except Errno Unit
  listen : Except Errno Unit

/-- `DEFAULT_NTPQ_PORT`. -/
def defaultNtpqPort : UInt16 := 323

namespace TcpListener

/-- `listen`. -/
def listen (sock : ℤ) (r : Except Errno Unit) : ListenerProc (Except Errno Unit) := do
  Proc.emit (.listen sock)
  match r with
  | .ok _ => return r
  | .error e =>
    Proc.update fun d => { d with errno := e.val }
    return r

/-- `network4_bind_to_port`. -/
def network4BindToPort (sock : ℤ) (port : UInt16) (r : Except Errno Unit) : SocketProc ℤ :=
  SocketCalls.network4BindSocket sock none port r

/-- `create_tcp_socket`, whose socket is one for datagrams. -/
def createTcpSocket (port : UInt16) (env : TcpSocketEnv) : ListenerProc ℤ := do
  let sock ← onSocket (SocketCalls.network4CreateSocket env.create)
  if sock < 0 then return -1
  else
    let _ ← onSocket (SocketCalls.call (.setReuseaddr sock) env.reuseaddr)
    let ret ← onSocket (network4BindToPort sock port env.bind)
    if ret < 0 then
      onSocket (SocketCalls.networkCloseSocket sock)
      return -1
    else
      match ← listen sock env.listen with
      | .error _ =>
        onSocket (SocketCalls.networkCloseSocket sock)
        return -1
      | .ok _ => return sock

/-- `start_tcp_listener`. -/
def startTcpListener (env : TcpSocketEnv) : ListenerProc ℤ := do
  Proc.emit .lockTcpSock
  let d ← Proc.read
  if d.socket.tcpSock ≥ 0 then
    Proc.emit .unlockTcpSock
    return d.socket.tcpSock
  else
    let sock ← createTcpSocket defaultNtpqPort env
    Proc.update fun d => { d with socket := { d.socket with tcpSock := sock } }
    Proc.emit .unlockTcpSock
    return sock

/-- `stop_tcp_listener`. -/
def stopTcpListener : ListenerProc Unit := do
  Proc.emit .lockTcpSock
  let d ← Proc.read
  if d.socket.tcpSock ≥ 0 then
    Proc.emit (.socketCall (.close d.socket.tcpSock))
    Proc.update fun d => { d with socket := { d.socket with tcpSock := -1 } }
    Proc.emit .unlockTcpSock
  else Proc.emit .unlockTcpSock

/-- `start_ntpq_thread`, for the outcome of `pthread_create`. -/
def startNtpqThread (create : Bool) : ListenerProc ℤ := do
  let d ← Proc.read
  if d.socket.tcpSock < 0 then return -1
  else if create = false then return -1
  else return 0

end TcpListener

end Dntpd
