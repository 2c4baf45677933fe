import Dntpd.Socket

/-!
# The calls behind the sockets (`socket.c`, `network4.c`, `network6.c`)

The descriptors of `getSyncSocket` say nothing of their address family.  Here the functions that
create sockets are written once more with the calls to the kernel for events, and
`create_udp_socket` with them; what they return and leave is what they return and leave there.
-/

namespace Dntpd

/-- `AF_INET` and `AF_INET6`. -/
inductive AddressFamily
  | inet
  | inet6
  deriving DecidableEq

/-- `NETWORK_FAMILY_IPV6_ONLY` and `NETWORK_FAMILY_DUAL_STACK`. -/
def networkFamilyIpv6Only : ℤ := 1
def networkFamilyDualStack : ℤ := 2

/-- A call to the kernel. -/
inductive SocketCall
  | socket (family : AddressFamily)
  | setReuseaddr (sock : ℤ)
  | setV6only (sock : ℤ)
  | bind (sock : ℤ) (family : AddressFamily) (port : UInt16)
  | close (sock : ℤ)
  deriving DecidableEq

/-- A function that makes such calls. -/
abbrev SocketProc (α : Type) := Proc Daemon SocketCall α

namespace SocketCalls

/-- The call `e`, answered by `r`. -/
def call {α : Type} (e : SocketCall) (r : Except Errno α) : SocketProc (Except Errno α) := do
  Proc.emit e
  match r with
  | .ok _ => pure r
  | .error errno =>
    Proc.update fun d => { d with errno := errno.val }
    pure r

/-! ### network4.c and network6.c -/

/-- `network4_create_socket`. -/
def network4CreateSocket (env : SocketEnv) : SocketProc ℤ := do
  match ← call (.socket .inet) env.socket with
  | .error _ => return -1
  | .ok fd =>
    let _ ← call (.setReuseaddr fd) env.reuseaddr
    return (fd : ℤ)

/-- `network6_create_socket`. -/
def network6CreateSocket (env : SocketEnv) : SocketProc ℤ := do
  match ← call (.socket .inet6) env.socket with
  | .error _ => return -1
  | .ok fd =>
    -- options that cannot be set are only logged
    let _ ← call (.setReuseaddr fd) env.reuseaddr
    let _ ← call (.setV6only fd) env.v6only
    return (fd : ℤ)

/-- The end of the two functions that bind: a socket that cannot be bound is closed. -/
def bindSocket (sock : ℤ) (family : AddressFamily) (port : UInt16) (r : Except Errno Unit) :
    SocketProc ℤ := do
  match ← call (.bind sock family port) r with
  | .error _ =>
    Proc.emit (.close sock)
    return -1
  | .ok _ => return 0

/-- `network4_bind_socket`: an interface is an address. -/
def network4BindSocket (sock : ℤ) (interface : Option CString) (port : UInt16)
    (r : Except Errno Unit) : SocketProc ℤ :=
  match interface with
  | some (c :: cs) => if inetPton (c :: cs) = none then return -1 else bindSocket sock .inet port r
  | _ => bindSocket sock .inet port r

/-- `network6_bind_socket`: an interface is a name, and an unknown one is ignored. -/
def network6BindSocket (sock : ℤ) (port : UInt16) (r : Except Errno Unit) : SocketProc ℤ :=
  bindSocket sock .inet6 port r

/-- `network4_close_socket` and `network6_close_socket`. -/
def networkCloseSocket (sock : ℤ) : SocketProc Unit :=
  if sock ≥ 0 then Proc.emit (.close sock) else pure ()

/-! ### socket.c -/

/-- `get_sync_socket`. -/
def getSyncSocket (env : SyncSocketEnv) : SocketProc ℤ := do
  let d ← Proc.read
  if d.socket.syncSock ≥ 0 then return d.socket.syncSock
  else
    let sock ← if d.cli.familyPreference = 2 then network6CreateSocket env.create
      else network4CreateSocket env.create
    Proc.update fun d => { d with socket := { d.socket with syncSock := sock } }
    if sock < 0 then return -1
    else
      let _ ← call (.setReuseaddr sock) env.reuseaddr
      return sock

/-- What the kernel answers while the listener's socket is created and bound. -/
structure UdpSocketEnv where
  create : SocketEnv
  bind : Except Errno Unit

/-- The end of `create_udp_socket`. -/
def finishUdpSocket (sock ret : ℤ) : SocketProc ℤ := do
  if ret < 0 then
    networkCloseSocket sock
    return -1
  else return sock

/-- `create_udp_socket`. -/
def createUdpSocket (port : ℤ) (env : UdpSocketEnv) : SocketProc ℤ := do
  if port ≤ 0 ∨ port > 65535 then return -1
  else
    let d ← Proc.read
    let bindPort := UInt16.ofNat port.toNat
    if d.cli.familyPreference = networkFamilyIpv6Only then
      let sock ← network6CreateSocket env.create
      if sock < 0 then return -1
      else
        let ret ← network6BindSocket sock bindPort env.bind
        finishUdpSocket sock ret
    -- there is no socket for both families: dual stack is IPv4 here
    else if d.cli.familyPreference = networkFamilyDualStack then
      let sock ← network4CreateSocket env.create
      if sock < 0 then return -1
      else
        let ret ← network4BindSocket sock d.cli.interface bindPort env.bind
        finishUdpSocket sock ret
    else
      let sock ← network4CreateSocket env.create
      if sock < 0 then return -1
      else
        let ret ← network4BindSocket sock d.cli.interface bindPort env.bind
        finishUdpSocket sock ret

end SocketCalls

end Dntpd
