import Dntpd.TimeCorrection

/-!
# Socket calls (`network4.c`, `network6.c`)
-/

namespace Dntpd

/-- What the kernel answers while a datagram socket is created: the descriptor, and the outcomes of
the options set on it. -/
structure SocketEnv where
  socket : Except Errno ℕ
  reuseaddr : Except Errno Unit
  v6only : Except Errno Unit

/-- `network4_create_socket`. -/
def network4CreateSocket (env : SocketEnv) : DProc ℤ := do
  match ← sys env.socket with
  | .error _ => return -1
  | .ok fd =>
    let _ ← sys env.reuseaddr
    return (fd : ℤ)

/-- `network6_create_socket`. -/
def network6CreateSocket (env : SocketEnv) : DProc ℤ := do
  match ← sys env.socket with
  | .error _ => return -1
  | .ok fd =>
    let _ ← sys env.reuseaddr
    let _ ← sys env.v6only
    return (fd : ℤ)

/-- `sendto`, called by `sender`. -/
def sendto (sender : Sender) (bytes : List UInt8) (dest : SockAddrIn) (r : Except Errno Unit) :
    DProc ℤ := do
  let r ← sys r
  Proc.emit (.sendto sender dest bytes r.toBool)
  return callStatus r

/-- `network4_sendto`, called by `sender`. -/
def network4Sendto (sender : Sender) (sock : ℤ) (bytes : List UInt8) (dest : SockAddrIn)
    (r : Except Errno Unit) : DProc ℤ := do
  if sock < 0 then return -1 else sendto sender bytes dest r

/-- `network4_close_socket`. -/
def network4CloseSocket (sock : ℤ) : DProc Unit := do
  if sock ≥ 0 then Proc.emit (.close sock) else pure ()

/-- `network4_parse_address`. -/
def network4ParseAddress (addrStr : CString) (port : UInt16) : Option SockAddrIn :=
  (inetPton addrStr).map fun addr => ⟨addr, port⟩

/-- `network4_set_broadcast_addr`. -/
def network4SetBroadcastAddr (broadcastIp : Option CString) (port : UInt16) : SockAddrIn :=
  match broadcastIp with
  | none => ⟨inaddrNone, port⟩
  | some s => ⟨if s = [] then inaddrNone else (inetPton s).getD inaddrNone, port⟩

end Dntpd
