import Dntpd.Library.Zoom
import Dntpd.Threads
import Mathlib.Data.List.FinRange
import Mathlib.Logic.Function.Basic

/-!
# The peer threads (`threads.c`)

A thread receives on the socket of its context and hands what it receives to `handle_peer_request`.
The length of the address buffer is passed to `recvfrom` as it was left by the call before, and the
context starts with zeros.  Addresses are those of IPv4.  The running flags belong to all threads,
so what the loop reads of its flag is an answer of the outside.
-/

namespace Dntpd

/-- The fields of `PeerThreadContext` that the thread and its creator share besides those of the
request handler. -/
structure PeerSocket where
  sockFd : ℤ
  clientAddrLen : ℕ
  deriving DecidableEq

/-- A context in zeroed memory. -/
def PeerSocket.zero : PeerSocket := ⟨0, 0⟩

/-- What the functions of the peer threads share: `g_peer_ctx` is `peerCtx` of the daemon with
`sockets`, and `running` is `g_peer_threads_running`. -/
structure PeerThreads where
  daemon : Daemon
  sockets : Fin maxPeers → PeerSocket
  running : Fin maxPeers → Bool

/-- What they do; `mutexInit` tells whether the initialisation succeeded. -/
inductive PeerCall
  | daemon (e : Event)
  | recvfrom (sock : ℤ)
  | mutexInit (idx : Fin maxPeers) (ok : Bool)
  | mutexDestroy (idx : Fin maxPeers)
  | join (idx : Fin maxPeers)
  | close (sock : ℤ)
  deriving DecidableEq

/-- A function of the peer threads. -/
abbrev PeerProc (α : Type) := Proc PeerThreads PeerCall α

namespace PeerThread

/-- A function of the daemon. -/
def onDaemon {α : Type} (p : DProc α) : PeerProc α :=
  Proc.zoom PeerThreads.daemon (fun s d => { s with daemon := d }) .daemon p

/-! ### Contexts -/

def setRunning (idx : Fin maxPeers) (running : Bool) : PeerProc Unit :=
  Proc.update fun s => { s with running := Function.update s.running idx running }

def setSocket (idx : Fin maxPeers) (socket : PeerSocket) : PeerProc Unit :=
  Proc.update fun s => { s with sockets := Function.update s.sockets idx socket }

def setContext (idx : Fin maxPeers) (ctx : PeerThreadContext) : PeerProc Unit :=
  Proc.update fun s =>
    { s with daemon := { s.daemon with peerCtx := Function.update s.daemon.peerCtx idx ctx } }

/-- `atomic_store` to `sock_valid`. -/
def setSockValid (idx : Fin maxPeers) (valid : Bool) : PeerProc Unit := do
  let s ← Proc.read
  setContext idx { s.daemon.peerCtx idx with sockValid := valid }

/-- The section that marks the socket of a context as valid. -/
def validateSocket (idx : Fin maxPeers) (sockFd : ℤ) : PeerProc Unit := do
  onDaemon (lock (.sockMutex idx))
  setSockValid idx true
  let s ← Proc.read
  setSocket idx { s.sockets idx with sockFd := sockFd }
  onDaemon (unlock (.sockMutex idx))

/-! ### The thread -/

/-- `sizeof(struct sockaddr_in)`. -/
def sizeofSockAddrIn : ℕ := 16

/-- What the outside does during one turn of the loop: what the loop reads of its flag, the datagram
that is received with the address it comes from, the variables the other threads publish by then,
and the answers to the handler. -/
structure PeerTurn where
  running : Bool
  recvfrom : Except Errno (Datagram × SockAddrIn)
  published : Globals
  reply : PeerReplyEnv

/-- `recvfrom` stores an address if the length it finds allows it, and leaves the length of the
address; the length it finds is that of the call before, or zero. -/
def recvfrom (idx : Fin maxPeers) (r : Except Errno (Datagram × SockAddrIn)) :
    PeerProc (Option Datagram) := do
  let s ← Proc.read
  Proc.emit (.recvfrom (s.sockets idx).sockFd)
  match r with
  | .error e =>
    Proc.update fun s => { s with daemon := { s.daemon with errno := e.val } }
    return none
  | .ok (dg, addr) =>
    let ctx := s.daemon.peerCtx idx
    let stored := (s.sockets idx).clientAddrLen ≥ sizeofSockAddrIn
    setContext idx { ctx with clientAddr := if stored then addr else ctx.clientAddr }
    setSocket idx { s.sockets idx with clientAddrLen := sizeofSockAddrIn }
    return some dg

/-- The buffer of a turn: what was received, and zeros behind it. -/
def peerBuffer (dg : Datagram) : Mem := fun i =>
  if i < min dg.size bufferSize then dg.data i else 0

/-- The end of the thread. -/
def endPeerThread (idx : Fin maxPeers) : PeerProc Unit := do
  setSockValid idx false
  setRunning idx false

/-- The loop, as far as there are answers. -/
def peerThreadLoop (idx : Fin maxPeers) : List PeerTurn → PeerProc Unit
  | [] => return ()
  | turn :: turns => do
    if turn.running then
      match ← recvfrom idx turn.recvfrom with
      | none =>
        let s ← Proc.read
        if s.daemon.errno = EAGAIN.val then peerThreadLoop idx turns else endPeerThread idx
      | some dg =>
        onDaemon (Proc.update fun d => { d with g := turn.published })
        let _ ← onDaemon (handlePeerRequest (peerBuffer dg) (min dg.size bufferSize) idx turn.reply)
        peerThreadLoop idx turns
    else endPeerThread idx

/-- `peer_thread_main`. -/
def peerThreadMain (idx : Fin maxPeers) (turns : List PeerTurn) : PeerProc Unit := do
  setRunning idx true
  let s ← Proc.read
  validateSocket idx (s.sockets idx).sockFd
  peerThreadLoop idx turns

/-! ### Start -/

/-- What `pthread_mutex_init`, `pthread_create` and `pthread_detach` answer: whether they
succeed. -/
structure PeerStartEnv where
  mutexInit : Bool
  create : Bool
  detach : Bool

/-- `peer_thread_init`; the address and the port only go to the log. -/
def peerThreadInit (sockFd : ℤ) (idx : Fin maxPeers) (mutexInit : Bool) : PeerProc ℤ := do
  setContext idx ⟨false, ⟨0, 0⟩⟩
  setSocket idx ⟨sockFd, 0⟩
  Proc.emit (.mutexInit idx mutexInit)
  if mutexInit = false then return -1 else return 0

/-- `start_peer_thread`. -/
def startPeerThread (sockFd : ℤ) (ip port : Option CString) (idx : ℤ) (env : PeerStartEnv) :
    PeerProc ℤ := do
  if h : sockFd < 0 ∨ ip = none ∨ port = none ∨ idx < 0 ∨ idx ≥ maxPeers then return -1
  else
    let idx : Fin maxPeers := ⟨idx.toNat, by omega⟩
    let ret ← peerThreadInit sockFd idx env.mutexInit
    if ret ≠ 0 then return -1
    else if env.create = false then return -1
    else if env.detach = false then return -1
    else
      setRunning idx true
      validateSocket idx sockFd
      return 0

/-! ### Stop -/

/-- The indices below `g_peer_pool_count`. -/
def poolIndices (s : PeerThreads) : List (Fin maxPeers) :=
  (List.finRange maxPeers).take s.daemon.peerPool.length

/-- The body of the loop of `stop_peer_thread`; the thread it joins was detached. -/
def stopPeer (idx : Fin maxPeers) : PeerProc Unit := do
  let s ← Proc.read
  if s.running idx then
    setRunning idx false
    Proc.emit (.join idx)
  else return ()

/-- The loop of `stop_peer_thread`. -/
def stopPeers : List (Fin maxPeers) → PeerProc Unit
  | [] => return ()
  | idx :: rest => do
    stopPeer idx
    stopPeers rest

/-- `stop_peer_thread`. -/
def stopPeerThread : PeerProc Unit := do
  let s ← Proc.read
  stopPeers (poolIndices s)

/-- The socket of a context is closed. -/
def closePeerSocket (idx : Fin maxPeers) : PeerProc Unit := do
  let s ← Proc.read
  if (s.sockets idx).sockFd ≥ 0 then
    Proc.emit (.close (s.sockets idx).sockFd)
    setSocket idx { s.sockets idx with sockFd := -1 }
  else return ()

/-- The body of the loop of `cleanup_peer_thread`. -/
def cleanupPeer (idx : Fin maxPeers) : PeerProc Unit := do
  let s ← Proc.read
  if s.running idx then return ()
  else
    onDaemon (lock (.sockMutex idx))
    closePeerSocket idx
    onDaemon (unlock (.sockMutex idx))
    Proc.emit (.mutexDestroy idx)

/-- The loop of `cleanup_peer_thread`. -/
def cleanupPeers : List (Fin maxPeers) → PeerProc Unit
  | [] => return ()
  | idx :: rest => do
    cleanupPeer idx
    cleanupPeers rest

/-- `cleanup_peer_thread`. -/
def cleanupPeerThread : PeerProc Unit := do
  let s ← Proc.read
  cleanupPeers (poolIndices s)

end PeerThread

end Dntpd
