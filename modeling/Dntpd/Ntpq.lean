import Dntpd.Library.CInt
import Dntpd.TcpListener

/-!
# The answers to ntpq (`socket.c`)

One thread accepts the clients of the listener and serves each from `accept` to `close`, before it
accepts the next one.  What the other threads make of the variables in the meantime is an answer of
the outside.
-/

namespace Dntpd

/-- What the thread does.  `accept` and `recv` carry what came of them, and `send` the string in the
buffer that is sent and the length that is given for it. -/
inductive NtpqCall
  | accept (sock : ℤ) (client : Option ℤ)
  | recv (fd : ℤ) (request : List Char)
  | daemon (e : Event)
  | object (c : ObjectCall)
  | send (fd : ℤ) (response : CString) (len : ℕ)
  | close (fd : ℤ)
  deriving DecidableEq

/-- A function of the thread. -/
abbrev NtpqProc (α : Type) := Proc ClockThreadState NtpqCall α

/-- What the outside does for one client: the outcomes of `accept`, `recv` and `send`, and what the
other threads leave by the time each variable is read. -/
structure NtpqTurn where
  accept : Except Errno ℕ
  recv : Except Errno (List Char)
  published : Globals
  offsetUs : ℤ
  offset_int64 : CInt.InInt64 offsetUs
  correction : ℤ
  send : Except Errno Unit

/-! ### Formats -/

/-- `%u`. -/
def printU (n : ℕ) : CString := Nat.toDigits 10 n

/-- `%d` and `%ld`. -/
def printD (v : ℤ) : CString :=
  if v < 0 then '-' :: Nat.toDigits 10 v.natAbs else Nat.toDigits 10 v.natAbs

/-- `%02x`. -/
def printX2 (n : ℕ) : CString :=
  let digits := Nat.toDigits 16 n
  List.replicate (2 - digits.length) '0' ++ digits

/-- `VERSION`. -/
def version : CString := "1.0.0".toList

namespace Ntpq

def versionResponse : CString := "dntpd ".toList ++ version ++ "\r\n".toList

/-- The one line of the table, whose status is the only column that is not fixed. -/
def associationsResponse (synced : Bool) (stratum : UInt8) : CString :=
  "ind\tassid\tstatus\tconf\treach\tcondition\tlast_event\n1\t1\t".toList
    ++ (if synced then if stratum ≤ 15 then "6" else "3" else "3").toList
    ++ "\t0\t377\tsynchronized\t1\n".toList

/-- What a correction is called. -/
def correctionName (correction : ℤ) : CString :=
  if correction = 1 then "STEP".toList else if correction = 2 then "SLEW".toList else "NONE".toList

def sysinfoResponse (g : Globals) (lastOffset lastCorrection : ℤ) : CString :=
  "system peer: LOCAL(0)\nstratum: ".toList ++ printU g.localStratum.toNat
    ++ "\npoll: ".toList ++ printD g.localPoll.toInt
    ++ "\nprecision: ".toList ++ printD g.localPrecision.toInt
    -- the upper half of what is left when the bytes are swapped
    ++ "\nroot delay: ".toList ++ printU (htonl g.localRootDelay >>> 16).toNat
    ++ " ms\nroot dispersion: ".toList ++ printU (htonl g.localRootDisp >>> 16).toNat
    ++ " ms\nleap: ".toList ++ printX2 g.localLi.toNat
    ++ "\nclock offset: ".toList ++ printD lastOffset
    ++ " us\ncorrection: ".toList ++ correctionName lastCorrection ++ "\n".toList

def okResponse : CString := "OK\r\n".toList

/-! ### One client -/

/-- A call that fails leaves its error number. -/
def noteErrno {α : Type} (r : Except Errno α) : NtpqProc Unit :=
  match r with
  | .ok _ => return ()
  | .error e => Proc.update fun s => { s with daemon := { s.daemon with errno := e.val } }

/-- `accept`. -/
def accept (r : Except Errno ℕ) : NtpqProc (Option ℤ) := do
  let s ← Proc.read
  let client := r.toOption.map fun fd : ℕ => (fd : ℤ)
  Proc.emit (.accept s.daemon.socket.tcpSock client)
  noteErrno r
  return client

/-- `recv` into a buffer of 1024 bytes, with room for the terminator; nothing for an error and for a
client that has closed. -/
def recv (fd : ℤ) (r : Except Errno (List Char)) : NtpqProc (List Char) := do
  let request := (r.toOption.getD []).take 1023
  Proc.emit (.recv fd request)
  noteErrno r
  return request

/-- `snprintf` into a buffer of 1024 bytes, and `send` of the length that it returns. -/
def sendResponse (fd : ℤ) (text : CString) (r : Except Errno Unit) : NtpqProc Unit := do
  Proc.emit (.send fd (text.take 1023) text.length)
  noteErrno r

/-- The section that reads the published variables. -/
def readPublished (published : Globals) : NtpqProc Globals := do
  Proc.emit (.daemon (.lock .gMutex))
  Proc.update fun s => { s with daemon := { s.daemon with g := published } }
  let s ← Proc.read
  Proc.emit (.daemon (.unlock .gMutex))
  return s.daemon.g

/-- A function of the clock thread. -/
def onObjects {α : Type} (p : ObjectProc α) : NtpqProc α :=
  Proc.zoom id (fun _ s => s) .object p

/-- `clock_thread_get_last_offset`, of what the clock thread has stored by then. -/
def lastOffset (offsetUs : ℤ) : NtpqProc ℤ := do
  Proc.update fun s => { s with ctx := { s.ctx with lastOffsetUs := offsetUs } }
  onObjects ClockThreadObjects.clockThreadGetLastOffset

/-- `clock_thread_get_last_correction`. -/
def lastCorrection (correction : ℤ) : NtpqProc ℤ := do
  Proc.update fun s => { s with ctx := { s.ctx with lastCorrection := correction } }
  onObjects ClockThreadObjects.clockThreadGetLastCorrection

/-- The end of a client that is answered. -/
def answer (clientFd : ℤ) (text : CString) (r : Except Errno Unit) : NtpqProc Unit := do
  if text.length > 0 then sendResponse clientFd text r
  Proc.emit (.close clientFd)

/-- `handle_ntpq_request`. -/
def handleNtpqRequest (clientFd : ℤ) (turn : NtpqTurn) : NtpqProc Unit := do
  let received ← recv clientFd turn.recv
  if received = [] then Proc.emit (.close clientFd)
  else
    let request := cString received
    if strncmpEq request "version".toList 7 then answer clientFd versionResponse turn.send
    else if strncmpEq request "associations".toList 12 then
      let g ← readPublished turn.published
      answer clientFd (associationsResponse g.timeSynced g.localStratum) turn.send
    else if strncmpEq request "sysinfo".toList 7 then
      let g ← readPublished turn.published
      let offset ← lastOffset turn.offsetUs
      let correction ← lastCorrection turn.correction
      answer clientFd (sysinfoResponse g offset correction) turn.send
    else if strncmpEq request "quit".toList 4 then
      sendResponse clientFd okResponse turn.send
      Proc.emit (.close clientFd)
    else answer clientFd okResponse turn.send

/-! ### The thread -/

/-- The loop of `tcp_accept_thread`, as far as there are clients. -/
def tcpAcceptLoop : List NtpqTurn → NtpqProc Unit
  | [] => return ()
  | turn :: turns => do
    match ← accept turn.accept with
    | none =>
      let s ← Proc.read
      if s.daemon.errno = EINTR then tcpAcceptLoop turns else return ()
    | some clientFd =>
      handleNtpqRequest clientFd turn
      tcpAcceptLoop turns

end Ntpq

end Dntpd
