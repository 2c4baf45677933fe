import Dntpd.Arguments
import Mathlib.Data.List.DropRight

/-!
# The server list (`load_server_config` of `main.c`)

Each line of the file is a setting of the broadcast mode or a server, which goes into `g_servers`
and, while there is room, into `g_peer_pool`.  Which allocations succeed is an argument of the
function, for each turn of the loop.
-/

namespace Dntpd

/-! ### The state -/

structure ServerConfig where
  ip : CString
  port : CString
  nextAllowedSync : ℤ
  deriving DecidableEq

/-- The daemon with `g_servers`; `g_server_count` is the length of the list. -/
structure ServerState where
  daemon : Daemon
  servers : List ServerConfig

/-- The state at program start. -/
def ServerState.init : ServerState := ⟨Daemon.init, []⟩

/-- A function that works on `g_servers`. -/
abbrev ServerProc (α : Type) := Proc ServerState Event α

/-- The outcomes of the allocations in one turn of the loop. -/
structure LineAllocs where
  strndup : Bool
  strdupIp : Bool
  strdupPort : Bool
  realloc : Bool

/-- The file that `fopen` finds at a path, and the allocations of each turn. -/
structure ServerConfigEnv where
  fopen : CString → Option (List Char)
  allocs : ℕ → LineAllocs

/-- `CONFIG_FILE`. -/
def defaultConfigFile : CString := "/etc/dntpd/dntpd.conf".toList

/-! ### Broadcast settings -/

def setCli (set : CliConfig → CliConfig) : ServerProc Unit :=
  Proc.update fun s => { s with daemon := { s.daemon with cli := set s.daemon.cli } }

/-- `(int)strtol(s, NULL, 10)`. -/
def strtolInt (s : CString) : ServerProc ℤ := do
  let r := strtol s
  Proc.update fun st =>
    { st with daemon := { st.daemon with errno := if r.erange then ERANGE else st.daemon.errno } }
  return r.value.bmod 4294967296

/-- The line of `enable_broadcast`. -/
def enableBroadcastLine (line : CString) : ServerProc Unit := do
  match strchr line '=' with
  | none => pure ()
  | some (_, value) =>
    let val ← strtolInt value
    if val = 1 then setCli fun cli => { cli with broadcastMode := 1 } else pure ()

/-- The line of `broadcast_addr`. -/
def broadcastAddrLine (strndup : Bool) (line : CString) : ServerProc Unit :=
  match strchr line '=' with
  | none => pure ()
  | some (_, value) =>
    let addr := value.rdropWhile fun c => c = '\n' ∨ c = '\r'
    if 1 < value.length ∧ 0 < addr.length ∧ addr.length < inetAddrstrlen then
      setCli fun cli => { cli with broadcastAddr := if strndup then some addr else none }
    else pure ()

/-- The line of `broadcast_interval`. -/
def broadcastIntervalLine (line : CString) : ServerProc Unit := do
  match strchr line '=' with
  | none => pure ()
  | some (_, value) =>
    let val ← strtolInt value
    if val ≥ 32 ∧ val ≤ 128 then setCli fun cli => { cli with broadcastInterval := val }
    else pure ()

/-! ### Servers -/

/-- The new last entry of `g_servers`. -/
def addServer (ip port : CString) : ServerProc Unit := do
  Proc.emit (.lock .gMutex)
  Proc.update fun s => { s with servers := s.servers ++ [⟨ip, port, 0⟩] }
  Proc.emit (.unlock .gMutex)

/-- The new last entry of `g_peer_pool`, unless that is full. -/
def addPeer (ip port : CString) : ServerProc Unit := do
  Proc.emit (.lock .gMutex)
  Proc.update fun s =>
    if s.daemon.peerPool.length < maxPeers then
      { s with
        daemon := { s.daemon with
          peerPool := s.daemon.peerPool ++
            [⟨ip.take 63, port.take 15, 16, 0, 0, 0, 0, 0, false⟩] } }
    else s
  Proc.emit (.unlock .gMutex)

/-- An allocation has failed: the list is freed, and the loop is left. -/
def freeServers : ServerProc Bool := do
  Proc.update fun s => { s with servers := [] }
  return false

/-- The line of a server; whether the loop goes on. -/
def serverLine (allocs : LineAllocs) (line : CString) : ServerProc Bool := do
  match strchr line ':' with
  | none => return true
  | some (ip, port) =>
    if ip = [] then return true
    else if ip.length ≥ 127 then return true
    else if port.length ≥ 15 then return true
    else if !allocs.strdupIp || !allocs.strdupPort then freeServers
    else if !allocs.realloc then freeServers
    else
      addServer ip port
      addPeer ip port
      return true

/-! ### The loop -/

/-- One turn of the loop; whether it goes on. -/
def loadServerLine (allocs : LineAllocs) (line : CString) : ServerProc Bool := do
  if line.head? = some '\n' ∨ line.head? = some '#' ∨ line.head? = some '\r' then return true
  else if strncmpEq line "enable_broadcast".toList 16 then
    enableBroadcastLine line
    return true
  else if strncmpEq line "broadcast_addr".toList 14 then
    broadcastAddrLine allocs.strndup line
    return true
  else if strncmpEq line "broadcast_interval".toList 18 then
    broadcastIntervalLine line
    return true
  else serverLine allocs line

/-- The loop over the lines that `fgets` reads into a buffer of 256 bytes, from turn `turn` on. -/
def loadServerLines (allocs : ℕ → LineAllocs) (turn : ℕ) (file : List Char) : ServerProc ℤ :=
  match _hline : fgets 255 file with
  | none => do
    let s ← Proc.read
    return s.servers.length
  | some (line, rest) => do
    let more ← loadServerLine (allocs turn) (cString line)
    if more then loadServerLines allocs (turn + 1) rest else return 0
termination_by file.length
decreasing_by exact fgets_length_lt (by decide) _hline

/-- `load_server_config`. -/
def loadServerConfig (env : ServerConfigEnv) : ServerProc ℤ := do
  let s ← Proc.read
  match env.fopen (s.daemon.cli.configFile.getD defaultConfigFile) with
  | none => return 0
  | some file => loadServerLines env.allocs 0 file

end Dntpd
