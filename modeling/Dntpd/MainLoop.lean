import Dntpd.Library.Zoom
import Dntpd.ServerConfigFile
import Dntpd.TimeSync

/-!
# The synchronisation loop (the loop at the end of `main` of `main.c`)

A round deals with the servers in order, each of which is attempted or, if an attempt has failed a
moment ago, held.  The other threads run between the attempts; what they do to the variables of the
daemon is an answer of the outside.  `time_t` does not overflow.
-/

namespace Dntpd

/-- `SYNC_INTERVAL_SECONDS` and `SYNC_RETRY_INTERVAL_SEC`. -/
def syncIntervalSeconds : ℤ := 30
def syncRetryIntervalSec : ℤ := 15

/-- What the other threads do to the daemon: `errno` belongs to the thread, and `g_cli` is not
changed once the threads run. -/
structure OtherThreads where
  act : Daemon → Daemon
  errno : ∀ d, (act d).errno = d.errno
  cli : ∀ d, (act d).cli = d.cli

/-- The other threads do nothing. -/
def OtherThreads.idle : OtherThreads := ⟨id, fun _ => rfl, fun _ => rfl⟩

/-- What the outside does until a server has had its turn: the other threads, `time(NULL)`, and the
answers to the attempt. -/
structure ServerTurn where
  others : OtherThreads
  time : ℤ
  sync : SyncEnv

/-- What the outside does during one turn of the loop: whether the flag of the signal handler is
set at its head, and what each server meets with. -/
structure RoundEnv where
  shutdownRequested : Bool
  turns : ℕ → ServerTurn

/-- What the loop does. -/
inductive LoopEvent
  | sync (e : Event)
  | attempt (server : ℕ) (now rc : ℤ)
  | held (server : ℕ) (now : ℤ)
  | logRound (allSuccess : Bool)
  | sleep (sec : ℤ)
  | waitForShutdown
  deriving DecidableEq

/-- A part of the loop. -/
abbrev LoopProc (α : Type) := Proc Daemon LoopEvent α

/-- A function of the daemon that the loop calls. -/
def onSync {α : Type} (p : DProc α) : LoopProc α := Proc.zoom id (fun _ d => d) .sync p

/-- `now`: a negative time counts as zero. -/
def ServerTurn.now (turn : ServerTurn) : ℤ := if turn.time < 0 then 0 else turn.time

/-- A server is attempted at `now`: its entry, and whether the attempt succeeded. -/
def attemptServer (i : ℕ) (server : ServerConfig) (now : ℤ) (env : SyncEnv) :
    LoopProc (ServerConfig × Bool) := do
  let rc ← onSync (syncNtpTime (some server.ip) (some server.port) env)
  Proc.emit (.attempt i now rc)
  if rc ≠ 0 then return ({ server with nextAllowedSync := now + syncRetryIntervalSec }, false)
  else return ({ server with nextAllowedSync := 0 }, true)

/-- The body of the loop over `g_servers`, for the server number `i`: its entry, and whether it was
attempted with success. -/
def syncServer (i : ℕ) (server : ServerConfig) (turn : ServerTurn) :
    LoopProc (ServerConfig × Bool) := do
  Proc.update turn.others.act
  if server.nextAllowedSync ≠ 0 ∧ turn.now < server.nextAllowedSync then
    Proc.emit (.held i turn.now)
    return (server, false)
  else attemptServer i server turn.now turn.sync

/-- The loop over `g_servers`, from number `i` on: the entries, and `all_success`. -/
def syncServers (turns : ℕ → ServerTurn) (i : ℕ) :
    List ServerConfig → LoopProc (List ServerConfig × Bool)
  | [] => return ([], true)
  | server :: rest => do
    let r ← syncServer i server (turns i)
    let rs ← syncServers turns (i + 1) rest
    return (r.1 :: rs.1, r.2 && rs.2)

/-- `sync_interval_2`. -/
def syncInterval (cli : CliConfig) : ℤ :=
  if cli.timeoutSec > 0 then cli.timeoutSec else syncIntervalSeconds

/-- The end of a turn of the loop: whether the loop is left. -/
def endRound (allSuccess : Bool) : LoopProc Bool := do
  Proc.emit (.logRound allSuccess)
  let d ← Proc.read
  Proc.emit (.sleep (syncInterval d.cli))
  return d.cli.quitAfterSync ≠ 0

/-- The loop, as far as there are answers. -/
def syncLoop (servers : List ServerConfig) : List RoundEnv → LoopProc (List ServerConfig)
  | [] => return servers
  | env :: envs => do
    if env.shutdownRequested then return servers
    else if servers = [] then
      Proc.emit .waitForShutdown
      syncLoop servers envs
    else
      let r ← syncServers env.turns 0 servers
      let quit ← endRound r.2
      if quit then return r.1 else syncLoop r.1 envs

end Dntpd
