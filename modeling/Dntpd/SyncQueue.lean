import Dntpd.TimeSync

/-!
# The sync socket as a queue

`close_socket` keeps the cached sync socket open, and nothing empties it, so a datagram that an
attempt leaves unread is what the next one reads first.  The client is the daemon with the queue of
the datagrams that were delivered and not read.
-/

namespace Dntpd

structure SyncClient where
  daemon : Daemon
  queue : List Datagram

/-- One call of `sync_ntp_time`, and the datagrams delivered to the socket before its receive
timeout, in order. -/
structure QueuedAttempt where
  ip : CString
  port : CString
  env : SyncEnv
  arrivals : List Datagram

namespace QueuedAttempt

/-- What is in the socket when the attempt reads it, oldest first. -/
def delivered (a : QueuedAttempt) (c : SyncClient) : List Datagram := c.queue ++ a.arrivals

/-- `recvfrom` takes the head of the queue, or times out. -/
def envIn (a : QueuedAttempt) (c : SyncClient) : SyncEnv :=
  { a.env with
    recvfrom :=
      match a.delivered c with
      | [] => .error EAGAIN
      | dg :: _ => .ok dg }

/-- What the attempt runs. -/
def run (a : QueuedAttempt) (c : SyncClient) : DProc ℤ :=
  syncNtpTime (some a.ip) (some a.port) (a.envIn c)

/-- The client after the attempt.  Only an attempt that sent its request reads the socket. -/
def step (a : QueuedAttempt) (c : SyncClient) : SyncClient where
  daemon := (a.run c c.daemon).state
  queue :=
    if (sendSyncRequest a.port (a.envIn c) c.daemon).ret.isSome then (a.delivered c).tail
    else a.delivered c

end QueuedAttempt

end Dntpd
