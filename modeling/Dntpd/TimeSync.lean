import Dntpd.FreqDiscipline
import Dntpd.Socket

/-!
# Synchronisation (`sync_ntp_time` of `time_sync.c`)

The function is cut where its data changes hands: `sendSyncRequest` goes up to the request that
was sent, `processReply` makes the checks on what was received, `acceptReply` uses the reply's
times, and `recordSync` is the last section under the lock.  The clock-accuracy statistics, which
nothing reads, are left out, as is the offset `compute_system_offset` returns, which is discarded.
-/

namespace Dntpd

/-- What the outside answers during one attempt, and the stale memory `pkt` is parsed into.
`getaddrinfo` may fail with or without an error number. -/
structure SyncEnv where
  socket : SyncSocketEnv
  getaddrinfo : Except (Option Errno) UInt32
  setsockopt : Except Errno Unit
  t1Clock : Except Errno Timespec
  sendto : Except Errno Unit
  recvfrom : Except Errno Datagram
  peerTime : ℤ
  t4Clock : Except Errno Timespec
  stalePkt : NtpPacket
  leapSchedule : LeapScheduleEnv
  gettimeofday : Except Errno Timeval
  correction : CorrectionEnv
  freq : FreqEnv
  dispersionTime : ℤ
  leapCheck : LeapCheckEnv

/-! ### Dispersion and poll interval -/

/-- The dispersion `update_root_dispersion` computes, in microseconds. -/
def newDispersion (elapsedSec : ℤ) (offsetUs jitterUs : UInt64) : ℚ :=
  let elapsedSec := if elapsedSec < 0 then 0 else elapsedSec
  let phiDispersion : ℚ := phi * elapsedSec / 1000000
  let dispUs := if offsetUs > 4294967295 then 4294967295 else offsetUs
  if phiDispersion > 4294967295 - (dispUs.toNat : ℚ) - jitterUs.toNat then 4294967295
  else phiDispersion + dispUs.toNat + jitterUs.toNat

/-- `update_root_dispersion` at the time `now`. -/
def updateRootDispersion (currentDisp : UInt32) (offsetUs jitterUs : UInt64) (now : ℤ) :
    DProc UInt32 := do
  lock .gMutex
  let d ← Proc.read
  Proc.update fun d => { d with g := { d.g with lastDispersionUpdate := now } }
  unlock .gMutex
  if d.g.lastDispersionUpdate = 0 then return currentDisp
  else
    let disp := newDispersion (now - d.g.lastDispersionUpdate) offsetUs jitterUs
    return ntpU16_16FromUs (UInt64.ofInt (CInt.trunc disp))

/-- `adjust_poll_interval`. -/
def adjustPollInterval (currentPoll peerPoll : Int8) (delayUs : UInt64) (offsetUs : ℤ) : Int8 :=
  let newPoll := if peerPoll < currentPoll then peerPoll else currentPoll
  if delayUs > pollDelayHighThresholdUs ∨ offsetUs > pollOffsetHighThresholdUs ∨
      offsetUs < -pollOffsetHighThresholdUs then
    if newPoll < pollIntervalMax then newPoll + 1 else newPoll
  else if delayUs < pollDelayLowThresholdUs ∧ offsetUs > -pollOffsetLowThresholdUs ∧
      offsetUs < pollOffsetLowThresholdUs then
    if newPoll > pollIntervalMin then newPoll - 1 else newPoll
  else newPoll

/-! ### The request -/

/-- `getaddrinfo`: the address, or `none` when it fails. -/
def getaddrinfo (r : Except (Option Errno) UInt32) : DProc (Option UInt32) := do
  match r with
  | .ok addr => return some addr
  | .error e =>
    Proc.update fun d => { d with errno := (e.map Errno.val).getD d.errno }
    return none

/-- `sync_ntp_time` from the accepted port number up to the request. -/
def sendToPort (sock portNum : ℤ) (env : SyncEnv) : DProc (Option (ℤ × NtpTimestamp)) := do
  match ← getaddrinfo env.getaddrinfo with
  | none => return none
  | some addr =>
    match ← sys env.setsockopt with
    | .error _ =>
      closeSocket sock
      return none
    | .ok _ =>
      let t1 ← readTimestampNow env.t1Clock
      let d ← Proc.read
      let sent ← sendto .syncNtpTime (createNtpRequest d.g t1)
        ⟨addr, UInt16.ofNat portNum.toNat⟩ env.sendto
      if sent < 0 then
        closeSocket sock
        return none
      else return some (sock, t1)

/-- `sync_ntp_time` up to the request: the socket and the transmit timestamp, or `none` where the
function returns -1. -/
def sendSyncRequest (port : CString) (env : SyncEnv) : DProc (Option (ℤ × NtpTimestamp)) := do
  let sock ← getSyncSocket env.socket
  if sock < 0 then return none
  else
    let portNum := strtol port
    Proc.update fun d => { d with errno := if portNum.erange then ERANGE else d.errno }
    let d ← Proc.read
    -- nothing has cleared `errno` before this test
    if portNum.value < 1 ∨ portNum.value > 65535 ∨ d.errno ≠ 0 then return none
    else sendToPort sock portNum.value env

/-! ### The reply -/

/-- The loop over `g_peer_pool`: the first entry of the server is marked. -/
def markReachable (ip port : CString) (now : ℤ) : List PeerState → List PeerState
  | [] => []
  | p :: ps =>
    if strncmpEq p.ip ip 63 ∧ strncmpEq p.port port 15 then
      { p with reachable := true, lastUpdate := now } :: ps
    else p :: markReachable ip port now ps

/-- The exits that close the socket and return -1. -/
def rejectReply (sock : ℤ) : DProc ℤ := do
  closeSocket sock
  return -1

/-- The exits that first change the synchronisation state. -/
def demoteReply (sock : ℤ) (change : Globals → Globals) : DProc ℤ := do
  lock .gMutex
  Proc.update fun d => { d with g := change d.g }
  unlock .gMutex
  rejectReply sock

/-- `g_local_stratum = 16; g_time_synced = false`. -/
def Globals.unreachable (g : Globals) : Globals :=
  { g with localStratum := 16, timeSynced := false }

/-- `g_time_synced = false`. -/
def Globals.unsynced (g : Globals) : Globals := { g with timeSynced := false }

/-- The reference id of a synchronised daemon. -/
def syncRefId (ip : CString) (g : Globals) : UInt32 :=
  if g.timeSynced ∧ g.localStratum ≥ 2 then
    match inetPton ip with
    | some addr => htonl addr
    | none => refIdLocl
  else refIdLocl

/-- The last section under the lock. -/
def recordSync (ip : CString) (pkt : NtpHeader) (t4 : NtpTimestamp) (delayUs : UInt64)
    (offsetUs : ℤ) (env : SyncEnv) : DProc Unit := do
  let stratum := ntpLocalStratumFromPeer pkt.stratum
  lock .gMutex
  Proc.update fun d => { d with g := { d.g with
    timeSynced := decide (stratum ≤ 15)
    localStratum := stratum
    lastSyncTs := t4
    localRefTs := t4
    localRootDelay := ntpU16_16FromUs delayUs } }
  -- the two calls take the mutex once more
  let jitterUs ← ntpOffsetJitterUsLocked
  let d ← Proc.read
  let disp ← updateRootDispersion d.g.localRootDisp (UInt64.ofNat offsetUs.natAbs) jitterUs
    env.dispersionTime
  Proc.update fun d => { d with g := { d.g with localRootDisp := disp, localLi := pkt.li } }
  Proc.update fun d => { d with g := { d.g with localRefId := syncRefId ip d.g } }
  unlock .gMutex

/-- The nanoseconds of a `gettimeofday` reading. -/
def timevalNs (tv : Timeval) : UInt64 :=
  UInt64.ofInt tv.sec * 1000000000 + UInt64.ofNat tv.usec * 1000

/-- The sample is added if the time of day can be read. -/
def addSyncSample (delayUs : UInt64) (offsetUs : ℤ) (r : Except Errno Timeval) : DProc Unit := do
  match ← sys r with
  | .ok tv => marxAddSampleUs (timevalNs tv) delayUs offsetUs
  | .error _ => pure ()

/-- The correction and the frequency discipline. -/
def correctClock (offsetUs : ℤ) (env : SyncEnv) : DProc Unit := do
  let _ ← applyTimeCorrectionSlewOrStep .syncNtpTime offsetUs env.correction
  let d ← Proc.read
  let _ ← updateFrequencyDiscipline offsetUs d.g.localPoll.toInt env.freq

/-- The sample is added and the filter run: the number of samples it keeps. -/
def filterReply (delayUs : UInt64) (offsetUs : ℤ) (r : Except Errno Timeval) : DProc ℕ := do
  addSyncSample delayUs offsetUs r
  let d ← Proc.read
  marxFilterOutliers d.samples.count 3

/-- `sync_ntp_time` from the poll interval on. -/
def finishSync (ip : CString) (sock : ℤ) (pkt : NtpHeader) (t4 : NtpTimestamp) (delayUs : UInt64)
    (offsetUs : ℤ) (validCount : ℕ) (env : SyncEnv) : DProc ℤ := do
  Proc.update fun d => { d with g := { d.g with
    localPoll := adjustPollInterval d.g.localPoll pkt.poll delayUs offsetUs } }
  -- the mutex is not held here
  unlock .gMutex
  if validCount ≥ 1 then correctClock offsetUs env
  recordSync ip pkt t4 delayUs offsetUs env
  let _ ← leapSecondIntegrationCheck env.leapCheck
  closeSocket sock
  return 0

/-- `sync_ntp_time` once a reply has passed every check. -/
def acceptReply (ip : CString) (sock : ℤ) (pkt : NtpHeader) (t4 : NtpTimestamp) (delayUs : UInt64)
    (offsetUs : ℤ) (env : SyncEnv) : DProc ℤ := do
  let validCount ← filterReply delayUs offsetUs env.gettimeofday
  if validCount = 0 then demoteReply sock Globals.unsynced
  else finishSync ip sock pkt t4 delayUs offsetUs validCount env

/-- `sync_ntp_time` behind the check of the originate timestamp. -/
def checkTimes (ip : CString) (sock : ℤ) (t1 t4 : NtpTimestamp) (pkt : NtpHeader) (env : SyncEnv) :
    DProc ℤ := do
  if pkt.xmitTs = ⟨0, 0⟩ then rejectReply sock
  else
    match calculateDelayOffset t1 pkt.recvTs pkt.xmitTs t4 with
    | none => rejectReply sock
    | some (delayUs, offsetUs) =>
      if pkt.stratum = 0 ∨ pkt.stratum > 15 then demoteReply sock Globals.unreachable
      else if (if offsetUs ≥ 0 then offsetUs else -offsetUs) > maxDist then
        demoteReply sock Globals.unreachable
      else if delayUs > 10000000 then demoteReply sock Globals.unsynced
      else acceptReply ip sock pkt t4 delayUs offsetUs env

/-- `sync_ntp_time` from the parsed reply on. -/
def checkReply (ip : CString) (sock : ℤ) (t1 t4 : NtpTimestamp) (pkt : NtpHeader) (env : SyncEnv) :
    DProc ℤ := do
  -- the leap indicator has its effect before any check of the reply
  let skip ← handleLeapIndicator pkt.li env.leapSchedule
  if skip then rejectReply sock
  else if pkt.mode ≠ ntpModeServer then rejectReply sock
  else if ntpIsKod pkt then rejectReply sock
  else if pkt.origTs ≠ t1 then rejectReply sock
  else checkTimes ip sock t1 t4 pkt env

/-- `sync_ntp_time` from a datagram of `recvLen > 0` bytes on. -/
def processReply (ip port : CString) (sock : ℤ) (t1 : NtpTimestamp) (buffer : Mem) (recvLen : ℕ)
    (env : SyncEnv) : DProc ℤ := do
  -- the server counts as reached before the datagram is looked at
  lock .gMutex
  Proc.update fun d => { d with peerPool := markReachable ip port env.peerTime d.peerPool }
  unlock .gMutex
  let t4 ← readTimestampNow env.t4Clock
  let d ← Proc.read
  let r := parseNtpPacket buffer recvLen env.stalePkt d.ido
  Proc.update fun d => { d with ido := r.ido }
  if !r.ok then rejectReply sock
  else checkReply ip sock t1 t4 r.pkt.toNtpHeader env

/-- `sync_ntp_time`. -/
def syncNtpTime (ip port : Option CString) (env : SyncEnv) : DProc ℤ := do
  match ip, port with
  | some ip, some port =>
    match ← sendSyncRequest port env with
    | none => return -1
    | some (sock, t1) =>
      match ← sys env.recvfrom with
      | .error _ => rejectReply sock
      | .ok dg =>
        let recvLen := min dg.size bufferSize
        if recvLen > 0 then processReply ip port sock t1 dg.data recvLen env
        else rejectReply sock
  | _, _ => return -1

end Dntpd
