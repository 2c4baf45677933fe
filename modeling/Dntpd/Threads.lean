import Dntpd.Network
import Dntpd.NtpPacket

/-!
# The request handler of the peer thread (`threads.c`)

The response is an `NtpPacket` in memory, sent as it lies there: `packetImage` is its image on a
little-endian target with an 8-byte `size_t`.
-/

namespace Dntpd

/-! ### The packet in memory -/

/-- `sizeof(NtpPacket)`: 48 bytes of header, the 8-byte length, the key id, the 20-byte digest, and
3 bytes of padding. -/
def sizeofNtpPacket : ℕ := 80

/-- A word in memory, low byte first. -/
def wordImage (v : UInt32) : List UInt8 :=
  [v.toUInt8, (v >>> 8).toUInt8, (v >>> 16).toUInt8, (v >>> 24).toUInt8]

/-- A timestamp in memory. -/
def timestampImage (t : NtpTimestamp) : List UInt8 := wordImage t.sec ++ wordImage t.frac

/-- The header in memory. -/
def headerImage (h : NtpHeader) : List UInt8 :=
  [h.liVnMode, h.stratum, h.poll.toUInt8, h.precision.toUInt8]
    ++ wordImage h.rootDelay ++ wordImage h.rootDisp ++ wordImage h.refId
    ++ timestampImage h.refTs ++ timestampImage h.origTs
    ++ timestampImage h.recvTs ++ timestampImage h.xmitTs

/-- A packet in memory whose padding was cleared. -/
def packetImage (p : NtpPacket) : List UInt8 :=
  headerImage p.toNtpHeader
    ++ wordImage p.extensionLen.toUInt32 ++ wordImage (p.extensionLen >>> 32).toUInt32
    ++ [p.keyId] ++ p.macDigest.toList ++ List.replicate 3 0

/-! ### The handler -/

/-- The packet `handle_peer_request` answers `pkt` with at the time `now`. -/
def peerRequestResponse (g : Globals) (pkt : NtpHeader) (now : NtpTimestamp) : NtpPacket :=
  { NtpPacket.zero with
    liVnMode := ((0 : UInt8) <<< 6) ||| (ntpVn4 <<< 3) ||| 3
    stratum := g.localStratum
    precision := g.localPrecision
    poll := g.peerPoll
    rootDelay := g.localRootDelay
    rootDisp := g.localRootDisp
    refId := g.localRefId
    refTs := g.localRefTs
    recvTs := pkt.recvTs
    xmitTs := pkt.xmitTs
    -- the current time, where a reply repeats the transmit time of its request
    origTs := now }

/-- What the outside answers while the handler replies. -/
structure PeerReplyEnv where
  clock : Except Errno Timespec
  sendto : Except Errno Unit

/-- The reply, between the lock and the unlock of the peer's socket. -/
def sendPeerReply (idx : Fin maxPeers) (pkt : NtpHeader) (env : PeerReplyEnv) : DProc ℤ := do
  lock (.sockMutex idx)
  let d ← Proc.read
  if (d.peerCtx idx).sockValid then
    let now ← readTimestampNow env.clock
    let ret ← sendto .handlePeerRequest (packetImage (peerRequestResponse d.g pkt now))
      (d.peerCtx idx).clientAddr env.sendto
    unlock (.sockMutex idx)
    return ret
  else
    unlock (.sockMutex idx)
    return 0

/-- `handle_peer_request`; the address strings only go to the log. -/
def handlePeerRequest (buffer : Mem) (size : ℕ) (peerIdx : ℤ) (env : PeerReplyEnv) : DProc ℤ := do
  if h : 0 ≤ peerIdx ∧ peerIdx < maxPeers then
    if size < sizeofNtpPacket then return -1
    else
      let d ← Proc.read
      let r := parseNtpPacket buffer size NtpPacket.zero d.ido
      Proc.update fun d => { d with ido := r.ido }
      if !r.ok then return -1
      else if r.pkt.mode ≠ ntpModeClient then return -1
      else sendPeerReply ⟨peerIdx.toNat, by omega⟩ r.pkt.toNtpHeader env
  else return -1

end Dntpd
