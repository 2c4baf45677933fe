import Mathlib.Data.Rat.Defs
import Dntpd.Library.CInt

/-!
# The base types and constants of the daemon (`ntpd.h`, `mode_handler.h`, `time_sync.h`)

Fixed-width unsigned fields are Lean's `UIntN`; `int8_t` is `Int8`; `int64_t`, `time_t` and `int`
values are integers, reduced with `CInt.int64` where the code computes with them near the range.
A C string is the list of its characters up to the terminator.  `double` and `float` are read as
exact rationals.
-/

namespace Dntpd

/-- A C string, without its terminator. -/
abbrev CString := List Char

/-- Memory behind a pointer: the byte at each offset, whatever object lies there. -/
abbrev Mem := ℕ → UInt8

/-- The memory of a byte list, zero past its end. -/
def Mem.ofList (l : List UInt8) : Mem := fun i => l.getD i 0

@[simp] theorem Mem.ofList_apply (l : List UInt8) (i : ℕ) : Mem.ofList l i = l.getD i 0 := rfl

/-! ### Constants -/

def bufferSize : ℕ := 1024
def maxSamples : ℕ := 64
def maxPeers : ℕ := 8
def phi : ℚ := 15
def maxDist : ℤ := 1000000
def stepThresholdUs : ℤ := 500000
def pollDelayHighThresholdUs : UInt64 := 100000
def pollDelayLowThresholdUs : UInt64 := 10000
def pollOffsetHighThresholdUs : ℤ := 50000
def pollOffsetLowThresholdUs : ℤ := 10000
def pollIntervalMin : Int8 := 4
def pollIntervalMax : Int8 := 12

def ntpPort : UInt16 := 123

def ntpLiMask : UInt8 := 0xC0
def ntpVnMask : UInt8 := 0x38
def ntpModeMask : UInt8 := 0x07
def ntpVnShift : UInt8 := 3
def ntpLiShift : UInt8 := 6
def ntpVn4 : UInt8 := 4
def ntpModeSymmetricActive : UInt8 := 1
def ntpModeSymmetricPassive : UInt8 := 2
def ntpModeClient : UInt8 := 3
def ntpModeServer : UInt8 := 4
def ntpModeBroadcast : UInt8 := 5
def ntpModeControl : UInt8 := 6
def ntpModePrivate : UInt8 := 7
def ntpUnixEpochDelta : ℤ := 2208988800

def leapSecondDirPositive : UInt8 := 1
def leapSecondDirNegative : UInt8 := 2

/-- `0x4C4F434C`, the reference id `LOCL` of an unsynchronised clock. -/
def refIdLocl : UInt32 := 0x4C4F434C

/-! ### Clock readings -/

/-- A `struct timespec` the kernel returned. -/
structure Timespec where
  sec : ℤ
  nsec : ℕ
  nsec_lt : nsec < 1000000000
  deriving DecidableEq, Repr

/-- A `struct timeval` the kernel returned. -/
structure Timeval where
  sec : ℤ
  usec : ℕ
  usec_lt : usec < 1000000
  deriving DecidableEq, Repr

/-- An error number; a failing call never reports zero. -/
structure Errno where
  val : ℤ
  ne_zero : val ≠ 0
  deriving DecidableEq, Repr

/-- The error number of a receive timeout. -/
def EAGAIN : Errno := ⟨11, by decide⟩

/-! ### Packets and samples -/

structure NtpTimestamp where
  sec : UInt32
  frac : UInt32
  deriving DecidableEq, Repr

/-- The 48 bytes every NTP packet has. -/
structure NtpHeader where
  liVnMode : UInt8
  stratum : UInt8
  poll : Int8
  precision : Int8
  rootDelay : UInt32
  rootDisp : UInt32
  refId : UInt32
  refTs : NtpTimestamp
  origTs : NtpTimestamp
  recvTs : NtpTimestamp
  xmitTs : NtpTimestamp
  deriving DecidableEq

/-- `NtpPacket`: the header, then the fields the parser may fill from behind it. -/
structure NtpPacket extends NtpHeader where
  extensionLen : UInt64
  keyId : UInt8
  macDigest : Vector UInt8 20
  deriving DecidableEq

/-- The packet `memset(&pkt, 0, sizeof(pkt))` leaves. -/
def NtpPacket.zero : NtpPacket where
  liVnMode := 0
  stratum := 0
  poll := 0
  precision := 0
  rootDelay := 0
  rootDisp := 0
  refId := 0
  refTs := ⟨0, 0⟩
  origTs := ⟨0, 0⟩
  recvTs := ⟨0, 0⟩
  xmitTs := ⟨0, 0⟩
  extensionLen := 0
  keyId := 0
  macDigest := Vector.replicate 20 0

namespace NtpHeader

/-- `(li_vn_mode & NTP_LI_MASK) >> NTP_LI_SHIFT`. -/
def li (h : NtpHeader) : UInt8 := (h.liVnMode &&& ntpLiMask) >>> ntpLiShift

/-- `(li_vn_mode & NTP_VN_MASK) >> NTP_VN_SHIFT`. -/
def vn (h : NtpHeader) : UInt8 := (h.liVnMode &&& ntpVnMask) >>> ntpVnShift

/-- `li_vn_mode & NTP_MODE_MASK`. -/
def mode (h : NtpHeader) : UInt8 := h.liVnMode &&& ntpModeMask

end NtpHeader

/-- One MARX filter sample. -/
structure NtpSample where
  ts : UInt64
  delay : UInt64
  offset : ℤ
  deriving DecidableEq, Repr

/-- An IPv4 socket address: the address as `in_addr_t` (network byte order) and the port. -/
structure SockAddrIn where
  addr : UInt32
  port : UInt16
  deriving DecidableEq, Repr

/-- A received datagram: its length and the memory it was read into. -/
structure Datagram where
  data : Mem
  size : ℕ

/-- The datagram that holds exactly these bytes. -/
def Datagram.ofList (l : List UInt8) : Datagram := ⟨Mem.ofList l, l.length⟩

end Dntpd
