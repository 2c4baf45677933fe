import Dntpd.Daemon
import Dntpd.Libc

/-!
# Mode handling, access control and rate limiting (`mode_handler.c`)

The functions that read the configuration do so between a lock and an unlock of `g_mode_mutex`;
the rate table is read and written without it.  `time(NULL)` is an argument.  A `const char*`
that may be null is an `Option CString`.
-/

namespace Dntpd

/-! ### Constants -/

def ntpLiAlarm : UInt8 := 3
def ntpRefIdInit : UInt32 := 0

def aclFlagNoquery : UInt8 := 1
def aclFlagNoserve : UInt8 := 2
def aclFlagLimited : UInt8 := 4

def maxRateLimitEntries : ℕ := 1024

def ENOTSUP : ℤ := 95
def EINVAL : ℤ := 22
def E2BIG : ℤ := 7

/-- The initial value of `g_mode_config`. -/
def ModeConfig.init : ModeConfig where
  enableControlMessages := 0
  enableSymmetricMode := 1
  enableBroadcast := 0
  dropUnauthenticatedControl := 1
  enableNtpAuth := 0
  aclDefaultPolicy := aclFlagNoquery ||| aclFlagNoserve ||| aclFlagLimited
  rateLimitInterval := 2
  maxResponseRatio := 1
  initialStratum := 16
  panicThreshold := 1000

/-! ### Addresses -/

/-- `parse_ip`. -/
def parseIp (ipStr : Option CString) : UInt32 :=
  match ipStr with
  | some s => inetAddr s
  | none => 0

/-- `ip_in_network`. -/
def ipInNetwork (ip net mask : UInt32) : Bool := ip &&& mask == net &&& mask

/-! ### The configuration -/

/-- `mode_handler_get_config`, and every read of `g_mode_config` under its mutex. -/
def modeHandlerGetConfig : DProc ModeConfig := do
  lock .gModeMutex
  let d ← Proc.read
  unlock .gModeMutex
  return d.mode.config

/-! ### Access control -/

/-- The flags of the first entry whose network has `ip`, else the default policy. -/
def aclFlags (m : ModeState) (ip : UInt32) : UInt8 :=
  match m.aclEntries.find? fun e => ipInNetwork ip e.ip e.mask with
  | some e => e.flags
  | none => m.config.aclDefaultPolicy

/-- The `switch` of `acl_check_client`. -/
def aclModeAllowed (flags packetMode : UInt8) : Bool :=
  if packetMode = ntpModeControl ∨ packetMode = ntpModePrivate then flags &&& aclFlagNoquery == 0
  else if packetMode = ntpModeClient ∨ packetMode = ntpModeServer ∨
      packetMode = ntpModeSymmetricActive ∨ packetMode = ntpModeSymmetricPassive then
    flags &&& aclFlagNoserve == 0
  else if packetMode = ntpModeBroadcast then flags &&& aclFlagNoserve == 0
  else false

/-- The last section of `acl_check_client`: the table is searched and the mode decided under the
mutex. -/
def aclCheckTable (ip : UInt32) (packetMode : UInt8) : DProc Bool := do
  lock .gModeMutex
  let d ← Proc.read
  unlock .gModeMutex
  return aclModeAllowed (aclFlags d.mode ip) packetMode

/-- `acl_check_client`. -/
def aclCheckClient (clientIp : Option CString) (packetMode : UInt8) : DProc Bool := do
  if clientIp = none then return false
  else
    let ip := parseIp clientIp
    if ip = 0 then return false
    else if packetMode = ntpModeSymmetricActive ∨ packetMode = ntpModeSymmetricPassive then
      let cfg ← modeHandlerGetConfig
      if cfg.enableSymmetricMode = 0 then return false
      else aclCheckTable ip packetMode
    else if packetMode = ntpModeBroadcast then
      let cfg ← modeHandlerGetConfig
      if cfg.enableBroadcast = 0 then return false
      else aclCheckTable ip packetMode
    else aclCheckTable ip packetMode

/-! ### Rate limiting -/

/-- The index `rate_limit_find` searches for. -/
def rateLimitFind (m : ModeState) (clientIp : Option CString) : Option ℕ :=
  let ip := parseIp clientIp
  if ip = 0 then none else m.rateLimitEntries.findIdx? fun e => e.ip == ip

/-- `rate_limit_insert`: the index of the client's entry and the table that has it.  A full table
drops its first entry. -/
def rateLimitInsert (m : ModeState) (clientIp : Option CString) : Option ℕ × ModeState :=
  let ip := parseIp clientIp
  if ip = 0 then (none, m)
  else
    match rateLimitFind m clientIp with
    | some i => (some i, m)
    | none =>
      let entries :=
        if m.rateLimitEntries.length ≥ maxRateLimitEntries then m.rateLimitEntries.tail
        else m.rateLimitEntries
      (some entries.length, { m with rateLimitEntries := entries ++ [⟨ip, 0, 0⟩] })

/-- `rate_limit_check` at the time `now`. -/
def rateLimitCheck (clientIp : Option CString) (now : ℤ) : DProc ℤ := do
  if clientIp = none then return -EINVAL
  else
    let cfg ← modeHandlerGetConfig
    -- the table is read without the mutex
    let m := (← Proc.read).mode
    match (rateLimitFind m clientIp).bind (m.rateLimitEntries[·]?) with
    | none => return 0
    | some entry =>
      return if now - entry.lastRequest < cfg.rateLimitInterval.toNat then 1 else 0

/-- `rate_limit_update` at the time `now`. -/
def rateLimitUpdate (m : ModeState) (clientIp : Option CString) (now : ℤ) : ModeState :=
  match rateLimitInsert m clientIp with
  | (some i, m') =>
    { m' with rateLimitEntries :=
        m'.rateLimitEntries.modify i fun e => { e with lastRequest := now, count := e.count + 1 } }
  | (none, m') => m'

/-! ### Defaults of a response -/

/-- `mode_get_default_li`. -/
def modeGetDefaultLi : DProc UInt8 := do
  lock .gModeMutex
  let d ← Proc.read
  unlock .gModeMutex
  return if d.g.timeSynced then d.g.localLi else ntpLiAlarm

/-- `mode_get_default_stratum`. -/
def modeGetDefaultStratum : DProc UInt8 := do
  lock .gModeMutex
  let d ← Proc.read
  unlock .gModeMutex
  return if d.g.timeSynced then d.g.localStratum else d.mode.config.initialStratum

/-- `mode_get_default_ref_id`. -/
def modeGetDefaultRefId : DProc UInt32 := do
  lock .gModeMutex
  let d ← Proc.read
  unlock .gModeMutex
  return if d.g.timeSynced then d.g.localRefId else ntpRefIdInit

/-! ### Validation -/

/-- `validate_packet_mode`. -/
def validatePacketMode (mode : UInt8) (reqSize respSize : ℕ) : DProc ℤ := do
  if mode > ntpModePrivate then return -EINVAL
  else
    let cfg ← modeHandlerGetConfig
    return if (respSize : ℤ) > CInt.trunc (reqSize * cfg.maxResponseRatio) then -E2BIG else 0

/-- `validate_ntp_version`. -/
def validateNtpVersion (version : UInt8) : ℤ := if version = ntpVn4 then 0 else -EINVAL

/-- The walk of `validate_packet_authentication`: whether it meets a MAC field from `pos` on. -/
def macFieldFrom (data : Mem) (size pos : ℕ) : Bool :=
  if pos + 4 ≤ size then
    let fieldType := ((data pos).toUInt16 <<< 8) ||| (data (pos + 1)).toUInt16
    let fieldLen := (((data (pos + 2)).toUInt16 <<< 8) ||| (data (pos + 3)).toUInt16).toNat
    if fieldLen < 4 ∨ pos + fieldLen > size then false
    else if fieldType = 0x0003 then true
    else if fieldType = 0x0008 then false
    else macFieldFrom data size (pos + (fieldLen + 3) / 4 * 4)
  else false
termination_by size - pos
decreasing_by omega

/-- `validate_packet_authentication`; `buffer` is `none` for a null pointer. -/
def validatePacketAuthentication (buffer : Option Mem) (size : ℕ) : DProc ℤ := do
  match buffer with
  | none => return 0
  | some data =>
    if size < 48 then return 0
    else if size > 48 ∧ macFieldFrom data size 48 = true then
      let cfg ← modeHandlerGetConfig
      return if cfg.enableNtpAuth = 0 then -ENOTSUP else 1
    else return 0

/-- `check_panic_condition`: whether the offset is past the threshold. -/
def checkPanicCondition (timeOffset : ℤ) : DProc Bool := do
  if timeOffset = 0 then return false
  else
    let cfg ← modeHandlerGetConfig
    let timeOffset := if timeOffset < 0 then CInt.int64 (-timeOffset) else timeOffset
    return timeOffset > cfg.panicThreshold.toNat * 1000000000

end Dntpd
