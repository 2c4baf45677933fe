import Dntpd.ModeHandler

/-!
# Setting up the mode handler and editing its tables (`mode_handler.c`)

The functions that write `g_mode_config` and the access control list.  A table and its count are
one list here: what `memmove` shifts over is gone, and what lies behind the count is not read.
-/

namespace Dntpd

def maxAclEntries : ℕ := 256

def ENOENT : ℤ := 2
def ENOMEM : ℤ := 12

/-! ### Networks -/

/-- The mask of a prefix length. -/
def prefixMask (prefixLen : UInt32) : UInt32 :=
  if prefixLen = 0 then 0
  else htonl ((0xFFFFFFFF : UInt64) <<< (32 - prefixLen).toUInt64).toUInt32

/-- `parse_network` once the address text is in `buf`. -/
def parseNetworkIn (buf : CString) (prefixLen : UInt32) : Option (UInt32 × UInt32) :=
  let ip := inetAddr buf
  if ip = inaddrNone ∧ buf ≠ "255.255.255.255".toList then none
  else some (ip, prefixMask prefixLen)

/-- `parse_network`: the address and the mask; `none` where it returns 0 and leaves the mask
unwritten. -/
def parseNetwork (network : Option CString) : Option (UInt32 × UInt32) :=
  match network with
  | none => none
  | some network =>
    let address := network.takeWhile (· ≠ '/')
    if address.length ≥ 64 then none
    else
      match network.dropWhile (· ≠ '/') with
      | [] => parseNetworkIn address 32
      | _ :: s =>
        match sscanfU s with
        | none => none
        | some prefixLen =>
          if prefixLen > 32 then none else parseNetworkIn address prefixLen

/-! ### The access control list -/

/-- The section of `acl_add_entry` under the mutex. -/
def aclAppend (network : CString) (flags : UInt8) : DProc ℤ := do
  let d ← Proc.read
  if d.mode.aclEntries.length ≥ maxAclEntries then return -ENOMEM
  else
    match parseNetwork (some network) with
    | none => return -EINVAL
    | some (net, mask) =>
      if net = 0 then return -EINVAL
      else
        Proc.update fun d => { d with mode := { d.mode with
          aclEntries := d.mode.aclEntries ++ [⟨net, mask, flags⟩] } }
        return 0

/-- `acl_add_entry`. -/
def aclAddEntry (network : Option CString) (flags : UInt8) : DProc ℤ := do
  match network with
  | none => return -EINVAL
  | some network =>
    lock .gModeMutex
    let r ← aclAppend network flags
    unlock .gModeMutex
    return r

/-- The section of `acl_remove_entry` under the mutex: the first entry of the network is removed. -/
def aclDelete (net mask : UInt32) : DProc ℤ := do
  let d ← Proc.read
  match d.mode.aclEntries.findIdx? fun e => e.ip == net && e.mask == mask with
  | none => return -ENOENT
  | some i =>
    Proc.update fun d => { d with mode := { d.mode with
      aclEntries := d.mode.aclEntries.eraseIdx i } }
    return 0

/-- `acl_remove_entry`. -/
def aclRemoveEntry (network : Option CString) : DProc ℤ := do
  match parseNetwork network with
  | none => return -EINVAL
  | some (net, mask) =>
    if net = 0 then return -EINVAL
    else
      lock .gModeMutex
      let r ← aclDelete net mask
      unlock .gModeMutex
      return r

/-- `acl_clear_entries`. -/
def aclClearEntries : DProc ℤ := do
  lock .gModeMutex
  Proc.update fun d => { d with mode := { d.mode with aclEntries := [] } }
  unlock .gModeMutex
  return 0

/-- `acl_get_entry_count`. -/
def aclGetEntryCount : DProc ℕ := do
  lock .gModeMutex
  let d ← Proc.read
  unlock .gModeMutex
  return d.mode.aclEntries.length

/-- `acl_get_client_flags`. -/
def aclGetClientFlags (clientIp : Option CString) : DProc UInt8 := do
  if clientIp = none ∨ parseIp clientIp = 0 then
    return (← Proc.read).mode.config.aclDefaultPolicy
  else
    lock .gModeMutex
    let d ← Proc.read
    unlock .gModeMutex
    -- the flags of the entry that was found, or the policy, are read without the mutex
    return aclFlags d.mode (parseIp clientIp)

/-! ### The rate table -/

/-- `rate_limit_update` as a procedure, at the time `now`. -/
def rateLimitRecord (clientIp : Option CString) (now : ℤ) : DProc Unit :=
  Proc.update fun d => { d with mode := rateLimitUpdate d.mode clientIp now }

/-- `rate_limit_cleanup`. -/
def rateLimitCleanup : DProc Unit := do
  lock .gModeMutex
  Proc.update fun d => { d with mode := { d.mode with rateLimitEntries := [] } }
  unlock .gModeMutex

/-! ### Set-up and shutdown -/

/-- Both tables are empty. -/
def ModeState.clear (m : ModeState) : ModeState :=
  { m with aclEntries := [], rateLimitEntries := [] }

/-- `mode_handler_init`. -/
def modeHandlerInit : DProc ℤ := do
  lock .gModeMutex
  Proc.update fun d => { d with mode := d.mode.clear }
  unlock .gModeMutex
  return 0

/-- `mode_handler_cleanup`. -/
def modeHandlerCleanup : DProc Unit := do
  lock .gModeMutex
  -- each of the three calls takes the mutex once more
  let _ ← aclGetEntryCount
  let _ ← aclClearEntries
  rateLimitCleanup
  Proc.update fun d => { d with mode := d.mode.clear }
  unlock .gModeMutex

/-- `mode_handler_set_config`. -/
def modeHandlerSetConfig (config : Option ModeConfig) : DProc ℤ := do
  match config with
  | none => return -EINVAL
  | some config =>
    lock .gModeMutex
    -- the count is logged before the update
    let _ ← aclGetEntryCount
    Proc.update fun d => { d with mode := { d.mode with config := config } }
    unlock .gModeMutex
    return 0

/-- `mode_handler_get_config`, given what the pointer points to: the status, and what it points to
afterwards. -/
def modeHandlerGetConfigTo (config : Option ModeConfig) : DProc (ℤ × Option ModeConfig) := do
  match config with
  | none => return (-EINVAL, none)
  | some _ =>
    let config ← modeHandlerGetConfig
    return (0, some config)

end Dntpd
