import Dntpd.ModeHandlerTables

/-!
# The file of the mode handler (`mode_handler_parse_config` of `mode_handler.c`)

Each line sets one field of `g_mode_config`, without the mutex, or edits the access control list.
What `strtod` reads is an argument, since a `double` is a rational here; for `max_response_ratio`
it is the value as `parse_float` narrows it to a `float`.
-/

namespace Dntpd

def aclFlagNopeer : UInt8 := 8
def aclFlagNotrust : UInt8 := 16

/-- The file `fopen` finds, if it finds one, and the reading of `strtod`, narrowed to `float`. -/
structure ModeConfigFileEnv where
  file : Option (List Char)
  strtod : CString → StrtoResult ℚ

/-! ### Values -/

/-- `parse_bool`. -/
def parseBool (val : CString) : ℤ :=
  if val = "1".toList ∨ val = "yes".toList ∨ val = "true".toList ∨ val = "on".toList then 1
  else if val = "0".toList ∨ val = "no".toList ∨ val = "false".toList ∨ val = "off".toList then 0
  else -EINVAL

/-- A call of a `strto…` function right after `errno = 0`. -/
def strtoCleared {α : Type} (r : StrtoResult α) : DProc (StrtoResult α) := do
  Proc.update fun d => { d with errno := if r.erange then ERANGE else 0 }
  return r

/-- `parse_uint8`: the value it stores when it returns 0.  `strtoll` is `strtol` here. -/
def parseUint8 (val : CString) : DProc (Option UInt8) := do
  let r ← strtoCleared (strtol val)
  return if r.erange = true ∨ r.endptr ≠ [] ∨ r.value < 0 ∨ r.value > 255 then none
    else some (UInt8.ofNat r.value.toNat)

/-- `parse_float`. -/
def parseFloat (strtod : CString → StrtoResult ℚ) (val : CString) : DProc (Option ℚ) := do
  let r ← strtoCleared (strtod val)
  return if r.erange = true ∨ r.endptr ≠ [] ∨ r.value < 0 then none else some r.value

/-- The value of `panic_threshold`. -/
def parsePanicThreshold (val : CString) : DProc (Option UInt16) := do
  let r ← strtoCleared (strtol val)
  return if r.erange = false ∧ r.endptr = [] ∧ r.value > 0 ∧ r.value ≤ 65535 then
      some (UInt16.ofNat r.value.toNat)
    else none

/-- The flag whose name stands at `p`. -/
def aclFlagAt (p : CString) : UInt8 :=
  if strncmpEq p "noquery".toList 7 then aclFlagNoquery
  else if strncmpEq p "noserve".toList 6 then aclFlagNoserve
  else if strncmpEq p "limited".toList 7 then aclFlagLimited
  else if strncmpEq p "nopeer".toList 5 then aclFlagNopeer
  else if strncmpEq p "notrust".toList 6 then aclFlagNotrust
  else 0

/-- The loop over the comma-separated names of `acl_default_policy`. -/
def aclFlagList (flags : UInt8) (p : CString) : UInt8 :=
  if p = [] then flags
  else
    match _hrest : p.dropWhile (· ≠ ',') with
    | [] => flags ||| aclFlagAt p
    | _ :: rest => aclFlagList (flags ||| aclFlagAt p) rest
termination_by p.length
decreasing_by
  have hle := (List.dropWhile_sublist (p := (· ≠ ',')) (l := p)).length_le
  rw [_hrest, List.length_cons] at hle
  omega

/-! ### Lines -/

/-- A field of `g_mode_config` is set if there is a value for it. -/
def setModeConfig {α : Type} (set : ModeConfig → α → ModeConfig) (value : Option α) :
    DProc Unit := do
  match value with
  | none => pure ()
  | some v => Proc.update fun d => { d with mode := { d.mode with config := set d.mode.config v } }

/-- The fields that hold a truth value. -/
def setModeBool (set : ModeConfig → UInt8 → ModeConfig) (val : CString) : DProc Unit :=
  let b := parseBool val
  setModeConfig set (if b ≥ 0 then some (UInt8.ofNat b.toNat) else none)

/-- The chain of comparisons with the keys. -/
def applyModeConfig (strtod : CString → StrtoResult ℚ) (key val : CString) : DProc Unit := do
  if key = "enable_control_messages".toList then
    setModeBool (fun c b => { c with enableControlMessages := b }) val
  else if key = "enable_symmetric_mode".toList then
    setModeBool (fun c b => { c with enableSymmetricMode := b }) val
  else if key = "enable_broadcast".toList then
    setModeBool (fun c b => { c with enableBroadcast := b }) val
  else if key = "drop_unauthenticated_control".toList then
    setModeBool (fun c b => { c with dropUnauthenticatedControl := b }) val
  else if key = "enable_ntp_auth".toList then
    setModeBool (fun c b => { c with enableNtpAuth := b }) val
  else if key = "acl_default_policy".toList then
    setModeConfig (fun c flags => { c with aclDefaultPolicy := flags }) (some (aclFlagList 0 val))
  else if key = "rate_limit_interval".toList then
    let interval ← parseUint8 val
    setModeConfig (fun c v => { c with rateLimitInterval := v }) interval
  else if key = "max_response_ratio".toList then
    let ratio ← parseFloat strtod val
    setModeConfig (fun c v => { c with maxResponseRatio := v }) ratio
  else if key = "initial_stratum".toList then
    let stratum ← parseUint8 val
    setModeConfig (fun c v => { c with initialStratum := v }) stratum
  else if key = "panic_threshold".toList then
    let threshold ← parsePanicThreshold val
    setModeConfig (fun c v => { c with panicThreshold := v }) threshold
  else if key = "acl_allow".toList then
    let _ ← aclAddEntry (some val) 0
    pure ()
  else if key = "acl_remove".toList then
    let _ ← aclRemoveEntry (some val)
    pure ()
  else pure ()

/-- The body of the loop over the lines: the comment is cut off, and two words are read. -/
def parseModeConfigLine (strtod : CString → StrtoResult ℚ) (line : CString) : DProc Unit :=
  match scanWord 63 (line.takeWhile (· ≠ '#')) with
  | none => pure ()
  | some (key, rest) =>
    match scanWord 127 rest with
    | none => pure ()
    | some (val, _) => applyModeConfig strtod key val

/-- The loop over the lines that `fgets` reads into a buffer of 256 bytes. -/
def parseModeConfigLines (strtod : CString → StrtoResult ℚ) (file : List Char) : DProc Unit :=
  match _hline : fgets 255 file with
  | none => pure ()
  | some (line, rest) => do
    parseModeConfigLine strtod (cString line)
    parseModeConfigLines strtod rest
termination_by file.length
decreasing_by exact fgets_length_lt (by decide) _hline

/-- `mode_handler_parse_config`. -/
def modeHandlerParseConfig (configFile : Option CString) (env : ModeConfigFileEnv) : DProc ℤ := do
  match configFile, env.file with
  | none, _ => return -EINVAL
  | some _, none => return 0
  | some _, some file =>
    parseModeConfigLines env.strtod file
    return 0

end Dntpd
