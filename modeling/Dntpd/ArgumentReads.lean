import Dntpd.Arguments

/-!
# Where the command line is looked at (`parse_arguments` of `config.c`)

The loop once more, as a procedure on `g_cli` whose trace is the list of the entries of `argv` that
it uses and what for.  `argv` is looked at through `Argv.arg` alone, each time with an event before
it, so the trace has every index.  Here `strndup` may fail; `Spec.ArgumentReads` shows that if it
does not, this is the loop of `Arguments`.
-/

namespace Dntpd

/-- The arguments of the program, with its name, and which allocations succeed: that for `argv[i]`
if `strndup i`. -/
structure Argv where
  entries : List CString
  strndup : ℕ → Bool

/-- A use of an entry of `argv`. -/
inductive ArgvUse
  /-- The turn of the loop whose option it is. -/
  | option (i : ℕ)
  /-- Its first character, which tells whether it can be a value. -/
  | peek (i : ℕ)
  /-- The value of the option in front of it. -/
  | value (i : ℕ)
  /-- The name of the program, for the usage. -/
  | program
  deriving DecidableEq

namespace ArgvUse

/-- The index into `argv`. -/
def index : ArgvUse → ℕ
  | option i => i
  | peek i => i
  | value i => i
  | program => 0

/-- The argument that is visited, as an option or as a value. -/
def visited : ArgvUse → Option ℕ
  | option i => some i
  | value i => some i
  | _ => none

end ArgvUse

/-- A procedure on `g_cli` that uses `argv`. -/
abbrev ArgvProc (α : Type) := Proc CliConfig ArgvUse α

/-- An option: an exit, or whether the next argument is used up. -/
abbrev OptionProc := ArgvProc (Except ParseExit Bool)

namespace Argv

def argc (argv : Argv) : ℕ := argv.entries.length

/-- `argv[i]` -/
def arg (argv : Argv) (i : ℕ) : CString := argv.entries.getD i []

/-! ### Values -/

/-- The value behind the option at `i`: `argv[i + 1]`, if
`i + 1 < argc && argv[i + 1][0] != '-'`. -/
def valueBehind (argv : Argv) (i : ℕ) : ArgvProc (Option CString) := do
  if i + 1 < argv.argc then
    Proc.emit (.peek (i + 1))
    if (argv.arg (i + 1)).head? ≠ some '-' then
      Proc.emit (.value (i + 1))
      return some (argv.arg (i + 1))
    else return none
  else return none

/-- An option that ends the loop. -/
def exit (e : ParseExit) : OptionProc := return .error e

/-- An option that ends the loop with the usage. -/
def usage (e : ParseExit) : OptionProc := do
  Proc.emit .program
  exit e

/-- A switch. -/
def takeSwitch (set : CliConfig → CliConfig) : OptionProc := do
  Proc.update set
  return .ok false

/-- An option that takes the next argument for its value. -/
def takeValue (argv : Argv) (i : ℕ) (message : String) (set : CString → CliConfig → CliConfig) :
    OptionProc := do
  match ← argv.valueBehind i with
  | some value =>
    Proc.update (set value)
    return .ok true
  | none => exit (.error message)

/-- An option with a number. -/
def takeNumber (value : Option ℤ) (message : String) (set : ℤ → CliConfig → CliConfig)
    (used : Bool) : OptionProc :=
  match value with
  | some v => do
    Proc.update (set v)
    return .ok used
  | none => exit (.error message)

/-- `strndup` of a broadcast address, for the option at `i`. -/
def takeBroadcastAddr (argv : Argv) (i : ℕ) (value : CString) : OptionProc :=
  takeSwitch fun cli =>
    { cli with
      broadcastAddr := if argv.strndup i then some (value.take (inetAddrstrlen - 1)) else none }

/-! ### Options -/

/-- `-4` and `--ipv4`. -/
def takeIpv4 : OptionProc := do
  let cli ← Proc.read
  if cli.familyPreference = 2 then exit (.error "Error: -4 and -6 are mutually exclusive")
  else takeSwitch fun cli => { cli with familyPreference := 1 }

/-- `-6` and `--ipv6`. -/
def takeIpv6 : OptionProc := do
  let cli ← Proc.read
  if cli.familyPreference = 1 then exit (.error "Error: -4 and -6 are mutually exclusive")
  else takeSwitch fun cli => { cli with familyPreference := 2 }

/-- `-D` with the next argument, if that can be a level. -/
def takeDebugLevel (argv : Argv) (i : ℕ) : OptionProc := do
  match ← argv.valueBehind i with
  | some value =>
    takeNumber (parsePositiveInt value 0 maxDebugLevel) "Error: -D requires 0-3"
      (fun level cli => { cli with debugLevel := level }) true
  | none => takeSwitch fun cli => { cli with debugLevel := 1 }

/-- `-t` and `--timeout`. -/
def takeTimeout (argv : Argv) (i : ℕ) : OptionProc := do
  match ← argv.valueBehind i with
  | some value =>
    takeNumber (parsePositiveInt value minTimeoutSec maxTimeoutSec) "Error: -t requires 1-86400"
      (fun sec cli => { cli with timeoutSec := sec }) true
  | none => exit (.error "Error: -t requires timeout value")

/-- The comparisons from `-u` on. -/
def parseOptionTail (argv : Argv) (i : ℕ) (arg : CString) : OptionProc :=
  if isOption "-u" "--user" arg then
    argv.takeValue i "Error: -u requires username" fun v cli => { cli with runUser := some v }
  else if let some v := stripOption "--user=" 8 arg then
    takeSwitch fun cli => { cli with runUser := some v }
  else if isOption "-p" "--pid" arg then
    argv.takeValue i "Error: -p requires pid file path" fun v cli => { cli with pidFile := some v }
  else if let some v := stripOption "--pid=" 6 arg then
    takeSwitch fun cli => { cli with pidFile := some v }
  else if isOption "-4" "--ipv4" arg then takeIpv4
  else if isOption "-6" "--ipv6" arg then takeIpv6
  else if isOption "-b" "--broadcast" arg then
    takeSwitch fun cli => { cli with broadcastMode := 1 }
  else if let some v := stripOption "-B=" 3 arg then argv.takeBroadcastAddr i v
  else if let some v := stripOption "--broadcast-addr=" 17 arg then argv.takeBroadcastAddr i v
  else if isOption "-q" "--quit" arg then takeSwitch fun cli => { cli with quitAfterSync := 1 }
  else usage (.unknownOption arg)

/-- The chain of comparisons with the options, for the argument `arg` at `i`. -/
def compareOption (argv : Argv) (i : ℕ) (arg : CString) : OptionProc :=
  if isOption "-h" "--help" arg then usage .help
  else if isOption "-v" "--version" arg || isOption "-V" "--verbose" arg then exit .version
  else if isOption "-c" "--config" arg then
    argv.takeValue i "Error: -c requires config file path" fun v cli =>
      { cli with configFile := some v }
  else if let some v := stripOption "--config=" 9 arg then
    takeSwitch fun cli => { cli with configFile := some v }
  else if isOption "-f" "--foreground" arg then takeSwitch fun cli => { cli with foreground := 1 }
  else if isOption "-n" "--no-daemonize" arg then
    takeSwitch fun cli => { cli with noDaemonize := 1 }
  else if arg = "-D".toList then argv.takeDebugLevel i
  else if let some v := stripOption "-D=" 3 arg then
    takeNumber (parsePositiveInt v 0 maxDebugLevel) "Error: -D= requires 0-3"
      (fun level cli => { cli with debugLevel := level }) false
  else if let some v := stripOption "--debug=" 8 arg then
    takeNumber (parsePositiveInt v 0 maxDebugLevel) "Error: --debug= requires 0-3"
      (fun level cli => { cli with debugLevel := level }) false
  else if isOption "-d" "--debug" arg then takeSwitch fun cli => { cli with debugLevel := 1 }
  else if isOption "-l" "--log" arg then
    argv.takeValue i "Error: -l requires log file path" fun v cli => { cli with logFile := some v }
  else if let some v := stripOption "--log=" 6 arg then
    takeSwitch fun cli => { cli with logFile := some v }
  else if isOption "-t" "--timeout" arg then argv.takeTimeout i
  else if let some v := stripOption "--timeout=" 10 arg then
    takeNumber (parsePositiveInt v minTimeoutSec maxTimeoutSec)
      "Error: --timeout= requires 1-86400" (fun sec cli => { cli with timeoutSec := sec }) false
  else if isOption "-I" "--interface" arg then
    argv.takeValue i "Error: -I requires interface name" fun v cli =>
      { cli with interface := some v }
  else if let some v := stripOption "--interface=" 12 arg then
    takeSwitch fun cli => { cli with interface := some v }
  else argv.parseOptionTail i arg

/-- The body of the loop, but for the last increment. -/
def parseOption (argv : Argv) (i : ℕ) : OptionProc := do
  Proc.emit (.option i)
  argv.compareOption i (argv.arg i)

/-! ### The loop -/

/-- The loop from the index `i` on: how it is left. -/
def parseOptions (argv : Argv) (i : ℕ) : ArgvProc (Option ParseExit) := do
  if _h : i < argv.argc then
    match ← argv.parseOption i with
    | .error e => return some e
    | .ok true => argv.parseOptions (i + 2)
    | .ok false => argv.parseOptions (i + 1)
  else return none
termination_by argv.argc - i

/-- `parse_arguments`: its status. -/
def parseArguments (argv : Argv) : ArgvProc ℤ := do
  let e ← argv.parseOptions 1
  return ParseExit.status e

end Argv

end Dntpd
