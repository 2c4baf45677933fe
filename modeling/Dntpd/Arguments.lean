import Dntpd.Initial
import Dntpd.Libc

/-!
# The command line (`parse_arguments` of `config.c`)

The loop looks at one argument at a time, and at the one behind it where an option takes its value
from there.  `parseOption` is the chain of comparisons, `parseOptions` the loop.  The notes on
standard error that do not end the loop are left out.
-/

namespace Dntpd

def maxDebugLevel : ℤ := 3
def minTimeoutSec : ℤ := 1
def maxTimeoutSec : ℤ := 86400

/-- `INET_ADDRSTRLEN`. -/
def inetAddrstrlen : ℕ := 16

/-- How the loop is left before its end. -/
inductive ParseExit
  | help
  | version
  | error (message : String)
  | unknownOption (arg : CString)
  deriving DecidableEq

/-- What `parse_arguments` returns. -/
def ParseExit.status : Option ParseExit → ℤ
  | none => 0
  | some .help => 2
  | some .version => 3
  | some (.error _) => -1
  | some (.unknownOption _) => -1

/-- What an option leads to: an exit, or the new options and whether the next argument is used
up. -/
abbrev OptionResult := Except ParseExit (CliConfig × Bool)

/-! ### Values -/

/-- `strncmp(arg, start, n) == 0`: the string at `arg + n`, which is empty here if that is behind
the terminator of `arg`. -/
def stripOption (start : String) (n : ℕ) (arg : CString) : Option CString :=
  if strncmpEq arg start.toList n then some (arg.drop n) else none

/-- `parse_positive_int`: the value it stores when it returns 0. -/
def parsePositiveInt (str : CString) (minVal maxVal : ℤ) : Option ℤ :=
  if str = [] then none
  else
    let r := strtol str
    if r.endptr = str ∨ r.erange = true then none
    else if r.value < minVal ∨ r.value > maxVal then none
    else some r.value

/-- The next argument, if it can be a value: `i + 1 < argc && argv[i + 1][0] != '-'`. -/
def valueBehind (next : Option CString) : Option CString :=
  next.filter fun value => value.head? ≠ some '-'

/-- An option that takes the next argument for its value. -/
def takeValue (next : Option CString) (message : String) (set : CString → CliConfig) :
    OptionResult :=
  match valueBehind next with
  | some value => .ok (set value, true)
  | none => .error (.error message)

/-- An option with a number. -/
def takeNumber (value : Option ℤ) (message : String) (set : ℤ → CliConfig) (used : Bool) :
    OptionResult :=
  match value with
  | some v => .ok (set v, used)
  | none => .error (.error message)

/-- A switch. -/
def takeSwitch (cli : CliConfig) : OptionResult := .ok (cli, false)

/-- `strndup` of a broadcast address. -/
def takeBroadcastAddr (cli : CliConfig) (value : CString) : OptionResult :=
  takeSwitch { cli with broadcastAddr := some (value.take (inetAddrstrlen - 1)) }

/-! ### Options -/

/-- `-4` and `--ipv4`. -/
def takeIpv4 (cli : CliConfig) : OptionResult :=
  if cli.familyPreference = 2 then .error (.error "Error: -4 and -6 are mutually exclusive")
  else takeSwitch { cli with familyPreference := 1 }

/-- `-6` and `--ipv6`. -/
def takeIpv6 (cli : CliConfig) : OptionResult :=
  if cli.familyPreference = 1 then .error (.error "Error: -4 and -6 are mutually exclusive")
  else takeSwitch { cli with familyPreference := 2 }

/-- `-D` with the next argument, if that can be a level. -/
def takeDebugLevel (cli : CliConfig) (next : Option CString) : OptionResult :=
  match valueBehind next with
  | some value =>
    takeNumber (parsePositiveInt value 0 maxDebugLevel) "Error: -D requires 0-3"
      (fun level => { cli with debugLevel := level }) true
  | none => takeSwitch { cli with debugLevel := 1 }

/-- `-t` and `--timeout`. -/
def takeTimeout (cli : CliConfig) (next : Option CString) : OptionResult :=
  match valueBehind next with
  | some value =>
    takeNumber (parsePositiveInt value minTimeoutSec maxTimeoutSec) "Error: -t requires 1-86400"
      (fun sec => { cli with timeoutSec := sec }) true
  | none => .error (.error "Error: -t requires timeout value")

/-- The argument is one of the two spellings of an option. -/
def isOption (short long : String) (arg : CString) : Bool :=
  arg == short.toList || arg == long.toList

/-- The comparisons from `-u` on. -/
def parseOptionTail (arg : CString) (next : Option CString) (cli : CliConfig) : OptionResult :=
  if isOption "-u" "--user" arg then
    takeValue next "Error: -u requires username" fun v => { cli with runUser := some v }
  -- the 8 counts the terminator: only `--user=` itself passes, without a name behind it
  else if let some v := stripOption "--user=" 8 arg then takeSwitch { cli with runUser := some v }
  else if isOption "-p" "--pid" arg then
    takeValue next "Error: -p requires pid file path" fun v => { cli with pidFile := some v }
  else if let some v := stripOption "--pid=" 6 arg then takeSwitch { cli with pidFile := some v }
  else if isOption "-4" "--ipv4" arg then takeIpv4 cli
  else if isOption "-6" "--ipv6" arg then takeIpv6 cli
  else if isOption "-b" "--broadcast" arg then takeSwitch { cli with broadcastMode := 1 }
  else if let some v := stripOption "-B=" 3 arg then takeBroadcastAddr cli v
  else if let some v := stripOption "--broadcast-addr=" 17 arg then takeBroadcastAddr cli v
  else if isOption "-q" "--quit" arg then takeSwitch { cli with quitAfterSync := 1 }
  else .error (.unknownOption arg)

/-- The chain of comparisons with the options. -/
def parseOption (arg : CString) (next : Option CString) (cli : CliConfig) : OptionResult :=
  if isOption "-h" "--help" arg then .error .help
  else if isOption "-v" "--version" arg || isOption "-V" "--verbose" arg then .error .version
  else if isOption "-c" "--config" arg then
    takeValue next "Error: -c requires config file path" fun v => { cli with configFile := some v }
  else if let some v := stripOption "--config=" 9 arg then
    takeSwitch { cli with configFile := some v }
  else if isOption "-f" "--foreground" arg then takeSwitch { cli with foreground := 1 }
  else if isOption "-n" "--no-daemonize" arg then takeSwitch { cli with noDaemonize := 1 }
  else if arg = "-D".toList then takeDebugLevel cli next
  else if let some v := stripOption "-D=" 3 arg then
    takeNumber (parsePositiveInt v 0 maxDebugLevel) "Error: -D= requires 0-3"
      (fun level => { cli with debugLevel := level }) false
  else if let some v := stripOption "--debug=" 8 arg then
    takeNumber (parsePositiveInt v 0 maxDebugLevel) "Error: --debug= requires 0-3"
      (fun level => { cli with debugLevel := level }) false
  else if isOption "-d" "--debug" arg then takeSwitch { cli with debugLevel := 1 }
  else if isOption "-l" "--log" arg then
    takeValue next "Error: -l requires log file path" fun v => { cli with logFile := some v }
  else if let some v := stripOption "--log=" 6 arg then takeSwitch { cli with logFile := some v }
  else if isOption "-t" "--timeout" arg then takeTimeout cli next
  else if let some v := stripOption "--timeout=" 10 arg then
    takeNumber (parsePositiveInt v minTimeoutSec maxTimeoutSec)
      "Error: --timeout= requires 1-86400" (fun sec => { cli with timeoutSec := sec }) false
  else if isOption "-I" "--interface" arg then
    takeValue next "Error: -I requires interface name" fun v => { cli with interface := some v }
  else if let some v := stripOption "--interface=" 12 arg then
    takeSwitch { cli with interface := some v }
  else parseOptionTail arg next cli

/-! ### The loop -/

/-- The loop over the arguments behind the program's name: how it is left, and `g_cli` then. -/
def parseOptions : List CString → CliConfig → Option ParseExit × CliConfig
  | [], cli => (none, cli)
  | [arg], cli =>
    match parseOption arg none cli with
    | .error exit => (some exit, cli)
    | .ok (cli, _) => (none, cli)
  | arg :: next :: args, cli =>
    match parseOption arg (some next) cli with
    | .error exit => (some exit, cli)
    | .ok (cli, true) => parseOptions args cli
    | .ok (cli, false) => parseOptions (next :: args) cli

/-- `parse_arguments` for the arguments behind the program's name: its status and `g_cli`. -/
def parseArguments (args : List CString) (cli : CliConfig) : ℤ × CliConfig :=
  let r := parseOptions args cli
  (ParseExit.status r.1, r.2)

end Dntpd
