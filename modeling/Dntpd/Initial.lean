import Dntpd.Ido
import Dntpd.ModeHandler

/-!
# The state at program start

The initial values of the variables of all translation units.
-/

namespace Dntpd

/-- The initial value of `g_cli`. -/
def CliConfig.init : CliConfig where
  configFile := some "/etc/dntpd/dntpd.conf".toList
  pidFile := some "/var/run/dntpd.pid".toList
  logFile := none
  runUser := none
  interface := none
  foreground := 0
  debugLevel := 0
  noDaemonize := 0
  timeoutSec := 30
  quitAfterSync := 0
  familyPreference := 0
  broadcastMode := 0
  broadcastAddr := none
  broadcastInterval := 64

/-- The daemon at program start. -/
def Daemon.init : Daemon where
  g := Globals.init
  samples := SampleStore.empty
  peerPool := []
  freq := FreqState.zero
  leap := LeapSecondState.zero
  ido := IdoState.init
  mode := ⟨ModeConfig.init, [], []⟩
  cli := CliConfig.init
  socket := ⟨-1, -1, 0⟩
  peerCtx := fun _ => ⟨false, ⟨0, 0⟩⟩
  errno := 0

end Dntpd
