import Dntpd.Library.Backoff
import Dntpd.MainLoop
import Dntpd.Spec.PortValidation
import Dntpd.Spec.ServerConfigFile

/-!
# The schedule of the synchronisation loop

Each round takes one decision on each server, which is attempted or held (`syncLoop_inRounds`).  The
entry of a server stores when its hold-off ends, so over any run of the loop the decisions on it
keep the schedule: it is attempted exactly when its last attempt did not fail, or failed
`SYNC_RETRY_INTERVAL_SEC` ago by the clock (`syncLoop_scheduled`).  With `-q` there is one round, in
which every server is attempted once (`syncLoop_quit`).

The schedule is all there is to rely on: an error number that stands when the loop is entered is
never cleared, and from then on no attempt does anything (`syncLoop_starved`).
-/

namespace Dntpd

open Proc Backoff

/-! ### Decisions -/

/-- What an event says about the server number `i`. -/
def LoopEvent.decision (i : ℕ) : LoopEvent → Option Decision
  | attempt j now rc => if j = i then some (.attempt now (decide (rc = 0))) else none
  | held j now => if j = i then some (.held now) else none
  | _ => none

/-- The decisions of a trace on the server number `i`. -/
def decisionsOf (i : ℕ) (tr : List LoopEvent) : List Decision := tr.filterMap (LoopEvent.decision i)

@[simp] theorem decisionsOf_nil (i : ℕ) : decisionsOf i [] = [] := rfl

@[simp] theorem decisionsOf_append (i : ℕ) (tr tr' : List LoopEvent) :
    decisionsOf i (tr ++ tr') = decisionsOf i tr ++ decisionsOf i tr' :=
  List.filterMap_append

@[simp] theorem decisionsOf_sync (i : ℕ) (tr : List Event) :
    decisionsOf i (tr.map .sync) = [] := by
  refine List.filterMap_eq_nil_iff.mpr fun e he => ?_
  obtain ⟨e, -, rfl⟩ := List.mem_map.mp he
  rfl

/-- An event on a server is a decision on that server and on no other. -/
theorem decisionsOf_singleton {e : LoopEvent} {i : ℕ} {dec : Decision}
    (he : ∀ j, e.decision j = if i = j then some dec else none) (j : ℕ) :
    decisionsOf j [e] = if i = j then [dec] else [] := by
  unfold decisionsOf
  rw [List.filterMap_cons, he]
  split_ifs <;> rfl

/-! ### One server -/

/-- The decision is the right one for the entry `c` of a server at this turn, and `c'` the entry it
leads to. -/
structure ServerStep (turn : ServerTurn) (c : ServerConfig) (dec : Decision) (c' : ServerConfig) :
    Prop where
  ip : c'.ip = c.ip
  port : c'.port = c.port
  now : dec.now = turn.now
  timely : ∀ {last}, Stored syncRetryIntervalSec last c.nextAllowedSync →
    dec.Timely syncRetryIntervalSec last ∧
      Stored syncRetryIntervalSec (dec.lastFailure last) c'.nextAllowedSync

theorem ServerTurn.now_nonneg (turn : ServerTurn) : 0 ≤ turn.now := by
  unfold now
  split_ifs <;> omega

/-- The entry of a server after an attempt that returned `rc`. -/
def ServerConfig.tried (server : ServerConfig) (now rc : ℤ) : ServerConfig :=
  { server with nextAllowedSync := if rc ≠ 0 then now + syncRetryIntervalSec else 0 }

theorem attemptServer_run (i : ℕ) (server : ServerConfig) (now : ℤ) (env : SyncEnv) (d : Daemon) :
    let o := syncNtpTime (some server.ip) (some server.port) env d
    attemptServer i server now env d = ⟨(server.tried now o.ret, decide (o.ret = 0)), o.state,
      o.trace.map .sync ++ [.attempt i now o.ret]⟩ := by
  intro o
  unfold attemptServer ServerConfig.tried
  rw [bind_run, bind_run, ite_run]
  by_cases hrc : o.ret = 0
  · have hrc' : ¬ (onSync (syncNtpTime (some server.ip) (some server.port) env) d).ret ≠ 0 :=
      not_not.mpr hrc
    rw [if_neg hrc', if_neg (not_not.mpr hrc), decide_eq_true hrc]
    rfl
  · have hrc' : (onSync (syncNtpTime (some server.ip) (some server.port) env) d).ret ≠ 0 := hrc
    rw [if_pos hrc', if_pos hrc, decide_eq_false hrc]
    rfl

theorem syncServer_run (i : ℕ) (server : ServerConfig) (turn : ServerTurn) (d : Daemon) :
    syncServer i server turn d =
      if server.nextAllowedSync ≠ 0 ∧ turn.now < server.nextAllowedSync then
        ⟨(server, false), turn.others.act d, [.held i turn.now]⟩
      else attemptServer i server turn.now turn.sync (turn.others.act d) := by
  unfold syncServer
  rw [bind_run, ite_run]
  split_ifs <;> rfl

/-- One turn takes one decision, on its server. -/
theorem syncServer_spec (i : ℕ) (server : ServerConfig) (turn : ServerTurn) (d : Daemon) :
    let o := syncServer i server turn d
    ∃ dec, ServerStep turn server dec o.ret.1 ∧
      ∀ j, decisionsOf j o.trace = if i = j then [dec] else [] := by
  have hretry : (0 : ℤ) < syncRetryIntervalSec := by decide
  rw [syncServer_run]
  -- a server that is held is skipped; any other one is attempted in its turn
  by_cases hheld : server.nextAllowedSync ≠ 0 ∧ turn.now < server.nextAllowedSync
  · rw [if_pos hheld]
    refine ⟨.held turn.now, ⟨rfl, rfl, rfl, fun hstored => ⟨?_, hstored⟩⟩, fun j => ?_⟩
    · exact fun hdue => (hstored.due_iff hretry).mp hdue hheld
    · exact decisionsOf_singleton (e := .held i turn.now) (fun _ => rfl) j
  rw [if_neg hheld, attemptServer_run]
  dsimp only
  set rc := (syncNtpTime (some server.ip) (some server.port) turn.sync (turn.others.act d)).ret
  refine ⟨.attempt turn.now (decide (rc = 0)), ⟨rfl, rfl, rfl, fun hstored => ⟨?_, ?_⟩⟩,
    fun j => ?_⟩
  · exact (hstored.due_iff hretry).mpr hheld
  · unfold ServerConfig.tried
    -- what comes back sets the time of the next attempt
    by_cases hrc : rc = 0
    · rw [if_neg (not_not.mpr hrc), decide_eq_true hrc, Decision.lastFailure_ok]
      exact .clear
    · rw [if_pos hrc, decide_eq_false hrc, Decision.lastFailure_failed]
      exact .heldUntil turn.now turn.now_nonneg
  · rw [decisionsOf_append, decisionsOf_sync, List.nil_append]
    exact decisionsOf_singleton (e := .attempt i turn.now rc) (fun _ => rfl) j

/-! ### One round -/

theorem syncServers_cons (turns : ℕ → ServerTurn) (server : ServerConfig)
    (rest : List ServerConfig) (k : ℕ) (d : Daemon) :
    let o := syncServer k server (turns k) d
    let o' := syncServers turns (k + 1) rest o.state
    syncServers turns k (server :: rest) d =
      ⟨(o.ret.1 :: o'.ret.1, o.ret.2 && o'.ret.2), o'.state, o.trace ++ o'.trace⟩ := by
  intro o o'
  rw [syncServers, bind_run, bind_run]
  exact congrArg (fun tr => Outcome.mk _ _ (o.trace ++ tr)) (List.append_nil o'.trace)

/-- **One round** takes one decision on each server from number `k` on, and none on any other. -/
theorem syncServers_spec (turns : ℕ → ServerTurn) (servers : List ServerConfig) (k : ℕ)
    (d : Daemon) :
    let o := syncServers turns k servers d
    o.ret.1.length = servers.length ∧
      (∀ i server, servers[i]? = some server → ∃ dec server', o.ret.1[i]? = some server' ∧
        ServerStep (turns (k + i)) server dec server' ∧ decisionsOf (k + i) o.trace = [dec]) ∧
      ∀ j, j < k ∨ k + servers.length ≤ j → decisionsOf j o.trace = [] := by
  induction servers generalizing k d with
  | nil => exact ⟨rfl, nofun, fun _ _ => rfl⟩
  -- the turn of the first server, and by induction those of the rest from the next index on
  | cons server rest ih =>
    obtain ⟨dec, hstep, hdec⟩ := syncServer_spec k server (turns k) d
    obtain ⟨hlength, hrest, hnone⟩ := ih (k + 1) (syncServer k server (turns k) d).state
    rw [syncServers_cons]
    dsimp only
    refine ⟨congrArg Nat.succ hlength, fun i c hc => ?_, fun j hj => ?_⟩
    · cases i with
      | zero =>
        obtain rfl := Option.some.inj hc
        refine ⟨dec, _, rfl, hstep, ?_⟩
        rw [Nat.add_zero, decisionsOf_append, hdec, if_pos rfl, hnone k (.inl (Nat.lt_succ_self k))]
        rfl
      | succ i =>
        obtain ⟨dec', c', hc', hstep', hdec'⟩ := hrest i c hc
        have hk : k + 1 + i = k + (i + 1) := by omega
        rw [hk] at hstep' hdec'
        refine ⟨dec', c', hc', hstep', ?_⟩
        rw [decisionsOf_append, hdec, if_neg (by omega), hdec']
        rfl
    · rw [List.length_cons] at hj
      rw [decisionsOf_append, hdec, if_neg (by omega), hnone j (by omega)]
      rfl

/-! ### The loop -/

theorem syncLoop_shutdown {env : RoundEnv} (henv : env.shutdownRequested = true)
    (servers : List ServerConfig) (envs : List RoundEnv) (d : Daemon) :
    syncLoop servers (env :: envs) d = ⟨servers, d, []⟩ := by
  rw [syncLoop, henv, if_pos rfl]
  rfl

theorem endRound_run (allSuccess : Bool) (d : Daemon) :
    endRound allSuccess d = ⟨decide (d.cli.quitAfterSync ≠ 0), d,
      [.logRound allSuccess, .sleep (syncInterval d.cli)]⟩ := rfl

/-- The loop once it gets as far as a round. -/
theorem syncLoop_round {servers : List ServerConfig} {env : RoundEnv} (hservers : servers ≠ [])
    (henv : env.shutdownRequested = false) (envs : List RoundEnv) (d : Daemon) :
    let o := syncServers env.turns 0 servers d
    let o' := if o.state.cli.quitAfterSync ≠ 0 then ⟨o.ret.1, o.state, []⟩
      else syncLoop o.ret.1 envs o.state
    syncLoop servers (env :: envs) d = ⟨o'.ret, o'.state,
      o.trace ++ (.logRound o.ret.2 :: .sleep (syncInterval o.state.cli) :: o'.trace)⟩ := by
  intro o o'
  rw [syncLoop, henv, if_neg Bool.false_ne_true, if_neg hservers, bind_run, bind_run, endRound_run,
    ite_run]
  by_cases hquit : o.state.cli.quitAfterSync ≠ 0
  · have ho' : o' = _ := if_pos hquit
    rw [if_pos (decide_eq_true hquit), ho']
    rfl
  · have ho' : o' = _ := if_neg hquit
    have hquit' : ¬ decide (o.state.cli.quitAfterSync ≠ 0) = true := by simpa using hquit
    rw [if_neg hquit', ho']
    rfl

/-- The decisions of a round come in front of those of the rounds behind it. -/
theorem decisionsOf_round (i : ℕ) (tr tr' : List LoopEvent) (all : Bool) (sec : ℤ) :
    decisionsOf i (tr ++ (.logRound all :: .sleep sec :: tr')) =
      decisionsOf i tr ++ decisionsOf i tr' :=
  decisionsOf_append i tr _

/-- A run of the loop decides on no server that it does not have. -/
theorem decisionsOf_syncLoop_eq_nil {i : ℕ} (envs : List RoundEnv) {servers : List ServerConfig}
    (hi : servers.length ≤ i) (d : Daemon) :
    decisionsOf i (syncLoop servers envs d).trace = [] := by
  induction envs generalizing servers d with
  | nil => rfl
  | cons env envs ih =>
    by_cases henv : env.shutdownRequested = true
    · rw [syncLoop_shutdown henv]
      rfl
    rw [Bool.not_eq_true] at henv
    by_cases hservers : servers = []
    · rw [syncLoop, henv, if_neg Bool.false_ne_true, if_pos hservers]
      exact ih hi d
    obtain ⟨hlength, -, hnone⟩ := syncServers_spec env.turns servers 0 d
    rw [syncLoop_round hservers henv, decisionsOf_round, hnone i (by omega), List.nil_append]
    split_ifs
    · rfl
    · exact ih (hlength ▸ hi) _

/-- **The entry of a server stands for its last failure** over any run, so the decisions on it are
timely. -/
theorem scheduled_of_stored {i : ℕ} (envs : List RoundEnv) {servers : List ServerConfig}
    {server : ServerConfig} {last : Option ℤ} (hserver : servers[i]? = some server)
    (hstored : Stored syncRetryIntervalSec last server.nextAllowedSync) (d : Daemon) :
    Scheduled syncRetryIntervalSec (decisionsOf i (syncLoop servers envs d).trace) last := by
  induction envs generalizing servers server last d with
  | nil => trivial
  | cons env envs ih =>
    by_cases henv : env.shutdownRequested = true
    · rw [syncLoop_shutdown henv]
      trivial
    rw [Bool.not_eq_true] at henv
    have hservers : servers ≠ [] := by
      rintro rfl
      exact absurd hserver (by simp)
    obtain ⟨dec, server', hserver', hstep, hdec⟩ :=
      (syncServers_spec env.turns servers 0 d).2.1 i server hserver
    rw [Nat.zero_add] at hdec
    obtain ⟨htimely, hstored'⟩ := hstep.timely hstored
    rw [syncLoop_round hservers henv, decisionsOf_round, hdec]
    refine ⟨htimely, ?_⟩
    split_ifs
    · trivial
    · exact ih hserver' hstored' _

/-! ### The servers at the start -/

/-- No server of the list has been tried. -/
def NeverTried (s : ServerState) : Prop := ∀ c ∈ s.servers, c.nextAllowedSync = 0

theorem neverTried_of_lists (s s' : ServerState) (h : serverLists s' = serverLists s)
    (hs : NeverTried s) : NeverTried s' := by
  unfold NeverTried
  rwa [(Prod.mk.inj h).1]

theorem serverLine_neverTried (allocs : LineAllocs) (line : CString) :
    Preserves NeverTried (serverLine allocs line) := by
  have hfree : Preserves NeverTried freeServers := fun s _ c hc => absurd hc List.not_mem_nil
  have hadd : ∀ ip port, Preserves NeverTried (addServer ip port) := by
    intro ip port s hs c hc
    rcases List.mem_append.mp hc with hc | hc
    · exact hs c hc
    · rw [List.mem_singleton.mp hc]
  have hpeer : ∀ ip port, Preserves NeverTried (addPeer ip port) := fun ip port =>
    Preserves.bind (fun _ hs => hs) fun _ => Preserves.bind (Preserves.update fun s hs => by
      split_ifs
      · exact hs
      · exact hs) fun _ => fun _ hs => hs
  unfold serverLine
  split
  · exact .pure _
  · refine .ite (.pure _) (.ite (.pure _) (.ite (.pure _) (.ite hfree (.ite hfree ?_))))
    exact (hadd _ _).bind fun _ => (hpeer _ _).bind fun _ => .pure _

theorem loadServerLine_neverTried (allocs : LineAllocs) (line : CString) :
    Preserves NeverTried (loadServerLine allocs line) := by
  unfold loadServerLine
  refine .ite (.pure _) (.ite ?_ (.ite ?_ (.ite ?_ (serverLine_neverTried allocs line))))
  · exact (Preserves.of_frame (enableBroadcastLine_frame line) neverTried_of_lists).bind fun _ =>
      .pure _
  · exact (Preserves.of_frame (broadcastAddrLine_frame _ line) neverTried_of_lists).bind fun _ =>
      .pure _
  · exact (Preserves.of_frame (broadcastIntervalLine_frame line) neverTried_of_lists).bind fun _ =>
      .pure _

theorem loadServerLines_neverTried (allocs : ℕ → LineAllocs) (turn : ℕ) (file : List Char) :
    Preserves NeverTried (loadServerLines allocs turn file) := by
  induction turn, file using loadServerLines.induct with
  | case1 turn file hline =>
    rw [loadServerLines]
    split
    · exact Preserves.read.bind fun _ => .pure _
    · rename_i hline'
      exact absurd (hline.symm.trans hline') (Option.some_ne_none _).symm
  | case2 turn file line rest hline ih =>
    rw [loadServerLines_eq allocs turn hline]
    exact (loadServerLine_neverTried _ _).bind fun _ => .ite ih (.pure _)

/-- The servers of the file have not been tried. -/
theorem loadServerConfig_neverTried (conf : ServerConfigEnv) (d : Daemon) :
    NeverTried (loadServerConfig conf ⟨d, []⟩).state := by
  have hnone : NeverTried ⟨d, []⟩ := fun c hc => absurd hc List.not_mem_nil
  have hload : Preserves NeverTried (loadServerConfig conf) := by
    unfold loadServerConfig
    refine Preserves.read.bind fun s => ?_
    split
    · exact .pure _
    · exact loadServerLines_neverTried _ _ _
  exact hload _ hnone

/-! ### What an attempt leaves alone -/

/-- The event sends nothing but a client's request. -/
def Event.AsksOnly (e : Event) : Prop := ∀ s ∈ e.sent, ∃ g t1, s.2.2.1 = createNtpRequest g t1

theorem Event.asksOnly_of_sent {e : Event} (h : e.sent = none) : e.AsksOnly := by
  intro s hs
  rw [h] at hs
  cases hs

/-- A procedure that leaves `g_cli` alone, and sends nothing but requests. -/
abbrev CliStep {α : Type} (p : DProc α) : Prop := Frame Daemon.cli Event.AsksOnly p

theorem cliStep_of_frame {α : Type} {keep : Daemon → Daemon} {E : Event → Prop} {p : DProc α}
    (hp : Frame keep E p) (hkeep : ∀ d, (keep d).cli = d.cli)
    (hE : ∀ e, E e → e.sent = none) : CliStep p where
  state d := by rw [← hkeep (p d).state, hp.state d, hkeep]
  trace d e he := Event.asksOnly_of_sent (hE e (hp.trace d e he))

theorem cliStep_emit {e : Event} (he : e.sent = none) : CliStep (Proc.emit e) :=
  .emit (Event.asksOnly_of_sent he)

theorem sys_cliStep {α : Type} (r : Except Errno α) : CliStep (sys r) :=
  cliStep_of_frame (sys_frame r fun _ => False) (fun _ => rfl) fun _ he => he.elim

theorem closeSocket_cliStep (sock : ℤ) : CliStep (closeSocket sock) :=
  .bind (cliStep_emit rfl) fun _ => .bind .read fun _ => .bind (cliStep_emit rfl) fun _ =>
    .ite (cliStep_emit rfl) (.pure _)

theorem rejectReply_cliStep (sock : ℤ) : CliStep (rejectReply sock) :=
  .bind (closeSocket_cliStep sock) fun _ => .pure _

theorem demoteReply_cliStep (sock : ℤ) (change : Globals → Globals) :
    CliStep (demoteReply sock change) :=
  .bind (cliStep_emit rfl) fun _ => .bind (.update fun _ => rfl) fun _ =>
    .bind (cliStep_emit rfl) fun _ => rejectReply_cliStep sock

theorem readTimestampNow_cliStep (clock : Except Errno Timespec) :
    CliStep (readTimestampNow clock) :=
  .bind (sys_cliStep _) fun _ => .pure _

theorem getSyncSocket_cliStep (env : SyncSocketEnv) : CliStep (getSyncSocket env) := by
  have hstore : ∀ sock : ℤ, CliStep (do
      Proc.update fun d => { d with socket := { d.socket with syncSock := sock } }
      if sock < 0 then return -1
      else
        let _ ← sys env.reuseaddr
        return sock : DProc ℤ) := fun sock =>
    .bind (.update fun _ => rfl) fun _ => .ite (.pure _) (.bind (sys_cliStep _) fun _ => .pure _)
  have hcreate : ∀ {p : DProc ℤ}, Frame Daemon.eraseErrno (fun _ => False) p → CliStep p :=
    fun hp => cliStep_of_frame hp (fun _ => rfl) fun _ he => he.elim
  refine .bind .read fun d => .ite (.pure _) (.ite ?_ ?_)
  · exact .bind (hcreate (network6CreateSocket_frame _)) hstore
  · exact .bind (hcreate (network4CreateSocket_frame _)) hstore

/-- What is sent is the request. -/
theorem sendToPort_cliStep (sock portNum : ℤ) (env : SyncEnv) :
    CliStep (sendToPort sock portNum env) := by
  have hclose : CliStep (do
      closeSocket sock
      return none : DProc (Option (ℤ × NtpTimestamp))) :=
    .bind (closeSocket_cliStep sock) fun _ => .pure _
  have hresolve : CliStep (getaddrinfo env.getaddrinfo) := by
    unfold getaddrinfo
    cases env.getaddrinfo with
    | ok addr => exact .pure _
    | error e => exact .bind (.update fun _ => rfl) fun _ => .pure _
  refine .bind hresolve fun addr => ?_
  cases addr with
  | none => exact .pure _
  | some addr =>
    refine .bind (sys_cliStep _) fun timeout => ?_
    cases timeout with
    | error e => exact hclose
    | ok =>
      refine .bind (readTimestampNow_cliStep _) fun t1 => .bind .read fun d => ?_
      -- only the datagram itself concerns the network
      have hsend : ∀ dest ok, Event.AsksOnly
          (.sendto .syncNtpTime dest (createNtpRequest d.g t1) ok) := by
        intro dest ok s hs
        cases hs
        exact ⟨_, _, rfl⟩
      refine .bind (.bind (sys_cliStep _) fun _ => .bind (.emit (hsend _ _)) fun _ => .pure _)
        fun sent => ?_
      exact .ite hclose (.pure _)

theorem sendSyncRequest_cliStep (port : CString) (env : SyncEnv) :
    CliStep (sendSyncRequest port env) := by
  refine .bind (getSyncSocket_cliStep _) fun sock => .ite (.pure _) ?_
  refine .bind (.update fun _ => rfl) fun _ => .bind .read fun d => .ite (.pure _) ?_
  exact sendToPort_cliStep sock _ env

theorem correctClock_cliStep (offsetUs : ℤ) (env : SyncEnv) :
    CliStep (correctClock offsetUs env) := by
  refine .bind (cliStep_of_frame (applyTimeCorrection_frame _ _ _) (fun _ => rfl) fun e he => ?_)
    fun _ => .bind .read fun _ => .bind (cliStep_of_frame (updateFrequencyDiscipline_frame _ _ _)
      (fun _ => rfl) fun e he => ?_) fun _ => .pure _
  · cases e with
    | sendto sender dest bytes ok => exact he.elim
    | _ => rfl
  · cases e with
    | sendto sender dest bytes ok => exact he.elim
    | _ => rfl

theorem recordSync_cliStep (ip : CString) (pkt : NtpHeader) (t4 : NtpTimestamp) (delayUs : UInt64)
    (offsetUs : ℤ) (env : SyncEnv) : CliStep (recordSync ip pkt t4 delayUs offsetUs env) := by
  have hdisp : ∀ disp offsetUs' jitterUs,
      CliStep (updateRootDispersion disp offsetUs' jitterUs env.dispersionTime) := fun _ _ _ =>
    .bind (cliStep_emit rfl) fun _ => .bind .read fun _ => .bind (.update fun _ => rfl) fun _ =>
      .bind (cliStep_emit rfl) fun _ => .ite (.pure _) (.pure _)
  unfold recordSync
  refine .bind (cliStep_emit rfl) fun _ => .bind (.update fun _ => rfl) fun _ => ?_
  refine .bind (cliStep_of_frame ntpOffsetJitterUsLocked_frame (fun _ => rfl)
    fun _ he => he.sent_eq_none) fun _ => ?_
  refine .bind .read fun _ => .bind (hdisp _ _ _) fun _ => .bind (.update fun _ => rfl) fun _ => ?_
  exact .bind (.update fun _ => rfl) fun _ => cliStep_emit rfl

theorem acceptReply_cliStep (ip : CString) (sock : ℤ) (pkt : NtpHeader) (t4 : NtpTimestamp)
    (delayUs : UInt64) (offsetUs : ℤ) (env : SyncEnv) :
    CliStep (acceptReply ip sock pkt t4 delayUs offsetUs env) := by
  have hleap : CliStep (leapSecondIntegrationCheck env.leapCheck) := by
    refine cliStep_of_frame (leapSecondIntegrationCheck_frame _) (fun _ => rfl) fun e he => ?_
    cases e with
    | sendto sender dest bytes ok => exact he.elim
    | _ => rfl
  have hfinish : ∀ validCount,
      CliStep (finishSync ip sock pkt t4 delayUs offsetUs validCount env) := by
    intro validCount
    have hrest : CliStep (do
        recordSync ip pkt t4 delayUs offsetUs env
        let _ ← leapSecondIntegrationCheck env.leapCheck
        closeSocket sock
        return (0 : ℤ)) :=
      .bind (recordSync_cliStep ip pkt t4 delayUs offsetUs env) fun _ => .bind hleap fun _ =>
        .bind (closeSocket_cliStep sock) fun _ => .pure _
    unfold finishSync
    refine .bind (.update fun _ => rfl) fun _ => .bind (cliStep_emit rfl) fun _ => ?_
    exact .ite (.bind (correctClock_cliStep offsetUs env) fun _ => hrest) hrest
  -- the filter sends nothing either
  unfold acceptReply
  refine .bind (cliStep_of_frame (filterReply_frame _ _ _) (fun _ => rfl)
    fun _ he => he.sent_eq_none) fun validCount => ?_
  exact .ite (demoteReply_cliStep _ _) (hfinish validCount)

theorem checkReply_cliStep (ip : CString) (sock : ℤ) (t1 t4 : NtpTimestamp) (pkt : NtpHeader)
    (env : SyncEnv) : CliStep (checkReply ip sock t1 t4 pkt env) := by
  have hreject := rejectReply_cliStep sock
  have htimes : CliStep (checkTimes ip sock t1 t4 pkt env) := by
    unfold checkTimes
    refine .ite hreject ?_
    split
    · exact hreject
    · refine .ite (demoteReply_cliStep _ _) (.ite (demoteReply_cliStep _ _) ?_)
      exact .ite (demoteReply_cliStep _ _) (acceptReply_cliStep _ _ _ _ _ _ _)
  unfold checkReply
  refine .bind (cliStep_of_frame (handleLeapIndicator_frame _ _) (fun _ => rfl)
    fun _ he => he.sent_eq_none) fun skip => ?_
  exact .ite hreject (.ite hreject (.ite hreject (.ite hreject htimes)))

/-- An attempt leaves `g_cli` alone, and sends nothing but requests. -/
theorem syncNtpTime_cliStep (ip port : CString) (env : SyncEnv) :
    CliStep (syncNtpTime (some ip) (some port) env) := by
  have hprocess : ∀ sock t1 buffer recvLen,
      CliStep (processReply ip port sock t1 buffer recvLen env) := by
    intro sock t1 buffer recvLen
    unfold processReply
    refine .bind (cliStep_emit rfl) fun _ => .bind (.update fun _ => rfl) fun _ => ?_
    refine .bind (cliStep_emit rfl) fun _ => .bind (readTimestampNow_cliStep _) fun _ => ?_
    refine .bind .read fun _ => .bind (.update fun _ => rfl) fun _ => ?_
    exact .ite (rejectReply_cliStep _) (checkReply_cliStep _ _ _ _ _ _)
  unfold syncNtpTime
  refine .bind (sendSyncRequest_cliStep port env) fun sent => ?_
  cases sent with
  | none => exact .pure _
  | some sent =>
    refine .bind (sys_cliStep _) fun r => ?_
    cases r with
    | error e => exact rejectReply_cliStep _
    | ok dg => exact .ite (hprocess _ _ _ _) (rejectReply_cliStep _)

theorem syncServers_cli (turns : ℕ → ServerTurn) (servers : List ServerConfig) (k : ℕ)
    (d : Daemon) : (syncServers turns k servers d).state.cli = d.cli := by
  have hserver : ∀ i server turn d, (syncServer i server turn d).state.cli = d.cli := by
    intro i server turn d
    rw [syncServer_run]
    split_ifs
    · exact turn.others.cli d
    · rw [attemptServer_run]
      exact ((syncNtpTime_cliStep _ _ _).state _).trans (turn.others.cli d)
  induction servers generalizing k d with
  | nil => rfl
  | cons server rest ih =>
    rw [syncServers_cons]
    exact (ih _ _).trans (hserver _ _ _ _)

/-! ### The schedule -/

/-- The rounds of a run of the loop: none without servers, no more than one with `-q`, and otherwise
those that begin before shutdown is requested. -/
def roundsMade (servers : List ServerConfig) (cli : CliConfig) (envs : List RoundEnv) :
    List RoundEnv :=
  let before := envs.takeWhile fun env => !env.shutdownRequested
  if servers = [] then []
  else if cli.quitAfterSync ≠ 0 then before.take 1
  else before

/-- A round with `n` servers takes one decision on each of them, in its turn, and none on any other
number. -/
structure DecidesOnce (n : ℕ) (turns : ℕ → ServerTurn) (tr : List LoopEvent) : Prop where
  server : ∀ i < n, ∃ dec, decisionsOf i tr = [dec] ∧ dec.now = (turns i).now
  other : ∀ i, n ≤ i → decisionsOf i tr = []

/-- The trace of a run with `n` servers that makes these rounds: each ends with the report of its
outcome and a pause, and only without servers does the loop wait instead. -/
inductive InRounds (n : ℕ) : List RoundEnv → List LoopEvent → Prop
  | done : InRounds n [] []
  | wait {tr : List LoopEvent} (hn : n = 0) (hrest : InRounds n [] tr) :
      InRounds n [] (.waitForShutdown :: tr)
  | round {env : RoundEnv} {envs : List RoundEnv} {tr tr' : List LoopEvent} {all : Bool} {sec : ℤ}
      (hround : DecidesOnce n env.turns tr) (hrest : InRounds n envs tr') :
      InRounds n (env :: envs) (tr ++ (.logRound all :: .sleep sec :: tr'))

theorem syncServers_decidesOnce (turns : ℕ → ServerTurn) (servers : List ServerConfig)
    (d : Daemon) : DecidesOnce servers.length turns (syncServers turns 0 servers d).trace := by
  obtain ⟨-, hserver, hnone⟩ := syncServers_spec turns servers 0 d
  constructor
  · intro i hi
    obtain ⟨dec, _, -, hstep, hdec⟩ := hserver i _ (List.getElem?_eq_getElem hi)
    rw [Nat.zero_add] at hstep hdec
    exact ⟨dec, hdec, hstep.now⟩
  · intro i hi
    exact hnone i (.inr (by omega))

/-- Without servers the loop waits until shutdown is requested. -/
theorem syncLoop_inRounds_nil (envs : List RoundEnv) (d : Daemon) :
    InRounds 0 [] (syncLoop [] envs d).trace := by
  induction envs with
  | nil => exact .done
  | cons env envs ih =>
    cases henv : env.shutdownRequested with
    | true =>
      rw [syncLoop_shutdown henv]
      exact .done
    | false =>
      rw [syncLoop, henv, if_neg Bool.false_ne_true, if_pos rfl]
      exact .wait rfl ih

/-- **Every round takes one decision on each server**, over any run of the loop. -/
theorem syncLoop_inRounds (envs : List RoundEnv) (servers : List ServerConfig) (d : Daemon) :
    InRounds servers.length (roundsMade servers d.cli envs) (syncLoop servers envs d).trace := by
  -- without servers a round only waits, and it does not count as one
  by_cases hservers : servers = []
  · subst hservers
    exact syncLoop_inRounds_nil envs d
  induction envs generalizing servers d with
  | nil =>
    unfold roundsMade
    rw [if_neg hservers, List.takeWhile_nil, List.take_nil, ite_self]
    exact .done
  | cons env envs ih =>
    unfold roundsMade
    rw [if_neg hservers]
    cases henv : env.shutdownRequested with
    | true =>
      rw [syncLoop_shutdown henv, List.takeWhile_cons_of_neg (by simp [henv]), List.take_nil,
        ite_self]
      exact .done
    | false =>
      have hlength := (syncServers_spec env.turns servers 0 d).1
      have hround := syncServers_decidesOnce env.turns servers d
      rw [syncLoop_round hservers henv, List.takeWhile_cons_of_pos (by simp [henv]),
        syncServers_cli]
      -- with `-q` the first round is the last
      by_cases hquit : d.cli.quitAfterSync ≠ 0
      · rw [if_pos hquit, if_pos hquit]
        exact .round hround .done
      · rw [if_neg hquit, if_neg hquit]
        -- the round leaves as many entries, and the configuration as it is
        set servers' := (syncServers env.turns 0 servers d).ret.1
        have hservers' : servers' ≠ [] := by
          rw [← List.length_pos_iff, hlength]
          exact List.length_pos_iff.mpr hservers
        have hrest := ih servers' (syncServers env.turns 0 servers d).state hservers'
        unfold roundsMade at hrest
        rw [if_neg hservers', syncServers_cli, if_neg hquit, hlength] at hrest
        exact .round hround hrest

/-- **The schedule of the loop**: any run of the daemon with the servers of its file goes in rounds,
each of which takes one decision on each server, attempted or held.  A server is attempted in a
round exactly when it has not been tried, when its last attempt succeeded, or when that failed
`SYNC_RETRY_INTERVAL_SEC` ago by the clock.  So after a failure at `t` it is attempted at most once
in that time until an attempt succeeds, even if the clock is set back. -/
theorem syncLoop_scheduled (conf : ServerConfigEnv) (d₀ d : Daemon) (envs : List RoundEnv) :
    let servers := (loadServerConfig conf ⟨d₀, []⟩).state.servers
    let tr := (syncLoop servers envs d).trace
    InRounds servers.length (roundsMade servers d.cli envs) tr ∧
      ∀ i, Scheduled syncRetryIntervalSec (decisionsOf i tr) none ∧
        ∀ before during after t b,
          decisionsOf i tr = before ++ .attempt t false :: during ++ after →
          FailsUpTo b during → t ≤ b → attempts during * syncRetryIntervalSec ≤ b - t := by
  intro servers tr
  refine ⟨syncLoop_inRounds envs servers d, fun i => ?_⟩
  -- a server that is not in the list is never decided on
  have hscheduled : Scheduled syncRetryIntervalSec (decisionsOf i tr) none := by
    by_cases hi : i < servers.length
    · have hserver := List.getElem?_eq_getElem hi
      have hzero : servers[i].nextAllowedSync = 0 :=
        loadServerConfig_neverTried conf d₀ _ (List.getElem_mem hi)
      refine scheduled_of_stored envs hserver ?_ d
      rw [hzero]
      exact .clear
    · rw [decisionsOf_syncLoop_eq_nil envs (not_lt.mp hi) d]
      trivial
  refine ⟨hscheduled, fun before during after t b hds hfails htb => ?_⟩
  rw [hds] at hscheduled
  exact attempts_mul_le hscheduled hfails htb

/-! ### One round only -/

/-- **With `-q` there is one round**, in which every server of the file is attempted once, whatever
becomes of the attempts. -/
theorem syncLoop_quit (conf : ServerConfigEnv) (d₀ : Daemon) {d : Daemon}
    (hquit : d.cli.quitAfterSync ≠ 0) {env : RoundEnv} (henv : env.shutdownRequested = false)
    (envs : List RoundEnv) {i : ℕ}
    (hi : i < (loadServerConfig conf ⟨d₀, []⟩).state.servers.length) :
    ∃ ok, decisionsOf i (syncLoop (loadServerConfig conf ⟨d₀, []⟩).state.servers (env :: envs)
      d).trace = [.attempt (env.turns i).now ok] := by
  set servers := (loadServerConfig conf ⟨d₀, []⟩).state.servers with hservers
  have hserver := List.getElem?_eq_getElem hi
  -- a server that was just loaded has never failed
  have hzero : servers[i].nextAllowedSync = 0 :=
    loadServerConfig_neverTried conf d₀ _ (List.getElem_mem hi)
  have hne : servers ≠ [] := List.ne_nil_of_length_pos (Nat.zero_lt_of_lt hi)
  obtain ⟨dec, server', -, hstep, hdec⟩ :=
    (syncServers_spec env.turns servers 0 d).2.1 i servers[i] hserver
  rw [Nat.zero_add] at hstep hdec
  have hquit' : (syncServers env.turns 0 servers d).state.cli.quitAfterSync ≠ 0 := by
    rwa [syncServers_cli]
  have hstored : Stored syncRetryIntervalSec none servers[i].nextAllowedSync := by
    rw [hzero]
    exact .clear
  have htimely := (hstep.timely hstored).1
  have hnow := hstep.now
  rw [syncLoop_round hne henv, if_pos hquit', decisionsOf_round, hdec]
  -- so nothing holds it back
  cases dec with
  | attempt now ok =>
    obtain rfl : now = (env.turns i).now := hnow
    exact ⟨ok, rfl⟩
  | held now => exact absurd (due_none _ _) htimely

/-- A file with two servers. -/
def poolFile : ServerConfigEnv :=
  ⟨fun _ => some (confText [⟨.server poolServer, .lf⟩, ⟨.server secondServer, .lf⟩]), allAllocs⟩

theorem servers_poolFile : (loadServerConfig poolFile ⟨Daemon.init, []⟩).state.servers =
    [⟨"pool.ntp.org".toList, "123\n".toList, 0⟩, ⟨"192.168.1.2".toList, "123\n".toList, 0⟩] := by
  show (loadServerLines allAllocs 0 (poolServer.text ++ LineEnd.lf.text ++ '\n' ::
    (secondServer.text ++ LineEnd.lf.text ++ '\n' :: [])) ⟨Daemon.init, []⟩).state.servers = _
  rw [loadServerLines_server, loadServerLines_server, loadServerLines_nil]
  decide

/-- A round in which no reply comes. -/
def quietRound : RoundEnv := ⟨false, fun _ => ⟨OtherThreads.idle, 1700000000, workingSyncEnv []⟩⟩

/-- The daemon started with `-q`. -/
def quitDaemon : Daemon := { Daemon.init with cli := { CliConfig.init with quitAfterSync := 1 } }

/-- Of the two servers of the file the second one is attempted, although the first one failed. -/
theorem syncLoop_quit_pool : ∃ ok, decisionsOf 1
    (syncLoop (loadServerConfig poolFile ⟨Daemon.init, []⟩).state.servers [quietRound, quietRound]
      quitDaemon).trace = [.attempt 1700000000 ok] :=
  syncLoop_quit poolFile Daemon.init (by decide) rfl [quietRound] (by
    rw [servers_poolFile]
    decide)

/-! ### A loop that starves -/

/-- The event shows nothing but failed attempts. -/
def LoopEvent.Starved : LoopEvent → Prop
  | sync _ => False
  | attempt _ _ rc => rc = -1
  | logRound allSuccess => allSuccess = false
  | _ => True

theorem getSyncSocket_trace (env : SyncSocketEnv) (d : Daemon) :
    (getSyncSocket env d).trace = [] := by
  have hsilent : Frame (fun _ => ()) (fun _ => False) (getSyncSocket env) := by
    have hstore : ∀ sock : ℤ, Frame (fun _ => ()) (fun _ => False) (do
        Proc.update fun d : Daemon => { d with socket := { d.socket with syncSock := sock } }
        if sock < 0 then return -1
        else
          let _ ← sys env.reuseaddr
          return sock : DProc ℤ) := fun sock =>
      .bind (.update fun _ => rfl) fun _ =>
        .ite (.pure _) (.bind ((sys_frame _ _).mono (fun _ => ()) fun _ he => he) fun _ => .pure _)
    unfold getSyncSocket
    refine .bind .read fun d => .ite (.pure _) (.ite ?_ ?_)
    · exact .bind ((network6CreateSocket_frame _).mono (fun _ => ()) fun _ he => he) hstore
    · exact .bind ((network4CreateSocket_frame _).mono (fun _ => ()) fun _ he => he) hstore
  exact List.eq_nil_iff_forall_not_mem.mpr fun e he => hsilent.trace d e he

/-- An attempt that starts with an error set does nothing. -/
theorem syncNtpTime_trace_of_errno {d : Daemon} (h : d.errno ≠ 0) (ip port : CString)
    (env : SyncEnv) : (syncNtpTime (some ip) (some port) env d).trace = [] := by
  have hunsent := (sendSyncRequest_ret port env d).2 fun hsent => h hsent.errno
  rw [syncNtpTime_of_none hunsent]
  have herrno := (getSyncSocket_errno env.socket d).2 h
  obtain ⟨hfails, hrejects, -⟩ := sendSyncRequest_run port env d
  dsimp only
  by_cases hsock : (getSyncSocket env.socket d).ret < 0
  · rw [hfails hsock]
    exact getSyncSocket_trace env.socket d
  · have htest : ¬ PassesPortTest port (getSyncSocket env.socket d).state := fun hpass =>
      herrno ((portTest_iff port _).mp hpass).2.2
    rw [hrejects hsock htest]
    exact getSyncSocket_trace env.socket d

/-- What a starved part of the loop does. -/
structure StarvedRun {α : Type} (o : Outcome Daemon LoopEvent α) : Prop where
  errno : o.state.errno ≠ 0
  events : ∀ e ∈ o.trace, e.Starved

theorem syncServer_starved {d : Daemon} (h : d.errno ≠ 0) (i : ℕ) (server : ServerConfig)
    (turn : ServerTurn) :
    StarvedRun (syncServer i server turn d) ∧ (syncServer i server turn d).ret.2 = false := by
  have h' : (turn.others.act d).errno ≠ 0 := by rwa [turn.others.errno]
  obtain ⟨hret, herrno⟩ :=
    SyncAttempt.run_of_errno h' ⟨some server.ip, some server.port, turn.sync⟩
  have htrace := syncNtpTime_trace_of_errno h' server.ip server.port turn.sync
  rw [syncServer_run]
  split_ifs
  · exact ⟨⟨h', fun e he => by rw [List.mem_singleton.mp he]; trivial⟩, rfl⟩
  · rw [attemptServer_run, htrace]
    refine ⟨⟨herrno, fun e he => ?_⟩, ?_⟩
    · rw [List.mem_singleton.mp he]
      exact hret
    · exact decide_eq_false (hret.trans_ne (by decide))

theorem syncServers_starved {d : Daemon} (h : d.errno ≠ 0) (turns : ℕ → ServerTurn) (k : ℕ)
    (servers : List ServerConfig) :
    StarvedRun (syncServers turns k servers d) ∧
      (servers ≠ [] → (syncServers turns k servers d).ret.2 = false) := by
  induction servers generalizing k d with
  | nil => exact ⟨⟨h, nofun⟩, fun hne => absurd rfl hne⟩
  | cons server rest ih =>
    obtain ⟨hrun, hret⟩ := syncServer_starved h k server (turns k)
    obtain ⟨hrest, -⟩ := ih hrun.errno (k + 1)
    rw [syncServers_cons]
    refine ⟨⟨hrest.errno, fun e he => ?_⟩, fun _ => ?_⟩
    · exact (List.mem_append.mp he).elim (hrun.events e) (hrest.events e)
    · dsimp only
      rw [hret]
      rfl

/-- **An error number starves the loop**: if one is set when the loop is entered, no attempt sends a
request, corrects the clock or does anything else, in any round, whatever the servers answer; every
round is reported as failed, and the error number is never cleared. -/
theorem syncLoop_starved {d : Daemon} (h : d.errno ≠ 0) (servers : List ServerConfig)
    (envs : List RoundEnv) : StarvedRun (syncLoop servers envs d) := by
  induction envs generalizing servers d with
  | nil => exact ⟨h, nofun⟩
  | cons env envs ih =>
    by_cases henv : env.shutdownRequested = true
    · rw [syncLoop_shutdown henv]
      exact ⟨h, nofun⟩
    rw [Bool.not_eq_true] at henv
    by_cases hservers : servers = []
    · rw [syncLoop, henv, if_neg Bool.false_ne_true, if_pos hservers]
      refine ⟨(ih h servers).errno, fun e he => ?_⟩
      rcases List.mem_cons.mp he with rfl | he
      · trivial
      · exact (ih h servers).events e he
    -- the turns begin and end with an error number, whatever the servers are
    obtain ⟨hround, hret⟩ := syncServers_starved h env.turns 0 servers
    rw [syncLoop_round hservers henv, hret hservers]
    set o := syncServers env.turns 0 servers d
    have hrest : StarvedRun (if o.state.cli.quitAfterSync ≠ 0 then ⟨o.ret.1, o.state, []⟩
        else syncLoop o.ret.1 envs o.state) := by
      split_ifs
      · exact ⟨hround.errno, nofun⟩
      · exact ih hround.errno _
    refine ⟨hrest.errno, fun e he => ?_⟩
    rcases List.mem_append.mp he with he | he
    · exact hround.events e he
    rcases List.mem_cons.mp he with rfl | he
    · rfl
    rcases List.mem_cons.mp he with rfl | he
    · trivial
    · exact hrest.events e he

end Dntpd
