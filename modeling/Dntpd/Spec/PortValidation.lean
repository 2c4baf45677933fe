import Dntpd.Library.Run
import Dntpd.Spec.Numerals
import Dntpd.Spec.SyncAccept
import Dntpd.Spec.SyncMarks

/-!
# What the port validation of an attempt depends on

`strtol` reads a decimal port number as it stands (`strtol_of_denotesPort`), but the test behind it
also looks at `errno`, which nothing clears: a valid port passes exactly if `errno` was clear when
the attempt started and the sync socket was had without an error (`SyncAttempt.accepted_iff`).  An
error of one attempt is therefore the end of all later ones (`SyncAttempt.fails_of_errno`).
-/

namespace Dntpd

open Proc

/-! ### Port numbers -/

/-- The string denotes a port number: decimal digits, perhaps with a newline behind them. -/
def DenotesPort (port : CString) (n : ℕ) : Prop :=
  ∃ digits : CString, digits ≠ [] ∧ (∀ c ∈ digits, '0' ≤ c ∧ c ≤ '9') ∧
    (port = digits ∨ port = digits ++ ['\n']) ∧ decimalValue digits = n ∧ 1 ≤ n ∧ n ≤ 65535

/-- A port number is read as it stands. -/
theorem strtol_of_denotesPort {port : CString} {n : ℕ} (h : DenotesPort port n) :
    (strtol port).value = n := by
  obtain ⟨digits, hne, hdigits, hport, hvalue, -, hle⟩ := h
  obtain ⟨rest, rfl, hrest⟩ : ∃ rest, port = digits ++ rest ∧
      ∀ c ∈ rest.head?, digitValue? 10 c = none := by
    -- a newline behind the digits ends the number as the end of the text does
    rcases hport with rfl | rfl
    · exact ⟨[], (List.append_nil _).symm, nofun⟩
    · refine ⟨['\n'], rfl, fun c hc => ?_⟩
      obtain rfl := Option.mem_some_iff.mp hc
      decide
  have hinteger : scanInteger (digits ++ rest) = some (false, n, rest) := by
    rw [scanInteger_digits hne hdigits hrest, hvalue]
  have hmax : ¬ (n : ℤ) > CInt.int64Max := by
    unfold CInt.int64Max
    omega
  have hmin : ¬ (n : ℤ) < CInt.int64Min := by
    unfold CInt.int64Min
    omega
  unfold strtol
  rw [hinteger]
  dsimp only
  rw [if_neg Bool.false_ne_true, if_neg hmax, if_neg hmin]

/-! ### The port test -/

/-- Without a socket there is no port test; a port that fails it ends the attempt, and one that
passes it is sent to. -/
theorem sendSyncRequest_run (port : CString) (env : SyncEnv) (d : Daemon) :
    let o := getSyncSocket env.socket d
    let d' := { o.state with errno := if (strtol port).erange then ERANGE else o.state.errno }
    (o.ret < 0 → sendSyncRequest port env d = ⟨none, o.state, o.trace⟩) ∧
      (¬ o.ret < 0 → ¬ PassesPortTest port o.state →
        sendSyncRequest port env d = ⟨none, d', o.trace⟩) ∧
      (¬ o.ret < 0 → PassesPortTest port o.state →
        sendSyncRequest port env d = ⟨(sendToPort o.ret (strtol port).value env d').ret,
          (sendToPort o.ret (strtol port).value env d').state,
          o.trace ++ (sendToPort o.ret (strtol port).value env d').trace⟩) := by
  intro o d'
  -- the port test on its own, with what it leads to
  have hbranch := ite_run ((strtol port).value < 1 ∨ (strtol port).value > 65535 ∨ d'.errno ≠ 0)
    (pure none) (sendToPort o.ret (strtol port).value env) d'
  unfold sendSyncRequest
  rw [bind_run, ite_run]
  refine ⟨fun hsock => ?_, fun hsock htest => ?_, fun hsock htest => ?_⟩
  · rw [if_pos hsock]
    exact congrArg (Outcome.mk _ _) (List.append_nil _)
  · rw [if_neg hsock]
    have hnone := hbranch.trans (if_pos (not_not.mp htest))
    exact (congrArg (fun r => Outcome.mk r.ret r.state (o.trace ++ r.trace)) hnone).trans
      (congrArg (Outcome.mk _ _) (List.append_nil _))
  · rw [if_neg hsock]
    have hsend := hbranch.trans (if_neg htest)
    exact congrArg (fun r => Outcome.mk r.ret r.state (o.trace ++ r.trace)) hsend

/-! ### Attempts -/

/-- There is no sync socket, and none can be created. -/
def SyncSocketFails (env : SyncSocketEnv) (d : Daemon) : Prop :=
  d.socket.syncSock < 0 ∧ env.create.socket.toBool = false

/-- `get_sync_socket` clears no error, and leaves one when it fails. -/
theorem getSyncSocket_errno (env : SyncSocketEnv) (d : Daemon) :
    ((getSyncSocket env d).ret < 0 ↔ SyncSocketFails env d) ∧
      (d.errno ≠ 0 → (getSyncSocket env d).state.errno ≠ 0) := by
  unfold getSyncSocket SyncSocketFails
  -- a cached socket, one of version 6, or one of version 4
  by_cases hcached : 0 ≤ d.socket.syncSock
  · simp [hcached]
  have hnone : d.socket.syncSock < 0 := not_le.mp hcached
  by_cases hfamily : d.cli.familyPreference = 2
  · unfold network6CreateSocket
    cases env.create.socket with
    | error e => simp [hcached, hnone, hfamily, sys, e.ne_zero]
    | ok fd =>
      have hfd : ¬ (fd : ℤ) < 0 := by omega
      simp +contextual [hcached, hfamily, hfd, sys_errno_eq_zero_iff]
  · unfold network4CreateSocket
    cases env.create.socket with
    | error e => simp [hcached, hnone, hfamily, sys, e.ne_zero]
    | ok fd =>
      have hfd : ¬ (fd : ℤ) < 0 := by omega
      simp +contextual [hcached, hfamily, hfd, sys_errno_eq_zero_iff]

namespace SyncAttempt

/-- The state after the attempt. -/
def after (a : SyncAttempt) (d : Daemon) : Daemon := (a.run d).state

/-- The attempt with the marks of how far it gets. -/
def marks (a : SyncAttempt) : MarkedProc ℤ := SyncMarks.syncNtpTime a.ip a.port a.env

/-- The run of the attempt gets past the validation of a port string that denotes a port number,
once it has its socket. -/
def PortAccepted (a : SyncAttempt) (d : Daemon) : Prop :=
  ∀ ip port n, a.ip = some ip → a.port = some port → DenotesPort port n →
    ¬ (getSyncSocket a.env.socket d).ret < 0 → .pastPort ∈ (a.marks d).trace

/-- When the attempt starts, no earlier call has left an error, and the socket is had without one;
or there is no socket at all. -/
def ErrnoClear (a : SyncAttempt) (d : Daemon) : Prop :=
  ∀ ip port n, a.ip = some ip → a.port = some port → DenotesPort port n →
    SyncSocketFails a.env.socket d ∨ d.errno = 0 ∧ SyncSocketReady a.env.socket d

theorem passesPortTest_iff {port : CString} {n : ℕ} (h : DenotesPort port n) (d : Daemon) :
    PassesPortTest port d ↔ d.errno = 0 := by
  have hvalue := strtol_of_denotesPort h
  obtain ⟨-, -, -, -, -, hpos, hle⟩ := h
  refine (portTest_iff port d.errno).trans ⟨fun hpass => hpass.2.2, fun herrno => ⟨?_, ?_, herrno⟩⟩
  · rw [hvalue]
    omega
  · rw [hvalue]
    omega

/-- A valid port is accepted exactly if `errno` is clear. -/
theorem accepted_iff (a : SyncAttempt) (d : Daemon) : a.PortAccepted d ↔ a.ErrnoClear d := by
  refine forall₃_congr fun ip port n => forall₃_congr fun hip hport hdenotes => ?_
  have hmark := SyncMarks.pastPort_mem_iff ip port a.env d
  have hready := getSyncSocket_ready_iff a.env.socket d
  unfold marks
  rw [hip, hport, hmark, passesPortTest_iff hdenotes, (getSyncSocket_errno a.env.socket d).1,
    ← hready, ← not_lt, (getSyncSocket_errno a.env.socket d).1]
  tauto

/-- **In a run, every attempt gets past the validation of a valid port exactly if `errno` is clear
whenever one starts.**  The marks that tell it are those of `sync_ntp_time`. -/
theorem portAccepted_iff (attempts : List SyncAttempt) (d : Daemon) :
    (∀ a ∈ attempts, Erases SyncMark.event? a.marks a.run) ∧
      (Run.Along after PortAccepted attempts d ↔ Run.Along after ErrnoClear attempts d) := by
  constructor
  · intro a _
    exact SyncMarks.syncNtpTime_erases a.ip a.port a.env
  · exact Run.along_congr accepted_iff attempts d

/-! ### An error is never forgotten -/

/-- An attempt that starts with an error set fails, and leaves one set. -/
theorem run_of_errno {d : Daemon} (h : d.errno ≠ 0) (a : SyncAttempt) :
    (a.run d).ret = -1 ∧ (a.after d).errno ≠ 0 := by
  obtain ⟨ip, port, env⟩ := a
  cases ip with
  | none => exact ⟨rfl, h⟩
  | some ip =>
    cases port with
    | none => exact ⟨rfl, h⟩
    | some port =>
      -- an error number that is set fails the port test, so no request is sent
      have hunsent := (sendSyncRequest_ret port env d).2 fun hsent => h hsent.errno
      have hrun : syncNtpTime (some ip) (some port) env d = _ := syncNtpTime_of_none hunsent
      have herrno := (getSyncSocket_errno env.socket d).2 h
      obtain ⟨hfails, hrejects, -⟩ := sendSyncRequest_run port env d
      unfold after run
      rw [hrun]
      refine ⟨rfl, ?_⟩
      dsimp only
      by_cases hsock : (getSyncSocket env.socket d).ret < 0
      · rw [hfails hsock]
        exact herrno
      · have htest : ¬ PassesPortTest port (getSyncSocket env.socket d).state := fun hpass =>
          herrno ((portTest_iff port _).mp hpass).2.2
        rw [hrejects hsock htest]
        -- `errno` is set to `ERANGE` or stays as it was
        dsimp only
        split_ifs
        · decide
        · exact herrno

/-- So one error is the end of synchronisation. -/
theorem fails_of_errno {d : Daemon} (h : d.errno ≠ 0) (attempts : List SyncAttempt) :
    Run.Along after (fun a d => (a.run d).ret = -1) attempts d := by
  induction attempts generalizing d with
  | nil => trivial
  | cons a rest ih => exact ⟨(run_of_errno h a).1, ih (run_of_errno h a).2⟩

end SyncAttempt

/-- An attempt to which no datagram is delivered. -/
def timedOutAttempt : SyncAttempt :=
  ⟨some "10.0.0.1".toList, some "123".toList,
    { workingSyncEnv [] with recvfrom := .error EAGAIN }⟩

/-- An attempt whose reply is accepted if the request is sent. -/
def echoAttempt : SyncAttempt :=
  ⟨some "10.0.0.1".toList, some "123".toList, workingSyncEnv echoReply⟩

theorem denotesPort_123 : DenotesPort "123".toList 123 := by
  have hdigits : "123".toList.all (fun c => decide ('0' ≤ c ∧ c ≤ '9')) = true := by decide
  exact ⟨"123".toList, by decide, fun c hc => of_decide_eq_true (List.all_eq_true.mp hdigits c hc),
    .inl rfl, by decide, by decide, by decide⟩

/-- After a receive timeout the port `123` is rejected, and every later attempt fails. -/
theorem timedOutAttempt_not_portAccepted :
    echoAttempt.PortAccepted unreachedDaemon ∧
      ¬ Run.Along SyncAttempt.after SyncAttempt.PortAccepted [timedOutAttempt, echoAttempt]
        unreachedDaemon ∧
      ∀ attempts : List SyncAttempt, Run.Along SyncAttempt.after (fun a d => (a.run d).ret = -1)
        attempts (timedOutAttempt.after unreachedDaemon) := by
  have herrno : (timedOutAttempt.after unreachedDaemon).errno = 11 := by decide +kernel
  have hne : (timedOutAttempt.after unreachedDaemon).errno ≠ 0 := by
    rw [herrno]
    decide
  refine ⟨?_, fun h => ?_, fun attempts => SyncAttempt.fails_of_errno hne attempts⟩
  · exact (SyncAttempt.accepted_iff _ _).mpr fun _ _ _ _ _ _ =>
      .inr ⟨rfl, .inr ⟨rfl, rfl, fun _ => rfl, rfl⟩⟩
  · have hclear := (SyncAttempt.accepted_iff _ _).mp h.2.1 _ _ _ rfl rfl denotesPort_123
    rcases hclear with ⟨-, hsocket⟩ | ⟨hzero, -⟩
    · cases hsocket
    · exact hne hzero

end Dntpd
