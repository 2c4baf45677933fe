import Dntpd.Library.ProcFrame
import Dntpd.SocketCalls

/-!
# The address families of the sockets

The functions of `SocketCalls` do to the daemon what those of the model do
(`getSyncSocket_agrees`).  `create_udp_socket` and `get_sync_socket` each create one socket, and
take its family from `family_preference` by different numbers.
-/

namespace Dntpd

open Proc

/-- The family of the socket that a call creates, if it creates one. -/
def SocketCall.family? : SocketCall → Option AddressFamily
  | .socket family => some family
  | _ => none

namespace SocketCalls

/-! ### The calls as events -/

theorem call_agrees {α : Type} (e : SocketCall) (r : Except Errno α) :
    Agrees (call e r) (sys r) := by
  cases r with
  | ok a => exact .emit_bind (.pure _)
  | error errno => exact .emit_bind (.bind (.update _) fun _ => .pure _)

theorem network4CreateSocket_agrees (env : SocketEnv) :
    Agrees (network4CreateSocket env) (Dntpd.network4CreateSocket env) := by
  refine .bind (call_agrees _ _) fun r => ?_
  cases r with
  | error e => exact .pure _
  | ok fd => exact .bind (call_agrees _ _) fun _ => .pure _

theorem network6CreateSocket_agrees (env : SocketEnv) :
    Agrees (network6CreateSocket env) (Dntpd.network6CreateSocket env) := by
  refine .bind (call_agrees _ _) fun r => ?_
  cases r with
  | error e => exact .pure _
  | ok fd => exact .bind (call_agrees _ _) fun _ => .bind (call_agrees _ _) fun _ => .pure _

theorem getSyncSocket_agrees (env : SyncSocketEnv) :
    Agrees (getSyncSocket env) (Dntpd.getSyncSocket env) := by
  have hstore : ∀ sock : ℤ, Agrees
      (do
        Proc.update fun d => { d with socket := { d.socket with syncSock := sock } }
        if sock < 0 then return -1
        else
          let _ ← call (.setReuseaddr sock) env.reuseaddr
          return sock : SocketProc ℤ)
      (do
        Proc.update fun d => { d with socket := { d.socket with syncSock := sock } }
        if sock < 0 then return -1
        else
          let _ ← sys env.reuseaddr
          return sock : DProc ℤ) := fun sock =>
    .bind (.update _) fun _ => .ite (.pure _) (.bind (call_agrees _ _) fun _ => .pure _)
  unfold getSyncSocket Dntpd.getSyncSocket
  -- a cached socket is returned as it is, otherwise one of the family is made
  refine .bind .read fun d => .ite (.pure _) (.ite ?_ ?_)
  · exact .bind (network6CreateSocket_agrees _) hstore
  · exact .bind (network4CreateSocket_agrees _) hstore

/-! ### Families -/

/-- The families of the sockets that the calls create, in order. -/
def families (tr : List SocketCall) : List AddressFamily := tr.filterMap SocketCall.family?

theorem families_append (tr tr' : List SocketCall) :
    families (tr ++ tr') = families tr ++ families tr' :=
  List.filterMap_append

/-- A procedure that creates no socket, and leaves the options alone. -/
abbrev NoSocket {α : Type} (p : SocketProc α) : Prop :=
  Frame Daemon.cli (fun e => e.family? = none) p

theorem call_noSocket {α : Type} {e : SocketCall} (he : e.family? = none) (r : Except Errno α) :
    NoSocket (call e r) := by
  refine .bind (.emit he) fun _ => ?_
  cases r with
  | ok a => exact .pure _
  | error errno => exact .bind (.update fun _ => rfl) fun _ => .pure _

theorem families_bind_of_noSocket {α β : Type} (p : SocketProc α) {f : α → SocketProc β}
    (hf : ∀ a, NoSocket (f a)) (d : Daemon) :
    families ((p >>= f) d).trace = families (p d).trace := by
  -- what comes behind `p` creates no socket
  have hrest : families (f (p d).ret (p d).state).trace = [] :=
    (hf _).filterMap_eq_nil (fun _ he => he) _
  rw [bind_trace, families_append, hrest, List.append_nil]

theorem families_call {α : Type} (family : AddressFamily) (r : Except Errno α) (d : Daemon) :
    families (call (.socket family) r d).trace = [family] := by
  cases r with
  | ok a => rfl
  | error errno => rfl

theorem families_network4CreateSocket (env : SocketEnv) (d : Daemon) :
    families (network4CreateSocket env d).trace = [.inet] := by
  refine (families_bind_of_noSocket _ (fun r => ?_) d).trans (families_call _ _ _)
  cases r with
  | error e => exact .pure _
  | ok fd => exact .bind (call_noSocket rfl _) fun _ => .pure _

theorem families_network6CreateSocket (env : SocketEnv) (d : Daemon) :
    families (network6CreateSocket env d).trace = [.inet6] := by
  refine (families_bind_of_noSocket _ (fun r => ?_) d).trans (families_call _ _ _)
  cases r with
  | error e => exact .pure _
  | ok fd => exact .bind (call_noSocket rfl _) fun _ => .bind (call_noSocket rfl _) fun _ => .pure _

/-- The family `get_sync_socket` takes a preference for. -/
def syncFamily (preference : ℤ) : AddressFamily := if preference = 2 then .inet6 else .inet

/-- The family `create_udp_socket` takes a preference for. -/
def udpFamily (preference : ℤ) : AddressFamily :=
  if preference = networkFamilyIpv6Only then .inet6 else .inet

theorem families_getSyncSocket (env : SyncSocketEnv) {d : Daemon} (h : d.socket.syncSock < 0) :
    families (getSyncSocket env d).trace = [syncFamily d.cli.familyPreference] := by
  have hstore : ∀ sock : ℤ, NoSocket (do
      Proc.update fun d => { d with socket := { d.socket with syncSock := sock } }
      if sock < 0 then return -1
      else
        let _ ← call (.setReuseaddr sock) env.reuseaddr
        return sock : SocketProc ℤ) := fun sock =>
    .bind (.update fun _ => rfl) fun _ =>
      .ite (.pure _) (.bind (call_noSocket rfl _) fun _ => .pure _)
  -- the first call: there is no socket yet
  have huncached : ¬ d.socket.syncSock ≥ 0 := not_le.mpr h
  unfold getSyncSocket syncFamily
  rw [bind_trace, read_trace, List.nil_append, read_ret, read_state, if_neg huncached]
  split_ifs
  · exact (families_bind_of_noSocket _ hstore d).trans (families_network6CreateSocket _ _)
  · exact (families_bind_of_noSocket _ hstore d).trans (families_network4CreateSocket _ _)

theorem bindSocket_noSocket (sock : ℤ) (family : AddressFamily) (port : UInt16)
    (r : Except Errno Unit) : NoSocket (bindSocket sock family port r) := by
  refine .bind (call_noSocket rfl _) fun r => ?_
  cases r with
  | error e => exact .bind (.emit rfl) fun _ => .pure _
  | ok u => exact .pure _

theorem network4BindSocket_noSocket (sock : ℤ) (interface : Option CString) (port : UInt16)
    (r : Except Errno Unit) : NoSocket (network4BindSocket sock interface port r) := by
  unfold network4BindSocket
  split
  · exact .ite (.pure _) (bindSocket_noSocket _ _ _ _)
  · exact bindSocket_noSocket _ _ _ _

theorem finishUdpSocket_noSocket (sock ret : ℤ) : NoSocket (finishUdpSocket sock ret) := by
  unfold finishUdpSocket networkCloseSocket
  exact .ite (.bind (.ite (.emit rfl) (.pure _)) fun _ => .pure _) (.pure _)

theorem families_createUdpSocket {port : ℤ} (hpos : 0 < port) (hle : port ≤ 65535)
    (env : UdpSocketEnv) (d : Daemon) :
    families (createUdpSocket port env d).trace = [udpFamily d.cli.familyPreference] := by
  have hport : ¬ (port ≤ 0 ∨ port > 65535) := by omega
  unfold createUdpSocket udpFamily
  rw [if_neg hport, bind_trace, read_trace, List.nil_append, read_ret, read_state]
  split_ifs
  · refine (families_bind_of_noSocket _ (fun sock => .ite (.pure _) ?_) d).trans
      (families_network6CreateSocket _ _)
    exact .bind (bindSocket_noSocket _ _ _ _) fun _ => finishUdpSocket_noSocket _ _
  · refine (families_bind_of_noSocket _ (fun sock => .ite (.pure _) ?_) d).trans
      (families_network4CreateSocket _ _)
    exact .bind (network4BindSocket_noSocket _ _ _ _) fun _ => finishUdpSocket_noSocket _ _
  · refine (families_bind_of_noSocket _ (fun sock => .ite (.pure _) ?_) d).trans
      (families_network4CreateSocket _ _)
    exact .bind (network4BindSocket_noSocket _ _ _ _) fun _ => finishUdpSocket_noSocket _ _

end SocketCalls

end Dntpd
