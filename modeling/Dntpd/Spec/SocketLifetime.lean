import Dntpd.Initial
import Dntpd.SocketCalls
import Dntpd.TcpListener

/-!
# How often a socket is closed

The functions that bind a socket close it if they cannot, and so do those that call them.  A socket
whose `bind` is refused is therefore closed twice, and by the second time its number may be another
thread's (`createUdpSocket_closed`, `createTcpSocket_closed`).  One that is refused for another
reason is closed once, and one that is returned stays open.
-/

namespace Dntpd

open Proc

/-- The descriptor that a call closes, if it closes one. -/
def SocketCall.closed? : SocketCall → Option ℤ
  | close sock => some sock
  | _ => none

/-- The descriptors that a trace closes. -/
def closedSockets (tr : List SocketCall) : List ℤ := tr.filterMap SocketCall.closed?

@[simp] theorem closedSockets_append (tr tr' : List SocketCall) :
    closedSockets (tr ++ tr') = closedSockets tr ++ closedSockets tr' :=
  List.filterMap_append

/-- The call to the kernel among those of the listener. -/
def ListenerCall.socketCall? : ListenerCall → Option SocketCall
  | socketCall c => some c
  | _ => none

/-- The descriptors that a trace of the listener closes. -/
def closedByListener (tr : List ListenerCall) : List ℤ :=
  closedSockets (tr.filterMap ListenerCall.socketCall?)

namespace SocketCalls

/-! ### A socket that is made -/

/-- The functions that create a socket, and whether it is one of version 6. -/
def createSocket (v6 : Bool) (env : SocketEnv) : SocketProc ℤ :=
  if v6 then network6CreateSocket env else network4CreateSocket env

theorem createSocket_ok {env : SocketEnv} {fd : ℕ} (h : env.socket = .ok fd) (v6 : Bool)
    (d : Daemon) : (createSocket v6 env d).ret = fd ∧
      closedSockets (createSocket v6 env d).trace = [] ∧
      { (createSocket v6 env d).state with errno := 0 } = { d with errno := 0 } := by
  obtain ⟨socket, reuseaddr, v6only⟩ := env
  obtain rfl : socket = .ok fd := h
  cases v6 <;> cases reuseaddr <;> cases v6only <;> exact ⟨rfl, rfl, rfl⟩

/-- What follows a socket that is made. -/
theorem createSocket_bind {env : SocketEnv} {fd : ℕ} (h : env.socket = .ok fd) (v6 : Bool)
    (rest : ℤ → SocketProc ℤ) (d : Daemon) :
    let o := (do
      let sock ← createSocket v6 env
      if sock < 0 then return -1 else rest sock) d
    ∃ d', o.ret = (rest fd d').ret ∧ closedSockets o.trace = closedSockets (rest fd d').trace := by
  obtain ⟨hret, hclosed, -⟩ := createSocket_ok h v6 d
  have hfd : ¬ (fd : ℤ) < 0 := not_lt.mpr (Int.natCast_nonneg fd)
  refine ⟨(createSocket v6 env d).state, ?_, ?_⟩
  · rw [bind_ret, hret, if_neg hfd]
  · rw [bind_trace, hret, if_neg hfd, closedSockets_append, hclosed, List.nil_append]

/-! ### Binding -/

/-- The end of `create_udp_socket` behind a binding that failed. -/
theorem finishUdpSocket_failed (fd : ℕ) :
    finishUdpSocket fd (-1) = (do
      Proc.emit (.close (fd : ℤ))
      return -1) := by
  unfold finishUdpSocket networkCloseSocket
  rw [if_pos (by decide), if_pos (Int.natCast_nonneg fd)]

/-- How often a socket is closed for which `bind` answers `r`. -/
def bindClosings (r : Except Errno Unit) : ℕ := if r.toBool then 0 else 2

/-- The end of `create_udp_socket` from `bind` on. -/
theorem bindSocket_finish (fd : ℕ) (family : AddressFamily) (port : UInt16) (r : Except Errno Unit)
    (d : Daemon) :
    let o := (do
      let ret ← bindSocket fd family port r
      finishUdpSocket fd ret) d
    (o.ret = if r.toBool then (fd : ℤ) else -1) ∧
      closedSockets o.trace = List.replicate (bindClosings r) (fd : ℤ) := by
  cases r with
  | ok _ => exact ⟨rfl, rfl⟩
  | error e =>
    have hrun : (do
        let ret ← bindSocket fd family port (.error e)
        finishUdpSocket fd ret) = (do
          let _ ← bindSocket fd family port (.error e)
          Proc.emit (.close (fd : ℤ))
          return -1) :=
      bind_congr_ret fun _ => finishUdpSocket_failed fd
    rw [hrun]
    exact ⟨rfl, rfl⟩

/-- An address of version 4 to bind to that is none. -/
def interfaceRefused (interface : Option CString) : Bool :=
  match interface with
  | some (c :: cs) => (inetPton (c :: cs)).isNone
  | _ => false

theorem network4BindSocket_eq (sock : ℤ) (interface : Option CString) (port : UInt16)
    (r : Except Errno Unit) : network4BindSocket sock interface port r =
      if interfaceRefused interface then pure (-1) else bindSocket sock .inet port r := by
  cases interface with
  | none => rfl
  | some address =>
    cases address with
    | nil => rfl
    | cons c cs =>
      unfold network4BindSocket interfaceRefused
      exact if_congr Option.isNone_iff_eq_none.symm rfl rfl

/-- The end of `create_udp_socket` behind a socket of version 4. -/
theorem network4BindSocket_finish (fd : ℕ) (interface : Option CString) (port : UInt16)
    (r : Except Errno Unit) (d : Daemon) :
    let o := (do
      let ret ← network4BindSocket fd interface port r
      finishUdpSocket fd ret) d
    (o.ret = if interfaceRefused interface = false ∧ r.toBool then (fd : ℤ) else -1) ∧
      closedSockets o.trace =
        List.replicate (if interfaceRefused interface then 1 else bindClosings r) (fd : ℤ) := by
  rw [network4BindSocket_eq]
  cases interfaceRefused interface with
  | false => simpa using bindSocket_finish fd .inet port r d
  | true =>
    rw [if_pos rfl, pure_bind, finishUdpSocket_failed]
    exact ⟨rfl, rfl⟩

end SocketCalls

open SocketCalls

/-- How often `create_udp_socket` closes the socket that it creates. -/
def udpClosings (cli : CliConfig) (bind : Except Errno Unit) : ℕ :=
  if cli.familyPreference ≠ networkFamilyIpv6Only ∧ interfaceRefused cli.interface then 1
  else bindClosings bind

/-- **A UDP socket that cannot be bound is closed twice**; one for which the interface is no address
is closed once, and any other is returned and stays open. -/
theorem createUdpSocket_closed {port : ℤ} (hpos : 0 < port) (hle : port ≤ 65535)
    {env : UdpSocketEnv} {fd : ℕ} (hfd : env.create.socket = .ok fd) (d : Daemon) :
    let o := createUdpSocket port env d
    (o.ret = if udpClosings d.cli env.bind = 0 then (fd : ℤ) else -1) ∧
      closedSockets o.trace = List.replicate (udpClosings d.cli env.bind) (fd : ℤ) := by
  have hport : ¬ (port ≤ 0 ∨ port > 65535) := by omega
  have hbind : (bindClosings env.bind = 0) ↔ env.bind.toBool = true := by
    unfold bindClosings
    split_ifs with h
    · exact iff_of_true rfl h
    · exact iff_of_false (by decide) h
  -- the socket of version 4, whichever the family is
  have hinet : d.cli.familyPreference ≠ networkFamilyIpv6Only → ∀ o, o = (do
        let sock ← createSocket false env.create
        if sock < 0 then return -1
        else
          let ret ← network4BindSocket sock d.cli.interface (UInt16.ofNat port.toNat) env.bind
          finishUdpSocket sock ret : SocketProc ℤ) d →
      (o.ret = if udpClosings d.cli env.bind = 0 then (fd : ℤ) else -1) ∧
        closedSockets o.trace = List.replicate (udpClosings d.cli env.bind) (fd : ℤ) := by
    rintro hfamily o rfl
    obtain ⟨d', hret, hclosed⟩ := createSocket_bind hfd false (fun sock => do
      let ret ← network4BindSocket sock d.cli.interface (UInt16.ofNat port.toNat) env.bind
      finishUdpSocket sock ret) d
    obtain ⟨hret', hclosed'⟩ := network4BindSocket_finish fd d.cli.interface
      (UInt16.ofNat port.toNat) env.bind d'
    have hclosings : udpClosings d.cli env.bind =
        if interfaceRefused d.cli.interface then 1 else bindClosings env.bind :=
      if_congr (and_iff_right hfamily) rfl rfl
    rw [hret, hclosed, hret', hclosed', hclosings]
    cases interfaceRefused d.cli.interface with
    | true => exact ⟨rfl, rfl⟩
    | false => exact ⟨by simp [hbind], by simp⟩
  unfold createUdpSocket
  rw [if_neg hport, read_bind, ite_run, ite_run]
  -- with IPv6 only the interface plays no part, so none is refused
  by_cases hinet6 : d.cli.familyPreference = networkFamilyIpv6Only
  · obtain ⟨d', hret, hclosed⟩ := createSocket_bind hfd true (fun sock => do
      let ret ← network6BindSocket sock (UInt16.ofNat port.toNat) env.bind
      finishUdpSocket sock ret) d
    obtain ⟨hret', hclosed'⟩ := bindSocket_finish fd .inet6 (UInt16.ofNat port.toNat) env.bind d'
    have hclosings : udpClosings d.cli env.bind = bindClosings env.bind :=
      if_neg fun h => h.1 hinet6
    rw [if_pos hinet6, hclosings]
    exact ⟨(hret.trans hret').trans (if_congr hbind.symm rfl rfl), hclosed.trans hclosed'⟩
  · rw [if_neg hinet6]
    by_cases hdual : d.cli.familyPreference = networkFamilyDualStack
    · rw [if_pos hdual]
      exact hinet hinet6 _ rfl
    · rw [if_neg hdual]
      exact hinet hinet6 _ rfl

/-- A socket that may not be bound to the port of NTP. -/
def refusedUdpEnv : UdpSocketEnv := ⟨⟨.ok 5, .ok (), .ok ()⟩, .error ⟨13, by decide⟩⟩

theorem createUdpSocket_closed_refused :
    closedSockets (createUdpSocket 123 refusedUdpEnv Daemon.init).trace = [5, 5] :=
  (createUdpSocket_closed (by decide) (by decide) rfl Daemon.init).2

/-! ### The listener -/

namespace TcpListener

/-- How often `create_tcp_socket` closes the socket that it creates. -/
def tcpClosings (bind listen : Except Errno Unit) : ℕ :=
  if bind.toBool then if listen.toBool then 0 else 1 else 2

/-- `create_tcp_socket` from the socket `fd` on. -/
theorem createTcpSocket_created {env : TcpSocketEnv} {fd : ℕ} (hfd : env.create.socket = .ok fd)
    (port : UInt16) :
    createTcpSocket port env = (do
      let _ ← onSocket (SocketCalls.network4CreateSocket env.create)
      let _ ← onSocket (SocketCalls.call (.setReuseaddr (fd : ℤ)) env.reuseaddr)
      let ret ← onSocket (network4BindToPort fd port env.bind)
      if ret < 0 then
        Proc.emit (.socketCall (.close (fd : ℤ)))
        return -1
      else
        match ← listen fd env.listen with
        | .error _ =>
          Proc.emit (.socketCall (.close (fd : ℤ)))
          return -1
        | .ok _ => return (fd : ℤ)) := by
  have hnonneg : ¬ (fd : ℤ) < 0 := not_lt.mpr (Int.natCast_nonneg fd)
  -- the socket is there, so each of the closings closes it
  have hclose : onSocket (SocketCalls.networkCloseSocket (fd : ℤ)) =
      Proc.emit (.socketCall (.close (fd : ℤ))) := by
    unfold SocketCalls.networkCloseSocket
    rw [if_pos (Int.natCast_nonneg fd)]
    rfl
  unfold createTcpSocket
  refine bind_congr_ret fun d => ?_
  have hret : (onSocket (SocketCalls.network4CreateSocket env.create) d).ret = fd :=
    (createSocket_ok hfd false d).1
  rw [hret, hclose]
  exact if_neg hnonneg

/-- **So is the listener's socket**; one that cannot listen is closed once. -/
theorem createTcpSocket_closed {env : TcpSocketEnv} {fd : ℕ} (hfd : env.create.socket = .ok fd)
    (port : UInt16) (d : Daemon) :
    let o := createTcpSocket port env d
    (o.ret = if tcpClosings env.bind env.listen = 0 then (fd : ℤ) else -1) ∧
      closedByListener o.trace = List.replicate (tcpClosings env.bind env.listen) (fd : ℤ) := by
  rw [createTcpSocket_created hfd]
  obtain ⟨⟨socket, reuse, v6only⟩, reuseaddr, bind, listen⟩ := env
  obtain rfl : socket = .ok fd := hfd
  cases bind with
  | error e =>
    cases reuse <;> cases reuseaddr <;> exact ⟨rfl, rfl⟩
  | ok _ =>
    cases listen with
    | error e => cases reuse <;> cases reuseaddr <;> exact ⟨rfl, rfl⟩
    | ok _ => cases reuse <;> cases reuseaddr <;> exact ⟨rfl, rfl⟩

/-- A socket that cannot listen. -/
def refusedTcpEnv : TcpSocketEnv :=
  ⟨⟨.ok 6, .ok (), .ok ()⟩, .ok (), .ok (), .error ⟨95, by decide⟩⟩

example :
    closedByListener (createTcpSocket 323 refusedTcpEnv Daemon.init).trace = [6] :=
  (createTcpSocket_closed rfl 323 Daemon.init).2

end TcpListener

end Dntpd
