import Dntpd.PeerThread
import Dntpd.Spec.Socket
import Dntpd.Spec.Threads

/-!
# Whom a peer thread answers

A context starts without room for an address, so the kernel stores none for the first datagram of a
thread, and the reply to it goes to the address that the zeroed context holds.  From then on every
reply goes where its request came from.  Over any run of a thread the replies are therefore those of
the requests, in order, but for the address of the first (`sends_peerThread`).

The pool counts the servers, and `main` starts one thread.  What `cleanup_peer_thread` closes for
the rest of the pool is the descriptor in a zeroed context (`closes_runPeerThread`).
-/

namespace Dntpd

open Proc

/-! ### The datagrams of a run -/

/-- The events of the daemon among those of the peer threads. -/
def PeerCall.event? : PeerCall → Option Event
  | daemon e => some e
  | _ => none

/-- The datagrams that a trace of the peer threads sends. -/
def peerSends (tr : List PeerCall) : List (Sender × SockAddrIn × List UInt8 × Bool) :=
  sends (tr.filterMap PeerCall.event?)

@[simp] theorem peerSends_nil : peerSends [] = [] := rfl

@[simp] theorem peerSends_append (tr tr' : List PeerCall) :
    peerSends (tr ++ tr') = peerSends tr ++ peerSends tr' := by
  unfold peerSends
  rw [List.filterMap_append, sends_append]

@[simp] theorem peerSends_daemon (tr : List Event) : peerSends (tr.map .daemon) = sends tr := by
  unfold peerSends
  rw [List.filterMap_map]
  exact congrArg sends (List.filterMap_some)

namespace PeerThread

/-- A datagram that a turn receives, with the address it comes from. -/
structure Received where
  turn : PeerTurn
  datagram : Datagram
  source : SockAddrIn

/-- The loop goes on behind the turn: a datagram is received, or there is none for now. -/
def PeerTurn.goesOn (turn : PeerTurn) : Bool :=
  turn.running && match turn.recvfrom with
    | .ok _ => true
    | .error e => e.val == EAGAIN.val

def PeerTurn.received? (turn : PeerTurn) : Option Received :=
  match turn.recvfrom with
  | .ok (dg, addr) => some ⟨turn, dg, addr⟩
  | .error _ => none

/-- The datagrams that a thread receives. -/
def receivedBy (turns : List PeerTurn) : List Received :=
  (turns.takeWhile PeerTurn.goesOn).filterMap PeerTurn.received?

/-- The reply to a datagram, if it gets one: to its source, with what is published by then. -/
def Received.answer (r : Received) : Option (Sender × SockAddrIn × List UInt8 × Bool) :=
  let pkt := readHeader (peerBuffer r.datagram)
  if sizeofNtpPacket ≤ min r.datagram.size bufferSize ∧ HeaderAccepted pkt ∧
      pkt.mode = ntpModeClient then
    some (.handlePeerRequest, r.source, packetImage
      (peerRequestResponse r.turn.published pkt (ntpTimestampNow r.turn.reply.clock)),
      r.turn.reply.sendto.toBool)
  else none

/-! ### One turn -/

section

variable {idx : Fin maxPeers} {s : PeerThreads} {turn : PeerTurn}

/-- The socket of the context is valid, and the address is stored or not. -/
structure Serving (idx : Fin maxPeers) (addrLen : ℕ) (s : PeerThreads) : Prop where
  valid : (s.daemon.peerCtx idx).sockValid = true
  addrLen : (s.sockets idx).clientAddrLen = addrLen

/-- The state after a datagram was received from `addr`. -/
def stored (idx : Fin maxPeers) (addr : SockAddrIn) (s : PeerThreads) : PeerThreads :=
  let ctx := s.daemon.peerCtx idx
  let source := if (s.sockets idx).clientAddrLen ≥ sizeofSockAddrIn then addr else ctx.clientAddr
  { s with
    daemon := { s.daemon with
      peerCtx := Function.update s.daemon.peerCtx idx { ctx with clientAddr := source } }
    sockets := Function.update s.sockets idx
      { s.sockets idx with clientAddrLen := sizeofSockAddrIn } }

theorem recvfrom_ok (dg : Datagram) (addr : SockAddrIn) :
    recvfrom idx (.ok (dg, addr)) s =
      ⟨some dg, stored idx addr s, [.recvfrom (s.sockets idx).sockFd]⟩ := rfl

theorem recvfrom_error (e : Errno) :
    recvfrom idx (.error e) s = ⟨none, { s with daemon := { s.daemon with errno := e.val } },
      [.recvfrom (s.sockets idx).sockFd]⟩ := rfl

theorem sends_loop_ended (h : turn.goesOn = false) (turns : List PeerTurn) :
    peerSends (peerThreadLoop idx (turn :: turns) s).trace = [] := by
  unfold PeerTurn.goesOn at h
  rw [peerThreadLoop]
  cases hrunning : turn.running with
  | false => rfl
  | true =>
    rw [hrunning] at h
    cases hrecv : turn.recvfrom with
    | ok r => simp [hrecv] at h
    | error e =>
      have he : ¬ e.val = EAGAIN.val := by simpa [hrecv] using h
      rw [if_pos rfl, bind_run, recvfrom_error]
      dsimp only
      rw [bind_run, ite_run]
      show peerSends (_ :: (if e.val = EAGAIN.val then _ else _ : Outcome _ _ _).trace) = _
      rw [if_neg he]
      rfl

theorem sends_loop_again (hrunning : turn.running = true) {e : Errno}
    (hrecv : turn.recvfrom = .error e) (he : e.val = EAGAIN.val) {addrLen : ℕ}
    (hs : Serving idx addrLen s) (turns : List PeerTurn) :
    ∃ s', Serving idx addrLen s' ∧
      (s'.daemon.peerCtx idx).clientAddr = (s.daemon.peerCtx idx).clientAddr ∧
      peerSends (peerThreadLoop idx (turn :: turns) s).trace =
        peerSends (peerThreadLoop idx turns s').trace := by
  refine ⟨{ s with daemon := { s.daemon with errno := e.val } }, ⟨hs.valid, hs.addrLen⟩, rfl, ?_⟩
  rw [peerThreadLoop, hrunning, if_pos rfl, hrecv, bind_run, recvfrom_error]
  dsimp only
  rw [bind_run, ite_run]
  show peerSends (_ :: (if e.val = EAGAIN.val then _ else _ : Outcome _ _ _).trace) = _
  rw [if_pos he]
  rfl

theorem sends_loop_received (hrunning : turn.running = true) {dg : Datagram} {addr : SockAddrIn}
    (hrecv : turn.recvfrom = .ok (dg, addr)) {addrLen : ℕ} (hs : Serving idx addrLen s)
    (turns : List PeerTurn) :
    let source := if addrLen ≥ sizeofSockAddrIn then addr else (s.daemon.peerCtx idx).clientAddr
    ∃ s', Serving idx sizeofSockAddrIn s' ∧
      peerSends (peerThreadLoop idx (turn :: turns) s).trace =
        (Received.answer ⟨turn, dg, source⟩).toList ++
          peerSends (peerThreadLoop idx turns s').trace := by
  intro source
  -- the state with the sender's address stored, and what the answer makes of it
  set s₁ := stored idx addr s with hs₁
  set d₁ : Daemon := { s₁.daemon with g := turn.published } with hd₁
  set o := handlePeerRequest (peerBuffer dg) (min dg.size bufferSize) idx turn.reply d₁ with ho
  have hd₁ctx : d₁.peerCtx idx = ⟨true, source⟩ := by
    show Function.update s.daemon.peerCtx idx _ idx = _
    rw [Function.update_self, hs.valid, hs.addrLen]
  have hctx : o.state.peerCtx idx = ⟨true, source⟩ := by
    have hframe : o.state.peerCtx = d₁.peerCtx :=
      (congrArg Daemon.peerCtx ((handlePeerRequest_frame _ _ _ _).state d₁) :)
    rw [hframe, hd₁ctx]
  have hanswer : sends o.trace = (Received.answer ⟨turn, dg, source⟩).toList := by
    have hsends := sends_handlePeerRequest_of_index (peerBuffer dg) (min dg.size bufferSize) idx
      turn.reply d₁
    rw [hd₁ctx] at hsends
    rw [ho, hsends]
    unfold Received.answer
    -- the thread answers the accepted requests of clients, and nothing else
    by_cases haccepted : sizeofNtpPacket ≤ min dg.size bufferSize ∧
        HeaderAccepted (readHeader (peerBuffer dg)) ∧
          (readHeader (peerBuffer dg)).mode = ntpModeClient
    · rw [if_pos haccepted, if_pos ⟨haccepted.1, haccepted.2.1, haccepted.2.2, rfl⟩]
      rfl
    · rw [if_neg haccepted, if_neg fun h => haccepted ⟨h.1, h.2.1, h.2.2.1⟩]
      rfl
  refine ⟨{ s₁ with daemon := o.state }, ⟨by rw [hctx], ?_⟩, ?_⟩
  · show (Function.update s.sockets idx _ idx).clientAddrLen = _
    rw [Function.update_self]
  · rw [peerThreadLoop, hrunning, if_pos rfl, hrecv, bind_run, recvfrom_ok]
    dsimp only
    rw [bind_run, bind_run]
    show peerSends ([.recvfrom _] ++ ([] ++ (o.trace.map .daemon ++ _))) = _
    rw [peerSends_append, List.nil_append, peerSends_append, peerSends_daemon, hanswer]
    rfl

end

/-! ### Runs -/

theorem receivedBy_cons {turn : PeerTurn} (turns : List PeerTurn) :
    receivedBy (turn :: turns) =
      if turn.goesOn then turn.received?.toList ++ receivedBy turns else [] := by
  unfold receivedBy
  rw [List.takeWhile_cons]
  split_ifs
  · rw [List.filterMap_cons]
    cases turn.received? <;> rfl
  · rfl

theorem filterMap_answer_cons (r : Received) (rs : List Received) :
    (r :: rs).filterMap Received.answer = r.answer.toList ++ rs.filterMap Received.answer := by
  rw [List.filterMap_cons]
  cases r.answer <;> rfl

/-- What a turn does that the loop goes on behind. -/
inductive TurnKind (turn : PeerTurn) : Prop
  | received (dg : Datagram) (addr : SockAddrIn) (h : turn.recvfrom = .ok (dg, addr))
  | again (e : Errno) (h : turn.recvfrom = .error e) (he : e.val = EAGAIN.val)

theorem PeerTurn.kind {turn : PeerTurn} (h : turn.goesOn = true) :
    turn.running = true ∧ TurnKind turn := by
  unfold goesOn at h
  obtain ⟨hrunning, hrecv⟩ := (Bool.and_eq_true _ _).mp h
  refine ⟨hrunning, ?_⟩
  cases hr : turn.recvfrom with
  | ok r => exact .received r.1 r.2 hr
  | error e =>
    rw [hr] at hrecv
    exact .again e hr (beq_iff_eq.mp hrecv)

/-- Once an address is stored, every reply goes where its request came from. -/
theorem sends_loop_stored (idx : Fin maxPeers) (turns : List PeerTurn) {s : PeerThreads}
    (hs : Serving idx sizeofSockAddrIn s) :
    peerSends (peerThreadLoop idx turns s).trace =
      (receivedBy turns).filterMap Received.answer := by
  induction turns generalizing s with
  | nil => rfl
  | cons turn turns ih =>
    rw [receivedBy_cons]
    by_cases hgoes : turn.goesOn = true
    · obtain ⟨hrunning, hkind⟩ := turn.kind hgoes
      rw [if_pos hgoes]
      -- a datagram may be answered, a timeout is not, and the loop goes on after both
      cases hkind with
      | received dg addr hrecv =>
        obtain ⟨s', hs', hsends⟩ := sends_loop_received hrunning hrecv hs turns
        rw [hsends, ih hs', if_pos (le_refl sizeofSockAddrIn), PeerTurn.received?, hrecv]
        exact (filterMap_answer_cons _ _).symm
      | again e hrecv he =>
        obtain ⟨s', hs', -, hsends⟩ := sends_loop_again hrunning hrecv he hs turns
        rw [hsends, ih hs', PeerTurn.received?, hrecv]
        rfl
    · rw [Bool.not_eq_true] at hgoes
      rw [sends_loop_ended hgoes, hgoes]
      rfl

/-- A first datagram that seems to come from `addr`. -/
def firstFrom (addr : SockAddrIn) (rs : List Received) : List Received :=
  rs.modifyHead fun r => { r with source := addr }

/-- Until an address is stored, a reply goes to the address that the context holds. -/
theorem sends_loop_unstored (idx : Fin maxPeers) (turns : List PeerTurn) {s : PeerThreads}
    (hs : Serving idx 0 s) :
    peerSends (peerThreadLoop idx turns s).trace =
      (firstFrom (s.daemon.peerCtx idx).clientAddr (receivedBy turns)).filterMap
        Received.answer := by
  induction turns generalizing s with
  | nil => rfl
  | cons turn turns ih =>
    rw [receivedBy_cons]
    by_cases hgoes : turn.goesOn = true
    · obtain ⟨hrunning, hkind⟩ := turn.kind hgoes
      rw [if_pos hgoes]
      -- a datagram ends the first stretch, a timeout prolongs it
      cases hkind with
      | received dg addr hrecv =>
        obtain ⟨s', hs', hsends⟩ := sends_loop_received hrunning hrecv hs turns
        rw [hsends, sends_loop_stored idx turns hs', if_neg (by decide), PeerTurn.received?, hrecv]
        exact (filterMap_answer_cons _ _).symm
      | again e hrecv he =>
        obtain ⟨s', hs', haddr, hsends⟩ := sends_loop_again hrunning hrecv he hs turns
        rw [hsends, ih hs', haddr, PeerTurn.received?, hrecv]
        rfl
    · rw [Bool.not_eq_true] at hgoes
      rw [sends_loop_ended hgoes, hgoes]
      rfl

/-- **Every request but the first is answered where it came from**: over any run of a thread from
the start of its context, the replies are those of the requests, in order, but the one to the first
datagram goes to the address `0.0.0.0:0`. -/
theorem sends_peerThread (idx : Fin maxPeers) (sockFd : ℤ) (turns : List PeerTurn)
    (s : PeerThreads) :
    peerSends ((do
      let _ ← peerThreadInit sockFd idx true
      peerThreadMain idx turns) s).trace =
        (firstFrom ⟨0, 0⟩ (receivedBy turns)).filterMap Received.answer := by
  -- what the loop starts from
  set ctx := Function.update s.daemon.peerCtx idx ⟨false, ⟨0, 0⟩⟩
  set s' : PeerThreads :=
    { daemon := { s.daemon with
        peerCtx := Function.update ctx idx { ctx idx with sockValid := true } }
      sockets := Function.update (Function.update s.sockets idx ⟨sockFd, 0⟩) idx
        { Function.update s.sockets idx ⟨sockFd, 0⟩ idx with
          sockFd := (Function.update s.sockets idx ⟨sockFd, 0⟩ idx).sockFd }
      running := Function.update s.running idx true } with hs'
  have hserving : Serving idx 0 s' := ⟨by simp [hs'], by simp [hs']⟩
  have haddr : (s'.daemon.peerCtx idx).clientAddr = ⟨0, 0⟩ := by simp [hs', ctx]
  have hloop := sends_loop_unstored idx turns hserving
  rw [haddr] at hloop
  exact hloop

/-! ### What is closed at the end -/

/-- The descriptors that a trace closes. -/
def closes (tr : List PeerCall) : List ℤ :=
  tr.filterMap fun c => match c with
    | .close sock => some sock
    | _ => none

@[simp] theorem closes_nil : closes [] = [] := rfl

@[simp] theorem closes_append (tr tr' : List PeerCall) :
    closes (tr ++ tr') = closes tr ++ closes tr' :=
  List.filterMap_append

/-- The descriptor that is closed for an index: that of a context whose thread is not running. -/
def openSocket (s : PeerThreads) (idx : Fin maxPeers) : Option ℤ :=
  if s.running idx = true then none
  else if (s.sockets idx).sockFd ≥ 0 then some (s.sockets idx).sockFd else none

/-- `s'` is `s` but for the socket of a context. -/
structure AgreesBut (idx : Fin maxPeers) (s s' : PeerThreads) : Prop where
  daemon : s'.daemon = s.daemon
  running : s'.running = s.running
  sockets : ∀ j, j ≠ idx → s'.sockets j = s.sockets j

theorem AgreesBut.openSocket {idx j : Fin maxPeers} {s s' : PeerThreads} (h : AgreesBut idx s s')
    (hj : j ≠ idx) : openSocket s' j = openSocket s j := by
  unfold PeerThread.openSocket
  rw [h.running, h.sockets j hj]

theorem closePeerSocket_run (idx : Fin maxPeers) (s : PeerThreads) :
    let o := closePeerSocket idx s
    AgreesBut idx s o.state ∧ (o.state.sockets idx).sockFd < 0 ∧
      closes o.trace = if (s.sockets idx).sockFd ≥ 0 then [(s.sockets idx).sockFd] else [] := by
  unfold closePeerSocket
  rw [read_bind, ite_run]
  by_cases hfd : (s.sockets idx).sockFd ≥ 0
  · rw [if_pos hfd, if_pos hfd]
    refine ⟨⟨rfl, rfl, fun j hj => Function.update_of_ne hj _ _⟩, ?_, rfl⟩
    show (Function.update s.sockets idx { s.sockets idx with sockFd := -1 } idx).sockFd < 0
    rw [Function.update_self]
    exact neg_one_lt_zero
  · rw [if_neg hfd, if_neg hfd]
    exact ⟨⟨rfl, rfl, fun _ _ => rfl⟩, not_le.mp hfd, rfl⟩

/-- One context is cleaned up. -/
theorem cleanupPeer_run (idx : Fin maxPeers) (s : PeerThreads) :
    let o := cleanupPeer idx s
    AgreesBut idx s o.state ∧ openSocket o.state idx = none ∧
      closes o.trace = (openSocket s idx).toList := by
  have hopen : openSocket s idx = if s.running idx = true then none
    else if (s.sockets idx).sockFd ≥ 0 then some (s.sockets idx).sockFd else none := rfl
  unfold cleanupPeer
  rw [read_bind, ite_run]
  -- a thread that runs is left to itself
  by_cases hrunning : s.running idx = true
  · rw [if_pos hrunning, hopen, if_pos hrunning]
    exact ⟨⟨rfl, rfl, fun _ _ => rfl⟩, hopen.trans (if_pos hrunning), rfl⟩
  · obtain ⟨hagrees, hfd, hcloses⟩ := closePeerSocket_run idx s
    rw [if_neg hrunning, hopen, if_neg hrunning]
    refine ⟨hagrees, ?_, ?_⟩
    · show openSocket (closePeerSocket idx s).state idx = none
      unfold openSocket
      rw [hagrees.running, if_neg hrunning, if_neg (not_le.mpr hfd)]
    · show closes ((closePeerSocket idx s).trace ++ _) = _
      rw [closes_append, hcloses]
      split_ifs <;> rfl

/-- A list of contexts is cleaned up. -/
theorem cleanupPeers_run {l : List (Fin maxPeers)} (hl : l.Nodup) (s : PeerThreads) :
    let o := cleanupPeers l s
    o.state.daemon = s.daemon ∧ o.state.running = s.running ∧
      (∀ idx ∈ l, openSocket o.state idx = none) ∧
      (∀ idx ∉ l, o.state.sockets idx = s.sockets idx) ∧
      closes o.trace = l.filterMap (openSocket s) := by
  induction l generalizing s with
  | nil => exact ⟨rfl, rfl, nofun, fun _ _ => rfl, rfl⟩
  | cons idx rest ih =>
    obtain ⟨hnot, hrest⟩ := List.nodup_cons.mp hl
    obtain ⟨hagrees, hnone, hcloses⟩ := cleanupPeer_run idx s
    set s' := (cleanupPeer idx s).state
    obtain ⟨hdaemon, hrunning, hall, hkeep, hcloses'⟩ := ih hrest s'
    -- what the first turn leaves is untouched by the others, since no index comes twice
    have hopen : ∀ j ∈ rest, openSocket s' j = openSocket s j := fun j hj =>
      hagrees.openSocket fun h => hnot (h ▸ hj)
    refine ⟨hdaemon.trans hagrees.daemon, hrunning.trans hagrees.running, ?_, ?_, ?_⟩
    · refine List.forall_mem_cons.mpr ⟨?_, hall⟩
      show openSocket (cleanupPeers rest s').state idx = none
      unfold openSocket
      rw [hrunning, hkeep idx hnot]
      exact hnone
    · intro j hj
      rw [List.mem_cons, not_or] at hj
      exact (hkeep j hj.2).trans (hagrees.sockets j hj.1)
    · show closes ((cleanupPeer idx s).trace ++ (cleanupPeers rest s').trace) = _
      rw [closes_append, hcloses, hcloses', List.filterMap_congr hopen, List.filterMap_cons]
      cases openSocket s idx <;> rfl

theorem stopPeer_run (idx : Fin maxPeers) (s : PeerThreads) :
    let o := stopPeer idx s
    o.state.daemon = s.daemon ∧ o.state.sockets = s.sockets ∧ o.state.running idx = false ∧
      (∀ j, j ≠ idx → o.state.running j = s.running j) ∧ closes o.trace = [] := by
  unfold stopPeer
  rw [read_bind, ite_run]
  by_cases hrunning : s.running idx = true
  · rw [if_pos hrunning]
    exact ⟨rfl, rfl, Function.update_self _ _ _, fun j hj => Function.update_of_ne hj _ _, rfl⟩
  · rw [if_neg hrunning]
    exact ⟨rfl, rfl, Bool.not_eq_true _ ▸ hrunning, fun _ _ => rfl, rfl⟩

/-- The running threads of a list are stopped. -/
theorem stopPeers_run (l : List (Fin maxPeers)) (s : PeerThreads) :
    let o := stopPeers l s
    o.state.daemon = s.daemon ∧ o.state.sockets = s.sockets ∧
      (∀ idx ∈ l, o.state.running idx = false) ∧ closes o.trace = [] := by
  induction l generalizing s with
  | nil => exact ⟨rfl, rfl, nofun, rfl⟩
  | cons idx rest ih =>
    -- no later turn starts the thread again
    have hkept : ∀ (l : List (Fin maxPeers)) s, s.running idx = false →
        (stopPeers l s).state.running idx = false := by
      intro l
      induction l with
      | nil => exact fun _ h => h
      | cons j l ihl =>
        intro s h
        refine ihl _ ?_
        obtain ⟨-, -, hstopped, hother, -⟩ := stopPeer_run j s
        by_cases hj : idx = j
        · rw [hj]
          exact hstopped
        · rw [hother idx hj, h]
    obtain ⟨hdaemon, hsockets, hstopped, -, hcloses⟩ := stopPeer_run idx s
    obtain ⟨hdaemon', hsockets', hall, hcloses'⟩ := ih (stopPeer idx s).state
    refine ⟨hdaemon'.trans hdaemon, hsockets'.trans hsockets, ?_, ?_⟩
    · exact List.forall_mem_cons.mpr ⟨hkept rest _ hstopped, hall⟩
    · show closes ((stopPeer idx s).trace ++ (stopPeers rest _).trace) = []
      rw [closes_append, hcloses, hcloses']
      rfl

/-- The descriptor in a context, if there is one. -/
def socketOf (s : PeerThreads) (idx : Fin maxPeers) : Option ℤ :=
  if (s.sockets idx).sockFd ≥ 0 then some (s.sockets idx).sockFd else none

theorem openSocket_of_stopped {s : PeerThreads} {idx : Fin maxPeers}
    (h : s.running idx = false) : openSocket s idx = socketOf s idx := by
  unfold openSocket
  rw [h, if_neg Bool.false_ne_true]
  rfl

/-- What `cleanup_resources` does to the peer threads. -/
def shutdownPeers : PeerProc Unit := do
  stopPeerThread
  cleanupPeerThread

/-- The threads of the pool are stopped and their sockets closed; nothing is left to close. -/
theorem shutdownPeers_run (s : PeerThreads) :
    let o := shutdownPeers s
    o.state.daemon = s.daemon ∧ (∀ idx ∈ poolIndices s, socketOf o.state idx = none) ∧
      closes o.trace = (poolIndices s).filterMap (socketOf s) := by
  -- the threads are stopped first, and their sockets closed in a second loop
  obtain ⟨hdaemon, hsockets, hstopped, hcloses⟩ := stopPeers_run (poolIndices s) s
  set s' := (stopPeers (poolIndices s) s).state with hs'
  have hpool : poolIndices s' = poolIndices s := by
    unfold poolIndices
    rw [hdaemon]
  have hnodup : (poolIndices s).Nodup := (List.nodup_finRange _).sublist (List.take_sublist _ _)
  obtain ⟨hdaemon', hrunning, hnone, -, hcloses'⟩ := cleanupPeers_run hnodup s'
  have hrun : shutdownPeers s =
      ⟨(cleanupPeers (poolIndices s) s').ret, (cleanupPeers (poolIndices s) s').state,
        (stopPeers (poolIndices s) s).trace ++ (cleanupPeers (poolIndices s) s').trace⟩ := by
    show Outcome.mk (cleanupPeers (poolIndices s') s').ret (cleanupPeers (poolIndices s') s').state
      (_ ++ (cleanupPeers (poolIndices s') s').trace) = _
    rw [hpool]
    rfl
  rw [hrun]
  refine ⟨hdaemon'.trans hdaemon, fun idx hidx => ?_, ?_⟩
  · rw [← openSocket_of_stopped (by rw [hrunning, hstopped idx hidx])]
    exact hnone idx hidx
  · -- a stopped thread has its socket open until the second loop
    rw [closes_append, hcloses, hcloses', List.nil_append]
    refine List.filterMap_congr fun idx hidx => ?_
    rw [openSocket_of_stopped (hstopped idx hidx)]
    unfold socketOf
    rw [hsockets]

/-- The peer threads at program start. -/
def PeerThreads.init (d : Daemon) : PeerThreads := ⟨d, fun _ => PeerSocket.zero, fun _ => false⟩

/-- The thread of `main` on the socket `sockFd`, and two runs of the clean-up. -/
def runPeerThread (sockFd : ℤ) : PeerProc Unit := do
  let _ ← startPeerThread sockFd (some "0.0.0.0".toList) (some "123".toList) 0 ⟨true, true, true⟩
  shutdownPeers
  shutdownPeers

/-- The index of that thread. -/
def firstPeer : Fin maxPeers := ⟨0, by decide⟩

theorem startPeerThread_run {sockFd : ℤ} (hfd : 0 ≤ sockFd) (d : Daemon) :
    let o := startPeerThread sockFd (some "0.0.0.0".toList) (some "123".toList) 0
      ⟨true, true, true⟩ (PeerThreads.init d)
    o.state.daemon.peerPool = d.peerPool ∧ socketOf o.state firstPeer = some sockFd ∧
      (∀ idx, idx ≠ firstPeer → socketOf o.state idx = some 0) ∧ closes o.trace = [] := by
  have hparams : ¬ (sockFd < 0 ∨ some "0.0.0.0".toList = none ∨ some "123".toList = none ∨
      (0 : ℤ) < 0 ∨ (0 : ℤ) ≥ maxPeers) := by
    rintro (h | h | h | h | h)
    · exact absurd hfd (not_le.mpr h)
    · exact Option.some_ne_none _ h
    · exact Option.some_ne_none _ h
    · exact lt_irrefl _ h
    · exact absurd h (by decide)
  intro o
  have ho : o.state.sockets = Function.update
      (Function.update (fun _ => PeerSocket.zero) firstPeer ⟨sockFd, 0⟩) firstPeer
        { Function.update (fun _ => PeerSocket.zero) firstPeer ⟨sockFd, 0⟩ firstPeer with
          sockFd := sockFd } ∧ o.state.daemon.peerPool = d.peerPool ∧ closes o.trace = [] := by
    unfold o startPeerThread
    rw [dif_neg hparams]
    exact ⟨rfl, rfl, rfl⟩
  obtain ⟨hsockets, hpool, hcloses⟩ := ho
  refine ⟨hpool, ?_, fun idx hidx => ?_, hcloses⟩
  · unfold socketOf
    rw [hsockets, Function.update_self]
    exact if_pos hfd
  · unfold socketOf
    rw [hsockets, Function.update_of_ne hidx, Function.update_of_ne hidx]
    rfl

/-- **The clean-up closes what it does not own**: besides the socket of the one thread that `main`
starts, it closes descriptor 0 for every other server of the pool; a second clean-up closes
nothing. -/
theorem closes_runPeerThread {d : Daemon} (hpool : d.peerPool ≠ []) {sockFd : ℤ}
    (hfd : 0 ≤ sockFd) :
    closes (runPeerThread sockFd (PeerThreads.init d)).trace =
      sockFd :: List.replicate (min maxPeers d.peerPool.length - 1) 0 := by
  -- the thread is started once and shut down twice
  obtain ⟨hpeerPool, hfirst, hrest, hcloses⟩ := startPeerThread_run hfd d
  set s₁ := (startPeerThread sockFd (some "0.0.0.0".toList) (some "123".toList) 0
    ⟨true, true, true⟩ (PeerThreads.init d)).state
  obtain ⟨hdaemon, hnone, hcloses₁⟩ := shutdownPeers_run s₁
  set s₂ := (shutdownPeers s₁).state
  obtain ⟨-, -, hcloses₂⟩ := shutdownPeers_run s₂
  have hpool₂ : poolIndices s₂ = poolIndices s₁ := by
    unfold poolIndices
    rw [hdaemon]
  have hsecond : closes (shutdownPeers s₂).trace = [] := by
    rw [hcloses₂, hpool₂]
    exact List.filterMap_eq_nil_iff.mpr hnone
  have hrun : (runPeerThread sockFd (PeerThreads.init d)).trace =
      (startPeerThread sockFd (some "0.0.0.0".toList) (some "123".toList) 0
        ⟨true, true, true⟩ (PeerThreads.init d)).trace ++
          ((shutdownPeers s₁).trace ++ (shutdownPeers s₂).trace) := rfl
  rw [hrun, closes_append, closes_append, hcloses, hsecond, hcloses₁, List.append_nil,
    List.nil_append]
  -- the pool is the first index and others
  obtain ⟨n, hn⟩ : ∃ n, d.peerPool.length = n + 1 :=
    Nat.exists_eq_succ_of_ne_zero (mt List.length_eq_zero_iff.mp hpool)
  set rest := (List.finRange maxPeers).tail.take n with hrestdef
  have hindices : poolIndices s₁ = firstPeer :: rest := by
    unfold poolIndices
    rw [hpeerPool, hn]
    rfl
  have hnodup : (firstPeer :: (List.finRange maxPeers).tail).Nodup := List.nodup_finRange maxPeers
  -- the contexts that were never started have the descriptor 0
  have hzero : ∀ idx ∈ rest, socketOf s₁ idx = some 0 := fun idx hidx =>
    hrest idx fun h => (List.nodup_cons.mp hnodup).1 (h ▸ List.mem_of_mem_take hidx)
  have hlength : rest.length = min maxPeers (n + 1) - 1 := by
    rw [hrestdef, List.length_take]
    show min n 7 = min 8 (n + 1) - 1
    omega
  rw [hindices, List.filterMap_cons_some hfirst, List.filterMap_congr hzero, hn, ← hlength]
  refine congrArg _ ?_
  exact List.eq_replicate_iff.mpr ⟨by simp, by simp⟩

/-- A daemon with three servers. -/
def pooledDaemon : Daemon :=
  let peer : PeerState := ⟨"10.0.0.1".toList, "123".toList, 16, 0, 0, 0, 0, 0, false⟩
  { Daemon.init with peerPool := [peer, peer, peer] }

theorem closes_pooledDaemon :
    closes (runPeerThread 5 (PeerThreads.init pooledDaemon)).trace = [5, 0, 0] :=
  closes_runPeerThread (List.cons_ne_nil _ _) (by decide)

end PeerThread

end Dntpd
