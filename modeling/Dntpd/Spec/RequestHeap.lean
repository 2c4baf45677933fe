import Dntpd.Initial
import Dntpd.Library.Lifecycle
import Dntpd.RequestHeap

/-!
# A request is never freed once

`handle_client_request` frees the `PeerRequestData` as soon as its thread is detached, and the
thread goes on to use it.  A thread that refuses its request or answers it frees both objects at its
end, and a thread that returns in between frees neither.  So in no interleaving of the two is each
object freed once: either the data are freed twice, or the buffer is never freed
(`requestHeap_frees`).  The failures in front of the thread release what they have to.
-/

namespace Dntpd

open Proc Lifecycle

/-! ### Operations -/

/-- The operation of a call on the objects. -/
def HeapCall.op? : HeapCall → Option (Op HeapObject)
  | malloc o ok => if ok then some (.init o) else none
  | use o => some (.use o)
  | free o => some (.destroy o)

/-- The operations of a trace. -/
def heapOps (tr : List HeapCall) : List (Op HeapObject) := tr.filterMap HeapCall.op?

@[simp] theorem heapOps_append (tr tr' : List HeapCall) :
    heapOps (tr ++ tr') = heapOps tr ++ heapOps tr' :=
  List.filterMap_append

def HeapCall.IsUse : HeapCall → Prop
  | use _ => True
  | _ => False

namespace RequestHeap

/-! ### The model -/

theorem onDaemon_agrees {α : Type} (p : DProc α) : Agrees (onDaemon p) p := fun _ => ⟨rfl, rfl⟩

theorem admitRequest_agrees (buffer : Mem) (size : ℕ) (ip : CString) (pkt : NtpHeader)
    (env : RequestEnv) :
    Agrees (admitRequest buffer size ip pkt env) (Dntpd.admitRequest buffer size ip pkt env) := by
  unfold admitRequest Dntpd.admitRequest
  refine .ite (.pure _) (.emit_bind (.bind (onDaemon_agrees _) fun auth => ?_))
  refine .ite (.pure _) (.bind (onDaemon_agrees _) fun control => .ite (.pure _) (.emit_bind ?_))
  refine .bind (onDaemon_agrees _) fun acl => .ite (.pure _) (.emit_bind ?_)
  refine .bind (onDaemon_agrees _) fun rate => .ite (.pure _) (.bind .read fun d => ?_)
  cases responseModeFor d.cli.broadcastMode pkt.mode with
  | none => exact .pure _
  | some responseMode => exact .bind (onDaemon_agrees _) fun _ => .pure _

theorem deliverResponse_agrees (responseMode : UInt8) (ip port : CString) (response : List UInt8)
    (env : RequestEnv) : Agrees (deliverResponse responseMode ip port response env)
      (Dntpd.deliverResponse responseMode ip port response env) := by
  unfold deliverResponse Dntpd.deliverResponse
  refine .emit_bind (.bind (onDaemon_agrees _) fun _ => ?_)
  cases parsePort port with
  | none => exact fun _ => ⟨rfl, rfl⟩
  | some portNumber =>
    refine .emit_bind ?_
    rw [Option.bind_some]
    cases network4ParseAddress ip portNumber with
    | none => exact fun _ => ⟨rfl, rfl⟩
    | some clientAddr =>
      refine .bind (onDaemon_agrees _) fun sock => .ite (.pure _) ?_
      refine .bind (onDaemon_agrees _) fun sent => ?_
      refine .bind (onDaemon_agrees _) fun _ => .ite (.pure _) ?_
      split_ifs with hmode
      · exact .bind (onDaemon_agrees _) fun _ => .emit_bind fun _ => ⟨rfl, rfl⟩
      · exact .emit_bind fun _ => ⟨rfl, rfl⟩

/-- What the thread does to the daemon is that of the model. -/
theorem handlePeerRequestThread_agrees (buffer : Mem) (size : ℕ) (ip port : CString)
    (env : RequestEnv) : Agrees (handlePeerRequestThread buffer size ip port env)
      (Dntpd.handlePeerRequestThread ⟨some buffer, size, ip, port⟩ env) := by
  have hrelease : Agrees release (pure () : DProc Unit) := fun _ => ⟨rfl, rfl⟩
  have hsend : ∀ responseMode pkt, Agrees (sendResponse responseMode ip port pkt env)
      (Dntpd.sendResponse responseMode ip port pkt env) := by
    -- the model takes `g_mutex` around the section that reads the globals
    intro responseMode pkt d
    have hread : ∀ clock, Agrees (onDaemon (readTimestampNow clock)) (readTimestampNow clock) :=
      fun _ => onDaemon_agrees _
    have hrest : ∀ t2, Agrees (do
        let d ← Proc.read
        let stratum ← onDaemon modeGetDefaultStratum
        let refId ← onDaemon modeGetDefaultRefId
        let li ← onDaemon modeGetDefaultLi
        let t3 ← onDaemon (readTimestampNow env.t3Clock)
        deliverResponse responseMode ip port
          (peerResponse d.g responseMode li stratum refId pkt t2 t3) env)
        (do
          lock .gMutex
          let d ← Proc.read
          let stratum ← modeGetDefaultStratum
          let refId ← modeGetDefaultRefId
          let li ← modeGetDefaultLi
          unlock .gMutex
          let t3 ← readTimestampNow env.t3Clock
          Dntpd.deliverResponse responseMode ip port
            (peerResponse d.g responseMode li stratum refId pkt t2 t3) env) := fun t2 d =>
      Agrees.bind (hread env.t3Clock) (fun t3 => deliverResponse_agrees _ _ _ _ _) d
    exact Agrees.bind (hread env.t2Clock) hrest d
  have hanswer : ∀ responseMode pkt, Agrees (answerRequest responseMode ip port pkt env) (do
      if ntpIsKod pkt then pure ()
      else
        let skip ← handleLeapIndicator pkt.li env.leapSchedule
        if skip then pure () else Dntpd.sendResponse responseMode ip port pkt env) := by
    intro responseMode pkt
    exact .ite (fun _ => ⟨rfl, rfl⟩)
      (.bind (onDaemon_agrees _) fun skip => .ite (.pure _) (hsend _ _))
  -- the releases are at the exits, and between them the two functions make the same calls
  unfold handlePeerRequestThread Dntpd.handlePeerRequestThread
  refine .emit_bind (.ite hrelease (.ite hrelease (.emit_bind (.bind .read fun d => ?_))))
  refine .bind (.update _) fun _ => .ite hrelease ?_
  refine .bind (admitRequest_agrees _ _ _ _ _) fun mode => ?_
  cases mode with
  | none => exact hrelease
  | some responseMode => exact hanswer _ _

/-! ### What the thread frees -/

/-- A procedure that uses the objects only. -/
abbrev UsesOnly {α : Type} (p : HeapProc α) : Prop := Frame (fun _ => ()) HeapCall.IsUse p

theorem onDaemon_usesOnly {α : Type} (p : DProc α) : UsesOnly (onDaemon p) :=
  ⟨fun _ => rfl, fun _ _ he => absurd he List.not_mem_nil⟩

/-- What a thread frees: nothing, or both objects at its end. -/
inductive Frees : List HeapCall → Prop
  | neither : Frees []
  | both : Frees [.free .buffer, .free .data]

/-- The trace uses the objects, and frees both of them at its end or neither. -/
def EndsIn (tail tr : List HeapCall) : Prop := ∃ uses, (∀ c ∈ uses, c.IsUse) ∧ tr = uses ++ tail

/-- From every state the procedure frees both objects at its end or neither. -/
def FreesAtEnd (p : HeapProc Unit) : Prop :=
  ∀ d, ∃ tail, Frees tail ∧ EndsIn tail (p d).trace

theorem UsesOnly.freesAtEnd {p : HeapProc Unit} (hp : UsesOnly p) : FreesAtEnd p := fun d =>
  ⟨[], .neither, _, hp.trace d, (List.append_nil _).symm⟩

theorem release_freesAtEnd : FreesAtEnd release := fun _ =>
  ⟨_, .both, [.use .data], by rintro c hc; rw [List.mem_singleton.mp hc]; trivial, rfl⟩

theorem FreesAtEnd.bind {α : Type} {p : HeapProc α} {f : α → HeapProc Unit} (hp : UsesOnly p)
    (hf : ∀ a, FreesAtEnd (f a)) : FreesAtEnd (p >>= f) := by
  intro d
  obtain ⟨tail, htail, uses, huses, htr⟩ := hf (p d).ret (p d).state
  refine ⟨tail, htail, (p d).trace ++ uses, ?_, ?_⟩
  · exact List.forall_mem_append.mpr ⟨hp.trace d, huses⟩
  · rw [bind_trace, htr, List.append_assoc]

theorem FreesAtEnd.ite {c : Prop} [Decidable c] {p q : HeapProc Unit} (hp : FreesAtEnd p)
    (hq : FreesAtEnd q) : FreesAtEnd (if c then p else q) := by
  split_ifs
  · exact hp
  · exact hq

theorem admitRequest_usesOnly (buffer : Mem) (size : ℕ) (ip : CString) (pkt : NtpHeader)
    (env : RequestEnv) : UsesOnly (admitRequest buffer size ip pkt env) := by
  refine .ite (.pure _) (.bind (.emit trivial) fun _ => .bind (onDaemon_usesOnly _) fun auth => ?_)
  refine .ite (.pure _) (.bind (onDaemon_usesOnly _) fun control => .ite (.pure _) ?_)
  refine .bind (.emit trivial) fun _ => .bind (onDaemon_usesOnly _) fun acl => .ite (.pure _) ?_
  refine .bind (.emit trivial) fun _ => .bind (onDaemon_usesOnly _) fun rate => .ite (.pure _) ?_
  refine .bind .read fun d => ?_
  cases responseModeFor d.cli.broadcastMode pkt.mode with
  | none => exact .pure _
  | some responseMode => exact .bind (onDaemon_usesOnly _) fun _ => .pure _

theorem deliverResponse_freesAtEnd (responseMode : UInt8) (ip port : CString)
    (response : List UInt8) (env : RequestEnv) :
    FreesAtEnd (deliverResponse responseMode ip port response env) := by
  have huse : UsesOnly (use .data) := .emit trivial
  have hend : FreesAtEnd (do
      use .data
      onDaemon (Proc.update fun d =>
        { d with mode := rateLimitUpdate d.mode (some ip) env.rateUpdateTime })
      use .data
      release) :=
    .bind huse fun _ => .bind (onDaemon_usesOnly _) fun _ => .bind huse fun _ => release_freesAtEnd
  have hnothing : FreesAtEnd (pure ()) := UsesOnly.freesAtEnd (.pure _)
  unfold deliverResponse
  refine .bind huse fun _ => .bind (onDaemon_usesOnly _) fun _ => ?_
  -- the exits without an address or a socket release nothing
  cases parsePort port with
  | none => exact UsesOnly.freesAtEnd huse
  | some portNumber =>
    refine .bind huse fun _ => ?_
    cases network4ParseAddress ip portNumber with
    | none => exact UsesOnly.freesAtEnd huse
    | some clientAddr =>
      refine .bind (onDaemon_usesOnly _) fun sock => .ite hnothing ?_
      refine .bind (onDaemon_usesOnly _) fun sent => .bind (onDaemon_usesOnly _) fun _ => ?_
      refine .ite hnothing (.ite ?_ hend)
      exact .bind (onDaemon_usesOnly _) fun _ => hend

theorem handlePeerRequestThread_freesAtEnd (buffer : Mem) (size : ℕ) (ip port : CString)
    (env : RequestEnv) : FreesAtEnd (handlePeerRequestThread buffer size ip port env) := by
  have hsend : ∀ responseMode pkt, FreesAtEnd (sendResponse responseMode ip port pkt env) := by
    intro responseMode pkt
    refine .bind (onDaemon_usesOnly _) fun t2 => .bind .read fun d => ?_
    refine .bind (onDaemon_usesOnly _) fun stratum => .bind (onDaemon_usesOnly _) fun refId => ?_
    refine .bind (onDaemon_usesOnly _) fun li => .bind (onDaemon_usesOnly _) fun t3 => ?_
    exact deliverResponse_freesAtEnd _ _ _ _ _
  have hanswer : ∀ responseMode pkt, FreesAtEnd (answerRequest responseMode ip port pkt env) := by
    intro responseMode pkt
    refine .ite (UsesOnly.freesAtEnd (.emit trivial)) (.bind (onDaemon_usesOnly _) fun skip => ?_)
    exact .ite (UsesOnly.freesAtEnd (.pure _)) (hsend _ _)
  unfold handlePeerRequestThread
  refine .bind (.emit trivial) fun _ => .ite release_freesAtEnd (.ite release_freesAtEnd ?_)
  refine .bind (.emit trivial) fun _ => .bind .read fun d => ?_
  refine .bind (.update fun _ => rfl) fun _ => ?_
  refine .ite release_freesAtEnd (.bind (admitRequest_usesOnly _ _ _ _ _) fun mode => ?_)
  cases mode with
  | none => exact release_freesAtEnd
  | some responseMode => exact hanswer _ _

/-! ### A request and its thread -/

/-- The run of a request whose thread has made `k` steps of its trace when `handle_client_request`
frees the data. -/
def requestTrace (env : ClientRequestEnv) (thread : List HeapCall) (k : ℕ) (d : Daemon) :
    List HeapCall :=
  let o := startRequest env d
  if o.ret then o.trace ++ (thread.take k ++ .free .data :: thread.drop k) else o.trace

/-- Both objects are there, or not. -/
def noObjects : HeapObject → Life := fun _ => .uninitialised
def bothObjects : HeapObject → Life := fun _ => .initialised

/-- What is used or freed is there. -/
def MemorySafe (tr : List HeapCall) : Prop := OnLive (fun op => ¬ op.IsInit) (heapOps tr) noObjects

/-- What is allocated has been freed at the end. -/
def LeaksNothing (tr : List HeapCall) : Prop := ∀ o, after (heapOps tr) noObjects o ≠ .initialised

theorem startRequest_started {env : ClientRequestEnv} {d : Daemon}
    (h : (startRequest env d).ret = true) :
    (startRequest env d).trace = [.malloc .data true, .use .data, .malloc .buffer true, .use .data,
      .use .buffer, .use .data] := by
  obtain ⟨mallocData, mallocBuffer, create⟩ := env
  cases mallocData with
  | false => exact absurd h Bool.false_ne_true
  | true =>
    cases mallocBuffer with
    | false => exact absurd h Bool.false_ne_true
    | true =>
      cases create with
      | false => exact absurd h Bool.false_ne_true
      | true => rfl

/-- The failures release what was allocated. -/
theorem startRequest_failed {env : ClientRequestEnv} {d : Daemon}
    (h : (startRequest env d).ret = false) :
    MemorySafe (startRequest env d).trace ∧ LeaksNothing (startRequest env d).trace := by
  obtain ⟨mallocData, mallocBuffer, create⟩ := env
  have hends : ∀ tr : List HeapCall, OnLive (fun op => ¬ op.IsInit) (heapOps tr) noObjects →
      (after (heapOps tr) noObjects .data ≠ .initialised ∧
        after (heapOps tr) noObjects .buffer ≠ .initialised) → MemorySafe tr ∧ LeaksNothing tr :=
    fun tr hsafe hfreed => ⟨hsafe, fun o => by cases o <;> [exact hfreed.1; exact hfreed.2]⟩
  -- the allocation that fails, or the thread that is not created, decides what is released
  cases mallocData with
  | false => exact hends [.malloc .data false] trivial ⟨nofun, nofun⟩
  | true =>
    cases mallocBuffer with
    | false =>
      refine hends [.malloc .data true, .use .data, .malloc .buffer false, .use .data, .free .data]
        ?_ ⟨nofun, nofun⟩
      exact ⟨fun h => absurd trivial h, fun _ => rfl, fun _ => rfl, fun _ => rfl, trivial⟩
    | true =>
      cases create with
      | false =>
        refine hends [.malloc .data true, .use .data, .malloc .buffer true, .use .data,
          .use .buffer, .use .data, .use .data, .free .buffer, .free .data] ?_ ⟨nofun, nofun⟩
        exact ⟨fun h => absurd trivial h, fun _ => rfl, fun h => absurd trivial h, fun _ => rfl,
          fun _ => rfl, fun _ => rfl, fun _ => rfl, fun _ => rfl, fun _ => rfl, trivial⟩
      | true => exact absurd h.symm Bool.false_ne_true

/-! ### Interleavings -/

/-- What the thread does, none of which is an allocation. -/
theorem Frees.not_isInit {tail : List HeapCall} (h : Frees tail) :
    ∀ op ∈ heapOps tail, ¬ op.IsInit := by
  cases h with
  | neither => exact nofun
  | both =>
    intro op hop
    rcases List.mem_cons.mp hop with rfl | hop
    · exact id
    · rw [List.mem_singleton.mp hop]
      exact id

theorem heapOps_uses {uses : List HeapCall} (huses : ∀ c ∈ uses, c.IsUse) :
    ∀ op ∈ heapOps uses, op.IsUse := by
  intro op hop
  obtain ⟨c, hc, hcop⟩ := List.mem_filterMap.mp hop
  have hcuse := huses c hc
  cases c with
  | use o =>
    obtain rfl := Option.some.inj hcop
    trivial
  | malloc o ok => exact hcuse.elim
  | free o => exact hcuse.elim

section

variable {thread before rest : List HeapCall}

/-- A thread in the middle of which the data are freed. -/
theorem count_interleaved (hthread : before ++ rest = thread) (c : HeapCall) :
    (before ++ .free .data :: rest).count c =
      thread.count c + if c = .free .data then 1 else 0 := by
  rw [← hthread, List.count_append, List.count_append, List.count_cons, ← add_assoc]
  exact congrArg _ (if_congr (beq_iff_eq.trans eq_comm) rfl rfl)

/-- A thread that frees nothing leaves the buffer, and is safe if it does not use the data any
more. -/
theorem interleaved_neither (huses : ∀ c ∈ thread, c.IsUse) (hthread : before ++ rest = thread) :
    (OnLive (fun op => ¬ op.IsInit) (heapOps (before ++ .free .data :: rest)) bothObjects ↔
        .use .data ∉ rest) ∧
      after (heapOps (before ++ .free .data :: rest)) bothObjects .buffer = .initialised := by
  rw [← hthread] at huses
  obtain ⟨hbefore, hrest⟩ := List.forall_mem_append.mp huses
  have hops : heapOps (before ++ .free .data :: rest) =
      heapOps before ++ .destroy .data :: heapOps rest := heapOps_append _ _
  -- nothing but the caller's release changes the state of an object
  have hfreed : after (heapOps before ++ .destroy .data :: heapOps rest) bothObjects =
      (Op.destroy HeapObject.data).apply bothObjects := by
    rw [after_append, after_of_forall_isUse (heapOps_uses hbefore)]
    exact after_of_forall_isUse (heapOps_uses hrest) _
  rw [hops, hfreed]
  refine ⟨?_, rfl⟩
  rw [onLive_append, after_of_forall_isUse (heapOps_uses hbefore), and_iff_right
    (onLive_of_forall_isUse (heapOps_uses hbefore) fun _ _ => rfl)]
  -- a use behind the caller's release is of a freed object
  constructor
  · rintro ⟨-, hlive⟩ huse
    have hdead : (Op.destroy HeapObject.data).apply bothObjects .data ≠ .initialised := nofun
    exact object_ne_of_onLive (fun op hop => (heapOps_uses hrest op hop).not_isInit) hdead hlive
      (.use .data) (List.mem_filterMap.mpr ⟨_, huse, rfl⟩) id rfl
  · intro huse
    refine ⟨fun _ => rfl, onLive_of_forall_isUse (heapOps_uses hrest) fun op hop => ?_⟩
    obtain ⟨c, hc, hcop⟩ := List.mem_filterMap.mp hop
    have hcuse := hrest c hc
    cases c with
    | use o =>
      obtain rfl := Option.some.inj hcop
      cases o with
      | data => exact absurd hc huse
      | buffer => rfl
    | malloc o ok => exact hcuse.elim
    | free o => exact hcuse.elim

/-- A thread that frees both objects frees the data once more. -/
theorem interleaved_both {uses : List HeapCall} (huses : ∀ c ∈ uses, c.IsUse)
    (hthread : before ++ rest = uses ++ [.free .buffer, .free .data]) :
    ¬ OnLive (fun op => ¬ op.IsInit) (heapOps (before ++ .free .data :: rest)) bothObjects := by
  have hthreadOps : ∀ op ∈ heapOps before ++ heapOps rest, ¬ op.IsInit := by
    rw [← heapOps_append, hthread, heapOps_append]
    exact List.forall_mem_append.mpr
      ⟨fun op hop => (heapOps_uses huses op hop).not_isInit, Frees.both.not_isInit⟩
  obtain ⟨hbefore, hrest⟩ := List.forall_mem_append.mp hthreadOps
  have hmem : .destroy .data ∈ heapOps before ++ heapOps rest := by
    rw [← heapOps_append, hthread, heapOps_append]
    exact List.mem_append_right _ (List.mem_cons_of_mem _ (List.mem_singleton_self _))
  have hops : heapOps (before ++ .free .data :: rest) =
      heapOps before ++ .destroy .data :: heapOps rest := heapOps_append _ _
  rw [hops, onLive_append]
  rintro ⟨-, hlive⟩
  rcases List.mem_append.mp hmem with hin | hin
  · exact after_ne_of_mem hbefore hin bothObjects (hlive.1 id)
  · have hdead : (Op.destroy HeapObject.data).apply (after (heapOps before) bothObjects) .data ≠
        .initialised := by
      rw [Op.destroy_apply, if_pos rfl]
      exact nofun
    exact object_ne_of_onLive hrest hdead hlive.2 (.destroy .data) hin id rfl

end

/-- **No request is freed once**: its memory is handled without an error and without a leak exactly
if its thread cannot be started.  If it is started, then in every interleaving the data are freed
twice, or the buffer is never freed and the run is safe only if the thread is done with the data
when they are freed. -/
theorem requestHeap_frees (env : ClientRequestEnv) (buffer : Mem) (size : ℕ) (ip port : CString)
    (threadEnv : RequestEnv) (d d' : Daemon) (k : ℕ) :
    let thread := (handlePeerRequestThread buffer size ip port threadEnv d').trace
    let run := requestTrace env thread k d
    (MemorySafe run ∧ LeaksNothing run ↔ (startRequest env d).ret = false) ∧
      ((startRequest env d).ret = true →
        (run.count (.free .data) = 2 ∧ run.count (.free .buffer) = 1 ∧ ¬ MemorySafe run) ∨
          (run.count (.free .data) = 1 ∧ run.count (.free .buffer) = 0 ∧
            (MemorySafe run ↔ .use .data ∉ thread.drop k))) := by
  intro thread run
  cases hstarted : (startRequest env d).ret with
  -- no thread runs, and the caller releases what it has allocated
  | false =>
    have hrun : run = (startRequest env d).trace :=
      if_neg (by rw [hstarted]; exact Bool.false_ne_true)
    rw [hrun]
    exact ⟨iff_of_true (startRequest_failed hstarted) rfl, fun h => absurd h Bool.false_ne_true⟩
  | true =>
    -- the calls of the thread, with the caller's release at some place among them
    set inter := thread.take k ++ .free .data :: thread.drop k with hinter
    have hrun : run = (startRequest env d).trace ++ inter := if_pos hstarted
    have hsplit : thread.take k ++ thread.drop k = thread := List.take_append_drop k thread
    rw [startRequest_started hstarted] at hrun
    -- the caller adds one release of the request, and none of the buffer
    have hcount : ∀ o, run.count (.free o) = thread.count (.free o) +
        if HeapCall.free o = .free .data then 1 else 0 := by
      intro o
      rw [hrun, List.count_append, hinter, count_interleaved hsplit]
      cases o <;> exact Nat.zero_add _
    have hafter : after (heapOps [.malloc .data true, .use .data, .malloc .buffer true, .use .data,
        .use .buffer, .use .data]) noObjects = bothObjects := by
      funext o
      cases o <;> rfl
    -- the allocations come first and leave both objects live
    have hsafe : MemorySafe run ↔ OnLive (fun op => ¬ op.IsInit) (heapOps inter) bothObjects := by
      unfold MemorySafe
      rw [hrun, heapOps_append, onLive_append, hafter]
      refine and_iff_right ⟨fun h => absurd trivial h, fun _ => rfl, fun h => absurd trivial h, ?_⟩
      exact ⟨fun _ => rfl, fun _ => rfl, fun _ => rfl, trivial⟩
    have hleaks : LeaksNothing run ↔ ∀ o, after (heapOps inter) bothObjects o ≠ .initialised := by
      unfold LeaksNothing
      rw [hrun, heapOps_append, after_append, hafter]
    -- the releases of the thread, if it makes any, are its last calls
    obtain ⟨tail, htail, uses, huses, hthread⟩ :=
      handlePeerRequestThread_freesAtEnd buffer size ip port threadEnv d'
    have hnot : ∀ o, uses.count (.free o) = 0 := fun o =>
      List.count_eq_zero.mpr fun hmem => huses _ hmem
    rw [hcount, hcount, hsafe, hleaks]
    have hthread' : thread = uses ++ tail := hthread
    cases htail with
    | neither =>
      -- it returned early: the buffer leaks
      rw [List.append_nil] at hthread'
      have huses' : ∀ c ∈ thread, c.IsUse := by rwa [hthread']
      obtain ⟨honLive, hbuffer⟩ := interleaved_neither huses' hsplit
      refine ⟨iff_of_false (fun h => h.2 .buffer hbuffer) nofun, fun _ => .inr ⟨?_, ?_, honLive⟩⟩
      · rw [hthread', hnot, if_pos rfl]
      · rw [hthread', hnot, if_neg (by decide)]
    | both =>
      -- it released both: the request is released a second time
      have hunsafe := interleaved_both huses (hsplit.trans hthread')
      refine ⟨iff_of_false (fun h => hunsafe h.1) nofun, fun _ => .inl ⟨?_, ?_, hunsafe⟩⟩
      · rw [hthread', List.count_append, hnot, if_pos rfl]
        rfl
      · rw [hthread', List.count_append, hnot, if_neg (by decide)]
        rfl

end RequestHeap

end Dntpd
