import Dntpd.Library.Run
import Dntpd.Spec.SyncMarks
import Dntpd.Spec.SyncReject
import Dntpd.SyncQueue

/-!
# Which attempts get past the originate-timestamp check

An attempt looks at one datagram only, the first in its socket (`getsPast_iff`).  So its own reply
gets it past the check exactly when nothing stands ahead of that reply; and a socket that holds a
leftover when an attempt starts holds one after each attempt to which something is delivered, so
none of these gets past (`not_getsPast_of_leftover`).
-/

namespace Dntpd

open Proc

/-! ### One attempt -/

/-- The datagram is the correct reply of a server to the request of the attempt. -/
structure IsReply (env : SyncEnv) (dg : Datagram) : Prop where
  size : 48 ≤ dg.size
  accepted : HeaderAccepted (readHeader dg.data)
  passes : PassesOrigin (ntpTimestampNow env.t1Clock) (readHeader dg.data)

namespace QueuedAttempt

/-- The attempt sends its request. -/
def Sent (a : QueuedAttempt) (c : SyncClient) : Prop :=
  (sendSyncRequest a.port (a.envIn c) c.daemon).ret.isSome = true

/-- The attempt with the marks of how far it gets. -/
def marks (a : QueuedAttempt) (c : SyncClient) : MarkedProc ℤ :=
  SyncMarks.syncNtpTime (some a.ip) (some a.port) (a.envIn c)

/-- The run of the attempt gets past the check of the originate timestamp. -/
def GetsPast (a : QueuedAttempt) (c : SyncClient) : Prop :=
  .pastOrigin ∈ (a.marks c c.daemon).trace

theorem sent_iff (a : QueuedAttempt) (c : SyncClient) :
    a.Sent c ↔ RequestSent a.port (a.envIn c) c.daemon := by
  obtain ⟨hsent, hunsent⟩ := sendSyncRequest_ret a.port (a.envIn c) c.daemon
  unfold Sent
  constructor
  · intro hsome
    by_contra hnot
    rw [hunsent hnot] at hsome
    cases hsome
  · intro hrequest
    obtain ⟨sock, hret⟩ := hsent hrequest
    rw [hret]
    rfl

theorem parse_ok_iff (env : SyncEnv) (dg : Datagram) (s : IdoState) :
    (env.parse dg s).ok = true ↔ 48 ≤ dg.size ∧ ntpIsKod env.stalePkt.toNtpHeader = false ∧
      HeaderAccepted (readHeader dg.data) := by
  unfold SyncEnv.parse
  rw [parseNtpPacket_ok_iff, le_min_iff]
  exact and_congr_left fun _ => and_iff_left (by decide)

/-- An attempt gets past the check exactly if the first datagram in its socket is its reply. -/
theorem getsPast_iff (a : QueuedAttempt) (c : SyncClient) :
    a.GetsPast c ↔ a.Sent c ∧ ntpIsKod a.env.stalePkt.toNtpHeader = false ∧
      ∃ dg ∈ (a.delivered c).head?, IsReply a.env dg := by
  have hheader : ∀ {dg : Datagram}, ((a.envIn c).parse dg c.daemon.ido).ok = true →
      (a.envIn c).header dg c.daemon.ido = readHeader dg.data :=
    fun hok => parseNtpPacket_toNtpHeader hok
  have hrecv : ∀ dg, (a.envIn c).recvfrom = .ok dg ↔ dg ∈ (a.delivered c).head? := by
    intro dg
    unfold envIn
    cases a.delivered c with
    | nil => simp
    | cons head rest => simp
  -- what the run received is the head of the queue
  refine (SyncMarks.pastOrigin_mem_iff a.ip a.port (a.envIn c) c.daemon).trans ?_
  rw [sent_iff]
  constructor
  · rintro ⟨dg, hreceived, hok, hpasses⟩
    obtain ⟨hsize, hkod, hacc⟩ := (parse_ok_iff _ _ _).mp hok
    rw [hheader hok] at hpasses
    exact ⟨hreceived.sent, hkod, dg, (hrecv dg).mp hreceived.datagram, hsize, hacc, hpasses⟩
  · rintro ⟨hsent, hkod, dg, hhead, hreply⟩
    have hok : ((a.envIn c).parse dg c.daemon.ido).ok = true :=
      (parse_ok_iff _ _ _).mpr ⟨hreply.size, hkod, hreply.accepted⟩
    have hnonempty : 0 < dg.size := lt_of_lt_of_le (by decide) hreply.size
    refine ⟨dg, ⟨hsent, (hrecv dg).mpr hhead, hnonempty⟩, hok, ?_⟩
    rw [hheader hok]
    exact hreply.passes

/-- An attempt does not get past the check if another datagram is the first in its socket. -/
theorem not_getsPast_of_head {a : QueuedAttempt} {c : SyncClient} {dg : Datagram}
    (hhead : (a.delivered c).head? = some dg) (hdg : ¬ IsReply a.env dg) : ¬ a.GetsPast c := by
  intro hpast
  obtain ⟨-, -, dg', hhead', hreply⟩ := (a.getsPast_iff c).mp hpast
  rw [hhead, Option.mem_some_iff] at hhead'
  exact hdg (hhead' ▸ hreply)

/-- The request is sent, and its own reply is delivered before the receive timeout. -/
def ReplyDelivered (a : QueuedAttempt) (c : SyncClient) : Prop :=
  a.Sent c ∧ ∃ dg ∈ a.arrivals, IsReply a.env dg

/-- A reply that is delivered in time gets its attempt past the check. -/
def ReplyGetsPast (a : QueuedAttempt) (c : SyncClient) : Prop := a.ReplyDelivered c → a.GetsPast c

/-- Nothing stands ahead of a reply that is delivered in time: the socket is empty when the attempt
starts, and the reply is the first datagram delivered to it.  The packet it is parsed into is not
the marker of a Kiss-o'-Death. -/
def Unobstructed (a : QueuedAttempt) (c : SyncClient) : Prop :=
  a.ReplyDelivered c → c.queue = [] ∧ (∃ dg ∈ a.arrivals.head?, IsReply a.env dg) ∧
    ntpIsKod a.env.stalePkt.toNtpHeader = false

/-- No leftover carries the transmit timestamp of the attempt. -/
def Fresh (a : QueuedAttempt) (c : SyncClient) : Prop :=
  ∀ dg ∈ c.queue, (readHeader dg.data).origTs ≠ ntpTimestampNow a.env.t1Clock

theorem not_isReply_of_fresh {a : QueuedAttempt} {c : SyncClient} (h : a.Fresh c) {dg : Datagram}
    (hmem : dg ∈ c.queue) : ¬ IsReply a.env dg := fun hreply => h dg hmem hreply.passes.origTs

/-- A leftover keeps an attempt from getting past the check. -/
theorem Fresh.not_getsPast {a : QueuedAttempt} {c : SyncClient} (h : a.Fresh c)
    (hqueue : c.queue ≠ []) : ¬ a.GetsPast c := by
  obtain ⟨first, rest, heq⟩ := List.exists_cons_of_ne_nil hqueue
  have hhead : (a.delivered c).head? = some first := by
    unfold delivered
    rw [heq, List.cons_append, List.head?_cons]
  refine not_getsPast_of_head hhead (not_isReply_of_fresh h ?_)
  rw [heq]
  exact List.mem_cons_self

/-- With a fresh timestamp, an attempt is served by its reply exactly if that is unobstructed. -/
theorem Fresh.unobstructed_iff {a : QueuedAttempt} {c : SyncClient} (h : a.Fresh c) :
    a.ReplyGetsPast c ↔ a.Unobstructed c := by
  refine imp_congr_right fun hdelivered => ?_
  by_cases hqueue : c.queue = []
  · have hhead : a.delivered c = a.arrivals := by
      unfold delivered
      rw [hqueue, List.nil_append]
    rw [getsPast_iff, hhead, and_iff_right hdelivered.1, and_iff_right hqueue, and_comm]
  -- a leftover stands ahead of the reply
  · exact iff_of_false (h.not_getsPast hqueue) fun hclear => hqueue hclear.1

/-! ### Runs -/

/-- Each attempt has a transmit timestamp that no datagram delivered before it carries. -/
def FreshTimestamps (attempts : List QueuedAttempt) (c : SyncClient) : Prop :=
  (∀ a ∈ attempts, a.Fresh c) ∧ attempts.Pairwise fun a b =>
    ∀ dg ∈ a.arrivals, (readHeader dg.data).origTs ≠ ntpTimestampNow b.env.t1Clock

theorem mem_queue_step {a : QueuedAttempt} {c : SyncClient} {dg : Datagram}
    (h : dg ∈ (a.step c).queue) : dg ∈ c.queue ∨ dg ∈ a.arrivals := by
  have hsub : dg ∈ a.delivered c := by
    unfold step at h
    dsimp only at h
    -- an attempt that receives takes the first datagram
    split_ifs at h
    · exact List.mem_of_mem_tail h
    · exact h
  exact List.mem_append.mp hsub

/-- The timestamps stay fresh along the run. -/
theorem FreshTimestamps.along : ∀ {attempts : List QueuedAttempt} {c : SyncClient},
    FreshTimestamps attempts c → Run.Along step Fresh attempts c := by
  intro attempts
  induction attempts with
  | nil => exact fun _ => trivial
  | cons a rest ih =>
    rintro c ⟨hqueue, hpairwise⟩
    obtain ⟨harrivals, hrest⟩ := List.pairwise_cons.mp hpairwise
    refine ⟨hqueue a List.mem_cons_self, ih ⟨fun b hb dg hdg => ?_, hrest⟩⟩
    rcases mem_queue_step hdg with hleft | harrived
    · exact hqueue b (List.mem_cons_of_mem a hb) dg hleft
    · exact harrivals b hb dg harrived

/-- **In a run with fresh timestamps every reply delivered in time gets its attempt past the check
exactly if nothing ever stands ahead of such a reply.**  The marks that tell it are those of
`sync_ntp_time`. -/
theorem replyGetsPast_iff {attempts : List QueuedAttempt} {c : SyncClient}
    (hfresh : FreshTimestamps attempts c) :
    Run.Along step (fun a c => Erases SyncMark.event? (a.marks c) (a.run c)) attempts c ∧
      (Run.Along step ReplyGetsPast attempts c ↔ Run.Along step Unobstructed attempts c) := by
  constructor
  · refine Run.along_of_forall_mem fun a _ c' => ?_
    exact SyncMarks.syncNtpTime_erases (some a.ip) (some a.port) (a.envIn c')
  · exact Run.along_iff_of_along (fun _ _ h => h.unobstructed_iff) hfresh.along

/-- A leftover is replaced by what is delivered behind it. -/
theorem queue_step_ne_nil {a : QueuedAttempt} {c : SyncClient} (harrivals : a.arrivals ≠ [])
    (hqueue : c.queue ≠ []) : (a.step c).queue ≠ [] := by
  intro hempty
  have hlength := congrArg List.length hempty
  have harrived := List.length_pos_iff.mpr harrivals
  have hleft := List.length_pos_iff.mpr hqueue
  unfold step delivered at hlength
  dsimp only at hlength
  split_ifs at hlength
  · rw [List.length_tail, List.length_append, List.length_nil] at hlength
    omega
  · rw [List.length_append, List.length_nil] at hlength
    omega

/-- One leftover is enough: no later attempt gets past the check, as long as something is delivered
to each of them. -/
theorem not_getsPast_of_leftover {attempts : List QueuedAttempt} {c : SyncClient}
    (hfresh : FreshTimestamps attempts c) (hqueue : c.queue ≠ [])
    (harrivals : ∀ a ∈ attempts, a.arrivals ≠ []) :
    Run.Along step (fun a c => ¬ a.GetsPast c) attempts c := by
  have harrived : Run.Along step (fun a _ => a.arrivals ≠ []) attempts c :=
    Run.along_of_forall_mem fun a ha _ => harrivals a ha
  have hleftover : Run.Along step (fun _ c => c.queue ≠ []) attempts c :=
    (Run.Along.invariant (I := fun c : SyncClient => c.queue ≠ [])
      (fun _ _ hleft harrived => queue_step_ne_nil harrived hleft) hqueue harrived).1
  exact (hfresh.along.and hleftover).mono fun _ _ h => h.1.not_getsPast h.2

end QueuedAttempt

/-! ### A late reply -/

/-- A server's reply to the request of time `t1`. -/
def replyTo (t1 : NtpTimestamp) : Datagram :=
  Datagram.ofList ([0x24, 1] ++ List.replicate 22 0 ++ writeTimestamp t1 ++ writeTimestamp t1
    ++ writeTimestamp t1)

/-- The clock reading `sec` seconds after the sample time. -/
def sampleTimePlus (sec : ℕ) : Except Errno Timespec := .ok (wholeSecond (1700000000 + sec))

/-- An attempt at that time, to which these datagrams are delivered. -/
def attemptAt (sec : ℕ) (arrivals : List Datagram) : QueuedAttempt :=
  ⟨"10.0.0.1".toList, "123".toList,
    { workingSyncEnv [] with t1Clock := sampleTimePlus sec }, arrivals⟩

/-- The first attempt reads a stray datagram, and its reply comes late. -/
def strayAttempt : QueuedAttempt := attemptAt 0 [Datagram.ofList (List.replicate 48 0)]

/-- The late reply arrives before the attempt's own. -/
def lateAttempt : QueuedAttempt :=
  attemptAt 64 [replyTo (ntpTimestampNow (sampleTimePlus 0)),
    replyTo (ntpTimestampNow (sampleTimePlus 64))]

/-- Only the attempt's own reply arrives. -/
def laterAttempt : QueuedAttempt :=
  attemptAt 128 [replyTo (ntpTimestampNow (sampleTimePlus 128))]

/-- A client that has not sent anything. -/
def initialClient : SyncClient := ⟨unreachedDaemon, []⟩

namespace QueuedAttempt

theorem freshTimestamps_lateReply :
    FreshTimestamps [strayAttempt, lateAttempt, laterAttempt] initialClient :=
  ⟨fun _ _ _ hdg => absurd hdg List.not_mem_nil, by decide⟩

theorem replyGetsPast_iff_lateReply :
    Run.Along step (fun a c => Erases SyncMark.event? (a.marks c) (a.run c))
        [strayAttempt, lateAttempt, laterAttempt] initialClient ∧
      (Run.Along step ReplyGetsPast [strayAttempt, lateAttempt, laterAttempt] initialClient ↔
        Run.Along step Unobstructed [strayAttempt, lateAttempt, laterAttempt] initialClient) :=
  replyGetsPast_iff freshTimestamps_lateReply

/-- Both later attempts get their own reply in time, and neither gets past the check: each of them
reads the reply to the attempt before. -/
theorem lateReply_not_replyGetsPast :
    ¬ Run.Along step ReplyGetsPast [strayAttempt, lateAttempt, laterAttempt] initialClient ∧
      ¬ lateAttempt.ReplyGetsPast (strayAttempt.step initialClient) ∧
      ¬ laterAttempt.ReplyGetsPast (lateAttempt.step (strayAttempt.step initialClient)) := by
  set c₁ := strayAttempt.step initialClient with hc₁
  set c₂ := lateAttempt.step c₁ with hc₂
  -- the stray reply stands before the one to the late attempt
  have hlate : ¬ lateAttempt.ReplyGetsPast c₁ := by
    have hsent : lateAttempt.Sent c₁ :=
      (sent_iff _ _).mpr
        ⟨by decide +kernel, .inl (by decide +kernel), by decide, by decide, rfl, rfl, rfl⟩
    have hreply : IsReply lateAttempt.env (replyTo (ntpTimestampNow (sampleTimePlus 64))) :=
      ⟨by decide, by decide, ⟨by decide, by decide, by decide⟩⟩
    have hfirst : ¬ IsReply lateAttempt.env (replyTo (ntpTimestampNow (sampleTimePlus 0))) :=
      fun hread => absurd hread.passes.origTs (by decide)
    intro h
    exact not_getsPast_of_head rfl hfirst
      (h ⟨hsent, _, List.mem_cons_of_mem _ List.mem_cons_self, hreply⟩)
  -- and that one before the reply to the attempt behind it
  have hlater : ¬ laterAttempt.ReplyGetsPast c₂ := by
    have hsent : laterAttempt.Sent c₂ :=
      (sent_iff _ _).mpr
        ⟨by decide +kernel, .inl (by decide +kernel), by decide, by decide, rfl, rfl, rfl⟩
    have hreply : IsReply laterAttempt.env (replyTo (ntpTimestampNow (sampleTimePlus 128))) :=
      ⟨by decide, by decide, ⟨by decide, by decide, by decide⟩⟩
    have hfirst : ¬ IsReply laterAttempt.env (replyTo (ntpTimestampNow (sampleTimePlus 64))) :=
      fun hread => absurd hread.passes.origTs (by decide)
    intro h
    exact not_getsPast_of_head rfl hfirst (h ⟨hsent, _, List.mem_cons_self, hreply⟩)
  exact ⟨fun h => hlate h.2.1, hlate, hlater⟩

end QueuedAttempt

end Dntpd
