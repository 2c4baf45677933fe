import Dntpd.Library.Run
import Dntpd.Spec.PacketCodec
import Dntpd.Spec.RateTable

/-!
# Rate limiting of requests handled one after the other

As long as no address is evicted, the table remembers the last response to every address, so a
request that passes `rate_limit_check` comes an interval after all recorded responses to its address
(`rateSequence_throttled`).
-/

namespace Dntpd

open Proc FifoCache

/-- A request and what the outside answers while it is handled. -/
structure RateRequest where
  data : PeerRequestData
  env : RequestEnv

namespace RateRequest

/-- The address of the client. -/
def addr (r : RateRequest) : UInt32 := parseIp (some r.data.ip)

/-- The clock readings the rate limiter makes, in their order. -/
def readings (r : RateRequest) : List ℤ := [r.env.rateCheckTime, r.env.rateUpdateTime]

/-- The response to the request is sent, and `rate_limit_update` records it. -/
def Recorded (r : RateRequest) (d : Daemon) : Prop :=
  ∃ s ∈ sends (handlePeerRequestThread r.data r.env d).trace,
    s.1 = .handlePeerRequestThread ∧ s.2.2.2 = true

instance (r : RateRequest) (d : Daemon) : Decidable (r.Recorded d) := by
  unfold Recorded
  infer_instance

/-- The mode handler after the request. -/
theorem mode_handled (r : RateRequest) (d : Daemon) :
    (handlePeerRequestThread r.data r.env d).state.mode =
      if r.Recorded d then rateLimitUpdate d.mode (some r.data.ip) r.env.rateUpdateTime
      else d.mode := by
  have htable := (handlePeerRequestThread_safe r.data r.env d).table
  by_cases h : r.Recorded d
  · rw [if_pos h]
    unfold Recorded at h
    rwa [if_pos h] at htable
  · rw [if_neg h]
    unfold Recorded at h
    rwa [if_neg h] at htable

/-- What is recorded has passed the check. -/
theorem Recorded.check {r : RateRequest} {d : Daemon} (h : r.Recorded d) :
    (rateLimitCheck (some r.data.ip) r.env.rateCheckTime d).ret = 0 := by
  obtain ⟨s, hs, -⟩ := h
  obtain ⟨-, -, buffer, -, hanswerable, -⟩ :=
    (handlePeerRequestThread_safe r.data r.env d).datagram s hs
  exact hanswerable.rate

end RateRequest

/-- The daemon and the responses recorded so far. -/
structure RateState where
  daemon : Daemon
  log : List RateRecord

/-- The request is handled. -/
def RateRequest.serve (r : RateRequest) (s : RateState) : RateState where
  daemon := (handlePeerRequestThread r.data r.env s.daemon).state
  log := if r.Recorded s.daemon then s.log ++ [(r.addr, r.env.rateUpdateTime)] else s.log

/-- The requests are handled one after the other. -/
abbrev serveAll (rs : List RateRequest) (d : Daemon) : RateState :=
  Run.runSteps RateRequest.serve rs ⟨d, []⟩

/-- The limiter has throttled: an address has at most one entry, recorded responses to it are an
interval apart, and it is refused only within the interval after one of them. -/
structure Throttled (interval : ℤ) (s : RateState) : Prop where
  nodup : (s.daemon.mode.rateLimitEntries.map RateLimitEntry.ip).Nodup
  length_le : s.daemon.mode.rateLimitEntries.length ≤ 1024
  spaced : s.log.Pairwise fun x y => x.1 = y.1 → interval ≤ y.2 - x.2
  refused : ∀ ip now, (rateLimitCheck (some ip) now s.daemon).ret ≠ 0 →
    ∃ t, (parseIp (some ip), t) ∈ s.log ∧ now - t < interval

/-- What the limiter maintains: the table holds the log, whose times come from the clock readings
and do not decrease. -/
structure RateInvariant (rs : List RateRequest) (interval : ℤ) (s : RateState) : Prop where
  table : TableHolds s.log s.daemon.mode.rateLimitEntries
  interval_eq : (s.daemon.mode.config.rateLimitInterval.toNat : ℤ) = interval
  addr : ∀ x ∈ s.log, x.1 ∈ rs.map RateRequest.addr
  time : ∀ x ∈ s.log, x.2 ∈ rs.flatMap RateRequest.readings
  sorted : s.log.Pairwise fun x y => x.2 ≤ y.2
  spaced : s.log.Pairwise fun x y => x.1 = y.1 → interval ≤ y.2 - x.2

/-- An address without `rate_limit_find` is never refused. -/
theorem parseIp_ne_zero_of_refused {ip : CString} {now : ℤ} {d : Daemon}
    (h : (rateLimitCheck (some ip) now d).ret ≠ 0) : parseIp (some ip) ≠ 0 := by
  intro hip
  have hfind : rateLimitFind d.mode (some ip) = none := if_pos hip
  refine h ?_
  rw [rateLimitCheck_ret, hfind]
  rfl

theorem RateInvariant.throttled {rs : List RateRequest} {interval : ℤ} {s : RateState}
    (h : RateInvariant rs interval s) : Throttled interval s where
  nodup := h.table.nodup
  length_le := h.table.length_le
  spaced := h.spaced
  refused ip now hrefused := by
    obtain ⟨-, t, ht, hlt⟩ :=
      (h.table.check_ne_zero_iff (parseIp_ne_zero_of_refused hrefused) now).mp hrefused
    rw [h.interval_eq] at hlt
    exact ⟨t, mem_of_latest ht, hlt⟩

/-- A request that is recorded comes an interval after the responses in the log to its address. -/
theorem RateInvariant.interval_le {rs : List RateRequest} {interval : ℤ} {s : RateState}
    (h : RateInvariant rs interval s) (hcard : (rs.map RateRequest.addr).toFinset.card ≤ 1024)
    {r : RateRequest} (haddr : r.addr ≠ 0) (hrecorded : r.Recorded s.daemon) {x : RateRecord}
    (hx : x ∈ s.log) (hsame : x.1 = r.addr) : interval ≤ r.env.rateCheckTime - x.2 := by
  have hkey : x.1 ∈ s.log.map Prod.fst := List.mem_map_of_mem hx
  -- no address has been evicted
  have hcached : r.addr ∈ queue maxRateLimitEntries (s.log.map Prod.fst) := by
    rw [← hsame]
    refine mem_queue_of_card_le hcard ?_ x.1 hkey
    intro a ha
    obtain ⟨y, hy, rfl⟩ := List.mem_map.mp ha
    exact List.mem_toFinset.mpr (h.addr y hy)
  obtain ⟨t, ht⟩ : ∃ t, latest s.log x.1 = some t := by
    cases hlatest : latest s.log x.1 with
    | none => exact absurd hkey (latest_eq_none_iff.mp hlatest)
    | some t => exact ⟨t, rfl⟩
  have hle : x.2 ≤ t := le_latest h.sorted hx ht
  have hpassed := mt (h.table.check_ne_zero_iff haddr r.env.rateCheckTime).mpr
    (not_not.mpr hrecorded.check)
  rw [hsame] at ht
  have hge : ¬ r.env.rateCheckTime - t < interval := fun hlt =>
    hpassed ⟨hcached, t, ht, h.interval_eq ▸ hlt⟩
  omega

/-- A further request changes nothing by itself. -/
theorem RateInvariant.append {rs : List RateRequest} {interval : ℤ} {s : RateState}
    (h : RateInvariant rs interval s) (r : RateRequest) : RateInvariant (rs ++ [r]) interval s :=
  { h with
    addr := fun x hx => by
      rw [List.map_append]
      exact List.mem_append_left _ (h.addr x hx)
    time := fun x hx => by
      rw [List.flatMap_append]
      exact List.mem_append_left _ (h.time x hx) }

/-- Nor does what leaves the mode handler alone. -/
theorem RateInvariant.of_mode_eq {rs : List RateRequest} {interval : ℤ} {s : RateState} {d : Daemon}
    (h : RateInvariant rs interval s) (hmode : d.mode = s.daemon.mode) :
    RateInvariant rs interval ⟨d, s.log⟩ :=
  { h with
    table := by
      rw [hmode]
      exact h.table
    interval_eq := by
      rw [hmode]
      exact h.interval_eq }

/-- A response to one of the requests is recorded, no earlier than the others and an interval after
those to its address. -/
theorem RateInvariant.record {rs : List RateRequest} {interval : ℤ} {s : RateState} {d : Daemon}
    {r : RateRequest} (h : RateInvariant rs interval s) (hr : r ∈ rs) (haddr : r.addr ≠ 0)
    (hmode : d.mode =
      rateLimitUpdate s.daemon.mode (some r.data.ip) r.env.rateUpdateTime)
    (hsorted : ∀ x ∈ s.log, x.2 ≤ r.env.rateUpdateTime)
    (hspaced : ∀ x ∈ s.log, x.1 = r.addr → interval ≤ r.env.rateUpdateTime - x.2) :
    RateInvariant rs interval ⟨d, s.log ++ [(r.addr, r.env.rateUpdateTime)]⟩ where
  -- the invariant, field by field; the new record is the last of the log
  table := by
    rw [hmode]
    exact h.table.update haddr _
  interval_eq := by
    rw [hmode, rateLimitUpdate_config haddr]
    exact h.interval_eq
  addr := by
    intro x hx
    rcases List.mem_append.mp hx with hx | hx
    · exact h.addr x hx
    · rw [List.mem_singleton.mp hx]
      exact List.mem_map_of_mem hr
  time := by
    intro x hx
    rcases List.mem_append.mp hx with hx | hx
    · exact h.time x hx
    · rw [List.mem_singleton.mp hx]
      exact List.mem_flatMap.mpr ⟨r, hr, by simp [RateRequest.readings]⟩
  sorted := pairwise_append_singleton_iff.mpr ⟨h.sorted, hsorted⟩
  spaced := pairwise_append_singleton_iff.mpr ⟨h.spaced, hspaced⟩

theorem RateInvariant.serve {rs : List RateRequest} {interval : ℤ} {s : RateState}
    {r : RateRequest} (h : RateInvariant rs interval s)
    (hcard : (rs.map RateRequest.addr).toFinset.card ≤ 1024) (haddr : r.addr ≠ 0)
    (hclock : ((rs ++ [r]).flatMap RateRequest.readings).Pairwise (· ≤ ·)) :
    RateInvariant (rs ++ [r]) interval (r.serve s) := by
  rw [List.flatMap_append, List.flatMap_singleton] at hclock
  obtain ⟨-, hown, hbefore⟩ := List.pairwise_append.mp hclock
  have hcheck : ∀ t ∈ rs.flatMap RateRequest.readings, t ≤ r.env.rateCheckTime := fun t ht =>
    hbefore t ht _ List.mem_cons_self
  have hupdate : r.env.rateCheckTime ≤ r.env.rateUpdateTime :=
    List.rel_of_pairwise_cons hown (List.mem_singleton_self _)
  have hmode := r.mode_handled s.daemon
  unfold RateRequest.serve
  -- only a request that is answered is recorded
  by_cases hrecorded : r.Recorded s.daemon
  · rw [if_pos hrecorded] at hmode ⊢
    refine (h.append r).record (List.mem_append_right _ (List.mem_singleton_self _)) haddr hmode
      (fun x hx => (hcheck _ (h.time x hx)).trans hupdate) fun x hx hsame => ?_
    have hle := h.interval_le hcard haddr hrecorded hx hsame
    omega
  · rw [if_neg hrecorded] at hmode ⊢
    exact (h.append r).of_mode_eq hmode

/-- Requests of at most 1024 addresses that are handled one after the other are throttled. -/
theorem rateSequence_throttled (rs : List RateRequest) {d : Daemon}
    (hempty : d.mode.rateLimitEntries = []) (haddr : ∀ r ∈ rs, r.addr ≠ 0)
    (hcard : (rs.map RateRequest.addr).toFinset.card ≤ 1024)
    (hclock : (rs.flatMap RateRequest.readings).Pairwise (· ≤ ·)) :
    Throttled d.mode.config.rateLimitInterval.toNat (serveAll rs d) := by
  refine @RateInvariant.throttled rs _ _ ?_
  induction rs using List.reverseRecOn with
  | nil =>
    refine ⟨?_, rfl, nofun, nofun, .nil, .nil⟩
    show TableHolds [] d.mode.rateLimitEntries
    rw [hempty]
    exact .empty
  | append_singleton rs r ih =>
    -- the induction is on the sequence from its end, as the requests arrive
    have hsub : (rs.map RateRequest.addr).toFinset ⊆
        ((rs ++ [r]).map RateRequest.addr).toFinset := by
      intro a ha
      rw [List.map_append, List.toFinset_append]
      exact Finset.mem_union_left _ ha
    have hcard' := (Finset.card_le_card hsub).trans hcard
    have hclock' := hclock
    rw [List.flatMap_append] at hclock'
    have hrs := ih (fun r' hr' => haddr r' (List.mem_append_left _ hr')) hcard'
      (List.pairwise_append.mp hclock').1
    rw [serveAll, Run.runSteps_append]
    exact hrs.serve hcard' (haddr r (List.mem_append_right _ (List.mem_singleton_self r))) hclock

/-- A request of the client at `10.0.0.1`, handled at the time `now`. -/
def requestAt (now : ℤ) : RateRequest :=
  ⟨sampleRequest, { workingRequestEnv with rateCheckTime := now, rateUpdateTime := now }⟩

/-- Of three requests within five seconds the second is refused. -/
theorem rateSequence_throttled_openServer :
    (serveAll [requestAt 100, requestAt 101, requestAt 105] openServer).log =
        [(0x0100000A, 100), (0x0100000A, 105)] ∧
      Throttled openServer.mode.config.rateLimitInterval.toNat
        (serveAll [requestAt 100, requestAt 101, requestAt 105] openServer) :=
  ⟨by decide +kernel, rateSequence_throttled [requestAt 100, requestAt 101, requestAt 105]
    (d := openServer) rfl (by decide) (by decide) (by decide)⟩

end Dntpd
