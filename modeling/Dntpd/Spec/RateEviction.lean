import Dntpd.Initial
import Dntpd.Library.Run
import Dntpd.Spec.AddressText
import Dntpd.Spec.RateTable

/-!
# Which client the full rate table forgets

A new address takes the place of the one that came in first, whenever that one was last recorded.
So the entry dropped is a stalest one exactly if the first address in is the stalest one
(`evictsOldest_iff`), which a client that keeps coming back prevents.
-/

namespace Dntpd

open FifoCache Run

/-- A call of `rate_limit_update` at the time `now`. -/
structure UpdateCall where
  clientIp : Option CString
  now : ℤ

/-- The mode handler and the addresses recorded so far. -/
structure UpdateState where
  mode : ModeState
  history : List RateRecord

namespace UpdateCall

def addr (c : UpdateCall) : UInt32 := parseIp c.clientIp

/-- What the call records: nothing for an address that `parse_ip` reads as 0. -/
def record (c : UpdateCall) : List RateRecord := if c.addr = 0 then [] else [(c.addr, c.now)]

def step (c : UpdateCall) (s : UpdateState) : UpdateState :=
  ⟨rateLimitUpdate s.mode c.clientIp c.now, s.history ++ c.record⟩

/-- An entry that the call drops is one of those with the smallest `last_request`. -/
def EvictsOldest (c : UpdateCall) (s : UpdateState) : Prop :=
  ∀ e ∈ s.mode.rateLimitEntries,
    e.ip ∉ (c.step s).mode.rateLimitEntries.map RateLimitEntry.ip →
      ∀ e' ∈ s.mode.rateLimitEntries, e.lastRequest ≤ e'.lastRequest

/-- If a new address meets a full cache, then of the cached addresses the first one in was last
recorded no later than any other. -/
def FirstInIsStalest (c : UpdateCall) (s : UpdateState) : Prop :=
  let cached := queue maxRateLimitEntries (s.history.map Prod.fst)
  c.addr ≠ 0 → c.addr ∉ cached → cached.length = maxRateLimitEntries →
    ∀ a ∈ cached.head?, ∀ t, latest s.history a = some t →
      ∀ b ∈ cached, ∀ u, latest s.history b = some u → t ≤ u

end UpdateCall

/-- The table of the state holds its history. -/
def UpdateState.Holds (s : UpdateState) : Prop := TableHolds s.history s.mode.rateLimitEntries

/-- Without an address nothing is recorded. -/
theorem rateLimitUpdate_of_zero {clientIp : Option CString} (hip : parseIp clientIp = 0)
    (m : ModeState) (now : ℤ) : rateLimitUpdate m clientIp now = m := by
  unfold rateLimitUpdate rateLimitInsert
  rw [if_pos hip]

theorem UpdateState.Holds.step {s : UpdateState} (h : s.Holds) (c : UpdateCall) :
    (c.step s).Holds := by
  unfold UpdateCall.step UpdateCall.record UpdateState.Holds
  by_cases hip : c.addr = 0
  · rw [if_pos hip, List.append_nil, rateLimitUpdate_of_zero hip]
    exact h
  · rw [if_neg hip]
    exact TableHolds.update h hip c.now

/-- The addresses of the table after a call. -/
theorem UpdateState.Holds.keys_step {s : UpdateState} (h : s.Holds) {c : UpdateCall}
    (hip : c.addr ≠ 0) : (c.step s).mode.rateLimitEntries.map RateLimitEntry.ip =
      push maxRateLimitEntries (s.mode.rateLimitEntries.map RateLimitEntry.ip) c.addr := by
  have hkeys := (h.step c).keys
  unfold UpdateCall.step UpdateCall.record at hkeys ⊢
  rw [if_neg hip, List.map_append] at hkeys
  rw [hkeys, h.keys]
  exact queue_append_singleton _

/-- A call drops a stalest entry exactly if the first address in is the stalest one. -/
theorem UpdateState.Holds.evictsOldest_iff {s : UpdateState} (h : s.Holds) (c : UpdateCall) :
    c.EvictsOldest s ↔ c.FirstInIsStalest s := by
  have hkept : ∀ {e : RateLimitEntry}, e ∈ s.mode.rateLimitEntries →
      e.ip ∈ s.mode.rateLimitEntries.map RateLimitEntry.ip := fun he => List.mem_map_of_mem he
  have hlen : (s.mode.rateLimitEntries.map RateLimitEntry.ip).length ≤ maxRateLimitEntries := by
    rw [List.length_map]
    exact h.length_le
  have hdropped := fun a : UInt32 => dropped_iff (a := c.addr) (b := a) h.nodup hlen
  unfold UpdateCall.EvictsOldest UpdateCall.FirstInIsStalest
  dsimp only
  rw [← h.keys]
  constructor
  · -- from the entries of the cache to the history, and back
    intro holdest hip hnew hfull a ha t ht b hb u hu
    -- the first entry is the one that is dropped
    obtain ⟨hmem, hgone⟩ := (hdropped a).mpr ⟨hnew, hfull, ha⟩
    obtain ⟨e, he, rfl⟩ := List.mem_map.mp hmem
    obtain ⟨e', he', rfl⟩ := List.mem_map.mp hb
    rw [← h.keys_step hip] at hgone
    rw [h.stamps e he] at ht
    rw [h.stamps e' he'] at hu
    rw [← Option.some.inj ht, ← Option.some.inj hu]
    exact holdest e he hgone e' he'
  · intro hstalest e he hgone e' he'
    have hip : c.addr ≠ 0 := by
      intro hip
      refine hgone ?_
      unfold UpdateCall.step
      rw [rateLimitUpdate_of_zero hip]
      exact hkept he
    rw [h.keys_step hip] at hgone
    obtain ⟨hnew, hfull, hhead⟩ := (hdropped e.ip).mp ⟨hkept he, hgone⟩
    exact hstalest hip hnew hfull e.ip hhead _ (h.stamps e he) e'.ip (hkept he') _
      (h.stamps e' he')

/-- The state at the start of a run: nothing is recorded. -/
def UpdateState.start (config : ModeConfig) (acl : List AclEntry) : UpdateState :=
  ⟨⟨config, acl, []⟩, []⟩

theorem UpdateState.holds_start (config : ModeConfig) (acl : List AclEntry) :
    (UpdateState.start config acl).Holds := TableHolds.empty

/-- Along every run of updates the stalest entry is dropped exactly as long as the first address in
is the stalest one whenever a new address meets a full table. -/
theorem rateEviction_oldest_iff (calls : List UpdateCall) (config : ModeConfig)
    (acl : List AclEntry) :
    Along UpdateCall.step UpdateCall.EvictsOldest calls (.start config acl) ↔
      Along UpdateCall.step UpdateCall.FirstInIsStalest calls (.start config acl) :=
  along_iff_of_invariant (I := UpdateState.Holds) (fun c _ h => h.evictsOldest_iff c)
    (fun c _ h _ => h.step c) (UpdateState.holds_start config acl)

/-! ### A client that comes back -/

/-- The address of the `i`-th client of `10.0.0.0/16`. -/
def clientQuad (i : ℕ) : Quad := ⟨10, 0, UInt8.ofNat (i / 256), UInt8.ofNat i⟩

/-- An update for the `i`-th client. -/
def clientUpdate (i : ℕ) (now : ℤ) : UpdateCall := ⟨some (clientQuad i).text, now⟩

/-- 1024 clients are served once, and a minute later the first of them once more. -/
def returningClient : List UpdateCall :=
  (List.range 1024).map (clientUpdate · 0) ++ [clientUpdate 0 60]

theorem clientUpdate_addr (i : ℕ) (now : ℤ) :
    (clientUpdate i now).addr = htonl (clientQuad i).addr := parseIp_text _

theorem clientUpdate_addr_injective {i j : ℕ} (hi : i ≤ 1024) (hj : j ≤ 1024) {t u : ℤ}
    (h : (clientUpdate i t).addr = (clientUpdate j u).addr) : i = j := by
  rw [clientUpdate_addr, clientUpdate_addr] at h
  have hquad := Quad.addr_injective (htonl_injective h)
  have hc := congrArg UInt8.toNat (congrArg Quad.c hquad)
  have hd := congrArg UInt8.toNat (congrArg Quad.d hquad)
  simp only [clientQuad, UInt8.toNat_ofNat'] at hc hd
  omega

theorem clientUpdate_addr_ne_zero (i : ℕ) (now : ℤ) : (clientUpdate i now).addr ≠ 0 := by
  rw [clientUpdate_addr, Ne, htonl_eq_zero_iff]
  intro h
  have hquad : clientQuad i = ⟨0, 0, 0, 0⟩ := Quad.addr_injective h
  exact absurd (congrArg Quad.a hquad) (by decide : (10 : UInt8) ≠ 0)

/-- A run of updates appends its records to the history. -/
theorem history_runSteps (calls : List UpdateCall) (s : UpdateState) :
    (runSteps UpdateCall.step calls s).history =
      s.history ++ calls.flatMap UpdateCall.record := by
  induction calls generalizing s with
  | nil => exact (List.append_nil _).symm
  | cons c calls ih =>
    rw [runSteps_cons, ih, List.flatMap_cons, ← List.append_assoc]
    rfl

theorem UpdateState.Holds.runSteps {s : UpdateState} (h : s.Holds) (calls : List UpdateCall) :
    (runSteps UpdateCall.step calls s).Holds := by
  induction calls generalizing s with
  | nil => exact h
  | cons c calls ih => exact ih (h.step c)

/-- The addresses of the first 1024 clients. -/
def clientAddrs : List UInt32 := (List.range 1024).map fun i => (clientUpdate i 0).addr

theorem clientAddrs_nodup : clientAddrs.Nodup := by
  unfold clientAddrs
  refine (List.nodup_map_iff_inj_on List.nodup_range).mpr fun i hi j hj h => ?_
  rw [List.mem_range] at hi hj
  exact clientUpdate_addr_injective hi.le hj.le h

theorem mem_clientAddrs_iff {i : ℕ} (hi : i ≤ 1024) (now : ℤ) :
    (clientUpdate i now).addr ∈ clientAddrs ↔ i < 1024 := by
  unfold clientAddrs
  rw [List.mem_map]
  constructor
  · rintro ⟨j, hj, h⟩
    rw [List.mem_range] at hj
    rwa [← clientUpdate_addr_injective hj.le hi h]
  · exact fun hlt => ⟨i, List.mem_range.mpr hlt, rfl⟩

theorem head?_clientAddrs : clientAddrs.head? = some (clientUpdate 0 60).addr := by
  unfold clientAddrs
  rw [List.head?_map, List.head?_range, if_neg (by decide)]
  rfl

/-- What is recorded of the clients. -/
theorem record_returningClient : returningClient.flatMap UpdateCall.record =
    clientAddrs.map (fun a => (a, 0)) ++ [((clientUpdate 0 60).addr, 60)] := by
  have hrecord : ∀ i now, (clientUpdate i now).record = [((clientUpdate i now).addr, now)] :=
    fun i now => if_neg (clientUpdate_addr_ne_zero i now)
  unfold returningClient clientAddrs
  rw [List.flatMap_append, List.flatMap_singleton, hrecord, List.flatMap_map, List.map_map]
  simp only [hrecord, ← List.map_eq_flatMap]
  rfl

/-- The next new client takes the place of the first one, which was served a minute after all the
others. -/
theorem returningClient_evicted :
    ¬ Along UpdateCall.step UpdateCall.EvictsOldest (returningClient ++ [clientUpdate 1024 60])
      (.start ModeConfig.init []) := by
  rw [along_append, along_singleton]
  rintro ⟨-, hlast⟩
  set s := runSteps UpdateCall.step returningClient (.start ModeConfig.init []) with hs
  have hholds : s.Holds := (UpdateState.holds_start _ _).runSteps returningClient
  -- every client has sent one request, and the first of them a second one
  have hhistory : s.history =
      clientAddrs.map (fun a => (a, 0)) ++ [((clientUpdate 0 60).addr, 60)] := by
    rw [hs, history_runSteps, record_returningClient]
    exact List.nil_append _
  have hlength : clientAddrs.length = maxRateLimitEntries := by
    rw [clientAddrs, List.length_map, List.length_range]
    rfl
  have hzero : (clientUpdate 0 60).addr ∈ clientAddrs :=
    (mem_clientAddrs_iff (by decide) 60).mpr (by decide)
  -- its entry keeps its place in the queue
  have hcached : queue maxRateLimitEntries (s.history.map Prod.fst) = clientAddrs := by
    have hfirst : (clientAddrs.map fun a => (a, (0 : ℤ))).map Prod.fst = clientAddrs := by
      rw [List.map_map]
      exact List.map_id _
    rw [hhistory, List.map_append, hfirst, List.map_singleton, queue_append_singleton,
      queue_of_nodup clientAddrs_nodup hlength.le]
    exact push_of_mem hzero
  have hnew : (clientUpdate 1024 60).addr ∉ clientAddrs := fun hmem =>
    absurd ((mem_clientAddrs_iff le_rfl 60).mp hmem) (by decide)
  have hsecond : latest s.history (clientUpdate 1 0).addr = some 0 := by
    have hne : (clientUpdate 0 60).addr ≠ (clientUpdate 1 0).addr := fun heq =>
      absurd (clientUpdate_addr_injective (by decide) (by decide) heq) (by decide)
    have hmem : (clientUpdate 1 0).addr ∈ clientAddrs :=
      (mem_clientAddrs_iff (by decide) 0).mpr (by decide)
    rw [hhistory, latest_append_singleton, if_neg hne]
    exact latest_map_const hmem 0
  -- so the first in is not the stalest
  have hstalest := (hholds.evictsOldest_iff _).mp hlast
  unfold UpdateCall.FirstInIsStalest at hstalest
  rw [hcached] at hstalest
  have hle := hstalest (clientUpdate_addr_ne_zero _ _) hnew hlength (clientUpdate 0 60).addr
    head?_clientAddrs 60 (by rw [hhistory, latest_append_singleton]; exact if_pos rfl)
    (clientUpdate 1 0).addr ((mem_clientAddrs_iff (by decide) 0).mpr (by decide)) 0 hsecond
  exact absurd hle (by decide)

end Dntpd
