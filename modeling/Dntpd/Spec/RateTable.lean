import Dntpd.Library.FifoCache
import Dntpd.Spec.RateLimit

/-!
# The rate table after a history of updates

The addresses of the table are a first-in-first-out cache of the addresses that were recorded, and
each entry has the time of the last record of its address (`TableHolds`).  The order of the entries
is that of the insertions, so it says nothing about these times.
-/

namespace Dntpd

open Proc FifoCache

/-- An address and a time it was recorded at. -/
abbrev RateRecord := UInt32 × ℤ

/-- What `rate_limit_update` makes of the entry of its client. -/
def RateLimitEntry.stamp (now : ℤ) (e : RateLimitEntry) : RateLimitEntry :=
  { e with lastRequest := now, count := e.count + 1 }

/-- The table holds what a history of records leaves in it. -/
structure TableHolds (history : List RateRecord) (entries : List RateLimitEntry) : Prop where
  keys : entries.map RateLimitEntry.ip = queue maxRateLimitEntries (history.map Prod.fst)
  stamps : ∀ e ∈ entries, latest history e.ip = some e.lastRequest

namespace TableHolds

variable {history : List RateRecord} {entries : List RateLimitEntry}

theorem empty : TableHolds [] [] := ⟨rfl, nofun⟩

theorem nodup (h : TableHolds history entries) : (entries.map RateLimitEntry.ip).Nodup := by
  rw [h.keys]
  exact queue_nodup

theorem length_le (h : TableHolds history entries) : entries.length ≤ maxRateLimitEntries := by
  rw [← List.length_map (f := RateLimitEntry.ip), h.keys]
  exact queue_length_le (by decide)

/-- An address has an entry exactly when it is cached. -/
theorem mem_iff (h : TableHolds history entries) (a : UInt32) :
    (∃ e ∈ entries, e.ip = a) ↔ a ∈ queue maxRateLimitEntries (history.map Prod.fst) := by
  rw [← h.keys, List.mem_map]

end TableHolds

/-! ### One update -/

/-- The address of a client with an entry: its entry is stamped. -/
theorem rateLimitUpdate_of_mem {clientIp : Option CString} (hip : parseIp clientIp ≠ 0)
    {m : ModeState} {i : ℕ} (hfind : rateLimitFind m clientIp = some i) (now : ℤ) :
    (rateLimitUpdate m clientIp now).rateLimitEntries =
      m.rateLimitEntries.modify i (RateLimitEntry.stamp now) := by
  unfold rateLimitUpdate rateLimitInsert
  rw [if_neg hip, hfind]
  rfl

/-- A new address: it is appended with its stamp, and the first entry makes room in a full table. -/
theorem rateLimitUpdate_of_not_mem {clientIp : Option CString} (hip : parseIp clientIp ≠ 0)
    {m : ModeState} (hfind : rateLimitFind m clientIp = none) (now : ℤ) :
    (rateLimitUpdate m clientIp now).rateLimitEntries =
      (if m.rateLimitEntries.length ≥ maxRateLimitEntries then m.rateLimitEntries.tail
        else m.rateLimitEntries) ++ [⟨parseIp clientIp, now, 1⟩] := by
  unfold rateLimitUpdate rateLimitInsert
  rw [if_neg hip, hfind]
  dsimp only
  generalize (if m.rateLimitEntries.length ≥ maxRateLimitEntries then m.rateLimitEntries.tail
    else m.rateLimitEntries) = entries
  rw [List.modify_eq_take_drop, List.take_left, List.drop_left]
  rfl

theorem rateLimitFind_eq_none_iff {clientIp : Option CString} (hip : parseIp clientIp ≠ 0)
    (m : ModeState) : rateLimitFind m clientIp = none ↔
      ¬ ∃ e ∈ m.rateLimitEntries, e.ip = parseIp clientIp := by
  unfold rateLimitFind
  rw [if_neg hip, List.findIdx?_eq_none_iff]
  simp

/-- The stamp of one entry is renewed. -/
theorem TableHolds.stamp {history : List RateRecord} {entries : List RateLimitEntry}
    (h : TableHolds history entries) {i : ℕ} (hi : i < entries.length) (now : ℤ) :
    TableHolds (history ++ [(entries[i].ip, now)])
      (entries.modify i (RateLimitEntry.stamp now)) := by
  -- the queue of the addresses stays as it is
  have hmem : entries[i].ip ∈ entries.map RateLimitEntry.ip :=
    List.mem_map_of_mem (List.getElem_mem hi)
  constructor
  · rw [List.map_append, List.map_singleton, queue_append_singleton, ← h.keys, push_of_mem hmem]
    refine List.ext_getElem (by simp) fun j hj hj' => ?_
    rw [List.getElem_map, List.getElem_map, List.getElem_modify]
    split_ifs <;> rfl
  · intro e he
    obtain ⟨j, hj, rfl⟩ := List.getElem_of_mem he
    rw [List.length_modify] at hj
    rw [latest_append_singleton, List.getElem_modify]
    split_ifs with hij hsame hsame
    · rfl
    · subst hij
      exact absurd rfl hsame
    · -- addresses occur once, so the entry is not another one of the client
      have hi' : i < (entries.map RateLimitEntry.ip).length := by rwa [List.length_map]
      have hj' : j < (entries.map RateLimitEntry.ip).length := by rwa [List.length_map]
      have heq : (entries.map RateLimitEntry.ip)[i] = (entries.map RateLimitEntry.ip)[j] := by
        rw [List.getElem_map, List.getElem_map, hsame]
      exact absurd (h.nodup.getElem_inj_iff.mp heq) hij
    · exact h.stamps _ (List.getElem_mem hj)

/-- An entry for a new address comes behind those that are kept. -/
theorem TableHolds.append {history : List RateRecord} {entries kept : List RateLimitEntry}
    (h : TableHolds history entries) (hkept : kept.Sublist entries) {a : UInt32}
    (hnew : a ∉ entries.map RateLimitEntry.ip) (now : ℤ)
    (hpush : push maxRateLimitEntries (entries.map RateLimitEntry.ip) a =
      kept.map RateLimitEntry.ip ++ [a]) :
    TableHolds (history ++ [(a, now)]) (kept ++ [⟨a, now, 1⟩]) where
  keys := by
    rw [List.map_append, List.map_append, List.map_singleton, List.map_singleton,
      queue_append_singleton, ← h.keys, hpush]
  stamps := by
    intro e he
    rw [latest_append_singleton]
    rcases List.mem_append.mp he with he | he
    · have hne : a ≠ e.ip := fun heq => hnew (heq ▸ List.mem_map_of_mem (hkept.subset he))
      rw [if_neg hne]
      exact h.stamps e (hkept.subset he)
    · rw [List.mem_singleton.mp he]
      exact if_pos rfl

/-- `rate_limit_update` records its client. -/
theorem TableHolds.update {history : List RateRecord} {m : ModeState}
    (h : TableHolds history m.rateLimitEntries) {clientIp : Option CString}
    (hip : parseIp clientIp ≠ 0) (now : ℤ) :
    TableHolds (history ++ [(parseIp clientIp, now)])
      (rateLimitUpdate m clientIp now).rateLimitEntries := by
  -- a new stamp on the entry of the address, or a new entry at the end
  cases hfind : rateLimitFind m clientIp with
  | some i =>
    rw [rateLimitUpdate_of_mem hip hfind]
    unfold rateLimitFind at hfind
    rw [if_neg hip] at hfind
    obtain ⟨hi, hipi, -⟩ := List.findIdx?_eq_some_iff_getElem.mp hfind
    rw [← beq_iff_eq.mp hipi]
    exact h.stamp hi now
  | none =>
    have hnew : parseIp clientIp ∉ m.rateLimitEntries.map RateLimitEntry.ip := fun hmem =>
      (rateLimitFind_eq_none_iff hip m).mp hfind (List.mem_map.mp hmem)
    rw [rateLimitUpdate_of_not_mem hip hfind]
    -- a full table drops its first entry
    split_ifs with hfull
    · refine h.append (List.tail_sublist _) hnew now ?_
      rw [push_of_ge hnew (by rwa [List.length_map]), List.map_tail]
    · refine h.append (List.Sublist.refl _) hnew now ?_
      exact push_of_lt hnew (by rw [List.length_map]; omega)

/-! ### The check -/

/-- `rate_limit_check` compares the time with that of the entry it finds. -/
theorem rateLimitCheck_ret (ip : CString) (now : ℤ) (d : Daemon) :
    (rateLimitCheck (some ip) now d).ret =
      match (rateLimitFind d.mode (some ip)).bind (d.mode.rateLimitEntries[·]?) with
      | none => 0
      | some entry =>
        if now - entry.lastRequest < d.mode.config.rateLimitInterval.toNat then 1 else 0 := by
  unfold rateLimitCheck
  rw [if_neg nofun]
  simp only [bind_ret, modeHandlerGetConfig_run, read_ret, read_state]
  generalize (rateLimitFind d.mode (some ip)).bind (d.mode.rateLimitEntries[·]?) = found
  cases found <;> rfl

/-- `rate_limit_check` refuses an address exactly when its entry is younger than the interval. -/
theorem TableHolds.check_ne_zero_iff {history : List RateRecord} {d : Daemon}
    (h : TableHolds history d.mode.rateLimitEntries) {ip : CString} (hip : parseIp (some ip) ≠ 0)
    (now : ℤ) : (rateLimitCheck (some ip) now d).ret ≠ 0 ↔
      parseIp (some ip) ∈ queue maxRateLimitEntries (history.map Prod.fst) ∧
        ∃ t, latest history (parseIp (some ip)) = some t ∧
          now - t < d.mode.config.rateLimitInterval.toNat := by
  rw [rateLimitCheck_ret]
  -- no entry of this address, or the first one, which holds its last stamp
  cases hfind : rateLimitFind d.mode (some ip) with
  | none =>
    have hnot := (rateLimitFind_eq_none_iff hip d.mode).mp hfind
    rw [h.mem_iff] at hnot
    exact iff_of_false (not_not.mpr rfl) fun hc => hnot hc.1
  | some i =>
    unfold rateLimitFind at hfind
    rw [if_neg hip] at hfind
    obtain ⟨hi, hipi, -⟩ := List.findIdx?_eq_some_iff_getElem.mp hfind
    have hipi := beq_iff_eq.mp hipi
    have hlatest := h.stamps _ (List.getElem_mem hi)
    rw [hipi] at hlatest
    have hmem := (h.mem_iff (parseIp (some ip))).mp ⟨_, List.getElem_mem hi, hipi⟩
    rw [Option.bind_some, List.getElem?_eq_getElem hi]
    dsimp only
    -- it is refused exactly if that stamp is young
    split_ifs with hyoung
    · exact iff_of_true (by decide) ⟨hmem, _, hlatest, hyoung⟩
    · refine iff_of_false (not_not.mpr rfl) ?_
      rintro ⟨-, t, ht, hlt⟩
      rw [hlatest] at ht
      exact hyoung (Option.some.inj ht ▸ hlt)

end Dntpd
