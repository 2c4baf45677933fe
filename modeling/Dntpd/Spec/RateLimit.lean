import Dntpd.Spec.ModeHandler

/-!
# The rate limiter

`rate_limit_update` leaves an entry of the address, stamped with the time of the update, and it is
the entry `rate_limit_check` finds (`rateLimitFind_update`).  So a client that was just replied to
is refused until the interval has passed (`rateLimitCheck_update`).
-/

namespace Dntpd

open Proc

/-- A position that is found is still found once its entry is changed, if the change keeps what is
searched for. -/
theorem findIdx?_modify {α : Type*} {p : α → Bool} {f : α → α} (hf : ∀ a, p (f a) = p a) :
    ∀ (l : List α) (i : ℕ), (l.modify i f).findIdx? p = l.findIdx? p := by
  intro l
  induction l with
  | nil => exact fun i => by rw [List.modify_nil]
  | cons a l ih =>
    intro i
    cases i with
    | zero => rw [List.modify_zero_cons, List.findIdx?_cons, List.findIdx?_cons, hf]
    | succ i => rw [List.modify_succ_cons, List.findIdx?_cons, List.findIdx?_cons, ih]

/-- The address has an entry after `rate_limit_insert`, at the index returned. -/
theorem rateLimitInsert_spec {clientIp : Option CString} (h : parseIp clientIp ≠ 0)
    (m : ModeState) : ∃ i m', rateLimitInsert m clientIp = (some i, m') ∧
      rateLimitFind m' clientIp = some i ∧ m'.config = m.config := by
  unfold rateLimitInsert
  rw [if_neg h]
  cases hfind : rateLimitFind m clientIp with
  | some i => exact ⟨i, m, rfl, hfind, rfl⟩
  | none =>
    refine ⟨_, _, rfl, ?_, rfl⟩
    unfold rateLimitFind at hfind ⊢
    rw [if_neg h] at hfind ⊢
    -- the entry dropped from a full table was not the client's
    have hkept : ∀ entries : List RateLimitEntry,
        entries = m.rateLimitEntries.tail ∨ entries = m.rateLimitEntries →
          entries.findIdx? (fun e => e.ip == parseIp clientIp) = none := by
      intro entries hentries
      rw [List.findIdx?_eq_none_iff] at hfind ⊢
      intro e he
      rcases hentries with rfl | rfl
      · exact hfind e (List.mem_of_mem_tail he)
      · exact hfind e he
    dsimp only
    rw [List.findIdx?_append, hkept _ (by split_ifs <;> simp)]
    simp

/-- The entry an update leaves. -/
theorem rateLimitFind_update {clientIp : Option CString} (h : parseIp clientIp ≠ 0)
    (m : ModeState) (now : ℤ) : ∃ i e, rateLimitFind (rateLimitUpdate m clientIp now) clientIp =
        some i ∧ (rateLimitUpdate m clientIp now).rateLimitEntries[i]? = some e ∧
      e.lastRequest = now := by
  obtain ⟨i, m', hinsert, hfind, -⟩ := rateLimitInsert_spec h m
  unfold rateLimitUpdate
  rw [hinsert]
  dsimp only
  have hfind' := hfind
  unfold rateLimitFind at hfind ⊢
  rw [if_neg h] at hfind ⊢
  obtain ⟨hi, -⟩ := List.findIdx?_eq_some_iff_getElem.mp hfind
  let stamp : RateLimitEntry → RateLimitEntry := fun e =>
    { e with lastRequest := now, count := e.count + 1 }
  refine ⟨i, stamp m'.rateLimitEntries[i], ?_, ?_, rfl⟩
  · exact (findIdx?_modify (f := stamp) (fun _ => rfl) _ _).trans hfind
  · rw [List.getElem?_modify_eq, List.getElem?_eq_getElem hi]
    rfl

theorem rateLimitUpdate_config {clientIp : Option CString} (h : parseIp clientIp ≠ 0)
    (m : ModeState) (now : ℤ) : (rateLimitUpdate m clientIp now).config = m.config := by
  obtain ⟨i, m', hinsert, -, hconfig⟩ := rateLimitInsert_spec h m
  unfold rateLimitUpdate
  rw [hinsert]
  exact hconfig

/-- An address that was recorded at `now` is refused until the interval has passed. -/
theorem rateLimitCheck_update {ip : CString} (h : parseIp (some ip) ≠ 0) (now now' : ℤ)
    {m : ModeState} {d : Daemon} (hmode : d.mode = rateLimitUpdate m (some ip) now) :
    (rateLimitCheck (some ip) now' d).ret =
      if now' - now < m.config.rateLimitInterval.toNat then 1 else 0 := by
  obtain ⟨i, e, hfind, hentry, hlast⟩ := rateLimitFind_update h m now
  have hconfig := rateLimitUpdate_config h m now
  rw [← hmode] at hfind hentry hconfig
  unfold rateLimitCheck
  simp [hfind, hentry, hlast, hconfig]

end Dntpd
