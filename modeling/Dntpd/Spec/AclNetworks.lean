import Dntpd.Spec.AclTable

/-!
# Texts of one network in the access control list

The match of a client with an entry masks both addresses.  `acl_remove_entry` compares them as they
are, so it finds an entry only by the address it was added with; and `acl_add_entry` takes the
address 0 for a text that cannot be parsed (`textsDenoteNetwork_iff`).
-/

namespace Dntpd

open Proc PrefixMask

/-- The entry is of the network that the text denotes. -/
def AclEntry.IsOf (e : AclEntry) (n : NetworkText) : Prop :=
  e.mask = prefixMask (UInt32.ofNat n.prefixLen) ∧
    ipInNetwork (htonl n.quad.addr) e.ip e.mask = true

instance (e : AclEntry) (n : NetworkText) : Decidable (e.IsOf n) := by
  unfold AclEntry.IsOf
  infer_instance

/-- The entry with the address and the mask of the text. -/
def NetworkText.entry (n : NetworkText) (flags : UInt8) : AclEntry :=
  ⟨htonl n.quad.addr, prefixMask (UInt32.ofNat n.prefixLen), flags⟩

/-- An entry with the address and the mask of the text is of its network. -/
theorem AclEntry.isOf_of_eq {e : AclEntry} {n : NetworkText} (hip : e.ip = htonl n.quad.addr)
    (hmask : e.mask = prefixMask (UInt32.ofNat n.prefixLen)) : e.IsOf n := by
  refine ⟨hmask, ?_⟩
  rw [hip]
  exact beq_self_eq_true _

/-- Texts of one network: the prefix is as long, and its bits are the same. -/
structure NetworkText.SameNetwork (n₁ n₂ : NetworkText) : Prop where
  len : n₁.prefixLen = n₂.prefixLen
  bits : SamePrefix n₁.prefixLen n₁.quad.addr.toBitVec n₂.quad.addr.toBitVec

/-- An entry is of both or of neither. -/
theorem NetworkText.SameNetwork.isOf_iff {n₁ n₂ : NetworkText} (h : n₁.SameNetwork n₂)
    (e : AclEntry) : e.IsOf n₁ ↔ e.IsOf n₂ := by
  have hsame := (ipInNetwork_iff n₁.quad.addr n₂.quad.addr n₁.prefixLen_le).mpr h.bits
  unfold AclEntry.IsOf
  rw [← h.len]
  refine and_congr_right fun hmask => ?_
  unfold ipInNetwork at *
  rw [beq_iff_eq, ← hmask] at hsame
  rw [beq_iff_eq, beq_iff_eq, hsame]

theorem Quad.addr_eq_zero_iff (q : Quad) : q.addr = 0 ↔ q = ⟨0, 0, 0, 0⟩ :=
  ⟨fun h => Quad.addr_injective h, fun h => h ▸ rfl⟩

/-! ### Adding -/

/-- The section of `acl_add_entry` under the mutex, for the address 0. -/
theorem aclAppend_zero {n : NetworkText} (hzero : n.quad.addr = 0) (flags : UInt8) (d : Daemon) :
    aclAppend n.text flags d =
      if d.mode.aclEntries.length ≥ 256 then ⟨-ENOMEM, d, []⟩ else ⟨-EINVAL, d, []⟩ := by
  unfold aclAppend
  rw [parseNetwork_text]
  dsimp only
  rw [hzero, htonl_zero, if_pos rfl, bind_run, read_ret, read_state, ite_run]
  unfold maxAclEntries
  split_ifs <;> rfl

/-- Of the address 0 no entry is added. -/
theorem aclAddEntry_zero {n : NetworkText} (hzero : n.quad.addr = 0) (flags : UInt8) (d : Daemon) :
    (aclAddEntry (some n.text) flags d).ret =
        (if d.mode.aclEntries.length ≥ 256 then -ENOMEM else -EINVAL) ∧
      (aclAddEntry (some n.text) flags d).state = d := by
  unfold aclAddEntry
  simp only [bind_ret, bind_state, lock, unlock, emit_state, pure_ret, pure_state,
    aclAppend_zero hzero]
  split_ifs <;> exact ⟨rfl, rfl⟩

/-- Every other network is appended. -/
theorem aclAddEntry_entry (n : AclNetwork) (flags : UInt8) {d : Daemon}
    (hroom : d.mode.aclEntries.length < 256) :
    (aclAddEntry (some n.text) flags d).ret = 0 ∧
      (aclAddEntry (some n.text) flags d).state =
        d.withAcl (d.mode.aclEntries ++ [n.entry flags]) := by
  have hrun := aclAddEntry_run n flags d
  rw [if_neg (by omega)] at hrun
  exact ⟨congrArg Prod.fst hrun, congrArg Prod.snd hrun⟩

theorem aclAddEntry_ret_iff (n : NetworkText) (flags : UInt8) {d : Daemon}
    (hroom : d.mode.aclEntries.length < 256) :
    (aclAddEntry (some n.text) flags d).ret = 0 ↔ n.quad ≠ ⟨0, 0, 0, 0⟩ := by
  rw [ne_eq, ← n.quad.addr_eq_zero_iff]
  by_cases hzero : n.quad.addr = 0
  · rw [(aclAddEntry_zero hzero flags d).1, if_neg (by omega)]
    exact iff_of_false (by decide) (not_not_intro hzero)
  · exact iff_of_true (aclAddEntry_entry ⟨n, hzero⟩ flags hroom).1 hzero

/-! ### Removing -/

/-- Nothing is removed for the address 0. -/
theorem aclRemoveEntry_zero {n : NetworkText} (hzero : n.quad.addr = 0) (d : Daemon) :
    (aclRemoveEntry (some n.text) d).ret = -EINVAL := by
  unfold aclRemoveEntry
  rw [parseNetwork_text]
  dsimp only
  rw [hzero, htonl_zero, if_pos rfl]
  rfl

section

variable (n : AclNetwork) {d : Daemon}

theorem aclRemoveEntry_ret (d : Daemon) : (aclRemoveEntry (some n.text) d).ret =
    (aclDelete (htonl n.quad.addr) (prefixMask (UInt32.ofNat n.prefixLen)) d).ret := by
  have hcall : aclRemoveEntry (some n.text) = _ := aclRemoveEntry_eq n
  rw [hcall]
  rfl

theorem aclRemoveEntry_state (d : Daemon) : (aclRemoveEntry (some n.text) d).state =
    (aclDelete (htonl n.quad.addr) (prefixMask (UInt32.ofNat n.prefixLen)) d).state := by
  have hcall : aclRemoveEntry (some n.text) = _ := aclRemoveEntry_eq n
  rw [hcall]
  rfl

/-- Without an entry of that very address and mask nothing is removed. -/
theorem aclRemoveEntry_absent
    (habsent : ∀ e ∈ d.mode.aclEntries,
      ¬ (e.ip = htonl n.quad.addr ∧ e.mask = prefixMask (UInt32.ofNat n.prefixLen))) :
    (aclRemoveEntry (some n.text) d).ret = -ENOENT := by
  have hfind : (d.mode.aclEntries.findIdx? fun e =>
      e.ip == htonl n.quad.addr && e.mask == prefixMask (UInt32.ofNat n.prefixLen)) = none := by
    rw [List.findIdx?_eq_none_iff]
    intro e he
    rw [← Bool.not_eq_true, Bool.and_eq_true, beq_iff_eq, beq_iff_eq]
    exact habsent e he
  rw [aclRemoveEntry_ret]
  unfold aclDelete
  rw [bind_ret, read_ret, read_state, hfind]
  rfl

/-- The first entry of that address and mask is removed; here it is the last of the table. -/
theorem aclRemoveEntry_last {entries : List AclEntry} {flags : UInt8}
    (hentries : d.mode.aclEntries = entries ++ [n.entry flags])
    (hnew : ∀ e ∈ entries, ¬ e.IsOf n.toNetworkText) :
    (aclRemoveEntry (some n.text) d).ret = 0 ∧
      (aclRemoveEntry (some n.text) d).state = d.withAcl entries := by
  -- the loop stops at the entry that was added, which is the last one
  have hfind : (d.mode.aclEntries.findIdx? fun e =>
      e.ip == htonl n.quad.addr && e.mask == prefixMask (UInt32.ofNat n.prefixLen)) =
        some entries.length := by
    have hearlier : (entries.findIdx? fun e =>
        e.ip == htonl n.quad.addr && e.mask == prefixMask (UInt32.ofNat n.prefixLen)) = none := by
      rw [List.findIdx?_eq_none_iff]
      intro e he
      rw [← Bool.not_eq_true, Bool.and_eq_true, beq_iff_eq, beq_iff_eq]
      rintro ⟨hip, hmask⟩
      exact hnew e he (AclEntry.isOf_of_eq hip hmask)
    have hlast : ((n.entry flags).ip == htonl n.quad.addr &&
        (n.entry flags).mask == prefixMask (UInt32.ofNat n.prefixLen)) = true :=
      Bool.and_eq_true_iff.mpr ⟨beq_self_eq_true _, beq_self_eq_true _⟩
    rw [hentries, List.findIdx?_append, hearlier, Option.none_or, List.findIdx?_singleton,
      if_pos hlast]
    exact congrArg some (Nat.zero_add _)
  -- so the entries before it stay as they are
  have herase : d.mode.aclEntries.eraseIdx entries.length = entries := by
    rw [hentries, List.eraseIdx_append_of_length_le le_rfl, Nat.sub_self]
    exact List.append_nil _
  rw [aclRemoveEntry_ret, aclRemoveEntry_state]
  unfold aclDelete
  rw [bind_ret, bind_state, read_ret, read_state, hfind]
  refine ⟨rfl, ?_⟩
  show d.withAcl (d.mode.aclEntries.eraseIdx entries.length) = _
  rw [herase]

end

/-! ### Adding and removing -/

/-- The first text is added, and the second removes the entry again. -/
structure TextsDenoteNetwork (n₁ n₂ : NetworkText) (flags : UInt8) (d : Daemon) : Prop where
  added : (aclAddEntry (some n₁.text) flags d).ret = 0
  removed : (aclRemoveEntry (some n₂.text) (aclAddEntry (some n₁.text) flags d).state).ret = 0
  restored : (aclRemoveEntry (some n₂.text) (aclAddEntry (some n₁.text) flags d).state).state = d

/-- **A text stands for its network** only if it has the address of the one that was added, which is
not `0.0.0.0`. -/
theorem textsDenoteNetwork_iff {n₁ n₂ : NetworkText} (hsame : n₁.SameNetwork n₂) (flags : UInt8)
    {d : Daemon} (hroom : d.mode.aclEntries.length < 256)
    (hnew : ∀ e ∈ d.mode.aclEntries, ¬ e.IsOf n₁) :
    TextsDenoteNetwork n₁ n₂ flags d ↔ n₁.quad = n₂.quad ∧ n₁.quad ≠ ⟨0, 0, 0, 0⟩ := by
  have hadd := aclAddEntry_ret_iff n₁ flags hroom
  have hnew₂ : ∀ e ∈ d.mode.aclEntries, ¬ e.IsOf n₂ := fun e he =>
    (hsame.isOf_iff e).not.mp (hnew e he)
  constructor
  · intro h
    have hne := hadd.mp h.added
    refine ⟨?_, hne⟩
    by_contra hdiffer
    -- what was added has an address other than zero
    have hzero₁ : n₁.quad.addr ≠ 0 := n₁.quad.addr_eq_zero_iff.not.mpr hne
    have hadded := (aclAddEntry_entry ⟨n₁, hzero₁⟩ flags hroom).2
    have hremoved := h.removed
    rw [hadded] at hremoved
    by_cases hzero₂ : n₂.quad.addr = 0
    · rw [aclRemoveEntry_zero hzero₂] at hremoved
      exact absurd hremoved (by decide)
    -- no entry has the address of the second text
    have habsent : ∀ e ∈ d.mode.aclEntries ++ [n₁.entry flags],
        ¬ (e.ip = htonl n₂.quad.addr ∧ e.mask = prefixMask (UInt32.ofNat n₂.prefixLen)) := by
      rintro e he ⟨hip, hmask⟩
      rcases List.mem_append.mp he with he | he
      · exact hnew₂ e he (AclEntry.isOf_of_eq hip hmask)
      · obtain rfl := List.mem_singleton.mp he
        exact hdiffer (Quad.addr_injective (htonl_injective hip))
    rw [aclRemoveEntry_absent ⟨n₂, hzero₂⟩ habsent] at hremoved
    exact absurd hremoved (by decide)
  · rintro ⟨hquad, hne⟩
    have hzero₁ : n₁.quad.addr ≠ 0 := n₁.quad.addr_eq_zero_iff.not.mpr hne
    obtain ⟨hret, hadded⟩ := aclAddEntry_entry ⟨n₁, hzero₁⟩ flags hroom
    -- with one address and one length the two texts make the same entry
    have hentry : n₁.entry flags = n₂.entry flags := by
      unfold NetworkText.entry
      rw [hquad, hsame.len]
    obtain ⟨hremoved, hrestored⟩ := aclRemoveEntry_last ⟨n₂, hquad ▸ hzero₁⟩
      (d := d.withAcl (d.mode.aclEntries ++ [n₁.entry flags]))
      (congrArg (d.mode.aclEntries ++ [·]) hentry) hnew₂
    refine ⟨hret, ?_, ?_⟩
    · rw [hadded]
      exact hremoved
    · rw [hadded]
      exact hrestored

/-- `10.0.0.0/8` on an empty table. -/
theorem textsDenoteNetwork_ten :
    TextsDenoteNetwork ⟨⟨10, 0, 0, 0⟩, some 8⟩ ⟨⟨10, 0, 0, 0⟩, some 8⟩ 1 Daemon.init :=
  (textsDenoteNetwork_iff ⟨rfl, fun _ _ => rfl⟩ 1 (by decide)
    (fun _ he => absurd he List.not_mem_nil)).mpr ⟨rfl, by decide⟩

/-- `10.1.2.3/8` does not remove what `10.0.0.0/8` added, and `0.0.0.0/0` is not added at all. -/
theorem textsDenoteNetwork_fails :
    NetworkText.SameNetwork ⟨⟨10, 0, 0, 0⟩, some 8⟩ ⟨⟨10, 1, 2, 3⟩, some 8⟩ ∧
      ¬ TextsDenoteNetwork ⟨⟨10, 0, 0, 0⟩, some 8⟩ ⟨⟨10, 1, 2, 3⟩, some 8⟩ 1 Daemon.init ∧
      (aclAddEntry (some "0.0.0.0/0".toList) 1 Daemon.init).ret = -EINVAL := by
  refine ⟨⟨rfl, by decide⟩, fun h => ?_, by decide⟩
  have hremoved : (aclRemoveEntry (some "10.1.2.3/8".toList)
      (aclAddEntry (some "10.0.0.0/8".toList) 1 Daemon.init).state).ret = -ENOENT := by decide
  exact absurd (hremoved.symm.trans h.removed) (by decide)

end Dntpd
