import Dntpd.Initial
import Dntpd.Library.Simulation
import Dntpd.Spec.AddressText
import Dntpd.Spec.ModeHandler

/-!
# The access control list as a list of rules

A rule is a network with flags.  Over any sequence of edits the table is the list of rules that the
same edits give (`aclOps_simulates`), and both ways to look a client up find the first rule whose
prefix the client has (`aclFlags_eq_ruleFlags`).
-/

namespace Dntpd

open Proc Simulation PrefixMask

/-! ### Rules -/

/-- A network: an address and the length of its prefix. -/
structure Network where
  addr : UInt32
  len : ℕ
  addr_ne : addr ≠ 0
  len_le : len ≤ 32
  deriving DecidableEq

/-- The client has the prefix of the network. -/
def Network.Has (n : Network) (client : UInt32) : Prop :=
  SamePrefix n.len client.toBitVec n.addr.toBitVec

instance (n : Network) (client : UInt32) : Decidable (n.Has client) := by
  unfold Network.Has
  infer_instance

structure AclRule where
  net : Network
  flags : UInt8
  deriving DecidableEq

/-- The entry that stands for a rule. -/
def AclRule.entry (r : AclRule) : AclEntry :=
  ⟨htonl r.net.addr, prefixMask (UInt32.ofNat r.net.len), r.flags⟩

/-- The flags of the first rule whose network has the client, else the default policy. -/
def ruleFlags (policy : UInt8) (rules : List AclRule) (client : UInt32) : UInt8 :=
  match rules.find? fun r => r.net.Has client with
  | some r => r.flags
  | none => policy

/-- The modes that flags permit. -/
def Permits (cfg : ModeConfig) (flags mode : UInt8) : Prop :=
  (mode = 6 ∨ mode = 7) ∧ flags &&& aclFlagNoquery = 0 ∨
    mode ∈ ([1, 2, 3, 4, 5] : List UInt8) ∧ flags &&& aclFlagNoserve = 0 ∧
      (mode = 1 ∨ mode = 2 → cfg.enableSymmetricMode ≠ 0) ∧ (mode = 5 → cfg.enableBroadcast ≠ 0)

/-- Two entries are of one network when their rules are. -/
theorem entry_net_eq_iff (r : AclRule) (n : Network) :
    (r.entry.ip == htonl n.addr && r.entry.mask == prefixMask (UInt32.ofNat n.len)) = true ↔
      r.net = n := by
  rw [Bool.and_eq_true, beq_iff_eq, beq_iff_eq]
  constructor
  · rintro ⟨hip, hmask⟩
    have haddr : r.net.addr = n.addr := htonl_injective hip
    have hlen : r.net.len = n.len := prefixMask_injective r.net.len_le n.len_le hmask
    obtain ⟨net, flags⟩ := r
    cases net
    cases n
    rw [Network.mk.injEq]
    exact ⟨haddr, hlen⟩
  · rintro rfl
    exact ⟨rfl, rfl⟩

/-! ### Edits -/

/-- A network text whose address is not `0.0.0.0`. -/
structure AclNetwork extends NetworkText where
  addr_ne : quad.addr ≠ 0
  deriving DecidableEq

/-- The network a text denotes. -/
def AclNetwork.network (n : AclNetwork) : Network :=
  ⟨n.quad.addr, n.prefixLen, n.addr_ne, n.prefixLen_le⟩

/-- The calls that edit the table. -/
inductive AclOp
  | addEntry (n : AclNetwork) (flags : UInt8)
  | removeEntry (n : AclNetwork)
  | clearEntries
  | init
  deriving DecidableEq

/-- The call. -/
def AclOp.call : AclOp → DProc ℤ
  | .addEntry n flags => aclAddEntry (some n.text) flags
  | .removeEntry n => aclRemoveEntry (some n.text)
  | .clearEntries => aclClearEntries
  | .init => modeHandlerInit

/-- The status and the state it leaves. -/
def AclOp.step (op : AclOp) (d : Daemon) : ℤ × Daemon := ((op.call d).ret, (op.call d).state)

/-- What the call does to a list of at most 256 rules. -/
def AclOp.edit : AclOp → List AclRule → ℤ × List AclRule
  | .addEntry n flags, rules =>
    if rules.length ≥ 256 then (-ENOMEM, rules) else (0, rules ++ [⟨n.network, flags⟩])
  | .removeEntry n, rules =>
    if n.network ∈ rules.map AclRule.net then
      (0, rules.eraseP fun r => r.net = n.network)
    else (-ENOENT, rules)
  | .clearEntries, _ => (0, [])
  | .init, _ => (0, [])

/-- The daemon with other entries in its table. -/
def Daemon.withAcl (d : Daemon) (entries : List AclEntry) : Daemon :=
  { d with mode := { d.mode with aclEntries := entries } }

theorem AclNetwork.htonl_ne (n : AclNetwork) : htonl n.quad.addr ≠ 0 := fun h =>
  n.addr_ne (htonl_eq_zero_iff.mp h)

/-- The section of `acl_add_entry` under the mutex. -/
theorem aclAppend_run (n : AclNetwork) (flags : UInt8) (d : Daemon) :
    aclAppend n.text flags d =
      if d.mode.aclEntries.length ≥ 256 then ⟨-ENOMEM, d, []⟩
      else ⟨0, d.withAcl (d.mode.aclEntries ++ [AclRule.entry ⟨n.network, flags⟩]), []⟩ := by
  unfold aclAppend
  rw [parseNetwork_text]
  dsimp only
  rw [if_neg n.htonl_ne, bind_run, read_ret, read_state, ite_run]
  unfold maxAclEntries
  split_ifs <;> rfl

/-- `acl_add_entry`, result and state. -/
theorem aclAddEntry_run (n : AclNetwork) (flags : UInt8) (d : Daemon) :
    AclOp.step (.addEntry n flags) d =
      if d.mode.aclEntries.length ≥ 256 then (-ENOMEM, d)
      else (0, d.withAcl (d.mode.aclEntries ++ [AclRule.entry ⟨n.network, flags⟩])) := by
  unfold AclOp.step AclOp.call aclAddEntry
  simp only [bind_ret, bind_state, lock, unlock, emit_state, pure_ret, pure_state, aclAppend_run]
  split_ifs <;> rfl

/-- The section of `acl_remove_entry` under the mutex. -/
theorem aclDelete_run (n : AclNetwork) {d : Daemon} {rules : List AclRule}
    (h : d.mode.aclEntries = rules.map AclRule.entry) :
    aclDelete (htonl n.quad.addr) (prefixMask (UInt32.ofNat n.prefixLen)) d =
      if n.network ∈ rules.map AclRule.net then
        ⟨0, d.withAcl ((rules.eraseP fun r => r.net = n.network).map AclRule.entry), []⟩
      else ⟨-ENOENT, d, []⟩ := by
  set p : AclEntry → Bool := fun e =>
    e.ip == htonl n.quad.addr && e.mask == prefixMask (UInt32.ofNat n.prefixLen) with hp
  -- address and mask of an entry determine its network
  have hentry : p ∘ AclRule.entry = fun r => decide (r.net = n.network) := by
    funext r
    rw [Bool.eq_iff_iff, decide_eq_true_iff]
    exact entry_net_eq_iff r n.network
  have hfind : d.mode.aclEntries.findIdx? p =
      rules.findIdx? fun r => decide (r.net = n.network) := by
    rw [h, List.findIdx?_map, hentry]
  unfold aclDelete
  rw [bind_run, read_ret, read_state]
  -- the loop finds no such entry, or stops at the first one
  cases hidx : d.mode.aclEntries.findIdx? p with
  | none =>
    rw [hfind, List.findIdx?_eq_none_iff] at hidx
    have hmem : ¬ n.network ∈ rules.map AclRule.net := by
      rintro hmem
      obtain ⟨r, hr, hrnet⟩ := List.mem_map.mp hmem
      simpa [hrnet] using hidx r hr
    rw [if_neg hmem]
    rfl
  | some i =>
    have herase : (rules.eraseP fun r => r.net = n.network).map AclRule.entry =
        d.mode.aclEntries.eraseIdx i := by
      rw [← hentry, ← List.eraseP_map, ← h, List.eraseP_eq_eraseIdx, hidx]
    have hmem : n.network ∈ rules.map AclRule.net := by
      rw [hfind] at hidx
      obtain ⟨hi, hpi, -⟩ := List.findIdx?_eq_some_iff_getElem.mp hidx
      exact List.mem_map.mpr ⟨rules[i], List.getElem_mem hi, of_decide_eq_true hpi⟩
    rw [if_pos hmem, herase]
    rfl

/-- `acl_remove_entry` searches the table under the mutex. -/
theorem aclRemoveEntry_eq (n : AclNetwork) : AclOp.call (.removeEntry n) = (do
    lock .gModeMutex
    let r ← aclDelete (htonl n.quad.addr) (prefixMask (UInt32.ofNat n.prefixLen))
    unlock .gModeMutex
    return r) := by
  show aclRemoveEntry (some n.text) = _
  unfold aclRemoveEntry
  rw [parseNetwork_text]
  exact if_neg n.htonl_ne

/-- `acl_remove_entry`, result and state. -/
theorem aclRemoveEntry_run (n : AclNetwork) (d : Daemon) {rules : List AclRule}
    (h : d.mode.aclEntries = rules.map AclRule.entry) :
    AclOp.step (.removeEntry n) d =
      if n.network ∈ rules.map AclRule.net then
        (0, d.withAcl ((rules.eraseP fun r => r.net = n.network).map AclRule.entry))
      else (-ENOENT, d) := by
  unfold AclOp.step
  rw [aclRemoveEntry_eq]
  simp only [bind_ret, bind_state, lock, unlock, emit_state, pure_ret, pure_state,
    aclDelete_run n h]
  split_ifs <;> rfl

/-- The table of a daemon with the configuration `cfg` is the list of rules. -/
structure HoldsRules (cfg : ModeConfig) (d : Daemon) (rules : List AclRule) : Prop where
  entries : d.mode.aclEntries = rules.map AclRule.entry
  config : d.mode.config = cfg
  length_le : rules.length ≤ 256

/-- A call does to the table what it does to the list of rules. -/
theorem aclOps_simulates (cfg : ModeConfig) :
    Simulates AclOp.step AclOp.edit (HoldsRules cfg) := by
  intro op d rules h
  -- one case for each operation; a full table refuses the entry
  cases op with
  | addEntry n flags =>
    have hlen : d.mode.aclEntries.length = rules.length := by
      rw [h.entries, List.length_map]
    rw [aclAddEntry_run, AclOp.edit, hlen]
    split_ifs with hfull
    · exact ⟨rfl, h⟩
    · refine ⟨rfl, ?_, h.config, ?_⟩
      · show d.mode.aclEntries ++ _ = _
        rw [h.entries, List.map_append]
        rfl
      · rw [List.length_append, List.length_singleton]
        omega
  | removeEntry n =>
    rw [aclRemoveEntry_run n d h.entries, AclOp.edit]
    split_ifs with hmem
    · exact ⟨rfl, rfl, h.config, (List.eraseP_sublist.length_le).trans h.length_le⟩
    · exact ⟨rfl, h⟩
  | clearEntries => exact ⟨rfl, rfl, h.config, Nat.zero_le _⟩
  | init => exact ⟨rfl, rfl, h.config, Nat.zero_le _⟩

/-- A call that fails changes nothing at all. -/
theorem aclOp_failed {cfg : ModeConfig} {d : Daemon} {rules : List AclRule}
    (h : HoldsRules cfg d rules) {op : AclOp} (hfail : (op.call d).ret ≠ 0) :
    (op.call d).state = d := by
  change (op.step d).1 ≠ 0 at hfail
  show (op.step d).2 = d
  cases op with
  | addEntry n flags =>
    rw [aclAddEntry_run] at hfail ⊢
    split_ifs at hfail ⊢
    · rfl
    · exact absurd rfl hfail
  | removeEntry n =>
    rw [aclRemoveEntry_run n d h.entries] at hfail ⊢
    split_ifs at hfail ⊢
    · exact absurd rfl hfail
    · rfl
  | clearEntries => exact absurd rfl hfail
  | init => exact absurd rfl hfail

/-! ### Looking a client up -/

/-- The lookup loop finds the first rule that has the client. -/
theorem aclFlags_eq_ruleFlags {cfg : ModeConfig} {d : Daemon} {rules : List AclRule}
    (h : HoldsRules cfg d rules) (client : UInt32) :
    aclFlags d.mode (htonl client) = ruleFlags cfg.aclDefaultPolicy rules client := by
  have hmatch : (fun e : AclEntry => ipInNetwork (htonl client) e.ip e.mask) ∘ AclRule.entry =
      fun r => decide (r.net.Has client) := by
    funext r
    rw [Bool.eq_iff_iff, decide_eq_true_iff]
    exact ipInNetwork_iff client r.net.addr r.net.len_le
  unfold aclFlags ruleFlags
  rw [h.entries, List.find?_map, hmatch, h.config]
  cases rules.find? fun r => decide (r.net.Has client) with
  | none => rfl
  | some r => rfl

/-- The gate that the configuration puts before a mode. -/
def modeGate (cfg : ModeConfig) (mode : UInt8) : Bool :=
  if mode = ntpModeSymmetricActive ∨ mode = ntpModeSymmetricPassive then
    cfg.enableSymmetricMode ≠ 0
  else if mode = ntpModeBroadcast then cfg.enableBroadcast ≠ 0
  else true

theorem modeGate_and_aclModeAllowed_iff (cfg : ModeConfig) (flags mode : UInt8) :
    (modeGate cfg mode && aclModeAllowed flags mode) = true ↔ Permits cfg flags mode := by
  unfold modeGate aclModeAllowed Permits ntpModeSymmetricActive ntpModeSymmetricPassive
    ntpModeBroadcast ntpModeControl ntpModePrivate ntpModeClient ntpModeServer
  by_cases hmode : mode ∈ ([1, 2, 3, 4, 5, 6, 7] : List UInt8)
  · simp only [List.mem_cons, List.not_mem_nil, or_false] at hmode
    rcases hmode with rfl | rfl | rfl | rfl | rfl | rfl | rfl <;> simp [and_comm]
  · simp only [List.mem_cons, List.not_mem_nil, or_false, not_or] at hmode
    simp [hmode]

/-- `acl_check_client` asks the gate and the table. -/
theorem aclCheckClient_ret {client : CString} (hip : ¬ parseIp (some client) = 0) (mode : UInt8)
    (d : Daemon) : (aclCheckClient (some client) mode d).ret =
      (modeGate d.mode.config mode &&
        aclModeAllowed (aclFlags d.mode (parseIp (some client))) mode) := by
  -- the symmetric and the broadcast modes are gated by a field of the configuration each
  have hgate : ∀ enabled : ModeConfig → UInt8, ((do
      let cfg ← modeHandlerGetConfig
      if enabled cfg = 0 then return false
      else aclCheckTable (parseIp (some client)) mode : DProc Bool) d).ret =
        (decide (enabled d.mode.config ≠ 0) &&
          aclModeAllowed (aclFlags d.mode (parseIp (some client))) mode) := by
    intro enabled
    rw [bind_ret, ite_ret]
    show (if enabled d.mode.config = 0 then false else
      aclModeAllowed (aclFlags d.mode (parseIp (some client))) mode) = _
    split_ifs with hoff
    · simp [hoff]
    · simp [hoff]
  unfold aclCheckClient modeGate
  rw [if_neg nofun, if_neg hip]
  -- every other mode is looked up without a gate
  split_ifs with hsymmetric hbroadcast
  · exact hgate ModeConfig.enableSymmetricMode
  · exact hgate ModeConfig.enableBroadcast
  · rw [Bool.true_and]
    rfl

/-- `acl_check_client` permits what the flags of the client permit. -/
theorem aclCheckClient_iff {client : CString} (hip : ¬ parseIp (some client) = 0) (mode : UInt8)
    (d : Daemon) : (aclCheckClient (some client) mode d).ret = true ↔
      Permits d.mode.config (aclFlags d.mode (parseIp (some client))) mode := by
  rw [aclCheckClient_ret hip, modeGate_and_aclModeAllowed_iff]

/-- `acl_get_client_flags` returns the flags of the client. -/
theorem aclGetClientFlags_ret {client : CString} (hip : ¬ parseIp (some client) = 0)
    (d : Daemon) : (aclGetClientFlags (some client) d).ret =
      aclFlags d.mode (parseIp (some client)) := by
  unfold aclGetClientFlags
  rw [if_neg (not_or.mpr ⟨nofun, hip⟩)]
  rfl

/-! ### Any sequence of edits -/

/-- What a client is told: both lookups find the flags of the first rule that has it. -/
structure AnswersByRules (d : Daemon) (rules : List AclRule) (client : Quad) : Prop where
  flags : (aclGetClientFlags (some client.text) d).ret =
    ruleFlags d.mode.config.aclDefaultPolicy rules client.addr
  permits : ∀ mode, (aclCheckClient (some client.text) mode d).ret = true ↔
    Permits d.mode.config (ruleFlags d.mode.config.aclDefaultPolicy rules client.addr) mode

theorem HoldsRules.answersByRules {cfg : ModeConfig} {d : Daemon} {rules : List AclRule}
    (h : HoldsRules cfg d rules) {client : Quad} (hclient : client.addr ≠ 0) :
    AnswersByRules d rules client := by
  have hip : ¬ parseIp (some client.text) = 0 := by
    rw [parseIp_text, htonl_eq_zero_iff]
    exact hclient
  have hflags : aclFlags d.mode (parseIp (some client.text)) =
      ruleFlags d.mode.config.aclDefaultPolicy rules client.addr := by
    rw [parseIp_text, aclFlags_eq_ruleFlags h, h.config]
  constructor
  · rw [aclGetClientFlags_ret hip, hflags]
  · intro mode
    rw [aclCheckClient_iff hip, hflags]

/-- After any sequence of edits of an empty table the results and the table are those of the list of
rules, an edit that fails changes nothing, and clients are told what the rules say. -/
theorem aclTable_refines (ops : List AclOp) {d : Daemon} (hempty : d.mode.aclEntries = []) :
    let run := runOps AclOp.step ops d
    let rules := runOps AclOp.edit ops []
    run.1 = rules.1 ∧ run.2.mode.aclEntries = rules.2.map AclRule.entry ∧
      run.2.mode.config = d.mode.config ∧ rules.2.length ≤ 256 ∧
      (∀ op : AclOp, (op.call run.2).ret ≠ 0 → (op.call run.2).state = run.2) ∧
      ∀ client : Quad, client.addr ≠ 0 → AnswersByRules run.2 rules.2 client := by
  intro run rules
  have hstart : HoldsRules d.mode.config d [] := ⟨hempty, rfl, Nat.zero_le _⟩
  have hrun : run.1 = rules.1 ∧ HoldsRules d.mode.config run.2 rules.2 :=
    runOps_simulates (aclOps_simulates d.mode.config) hstart
  obtain ⟨hresults, hholds⟩ := hrun
  exact ⟨hresults, hholds.entries, hholds.config, hholds.length_le,
    fun op hfail => aclOp_failed hholds hfail, fun client => hholds.answersByRules⟩

/-- `10.0.0.0/8`. -/
def tenNetwork : AclNetwork := ⟨⟨⟨10, 0, 0, 0⟩, some 8⟩, by decide⟩

/-- `192.168.1.0/24`, with bits set behind the prefix. -/
def lanNetwork : AclNetwork := ⟨⟨⟨192, 168, 1, 77⟩, some 24⟩, by decide⟩

/-- The first rule is removed again; the second one applies to its clients. -/
theorem aclTable_refines_init :
    let run := runOps AclOp.step
      [.addEntry tenNetwork 0, .addEntry lanNetwork 2, .removeEntry tenNetwork] Daemon.init
    run.1 = [0, 0, 0] ∧
      (aclGetClientFlags (some (Quad.mk 192 168 1 7).text) run.2).ret = 2 ∧
      (aclGetClientFlags (some (Quad.mk 10 0 0 1).text) run.2).ret = 7 := by
  intro run
  obtain ⟨hresults, -, hconfig, -, -, hclients⟩ := aclTable_refines
    [.addEntry tenNetwork 0, .addEntry lanNetwork 2, .removeEntry tenNetwork]
    (d := Daemon.init) rfl
  have hlan := (hclients (Quad.mk 192 168 1 7) (by decide)).flags
  have hten := (hclients (Quad.mk 10 0 0 1) (by decide)).flags
  rw [hconfig] at hlan hten
  exact ⟨hresults.trans (by decide), hlan.trans (by decide), hten.trans (by decide)⟩

end Dntpd
