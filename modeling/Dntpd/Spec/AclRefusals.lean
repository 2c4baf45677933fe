import Dntpd.ModeConfigFile
import Dntpd.Spec.AclTable
import Dntpd.Spec.RateLimit

/-!
# What the access control list refuses

The flag `nopeer` is parsed, stored and looked up, and no decision asks for it: the symmetric modes
are refused for `noserve` alone, or for everyone (`refusalsEnforced_iff`).

A text that is no address is read as `INADDR_NONE`, while the callers test for 0.  So such a client
has the rights and the rate-limit entry of `255.255.255.255` (`notAddress_asBroadcast`).
-/

namespace Dntpd

open Proc

/-! ### Flags -/

/-- A client without an address is refused. -/
theorem aclCheckClient_of_parseIp_eq_zero {clientIp : Option CString} (hip : parseIp clientIp = 0)
    (mode : UInt8) (d : Daemon) : (aclCheckClient clientIp mode d).ret = false := by
  unfold aclCheckClient
  dsimp only
  rw [ite_ret, ite_ret, if_pos hip]
  exact ite_self _

/-- Each flag that applies to the client refuses the modes it is documented for. -/
structure RefusalsEnforced (clientIp : Option CString) (d : Daemon) : Prop where
  noquery : (aclGetClientFlags clientIp d).ret &&& aclFlagNoquery ≠ 0 →
    ∀ mode ∈ ([6, 7] : List UInt8), (aclCheckClient clientIp mode d).ret = false
  noserve : (aclGetClientFlags clientIp d).ret &&& aclFlagNoserve ≠ 0 →
    ∀ mode ∈ ([1, 2, 3, 4, 5] : List UInt8), (aclCheckClient clientIp mode d).ret = false
  nopeer : (aclGetClientFlags clientIp d).ret &&& aclFlagNopeer ≠ 0 →
    ∀ mode ∈ ([1, 2] : List UInt8), (aclCheckClient clientIp mode d).ret = false

theorem aclCheckClient_query_iff {client : CString} (hip : ¬ parseIp (some client) = 0)
    (d : Daemon) {mode : UInt8} (hmode : mode ∈ ([6, 7] : List UInt8)) :
    (aclCheckClient (some client) mode d).ret = false ↔
      (aclGetClientFlags (some client) d).ret &&& aclFlagNoquery ≠ 0 := by
  rw [← Bool.not_eq_true, aclCheckClient_iff hip, aclGetClientFlags_ret hip]
  unfold Permits
  simp only [List.mem_cons, List.not_mem_nil, or_false] at hmode
  rcases hmode with rfl | rfl <;> simp

theorem aclCheckClient_symmetric_iff {client : CString} (hip : ¬ parseIp (some client) = 0)
    (d : Daemon) {mode : UInt8} (hmode : mode ∈ ([1, 2] : List UInt8)) :
    (aclCheckClient (some client) mode d).ret = false ↔
      (aclGetClientFlags (some client) d).ret &&& aclFlagNoserve ≠ 0 ∨
        d.mode.config.enableSymmetricMode = 0 := by
  rw [← Bool.not_eq_true, aclCheckClient_iff hip, aclGetClientFlags_ret hip]
  unfold Permits
  simp only [List.mem_cons, List.not_mem_nil, or_false] at hmode
  rcases hmode with rfl | rfl <;> simp [imp_iff_not_or]

theorem aclCheckClient_noserve {client : CString} (hip : ¬ parseIp (some client) = 0)
    (d : Daemon) {mode : UInt8} (hmode : mode ∈ ([1, 2, 3, 4, 5] : List UInt8))
    (hnoserve : (aclGetClientFlags (some client) d).ret &&& aclFlagNoserve ≠ 0) :
    (aclCheckClient (some client) mode d).ret = false := by
  rw [aclGetClientFlags_ret hip] at hnoserve
  rw [← Bool.not_eq_true, aclCheckClient_iff hip]
  unfold Permits
  simp only [List.mem_cons, List.not_mem_nil, or_false] at hmode
  rcases hmode with rfl | rfl | rfl | rfl | rfl <;> simp [hnoserve]

/-- **The refusals are enforced** exactly if `nopeer` does not apply, `noserve` does as well, the
symmetric modes are disabled, or the client is refused for its address. -/
theorem refusalsEnforced_iff (clientIp : Option CString) (d : Daemon) :
    RefusalsEnforced clientIp d ↔
      (aclGetClientFlags clientIp d).ret &&& aclFlagNopeer = 0 ∨
        (aclGetClientFlags clientIp d).ret &&& aclFlagNoserve ≠ 0 ∨
          d.mode.config.enableSymmetricMode = 0 ∨ parseIp clientIp = 0 := by
  -- an address that does not parse is refused everything
  by_cases hip : parseIp clientIp = 0
  · have hrefused := fun mode => aclCheckClient_of_parseIp_eq_zero hip mode d
    exact iff_of_true ⟨fun _ mode _ => hrefused mode, fun _ mode _ => hrefused mode,
      fun _ mode _ => hrefused mode⟩ (.inr (.inr (.inr hip)))
  cases clientIp with
  | none => exact absurd rfl hip
  | some client =>
    rw [or_iff_left hip]
    constructor
    · -- for the symmetric modes only `noserve` and the configuration are tested
      intro h
      by_cases hnopeer : (aclGetClientFlags (some client) d).ret &&& aclFlagNopeer = 0
      · exact .inl hnopeer
      · exact .inr ((aclCheckClient_symmetric_iff hip d (by decide)).mp
          (h.nopeer hnopeer 1 (by decide)))
    · intro h
      refine ⟨fun hnoquery mode hmode => (aclCheckClient_query_iff hip d hmode).mpr hnoquery,
        fun hnoserve mode hmode => aclCheckClient_noserve hip d hmode hnoserve,
        fun hnopeer mode hmode => ?_⟩
      exact (aclCheckClient_symmetric_iff hip d hmode).mpr (h.resolve_left hnopeer)

/-- A table whose only entry gives `10.0.0.0/8` the flag `nopeer`. -/
def nopeerServer : Daemon :=
  Daemon.init.withAcl [⟨htonl 0x0A000000, htonl 0xFF000000, aclFlagNopeer⟩]

/-- A client of that network is admitted in the symmetric active mode. -/
theorem refusalsEnforced_nopeer_fails :
    ¬ RefusalsEnforced (some "10.0.0.1".toList) nopeerServer ∧
      (aclGetClientFlags (some "10.0.0.1".toList) nopeerServer).ret = aclFlagNopeer ∧
      (aclCheckClient (some "10.0.0.1".toList) 1 nopeerServer).ret = true := by
  have hflags : (aclGetClientFlags (some "10.0.0.1".toList) nopeerServer).ret = aclFlagNopeer := by
    decide
  have hadmitted : (aclCheckClient (some "10.0.0.1".toList) 1 nopeerServer).ret = true := by decide
  refine ⟨fun h => ?_, hflags, hadmitted⟩
  have hrefused := h.nopeer (by rw [hflags]; decide) 1 (by decide)
  exact absurd (hrefused.symm.trans hadmitted) (by decide)

/-! ### Texts that are no addresses -/

/-- The text is no IPv4 address. -/
def NotAddress (s : CString) : Prop := scanAddress 4 [] s = none

instance (s : CString) : Decidable (NotAddress s) := by
  unfold NotAddress
  infer_instance

/-- The text of the address whose bits are all set. -/
def broadcastText : CString := "255.255.255.255".toList

theorem parseIp_notAddress {s : CString} (h : NotAddress s) : parseIp (some s) = inaddrNone := by
  show inetAddr s = inaddrNone
  unfold inetAddr
  rw [h]

theorem parseIp_broadcastText : parseIp (some broadcastText) = inaddrNone := by decide

/-- The clients have one entry of the rate table: the one that a request of the first leaves is
found for the second. -/
def SharesRateEntry (s s' : CString) (m : ModeState) (now : ℤ) : Prop :=
  ∃ i, rateLimitFind (rateLimitUpdate m (some s) now) (some s) = some i ∧
    rateLimitFind (rateLimitUpdate m (some s) now) (some s') = some i

/-- Clients that are read as one address share their entry. -/
theorem sharesRateEntry_of_parseIp_eq {s s' : CString} (hip : parseIp (some s) ≠ 0)
    (heq : parseIp (some s') = parseIp (some s)) (m : ModeState) (now : ℤ) :
    SharesRateEntry s s' m now := by
  obtain ⟨i, -, hfind, -⟩ := rateLimitFind_update hip m now
  refine ⟨i, hfind, ?_⟩
  rw [← hfind]
  unfold rateLimitFind
  rw [heq]

/-- The client is refused, and no request of it counts for the other. -/
structure RefusedApart (s s' : CString) (mode : UInt8) (d : Daemon) (now : ℤ) : Prop where
  refused : (aclCheckClient (some s) mode d).ret = false
  apart : ¬ SharesRateEntry s s' d.mode now

/-- **A text that is no address stands for `255.255.255.255`**: it is refused exactly where that
address is, and it shares its rate-limit entry with it and with every other such text. -/
theorem notAddress_asBroadcast {s s' : CString} (hs : NotAddress s)
    (hs' : NotAddress s' ∨ s' = broadcastText) (mode : UInt8) (d : Daemon) (now : ℤ) :
    ¬ RefusedApart s s' mode d now ∧ SharesRateEntry s s' d.mode now ∧
      (aclCheckClient (some s) mode d).ret = (aclCheckClient (some broadcastText) mode d).ret := by
  have hip := parseIp_notAddress hs
  have hip' : parseIp (some s') = inaddrNone := by
    rcases hs' with hs' | rfl
    · exact parseIp_notAddress hs'
    · exact parseIp_broadcastText
  have hne : parseIp (some s) ≠ 0 := by
    rw [hip]
    decide
  have hshares := sharesRateEntry_of_parseIp_eq hne (hip'.trans hip.symm) d.mode now
  refine ⟨fun h => h.apart hshares, hshares, ?_⟩
  have hbroadcast : ¬ parseIp (some broadcastText) = 0 := by decide
  rw [aclCheckClient_ret hne, aclCheckClient_ret hbroadcast, hip, parseIp_broadcastText]

/-- A daemon whose default policy restricts nobody. -/
def unrestrictedServer : Daemon :=
  { Daemon.init with mode := { Daemon.init.mode with
    config := { Daemon.init.mode.config with aclDefaultPolicy := 0 } } }

/-- Two IPv6 addresses are one client. -/
theorem notAddress_asBroadcast_ipv6 :
    ¬ RefusedApart "::1".toList "fe80::1".toList 3 unrestrictedServer 1700000000 ∧
      SharesRateEntry "::1".toList "fe80::1".toList unrestrictedServer.mode 1700000000 ∧
      (aclCheckClient (some "::1".toList) 3 unrestrictedServer).ret =
        (aclCheckClient (some broadcastText) 3 unrestrictedServer).ret :=
  notAddress_asBroadcast (by decide) (.inl (by decide)) 3 unrestrictedServer 1700000000

/-- One of them is served. -/
theorem notAddress_admitted :
    NotAddress "::1".toList ∧
      (aclCheckClient (some "::1".toList) 3 unrestrictedServer).ret = true ∧
      ¬ ∀ s, NotAddress s → ∀ mode d, (aclCheckClient (some s) mode d).ret = false := by
  have hno : NotAddress "::1".toList := by decide
  have hadmitted : (aclCheckClient (some "::1".toList) 3 unrestrictedServer).ret = true := by decide
  exact ⟨hno, hadmitted, fun h => absurd ((h _ hno 3 unrestrictedServer).symm.trans hadmitted)
    (by decide)⟩

end Dntpd
