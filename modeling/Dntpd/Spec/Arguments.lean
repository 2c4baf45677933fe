import Dntpd.Arguments
import Dntpd.Spec.AddressFamily

/-!
# The address-family options

Of all options, only those of the address family concern `family_preference`, and no option takes
one of them for its value.  So a command line that is accepted to its end is a fold of
`familyAfter` over its arguments (`parseOptions_family`).

The number it leaves is 1 for IPv4 and 2 for IPv6, where `create_udp_socket` takes 1 for IPv6 and
2 for both families.
-/

namespace Dntpd

/-! ### One option -/

/-- What an argument does to the preference; `none` if it ends the loop. -/
def familyAfter (preference : ℤ) (arg : CString) : Option ℤ :=
  if isOption "-4" "--ipv4" arg then if preference = 2 then none else some 1
  else if isOption "-6" "--ipv6" arg then if preference = 1 then none else some 2
  else some preference

/-- The option leaves the preference alone, and uses up an argument only if that can be a value. -/
def KeepsFamily (cli : CliConfig) (next : Option CString) (r : OptionResult) : Prop :=
  ∀ cli' used, r = .ok (cli', used) → cli'.familyPreference = cli.familyPreference ∧
    (used = true → (valueBehind next).isSome)

namespace KeepsFamily

variable {cli : CliConfig} {next : Option CString}

theorem error (exit : ParseExit) : KeepsFamily cli next (.error exit) := by
  rintro _ _ ⟨⟩

theorem takeSwitch {cli' : CliConfig} (h : cli'.familyPreference = cli.familyPreference) :
    KeepsFamily cli next (Dntpd.takeSwitch cli') := by
  rintro _ _ ⟨⟩
  exact ⟨h, nofun⟩

theorem ite {c : Prop} [Decidable c] {r r' : OptionResult} (hr : KeepsFamily cli next r)
    (hr' : KeepsFamily cli next r') : KeepsFamily cli next (if c then r else r') := by
  split_ifs
  · exact hr
  · exact hr'

theorem takeNumber {value : Option ℤ} {message : String} {set : ℤ → CliConfig} {used : Bool}
    (hset : ∀ v, (set v).familyPreference = cli.familyPreference)
    (hused : used = true → (valueBehind next).isSome) :
    KeepsFamily cli next (Dntpd.takeNumber value message set used) := by
  cases value with
  | none => exact error _
  | some v =>
    rintro _ _ ⟨⟩
    exact ⟨hset v, hused⟩

theorem takeValue {message : String} {set : CString → CliConfig}
    (hset : ∀ v, (set v).familyPreference = cli.familyPreference) :
    KeepsFamily cli next (Dntpd.takeValue next message set) := by
  unfold Dntpd.takeValue
  cases hvalue : valueBehind next with
  | none => exact error _
  | some v =>
    rintro _ _ ⟨⟩
    exact ⟨hset v, fun _ => by rw [hvalue]; rfl⟩

theorem takeDebugLevel : KeepsFamily cli next (Dntpd.takeDebugLevel cli next) := by
  unfold Dntpd.takeDebugLevel
  cases hvalue : valueBehind next with
  | none => exact takeSwitch rfl
  | some v => exact takeNumber (fun _ => rfl) fun _ => by rw [hvalue]; rfl

theorem takeTimeout : KeepsFamily cli next (Dntpd.takeTimeout cli next) := by
  unfold Dntpd.takeTimeout
  cases hvalue : valueBehind next with
  | none => exact error _
  | some v => exact takeNumber (fun _ => rfl) fun _ => by rw [hvalue]; rfl

/-- An option with its value attached. -/
theorem attached {o : Option CString} {f : CString → OptionResult} {r : OptionResult}
    (hf : ∀ v, KeepsFamily cli next (f v)) (hr : KeepsFamily cli next r) :
    KeepsFamily cli next (if let some v := o then f v else r) := by
  cases o with
  | none => exact hr
  | some v => exact hf v

theorem parseOptionTail {arg : CString} (h4 : ¬ isOption "-4" "--ipv4" arg)
    (h6 : ¬ isOption "-6" "--ipv6" arg) :
    KeepsFamily cli next (Dntpd.parseOptionTail arg next cli) := by
  unfold Dntpd.parseOptionTail
  rw [if_neg h4, if_neg h6]
  refine .ite (.takeValue fun _ => rfl) (.attached (fun _ => .takeSwitch rfl) ?_)
  refine .ite (.takeValue fun _ => rfl) (.attached (fun _ => .takeSwitch rfl) ?_)
  refine .ite (.takeSwitch rfl) (.attached (fun _ => .takeSwitch rfl) ?_)
  exact .attached (fun _ => .takeSwitch rfl) (.ite (.takeSwitch rfl) (.error _))

theorem parseOption {arg : CString} (h4 : ¬ isOption "-4" "--ipv4" arg)
    (h6 : ¬ isOption "-6" "--ipv6" arg) :
    KeepsFamily cli next (Dntpd.parseOption arg next cli) := by
  unfold Dntpd.parseOption
  refine .ite (.error _) (.ite (.error _) (.ite (.takeValue fun _ => rfl) ?_))
  refine .attached (fun _ => .takeSwitch rfl) (.ite (.takeSwitch rfl) (.ite (.takeSwitch rfl) ?_))
  refine .ite .takeDebugLevel (.attached (fun _ => .takeNumber (fun _ => rfl) nofun) ?_)
  refine .attached (fun _ => .takeNumber (fun _ => rfl) nofun) (.ite (.takeSwitch rfl) ?_)
  refine .ite (.takeValue fun _ => rfl) (.attached (fun _ => .takeSwitch rfl) ?_)
  refine .ite .takeTimeout (.attached (fun _ => .takeNumber (fun _ => rfl) nofun) ?_)
  refine .ite (.takeValue fun _ => rfl) (.attached (fun _ => .takeSwitch rfl) ?_)
  exact .parseOptionTail h4 h6

end KeepsFamily

theorem isOption_iff {short long : String} {arg : CString} :
    isOption short long arg = true ↔ arg = short.toList ∨ arg = long.toList := by
  unfold isOption
  rw [Bool.or_eq_true, beq_iff_eq, beq_iff_eq]

theorem parseOption_ipv4 {arg : CString} (h : isOption "-4" "--ipv4" arg = true)
    (next : Option CString) (cli : CliConfig) : parseOption arg next cli = takeIpv4 cli := by
  rcases isOption_iff.mp h with rfl | rfl
  · rfl
  · rfl

theorem parseOption_ipv6 {arg : CString} (h : isOption "-6" "--ipv6" arg = true)
    (next : Option CString) (cli : CliConfig) : parseOption arg next cli = takeIpv6 cli := by
  rcases isOption_iff.mp h with rfl | rfl
  · rfl
  · rfl

/-- An argument that can be a value is no option. -/
theorem familyAfter_of_value {next : Option CString} {value : CString}
    (h : valueBehind next = some value) (preference : ℤ) :
    familyAfter preference value = some preference := by
  have hhead : value.head? ≠ some '-' := by
    have hfilter := (Option.filter_eq_some_iff.mp h).2
    exact of_decide_eq_true hfilter
  have hnot : ∀ {short long : String}, short.toList.head? = some '-' →
      long.toList.head? = some '-' → ¬ isOption short long value = true := by
    intro short long hshort hlong hopt
    rcases isOption_iff.mp hopt with rfl | rfl
    · exact hhead hshort
    · exact hhead hlong
  unfold familyAfter
  rw [if_neg (hnot rfl rfl), if_neg (hnot rfl rfl)]

/-- An option that does not end the loop does to the preference what `familyAfter` says, and what it
uses up can be a value. -/
theorem parseOption_ok {arg : CString} {next : Option CString} {cli cli' : CliConfig} {used : Bool}
    (h : parseOption arg next cli = .ok (cli', used)) :
    familyAfter cli.familyPreference arg = some cli'.familyPreference ∧
      (used = true → (valueBehind next).isSome) := by
  unfold familyAfter
  -- `-4` and `-6` store a family, the other options leave it alone
  by_cases h4 : isOption "-4" "--ipv4" arg = true
  · rw [parseOption_ipv4 h4, takeIpv4] at h
    rw [if_pos h4]
    split_ifs at h ⊢
    cases h
    exact ⟨rfl, nofun⟩
  by_cases h6 : isOption "-6" "--ipv6" arg = true
  · rw [parseOption_ipv6 h6, takeIpv6] at h
    rw [if_neg h4, if_pos h6]
    split_ifs at h ⊢
    cases h
    exact ⟨rfl, nofun⟩
  · obtain ⟨hkept, hused⟩ := KeepsFamily.parseOption h4 h6 cli' used h
    rw [if_neg h4, if_neg h6, hkept]
    exact ⟨rfl, hused⟩

/-! ### The whole command line -/

/-- A command line that is accepted to its end does to the preference what its arguments do one
after the other. -/
theorem parseOptions_family {args : List CString} {cli cli' : CliConfig}
    (h : parseOptions args cli = (none, cli')) :
    args.foldlM familyAfter cli.familyPreference = some cli'.familyPreference := by
  fun_induction parseOptions args cli with
  | case1 cli =>
    cases h
    rfl
  | case2 arg cli exit hstep => cases h
  | case3 arg cli cli₁ used hstep =>
    cases h
    rw [List.foldlM_cons, (parseOption_ok hstep).1]
    rfl
  | case4 arg next args cli exit hstep => cases h
  | case5 arg next args cli cli₁ hstep ih =>
    obtain ⟨hfirst, hused⟩ := parseOption_ok hstep
    -- the option takes the next argument, which is no option itself
    obtain ⟨value, hvalue⟩ := Option.isSome_iff_exists.mp (hused rfl)
    obtain rfl : next = value := Option.some.inj (Option.filter_eq_some_iff.mp hvalue).1
    rw [List.foldlM_cons, hfirst, Option.bind_eq_bind, Option.bind_some, List.foldlM_cons,
      familyAfter_of_value hvalue]
    exact ih h
  | case6 arg next args cli cli₁ hstep ih =>
    rw [List.foldlM_cons, (parseOption_ok hstep).1]
    exact ih h

/-- One of the arguments is the option. -/
def HasOption (short long : String) (args : List CString) : Prop :=
  ∃ arg ∈ args, isOption short long arg = true

instance (short long : String) (args : List CString) : Decidable (HasOption short long args) := by
  unfold HasOption
  infer_instance

theorem not_ipv4_of_ipv6 {arg : CString} (h : isOption "-6" "--ipv6" arg = true) :
    ¬ isOption "-4" "--ipv4" arg = true := by
  rcases isOption_iff.mp h with rfl | rfl
  · decide
  · decide

/-- A family that is chosen stays. -/
theorem familyAfter_of_chosen {v preference : ℤ} (hv : v = 1 ∨ v = 2) {arg : CString}
    (h : familyAfter v arg = some preference) : preference = v := by
  unfold familyAfter at h
  rcases hv with rfl | rfl
  · rw [if_neg (by decide : ¬ (1 : ℤ) = 2), if_pos rfl] at h
    split_ifs at h <;> exact (Option.some.inj h).symm
  · rw [if_pos rfl, if_neg (by decide : ¬ (2 : ℤ) = 1)] at h
    split_ifs at h <;> exact (Option.some.inj h).symm

theorem foldlM_of_chosen {v preference : ℤ} (hv : v = 1 ∨ v = 2) {args : List CString}
    (h : args.foldlM familyAfter v = some preference) : preference = v := by
  induction args with
  | nil =>
    cases h
    rfl
  | cons arg args ih =>
    rw [List.foldlM_cons] at h
    obtain ⟨first, hfirst, hrest⟩ := Option.bind_eq_some_iff.mp h
    rw [familyAfter_of_chosen hv hfirst] at hrest
    exact ih hrest

/-- What an option leaves is there at the end. -/
theorem foldlM_of_mem {v start preference : ℤ} (hv : v = 1 ∨ v = 2) {args : List CString}
    {arg : CString} (hmem : arg ∈ args)
    (hsets : ∀ p q, familyAfter p arg = some q → q = v)
    (h : args.foldlM familyAfter start = some preference) : preference = v := by
  -- the arguments before the option, the option, and those behind it
  obtain ⟨before, behind, rfl⟩ := List.append_of_mem hmem
  rw [List.foldlM_append] at h
  obtain ⟨p, -, hrest⟩ := Option.bind_eq_some_iff.mp h
  rw [List.foldlM_cons] at hrest
  obtain ⟨q, hset, hbehind⟩ := Option.bind_eq_some_iff.mp hrest
  rw [hsets p q hset] at hbehind
  exact foldlM_of_chosen hv hbehind

theorem family_of_ipv4 {start preference : ℤ} {args : List CString}
    (h : args.foldlM familyAfter start = some preference) (hargs : HasOption "-4" "--ipv4" args) :
    preference = 1 := by
  obtain ⟨arg, hmem, hopt⟩ := hargs
  refine foldlM_of_mem (.inl rfl) hmem (fun p q hset => ?_) h
  unfold familyAfter at hset
  rw [if_pos hopt] at hset
  split_ifs at hset
  exact (Option.some.inj hset).symm

theorem family_of_ipv6 {start preference : ℤ} {args : List CString}
    (h : args.foldlM familyAfter start = some preference) (hargs : HasOption "-6" "--ipv6" args) :
    preference = 2 := by
  obtain ⟨arg, hmem, hopt⟩ := hargs
  refine foldlM_of_mem (.inr rfl) hmem (fun p q hset => ?_) h
  unfold familyAfter at hset
  rw [if_neg (not_ipv4_of_ipv6 hopt), if_pos hopt] at hset
  split_ifs at hset
  exact (Option.some.inj hset).symm

/-! ### The sockets -/

/-- With these options both functions create sockets of the family, and no others. -/
def MeansFamily (cli : CliConfig) (family : AddressFamily) : Prop :=
  ∀ d : Daemon, d.cli = cli →
    (∀ port env, 0 < port → port ≤ 65535 →
      SocketCalls.families (SocketCalls.createUdpSocket port env d).trace = [family]) ∧
    (∀ env, d.socket.syncSock < 0 →
      SocketCalls.families (SocketCalls.getSyncSocket env d).trace = [family])

/-- The options mean what the arguments say of the address family. -/
structure FamilyOptionsHonoured (args : List CString) (cli : CliConfig) : Prop where
  ipv4 : HasOption "-4" "--ipv4" args → MeansFamily cli .inet
  ipv6 : HasOption "-6" "--ipv6" args → MeansFamily cli .inet6
  exclusive : ¬ (HasOption "-4" "--ipv4" args ∧ HasOption "-6" "--ipv6" args)

theorem meansFamily_iff {cli : CliConfig} {family : AddressFamily} :
    MeansFamily cli family ↔
      SocketCalls.udpFamily cli.familyPreference = family ∧
        SocketCalls.syncFamily cli.familyPreference = family := by
  constructor
  · intro h
    obtain ⟨hudp, hsync⟩ := h { Daemon.init with cli := cli } rfl
    have hcreated := hudp 123 ⟨⟨.error EAGAIN, .ok (), .ok ()⟩, .ok ()⟩ (by decide) (by decide)
    have hcached := hsync ⟨⟨.error EAGAIN, .ok (), .ok ()⟩, .ok ()⟩ (by exact neg_one_lt_zero)
    rw [SocketCalls.families_createUdpSocket (by decide) (by decide)] at hcreated
    rw [SocketCalls.families_getSyncSocket _ (by exact neg_one_lt_zero)] at hcached
    exact ⟨List.singleton_inj.mp hcreated, List.singleton_inj.mp hcached⟩
  · rintro ⟨hudp, hsync⟩ d rfl
    constructor
    · intro port env hpos hle
      rw [SocketCalls.families_createUdpSocket hpos hle, hudp]
    · intro env hnone
      rw [SocketCalls.families_getSyncSocket env hnone, hsync]

theorem ParseExit.status_eq_zero_iff {exit : Option ParseExit} :
    ParseExit.status exit = 0 ↔ exit = none := by
  rcases exit with - | (- | - | - | -)
  · exact iff_of_true rfl rfl
  all_goals exact iff_of_false (by rw [ParseExit.status]; decide) nofun

theorem parseArguments_family {args : List CString} {cli : CliConfig}
    (h : (parseArguments args cli).1 = 0) :
    args.foldlM familyAfter cli.familyPreference =
      some (parseArguments args cli).2.familyPreference :=
  parseOptions_family (Prod.ext (ParseExit.status_eq_zero_iff.mp h) rfl)

/-- A command line that is accepted has its address family everywhere exactly if it names none. -/
theorem familyOptions_honoured_iff {args : List CString}
    (h : (parseArguments args CliConfig.init).1 = 0) :
    FamilyOptionsHonoured args (parseArguments args CliConfig.init).2 ↔
      ¬ HasOption "-4" "--ipv4" args ∧ ¬ HasOption "-6" "--ipv6" args := by
  have hfamily := parseArguments_family h
  generalize (parseArguments args CliConfig.init).2 = cli at hfamily ⊢
  constructor
  · rintro ⟨hipv4, hipv6, -⟩
    constructor
    · intro hargs
      have hudp := (meansFamily_iff.mp (hipv4 hargs)).1
      -- `create_udp_socket` takes 1 for IPv6
      rw [family_of_ipv4 hfamily hargs] at hudp
      exact absurd hudp (by decide)
    · intro hargs
      have hudp := (meansFamily_iff.mp (hipv6 hargs)).1
      -- and 2 for both families, served by an IPv4 socket
      rw [family_of_ipv6 hfamily hargs] at hudp
      exact absurd hudp (by decide)
  · rintro ⟨hno4, hno6⟩
    exact ⟨fun hargs => absurd hargs hno4, fun hargs => absurd hargs hno6,
      fun hboth => hno4 hboth.1⟩

theorem familyOptions_honoured_foreground :
    (parseArguments ["-f".toList] CliConfig.init).1 = 0 ∧
      FamilyOptionsHonoured ["-f".toList] (parseArguments ["-f".toList] CliConfig.init).2 :=
  ⟨by decide, (familyOptions_honoured_iff (by decide)).mpr (by decide)⟩

/-- `-4` is accepted, and makes the listener an IPv6 socket. -/
theorem ipv4Option_not_honoured :
    (parseArguments ["-4".toList] CliConfig.init).1 = 0 ∧
      ¬ FamilyOptionsHonoured ["-4".toList] (parseArguments ["-4".toList] CliConfig.init).2 := by
  refine ⟨by decide, fun h => ?_⟩
  have hudp := (meansFamily_iff.mp (h.ipv4 (by decide))).1
  exact absurd hudp (by decide)

end Dntpd
