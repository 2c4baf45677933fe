import Dntpd.ArgumentReads
import Dntpd.Spec.ServerConfigFile

/-!
# What the command line and the server list leave in `g_cli`

An option ends the loop, goes on to the next argument, or takes the next argument for its value
(`OptionUses`).  So the arguments are visited one after the other, each once, up to where the loop
is left (`Argv.parseOptions_uses`).

Every number that is stored has been compared with its bounds, on the command line and in the file
(`Argv.parseOptions_preserves`, `loadServerLine_inRange`).
-/

namespace Dntpd

open Proc

/-! ### Values -/

/-- The values that the rest of the daemon counts on. -/
structure CliInRange (cli : CliConfig) : Prop where
  timeout : 1 ≤ cli.timeoutSec ∧ cli.timeoutSec ≤ 86400
  debug : 0 ≤ cli.debugLevel ∧ cli.debugLevel ≤ 3
  interval : 32 ≤ cli.broadcastInterval ∧ cli.broadcastInterval ≤ 128
  family : 0 ≤ cli.familyPreference ∧ cli.familyPreference ≤ 2
  addr : ∀ addr ∈ cli.broadcastAddr, addr.length ≤ 15

theorem CliConfig.init_inRange : CliInRange CliConfig.init where
  timeout := by decide
  debug := by decide
  interval := by decide
  family := by decide
  addr := nofun

/-- What `parse_positive_int` stores is within its bounds. -/
theorem parsePositiveInt_bounds {str : CString} {minVal maxVal v : ℤ}
    (h : parsePositiveInt str minVal maxVal = some v) : minVal ≤ v ∧ v ≤ maxVal := by
  unfold parsePositiveInt at h
  dsimp only at h
  split_ifs at h with hstr hend hrange
  obtain rfl := Option.some.inj h
  omega

theorem setDebugLevel_inRange {v : ℤ} (hmin : 0 ≤ v) (hmax : v ≤ maxDebugLevel) (cli : CliConfig)
    (h : CliInRange cli) : CliInRange { cli with debugLevel := v } :=
  { h with debug := ⟨hmin, hmax⟩ }

theorem setTimeout_inRange {v : ℤ} (hmin : minTimeoutSec ≤ v) (hmax : v ≤ maxTimeoutSec)
    (cli : CliConfig) (h : CliInRange cli) : CliInRange { cli with timeoutSec := v } :=
  { h with timeout := ⟨hmin, hmax⟩ }

theorem setFamily_inRange {v : ℤ} (hmin : 0 ≤ v) (hmax : v ≤ 2) (cli : CliConfig)
    (h : CliInRange cli) : CliInRange { cli with familyPreference := v } :=
  { h with family := ⟨hmin, hmax⟩ }

theorem setBroadcastAddr_inRange {addr : Option CString} (haddr : ∀ a ∈ addr, a.length ≤ 15)
    (cli : CliConfig) (h : CliInRange cli) : CliInRange { cli with broadcastAddr := addr } :=
  { h with addr := haddr }

/-! ### A turn of `Dntpd.parseOptions` -/

section

variable {arg : CString} {rest : List CString} {cli cli' : CliConfig}

theorem parseOptions_error {e : ParseExit} (h : parseOption arg rest.head? cli = .error e) :
    parseOptions (arg :: rest) cli = (some e, cli) := by
  cases rest with
  | nil =>
    rw [List.head?_nil] at h
    rw [parseOptions, h]
  | cons next rest =>
    rw [List.head?_cons] at h
    rw [parseOptions, h]

theorem parseOptions_alone (h : parseOption arg rest.head? cli = .ok (cli', false)) :
    parseOptions (arg :: rest) cli = parseOptions rest cli' := by
  cases rest with
  | nil =>
    rw [List.head?_nil] at h
    rw [parseOptions, parseOptions, h]
  | cons next rest =>
    rw [List.head?_cons] at h
    rw [parseOptions, h]

theorem parseOptions_taken (h : parseOption arg rest.head? cli = .ok (cli', true)) :
    parseOptions (arg :: rest) cli = parseOptions rest.tail cli' := by
  cases rest with
  | nil =>
    rw [List.head?_nil] at h
    rw [List.tail_nil, parseOptions, parseOptions, h]
  | cons next rest =>
    rw [List.head?_cons] at h
    rw [parseOptions, h, List.tail_cons]

end

namespace Argv

variable {argv : Argv} {i : ℕ}

/-! ### An option keeps the ranges -/

theorem takeSwitch_preserves {set : CliConfig → CliConfig}
    (hset : ∀ cli, CliInRange cli → CliInRange (set cli)) :
    Preserves CliInRange (takeSwitch set) :=
  (Preserves.update hset).bind fun _ => Preserves.pure _

theorem exit_preserves (e : ParseExit) : Preserves CliInRange (exit e) := Preserves.pure _

theorem usage_preserves (e : ParseExit) : Preserves CliInRange (usage e) := fun _ h => h

theorem valueBehind_preserves : Preserves CliInRange (argv.valueBehind i) :=
  .ite (.bind (fun _ h => h) fun _ => .ite (.bind (fun _ h => h) fun _ => .pure _) (.pure _))
    (.pure _)

theorem takeValue_preserves {message : String} {set : CString → CliConfig → CliConfig}
    (hset : ∀ v cli, CliInRange cli → CliInRange (set v cli)) :
    Preserves CliInRange (argv.takeValue i message set) := by
  refine valueBehind_preserves.bind fun value => ?_
  cases value with
  | none => exact exit_preserves _
  | some v => exact (Preserves.update (hset v)).bind fun _ => Preserves.pure _

theorem takeNumber_preserves {str : CString} {minVal maxVal : ℤ} {message : String}
    {set : ℤ → CliConfig → CliConfig} {used : Bool}
    (hset : ∀ v, minVal ≤ v → v ≤ maxVal → ∀ cli, CliInRange cli → CliInRange (set v cli)) :
    Preserves CliInRange (takeNumber (parsePositiveInt str minVal maxVal) message set used) := by
  unfold takeNumber
  cases hvalue : parsePositiveInt str minVal maxVal with
  | none => exact exit_preserves _
  | some v =>
    obtain ⟨hmin, hmax⟩ := parsePositiveInt_bounds hvalue
    exact (Preserves.update (hset v hmin hmax)).bind fun _ => Preserves.pure _

theorem takeDebugLevel_preserves : Preserves CliInRange (argv.takeDebugLevel i) := by
  refine valueBehind_preserves.bind fun value => ?_
  cases value with
  | none => exact takeSwitch_preserves (setDebugLevel_inRange (by decide) (by decide))
  | some v => exact takeNumber_preserves fun v hmin hmax => setDebugLevel_inRange hmin hmax

theorem takeTimeout_preserves : Preserves CliInRange (argv.takeTimeout i) := by
  refine valueBehind_preserves.bind fun value => ?_
  cases value with
  | none => exact exit_preserves _
  | some v => exact takeNumber_preserves fun v hmin hmax => setTimeout_inRange hmin hmax

theorem takeBroadcastAddr_preserves (value : CString) :
    Preserves CliInRange (argv.takeBroadcastAddr i value) := by
  refine takeSwitch_preserves (setBroadcastAddr_inRange fun addr haddr => ?_)
  split_ifs at haddr
  · obtain rfl := Option.some.inj haddr
    rw [List.length_take]
    exact Nat.min_le_left _ _
  · cases haddr

theorem takeIpv4_preserves : Preserves CliInRange takeIpv4 :=
  Preserves.read.bind fun _ => Preserves.ite (exit_preserves _)
    (takeSwitch_preserves (setFamily_inRange (by decide) (by decide)))

theorem takeIpv6_preserves : Preserves CliInRange takeIpv6 :=
  Preserves.read.bind fun _ => Preserves.ite (exit_preserves _)
    (takeSwitch_preserves (setFamily_inRange (by decide) (by decide)))

/-- An option with its value attached. -/
theorem attached_preserves {o : Option CString} {f : CString → OptionProc} {p : OptionProc}
    (hf : ∀ v, Preserves CliInRange (f v)) (hp : Preserves CliInRange p) :
    Preserves CliInRange (if let some v := o then f v else p) := by
  cases o with
  | none => exact hp
  | some v => exact hf v

theorem parseOptionTail_preserves (arg : CString) :
    Preserves CliInRange (argv.parseOptionTail i arg) := by
  unfold parseOptionTail
  refine .ite (takeValue_preserves fun _ _ h => { h with }) ?_
  refine attached_preserves (fun _ => takeSwitch_preserves fun _ h => { h with }) ?_
  refine .ite (takeValue_preserves fun _ _ h => { h with }) ?_
  refine attached_preserves (fun _ => takeSwitch_preserves fun _ h => { h with }) ?_
  refine .ite takeIpv4_preserves (.ite takeIpv6_preserves ?_)
  refine .ite (takeSwitch_preserves fun _ h => { h with }) ?_
  refine attached_preserves takeBroadcastAddr_preserves ?_
  refine attached_preserves takeBroadcastAddr_preserves ?_
  exact .ite (takeSwitch_preserves fun _ h => { h with }) (usage_preserves _)

/-- **An option keeps the ranges**, whatever it leads to. -/
theorem parseOption_preserves : Preserves CliInRange (argv.parseOption i) := by
  -- the options in the order in which they are compared
  refine Preserves.bind (fun _ h => h) fun _ => ?_
  unfold compareOption
  refine .ite (usage_preserves _) (.ite (exit_preserves _) ?_)
  refine .ite (takeValue_preserves fun _ _ h => { h with }) ?_
  refine attached_preserves (fun _ => takeSwitch_preserves fun _ h => { h with }) ?_
  refine .ite (takeSwitch_preserves fun _ h => { h with }) ?_
  refine .ite (takeSwitch_preserves fun _ h => { h with }) ?_
  refine .ite takeDebugLevel_preserves ?_
  refine attached_preserves
    (fun _ => takeNumber_preserves fun _ hmin hmax => setDebugLevel_inRange hmin hmax) ?_
  refine attached_preserves
    (fun _ => takeNumber_preserves fun _ hmin hmax => setDebugLevel_inRange hmin hmax) ?_
  refine .ite (takeSwitch_preserves (setDebugLevel_inRange (by decide) (by decide))) ?_
  refine .ite (takeValue_preserves fun _ _ h => { h with }) ?_
  refine attached_preserves (fun _ => takeSwitch_preserves fun _ h => { h with }) ?_
  refine .ite takeTimeout_preserves ?_
  refine attached_preserves
    (fun _ => takeNumber_preserves fun _ hmin hmax => setTimeout_inRange hmin hmax) ?_
  refine .ite (takeValue_preserves fun _ _ h => { h with }) ?_
  refine attached_preserves (fun _ => takeSwitch_preserves fun _ h => { h with }) ?_
  exact parseOptionTail_preserves _

/-! ### What an option does -/

/-- The arguments that are visited, in order. -/
def visits (trace : List ArgvUse) : List ℕ := trace.filterMap ArgvUse.visited

/-- What the option at `i` does, where `r` is what it leads to by `Dntpd.parseOption`.  Only the
text of a broadcast address depends on an allocation. -/
inductive OptionUses (argv : Argv) (i : ℕ) (cli : CliConfig) :
    Outcome CliConfig ArgvUse (Except ParseExit Bool) → OptionResult → Prop
  /-- The loop ends, perhaps because of the value behind the option. -/
  | exit {e : ParseExit} {trace : List ArgvUse} (inside : ∀ use ∈ trace, use.index < argv.argc)
      (hvisits : visits trace = [] ∨ visits trace = [i + 1]) :
      OptionUses argv i cli ⟨.error e, cli, trace⟩ (.error e)
  /-- The option stands alone. -/
  | alone {cli' : CliConfig} {trace : List ArgvUse} {r : OptionResult}
      (inside : ∀ use ∈ trace, use.index < argv.argc) (hvisits : visits trace = [])
      (hr : argv.strndup i = true → r = .ok (cli', false)) :
      OptionUses argv i cli ⟨.ok false, cli', trace⟩ r
  /-- The option takes the next argument for its value. -/
  | taken {cli' : CliConfig} {trace : List ArgvUse} (inside : ∀ use ∈ trace, use.index < argv.argc)
      (hvisits : visits trace = [i + 1]) (hi : i + 1 < argv.argc) :
      OptionUses argv i cli ⟨.ok true, cli', trace⟩ (.ok (cli', true))

/-- The value behind an option, with the uses of `argv` that it takes. -/
theorem valueBehind_cases (argv : Argv) (i : ℕ) (cli : CliConfig) :
    (∃ v, Dntpd.valueBehind argv.entries[i + 1]? = some v ∧ i + 1 < argv.argc ∧
      argv.valueBehind i cli = ⟨some v, cli, [.peek (i + 1), .value (i + 1)]⟩) ∨
    (Dntpd.valueBehind argv.entries[i + 1]? = none ∧
      ∃ trace, argv.valueBehind i cli = ⟨none, cli, trace⟩ ∧ visits trace = [] ∧
        ∀ use ∈ trace, use.index < argv.argc) := by
  unfold valueBehind Dntpd.valueBehind
  by_cases hi : i + 1 < argv.argc
  · have harg : argv.entries[i + 1]? = some (argv.arg (i + 1)) := by
      unfold arg
      rw [List.getD_eq_getElem?_getD, List.getElem?_eq_getElem hi, Option.getD_some]
    rw [harg, ite_run, if_pos hi]
    -- the next entry counts as a value unless it begins with a dash
    by_cases hhead : (argv.arg (i + 1)).head? ≠ some '-'
    · left
      refine ⟨argv.arg (i + 1), ?_, hi, ?_⟩
      · rw [Option.filter_some, if_pos (decide_eq_true hhead)]
      · rw [if_pos hhead]
        rfl
    · right
      refine ⟨?_, [.peek (i + 1)], ?_, rfl, ?_⟩
      · rw [Option.filter_some, if_neg fun h => hhead (of_decide_eq_true h)]
      · rw [if_neg hhead]
        rfl
      · intro use huse
        obtain rfl := List.mem_singleton.mp huse
        exact hi
  · right
    -- the option is the last entry, and none behind it is read
    have hnone : argv.entries[i + 1]? = none := List.getElem?_eq_none (Nat.le_of_not_lt hi)
    rw [hnone, ite_run, if_neg hi]
    exact ⟨rfl, [], rfl, rfl, nofun⟩

namespace OptionUses

variable {cli : CliConfig}

theorem error (e : ParseExit) : OptionUses argv i cli (Argv.exit e cli) (.error e) :=
  exit nofun (.inl rfl)

theorem usage (hi : i < argv.argc) (e : ParseExit) :
    OptionUses argv i cli (Argv.usage e cli) (.error e) := by
  refine exit (fun use huse => ?_) (.inl rfl)
  obtain rfl := List.mem_singleton.mp huse
  exact Nat.zero_lt_of_lt hi

theorem takeSwitch (set : CliConfig → CliConfig) :
    OptionUses argv i cli (Argv.takeSwitch set cli) (Dntpd.takeSwitch (set cli)) :=
  alone nofun rfl fun _ => rfl

theorem takeBroadcastAddr (value : CString) :
    OptionUses argv i cli (argv.takeBroadcastAddr i value cli)
      (Dntpd.takeBroadcastAddr cli value) := by
  refine alone nofun rfl fun halloc => ?_
  dsimp only
  rw [if_pos halloc]
  rfl

theorem ite {c : Prop} [Decidable c] {p p' : OptionProc} {r r' : OptionResult}
    (hp : OptionUses argv i cli (p cli) r) (hp' : OptionUses argv i cli (p' cli) r') :
    OptionUses argv i cli ((if c then p else p') cli) (if c then r else r') := by
  split_ifs
  · exact hp
  · exact hp'

/-- An option with its value attached. -/
theorem attached {o : Option CString} {f : CString → OptionProc} {p : OptionProc}
    {g : CString → OptionResult} {r : OptionResult}
    (hf : ∀ v, OptionUses argv i cli (f v cli) (g v)) (hp : OptionUses argv i cli (p cli) r) :
    OptionUses argv i cli ((if let some v := o then f v else p) cli)
      (if let some v := o then g v else r) := by
  cases o with
  | none => exact hp
  | some v => exact hf v

theorem takeNumber (value : Option ℤ) (message : String) (set : ℤ → CliConfig → CliConfig) :
    OptionUses argv i cli (Argv.takeNumber value message set false cli)
      (Dntpd.takeNumber value message (fun v => set v cli) false) := by
  cases value with
  | none => exact error _
  | some v => exact alone nofun rfl fun _ => rfl

/-- Behind a look that takes no value. -/
theorem behind_peek {trace : List ArgvUse} {o : Outcome CliConfig ArgvUse (Except ParseExit Bool)}
    {r : OptionResult} (hinside : ∀ use ∈ trace, use.index < argv.argc)
    (hvisits : visits trace = []) (h : OptionUses argv i cli o r) :
    OptionUses argv i cli ⟨o.ret, o.state, trace ++ o.trace⟩ r := by
  have hin : ∀ {rest : List ArgvUse}, (∀ use ∈ rest, use.index < argv.argc) →
      ∀ use ∈ trace ++ rest, use.index < argv.argc := fun hrest =>
    List.forall_mem_append.mpr ⟨hinside, hrest⟩
  have hvis : ∀ rest : List ArgvUse, visits (trace ++ rest) = visits rest := by
    intro rest
    unfold visits at hvisits ⊢
    rw [List.filterMap_append, hvisits, List.nil_append]
  cases h with
  | exit inside hrest => exact exit (hin inside) (by rwa [hvis])
  | alone inside hrest hr => exact alone (hin inside) (by rwa [hvis]) hr
  | taken inside hrest hi => exact taken (hin inside) (by rwa [hvis]) hi

theorem value_inside (hi : i + 1 < argv.argc) :
    ∀ use ∈ [ArgvUse.peek (i + 1), ArgvUse.value (i + 1)], use.index < argv.argc :=
  List.forall_mem_cons.mpr ⟨hi, List.forall_mem_singleton.mpr hi⟩

/-- An option that looks at the next argument. -/
theorem behind {k : Option CString → OptionProc} {r : OptionResult}
    (hsome : ∀ v, Dntpd.valueBehind argv.entries[i + 1]? = some v → i + 1 < argv.argc →
      OptionUses argv i cli ⟨(k (some v) cli).ret, (k (some v) cli).state,
        [.peek (i + 1), .value (i + 1)] ++ (k (some v) cli).trace⟩ r)
    (hnone : Dntpd.valueBehind argv.entries[i + 1]? = none → OptionUses argv i cli (k none cli) r) :
    OptionUses argv i cli ((argv.valueBehind i >>= k) cli) r := by
  obtain ⟨v, hvalue, hi, hrun⟩ | ⟨hvalue, trace, hrun, hvisits, hinside⟩ :=
    valueBehind_cases argv i cli
  · rw [bind_run, hrun]
    exact hsome v hvalue hi
  · rw [bind_run, hrun]
    exact behind_peek hinside hvisits (hnone hvalue)

theorem takeValue (message : String) (set : CString → CliConfig → CliConfig) :
    OptionUses argv i cli (argv.takeValue i message set cli)
      (Dntpd.takeValue argv.entries[i + 1]? message fun v => set v cli) := by
  unfold Argv.takeValue Dntpd.takeValue
  refine behind (fun v hvalue hi => ?_) fun hvalue => ?_
  · rw [hvalue]
    exact taken (value_inside hi) rfl hi
  · rw [hvalue]
    exact error _

/-- A number that is the next argument. -/
theorem takeNumber_behind (hi : i + 1 < argv.argc) (value : Option ℤ) (message : String)
    (set : ℤ → CliConfig → CliConfig) :
    OptionUses argv i cli
      ⟨(Argv.takeNumber value message set true cli).ret,
        (Argv.takeNumber value message set true cli).state,
        [.peek (i + 1), .value (i + 1)] ++ (Argv.takeNumber value message set true cli).trace⟩
      (Dntpd.takeNumber value message (fun v => set v cli) true) := by
  cases value with
  | none => exact exit (value_inside hi) (.inr rfl)
  | some v => exact taken (value_inside hi) rfl hi

theorem takeDebugLevel :
    OptionUses argv i cli (argv.takeDebugLevel i cli)
      (Dntpd.takeDebugLevel cli argv.entries[i + 1]?) := by
  unfold Argv.takeDebugLevel Dntpd.takeDebugLevel
  refine behind (fun v hvalue hi => ?_) fun hvalue => ?_
  · rw [hvalue]
    exact takeNumber_behind hi _ _ _
  · rw [hvalue]
    exact takeSwitch _

theorem takeTimeout :
    OptionUses argv i cli (argv.takeTimeout i cli)
      (Dntpd.takeTimeout cli argv.entries[i + 1]?) := by
  unfold Argv.takeTimeout Dntpd.takeTimeout
  refine behind (fun v hvalue hi => ?_) fun hvalue => ?_
  · rw [hvalue]
    exact takeNumber_behind hi _ _ _
  · rw [hvalue]
    exact error _

theorem takeIpv4 : OptionUses argv i cli (Argv.takeIpv4 cli) (Dntpd.takeIpv4 cli) :=
  ite (error _) (takeSwitch _)

theorem takeIpv6 : OptionUses argv i cli (Argv.takeIpv6 cli) (Dntpd.takeIpv6 cli) :=
  ite (error _) (takeSwitch _)

theorem parseOptionTail (hi : i < argv.argc) (arg : CString) :
    OptionUses argv i cli (argv.parseOptionTail i arg cli)
      (Dntpd.parseOptionTail arg argv.entries[i + 1]? cli) := by
  unfold Argv.parseOptionTail Dntpd.parseOptionTail
  refine .ite (.takeValue _ _) (.attached (fun _ => .takeSwitch _) ?_)
  refine .ite (.takeValue _ _) (.attached (fun _ => .takeSwitch _) ?_)
  refine .ite .takeIpv4 (.ite .takeIpv6 (.ite (.takeSwitch _) ?_))
  refine .attached .takeBroadcastAddr (.attached .takeBroadcastAddr ?_)
  exact .ite (.takeSwitch _) (.usage hi _)

/-- **An option leads to what `Dntpd.parseOption` says**, and uses no argument but its own and the
next. -/
theorem compareOption (hi : i < argv.argc) (arg : CString) :
    OptionUses argv i cli (argv.compareOption i arg cli)
      (Dntpd.parseOption arg argv.entries[i + 1]? cli) := by
  unfold Argv.compareOption Dntpd.parseOption
  refine .ite (.usage hi _) (.ite (.error _) (.ite (.takeValue _ _) ?_))
  refine .attached (fun _ => .takeSwitch _) (.ite (.takeSwitch _) (.ite (.takeSwitch _) ?_))
  refine .ite .takeDebugLevel (.attached (fun _ => .takeNumber _ _ _) ?_)
  refine .attached (fun _ => .takeNumber _ _ _) (.ite (.takeSwitch _) ?_)
  refine .ite (.takeValue _ _) (.attached (fun _ => .takeSwitch _) ?_)
  refine .ite .takeTimeout (.attached (fun _ => .takeNumber _ _ _) ?_)
  refine .ite (.takeValue _ _) (.attached (fun _ => .takeSwitch _) ?_)
  exact .parseOptionTail hi _

end OptionUses

/-! ### The loop -/

theorem parseOptions_preserves : Preserves CliInRange (argv.parseOptions i) := by
  induction i using parseOptions.induct argv with
  | case1 i hi htaken halone =>
    rw [parseOptions, dif_pos hi]
    refine parseOption_preserves.bind fun result => ?_
    match result with
    | .error e => exact Preserves.pure _
    | .ok true => exact htaken
    | .ok false => exact halone
  | case2 i hi =>
    rw [parseOptions, dif_neg hi]
    exact Preserves.pure _

/-- What the loop does from `i` on: it visits the arguments one after the other, all of them if it
comes to its end. -/
structure LoopUses (argv : Argv) (i : ℕ) (cli : CliConfig)
    (o : Outcome CliConfig ArgvUse (Option ParseExit)) : Prop where
  inside : ∀ use ∈ o.trace, use.index < argv.argc
  visits : ∃ n, visits o.trace = List.range' i n ∧ (o.ret = none → n = argv.argc - i)
  result : (∀ i, argv.strndup i = true) →
    (o.ret, o.state) = Dntpd.parseOptions (argv.entries.drop i) cli

theorem drop_entries (hi : i < argv.argc) :
    argv.entries.drop i = argv.arg i :: argv.entries.drop (i + 1) := by
  have harg : argv.arg i = argv.entries.get ⟨i, hi⟩ := by
    unfold arg
    rw [List.getD_eq_getElem?_getD, List.getElem?_eq_getElem hi]
    rfl
  rw [harg]
  exact List.drop_eq_getElem_cons hi

namespace LoopUses

variable {cli cli' : CliConfig} {trace : List ArgvUse}

/-- A turn that ends the loop. -/
theorem exit {e : ParseExit} (hi : i < argv.argc) (hinside : ∀ use ∈ trace, use.index < argv.argc)
    (hvisits : Argv.visits trace = [] ∨ Argv.visits trace = [i + 1])
    (hresult : Dntpd.parseOption (argv.arg i) argv.entries[i + 1]? cli = .error e) :
    LoopUses argv i cli ⟨some e, cli, .option i :: trace⟩ where
  inside := List.forall_mem_cons.mpr ⟨hi, hinside⟩
  visits := by
    have hcons : Argv.visits (.option i :: trace) = i :: Argv.visits trace := rfl
    rcases hvisits with hvisits | hvisits
    · exact ⟨1, by rw [hcons, hvisits]; rfl, nofun⟩
    · exact ⟨2, by rw [hcons, hvisits]; rfl, nofun⟩
  result _ := by
    rw [← List.head?_drop] at hresult
    rw [drop_entries hi, parseOptions_error hresult]

/-- A turn that visits `k` arguments. -/
theorem turn {k : ℕ} {o : Outcome CliConfig ArgvUse (Option ParseExit)} (hk : i + k ≤ argv.argc)
    (hinside : ∀ use ∈ trace, use.index < argv.argc)
    (hvisits : Argv.visits trace = List.range' i k)
    (hresult : (∀ i, argv.strndup i = true) → Dntpd.parseOptions (argv.entries.drop i) cli =
      Dntpd.parseOptions (argv.entries.drop (i + k)) cli')
    (h : LoopUses argv (i + k) cli' o) :
    LoopUses argv i cli ⟨o.ret, o.state, trace ++ o.trace⟩ where
  inside := List.forall_mem_append.mpr ⟨hinside, h.inside⟩
  visits := by
    obtain ⟨n, hn, hall⟩ := h.visits
    refine ⟨k + n, ?_, fun hret => ?_⟩
    · have happend : Argv.visits (trace ++ o.trace) = Argv.visits trace ++ Argv.visits o.trace :=
        List.filterMap_append
      rw [happend, hvisits, hn, List.range'_append_1]
    · rw [hall hret]
      omega
  result halloc := (h.result halloc).trans (hresult halloc).symm

end LoopUses

/-- **The loop visits each argument once**, and without failing allocations it is that of
`Dntpd.parseOptions`. -/
theorem parseOptions_uses (cli : CliConfig) : LoopUses argv i cli (argv.parseOptions i cli) := by
  induction i using parseOptions.induct argv generalizing cli with
  | case1 i hi htaken halone =>
    -- one case for each way in which the loop handles an option
    have huses : OptionUses argv i cli _ _ := .compareOption hi (argv.arg i)
    have hrun : argv.parseOption i cli = ⟨(argv.compareOption i (argv.arg i) cli).ret,
        (argv.compareOption i (argv.arg i) cli).state,
        .option i :: (argv.compareOption i (argv.arg i) cli).trace⟩ := rfl
    rw [parseOptions, dif_pos hi, bind_run, hrun]
    generalize argv.compareOption i (argv.arg i) cli = o at huses ⊢
    generalize hoption : Dntpd.parseOption (argv.arg i) argv.entries[i + 1]? cli = r at huses
    cases huses with
    | @exit e trace inside hvisits =>
      have hexit := LoopUses.exit hi inside hvisits hoption
      rw [← List.append_nil (.option i :: trace)] at hexit
      exact hexit
    | alone inside hvisits hr =>
      refine LoopUses.turn hi (List.forall_mem_cons.mpr ⟨hi, inside⟩) ?_ ?_ (halone _)
      · exact congrArg (i :: ·) hvisits
      · intro halloc
        rw [hr (halloc i), ← List.head?_drop] at hoption
        rw [drop_entries hi, parseOptions_alone hoption]
    | taken inside hvisits hnext =>
      refine LoopUses.turn hnext (List.forall_mem_cons.mpr ⟨hi, inside⟩) ?_ ?_ (htaken _)
      · exact congrArg (i :: ·) hvisits
      · intro _
        rw [← List.head?_drop] at hoption
        rw [drop_entries hi, parseOptions_taken hoption, List.tail_drop]
  | case2 i hi =>
    rw [parseOptions, dif_neg hi]
    refine ⟨nofun, ⟨0, rfl, fun _ => ?_⟩, fun _ => ?_⟩
    · omega
    · rw [List.drop_eq_nil_of_le (Nat.le_of_not_lt hi)]
      rfl

end Argv

/-! ### The server list -/

/-- The ranges in the state of `load_server_config`. -/
def ServerInRange (s : ServerState) : Prop := CliInRange s.daemon.cli

section

variable {allocs : LineAllocs} {line : CString}

theorem setCli_inRange {set : CliConfig → CliConfig}
    (hset : ∀ cli, CliInRange cli → CliInRange (set cli)) :
    Preserves ServerInRange (setCli set) :=
  Preserves.update fun s => hset s.daemon.cli

theorem strtolInt_inRange (s : CString) : Preserves ServerInRange (strtolInt s) :=
  Preserves.bind (Preserves.update fun _ h => h) fun _ => Preserves.pure _

theorem enableBroadcastLine_inRange : Preserves ServerInRange (enableBroadcastLine line) := by
  unfold enableBroadcastLine
  split
  · exact Preserves.pure _
  · exact (strtolInt_inRange _).bind fun _ =>
      Preserves.ite (setCli_inRange fun _ h => { h with }) (Preserves.pure _)

theorem broadcastAddrLine_inRange {strndup : Bool} :
    Preserves ServerInRange (broadcastAddrLine strndup line) := by
  unfold broadcastAddrLine
  split
  · exact Preserves.pure _
  · refine .ite_of (fun hlength => setCli_inRange (setBroadcastAddr_inRange ?_)) fun _ => .pure _
    intro addr haddr
    split_ifs at haddr
    · obtain rfl := Option.some.inj haddr
      exact Nat.le_of_lt_succ hlength.2.2
    · cases haddr

theorem broadcastIntervalLine_inRange : Preserves ServerInRange (broadcastIntervalLine line) := by
  unfold broadcastIntervalLine
  split
  · exact Preserves.pure _
  · exact (strtolInt_inRange _).bind fun _ =>
      .ite_of (fun hval => setCli_inRange fun _ h => { h with interval := hval }) fun _ => .pure _

theorem addPeer_inRange (ip port : CString) : Preserves ServerInRange (addPeer ip port) := by
  refine Preserves.bind (fun _ h => h) fun _ => Preserves.bind (Preserves.update fun s h => ?_)
    fun _ _ h => h
  split_ifs
  · exact h
  · exact h

theorem serverLine_inRange : Preserves ServerInRange (serverLine allocs line) := by
  have hfree : Preserves ServerInRange freeServers := fun _ h => h
  unfold serverLine
  split
  · exact Preserves.pure _
  · refine .ite (.pure _) (.ite (.pure _) (.ite (.pure _) (.ite hfree (.ite hfree ?_))))
    exact .bind (fun _ h => h) fun _ => (addPeer_inRange _ _).bind fun _ => .pure _

/-- **A line keeps the ranges**, whatever stands in it. -/
theorem loadServerLine_inRange : Preserves ServerInRange (loadServerLine allocs line) := by
  unfold loadServerLine
  refine .ite (.pure _) (.ite ?_ (.ite ?_ (.ite ?_ serverLine_inRange)))
  · exact enableBroadcastLine_inRange.bind fun _ => .pure _
  · exact broadcastAddrLine_inRange.bind fun _ => .pure _
  · exact broadcastIntervalLine_inRange.bind fun _ => .pure _

end

/-- What every line preserves, the file does. -/
theorem loadServerLines_invariant {I : ServerState → Prop}
    (hline : ∀ allocs line, Preserves I (loadServerLine allocs line)) (allocs : ℕ → LineAllocs)
    (turn : ℕ) (file : List Char) : Preserves I (loadServerLines allocs turn file) := by
  induction turn, file using loadServerLines.induct with
  | case1 turn file hend =>
    have hfile : file = [] := by
      by_contra hne
      unfold fgets at hend
      rw [if_neg hne] at hend
      cases hend
    rw [hfile, loadServerLines_nil]
    exact Preserves.read.bind fun _ => Preserves.pure _
  | case2 turn file line rest hread ih =>
    rw [loadServerLines_eq allocs turn hread]
    exact (hline _ _).bind fun _ => Preserves.ite ih (Preserves.pure _)

theorem loadServerConfig_inRange (env : ServerConfigEnv) :
    Preserves ServerInRange (loadServerConfig env) := by
  refine Preserves.read.bind fun s => ?_
  cases env.fopen (s.daemon.cli.configFile.getD defaultConfigFile) with
  | none => exact Preserves.pure _
  | some file => exact loadServerLines_invariant (fun _ _ => loadServerLine_inRange) _ _ _

/-! ### The command line and then the server list -/

/-- `g_cli` is as `parse_arguments` leaves it that finds the initial one. -/
def Argv.parsed (argv : Argv) (s : ServerState) : ServerState :=
  { s with daemon := { s.daemon with cli := (argv.parseArguments CliConfig.init).state } }

/-- `parse_arguments` and then `load_server_config`, whatever the rest of the state is. -/
structure ArgumentsChecked (argv : Argv) (env : ServerConfigEnv) (s : ServerState) : Prop where
  parsed : ServerInRange (argv.parsed s)
  loaded : ServerInRange (loadServerConfig env (argv.parsed s)).state
  visits : ((argv.parseArguments CliConfig.init).trace.filterMap ArgvUse.visited).Nodup
  inside : ∀ use ∈ (argv.parseArguments CliConfig.init).trace, use.index < argv.argc

namespace Argv

variable (argv : Argv)

theorem parseArguments_inRange : CliInRange (argv.parseArguments CliConfig.init).state :=
  (parseOptions_preserves.bind fun _ => Preserves.pure _) _ CliConfig.init_inRange

theorem parseArguments_trace (cli : CliConfig) :
    (argv.parseArguments cli).trace = (argv.parseOptions 1 cli).trace :=
  List.append_nil _

/-- A command line that is accepted is visited to its end. -/
theorem parseArguments_visits {cli : CliConfig} (h : (argv.parseArguments cli).ret = 0) :
    visits (argv.parseArguments cli).trace = List.range' 1 (argv.argc - 1) := by
  obtain ⟨n, hn, hall⟩ := (parseOptions_uses cli : LoopUses argv 1 cli _).visits
  have hret : (argv.parseOptions 1 cli).ret = none := by
    have hstatus : ParseExit.status (argv.parseOptions 1 cli).ret = 0 := h
    match hexit : (argv.parseOptions 1 cli).ret with
    | none => rfl
    | some .help => rw [hexit] at hstatus; cases hstatus
    | some .version => rw [hexit] at hstatus; cases hstatus
    | some (.error _) => rw [hexit] at hstatus; cases hstatus
    | some (.unknownOption _) => rw [hexit] at hstatus; cases hstatus
  rw [parseArguments_trace, hn, hall hret]

/-- Without failing allocations this is `Dntpd.parseArguments`. -/
theorem parseArguments_eq (halloc : ∀ i, argv.strndup i = true) (cli : CliConfig) :
    ((argv.parseArguments cli).ret, (argv.parseArguments cli).state) =
      Dntpd.parseArguments (argv.entries.drop 1) cli := by
  have hresult := (parseOptions_uses cli : LoopUses argv 1 cli _).result halloc
  unfold Dntpd.parseArguments
  rw [← hresult]
  rfl

end Argv

/-- **Every configuration is within its ranges**, after any command line and any file, and the
command line is read within its bounds, each argument at most once. -/
theorem argumentsChecked (argv : Argv) (env : ServerConfigEnv) (s : ServerState) :
    ArgumentsChecked argv env s where
  parsed := argv.parseArguments_inRange
  loaded := loadServerConfig_inRange env _ argv.parseArguments_inRange
  visits := by
    obtain ⟨n, hn, -⟩ :=
      (Argv.parseOptions_uses CliConfig.init : Argv.LoopUses argv 1 CliConfig.init _).visits
    have hnodup : (Argv.visits (argv.parseArguments CliConfig.init).trace).Nodup := by
      rw [Argv.parseArguments_trace, hn]
      exact List.nodup_range'
    exact hnodup
  inside := by
    rw [Argv.parseArguments_trace]
    exact (Argv.parseOptions_uses CliConfig.init : Argv.LoopUses argv 1 CliConfig.init _).inside

end Dntpd
