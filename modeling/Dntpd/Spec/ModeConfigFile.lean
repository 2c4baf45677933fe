import Dntpd.ModeConfigFile
import Dntpd.Spec.AclNetworks
import Dntpd.Spec.ConfigLines

/-!
# The flags of the `acl_allow` lines

A line of the file is read in pieces of 255 characters.  `acl_allow` takes two words from it, the
key and the network, and adds the network without flags: the list behind it, which
`acl_default_policy` would read as the union of the flags it names (`aclFlagList_names`), is dropped
(`keepsAclFlags_iff`).
-/

namespace Dntpd

open Proc

/-! ### Flag lists -/

/-- The flags that the documentation names. -/
inductive AclFlagName where
  | noquery
  | noserve
  | limited
  | nopeer
  | notrust
  deriving DecidableEq, Repr

namespace AclFlagName

def text : AclFlagName → CString
  | noquery => "noquery".toList
  | noserve => "noserve".toList
  | limited => "limited".toList
  | nopeer => "nopeer".toList
  | notrust => "notrust".toList

def bit : AclFlagName → UInt8
  | noquery => aclFlagNoquery
  | noserve => aclFlagNoserve
  | limited => aclFlagLimited
  | nopeer => aclFlagNopeer
  | notrust => aclFlagNotrust

/-- The names with commas between them. -/
def listText : List AclFlagName → CString
  | [] => []
  | [f] => f.text
  | f :: fs => f.text ++ ',' :: listText fs

/-- The union of the flags. -/
def union (fs : List AclFlagName) : UInt8 := fs.foldl (fun flags f => flags ||| f.bit) 0

/-- A name is recognised whatever stands behind it. -/
theorem aclFlagAt_text (f : AclFlagName) (s : CString) : aclFlagAt (f.text ++ s) = f.bit := by
  cases f <;> rfl

theorem ne_comma_of_mem_text {f : AclFlagName} {c : Char} (hc : c ∈ f.text) : c ≠ ',' := by
  have hall : ∀ f : AclFlagName, ∀ c ∈ f.text, c ≠ ',' := by
    intro f
    cases f <;> exact List.all_iff_forall_prop.mp (by decide)
  exact hall f c hc

theorem text_ne_nil (f : AclFlagName) : f.text ≠ [] := by
  cases f <;> exact List.cons_ne_nil _ _

end AclFlagName

open AclFlagName

/-- A name with a comma behind it is one turn of the loop. -/
theorem aclFlagList_comma (f : AclFlagName) (flags : UInt8) (s : CString) :
    aclFlagList flags (f.text ++ ',' :: s) = aclFlagList (flags ||| f.bit) s := by
  have hdrop : (f.text ++ ',' :: s).dropWhile (· ≠ ',') = ',' :: s := by
    rw [List.dropWhile_append_of_pos fun c hc => decide_eq_true (ne_comma_of_mem_text hc),
      List.dropWhile_cons_of_neg (by decide)]
  rw [aclFlagList, if_neg (List.append_ne_nil_of_left_ne_nil f.text_ne_nil _), aclFlagAt_text]
  split
  · rename_i hrest
    rw [hdrop] at hrest
    exact absurd hrest (List.cons_ne_nil _ _)
  · rename_i hrest
    rw [hdrop] at hrest
    rw [(List.cons.inj hrest).2]

/-- The last name ends it. -/
theorem aclFlagList_last (f : AclFlagName) (flags : UInt8) :
    aclFlagList flags f.text = flags ||| f.bit := by
  have hdrop : f.text.dropWhile (· ≠ ',') = [] :=
    List.dropWhile_eq_nil_iff.mpr fun c hc => decide_eq_true (ne_comma_of_mem_text hc)
  have hflag := aclFlagAt_text f []
  rw [List.append_nil] at hflag
  rw [aclFlagList, if_neg f.text_ne_nil, hflag]
  split
  · rfl
  · rename_i hrest
    rw [hdrop] at hrest
    exact absurd hrest.symm (List.cons_ne_nil _ _)

/-- The loop reads a list of names as their union. -/
theorem aclFlagList_names (fs : List AclFlagName) (flags : UInt8) :
    aclFlagList flags (listText fs) = fs.foldl (fun flags f => flags ||| f.bit) flags := by
  induction fs generalizing flags with
  | nil =>
    rw [listText, aclFlagList]
    rfl
  | cons f fs ih =>
    cases fs with
    | nil => exact aclFlagList_last f flags
    | cons g fs =>
      show aclFlagList flags (f.text ++ ',' :: listText (g :: fs)) = _
      rw [aclFlagList_comma]
      exact ih (flags ||| f.bit)

/-- A list that names a flag has one. -/
theorem union_eq_zero_iff (fs : List AclFlagName) : union fs = 0 ↔ fs = [] := by
  have hgrows : ∀ (fs : List AclFlagName) (flags : UInt8),
      fs.foldl (fun flags f => flags ||| f.bit) flags = 0 → flags = 0 := by
    intro fs
    induction fs with
    | nil => exact fun flags h => h
    | cons f fs ih =>
      intro flags h
      exact (UInt8.or_eq_zero_iff.mp (ih (flags ||| f.bit) h)).1
  constructor
  · intro h
    cases fs with
    | nil => rfl
    | cons f fs =>
      have hbit : (0 : UInt8) ||| f.bit = 0 := hgrows fs _ h
      cases f <;> exact absurd hbit (by decide)
  · rintro rfl
    rfl

/-! ### Lines -/

section

variable (strtod : CString → StrtoResult ℚ)

theorem parseModeConfigLines_nil : parseModeConfigLines strtod [] = pure () := by
  rw [parseModeConfigLines]
  rfl

theorem parseModeConfigLines_eq {file line rest : List Char}
    (h : fgets 255 file = some (line, rest)) :
    parseModeConfigLines strtod file = (do
      parseModeConfigLine strtod (cString line)
      parseModeConfigLines strtod rest) := by
  rw [parseModeConfigLines]
  split
  · rename_i hline
    exact absurd (h.symm.trans hline) (Option.some_ne_none _)
  · rename_i line' rest' hline
    obtain ⟨rfl, rfl⟩ := Prod.mk.inj (Option.some.inj (h.symm.trans hline))
    rfl

/-- A line is read by itself, in as many pieces as it takes. -/
theorem parseModeConfigLines_line {text : List Char} (h : '\n' ∉ text) (rest : List Char) :
    parseModeConfigLines strtod (text ++ '\n' :: rest) = (do
      parseModeConfigLines strtod (text ++ ['\n'])
      parseModeConfigLines strtod rest) := by
  induction hn : text.length using Nat.strong_induction_on generalizing text with
  | _ n ih =>
    by_cases hfits : text.length < 255
    · rw [parseModeConfigLines_eq strtod (fgets_line h hfits rest),
        parseModeConfigLines_eq strtod (fgets_line h hfits []), parseModeConfigLines_nil,
        Proc.bind_assoc]
      rfl
    · have hlong := fgets_long h (n := 255) (by decide) (by omega)
      have hdrop : '\n' ∉ text.drop 255 := fun hmem => h (List.mem_of_mem_drop hmem)
      rw [parseModeConfigLines_eq strtod (hlong ('\n' :: rest)),
        parseModeConfigLines_eq strtod (hlong ['\n']), Proc.bind_assoc]
      refine Proc.bind_congr fun _ => ih _ ?_ hdrop rfl
      rw [List.length_drop]
      omega

end

/-! ### What a line does to the table -/

/-- While the table has room, the procedure appends these entries to it. -/
def AppendsAcl (entries : List AclEntry) (p : DProc Unit) : Prop :=
  ∀ d : Daemon, d.mode.aclEntries.length + entries.length ≤ 256 →
    (p d).state.mode.aclEntries = d.mode.aclEntries ++ entries

/-- The procedure leaves the table as it is. -/
def LeavesAcl (p : DProc Unit) : Prop :=
  ∀ d : Daemon, (p d).state.mode.aclEntries = d.mode.aclEntries

theorem LeavesAcl.appends {p : DProc Unit} (h : LeavesAcl p) : AppendsAcl [] p := fun d _ => by
  rw [h d, List.append_nil]

theorem AppendsAcl.bind {p q : DProc Unit} {es es' : List AclEntry} (hp : AppendsAcl es p)
    (hq : AppendsAcl es' q) : AppendsAcl (es ++ es') (p >>= fun _ => q) := by
  intro d hroom
  rw [List.length_append] at hroom
  have hfirst := hp d (by omega)
  rw [bind_state, hq, hfirst, List.append_assoc]
  rw [hfirst, List.length_append]
  omega

theorem leavesAcl_pure : LeavesAcl (pure ()) := fun _ => rfl

/-! ### Flag lists that are cut off -/

/-- The characters that end no word and no line. -/
def IsPlain (w : List Char) : Prop := ∀ c ∈ w, isspace c = false ∧ c ≠ '#' ∧ c ≠ '\x00'

theorem IsPlain.not_mem {w : List Char} (h : IsPlain w) : '\n' ∉ w := fun hmem =>
  absurd (h '\n' hmem).1 (by decide)

/-- What stands behind a line: its newline, if it is not the last. -/
def IsEol (eol : List Char) : Prop := eol = [] ∨ eol = ['\n']

namespace IsEol

variable {w eol : List Char}

theorem atBlank (h : IsEol eol) : AtBlank eol := by
  rcases h with rfl | rfl
  · exact nofun
  · rintro _ ⟨⟩
    rfl

theorem scanWord_eq_none (h : IsEol eol) (n : ℕ) : scanWord n eol = none := by
  have hblank : eol.dropWhile isspace = [] := by rcases h with rfl | rfl <;> rfl
  unfold scanWord
  dsimp only
  rw [hblank, List.takeWhile_nil, List.take_nil]

theorem takeWhile_append (h : IsEol eol) (hw : IsPlain w) :
    (w ++ eol).takeWhile (· ≠ '#') = w ++ eol := by
  rw [takeWhile_pass fun c hc => decide_eq_true (hw c hc).2.1]
  rcases h with rfl | rfl <;> rfl

theorem cString_append (h : IsEol eol) (hw : IsPlain w) : cString (w ++ eol) = w ++ eol := by
  unfold cString
  rw [takeWhile_pass fun c hc => decide_eq_true (hw c hc).2.2]
  rcases h with rfl | rfl <;> rfl

end IsEol

section

variable (strtod : CString → StrtoResult ℚ)

/-- No key is as long as the longest word that is read. -/
theorem applyModeConfig_long {key : CString} (hlen : key.length = 63) (val : CString) :
    applyModeConfig strtod key val = pure () := by
  have hne : ∀ lit : CString, lit.length ≠ 63 → key ≠ lit := by
    rintro lit hlit rfl
    exact hlit hlen
  unfold applyModeConfig
  rw [if_neg (hne _ (by decide)), if_neg (hne _ (by decide)), if_neg (hne _ (by decide)),
    if_neg (hne _ (by decide)), if_neg (hne _ (by decide)), if_neg (hne _ (by decide)),
    if_neg (hne _ (by decide)), if_neg (hne _ (by decide)), if_neg (hne _ (by decide)),
    if_neg (hne _ (by decide)), if_neg (hne _ (by decide)), if_neg (hne _ (by decide))]

/-- A piece with one word sets nothing, however long the word is. -/
theorem parseModeConfigLine_plain {w eol : List Char} (hw : IsPlain w) (heol : IsEol eol) :
    parseModeConfigLine strtod (cString (w ++ eol)) = pure () := by
  rw [heol.cString_append hw]
  unfold parseModeConfigLine
  rw [heol.takeWhile_append hw]
  by_cases hne : w = []
  · rw [hne, List.nil_append, heol.scanWord_eq_none]
  rw [scanWord_take (fun c hc => (hw c hc).1) hne (by decide) heol.atBlank]
  dsimp only
  by_cases hlen : w.length ≤ 63
  · rw [List.drop_of_length_le hlen, List.nil_append, heol.scanWord_eq_none]
  · have hkey : (w.take 63).length = 63 := by
      rw [List.length_take]
      omega
    cases scanWord 127 (w.drop 63 ++ eol) with
    | none => rfl
    | some r => exact applyModeConfig_long strtod hkey r.1

/-- A list that is cut off sets nothing, in as many pieces as it takes. -/
theorem parseModeConfigLines_plain {w eol : List Char} (hw : IsPlain w) (heol : IsEol eol) :
    parseModeConfigLines strtod (w ++ eol) = pure () := by
  -- by induction on the length; a long line is read in pieces
  induction hn : w.length using Nat.strong_induction_on generalizing w with
  | _ n ih =>
    by_cases hfits : w.length < 255
    · by_cases hempty : w ++ eol = []
      · rw [hempty, parseModeConfigLines_nil]
      have hread : fgets 255 (w ++ eol) = some (w ++ eol, []) := by
        rcases heol with rfl | rfl
        · rw [List.append_nil] at hempty ⊢
          exact fgets_last hw.not_mem hempty hfits.le
        · exact fgets_line hw.not_mem hfits []
      rw [parseModeConfigLines_eq strtod hread, parseModeConfigLine_plain strtod hw heol,
        parseModeConfigLines_nil]
      rfl
    · -- the first piece sets nothing, and what is left is shorter
      have hread := fgets_long hw.not_mem (n := 255) (by decide) (by omega) eol
      have htake := parseModeConfigLine_plain strtod
        (fun c hc => hw c (List.mem_of_mem_take hc)) (w := w.take 255) (.inl rfl)
      rw [List.append_nil] at htake
      rw [parseModeConfigLines_eq strtod hread, htake]
      refine ih _ ?_ (fun c hc => hw c (List.mem_of_mem_drop hc)) rfl
      rw [List.length_drop]
      omega

end

/-! ### `acl_allow` lines -/

/-- An `acl_allow` line: its network and the flags it names. -/
structure AllowLine where
  network : NetworkText
  flags : List AclFlagName
  deriving DecidableEq

/-- The key, with the blank behind it. -/
def aclAllowKey : List Char := "acl_allow ".toList

theorem length_aclAllowKey : aclAllowKey.length = 10 := by decide

namespace AllowLine

/-- The key and the network. -/
def head (a : AllowLine) : List Char := aclAllowKey ++ a.network.text

/-- What stands behind the network. -/
def tail (a : AllowLine) : List Char :=
  match a.flags with
  | [] => []
  | f :: fs => ' ' :: listText (f :: fs)

/-- The line, without its newline. -/
def text (a : AllowLine) : List Char := a.head ++ a.tail

/-- The entry that it asks for. -/
def entry (a : AllowLine) : AclEntry := a.network.entry (union a.flags)

/-- The entry that it adds: none for the address 0. -/
def added (a : AllowLine) : List AclEntry :=
  if a.network.quad.addr = 0 then [] else [a.network.entry 0]

end AllowLine

/-- Digits, dots and slashes. -/
theorem NetworkText.mem_text {n : NetworkText} {c : Char} (hc : c ∈ n.text) :
    46 ≤ c.toNat ∧ c.toNat ≤ 57 := by
  -- from the full stop to the digit nine: `.`, `/` and the digits
  have hdigit : ∀ k : ℕ, c ∈ decimal k → 46 ≤ c.toNat ∧ c.toNat ≤ 57 := by
    intro k hk
    obtain ⟨hge, hle⟩ :=
      Char.isDigit_iff_toNat.mp (Nat.isDigit_of_mem_toDigits (by decide) le_rfl hk)
    have hzero : '0'.toNat = 48 := rfl
    have hnine : '9'.toNat = 57 := rfl
    omega
  have hquad : c ∈ n.quad.text → 46 ≤ c.toNat ∧ c.toNat ≤ 57 := by
    intro hc
    unfold Quad.text at hc
    simp only [List.mem_append, List.mem_cons] at hc
    rcases hc with hc | rfl | hc | rfl | hc | rfl | hc
    · exact hdigit _ hc
    · decide
    · exact hdigit _ hc
    · decide
    · exact hdigit _ hc
    · decide
    · exact hdigit _ hc
  unfold NetworkText.text at hc
  cases hlen : n.len with
  | none =>
    rw [hlen] at hc
    exact hquad hc
  | some len =>
    rw [hlen] at hc
    rcases List.mem_append.mp hc with hc | hc
    · exact hquad hc
    rcases List.mem_cons.mp hc with rfl | hc
    · decide
    · exact hdigit _ hc

theorem NetworkText.isPlain_text (n : NetworkText) : IsPlain n.text := by
  intro c hc
  obtain ⟨hlow, hhigh⟩ := n.mem_text hc
  refine ⟨?_, ?_, ?_⟩
  · have hblank : c ≠ ' ' := by
      rintro rfl
      exact absurd hlow (by decide)
    unfold isspace
    rw [Bool.or_eq_false_iff, beq_eq_false_iff_ne, Bool.and_eq_false_iff, decide_eq_false_iff_not,
      decide_eq_false_iff_not]
    exact ⟨hblank, .inr (by omega)⟩
  · rintro rfl
    exact absurd hlow (by decide)
  · rintro rfl
    exact absurd hlow (by decide)

theorem NetworkText.length_text_le (n : NetworkText) : n.text.length ≤ 66 := by
  have hquad := n.quad.length_text_lt
  unfold NetworkText.text
  cases n.len with
  | none => exact (Nat.lt_succ_iff.mp hquad).trans (by decide)
  | some len =>
    have hdigits : (decimal len).length ≤ 2 :=
      (Nat.length_toDigits_le_iff (by decide) (by decide)).mpr (len.is_lt.trans (by decide))
    dsimp only
    rw [List.length_append, List.length_cons]
    omega

theorem NetworkText.text_ne_nil (n : NetworkText) : n.text ≠ [] := by
  have hquad : n.quad.text ≠ [] := List.append_ne_nil_of_left_ne_nil (decimal_ne_nil _) _
  unfold NetworkText.text
  cases n.len with
  | none => exact hquad
  | some len => exact List.append_ne_nil_of_left_ne_nil hquad _

/-- Flag lists have letters and commas. -/
theorem isPlain_listText (fs : List AclFlagName) : IsPlain (listText fs) := by
  have hname : ∀ f : AclFlagName, IsPlain f.text := by
    intro f
    cases f <;> exact List.all_iff_forall_prop.mp (by decide)
  induction fs with
  | nil => exact fun c hc => absurd hc List.not_mem_nil
  | cons f fs ih =>
    cases fs with
    | nil => exact hname f
    | cons g fs =>
      intro c hc
      rcases List.mem_append.mp hc with hc | hc
      · exact hname f c hc
      rcases List.mem_cons.mp hc with rfl | hc
      · decide
      · exact ih c hc

theorem AtBlank.takeWhile {s : List Char} (h : AtBlank s) (p : Char → Bool) :
    AtBlank (s.takeWhile p) := by
  cases s with
  | nil => exact h
  | cons c s =>
    rw [List.takeWhile_cons]
    split
    · exact h
    · exact nofun

theorem AtBlank.take {s : List Char} (h : AtBlank s) (n : ℕ) : AtBlank (s.take n) := by
  cases n with
  | zero => exact nofun
  | succ n =>
    cases s with
    | nil => exact h
    | cons c s => exact h

section

variable (strtod : CString → StrtoResult ℚ)

/-- Behind the key and the network a line may go on as it likes. -/
theorem parseModeConfigLine_allow (a : AllowLine) {s : List Char} (hs : AtBlank s) :
    parseModeConfigLine strtod (cString (a.head ++ s)) = (do
      let _ ← aclAddEntry (some a.network.text) 0
      pure ()) := by
  unfold AllowLine.head
  set n := a.network
  have hplain := n.isPlain_text
  have hkey : ∀ c ∈ aclAllowKey, c ≠ '#' ∧ c ≠ '\x00' := List.all_iff_forall_prop.mp (by decide)
  -- neither the comment sign nor the terminator occurs in the key or in the network
  have hpass : ∀ (p : Char → Bool), (∀ c, c ≠ '#' ∧ c ≠ '\x00' → p c = true) → ∀ s : List Char,
      (aclAllowKey ++ n.text ++ s).takeWhile p = aclAllowKey ++ n.text ++ s.takeWhile p := by
    intro p hp s
    refine takeWhile_pass (fun c hc => ?_) s
    rcases List.mem_append.mp hc with hc | hc
    · exact hp c (hkey c hc)
    · exact hp c (hplain c hc).2
  unfold cString
  rw [hpass _ (fun c hc => decide_eq_true hc.2)]
  unfold parseModeConfigLine
  rw [hpass _ (fun c hc => decide_eq_true hc.1)]
  have hblank := (hs.takeWhile fun c => decide (c ≠ '\x00')).takeWhile fun c => decide (c ≠ '#')
  set s' := (s.takeWhile fun c => decide (c ≠ '\x00')).takeWhile fun c => decide (c ≠ '#')
  -- `sscanf` reads the key, then the network up to the blank behind it
  have hfirst : scanWord 63 (aclAllowKey ++ n.text ++ s') =
      some ("acl_allow".toList, ' ' :: (n.text ++ s')) :=
    scanWord_word (w := "acl_allow".toList) (List.all_iff_forall_prop.mp (by decide))
      (List.cons_ne_nil _ _) (by decide) (by rintro _ ⟨⟩; rfl)
  have hsecond : scanWord 127 (' ' :: (n.text ++ s')) = some (n.text, s') := by
    rw [scanWord_blank _ _ (by decide)]
    exact scanWord_word (fun c hc => (hplain c hc).1) n.text_ne_nil
      (n.length_text_le.trans (by decide)) hblank
  rw [hfirst]
  dsimp only
  rw [hsecond]
  rfl

theorem AllowLine.tail_cases (a : AllowLine) :
    a.tail = [] ∨ ∃ w, a.tail = ' ' :: w ∧ IsPlain w := by
  unfold AllowLine.tail
  cases a.flags with
  | nil => exact .inl rfl
  | cons f fs => exact .inr ⟨_, rfl, isPlain_listText (f :: fs)⟩

theorem AllowLine.atBlank (a : AllowLine) {eol : List Char} (heol : IsEol eol) :
    AtBlank (a.tail ++ eol) := by
  rcases a.tail_cases with htail | ⟨w, htail, -⟩
  · rw [htail]
    exact heol.atBlank
  · rw [htail]
    rintro _ ⟨⟩
    rfl

theorem AllowLine.length_head_le (a : AllowLine) : a.head.length ≤ 76 := by
  have htext := a.network.length_text_le
  rw [AllowLine.head, List.length_append, length_aclAllowKey]
  omega

theorem AllowLine.not_mem_text (a : AllowLine) : '\n' ∉ a.text := by
  unfold AllowLine.text AllowLine.head
  rw [List.mem_append, List.mem_append]
  rintro ((hmem | hmem) | hmem)
  · exact absurd hmem (by decide)
  · exact a.network.isPlain_text.not_mem hmem
  · rcases a.tail_cases with htail | ⟨w, htail, hplain⟩
    · rw [htail] at hmem
      exact absurd hmem List.not_mem_nil
    · rw [htail] at hmem
      exact hplain.not_mem ((List.mem_cons.mp hmem).resolve_left (by decide))

theorem AllowLine.text_ne_nil (a : AllowLine) : a.text ≠ [] := by
  unfold AllowLine.text AllowLine.head
  exact List.append_ne_nil_of_left_ne_nil
    (List.append_ne_nil_of_right_ne_nil _ a.network.text_ne_nil) _

/-- An `acl_allow` line adds its network without flags, however long the list behind it is. -/
theorem parseModeConfigLines_allow (a : AllowLine) {eol : List Char} (heol : IsEol eol) :
    parseModeConfigLines strtod (a.text ++ eol) = (do
      let _ ← aclAddEntry (some a.network.text) 0
      pure ()) := by
  have hhead := a.length_head_le
  by_cases hfits : a.text.length < 255
  · have hread : fgets 255 (a.text ++ eol) = some (a.head ++ (a.tail ++ eol), []) := by
      have hsplit : a.head ++ (a.tail ++ eol) = a.text ++ eol := (List.append_assoc _ _ _).symm
      rw [hsplit]
      rcases heol with rfl | rfl
      · rw [List.append_nil]
        exact fgets_last a.not_mem_text a.text_ne_nil hfits.le
      · exact fgets_line a.not_mem_text hfits []
    rw [parseModeConfigLines_eq strtod hread, parseModeConfigLine_allow strtod a (a.atBlank heol),
      parseModeConfigLines_nil, Proc.bind_assoc]
    rfl
  · -- the list is cut off, and what is left of it sets nothing
    have hread := fgets_long a.not_mem_text (n := 255) (by decide) (by omega) eol
    have hlength : a.text.length = a.head.length + a.tail.length := List.length_append
    have htake : a.text.take 255 = a.head ++ a.tail.take (255 - a.head.length) := by
      rw [AllowLine.text, List.take_append, List.take_of_length_le (by omega)]
    have hblank : AtBlank (a.tail.take (255 - a.head.length)) := by
      have htail := a.atBlank (.inl rfl)
      rw [List.append_nil] at htail
      exact htail.take _
    -- the rest of the list begins behind the blank, or the line would have fitted
    have hdrop : ∃ w, a.text.drop 255 = w ∧ IsPlain w := by
      rcases a.tail_cases with htail | ⟨w, htail, hplain⟩
      · rw [htail, List.length_nil] at hlength
        omega
      · refine ⟨w.drop (254 - a.head.length), ?_, fun c hc => hplain c (List.mem_of_mem_drop hc)⟩
        rw [AllowLine.text, List.drop_append, List.drop_of_length_le (by omega), htail,
          show 255 - a.head.length = 254 - a.head.length + 1 by omega, List.drop_succ_cons,
          List.nil_append]
    obtain ⟨w, hw, hplain⟩ := hdrop
    rw [parseModeConfigLines_eq strtod hread, htake, parseModeConfigLine_allow strtod a hblank, hw,
      parseModeConfigLines_plain strtod hplain heol, Proc.bind_assoc]
    rfl

/-- While the table has room, the line appends what it adds. -/
theorem appendsAcl_allow (a : AllowLine) {eol : List Char} (heol : IsEol eol) :
    AppendsAcl a.added (parseModeConfigLines strtod (a.text ++ eol)) := by
  rw [parseModeConfigLines_allow strtod a heol]
  intro d hroom
  unfold AllowLine.added at hroom ⊢
  rw [bind_state, pure_state]
  by_cases hzero : a.network.quad.addr = 0
  · rw [if_pos hzero, (aclAddEntry_zero hzero 0 d).2, List.append_nil]
  · rw [if_neg hzero] at hroom ⊢
    rw [List.length_singleton] at hroom
    rw [(aclAddEntry_entry ⟨a.network, hzero⟩ 0 (by omega)).2]
    rfl

/-! ### Files -/

/-- Any other line: alone, it leaves the table as it is. -/
structure OtherLine where
  text : List Char
  not_mem : '\n' ∉ text
  leaves : ∀ eol, IsEol eol → LeavesAcl (parseModeConfigLines strtod (text ++ eol))

/-- A line of the file. -/
inductive ModeLine where
  | allow (a : AllowLine)
  | other (l : OtherLine strtod)

end

namespace ModeLine

variable {strtod : CString → StrtoResult ℚ}

def text : ModeLine strtod → List Char
  | allow a => a.text
  | other l => l.text

/-- The `acl_allow` line, if it is one. -/
def allow? : ModeLine strtod → Option AllowLine
  | allow a => some a
  | other _ => none

/-- What the line adds to the table. -/
def added (l : ModeLine strtod) : List AclEntry := (l.allow?.map AllowLine.added).getD []

theorem not_mem_text (l : ModeLine strtod) : '\n' ∉ l.text := by
  cases l with
  | allow a => exact a.not_mem_text
  | other l => exact l.not_mem

theorem appendsAcl (l : ModeLine strtod) {eol : List Char} (heol : IsEol eol) :
    AppendsAcl l.added (parseModeConfigLines strtod (l.text ++ eol)) := by
  cases l with
  | allow a => exact appendsAcl_allow strtod a heol
  | other l => exact (l.leaves eol heol).appends

end ModeLine

/-- The file: lines with their newlines, and perhaps a last one without. -/
structure ModesConf (strtod : CString → StrtoResult ℚ) where
  lines : List (ModeLine strtod)
  last : Option (ModeLine strtod)

namespace ModesConf

variable {strtod : CString → StrtoResult ℚ} (conf : ModesConf strtod)

def allLines : List (ModeLine strtod) := conf.lines ++ conf.last.toList

def text : List Char :=
  (conf.lines.flatMap fun l => l.text ++ ['\n']) ++ (conf.last.map ModeLine.text).getD []

/-- Its `acl_allow` lines, in order. -/
def allowLines : List AllowLine := conf.allLines.filterMap ModeLine.allow?

/-- Only the `acl_allow` lines add entries. -/
theorem flatMap_added (ls : List (ModeLine strtod)) :
    ls.flatMap ModeLine.added = (ls.filterMap ModeLine.allow?).flatMap AllowLine.added := by
  induction ls with
  | nil => rfl
  | cons l ls ih =>
    rw [List.flatMap_cons, ih]
    cases l with
    | allow a => rfl
    | other l => rfl

/-- The lines append what they add, one after the other. -/
theorem appendsAcl :
    AppendsAcl (conf.allowLines.flatMap AllowLine.added)
      (parseModeConfigLines strtod conf.text) := by
  unfold allowLines
  rw [← flatMap_added]
  unfold text allLines
  induction conf.lines with
  | nil =>
    rw [List.flatMap_nil, List.nil_append, List.nil_append]
    -- the last line may end without a newline
    cases conf.last with
    | none =>
      show AppendsAcl [] (parseModeConfigLines strtod [])
      rw [parseModeConfigLines_nil]
      exact leavesAcl_pure.appends
    | some l =>
      have hlast := l.appendsAcl (.inl rfl)
      rw [List.append_nil] at hlast
      show AppendsAcl (l.added ++ []) (parseModeConfigLines strtod l.text)
      rwa [List.append_nil]
  | cons l ls ih =>
    rw [List.flatMap_cons, List.append_assoc, List.append_assoc, List.singleton_append,
      parseModeConfigLines_line strtod l.not_mem_text, List.cons_append, List.flatMap_cons]
    exact (l.appendsAcl (.inr rfl)).bind ih

/-- The table after the file. -/
theorem aclEntries_parse (path : CString) {d : Daemon}
    (hroom : d.mode.aclEntries.length + conf.allowLines.length ≤ 256) :
    (modeHandlerParseConfig (some path) ⟨some conf.text, strtod⟩ d).state.mode.aclEntries =
      d.mode.aclEntries ++ conf.allowLines.flatMap AllowLine.added := by
  have hadded : (conf.allowLines.flatMap AllowLine.added).length ≤ conf.allowLines.length := by
    induction conf.allowLines with
    | nil => exact le_rfl
    | cons a as ih =>
      have hone : a.added.length ≤ 1 := by
        unfold AllowLine.added
        split_ifs
        · exact Nat.zero_le 1
        · exact le_rfl
      rw [List.flatMap_cons, List.length_append, List.length_cons]
      omega
  exact conf.appendsAcl d (by omega)

end ModesConf

/-! ### The flags of the file -/

/-- After the file the table has, in the order of the lines, an entry for each `acl_allow` line with
the union of the flags it names, which is what the loop of `acl_default_policy` reads. -/
structure KeepsAclFlags {strtod : CString → StrtoResult ℚ} (conf : ModesConf strtod)
    (path : CString) (d : Daemon) : Prop where
  table : (conf.allowLines.map AllowLine.entry).Sublist
    (modeHandlerParseConfig (some path) ⟨some conf.text, strtod⟩ d).state.mode.aclEntries
  policy : ∀ a ∈ conf.allowLines, aclFlagList 0 (listText a.flags) = union a.flags

section

variable {strtod : CString → StrtoResult ℚ}

/-- An entry that a line adds has no flags, and not the address 0. -/
theorem AllowLine.of_mem_added {a : AllowLine} {e : AclEntry} (he : e ∈ a.added) :
    e.flags = 0 ∧ e.ip ≠ 0 := by
  unfold AllowLine.added at he
  split_ifs at he with hzero
  · exact absurd he List.not_mem_nil
  · obtain rfl := List.mem_singleton.mp he
    exact ⟨rfl, fun h => hzero (htonl_eq_zero_iff.mp h)⟩

/-- **The `acl_allow` lines keep their flags** exactly if they name none, and none is for the
address 0. -/
theorem keepsAclFlags_iff (conf : ModesConf strtod) (path : CString) {d : Daemon}
    (hnew : ∀ a ∈ conf.allowLines, ∀ e ∈ d.mode.aclEntries, ¬ e.IsOf a.network)
    (hroom : d.mode.aclEntries.length + conf.allowLines.length ≤ 256) :
    KeepsAclFlags conf path d ↔
      ∀ a ∈ conf.allowLines, a.flags = [] ∧ a.network.quad ≠ ⟨0, 0, 0, 0⟩ := by
  have htable := conf.aclEntries_parse path hroom
  constructor
  · -- an entry of the table is an old one or was added by one of the lines
    intro h a ha
    have hmem := h.table.subset (List.mem_map_of_mem (f := AllowLine.entry) ha)
    rw [htable] at hmem
    rcases List.mem_append.mp hmem with hold | hadded
    · exact absurd (AclEntry.isOf_of_eq rfl rfl) (hnew a ha _ hold)
    · obtain ⟨b, -, hb⟩ := List.mem_flatMap.mp hadded
      obtain ⟨hflags, hip⟩ := AllowLine.of_mem_added hb
      refine ⟨(union_eq_zero_iff a.flags).mp hflags, ?_⟩
      rw [ne_eq, ← Quad.addr_eq_zero_iff]
      exact fun hzero => hip (htonl_eq_zero_iff.mpr hzero)
  · intro h
    -- without flags and with an address each line adds the entry it stands for
    have hadded : conf.allowLines.flatMap AllowLine.added =
        conf.allowLines.map AllowLine.entry := by
      rw [List.map_eq_flatMap]
      refine List.flatMap_congr fun a ha => ?_
      obtain ⟨hflags, hquad⟩ := h a ha
      unfold AllowLine.added AllowLine.entry
      rw [if_neg (mt a.network.quad.addr_eq_zero_iff.mp hquad), hflags]
      rfl
    refine ⟨?_, fun a _ => aclFlagList_names a.flags 0⟩
    rw [htable, hadded]
    exact List.sublist_append_right _ _

end

/-- No file of the examples has a number with a fraction. -/
def noStrtod : CString → StrtoResult ℚ := fun s => ⟨0, s, false⟩

/-- A file with one line. -/
def allowConf (network : NetworkText) (flags : List AclFlagName) : ModesConf noStrtod :=
  ⟨[.allow ⟨network, flags⟩], none⟩

/-- `acl_allow 10.0.0.0/8` -/
theorem keepsAclFlags_plain :
    KeepsAclFlags (allowConf ⟨⟨10, 0, 0, 0⟩, some 8⟩ []) [] Daemon.init :=
  (keepsAclFlags_iff _ [] (fun _ _ _ he => absurd he List.not_mem_nil) (by decide)).mpr (by
    rintro a ha
    obtain rfl := List.mem_singleton.mp ha
    decide)

/-- The network is not restricted at all. -/
theorem not_keepsAclFlags_restricted :
    (allowConf ⟨⟨192, 168, 1, 0⟩, some 24⟩ [.noquery, .noserve]).text =
        "acl_allow 192.168.1.0/24 noquery,noserve\n".toList ∧
      (modeHandlerParseConfig (some []) ⟨some "acl_allow 192.168.1.0/24 noquery,noserve\n".toList,
        noStrtod⟩ Daemon.init).state.mode.aclEntries = [⟨htonl 0xC0A80100, htonl 0xFFFFFF00, 0⟩] ∧
      ¬ KeepsAclFlags (allowConf ⟨⟨192, 168, 1, 0⟩, some 24⟩ [.noquery, .noserve]) []
        Daemon.init := by
  set conf := allowConf ⟨⟨192, 168, 1, 0⟩, some 24⟩ [.noquery, .noserve]
  have htext : conf.text = "acl_allow 192.168.1.0/24 noquery,noserve\n".toList := by decide
  have htable : (modeHandlerParseConfig (some []) ⟨some conf.text, noStrtod⟩
      Daemon.init).state.mode.aclEntries = [⟨htonl 0xC0A80100, htonl 0xFFFFFF00, 0⟩] := by
    rw [conf.aclEntries_parse [] (by decide)]
    decide
  refine ⟨htext, htext ▸ htable, fun h => ?_⟩
  have hkept := h.table
  rw [htable] at hkept
  revert hkept
  decide

end Dntpd
