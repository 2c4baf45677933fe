import Dntpd.Libc
import Mathlib.Data.Bool.AllAny
import Mathlib.Data.List.TakeWhile

/-!
# Lines and words of configuration files

`fgets` reads a line that fits into the buffer with its newline, and else as much as fits
(`fgets_line`, `fgets_long`).  `scanWord` reads a word up to the blank behind it (`scanWord_word`),
and `strchr` splits a line at a character (`strchr_split`).
-/

namespace Dntpd

/-! ### Prefixes -/

/-- A walk over characters that all pass goes on behind them. -/
theorem takeWhile_pass {p : Char → Bool} {w : List Char} (hw : ∀ c ∈ w, p c = true)
    (s : List Char) : (w ++ s).takeWhile p = w ++ s.takeWhile p :=
  List.takeWhile_append_of_pos hw

/-- It stops at the first that does not. -/
theorem takeWhile_stop {p : Char → Bool} {w s : List Char} (hw : ∀ c ∈ w, p c = true)
    (hs : ∀ c ∈ s.head?, p c = false) : (w ++ s).takeWhile p = w := by
  rw [takeWhile_pass hw]
  cases s with
  | nil => exact List.append_nil w
  | cons c s =>
    rw [List.takeWhile_cons_of_neg (by rw [hs c rfl]; exact Bool.false_ne_true), List.append_nil]

/-! ### `fgets` -/

section

variable {n : ℕ} {text : List Char}

theorem pass_of_not_mem (h : '\n' ∉ text) : ∀ c ∈ text, decide (c ≠ '\n') = true := by
  rintro c hc
  refine decide_eq_true ?_
  rintro rfl
  exact h hc

/-- A line that fits is read with its newline. -/
theorem fgets_line (h : '\n' ∉ text) (hlen : text.length < n) (rest : List Char) :
    fgets n (text ++ '\n' :: rest) = some (text ++ ['\n'], rest) := by
  have hroom : (text ++ '\n' :: rest).take n = text ++ '\n' :: rest.take (n - text.length - 1) := by
    rw [List.take_append, List.take_of_length_le hlen.le,
      show n - text.length = n - text.length - 1 + 1 by omega, List.take_succ_cons]
    rfl
  have hline : ((text ++ '\n' :: rest).take n).takeWhile (· ≠ '\n') = text := by
    rw [hroom]
    refine takeWhile_stop (pass_of_not_mem h) ?_
    rintro _ ⟨⟩
    decide
  have hsplit : text ++ '\n' :: rest = (text ++ ['\n']) ++ rest := by
    rw [List.append_assoc, List.singleton_append]
  have hlength : (text ++ ['\n']).length = text.length + 1 := List.length_append
  unfold fgets
  rw [if_neg (List.append_ne_nil_of_right_ne_nil _ (List.cons_ne_nil _ _))]
  dsimp only
  rw [hline, if_pos (by rw [hroom, List.length_append, List.length_cons]; omega), hsplit, ← hlength,
    List.take_left, List.drop_left]

/-- Of a line that does not fit as much is read as there is room for. -/
theorem fgets_long (h : '\n' ∉ text) (hpos : 0 < n) (hlen : n ≤ text.length) (rest : List Char) :
    fgets n (text ++ rest) = some (text.take n, text.drop n ++ rest) := by
  have hroom : (text ++ rest).take n = text.take n := List.take_append_of_le_length hlen
  have hline : ((text ++ rest).take n).takeWhile (· ≠ '\n') = text.take n := by
    rw [hroom, List.takeWhile_eq_self_iff]
    exact fun c hc => pass_of_not_mem h c (List.mem_of_mem_take hc)
  have hne : text ++ rest ≠ [] :=
    List.append_ne_nil_of_left_ne_nil (List.ne_nil_of_length_pos (by omega)) _
  unfold fgets
  rw [if_neg hne]
  dsimp only
  rw [hline, hroom, if_neg (lt_irrefl _), List.length_take, min_eq_left hlen, hroom,
    List.drop_append_of_le_length hlen]

/-- So is a last line that has no newline. -/
theorem fgets_last (h : '\n' ∉ text) (hne : text ≠ []) (hlen : text.length ≤ n) :
    fgets n text = some (text, []) := by
  have hroom : text.take n = text := List.take_of_length_le hlen
  have hline : text.takeWhile (· ≠ '\n') = text :=
    List.takeWhile_eq_self_iff.mpr (pass_of_not_mem h)
  unfold fgets
  rw [if_neg hne]
  dsimp only
  rw [hroom, hline, if_neg (lt_irrefl _), List.take_length, List.drop_length]

end

/-! ### Words -/

/-- No character of the word is a blank. -/
def IsWord (w : List Char) : Prop := ∀ c ∈ w, isspace c = false

/-- The text is at its end or at a blank. -/
def AtBlank (s : List Char) : Prop := ∀ c ∈ s.head?, isspace c = true

/-- Of a word as much is read as there is room for. -/
theorem scanWord_take {n : ℕ} {w s : List Char} (hw : IsWord w) (hne : w ≠ []) (hpos : 0 < n)
    (hs : AtBlank s) : scanWord n (w ++ s) = some (w.take n, w.drop n ++ s) := by
  obtain ⟨c, t, rfl⟩ := List.exists_cons_of_ne_nil hne
  obtain ⟨m, rfl⟩ := Nat.exists_eq_add_one_of_ne_zero hpos.ne'
  have hfirst : isspace c = false := hw c List.mem_cons_self
  have hdrop : (c :: t ++ s).dropWhile isspace = c :: t ++ s :=
    List.dropWhile_cons_of_neg (by rw [hfirst]; exact Bool.false_ne_true)
  have hword : (c :: t ++ s).takeWhile (fun c => !isspace c) = c :: t := by
    refine takeWhile_stop (fun c hc => ?_) fun c hc => ?_
    · rw [hw c hc, Bool.not_false]
    · rw [hs c hc, Bool.not_true]
  have hsplit : c :: t ++ s = (c :: t).take (m + 1) ++ ((c :: t).drop (m + 1) ++ s) := by
    rw [← List.append_assoc, List.take_append_drop]
  have hrest : (c :: t ++ s).drop ((t.take m).length + 1) = (c :: t).drop (m + 1) ++ s := by
    rw [hsplit]
    exact List.drop_left
  unfold scanWord
  dsimp only
  rw [hdrop, hword, List.take_succ_cons]
  dsimp only
  rw [hrest]

/-- A word that is not too long is read whole. -/
theorem scanWord_word {n : ℕ} {w s : List Char} (hw : IsWord w) (hne : w ≠ [])
    (hlen : w.length ≤ n) (hs : AtBlank s) : scanWord n (w ++ s) = some (w, s) := by
  have hpos : 0 < n := (List.length_pos_iff.mpr hne).trans_le hlen
  rw [scanWord_take hw hne hpos hs, List.take_of_length_le hlen, List.drop_of_length_le hlen,
    List.nil_append]

/-- A blank in front is skipped. -/
theorem scanWord_blank (n : ℕ) (s : List Char) {c : Char} (hc : isspace c = true) :
    scanWord n (c :: s) = scanWord n s := by
  unfold scanWord
  rw [List.dropWhile_cons_of_pos hc]

/-! ### Splitting at a character -/

theorem strchr_split {s before rest : CString} {c : Char} (h : strchr s c = some (before, rest)) :
    s = before ++ c :: rest := by
  unfold strchr at h
  split at h
  · exact absurd h.symm (Option.some_ne_none _)
  · rename_i c' rest' hrest
    obtain ⟨rfl, rfl⟩ := Prod.mk.inj (Option.some.inj h)
    have hfound : c' = c := by
      have hstop := List.head?_dropWhile_not (fun x => decide (x ≠ c)) s
      rw [hrest] at hstop
      exact not_not.mp (of_decide_eq_false hstop)
    rw [← hfound, ← hrest, hfound]
    exact List.takeWhile_append_dropWhile.symm

/-- Behind any other character of an ended line stands the newline. -/
theorem newline_mem_of_strchr {w before rest : CString} {c : Char} (hc : c ≠ '\n')
    (h : strchr (w ++ ['\n']) c = some (before, rest)) : '\n' ∈ rest := by
  have hsplit := strchr_split h
  rcases List.eq_nil_or_concat rest with rfl | ⟨p, x, rfl⟩
  · exact absurd (List.append_singleton_inj.mp hsplit).2.symm hc
  · rw [List.concat_eq_append, ← List.cons_append, ← List.append_assoc] at hsplit
    rw [(List.append_singleton_inj.mp hsplit).2, List.concat_eq_append]
    exact List.mem_append_right _ List.mem_cons_self

end Dntpd
