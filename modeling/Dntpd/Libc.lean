import Dntpd.Types

/-!
# The C library functions the daemon reads numbers and addresses with

`strtol` and `strtoul` are the base-10 readings of the C standard.  `inetAddr` reads the
numbers-and-dots notation (one to four parts; decimal, octal or hexadecimal), `inetPton` the
strict dotted quad.  Addresses are `in_addr_t` values in network byte order, so the first part of
a quad is the low byte of the word on a little-endian host.
-/

namespace Dntpd

/-! ### Characters -/

/-- `isspace` in the C locale. -/
def isspace (c : Char) : Bool := c == ' ' || (9 ≤ c.toNat && c.toNat ≤ 13)

/-- The value of a digit in a base up to 16. -/
def digitValue? (base : ℕ) (c : Char) : Option ℕ :=
  let v :=
    if '0' ≤ c ∧ c ≤ '9' then c.toNat - '0'.toNat
    else if 'a' ≤ c ∧ c ≤ 'f' then c.toNat - 'a'.toNat + 10
    else if 'A' ≤ c ∧ c ≤ 'F' then c.toNat - 'A'.toNat + 10
    else 16
  if v < base then some v else none

/-- The digits at the head of a string: how many, their value, and what follows. -/
def scanDigits (base : ℕ) : CString → ℕ × ℕ × CString :=
  go 0 0
where
  go (n acc : ℕ) : CString → ℕ × ℕ × CString
    | [] => (n, acc, [])
    | c :: s =>
      match digitValue? base c with
      | some v => go (n + 1) (acc * base + v) s
      | none => (n, acc, c :: s)

/-! ### Integers -/

/-- What a `strto…` function found: the value, the text at `endptr`, and whether it set `ERANGE`. -/
structure StrtoResult (α : Type) where
  value : α
  endptr : CString
  erange : Bool

/-- The error number `ERANGE`. -/
def ERANGE : ℤ := 34

/-- Sign, magnitude and rest of the base-10 integer a string starts with; `none` without digits. -/
def scanInteger (s : CString) : Option (Bool × ℕ × CString) :=
  let s := s.dropWhile isspace
  let (negative, digits) :=
    match s with
    | '-' :: t => (true, t)
    | '+' :: t => (false, t)
    | t => (false, t)
  match scanDigits 10 digits with
  | (0, _, _) => none
  | (_, v, rest) => some (negative, v, rest)

/-- `strtol(s, &endptr, 10)`. -/
def strtol (s : CString) : StrtoResult ℤ :=
  match scanInteger s with
  | none => ⟨0, s, false⟩
  | some (negative, v, rest) =>
    let x : ℤ := if negative then -v else v
    if x > CInt.int64Max then ⟨CInt.int64Max, rest, true⟩
    else if x < CInt.int64Min then ⟨CInt.int64Min, rest, true⟩
    else ⟨x, rest, false⟩

/-- `strtoul(s, &endptr, 10)`: a negative number is taken modulo `2 ^ 64`. -/
def strtoul (s : CString) : StrtoResult ℕ :=
  match scanInteger s with
  | none => ⟨0, s, false⟩
  | some (negative, v, rest) =>
    if v > 18446744073709551615 then ⟨18446744073709551615, rest, true⟩
    else ⟨if negative then (18446744073709551616 - v) % 18446744073709551616 else v, rest, false⟩

/-- `sscanf(s, "%u", …)`: what it stores when it returns 1.  The number is read as `strtoul` reads
it and cut to an `unsigned int`. -/
def sscanfU (s : CString) : Option UInt32 :=
  match scanInteger s with
  | none => none
  | some _ => some (UInt32.ofNat (strtoul s).value)

/-! ### Strings -/

/-- `strncmp(a, b, n) == 0`. -/
def strncmpEq (a b : CString) (n : ℕ) : Bool := a.take n == b.take n

/-- `strchr`: what stands before and behind the character that it finds. -/
def strchr (s : CString) (c : Char) : Option (CString × CString) :=
  match s.dropWhile (· ≠ c) with
  | [] => none
  | _ :: rest => some (s.takeWhile (· ≠ c), rest)

/-- `sscanf(s, " %ns", …)`: a word of at most `n` characters, and what follows it; `none` at the end
of the string. -/
def scanWord (n : ℕ) (s : CString) : Option (CString × CString) :=
  let s := s.dropWhile isspace
  match (s.takeWhile fun c => !isspace c).take n with
  | [] => none
  | c :: word => some (c :: word, s.drop (word.length + 1))

/-- `fgets` with room for `n` characters before the terminator: the line read, with its newline if
it has one, and the rest of the file; `none` at the end of the file. -/
def fgets (n : ℕ) (file : List Char) : Option (List Char × List Char) :=
  if file = [] then none
  else
    let room := file.take n
    let line := room.takeWhile (· ≠ '\n')
    let len := if line.length < room.length then line.length + 1 else line.length
    some (file.take len, file.drop len)

theorem fgets_length_lt {n : ℕ} (hn : 0 < n) {file line rest : List Char}
    (h : fgets n file = some (line, rest)) : rest.length < file.length := by
  unfold fgets at h
  split_ifs at h with hfile
  dsimp only at h
  obtain ⟨-, rfl⟩ := Prod.mk.inj (Option.some.inj h)
  have hpos : 0 < file.length := List.length_pos_iff.mpr hfile
  have hroom : (file.take n).length = min n file.length := List.length_take
  rw [List.length_drop]
  split_ifs with hline
  · omega
  · omega

/-- The C string a buffer holds: what stands before the first terminator. -/
def cString (buf : List Char) : CString := buf.takeWhile (· ≠ '\x00')

/-! ### Addresses -/

/-- The `in_addr_t` of an address whose parts, as one number, are `v`. -/
def htonl (v : UInt32) : UInt32 :=
  (v >>> 24) ||| ((v >>> 8) &&& (0xFF00 : UInt32)) ||| ((v <<< 8) &&& (0xFF0000 : UInt32)) |||
    (v <<< 24)

/-- `INADDR_NONE` and `INADDR_BROADCAST`: all ones. -/
def inaddrNone : UInt32 := 0xFFFFFFFF

/-- One part of the numbers-and-dots notation, in the base its prefix announces. -/
def scanPart (s : CString) : Option (ℕ × CString) :=
  let (base, digits) :=
    match s with
    | '0' :: 'x' :: t => (16, t)
    | '0' :: 'X' :: t => (16, t)
    | '0' :: t => (8, '0' :: t)
    | t => (10, t)
  match scanDigits base digits with
  | (0, _, _) => none
  | (_, v, rest) => some (v, rest)

/-- The address whose leading parts are `parts`: each of them is a byte, and the last one fills the
bytes that are left. -/
def scanAddress : ℕ → List ℕ → CString → Option ℕ
  | 0, _, _ => none
  | more + 1, parts, s =>
    match scanPart s with
    | none => none
    | some (v, '.' :: rest) =>
      if v ≤ 255 then scanAddress more (parts ++ [v]) rest else none
    | some (v, rest) =>
      -- a blank ends the text as the terminator does
      if (rest.head?.all isspace) && v < 256 ^ (4 - parts.length) then
        some (parts.foldl (fun acc p => acc * 256 + p) 0 * 256 ^ (4 - parts.length) + v)
      else none

/-- `inet_addr`. -/
def inetAddr (s : CString) : UInt32 :=
  match scanAddress 4 [] s with
  | some v => htonl (UInt32.ofNat v)
  | none => inaddrNone

/-- One byte of a dotted quad: one to three digits, no leading zero, at most 255. -/
def scanQuadByte (s : CString) : Option (ℕ × CString) :=
  match scanDigits 10 s with
  | (0, _, _) => none
  | (n, v, rest) => if v ≤ 255 ∧ (n = 1 ∨ s.head? ≠ some '0') then some (v, rest) else none

/-- `inet_pton(AF_INET, s, …)`: the address when it returns 1. -/
def inetPton (s : CString) : Option UInt32 :=
  match scanQuadByte s with
  | some (a, '.' :: s) =>
    match scanQuadByte s with
    | some (b, '.' :: s) =>
      match scanQuadByte s with
      | some (c, '.' :: s) =>
        match scanQuadByte s with
        | some (d, []) => some (htonl (UInt32.ofNat (((a * 256 + b) * 256 + c) * 256 + d)))
        | _ => none
      | _ => none
    | _ => none
  | _ => none

example : inetPton "10.0.0.1".toList = some 0x0100000A := by decide
example : inetAddr "10.0.0.1".toList = 0x0100000A := by decide
example : inetAddr "::1".toList = inaddrNone := by decide

end Dntpd
