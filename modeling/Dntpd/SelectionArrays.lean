import Dntpd.Library.TraceProc
import Dntpd.PeerSelection

/-!
# The arrays of the selection among peers (`ntp_algorithms.c`)

`majority_vote`, `compute_system_offset` and `select_best_peers` once more, as procedures on the
cells of their arrays of `MAX_PEERS` elements, whose trace is the list of the cells they use.  A use
past the end of an array is an index of the trace like any other.  `Spec.SelectionArrays` shows that
without the trace these are the functions of `PeerSelection`.
-/

namespace Dntpd

/-- The arrays `sorted`, of the function named; those of the vote and of the selection are
static. -/
inductive SelectionArray where
  | majorityVote
  | computeSystemOffset
  | selectBestPeers
  deriving DecidableEq, Repr

/-- The contents of the arrays. -/
abbrev ArrayCells := SelectionArray → ℕ → ℤ

/-- A procedure on the arrays; its events are the cells it uses. -/
abbrev ArrayProc (α : Type) := Proc ArrayCells (SelectionArray × ℕ) α

namespace Arrays

/-! ### The accesses -/

/-- `sorted[i] = v` -/
def write (a : SelectionArray) (i : ℕ) (v : ℤ) : ArrayProc PUnit := do
  Proc.emit (a, i)
  Proc.update fun cells => Function.update cells a (Function.update (cells a) i v)

/-- `sorted[i]` -/
def get (a : SelectionArray) (i : ℕ) : ArrayProc ℤ := do
  Proc.emit (a, i)
  let cells ← Proc.read
  return cells a i

/-- `qsort(sorted, count, …)`, which is handed the first `count` cells. -/
def qsort (a : SelectionArray) (count : ℕ) : ArrayProc PUnit :=
  fun cells => ⟨⟨⟩, Function.update cells a fun i =>
    if i < count then (sortOffsets (cells a) count).getD i 0 else cells a i,
    (List.range count).map (a, ·)⟩

/-- The loop `for (int i = 0; i < n; i++) sorted[i] = offsets[i];` -/
def copy (a : SelectionArray) (offsets : ℕ → ℤ) : ℕ → ArrayProc PUnit
  | 0 => return ⟨⟩
  | n + 1 => do
    copy a offsets n
    write a n (offsets n)

/-- The median of the first `count` offsets, of which `copied` are copied. -/
def median (a : SelectionArray) (offsets : ℕ → ℤ) (copied count : ℕ) : ArrayProc ℤ := do
  copy a offsets copied
  qsort a count
  get a (count / 2)

/-! ### The functions -/

/-- `majority_vote`, whose copy ends at `MAX_PEERS` -/
def majorityVote (offsets : Option (ℕ → ℤ)) (count : ℤ) : ArrayProc ℤ :=
  match offsets with
  | none => return 0
  | some offsets => do
    if count < 1 then return 0
    else if count = 1 then return offsets 0
    else if count < 3 then
      return if offsets 0 = offsets 1 then offsets 0
        else (CInt.int64 (offsets 0 + offsets 1)).tdiv 2
    else
      let median ← median .majorityVote offsets (min count.toNat maxPeers) count.toNat
      let matched := ((List.range count.toNat).map offsets).foldl (countMatch median) (0, 0)
      return if matched.1 > count.tdiv 2 then matched.2 else median

/-- `compute_system_offset`, which copies every offset -/
def computeSystemOffset (offsets : Option (ℕ → ℤ)) (count : ℤ) : ArrayProc (UInt8 × ℤ) :=
  match offsets with
  | none => return (16, 0)
  | some offsets => do
    if count < 1 then return (16, 0)
    else
      let median ← median .computeSystemOffset offsets count.toNat count.toNat
      let valid := (List.range count.toNat).countP fun i => !isFalseTicker (offsets i) median
      if valid = 0 then return (16, 0)
      else
        let majorityOffset ← majorityVote (some offsets) count
        let majorityOffset := if majorityOffset > 127 then 127 else majorityOffset
        let majorityOffset := if majorityOffset < -128 then -128 else majorityOffset
        return (UInt8.ofInt majorityOffset, 0)

/-- `select_best_peers`, which bounds the count first -/
def selectBestPeers (offsets : Option (ℕ → ℤ)) (jitter : ℕ → UInt64) (count : ℤ)
    (validIndices : ℕ → ℕ) : ArrayProc SelectResult :=
  match offsets with
  | none => return ⟨-1, validIndices, 0⟩
  | some offsets => do
    if count < 1 then return ⟨-1, validIndices, 0⟩
    else
      let count := min count.toNat maxPeers
      let median ← median .selectBestPeers offsets count count
      let valid := Compaction.run (selectNear offsets median) count validIndices
      if valid.2 = 0 then return ⟨0, valid.1, 0⟩
      else
        let filtered := Compaction.run (selectSteady jitter) valid.2 valid.1
        return ⟨0, filtered.1, filtered.2⟩

end Arrays

end Dntpd
