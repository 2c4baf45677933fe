import Dntpd.Daemon
import Dntpd.Library.CInt

/-!
# The precision of the clock (`get_system_precision` of `time_sync.c`)

The events of the procedure are the turns of its loop over nanoseconds, each with the values that
it leaves in the counter and in `ns`.
-/

namespace Dntpd

open CInt

/-- What a turn of the loop leaves in `p` and in `ns`. -/
structure PrecisionTurn where
  counter : Int8
  ns : ℤ
  deriving DecidableEq

/-- A function with these turns. -/
abbrev PrecisionProc (α : Type) := Proc Daemon PrecisionTurn α

/-- `ns <<= 1` does not overflow below a second. -/
theorem int64_double_pos {ns : ℤ} (hpos : 0 < ns) (hlt : ns < 1000000000) : 0 < int64 (ns * 2) := by
  rw [int64_eq (by unfold InInt64; omega)]
  omega

/-- The loop over nanoseconds. -/
def nanosecondLoop (p : Int8) (ns : ℤ) (hpos : 0 < ns) : PrecisionProc Int8 :=
  if hlt : ns < 1000000000 then do
    Proc.emit ⟨p - 1, int64 (ns * 2)⟩
    nanosecondLoop (p - 1) (int64 (ns * 2)) (int64_double_pos hpos hlt)
  else return p
termination_by (1000000000 - ns).toNat
decreasing_by
  rw [int64_eq (by unfold InInt64; omega)]
  omega

/-- The loop over seconds. -/
def secondLoop (p : Int8) (s : ℤ) : Int8 :=
  if 0 < s then secondLoop (p + 1) (s / 2) else p
termination_by s.toNat
decreasing_by omega

/-- `get_system_precision`, for the answer of `clock_getres`. -/
def getSystemPrecision (res : Except Errno Timespec) : PrecisionProc Int8 := do
  match res with
  | .error e =>
    Proc.update fun d => { d with errno := e.val }
    return -20
  | .ok ts =>
    if ts.sec = 0 ∧ ts.nsec = 0 then return -20
    else if ts.sec > 0 then
      let p := secondLoop 0 ts.sec
      return if p > 6 then 6 else -p
    else
      let ns := int64 (int64 (ts.sec * 1000000000) + ts.nsec)
      if hns : ns ≤ 0 then return -20 else nanosecondLoop 0 ns (not_le.mp hns)

/-- What `main` does with it. -/
def setLocalPrecision (res : Except Errno Timespec) : PrecisionProc Unit := do
  let p ← getSystemPrecision res
  Proc.update fun d => { d with g := { d.g with localPrecision := p } }

end Dntpd
