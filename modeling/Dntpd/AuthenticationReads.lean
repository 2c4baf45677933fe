import Dntpd.ModeHandler
import Dntpd.PacketReads

/-!
# What the authentication walk reads (`mode_handler.c`)

`validate_packet_authentication` once more, as a procedure on the memory behind `buffer` whose trace
is the list of the indices it reads; `authEnabled` is what it finds in the configuration.
`Spec.AuthenticationWalk` shows that without the trace this is the function of `ModeHandler`.
-/

namespace Dntpd

namespace Reads

/-- The loop from `pos` on: whether it meets a MAC field. -/
def macFieldFrom (size pos : ℕ) : BufferProc Bool := do
  if pos + 4 ≤ size then
    let high ← readByte pos
    let low ← readByte (pos + 1)
    let fieldType := (high.toUInt16 <<< 8) ||| low.toUInt16
    let b2 ← readByte (pos + 2)
    let b3 ← readByte (pos + 3)
    let fieldLen := ((b2.toUInt16 <<< 8) ||| b3.toUInt16).toNat
    if fieldLen < 4 ∨ pos + fieldLen > size then return false
    else if fieldType = 0x0003 then return true
    else if fieldType = 0x0008 then return false
    else macFieldFrom size (pos + (fieldLen + 3) / 4 * 4)
  else return false
termination_by size - pos
decreasing_by omega

/-- `validate_packet_authentication` -/
def validatePacketAuthentication (authEnabled : UInt8) (size : ℕ) : BufferProc ℤ := do
  if size < 48 then return 0
  else if size > 48 then
    if ← macFieldFrom size 48 then
      return if authEnabled = 0 then -ENOTSUP else 1
    else return 0
  else return 0

end Reads

end Dntpd
