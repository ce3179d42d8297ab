import NfcHost.Bytes.Access
import NfcHost.Command

/-!
# Firmware identification

The reply to the firmware query names the chip, its firmware version and revision, and the kinds of cards it supports.
-/

namespace NfcHost

/-- What the controller says about itself. -/
structure Firmware where
  /-- The chip. -/
  ic : UInt8
  /-- The firmware version. -/
  version : UInt8
  /-- The firmware revision. -/
  revision : UInt8
  /-- The supported kinds of cards, one bit each. -/
  support : UInt8
  deriving DecidableEq

namespace Firmware

/-- The chip byte of the controller this library drives. -/
def expectedIc : UInt8 := 0x32

/-- The length of a reply to the query, response code included. -/
def replyLength : Nat := 5

/-- Reads the four bytes after the response code. -/
def parse (payload : Bytes) : Except Fault Firmware := do
  let four ← Bytes.slice payload 0 4
  return ⟨← Bytes.fetch four 0, ← Bytes.fetch four 1, ← Bytes.fetch four 2, ← Bytes.fetch four 3⟩

/-- The chip is the one this library drives. -/
def isExpected (f : Firmware) : Bool := f.ic == expectedIc

/-- A whole reply to the query, response code included, has the right length and code and names the expected chip. -/
def replyMatches (reply : Bytes) : Except Fault Bool :=
  if reply.length = replyLength then do
    let code ← Bytes.fetch reply 0
    if code = Command.getFirmwareVersion.responseCode then return (← Bytes.fetch reply 1) == expectedIc else return false
  else return false

end Firmware

end NfcHost
