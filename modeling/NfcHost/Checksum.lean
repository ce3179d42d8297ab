import NfcHost.Bytes

/-!
# Frame checksums

Both checksums of a frame make a sum of bytes zero modulo 256: one closes the length byte, the other the marker and the body.
-/

namespace NfcHost.Checksum

/-- The sum of a body's bytes modulo 256, started from `start`. -/
def total (start : UInt8) (body : Bytes) : UInt8 := body.foldl (· + ·) start

/-- The byte that closes a length byte. -/
def ofLength (len : UInt8) : UInt8 := 0 - len

/-- The byte that closes a marker and a body. -/
def ofData (marker : UInt8) (body : Bytes) : UInt8 := 0 - total marker body

/-- `check` closes the length byte `len`. -/
def closesLength (len check : UInt8) : Bool := len + check == 0

/-- `check` closes the marker and the body. -/
def closesData (marker : UInt8) (body : Bytes) (check : UInt8) : Bool := total (marker + check) body == 0

end NfcHost.Checksum
