import NfcHost.Bytes

/-!
# The cyclic redundancy check of Type A frames

A 16-bit register starts from a preset value and absorbs the data byte by byte. The check is written least significant
byte first behind the data it covers.
-/

namespace NfcHost.CrcA

/-- What the register holds before the first byte. -/
def preset : UInt16 := 0x6363

/-- The register after absorbing one byte. -/
def absorb (crc : UInt16) (byte : UInt8) : UInt16 :=
  let low := byte ^^^ crc.toUInt8
  let mixed := (low ^^^ (low <<< 4)).toUInt16
  (crc >>> 8) ^^^ (mixed <<< 8) ^^^ (mixed <<< 3) ^^^ (mixed >>> 4)

/-- The register after absorbing a byte string. -/
def register (data : Bytes) : UInt16 := data.foldl absorb preset

/-- The two check bytes of a byte string, least significant first. -/
def check (data : Bytes) : Bytes := [(register data).toUInt8, (register data >>> 8).toUInt8]

/-- A byte string with its check bytes behind it. -/
def append (data : Bytes) : Bytes := data ++ check data

end NfcHost.CrcA
