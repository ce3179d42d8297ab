import NfcHost.Bytes
import NfcHost.Radio

/-!
# Targets

What the controller reports about a card in the field, for the two kinds of cards it lists.
-/

namespace NfcHost

/-- A Type A card. -/
structure TypeATarget where
  /-- The number the controller gave the target. -/
  number : UInt8
  /-- The two bytes of its answer to the request. -/
  sensRes : UInt8 × UInt8
  /-- Its answer to the selection. -/
  selRes : UInt8
  /-- Its identifier. -/
  nfcid : Bytes
  /-- Its answer to select without the length byte; empty for a card without one. -/
  ats : Bytes
  deriving DecidableEq

namespace TypeATarget

/-- The bit of the answer to the selection that announces the ISO-DEP protocol. -/
def isoDepBit : UInt8 := 0x20

/-- An answer to the selection announces the ISO-DEP protocol. -/
def announcesIsoDep (selRes : UInt8) : Bool := selRes &&& isoDepBit != 0

/-- The card announces the ISO-DEP protocol. -/
def isoDep (t : TypeATarget) : Bool := announcesIsoDep t.selRes

end TypeATarget

/-- A Type B card. -/
structure TypeBTarget where
  /-- The number the controller gave the target. -/
  number : UInt8
  /-- Its answer to the request. -/
  sensbRes : Bytes
  /-- Its answer to the attribute command. -/
  attribRes : Bytes
  deriving DecidableEq

namespace TypeBTarget

/-- The byte that an answer to the request begins with. -/
def sensbMarker : UInt8 := 0x50

/-- The length of an answer to the request inside a listing. -/
def sensbLength : Nat := 12

/-- The card's identifier, the four bytes after the first; empty where the answer is too short. -/
def nfcid (t : TypeBTarget) : Bytes := if 5 ≤ t.sensbRes.length then (t.sensbRes.drop 1).take 4 else []

/-- The application family, the byte after the identifier. -/
def afi (t : TypeBTarget) : Option UInt8 := t.sensbRes[5]?

end TypeBTarget

/-- A card in the field. -/
inductive Target where
  | typeA (target : TypeATarget)
  | typeB (target : TypeBTarget)
  deriving DecidableEq

namespace Target

/-- The number the controller gave the target. -/
def number : Target → UInt8
  | typeA t => t.number
  | typeB t => t.number

/-- The card's identifier. -/
def nfcid : Target → Bytes
  | typeA t => t.nfcid
  | typeB t => t.nfcid

/-- The modulation the card answered to. -/
def modulation : Target → Modulation
  | typeA _ => .typeA
  | typeB _ => .typeB

end Target

end NfcHost
