/-!
# Radio parameters

Bit rate, framing and modulation of the contactless side, with the codes that stand for them in registers and arguments.
-/

namespace NfcHost

/-- A bit rate of the contactless side. -/
inductive BitRate where
  | kbps106 | kbps212 | kbps424 | kbps848
  deriving DecidableEq

namespace BitRate

/-- Every bit rate, ascending. -/
def all : List BitRate := [kbps106, kbps212, kbps424, kbps848]

/-- The rate in kilobits a second. -/
def kbps : BitRate → Nat
  | kbps106 => 106
  | kbps212 => 212
  | kbps424 => 424
  | kbps848 => 848

/-- The speed code of the rate in a mode register. -/
def code : BitRate → UInt8
  | kbps106 => 0
  | kbps212 => 1
  | kbps424 => 2
  | kbps848 => 3

/-- The bit rate of a number of kilobits a second, if the controller has it. -/
def ofKbps? (n : Nat) : Option BitRate := all.find? fun r => r.kbps = n

/-- The rate as a text. -/
def text (r : BitRate) : String := toString r.kbps ++ " kbps"

end BitRate

/-- How frames are built on the contactless side. -/
inductive Framing where
  | typeA | dep | felica | typeB
  deriving DecidableEq

namespace Framing

/-- Every framing, in the order of the codes. -/
def all : List Framing := [typeA, dep, felica, typeB]

/-- The framing code in a mode register. -/
def code : Framing → UInt8
  | typeA => 0
  | dep => 1
  | felica => 2
  | typeB => 3

/-- The framing for the low two bits of a code. -/
def ofCode (c : UInt8) : Framing :=
  match c &&& 3 with
  | 0 => typeA
  | 1 => dep
  | 2 => felica
  | _ => typeB

/-- The framing's name. -/
def name : Framing → String
  | typeA => "TypeA"
  | dep => "Dep"
  | felica => "Felica"
  | typeB => "TypeB"

end Framing

/-- The modulation the controller transmits and receives with. -/
inductive Modulation where
  | typeA | typeB | typeF
  deriving DecidableEq

namespace Modulation

/-- Every modulation. -/
def all : List Modulation := [typeA, typeB, typeF]

/-- The framing that belongs to the modulation. -/
def framing : Modulation → Framing
  | typeA => .typeA
  | typeB => .typeB
  | typeF => .felica

/-- The code that asks for the modulation when targets are listed. -/
def listingCode : Modulation → UInt8
  | typeA => 0
  | typeF => 1
  | typeB => 3

/-- The modulation's letter. -/
def letter : Modulation → String
  | typeA => "A"
  | typeB => "B"
  | typeF => "F"

end Modulation

end NfcHost
