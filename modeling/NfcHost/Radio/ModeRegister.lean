import NfcHost.BitField
import NfcHost.Radio

/-!
# Fields of the radio registers

The transmission and reception mode registers share one layout: bit 7 switches the hardware check, bits 6 to 4 hold the
speed, bits 1 and 0 the framing. One bit of the automatic transmitter register forces full amplitude modulation, and the
low three bits of the bit framing register say how much of the last byte is sent.
-/

namespace NfcHost.ModeRegister

/-- The switch of the hardware check. -/
def crcField : BitField := ⟨7, 1⟩

/-- The speed bits. -/
def speedField : BitField := ⟨4, 3⟩

/-- The framing bits. -/
def framingField : BitField := ⟨0, 2⟩

/-- The speed code. -/
def speed (value : UInt8) : UInt8 := speedField.get value

/-- The framing. -/
def framing (value : UInt8) : Framing := Framing.ofCode (framingField.get value)

/-- The hardware check is on. -/
def crcEnabled (value : UInt8) : Bool := crcField.get value != 0

/-- The value with the speed of a bit rate. -/
def withBitRate (value : UInt8) (rate : BitRate) : UInt8 := speedField.set value rate.code

/-- The value with another framing. -/
def withFraming (value : UInt8) (framing : Framing) : UInt8 := framingField.set value framing.code

/-- The value with the hardware check on or off. -/
def withCrc (value : UInt8) (enabled : Bool) : UInt8 := crcField.set value enabled.toUInt8

end NfcHost.ModeRegister

namespace NfcHost.TxAutoRegister

/-- The bit that forces full amplitude modulation. -/
def fullAskField : BitField := ⟨6, 1⟩

/-- Full amplitude modulation is forced. -/
def fullAsk (value : UInt8) : Bool := fullAskField.get value != 0

/-- The value with full amplitude modulation forced or not. -/
def withFullAsk (value : UInt8) (force : Bool) : UInt8 := fullAskField.set value force.toUInt8

end NfcHost.TxAutoRegister

namespace NfcHost.BitFramingRegister

/-- The number of bits of the last byte. -/
def lastBitsField : BitField := ⟨0, 3⟩

/-- How many bits of the last byte are sent; none stands for the whole byte. -/
def lastBits (value : UInt8) : UInt8 := lastBitsField.get value

/-- The value with another number of bits, of which the low three bits count. -/
def withLastBits (value bits : UInt8) : UInt8 := lastBitsField.set value (bits &&& 7)

end NfcHost.BitFramingRegister
