import NfcHost.Bytes.Access
import NfcHost.Duration
import NfcHost.Register
import NfcHost.Radio.ModeRegister

/-!
# Settings of a raw exchange

What the caller chooses for an exchange whose framing the host controls, and how those choices change the four radio
registers. Bits that no choice governs keep the value they were read with.
-/

namespace NfcHost

/-- The radio settings of one raw exchange. Unless told otherwise: Type A, hardware check on, whole bytes, 106 kbps, the
configured timeout, and no writes of what the chip already holds. -/
structure RawSettings where
  /-- The modulation of the target. -/
  modulation : Modulation := .typeA
  /-- The chip adds and checks the cyclic redundancy check. -/
  crc : Bool := true
  /-- How many bits of the last byte are sent; eight for a whole byte. -/
  bits : UInt8 := 8
  /-- The bit rate in both directions. -/
  bitRate : BitRate := .kbps106
  /-- The radio timeout; without one the configured timeout holds. -/
  timeout : Option Duration := none
  /-- Leave out writes of what the chip already holds. -/
  useCache : Bool := true
  deriving DecidableEq

/-- The values of the four registers that a raw exchange reads, changes and writes back. -/
structure RadioRegisters where
  /-- The transmission mode. -/
  txMode : UInt8
  /-- The reception mode. -/
  rxMode : UInt8
  /-- The automatic transmitter settings. -/
  txAuto : UInt8
  /-- The bit framing. -/
  bitFraming : UInt8
  deriving DecidableEq

namespace RadioRegisters

/-- The four registers in the order they are read. -/
def order : List Register := [.txMode, .rxMode, .txAuto, .bitFraming]

/-- Takes the values from a reading in that order. -/
def ofValues (values : Bytes) : Except Fault RadioRegisters := do
  let four ← Bytes.slice values 0 order.length
  return {
    txMode := ← Bytes.fetch four 0
    rxMode := ← Bytes.fetch four 1
    txAuto := ← Bytes.fetch four 2
    bitFraming := ← Bytes.fetch four 3 }

/-- A mode register with the bits that the settings govern. -/
def modeFor (settings : RawSettings) (value : UInt8) : UInt8 :=
  ModeRegister.withCrc
    (ModeRegister.withFraming (ModeRegister.withBitRate value settings.bitRate) settings.modulation.framing) settings.crc

/-- The registers with the bits that the settings govern. Type A needs full amplitude modulation and the others do not. -/
def apply (regs : RadioRegisters) (settings : RawSettings) : RadioRegisters where
  txMode := modeFor settings regs.txMode
  rxMode := modeFor settings regs.rxMode
  txAuto := TxAutoRegister.withFullAsk regs.txAuto (settings.modulation == .typeA)
  bitFraming := BitFramingRegister.withLastBits regs.bitFraming settings.bits

/-- The registers with their values, ready to be written. -/
def settings (regs : RadioRegisters) : List Setting :=
  [(.txMode, regs.txMode), (.rxMode, regs.rxMode), (.txAuto, regs.txAuto), (.bitFraming, regs.bitFraming)]

end RadioRegisters

end NfcHost
