import NfcHost.Bytes

/-!
# Registers of the contactless unit

Each register has a 16-bit address and an 8-bit value. Registers are ordered by their addresses.
-/

namespace NfcHost

/-- A register of the contactless unit. -/
inductive Register where
  /-- General transmit and receive modes. -/
  | mode
  /-- Transmission data rate and framing. -/
  | txMode
  /-- Reception data rate and framing. -/
  | rxMode
  /-- Antenna driver pins. -/
  | txControl
  /-- Automatic transmitter settings. -/
  | txAuto
  /-- Internal sources of the analog part. -/
  | txSel
  /-- Receiver settings. -/
  | rxSel
  /-- Bit decoder thresholds. -/
  | rxThreshold
  /-- Demodulator settings. -/
  | demod
  /-- Manual receiver tuning. -/
  | manualRcv
  /-- Type B framing. -/
  | typeB
  /-- Driver conductance while the field is off. -/
  | gsNOff
  /-- Modulation width. -/
  | modWidth
  /-- Bit phase adjustment. -/
  | txBitPhase
  /-- Receiver gain and field level. -/
  | rfCfg
  /-- Driver conductance while the field is on. -/
  | gsNOn
  /-- Conductance of the other driver without modulation. -/
  | cwGsP
  /-- Conductance of the other driver under modulation. -/
  | modGsP
  /-- Command of the contactless unit. -/
  | command
  /-- Interrupt enable bits. -/
  | commIEn
  /-- Interrupt enable bits. -/
  | divIEn
  /-- Interrupt request bits. -/
  | commIRq
  /-- Interrupt request bits. -/
  | divIRq
  /-- Error flags of the last command. -/
  | error
  /-- Buffer level thresholds. -/
  | waterLevel
  /-- Miscellaneous control bits. -/
  | control
  /-- Adjustments of frames that are not whole bytes. -/
  | bitFraming
  /-- Position of the first collision. -/
  | coll
  deriving DecidableEq

namespace Register

/-- Every register, in ascending order of addresses. -/
def all : List Register :=
  [mode, txMode, rxMode, txControl, txAuto, txSel, rxSel, rxThreshold, demod, manualRcv, typeB, gsNOff, modWidth, txBitPhase,
    rfCfg, gsNOn, cwGsP, modGsP, command, commIEn, divIEn, commIRq, divIRq, error, waterLevel, control, bitFraming, coll]

/-- The low byte of the address; the high byte is the same for all. -/
def offset : Register → UInt8
  | mode => 0x01
  | txMode => 0x02
  | rxMode => 0x03
  | txControl => 0x04
  | txAuto => 0x05
  | txSel => 0x06
  | rxSel => 0x07
  | rxThreshold => 0x08
  | demod => 0x09
  | manualRcv => 0x0D
  | typeB => 0x0E
  | gsNOff => 0x13
  | modWidth => 0x14
  | txBitPhase => 0x15
  | rfCfg => 0x16
  | gsNOn => 0x17
  | cwGsP => 0x18
  | modGsP => 0x19
  | command => 0x31
  | commIEn => 0x32
  | divIEn => 0x33
  | commIRq => 0x34
  | divIRq => 0x35
  | error => 0x36
  | waterLevel => 0x3B
  | control => 0x3C
  | bitFraming => 0x3D
  | coll => 0x3E

/-- The high byte of every address. -/
def page : UInt8 := 0x63

/-- The 16-bit address. -/
def address (r : Register) : UInt16 := page.toUInt16 * 0x100 + r.offset.toUInt16

/-- The address as it stands in arguments, high byte first. -/
def addressBytes (r : Register) : Bytes := [page, r.offset]

/-- Registers compare by their addresses. -/
instance : Ord Register := ⟨fun a b => compare a.address b.address⟩

/-- The register's name in log records. -/
def name : Register → String
  | mode => "Mode"
  | txMode => "TxMode"
  | rxMode => "RxMode"
  | txControl => "TxControl"
  | txAuto => "TxAuto"
  | txSel => "TxSel"
  | rxSel => "RxSel"
  | rxThreshold => "RxThreshold"
  | demod => "Demod"
  | manualRcv => "ManualRcv"
  | typeB => "TypeB"
  | gsNOff => "GsNOff"
  | modWidth => "ModWidth"
  | txBitPhase => "TxBitPhase"
  | rfCfg => "RfCfg"
  | gsNOn => "GsNOn"
  | cwGsP => "CwGsP"
  | modGsP => "ModGsP"
  | command => "Command"
  | commIEn => "CommIEn"
  | divIEn => "DivIEn"
  | commIRq => "CommIRq"
  | divIRq => "DivIRq"
  | error => "Error"
  | waterLevel => "WaterLevel"
  | control => "Control"
  | bitFraming => "BitFraming"
  | coll => "Coll"

end Register

/-- A register with the value it is to hold. -/
abbrev Setting := Register × UInt8

end NfcHost
