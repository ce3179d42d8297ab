/-!
# Commands and configuration items

The commands the host sends, each with its code, and the items of the RF configuration, each with its code. A reply repeats
the command's code plus one.
-/

namespace NfcHost

/-- A command of the controller. -/
inductive Command where
  | diagnose | getFirmwareVersion | getGeneralStatus | readRegister | writeRegister | samConfiguration | powerDown
  | rfConfiguration | inDataExchange | inCommunicateThru | inDeselect | inJumpForPsl | inListPassiveTarget | inRelease
  | inSelect | inJumpForDep | inAutoPoll | tgGetData | tgGetInitiatorCommand | tgGetTargetStatus | tgInitAsTarget
  | tgSetData | tgResponseToInitiator | tgSetGeneralBytes | tgSetMetadata
  deriving DecidableEq

namespace Command

/-- Every command. -/
def all : List Command :=
  [diagnose, getFirmwareVersion, getGeneralStatus, readRegister, writeRegister, samConfiguration, powerDown,
    rfConfiguration, inDataExchange, inCommunicateThru, inDeselect, inJumpForPsl, inListPassiveTarget, inRelease, inSelect,
    inJumpForDep, inAutoPoll, tgGetData, tgGetInitiatorCommand, tgGetTargetStatus, tgInitAsTarget, tgSetData,
    tgResponseToInitiator, tgSetGeneralBytes, tgSetMetadata]

/-- The byte that names the command in a frame. -/
def code : Command → UInt8
  | diagnose => 0x00
  | getFirmwareVersion => 0x02
  | getGeneralStatus => 0x04
  | readRegister => 0x06
  | writeRegister => 0x08
  | samConfiguration => 0x14
  | powerDown => 0x16
  | rfConfiguration => 0x32
  | inDataExchange => 0x40
  | inCommunicateThru => 0x42
  | inDeselect => 0x44
  | inJumpForPsl => 0x46
  | inListPassiveTarget => 0x4A
  | inRelease => 0x52
  | inSelect => 0x54
  | inJumpForDep => 0x56
  | inAutoPoll => 0x60
  | tgGetData => 0x86
  | tgGetInitiatorCommand => 0x88
  | tgGetTargetStatus => 0x8A
  | tgInitAsTarget => 0x8C
  | tgSetData => 0x8E
  | tgResponseToInitiator => 0x90
  | tgSetGeneralBytes => 0x92
  | tgSetMetadata => 0x94

/-- The byte that a reply to the command begins with. -/
def responseCode (c : Command) : UInt8 := c.code + 1

/-- The command's name in log records. -/
def name : Command → String
  | diagnose => "Diagnose"
  | getFirmwareVersion => "GetFirmwareVersion"
  | getGeneralStatus => "GetGeneralStatus"
  | readRegister => "ReadRegister"
  | writeRegister => "WriteRegister"
  | samConfiguration => "SamConfiguration"
  | powerDown => "PowerDown"
  | rfConfiguration => "RfConfiguration"
  | inDataExchange => "InDataExchange"
  | inCommunicateThru => "InCommunicateThru"
  | inDeselect => "InDeselect"
  | inJumpForPsl => "InJumpForPsl"
  | inListPassiveTarget => "InListPassiveTarget"
  | inRelease => "InRelease"
  | inSelect => "InSelect"
  | inJumpForDep => "InJumpForDep"
  | inAutoPoll => "InAutoPoll"
  | tgGetData => "TgGetData"
  | tgGetInitiatorCommand => "TgGetInitiatorCommand"
  | tgGetTargetStatus => "TgGetTargetStatus"
  | tgInitAsTarget => "TgInitAsTarget"
  | tgSetData => "TgSetData"
  | tgResponseToInitiator => "TgResponseToInitiator"
  | tgSetGeneralBytes => "TgSetGeneralBytes"
  | tgSetMetadata => "TgSetMetadata"

end Command

/-- An item of the RF configuration. -/
inductive RfItem where
  /-- Field on or off, and automatic collision avoidance. -/
  | rfField
  /-- Timeouts of the radio side. -/
  | variousTimings
  /-- Retries of a data exchange. -/
  | maxRtyCom
  /-- Retries of the activation commands. -/
  | maxRetries
  deriving DecidableEq

namespace RfItem

/-- Every item. -/
def all : List RfItem := [rfField, variousTimings, maxRtyCom, maxRetries]

/-- The byte that names the item in the arguments. -/
def code : RfItem → UInt8
  | rfField => 0x01
  | variousTimings => 0x02
  | maxRtyCom => 0x04
  | maxRetries => 0x05

/-- The item's name in log records. -/
def name : RfItem → String
  | rfField => "RfField"
  | variousTimings => "VariousTimings"
  | maxRtyCom => "MaxRtyCom"
  | maxRetries => "MaxRetries"

end RfItem

end NfcHost
