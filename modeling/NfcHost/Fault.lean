import NfcHost.Hex

/-!
# Faults

Everything that can go wrong between the host and the controller, by cause, with the text each cause is shown as.
-/

namespace NfcHost

/-- Why an operation failed. -/
inductive Fault where
  /-- There is no channel to a controller. -/
  | deviceNotFound
  /-- The channel itself failed. -/
  | channel (reason : String)
  /-- The controller stayed silent where a reply to `command` was required. -/
  | noResponse (command : UInt8)
  /-- A frame or a reply is shorter or longer than its layout requires. -/
  | invalidLength (expected actual : Nat)
  /-- A length or data checksum does not close. -/
  | checksumMismatch (expected actual : UInt8)
  /-- A start code, marker, postamble or acknowledgement is out of place. -/
  | frameFormat (detail : String)
  /-- The reply does not begin with the command code plus one. -/
  | unexpectedResponse (expected actual : UInt8)
  /-- The reply to the firmware query does not name the expected controller. -/
  | firmwareMismatch (response : String)
  /-- The reader or the modulation does not offer the operation. -/
  | unsupported (operation : String)
  /-- An unguarded access fell outside the data. -/
  | outOfRange
  deriving DecidableEq

namespace Fault

/-- The text of a fault. -/
def message : Fault → String
  | deviceNotFound => "device not found"
  | channel reason => "io error: " ++ reason
  | noResponse command => "no response for command " ++ Hex.literal command
  | invalidLength expected actual =>
    "invalid packet length: expected " ++ toString expected ++ ", got " ++ toString actual
  | checksumMismatch expected actual =>
    "checksum mismatch: expected " ++ Hex.literal expected ++ ", got " ++ Hex.literal actual
  | frameFormat detail => "frame format error: " ++ detail
  | unexpectedResponse expected actual =>
    "unexpected response code: expected " ++ Hex.literal expected ++ ", got " ++ Hex.literal actual
  | firmwareMismatch response => "firmware mismatch: GetFirmwareVersion returned " ++ response
  | unsupported operation => "unsupported operation: " ++ operation
  | outOfRange => "access out of range"

/-- The reply broke the rules of the link or of the command: a wrong echo, checksum, marker or framing. -/
def isProtocolViolation : Fault → Bool
  | unexpectedResponse .. | checksumMismatch .. | frameFormat _ => true
  | _ => false

/-- The controller did not answer. -/
def isNoResponse : Fault → Bool
  | noResponse _ => true
  | _ => false

end Fault

end NfcHost
