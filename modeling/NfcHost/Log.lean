import NfcHost.Apdu
import NfcHost.Command
import NfcHost.Radio
import NfcHost.Register

/-!
# Log records

What the library has to say about a run: events with a level, each under the label of the link or the reader it is about.
A record is shown as the label, a space and the event's text.
-/

namespace NfcHost

/-- How severe a record is, the most severe first. -/
inductive Level where
  | error | warn | info | debug | trace
  deriving DecidableEq

/-- Where the link stands in the handshake of the current command. -/
inductive Stage where
  /-- No command is under way. -/
  | idle
  /-- The frame is written. -/
  | frameSent
  /-- The acknowledgement is awaited. -/
  | ackAwaited
  /-- The acknowledgement was looked at. -/
  | ackVerified
  /-- The reply is awaited. -/
  | responseAwaited
  /-- The reply is decoded. -/
  | responseParsed
  deriving DecidableEq

/-- The stage's name in log records. -/
def Stage.name : Stage → String
  | .idle => "Idle"
  | .frameSent => "FrameSent"
  | .ackAwaited => "AckAwaited"
  | .ackVerified => "AckVerified"
  | .responseAwaited => "ResponseAwaited"
  | .responseParsed => "ResponseParsed"

/-- Bytes out of place that a tolerant link records and a strict link refuses. -/
inductive Anomaly where
  /-- Something other than an acknowledgement. -/
  | notAck (got : Bytes)
  /-- Something other than a start code. -/
  | badStart (got : Bytes)
  deriving DecidableEq

/-- The text of an anomaly. -/
def Anomaly.text : Anomaly → String
  | .notAck got => "did not get ACK frame, got " ++ Hex.render got
  | .badStart got => "unexpected start of frame, got " ++ Hex.render got

/-- Something that happened. -/
inductive Event where
  -- The link.
  | sending (frame : Bytes)
  | stageChange (before after : Stage)
  | noAck
  | anomaly (what : Anomaly)
  | noReply
  | lengthChecksumFailed
  | unexpectedMarker (marker : UInt8)
  | dataChecksumFailed
  | unexpectedPostamble (got : Bytes)
  | received (head body : Bytes)
  -- Commands and bring-up.
  | bringUp
  | firmwareQuery
  | firmwareUnexpected (reply : Bytes)
  | firmwareUnverified
  | commanding (command : Command) (args : Bytes)
  -- Registers and the RF configuration.
  | readFromCache
  | registerRead (register : Register) (value : UInt8)
  | writeLeftOut
  | registerWrite (register : Register) (value : UInt8)
  | itemUnchanged (item : RfItem)
  | antennaOff
  | antennaOn
  -- Exchanges with cards.
  | rawEnded (status : UInt8)
  | rawReceived (data : Bytes)
  | pollingA
  | pollingB
  | pollUnanswered (modulation : Modulation)
  | unexpectedCode
  | foundTypeA (selRes : UInt8)
  | broadcasting (data : Bytes)
  | wakeUpUnanswered (status : UInt8)
  | exchanging
  | exchangeFailed (status : UInt8)
  | targetMode
  -- Transactions.
  | transactionStart (pairs : Nat)
  | unexpectedResponse (got : Option Bytes) (expected : Expectation)
  deriving DecidableEq

namespace Event

/-- How severe an event is. -/
def level : Event → Level
  | noAck | anomaly _ | lengthChecksumFailed | unexpectedMarker _ | dataChecksumFailed => .error
  | firmwareUnexpected _ | firmwareUnverified | unexpectedCode | wakeUpUnanswered _ | exchangeFailed _ => .error
  | unexpectedResponse .. => .error
  | unexpectedPostamble _ => .warn
  | stageChange .. | readFromCache | writeLeftOut | itemUnchanged _ => .trace
  | _ => .debug

/-- The text of an event. -/
def text : Event → String
  | sending frame => "sending " ++ Hex.render frame
  | stageChange before after => before.name ++ " -> " ++ after.name
  | noAck => "did not get response from PN532"
  | anomaly what => what.text
  | noReply => "no response frame"
  | lengthChecksumFailed => "frame failed length checksum"
  | unexpectedMarker marker => "unexpected TFI byte, got " ++ Hex.render [marker]
  | dataChecksumFailed => "frame failed data checksum"
  | unexpectedPostamble got => "unexpected postamble, got " ++ Hex.render got
  | received head body => "received " ++ Hex.render head ++ Hex.render body
  | bringUp => "initializing"
  | firmwareQuery => "checking firmware version"
  | firmwareUnexpected reply => "got unexpected response for GetFirmwareVersion: " ++ Hex.render reply
  | firmwareUnverified => "could not verify PN532 firmware"
  | commanding command args => command.name ++ " " ++ Hex.render args
  | readFromCache => "register read served from cache"
  | registerRead register value => "read " ++ register.name ++ " = " ++ Hex.binary value
  | writeLeftOut => "register write elided"
  | registerWrite register value => "write " ++ register.name ++ " = " ++ Hex.binary value
  | itemUnchanged item => item.name ++ " unchanged"
  | antennaOff => "muting"
  | antennaOn => "unmuting"
  | rawEnded status => "raw exchange ended with status " ++ Hex.literal status
  | rawReceived data => "raw exchange got " ++ Hex.render data
  | pollingA => "polling A"
  | pollingB => "polling B"
  | pollUnanswered modulation => "no response to poll " ++ modulation.letter
  | unexpectedCode => "got unexpected command code in response"
  | foundTypeA selRes => "got tag, SEL_RES is " ++ Hex.render [selRes]
  | broadcasting data => "sending broadcast " ++ Hex.render data
  | wakeUpUnanswered status => "no response for WUPB, status " ++ Hex.literal status
  | exchanging => "transceive"
  | exchangeFailed status => "got error " ++ Hex.literal status ++ " exchanging data"
  | targetMode => "initializing target mode"
  | transactionStart pairs => "starting transaction with " ++ toString pairs ++ " pairs"
  | unexpectedResponse got expected =>
    "unexpected APDU: received " ++ (got.map Hex.render).getD "None" ++ ", expected " ++ expected.text

end Event

/-- An event under the label of what it is about. -/
structure Record where
  /-- Whom the record is about. -/
  label : String
  /-- What happened. -/
  event : Event
  deriving DecidableEq

/-- The record as a line of a log. -/
def Record.text (r : Record) : String := r.label ++ " " ++ r.event.text

end NfcHost
