import NfcHost.Driver.Discovery

/-!
# Data exchange and target mode

Exchanging data with an activated card, and letting the controller itself be a card.
-/

namespace NfcHost.Driver

variable {σ : Type} [Channel σ]

/-- Exchanges data with an activated card. Silence and an error status both answer nothing. -/
def exchangeData (args : Bytes) (timeout : Duration) : Act (Driver .ready σ) (Option Bytes) := do
  match ← sendCommand .inDataExchange args timeout with
  | none => return none
  | some reply =>
    let payload ← dropCode .inDataExchange reply
    let (status, body) ← Bytes.splitStatus payload
    if status ≠ 0 then
      tell (.exchangeFailed status)
      return none
    else return some body

/-- Exchanges data that starts with the target's number, under the exchange timeout. -/
def transceive (data : Bytes) : Act (Driver .ready σ) (Option Bytes) := do
  tell .exchanging
  exchangeData data (← setting Settings.exchangeTimeout)

/-- Exchanges data with the target of a number. -/
def exchangeWith (number : UInt8) (data : Bytes) (timeout : Duration) : Act (Driver .ready σ) (Option Bytes) :=
  exchangeData (number :: data) timeout

/-- What the controller is told when it becomes a card: Type A only, an identifier of three bytes, the ISO-DEP protocol, and
no parameters of the other kinds, which would fill the remaining thirty bytes. -/
def targetModeParameters : Bytes := [0x05, 0x04, 0x00, 0x12, 0x34, 0x56, 0x20] ++ List.replicate 30 0x00

/-- Lets the controller be a Type A card. Answers the activation, or nothing if no reader came. -/
def becomeTarget : Act (Driver .ready σ) (Option Bytes) := do
  tell .targetMode
  forget
  match ← sendCommand .tgInitAsTarget targetModeParameters (← setting Settings.commandTimeout) with
  | none => return none
  | some reply =>
    Bytes.expectCode reply Command.tgInitAsTarget.responseCode
    return some (← Bytes.suffix reply 1)

end NfcHost.Driver
