import NfcHost.CrcA
import NfcHost.Driver.RegisterAccess
import NfcHost.Poll
import NfcHost.Target.Listing

/-!
# Discovery

Looking for cards. The controller sets up its own radio when it lists targets, so both caches are forgotten first.
-/

namespace NfcHost.Driver

variable {σ : Type} [Channel σ]

/-- Takes the first byte off a reply; a wrong response code is only recorded. -/
def dropCode (command : Command) (reply : Bytes) : Act (Driver .ready σ) Bytes := do
  tellIf (reply.head? ≠ some command.responseCode) .unexpectedCode
  if reply.isEmpty then return [] else Bytes.suffix reply 1

/-- Asks for one target of a modulation. Answers the reply without its first byte, or nothing if none came. -/
def listOne (modulation : Modulation) (initiatorData : Bytes) : Act (Driver .ready σ) (Option Bytes) := do
  forget
  let args := [1, modulation.listingCode] ++ initiatorData
  match ← sendCommand .inListPassiveTarget args (← setting Settings.commandTimeout) with
  | none =>
    tell (.pollUnanswered modulation)
    return none
  | some reply => return some (← dropCode .inListPassiveTarget reply)

/-! ## Type A -/

/-- The poll for Type A, with a failure as a fault. -/
def tryPollA : Act (Driver .ready σ) (Option TypeATarget) := do
  match ← listOne .typeA [] with
  | none => return none
  | some payload =>
    match ← TypeATarget.ofPoll payload with
    | none => return none
    | some target =>
      tell (.foundTypeA target.selRes)
      return some target

/-- Looks for one Type A card. -/
def pollA : Act (Driver .ready σ) (Poll TypeATarget) := do
  tell .pollingA
  return Poll.ofExcept (← tryPollA.attempt)

/-! ## Type B -/

/-- The broadcast that deselects. -/
def deselectBroadcast : UInt8 := 0xC2

/-- The byte that a wake-up of Type B cards begins with. -/
def wakeUpB : UInt8 := 0x05

/-- The parameter of a wake-up of Type B cards. -/
def wakeUpBParameter : UInt8 := 0x08

/-- Sends every bit of the last byte. -/
def setWholeBytes : Act (Driver .ready σ) Unit := writeRegisters [(.bitFraming, 0)] false

/-- Sends data with its check behind it to every card in the field, all bits of the last byte. Answers the reply, which
starts with a status. -/
def broadcast (data : Bytes) : Act (Driver .ready σ) Bytes := do
  tell (.broadcasting data)
  setWholeBytes
  execute .inCommunicateThru (CrcA.append data) (← setting Settings.commandTimeout)

/-- Deselects the listed card and wakes it again, so that it answers with a fresh answer to the request. Silence to the
wake-up is a fault. -/
def refreshB (listed : TypeBTarget) : Act (Driver .ready σ) TypeBTarget := do
  let _ ← broadcast [deselectBroadcast]
  setWholeBytes
  let request := CrcA.append [wakeUpB, listed.afi.getD 0, wakeUpBParameter]
  let reply ← execute .inCommunicateThru request (← setting Settings.commandTimeout)
  let (status, sensbRes) ← Bytes.splitStatus reply
  if status ≠ 0 then
    tell (.wakeUpUnanswered status)
    Act.fail (.noResponse Command.inCommunicateThru.code)
  else return { listed with sensbRes }

/-- The poll for Type B, with a failure as a fault. -/
def tryPollB : Act (Driver .ready σ) (Option TypeBTarget) := do
  match ← listOne .typeB [0x00] with
  | none => return none
  | some payload =>
    if (← Bytes.byte payload 0) = 0 then return none
    else
      let (listed, _) ← TypeBTarget.ofBlock (← Bytes.suffix payload 1)
      return some (← refreshB listed)

/-- Looks for one Type B card. -/
def pollB : Act (Driver .ready σ) (Poll TypeBTarget) := do
  tell .pollingB
  return Poll.ofExcept (← tryPollB.attempt)

/-! ## Listings -/

/-- Asks for a listing of a modulation that can be listed. -/
def requestListing (modulation : Modulation) (maxTargets : UInt8) : Act (Driver .ready σ) (List Target) := do
  forget
  let args := [maxTargets, modulation.listingCode]
  match ← sendCommand .inListPassiveTarget args (← setting Settings.commandTimeout) with
  | none => return []
  | some reply =>
    Bytes.expectCode reply Command.inListPassiveTarget.responseCode
    Target.ofListing modulation (← Bytes.suffix reply 1)

/-- Lists up to a number of targets; silence lists none. Type F would need a payload that this call does not take, so it is
refused before anything is sent. -/
def listTargets (modulation : Modulation) (maxTargets : UInt8) : Act (Driver .ready σ) (List Target) :=
  if modulation = .typeF then Act.fail Target.listingUnsupported else requestListing modulation maxTargets

end NfcHost.Driver
