import NfcHost.Driver.Discovery
import NfcHost.Driver.Exchange
import NfcHost.Driver.Raw

/-!
# Readers

What every way of driving a reader has in common, so that code that talks to cards need not know which reader it runs on. A
reader has to discover, to exchange and to switch its antenna; everything closer to the controller is unsupported unless the
reader offers it. A driver of a controller that was brought up is a reader.
-/

namespace NfcHost

/-- A state that can discover cards and exchange data with them. -/
class Reader (ρ : Type) where
  /-- The label of log records about the reader. -/
  label : ρ → String := fun _ => "[NfcBackend]"
  /-- The timeout of exchanges with a card. -/
  exchangeTimeout : ρ → Duration := fun _ => defaultExchangeTimeout
  /-- The reader says that it is the expected controller. -/
  verifyFirmware : Act ρ Bool
  /-- Looks for one Type A card. -/
  pollA : Act ρ (Poll TypeATarget)
  /-- Looks for one Type B card. -/
  pollB : Act ρ (Poll TypeBTarget)
  /-- Sends data that starts with the target's number; answers nothing when nothing usable came back. -/
  transceive : Bytes → Act ρ (Option Bytes)
  /-- Exchanges data with the target of a number; by default the timeout does not count. -/
  exchangeWith : UInt8 → Bytes → Duration → Act ρ (Option Bytes) := fun number data _ => transceive (number :: data)
  /-- Switches the antenna off. -/
  antennaOff : Act ρ Unit
  /-- Switches the antenna on. -/
  antennaOn : Act ρ Unit
  /-- Sends data with its check behind it to every card in the field. -/
  broadcast : Bytes → Act ρ Bytes := fun _ => .fail (.unsupported "send_broadcast")
  /-- Exchanges data whose framing the host controls. -/
  exchangeRaw : Bytes → RawSettings → Act ρ (Option Bytes) := fun _ _ => .fail (.unsupported "transceive_raw")
  /-- Reads registers, in order. -/
  readRegisters : List Register → Bool → Act ρ Bytes := fun _ _ => .fail (.unsupported "read_registers")
  /-- Writes registers, in order. -/
  writeRegisters : List Setting → Bool → Act ρ Unit := fun _ _ => .fail (.unsupported "write_registers")
  /-- Writes one item of the RF configuration. -/
  configure : RfItem → Bytes → Bool → Act ρ Unit := fun _ _ _ => .fail (.unsupported "rf_configuration")
  /-- The frame that carries a body. -/
  frameFor : ρ → Bytes → Except Fault Bytes := fun _ _ => .error (.unsupported "construct_frame")
  /-- Drops what is under way between the host and the reader. -/
  resetBuffers : Act ρ Unit := pure ()

namespace Reader

variable {ρ : Type} [Reader ρ]

/-- Sends each command in turn and stops at the first that brings nothing back. -/
def transceiveAll : List Bytes → Act ρ (Option (List Bytes))
  | [] => return some []
  | apdu :: rest => do
    match ← transceive apdu with
    | none => return none
    | some response => return (← transceiveAll rest).map (response :: ·)

end Reader

instance {σ : Type} [Channel σ] : Reader (Driver .ready σ) where
  label := Driver.label
  exchangeTimeout d := d.settings.exchangeTimeout
  verifyFirmware := Driver.verifyFirmware
  pollA := Driver.pollA
  pollB := Driver.pollB
  transceive := Driver.transceive
  exchangeWith := Driver.exchangeWith
  antennaOff := Driver.antennaOff
  antennaOn := Driver.antennaOn
  broadcast := Driver.broadcast
  exchangeRaw := Driver.exchangeRaw
  readRegisters := Driver.readRegisters
  writeRegisters := Driver.writeRegisters
  configure := Driver.configure
  frameFor _ body := Frame.encode ⟨Frame.hostMarker, body⟩
  resetBuffers := Driver.resetBuffers

end NfcHost
