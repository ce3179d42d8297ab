import NfcHost.Driver.RfConfiguration

/-!
# Bring-up

The controller is woken, has to say that it is the one this library drives, and is put in normal mode; the retries of the
activation commands are set to zero where the settings ask for that. Every step must be answered.
-/

namespace NfcHost.Driver

variable {σ : Type} [Channel σ]

/-- The arguments that put the controller in normal mode. -/
def normalMode : Bytes := [0x01, 0x00]

/-- The retries of the activation commands, all zero. -/
def noRetries : Bytes := [0x00, 0x00, 0x00]

/-- The steps of the bring-up. -/
def bringUpSteps : Act (Driver .asleep σ) Unit := do
  tell .bringUp
  onLink Link.wakeUp
  let reply ← queryFirmware
  if ← Firmware.replyMatches reply then
    let setup ← setting Settings.setupTimeout
    let _ ← executeWaking .samConfiguration normalMode setup
    if ← setting Settings.disableRetries then
      onLink (Link.onChannel Channel.resetInput)
      applyItem .maxRetries noRetries false setup
  else
    tell .firmwareUnverified
    Act.fail (.firmwareMismatch (Hex.render reply))

/-- The same driver of a controller that was brought up. -/
def asReady (d : Driver .asleep σ) : Driver .ready σ where
  link := d.link
  settings := d.settings
  registers := d.registers
  rfItems := d.rfItems

/-- Brings the controller up. A driver whose controller could not be brought up is gone; its channel is left. -/
def bringUp (d : Driver .asleep σ) : Outcome σ (Driver .ready σ) :=
  let o := bringUpSteps.run d
  ⟨o.result.map fun _ => o.state.asReady, o.state.link.channel, o.log⟩

end NfcHost.Driver
