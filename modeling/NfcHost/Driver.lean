import NfcHost.Cache
import NfcHost.Firmware
import NfcHost.Link

/-!
# The driver

A driver owns the link to one controller, its settings and the two caches of what the chip holds. Its type says whether the
controller was brought up; most operations need that. This module holds what works in both phases: sending commands, asking
for the firmware, and forgetting the caches.
-/

namespace NfcHost

/-- Whether a controller was brought up. -/
inductive Phase where
  /-- Not yet. -/
  | asleep
  /-- It answered every step of the bring-up. -/
  | ready
  deriving DecidableEq

/-- The driver of one controller over a channel. -/
structure Driver (phase : Phase) (σ : Type) where
  /-- The link to the controller. -/
  link : Link σ
  /-- The settings. -/
  settings : Settings
  /-- The register values known to be in the chip. -/
  registers : RegisterCache := .empty
  /-- The RF configuration known to be in the chip. -/
  rfItems : RfCache := .empty

namespace Driver

variable {phase : Phase} {σ α : Type} [Channel σ]

/-- A driver of a controller that was not brought up. -/
def «over» (channel : σ) (settings : Settings := {}) : Driver .asleep σ where
  link := .over channel settings.strictness
  settings

/-- The label of the driver's log records. -/
def label (d : Driver phase σ) : String := d.link.label

/-- Runs an action on the link. -/
def onLink (a : Act (Link σ) α) : Act (Driver phase σ) α := a.onPart Driver.link fun d link => { d with link }

/-- Tells of an event under the driver's label. -/
def tell (event : Event) : Act (Driver phase σ) Unit := Act.tell label event

/-- Tells of an event if there is cause to. -/
def tellIf (cause : Bool) (event : Event) : Act (Driver phase σ) Unit := Act.tellIf cause label event

/-- Ends in something read off the settings. -/
def setting (f : Settings → α) : Act (Driver phase σ) α := Act.look fun d => f d.settings

/-- Drops what is under way in both directions. -/
def resetBuffers : Act (Driver phase σ) Unit := onLink Link.resetBuffers

/-- Forgets both caches. Needed whenever the controller changes registers or RF configuration by itself. -/
def forget : Act (Driver phase σ) Unit := Act.change fun d => { d with registers := .empty, rfItems := .empty }

/-! ## Commands -/

/-- Takes the response code off a reply. -/
def stripCode (command : Command) (reply : Bytes) : Except Fault Bytes := do
  Bytes.expectCode reply command.responseCode
  Bytes.suffix reply 1

/-- The reply must be there; silence is a fault. -/
def answered (command : Command) (reply : Option Bytes) : Except Fault Bytes :=
  match reply with
  | some reply => .ok reply
  | none => .error (.noResponse command.code)

/-- Sends a command. Answers the reply with its response code, or nothing if none came. -/
def sendCommand (command : Command) (args : Bytes) (timeout : Duration) : Act (Driver phase σ) (Option Bytes) := do
  tell (.commanding command args)
  let frame ← (Frame.command command.code args).encode
  onLink (Link.exchange frame timeout)

/-- Sends a command behind a run of zeros that also wakes a sleeping controller. Answers the reply with its response code. -/
def sendWaking (command : Command) (args : Bytes) (timeout : Duration) : Act (Driver phase σ) Bytes := do
  let frame ← (Frame.command command.code args).encode
  answered command (← onLink (Link.exchange (Link.withWakeUp frame) timeout))

/-- Sends a command and answers its reply without the response code. -/
def execute (command : Command) (args : Bytes) (timeout : Duration) : Act (Driver phase σ) Bytes := do
  let reply ← answered command (← sendCommand command args timeout)
  stripCode command reply

/-- Sends a waking command and answers its reply without the response code. -/
def executeWaking (command : Command) (args : Bytes) (timeout : Duration) : Act (Driver phase σ) Bytes := do
  let reply ← sendWaking command args timeout
  stripCode command reply

/-! ## The firmware query -/

/-- Asks for the firmware and answers the whole reply, whatever its shape; a wrong shape is recorded. -/
def queryFirmware : Act (Driver phase σ) Bytes := do
  tell .firmwareQuery
  let reply ← sendWaking .getFirmwareVersion [] (← setting Settings.commandTimeout)
  tellIf (reply.head? ≠ some Command.getFirmwareVersion.responseCode ∨ reply.length ≠ Firmware.replyLength)
    (.firmwareUnexpected reply)
  return reply

/-- The controller says that it is the one this library drives. A reply of the wrong shape says no; silence is a fault. -/
def verifyFirmware : Act (Driver phase σ) Bool := do
  let reply ← queryFirmware
  Firmware.replyMatches reply

/-- What the controller says about itself. -/
def firmware : Act (Driver phase σ) Firmware := do
  let payload ← executeWaking .getFirmwareVersion [] (← setting Settings.commandTimeout)
  Firmware.parse payload

end Driver

end NfcHost
