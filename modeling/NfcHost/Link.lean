import NfcHost.Channel
import NfcHost.Frame
import NfcHost.Settings

/-!
# The link

One exchange with the controller: the host's frame goes out, an acknowledgement and a reply frame come back, and the host
acknowledges the reply. The link walks through the stages of that handshake and is idle again at the end, however the
exchange went. Nothing is retried.

A checksum or postamble that is wrong is recorded or raised only after the host's acknowledgement has gone out, so that the
controller is never left waiting for it.
-/

namespace NfcHost

/-- A link over one channel. -/
structure Link (σ : Type) where
  /-- The channel to the controller. -/
  channel : σ
  /-- How anomalies are taken. -/
  strictness : Strictness
  /-- The label of the link's log records. -/
  label : String
  /-- Where the handshake stands. -/
  stage : Stage

namespace Link

variable {σ α : Type} [Channel σ]

/-- A link that is idle, labelled by the channel's name. -/
def «over» (channel : σ) (strictness : Strictness) : Link σ where
  channel
  strictness
  label := "[PN532|" ++ Channel.name channel ++ "]"
  stage := .idle

/-- Runs an action on the channel. -/
def onChannel (a : Act σ α) : Act (Link σ) α := a.onPart Link.channel fun l channel => { l with channel }

/-- Tells of an event under the link's label. -/
def tell (event : Event) : Act (Link σ) Unit := Act.tell Link.label event

/-- The link is strict. -/
def isStrict (l : Link σ) : Bool := l.strictness == .strict

/-- Enters a stage of the handshake. -/
def enter (next : Stage) : Act (Link σ) Unit := do
  let before ← Act.look Link.stage
  tell (.stageChange before next)
  Act.change fun l => { l with stage := next }

/-- Looks for an anomaly: unless all is well, a strict link ends with a fault and a tolerant one records it. -/
def expect (well : Bool) (otherwise : Anomaly) : Act (Link σ) Unit := do
  if well then return ()
  else if ← Act.look isStrict then Act.fail (.frameFormat otherwise.text)
  else tell (.anomaly otherwise)

/-- Reads exactly `len` bytes; fewer mean that the length byte promised more than came. -/
def readExactly (len : Nat) (timeout : Duration) : Act (Link σ) Bytes := do
  let bytes ← onChannel (Channel.receive len timeout)
  if bytes.length ≠ len then Act.fail (.invalidLength len bytes.length) else return bytes

/-- Writes the frame and waits for the acknowledgement. Answers whether anything came. -/
def sendAndAwaitAck (frame : Bytes) (timeout : Duration) : Act (Link σ) Bool := do
  tell (.sending frame)
  onChannel (Channel.send frame)
  enter .frameSent
  enter .ackAwaited
  let ack ← onChannel (Channel.receive Frame.ack.length timeout)
  if ack.isEmpty then
    tell .noAck
    return false
  else
    expect (ack == Frame.ack) (.notAck ack)
    enter .ackVerified
    return true

/-- Looks at the checksum and the marker of a head. Answers whether it can be trusted; a strict link ends with a fault if it
cannot. -/
def trustHead (head : Frame.Head) : Act (Link σ) Bool := do
  let strict ← Act.look isStrict
  if !head.lengthOk then
    if strict then Act.fail (.checksumMismatch (Checksum.ofLength head.len) head.check)
    else
      tell .lengthChecksumFailed
      return false
  else if head.marker ≠ Frame.deviceMarker then
    if strict then Act.fail (.frameFormat ("unexpected TFI " ++ Hex.literal head.marker))
    else
      tell (.unexpectedMarker head.marker)
      return false
  else return true

/-- Waits for the head of the reply. Answers a head that can be trusted, or nothing when the controller stayed silent or a
tolerant link cannot trust the head. -/
def awaitHead (timeout : Duration) : Act (Link σ) (Option Frame.Head) := do
  enter .responseAwaited
  let bytes ← onChannel (Channel.receive Frame.headLength timeout)
  if bytes.isEmpty then
    tell .noReply
    return none
  else
    let head ← Frame.Head.parse bytes
    expect head.startOk (.badStart head.start)
    if ← trustHead head then return some head else return none

/-- Judges the data checksum. A strict link answers the fault, to be raised later; a tolerant one records it. -/
def judgeChecksum (head : Frame.Head) (body : Bytes) (check : UInt8) : Act (Link σ) (Option Fault) := do
  if Checksum.closesData head.marker body check then return none
  else if ← Act.look isStrict then
    return some (.checksumMismatch (Checksum.ofData head.marker body) check)
  else
    tell .dataChecksumFailed
    return none

/-- Judges the postamble, with the fault that is already to be raised. -/
def judgePostamble (got : Bytes) (pending : Option Fault) : Act (Link σ) (Option Fault) := do
  if got.head? = some Frame.postamble then return pending
  else if ← Act.look isStrict then
    return some (pending.getD (.frameFormat ("unexpected postamble " ++ Hex.render got)))
  else
    tell (.unexpectedPostamble got)
    return pending

/-- Reads what follows a trusted head and acknowledges the reply. Answers the body, unless a fault was put off till now. -/
def finish (head : Frame.Head) (timeout : Duration) : Act (Link σ) Bytes := do
  let body ← readExactly (← head.bodyLength) timeout
  let check ← Bytes.fetch (← readExactly 1 timeout) 0
  let pending ← judgeChecksum head body check
  let got ← onChannel (Channel.receive 1 timeout)
  let pending ← judgePostamble got pending
  onChannel (Channel.send Frame.ack)
  enter .responseParsed
  tell (.received head.bytes body)
  match pending with
  | some fault => Act.fail fault
  | none => return body

/-- The handshake from the first write to the last, without the return to the idle stage. -/
def handshake (frame : Bytes) (timeout : Duration) : Act (Link σ) (Option Bytes) := do
  if ← sendAndAwaitAck frame timeout then
    match ← awaitHead timeout with
    | some head => return some (← finish head timeout)
    | none => return none
  else return none

/-- Writes `frame` and runs the handshake. Answers the reply's body without the marker, or nothing when the controller
stayed silent or, on a tolerant link, sent a head that cannot be trusted. -/
def exchange (frame : Bytes) (timeout : Duration) : Act (Link σ) (Option Bytes) := do
  let ended ← (handshake frame timeout).attempt
  enter .idle
  Act.ofExcept ended

/-- How many zero bytes wake the controller from power-down. -/
def wakeUpZeros : Nat := 20

/-- A long run of zeros in front of a frame also wakes a sleeping controller. -/
def withWakeUp (frame : Bytes) : Bytes := List.replicate wakeUpZeros 0 ++ frame

/-- Wakes the controller from power-down, and drops whatever that brought in. -/
def wakeUp : Act (Link σ) Unit := do
  onChannel Channel.flush
  onChannel (Channel.send (withWakeUp Frame.ack))
  onChannel Channel.resetInput

/-- Drops what is under way in both directions. -/
def resetBuffers : Act (Link σ) Unit := onChannel Channel.resetBuffers

end Link

end NfcHost
