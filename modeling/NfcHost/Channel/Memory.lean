import NfcHost.Channel
import NfcHost.Frame

/-!
# A channel in memory

The controller's bytes are queued beforehand and served as one stream, the way a serial line would; every write, every read
and every reset is recorded.
-/

namespace NfcHost

/-- A channel whose other end is a queue of bytes. -/
structure MemoryChannel where
  /-- Every write, oldest first. -/
  sent : List Bytes := []
  /-- The controller's bytes that were not read yet. -/
  incoming : Bytes := []
  /-- The length and the timeout of every read, oldest first. -/
  reads : List (Nat × Duration) := []
  /-- How often the input was reset. -/
  inputResets : Nat := 0
  /-- How often the channel was flushed. -/
  flushes : Nat := 0
  deriving DecidableEq

namespace MemoryChannel

/-- Queues bytes of the controller. -/
def queue (bytes : Bytes) (c : MemoryChannel) : MemoryChannel := { c with incoming := c.incoming ++ bytes }

/-- Queues an acknowledgement. -/
def queueAck (c : MemoryChannel) : MemoryChannel := c.queue Frame.ack

/-- Queues a reply frame. A body too long for a frame queues nothing. -/
def queueReply (body : Bytes) (c : MemoryChannel) : MemoryChannel :=
  match (Frame.reply body).encode with
  | .ok bytes => c.queue bytes
  | .error _ => c

/-- Queues the usual answer to a command: an acknowledgement and a reply frame. -/
def queueExchange (body : Bytes) (c : MemoryChannel) : MemoryChannel := c.queueAck.queueReply body

/-- Takes the latest write off the record. -/
def takeSent (c : MemoryChannel) : Option Bytes × MemoryChannel := (c.sent.getLast?, { c with sent := c.sent.dropLast })

/-- The bytes from the first start code on, if there is one. -/
def fromStartCode : Bytes → Option Bytes
  | [] => none
  | b :: rest => if Frame.startCode.isPrefixOf (b :: rest) then some (b :: rest) else fromStartCode rest

/-- The frame in a write, behind whatever precedes its start code. Acknowledgements and wake-up bytes hold none. -/
def frameIn (write : Bytes) : Option Frame := do
  let bytes ← fromStartCode write
  match Frame.decode bytes with
  | .ok frame => some frame
  | .error _ => none

/-- The frames written so far. -/
def sentFrames (c : MemoryChannel) : List Frame := c.sent.filterMap frameIn

/-- How many of the frames written so far carry the command code. -/
def commandCount (code : UInt8) (c : MemoryChannel) : Nat := c.sentFrames.countP fun f => f.body.head? == some code

/-- How many bytes of the controller are still queued. -/
def remaining (c : MemoryChannel) : Nat := c.incoming.length

/-- Queued bytes outlive a reset of the input, so that the replies to a whole run can be queued before it. -/
instance : Channel MemoryChannel where
  name _ := "mock"
  send bytes := Act.change fun c => { c with sent := c.sent ++ [bytes] }
  receive len timeout := fun c =>
    ⟨.ok (c.incoming.take len), { c with reads := c.reads ++ [(len, timeout)], incoming := c.incoming.drop len }, []⟩
  flush := Act.change fun c => { c with flushes := c.flushes + 1 }
  resetInput := Act.change fun c => { c with inputResets := c.inputResets + 1 }

/-! ## What the calls leave behind -/

@[simp] theorem run_send (bytes : Bytes) (c : MemoryChannel) :
    (Channel.send bytes).run c = ⟨.ok (), { c with sent := c.sent ++ [bytes] }, []⟩ := rfl

@[simp] theorem run_receive (len : Nat) (timeout : Duration) (c : MemoryChannel) :
    (Channel.receive len timeout).run c =
      ⟨.ok (c.incoming.take len), { c with reads := c.reads ++ [(len, timeout)], incoming := c.incoming.drop len }, []⟩ :=
  rfl

@[simp] theorem run_flush (c : MemoryChannel) :
    Channel.flush.run c = ⟨.ok (), { c with flushes := c.flushes + 1 }, []⟩ := rfl

@[simp] theorem run_resetInput (c : MemoryChannel) :
    Channel.resetInput.run c = ⟨.ok (), { c with inputResets := c.inputResets + 1 }, []⟩ := rfl

@[simp] theorem run_resetOutput (c : MemoryChannel) : Channel.resetOutput.run c = ⟨.ok (), c, []⟩ := rfl

end MemoryChannel

end NfcHost
