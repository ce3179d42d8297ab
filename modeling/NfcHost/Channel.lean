import NfcHost.Act
import NfcHost.Duration

/-!
# Channels

A channel carries bytes between the host and the controller: a serial line, a simulated stream. The library asks no more of
it than the operations of `Channel`; anything that has them can drive the controller.
-/

namespace NfcHost

/-- A state that bytes can be written to and read from. -/
class Channel (σ : Type) where
  /-- What the channel is called in log labels. -/
  name : σ → String
  /-- Writes bytes to the controller. -/
  send : Bytes → Act σ Unit
  /-- Reads up to a number of bytes; fewer, possibly none, when the time is over, which is no fault. -/
  receive : Nat → Duration → Act σ Bytes
  /-- Waits until what was written has left the host. -/
  flush : Act σ Unit := pure ()
  /-- Drops bytes that came in and were not read. -/
  resetInput : Act σ Unit
  /-- Drops bytes that were written and have not left. -/
  resetOutput : Act σ Unit := pure ()
  /-- Drops what is under way in both directions. -/
  resetBuffers : Act σ Unit := do
    resetInput
    resetOutput

end NfcHost
