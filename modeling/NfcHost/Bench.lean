import NfcHost.Channel.Memory
import NfcHost.Driver.BringUp

/-!
# A driver on the bench

A driver over a channel in memory that has been brought up with prepared replies, for trying out what follows the bring-up.
-/

namespace NfcHost.Bench

/-- The replies to the steps of a bring-up: the firmware, normal mode, and retries set to zero. -/
def bringUpReplies : List Bytes := [[0x03, 0x32, 0x01, 0x06, 0x07], [0x15], [0x33]]

/-- Queues the replies to a bring-up. -/
def seed (channel : MemoryChannel) : MemoryChannel :=
  bringUpReplies.foldl (fun c reply => c.queueExchange reply) channel

/-- Forgets what was written and read. -/
def forgetTraffic (channel : MemoryChannel) : MemoryChannel := { channel with sent := [], reads := [] }

variable {σ : Type} [Channel σ]

/-- Brings up a driver over a channel with prepared replies and forgets the traffic of the bring-up. The state left is the
channel's. -/
def readyDriver (settings : Settings) : Act MemoryChannel (Driver .ready MemoryChannel) := fun channel =>
  let o := (Driver.over (seed channel) settings).bringUp
  match o.result with
  | .ok d =>
    let channel := forgetTraffic o.state
    ⟨.ok { d with link := { d.link with channel } }, channel, o.log⟩
  | .error _ => o

end NfcHost.Bench
