import NfcHost.Reader

/-!
# A reader with canned replies

Offers no more than a reader has to: it finds nothing, its antenna does nothing, and its exchanges are answered from a list
prepared beforehand. It serves to try out code that talks to cards.
-/

namespace NfcHost

/-- The replies to come and the data that was sent for them. -/
structure CannedReader where
  /-- The replies to come, first one first; nothing comes when they are used up. -/
  replies : List (Except Fault (Option Bytes)) := []
  /-- The data of every exchange, oldest first. -/
  sent : List Bytes := []

namespace CannedReader

/-- Records the data and ends as the next reply says. -/
def exchange (data : Bytes) : Act CannedReader (Option Bytes) := fun r =>
  ⟨r.replies.head?.getD (.ok none), { replies := r.replies.drop 1, sent := r.sent ++ [data] }, []⟩

instance : Reader CannedReader where
  verifyFirmware := pure true
  pollA := pure .notFound
  pollB := pure (.failed (.unsupported "poll_b"))
  transceive := exchange
  antennaOff := pure ()
  antennaOn := pure ()

end CannedReader

end NfcHost
