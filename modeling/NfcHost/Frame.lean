import NfcHost.Bytes.Access
import NfcHost.Checksum

/-!
# Frames

A frame on the wire is a start code, a length byte with its checksum, a marker that tells the direction, a body, a checksum
over marker and body, and a postamble. The length byte counts the marker and the body, so a body has at most 254 bytes.
`Frame.encode` writes a frame and `Frame.decode` reads a complete one, checking every field.
-/

namespace NfcHost

/-- What a frame carries: the marker of its direction and a command or response code followed by data. -/
structure Frame where
  /-- Who speaks. -/
  marker : UInt8
  /-- A command or response code followed by its data. -/
  body : Bytes
  deriving DecidableEq

namespace Frame

/-- The preamble and start code that open every frame. -/
def startCode : Bytes := [0x00, 0x00, 0xFF]

/-- The byte that ends every frame. -/
def postamble : UInt8 := 0x00

/-- The marker of a frame from the host. -/
def hostMarker : UInt8 := 0xD4

/-- The marker of a frame from the controller. -/
def deviceMarker : UInt8 := 0xD5

/-- The frame that acknowledges a frame; it carries nothing. -/
def ack : Bytes := [0x00, 0x00, 0xFF, 0x00, 0xFF, 0x00]

/-- The bytes up to and including the marker. -/
def headLength : Nat := 6

/-- The longest body. -/
def maxBody : Nat := 254

/-- The host's frame for a command code and its arguments. -/
def command (code : UInt8) (args : Bytes) : Frame := ⟨hostMarker, code :: args⟩

/-- The controller's frame for a reply. -/
def reply (body : Bytes) : Frame := ⟨deviceMarker, body⟩

/-- The frame as it goes over the wire. A body that is too long is refused. -/
def encode (frame : Frame) : Except Fault Bytes :=
  if frame.body.length > maxBody then .error (.invalidLength maxBody frame.body.length)
  else
    let len := UInt8.ofNat (frame.body.length + 1)
    .ok (startCode ++ [len, Checksum.ofLength len, frame.marker] ++ frame.body ++
      [Checksum.ofData frame.marker frame.body, postamble])

/-- The first six bytes of a frame. -/
structure Head where
  /-- Preamble and start code, three bytes. -/
  start : Bytes
  /-- The length byte. -/
  len : UInt8
  /-- The checksum of the length byte. -/
  check : UInt8
  /-- The marker. -/
  marker : UInt8
  deriving DecidableEq

namespace Head

/-- Reads a head from exactly six bytes. -/
def parse : Bytes → Except Fault Head
  | [a, b, c, len, check, marker] => .ok ⟨[a, b, c], len, check, marker⟩
  | bytes => .error (.invalidLength headLength bytes.length)

/-- The head opens with the start code. -/
def startOk (head : Head) : Bool := head.start == startCode

/-- The checksum closes the length byte. -/
def lengthOk (head : Head) : Bool := Checksum.closesLength head.len head.check

/-- How many body bytes follow the head: the length byte without the marker. -/
def bodyLength (head : Head) : Except Fault Nat :=
  if head.len = 0 then .error (.invalidLength 1 0) else .ok (head.len.toNat - 1)

/-- The head in the order of the wire. -/
def bytes (head : Head) : Bytes := head.start ++ [head.len, head.check, head.marker]

end Head

/-- Reads a complete frame: the head first, then the length, the data checksum and the postamble. -/
def decode (bytes : Bytes) : Except Fault Frame :=
  if bytes.length < headLength then .error (.invalidLength headLength bytes.length)
  else do
    let head ← Head.parse (bytes.take headLength)
    if !head.startOk then .error (.frameFormat "invalid preamble")
    else if !head.lengthOk then .error (.checksumMismatch (Checksum.ofLength head.len) head.check)
    else
      let n ← head.bodyLength
      if bytes.length ≠ headLength + n + 2 then .error (.invalidLength (headLength + n + 2) bytes.length)
      else
        let body ← Bytes.span bytes headLength (headLength + n)
        let check ← Bytes.fetch bytes (headLength + n)
        let last ← Bytes.fetch bytes (headLength + n + 1)
        if !Checksum.closesData head.marker body check then
          .error (.checksumMismatch (Checksum.ofData head.marker body) check)
        else if last ≠ postamble then .error (.frameFormat "invalid postamble")
        else .ok ⟨head.marker, body⟩

end Frame

end NfcHost
