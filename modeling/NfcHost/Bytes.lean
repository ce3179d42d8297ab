/-!
# Byte strings

What travels over a channel and stands in frames and replies.
-/

namespace NfcHost

/-- A string of bytes. -/
abbrev Bytes := List UInt8

end NfcHost
