import NfcHost.Fault

/-!
# Access to bytes

Replies are read through guarded accessors: a position outside the data is a length fault. A guard compares against a sum
of positions, and such sums are taken in 64-bit arithmetic. Below a guard stand the unguarded accessors, where a position
outside the data is the fault `outOfRange`: a statement that an operation never answers it says that its guards suffice.
-/

namespace NfcHost.Bytes

/-! ## Unguarded access -/

/-- The byte at position `i`. -/
def fetch (data : Bytes) (i : Nat) : Except Fault UInt8 :=
  match data[i]? with
  | some b => .ok b
  | none => .error .outOfRange

/-- The bytes from position `start` up to `stop`, which lie in this order inside the data. -/
def span (data : Bytes) (start stop : Nat) : Except Fault Bytes :=
  if start ≤ stop ∧ stop ≤ data.length then .ok ((data.take stop).drop start) else .error .outOfRange

/-- The bytes from position `start` on. -/
def suffix (data : Bytes) (start : Nat) : Except Fault Bytes :=
  if start ≤ data.length then .ok (data.drop start) else .error .outOfRange

/-! ## Guarded access -/

/-- The sum of two positions or lengths, in 64-bit arithmetic. -/
def sum64 (a b : Nat) : Nat := (a + b) % 0x10000000000000000

/-- Asks for at least `min` bytes. -/
def require (data : Bytes) (min : Nat) : Except Fault Unit :=
  if data.length < min then .error (.invalidLength min data.length) else .ok ()

/-- The `len` bytes from position `idx` on. -/
def slice (data : Bytes) (idx len : Nat) : Except Fault Bytes := do
  require data (sum64 idx len)
  span data idx (sum64 idx len)

/-- The byte at position `idx`. -/
def byte (data : Bytes) (idx : Nat) : Except Fault UInt8 := do
  require data (sum64 idx 1)
  fetch data idx

/-- The length byte at position `idx` says how many bytes follow it: those bytes, and the position after them. -/
def lengthPrefixed (data : Bytes) (idx : Nat) : Except Fault (Bytes × Nat) := do
  let len := (← byte data idx).toNat
  let bytes ← slice data (sum64 idx 1) len
  return (bytes, sum64 (sum64 idx 1) len)

/-- The first byte must be the response code `expected`. -/
def expectCode (data : Bytes) (expected : UInt8) : Except Fault Unit := do
  let actual ← byte data 0
  if actual ≠ expected then .error (.unexpectedResponse expected actual) else .ok ()

/-- Splits off the status byte that leads the reply to an exchange. -/
def splitStatus (data : Bytes) : Except Fault (UInt8 × Bytes) := do
  require data 1
  return (← fetch data 0, ← suffix data 1)

end NfcHost.Bytes
