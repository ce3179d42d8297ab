import NfcHost.Bytes.Access
import NfcHost.Target

/-!
# Reading targets from replies

A reply to a poll or a listing starts with the number of targets; one block for each target follows. A listing reads all
blocks, a poll for Type A reads the first. The two readings of a Type A block differ in when an answer to select is
expected: in a listing only from a card that announces ISO-DEP, in a poll whenever there is another byte.
-/

namespace NfcHost

namespace TypeATarget

/-- Reads one block of a listing: the target and the number of bytes it takes. The length byte of the answer to select
counts itself. -/
def ofBlock (data : Bytes) : Except Fault (TypeATarget × Nat) := do
  let number ← Bytes.byte data 0
  let sens ← Bytes.slice data 1 2
  let selRes ← Bytes.byte data 3
  let (nfcid, idx) ← Bytes.lengthPrefixed data 4
  let sensRes := (← Bytes.fetch sens 0, ← Bytes.fetch sens 1)
  if announcesIsoDep selRes && idx < data.length then
    let len := (← Bytes.fetch data idx).toNat - 1
    let ats ← Bytes.slice data (Bytes.sum64 idx 1) len
    return (⟨number, sensRes, selRes, nfcid, ats⟩, idx + (1 + len))
  else
    return (⟨number, sensRes, selRes, nfcid, []⟩, idx)

/-- Reads the reply to a poll for one Type A target; a count of zero says that nothing answered. -/
def ofPoll (payload : Bytes) : Except Fault (Option TypeATarget) := do
  if (← Bytes.byte payload 0) = 0 then return none
  else
    let data ← Bytes.suffix payload 1
    let number ← Bytes.byte data 0
    let sens ← Bytes.slice data 1 2
    let selRes ← Bytes.byte data 3
    let (nfcid, idx) ← Bytes.lengthPrefixed data 4
    let ats ← match data[idx]? with
      | some len => Bytes.slice data (Bytes.sum64 idx 1) (len.toNat - 1)
      | none => pure []
    return some ⟨number, (← Bytes.fetch sens 0, ← Bytes.fetch sens 1), selRes, nfcid, ats⟩

end TypeATarget

namespace TypeBTarget

/-- Reads one block of a listing: the target and the number of bytes it takes. -/
def ofBlock (data : Bytes) : Except Fault (TypeBTarget × Nat) := do
  let number ← Bytes.byte data 0
  let sensbRes ← Bytes.slice data 1 sensbLength
  let first ← Bytes.fetch sensbRes 0
  if first ≠ sensbMarker then
    .error (.frameFormat
      ("SENSB_RES must start with " ++ Hex.literal sensbMarker ++ ", got " ++ Hex.literal first))
  else
    let (attribRes, used) ← Bytes.lengthPrefixed data (1 + sensbLength)
    return (⟨number, sensbRes, attribRes⟩, used)

end TypeBTarget

namespace Target

/-- The fault of asking for a listing of Type F targets. -/
def listingUnsupported : Fault := .unsupported "listing Type F targets"

/-- Reads one block of a listing of the given modulation. -/
def ofBlock : Modulation → Bytes → Except Fault (Target × Nat)
  | .typeA, data => do
    let (t, used) ← TypeATarget.ofBlock data
    return (typeA t, used)
  | .typeB, data => do
    let (t, used) ← TypeBTarget.ofBlock data
    return (typeB t, used)
  | .typeF, _ => .error listingUnsupported

/-- Reads `count` blocks, each from where the one before ended. -/
def ofBlocks (modulation : Modulation) : Nat → Bytes → Except Fault (List Target)
  | 0, _ => .ok []
  | count + 1, data => do
    let (target, used) ← ofBlock modulation data
    return target :: (← ofBlocks modulation count (← Bytes.suffix data used))

/-- Reads the reply to a listing: the number of targets, then their blocks. What follows the last block is not looked at. -/
def ofListing (modulation : Modulation) (payload : Bytes) : Except Fault (List Target) := do
  let count ← Bytes.byte payload 0
  ofBlocks modulation count.toNat (← Bytes.suffix payload 1)

end Target

end NfcHost
