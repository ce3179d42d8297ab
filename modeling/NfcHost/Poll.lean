import NfcHost.Fault

/-!
# Outcomes of a poll

An empty field is an expected outcome of a poll and is kept apart from a failure.
-/

namespace NfcHost

/-- What came of looking for a card. -/
inductive Poll (α : Type) where
  /-- A card answered. -/
  | found (target : α)
  /-- The field is empty. -/
  | notFound
  /-- The poll went wrong. -/
  | failed (fault : Fault)
  deriving DecidableEq

namespace Poll

variable {α β : Type}

/-- A card answered. -/
def isFound : Poll α → Bool
  | found _ => true
  | _ => false

/-- The field is empty. -/
def isNotFound : Poll α → Bool
  | notFound => true
  | _ => false

/-- The card that answered, if one did. -/
def found? : Poll α → Option α
  | found target => some target
  | _ => none

/-- An empty field is no card, and a failure stays a failure. -/
def toExcept : Poll α → Except Fault (Option α)
  | found target => .ok (some target)
  | notFound => .ok none
  | failed fault => .error fault

/-- The inverse of `toExcept`. -/
def ofExcept : Except Fault (Option α) → Poll α
  | .ok (some target) => found target
  | .ok none => notFound
  | .error fault => failed fault

/-- Changes the card that was found. -/
def map (f : α → β) : Poll α → Poll β
  | found target => found (f target)
  | notFound => notFound
  | failed fault => failed fault

end Poll

end NfcHost
