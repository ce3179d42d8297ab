import NfcHost.Reader

/-!
# Transactions with a card

A tag is an activated target. A transaction sends commands to it and compares every response with what is expected; the
first that does not meet it ends the transaction.
-/

namespace NfcHost

/-- An activated target. -/
structure Tag where
  /-- The target as it was detected. -/
  target : Target
  deriving DecidableEq

namespace Tag

variable {ρ : Type} [Reader ρ]

/-- Exchanges one command with the tag. -/
def transceive (tag : Tag) (data : Bytes) : Act ρ (Option Bytes) := do
  let timeout ← Act.look Reader.exchangeTimeout
  Reader.exchangeWith tag.target.number data timeout

/-- The steps of a transaction, each a command with what is expected. Answers whether every response met it. -/
def runSteps (tag : Tag) : List (Bytes × Expectation) → Act ρ Bool
  | [] => return true
  | (command, expected) :: rest => do
    let response ← tag.transceive command
    if expected.matchedBy response then tag.runSteps rest
    else
      Act.tell Reader.label (.unexpectedResponse response expected)
      return false

/-- Sends each command and checks its response, stopping at the first that is not expected. What the longer list has beyond
the shorter does not count. -/
def transact (tag : Tag) (commands : List Bytes) (expected : List Expectation) : Act ρ Bool := do
  Act.tell Reader.label (.transactionStart (Nat.min commands.length expected.length))
  tag.runSteps (commands.zip expected)

end Tag

end NfcHost
