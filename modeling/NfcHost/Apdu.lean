import NfcHost.Hex

/-!
# Expected responses

What a transaction expects from the card: anything, or given bytes. Given bytes may also arrive behind a status byte of
zero, unless they start with a zero themselves.
-/

namespace NfcHost

/-- What a step of a transaction expects. -/
inductive Expectation where
  /-- Any response, or none. -/
  | any
  /-- Exactly these bytes, or these bytes behind a status byte of zero. -/
  | bytes (expected : Bytes)
  deriving DecidableEq

namespace Expectation

/-- The bytes `actual` are the expected ones, plain or behind a status byte of zero. -/
def accepts (expected actual : Bytes) : Bool :=
  expected == actual || (match expected, actual with
    | e :: _, status :: rest => e != 0 && status == 0 && expected == rest
    | _, _ => false)

/-- A response, or its absence, meets the expectation. -/
def matchedBy : Expectation → Option Bytes → Bool
  | any, _ => true
  | bytes _, none => false
  | bytes expected, some actual => accepts expected actual

/-- The expectation as a text; a star stands for anything. -/
def text : Expectation → String
  | any => "*"
  | bytes expected => Hex.render expected

end Expectation

end NfcHost
