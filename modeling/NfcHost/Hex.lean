import NfcHost.Bytes

/-!
# Hexadecimal text

A byte string is written as two lowercase digits a byte, with nothing between them. Reading takes away ASCII white space,
cuts what is left into pairs of UTF-8 bytes and reads each pair as a number to base sixteen; one plus sign may stand in
front of the number, so a pair may also be a plus sign and one digit.
-/

namespace NfcHost

namespace Hex

/-- The two lowercase digits of a byte, high half first. -/
def digits (b : UInt8) : List Char := [Nat.digitChar (b.toNat / 16), Nat.digitChar (b.toNat % 16)]

/-- A byte string in hexadecimal, without separators. -/
def render (bytes : Bytes) : String := String.ofList (bytes.flatMap digits)

/-- A byte as a number literal: `0x` and two digits. -/
def literal (b : UInt8) : String := "0x" ++ render [b]

/-- A byte in binary: `0b` and eight digits. -/
def binary (b : UInt8) : String :=
  "0b" ++ String.ofList ((List.range 8).reverse.map fun i => if b.toNat.testBit i then '1' else '0')

/-- Why a text is not hexadecimal. -/
inductive Flaw where
  /-- The bytes left without white space do not make whole pairs. -/
  | oddLength
  /-- A pair ends inside a character, after `good` bytes that stand for whole characters. -/
  | cutCharacter (good : Nat)
  /-- A pair of whole characters is no number to base sixteen. -/
  | badPair (pair : String)
  deriving DecidableEq

/-- The text of a flaw. -/
def Flaw.message : Flaw → String
  | .oddLength => "hex string has odd length"
  | .cutCharacter good => "incomplete utf-8 byte sequence from index " ++ toString good
  | .badPair pair => "invalid hex pair '" ++ pair ++ "': invalid digit found in string"

/-- The bytes that reading passes over: space, tab, line feed, form feed and carriage return. -/
def isBlank (b : UInt8) : Bool := b == 0x20 || b == 0x09 || b == 0x0A || b == 0x0C || b == 0x0D

/-- The value of an ASCII digit to base sixteen, in either case. -/
def digitValue? (b : UInt8) : Option UInt8 :=
  if 0x30 ≤ b ∧ b ≤ 0x39 then some (b - 0x30)
  else if 0x61 ≤ b ∧ b ≤ 0x66 then some (b - 0x61 + 10)
  else if 0x41 ≤ b ∧ b ≤ 0x46 then some (b - 0x41 + 10)
  else none

/-- The text of a pair of UTF-8 bytes: two ASCII characters or one character of two bytes. A pair that starts at a character
and is neither of these ends inside a character. -/
def pairText (a b : UInt8) : Except Flaw String :=
  if a < 0x80 then
    if b < 0x80 then .ok (String.ofList [Char.ofNat a.toNat, Char.ofNat b.toNat]) else .error (.cutCharacter 1)
  else if a < 0xE0 then .ok (String.ofList [Char.ofNat ((a.toNat % 0x20) * 0x40 + b.toNat % 0x40)])
  else .error (.cutCharacter 0)

/-- The value of a pair: two digits, or a plus sign and one digit. -/
def pairValue? (a b : UInt8) : Option UInt8 :=
  if a = 0x2B then digitValue? b
  else do return (← digitValue? a) * 16 + (← digitValue? b)

/-- Reads bytes without white space pair by pair; the first flaw ends the reading. -/
def parsePairs : Bytes → Except Flaw Bytes
  | a :: b :: rest => do
    let text ← pairText a b
    match pairValue? a b with
    | some value => return value :: (← parsePairs rest)
    | none => .error (.badPair text)
  | _ => .ok []

/-- The UTF-8 bytes of a text. -/
def utf8 (text : String) : Bytes := text.toList.flatMap String.utf8EncodeChar

/-- Reads a hexadecimal text such as `0000ff00ff00` or `00 00 ff`. -/
def parse (text : String) : Except Flaw Bytes :=
  let kept := (utf8 text).filter fun b => !isBlank b
  if kept.length % 2 ≠ 0 then .error .oddLength else parsePairs kept

end Hex

end NfcHost
