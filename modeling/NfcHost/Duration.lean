/-!
# Durations

Time spans with a resolution of one nanosecond, how a span in fractional seconds is rounded to one, and the controller's
table of timeouts.
-/

namespace NfcHost

/-- A span of time. -/
structure Duration where
  /-- Its length in nanoseconds. -/
  nanos : Nat
  deriving DecidableEq

namespace Duration

/-- No time at all. -/
def zero : Duration := ⟨0⟩

/-- A span of whole milliseconds. -/
def ofMillis (ms : Nat) : Duration := ⟨ms * 1000000⟩

/-- The whole microseconds of a span; what is left of the last one is dropped. -/
def micros (d : Duration) : Nat := d.nanos / 1000

/-- The longer of two spans. -/
def max (a b : Duration) : Duration := ⟨Nat.max a.nanos b.nanos⟩

/-! ## Fractional seconds -/

/-- The quotient of two numbers, rounded to the nearest whole number; a half goes to the even neighbour. -/
def roundHalfEven (num den : Nat) : Nat :=
  let q := num / den
  let twice := 2 * (num % den)
  if twice < den ∨ (twice = den ∧ q % 2 = 0) then q else q + 1

/-- The span of a number of seconds given by the bits of an IEEE 754 double, rounded to the nearest nanosecond. A number that
is negative, not finite, or at least 2 ^ 64 gives no time at all. -/
def ofDoubleBits (bits : UInt64) : Duration :=
  let negative := bits.toNat >>> 63 = 1
  let exponent := (bits.toNat >>> 52) % 0x800
  let fraction := bits.toNat % (1 <<< 52)
  if negative ∨ exponent ≥ 1023 + 64 then zero
  else
    -- The value in seconds is `mantissa * 2 ^ scale / 2 ^ (1023 + 52)`; `scale = 1` serves the subnormal numbers too.
    let mantissa := if exponent = 0 then fraction else (1 <<< 52) + fraction
    let scale := Nat.max exponent 1
    ⟨roundHalfEven ((mantissa * 1000000000) <<< scale) (1 <<< (1023 + 52))⟩

/-! ## The controller's timeout table -/

/-- The last index of the table. -/
def maxTimeoutIndex : Nat := 16

/-- The timeout that index `n` stands for, in microseconds: `100` at index `1`, and twice the one before at every next. -/
def tableMicros (n : Nat) : Nat := 100 <<< (n - 1)

/-- The smallest index whose timeout covers the span's whole microseconds; a span beyond the table gets the last index. -/
def timeoutIndex (d : Duration) : UInt8 :=
  let indices := (List.range maxTimeoutIndex).map (· + 1)
  UInt8.ofNat ((indices.find? fun n => d.micros ≤ tableMicros n).getD maxTimeoutIndex)

end Duration

end NfcHost
