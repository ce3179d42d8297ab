import NfcHost.Bytes.Access

/-!
# What the accessors read

The accessors on bytes laid out as a front, a part and a rest: each reads the part that stands at the length of the front. A
position is a sum in 64-bit arithmetic, which is exact as long as the fronts are short.
-/

namespace NfcHost.Bytes

/-- A sum that fits is exact. -/
theorem sum64_eq {a b : Nat} (h : a + b < 0x10000000000000000) : sum64 a b = a + b := Nat.mod_eq_of_lt h

/-- The byte behind a front. -/
theorem fetch_append (front : Bytes) (b : UInt8) (rest : Bytes) : fetch (front ++ b :: rest) front.length = .ok b := by
  simp [fetch]

/-- What stands behind a front. -/
theorem suffix_append (front rest : Bytes) : suffix (front ++ rest) front.length = .ok rest := by
  rw [suffix, if_pos (by simp), List.drop_left]

/-- The part between a front and a rest. -/
theorem span_append (front part rest : Bytes) :
    span (front ++ (part ++ rest)) front.length (front.length + part.length) = .ok part := by
  rw [span, if_pos (by simp)]
  have htake : (front ++ (part ++ rest)).take (front.length + part.length) = front ++ part := by
    rw [← List.append_assoc]
    exact List.take_left' (List.length_append)
  rw [htake, List.drop_left]

/-- Data that is long enough passes the guard. -/
theorem require_of_le {data : Bytes} {min : Nat} (h : min ≤ data.length) : require data min = .ok () := if_neg (by omega)

/-- The byte behind a short front, through the guard. -/
theorem byte_append (front : Bytes) (b : UInt8) (rest : Bytes) (hfront : front.length + 1 < 0x10000000000000000) :
    byte (front ++ b :: rest) front.length = .ok b := by
  rw [byte, sum64_eq hfront, require_of_le (by simp)]
  exact fetch_append front b rest

/-- The first byte. -/
theorem byte_cons_zero (b : UInt8) (rest : Bytes) : byte (b :: rest) 0 = .ok b := byte_append [] b rest (by simp)

/-- What stands behind the first byte. -/
theorem suffix_cons_one (b : UInt8) (rest : Bytes) : suffix (b :: rest) 1 = .ok rest := suffix_append [b] rest

/-- The part behind a short front, through the guard. -/
theorem slice_append (front part rest : Bytes) (h : front.length + part.length < 0x10000000000000000) :
    slice (front ++ (part ++ rest)) front.length part.length = .ok part := by
  rw [slice, sum64_eq h, require_of_le (by simp)]
  exact span_append front part rest

/-- A number that fits into a byte is read back from it. -/
theorem toNat_ofNat_le {n : Nat} (h : n ≤ 255) : (UInt8.ofNat n).toNat = n := by
  simp [Nat.mod_eq_of_lt (show n < 256 by omega)]

end NfcHost.Bytes
