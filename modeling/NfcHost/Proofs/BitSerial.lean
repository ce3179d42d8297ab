import Mathlib.Data.Nat.Digits.Defs
import Mathlib.Logic.Function.Iterate
import NfcHost.CrcA

/-!
# The check bit by bit

The check as it is defined for the air: a shift register that takes in a message one bit after the other (`CrcA.serial`).
Shifting is linear, and no register but zero is shifted to zero. So up to 16 bits are taken in by adding the number that they
spell and shifting once for each of them (`CrcA.foldl_takeIn`), and the register that takes in whole bytes makes the eight
shifts of a byte at once (`CrcA.absorb_eq_shift`). Both registers give every message the same check (`CrcA.check_eq_serial`).
-/

namespace NfcHost.CrcA

/-! ## The shift register -/

/-- The register moved one place to the right; the polynomial is added (0x8408, lowest power first) if the bit that was moved
out is set. -/
def shift (crc : UInt16) : UInt16 := if crc.toNat % 2 = 1 then (crc >>> 1) ^^^ 0x8408 else crc >>> 1

/-- The register after one bit of the message, which is added to its lowest bit. -/
def takeIn (crc : UInt16) (bit : Bool) : UInt16 := shift (crc ^^^ bit.toUInt16)

/-- The bits of a byte, the least significant one first. -/
def bits (byte : UInt8) : List Bool := (List.range 8).map byte.toNat.testBit

/-- The bits of a message in the order in which they are taken in. -/
def stream (data : Bytes) : List Bool := data.flatMap bits

/-- The register after a message that is taken in bit by bit. -/
def serial (data : Bytes) : UInt16 := (stream data).foldl takeIn 0x6363

/-- The two bytes of a register, the least significant one first. -/
def littleEndian (crc : UInt16) : Bytes := [UInt8.ofNat (crc.toNat % 256), UInt8.ofNat (crc.toNat / 256)]

/-! ## Numbers and their bits -/

/-- The number that bits spell, the least significant one first. -/
def number (message : List Bool) : Nat := Nat.ofDigits 2 (message.map Bool.toNat)

theorem number_cons (bit : Bool) (rest : List Bool) : number (bit :: rest) = bit.toNat + 2 * number rest :=
  Nat.ofDigits_cons

theorem number_append (first second : List Bool) :
    number (first ++ second) = number first + 2 ^ first.length * number second := by
  simp [number, Nat.ofDigits_append]

/-- Bits are digits. -/
theorem digit_lt (message : List Bool) : ∀ d ∈ message.map Bool.toNat, d < 2 := by
  intro d hd
  obtain ⟨bit, -, rfl⟩ := List.mem_map.1 hd
  exact bit.toNat_lt

theorem number_lt (message : List Bool) : number message < 2 ^ message.length := by
  have h := Nat.ofDigits_lt_base_pow_length (by decide) (digit_lt message)
  rwa [List.length_map] at h

/-- Bits are known by their number and by how many they are. -/
theorem eq_of_number_eq {first second : List Bool} (hlen : first.length = second.length)
    (h : number first = number second) : first = second := by
  have hdigits := Nat.ofDigits_inj_of_len_eq (by decide) (by simpa using hlen) (digit_lt first) (digit_lt second) h
  refine (List.map_inj_right ?_).1 hdigits
  intro a b hab
  cases a <;> cases b <;> trivial

/-- The lowest bits of a number spell what it leaves modulo a power of two. -/
theorem number_testBit (count n : Nat) : number ((List.range count).map n.testBit) = n % 2 ^ count := by
  induction count generalizing n with
  | zero => simp [number, Nat.mod_one]
  | succ count ih =>
    have htail : (List.range count).map (n.testBit ∘ Nat.succ) = (List.range count).map (n / 2).testBit :=
      List.map_congr_left fun i _ => Nat.testBit_succ n i
    rw [List.range_succ_eq_map, List.map_cons, List.map_map, htail, number_cons, ih, Nat.testBit_zero, Nat.pow_succ',
      Nat.mod_mul]
    rcases Nat.mod_two_eq_zero_or_one n with h | h <;> simp [h]

@[simp] theorem length_bits (byte : UInt8) : (bits byte).length = 8 := by
  simp [bits]

@[simp] theorem number_bits (byte : UInt8) : number (bits byte) = byte.toNat := by
  rw [bits, number_testBit, Nat.mod_eq_of_lt byte.toNat_lt]

/-! ## Numbers in the register -/

theorem toNat_ofNat {n : Nat} (h : n < 0x10000) : (UInt16.ofNat n).toNat = n := UInt16.toNat_ofNat_of_lt' h

theorem toNat_shiftRight (crc : UInt16) (count : Nat) (h : count < 16) :
    (crc >>> UInt16.ofNat count).toNat = crc.toNat / 2 ^ count := by
  rw [UInt16.toNat_shiftRight, toNat_ofNat (by omega), Nat.mod_eq_of_lt h, Nat.shiftRight_eq_div_pow]

/-- The lower and the upper bits of a number stand beside each other. -/
theorem ofNat_two_pow_mul_add (count high : Nat) {low : Nat} (h : low < 2 ^ count) :
    UInt16.ofNat (2 ^ count * high + low) = UInt16.ofNat (2 ^ count * high) ^^^ UInt16.ofNat low := by
  rw [← UInt16.ofNat_xor]
  refine congrArg UInt16.ofNat (Nat.eq_of_testBit_eq fun i => ?_)
  rw [Nat.testBit_two_pow_mul_add _ h, Nat.testBit_xor, Nat.testBit_two_pow_mul]
  by_cases hi : i < count
  · simp [hi, Nat.not_le.2 hi]
  · have hclear : low.testBit i = false :=
      Nat.testBit_lt_two_pow (h.trans_le (Nat.pow_le_pow_right (by decide) (Nat.not_lt.1 hi)))
    simp [hi, hclear, Nat.not_lt.1 hi]

/-- The lowest bit of a number stands beside the others. -/
theorem ofNat_number_cons (bit : Bool) (rest : List Bool) :
    UInt16.ofNat (number (bit :: rest)) = bit.toUInt16 ^^^ UInt16.ofNat (2 * number rest) := by
  rw [number_cons, Nat.add_comm, UInt16.xor_comm, show bit.toUInt16 = UInt16.ofNat bit.toNat by cases bit <;> rfl]
  exact ofNat_two_pow_mul_add 1 (number rest) bit.toNat_lt

/-- The bytes of a register spell its number. -/
theorem littleEndian_eq_iff {crc : UInt16} {low high : UInt8} :
    littleEndian crc = [low, high] ↔ crc.toNat = low.toNat + 256 * high.toNat := by
  have hlow := low.toNat_lt
  have hcrc := crc.toNat_lt
  have htoNat (n : Nat) : (UInt8.ofNat n).toNat = n % 256 := UInt8.toNat_ofNat'
  simp only [littleEndian, List.cons.injEq, and_true, ← UInt8.toNat_inj, htoNat]
  omega

/-- A register is known by its bytes. -/
theorem littleEndian_injective : Function.Injective littleEndian := by
  intro a b h
  have ha := littleEndian_eq_iff.1 (show littleEndian a = [_, _] from h)
  have hb := littleEndian_eq_iff.1 (show littleEndian b = [_, _] from rfl)
  exact UInt16.toNat_inj.1 (ha.trans hb.symm)

/-- The bytes of a register, cut off and moved down. -/
theorem littleEndian_eq (crc : UInt16) : littleEndian crc = [crc.toUInt8, (crc >>> 8).toUInt8] := by
  have hcrc := crc.toNat_lt
  have hupper : (crc >>> 8).toNat = crc.toNat / 256 := toNat_shiftRight crc 8 (by decide)
  rw [littleEndian_eq_iff, UInt16.toNat_toUInt8, UInt16.toNat_toUInt8, hupper]
  omega

/-! ## Shifting -/

/-- What is added to the register is shifted apart from what it holds. -/
theorem shift_xor (a b : UInt16) : shift (a ^^^ b) = shift a ^^^ shift b := by
  have hcancel (x y p : UInt16) : x ^^^ p ^^^ (y ^^^ p) = x ^^^ y := by
    rw [UInt16.xor_comm y, UInt16.xor_assoc, ← UInt16.xor_assoc p, UInt16.xor_self, UInt16.zero_xor]
  unfold shift
  simp only [UInt16.toNat_xor, Nat.xor_mod_two_eq_one, UInt16.shiftRight_xor]
  by_cases ha : a.toNat % 2 = 1 <;> by_cases hb : b.toNat % 2 = 1
  · simp [ha, hb, hcancel]
  · simp [ha, hb]
    ac_rfl
  · simp [ha, hb]
    ac_rfl
  · simp [ha, hb]

/-- A register that is shifted to zero held zero: the polynomial reaches into the place that shifting leaves free. -/
theorem eq_zero_of_shift {crc : UInt16} (h : shift crc = 0) : crc = 0 := by
  have hlt := crc.toNat_lt
  have hhalf : (crc >>> 1).toNat = crc.toNat / 2 := toNat_shiftRight crc 1 (by decide)
  unfold shift at h
  split at h
  · have hfree : crc.toNat / 2 = 0x8408 := by
      rw [← hhalf, UInt16.xor_eq_zero_iff.1 h]
      rfl
    omega
  · have hnone : crc.toNat / 2 = 0 := by
      rw [← hhalf, h]
      rfl
    exact UInt16.toNat_inj.1 (show crc.toNat = 0 by omega)

theorem shift_injective : Function.Injective shift := by
  intro a b h
  have hzero : shift (a ^^^ b) = 0 := by
    rw [shift_xor, h, UInt16.xor_self]
  exact UInt16.xor_eq_zero_iff.1 (eq_zero_of_shift hzero)

/-- An even number is halved. -/
theorem shift_ofNat {n : Nat} (h : n < 0x8000) : shift (UInt16.ofNat (2 * n)) = UInt16.ofNat n := by
  have hdouble : (UInt16.ofNat (2 * n)).toNat = 2 * n := toNat_ofNat (by omega)
  have hhalf : (UInt16.ofNat (2 * n) >>> 1).toNat = (UInt16.ofNat (2 * n)).toNat / 2 := toNat_shiftRight _ 1 (by decide)
  rw [shift, hdouble, if_neg (by omega), ← UInt16.toNat_inj, hhalf, hdouble, toNat_ofNat (by omega)]
  omega

theorem iterate_shift_xor (count : Nat) (a b : UInt16) : shift^[count] (a ^^^ b) = shift^[count] a ^^^ shift^[count] b := by
  induction count generalizing a b with
  | zero => rfl
  | succ count ih => simp only [Function.iterate_succ_apply, shift_xor, ih]

/-- A number that ends in zeros loses one with each shift. -/
theorem iterate_shift_ofNat {count n : Nat} (h : 2 ^ count * n < 0x10000) :
    shift^[count] (UInt16.ofNat (2 ^ count * n)) = UInt16.ofNat n := by
  induction count with
  | zero => simp
  | succ count ih =>
    rw [Nat.pow_succ', Nat.mul_assoc] at h ⊢
    rw [Function.iterate_succ_apply, shift_ofNat (by omega), ih (by omega)]

/-! ## Taking in bits and bytes -/

/-- Up to 16 bits are taken in by adding the number that they spell, and one shift for each. -/
theorem foldl_takeIn {message : List Bool} (crc : UInt16) (h : message.length ≤ 16) :
    message.foldl takeIn crc = shift^[message.length] (crc ^^^ UInt16.ofNat (number message)) := by
  induction message generalizing crc with
  | nil => simp [number]
  | cons bit rest ih =>
    rw [List.length_cons] at h
    have hrest : number rest < 2 ^ 15 :=
      (number_lt rest).trans_le (Nat.pow_le_pow_right (by decide) (Nat.le_of_succ_le_succ h))
    -- the bits behind the first one spell an even number in their places, which the first shift halves
    calc (bit :: rest).foldl takeIn crc
        = shift^[rest.length] (shift (crc ^^^ bit.toUInt16) ^^^ UInt16.ofNat (number rest)) := ih _ (by omega)
      _ = shift^[rest.length] (shift (crc ^^^ bit.toUInt16 ^^^ UInt16.ofNat (2 * number rest))) := by
        rw [shift_xor _ (UInt16.ofNat _), shift_ofNat hrest]
      _ = shift^[(bit :: rest).length] (crc ^^^ UInt16.ofNat (number (bit :: rest))) := by
        rw [UInt16.xor_assoc, ← ofNat_number_cons]
        rfl

/-- Eight shifts of a register whose upper byte is empty, for each lower byte. -/
theorem iterate_shift_low : ∀ n < 256, shift^[8] (UInt16.ofNat n) = absorb 0 (UInt8.ofNat n) := by
  decide +kernel

/-- With eight shifts the upper byte only moves down, and the lower one is shifted out. -/
theorem iterate_shift_eight (crc : UInt16) : shift^[8] crc = (crc >>> 8) ^^^ absorb 0 crc.toUInt8 := by
  have hlt := crc.toNat_lt
  have hlow : crc.toNat % 256 < 2 ^ 8 := Nat.mod_lt _ (by decide)
  have hsplit : crc = UInt16.ofNat (2 ^ 8 * (crc.toNat / 256)) ^^^ UInt16.ofNat (crc.toNat % 256) := by
    rw [← ofNat_two_pow_mul_add 8 _ hlow, show 2 ^ 8 = 256 from rfl, Nat.div_add_mod, UInt16.ofNat_toNat]
  have hhigh : UInt16.ofNat (crc.toNat / 256) = crc >>> 8 := by
    rw [← show (crc >>> 8).toNat = crc.toNat / 256 from toNat_shiftRight crc 8 (by decide), UInt16.ofNat_toNat]
  have hbyte : UInt8.ofNat (crc.toNat % 256) = crc.toUInt8 := by
    rw [← UInt8.toNat_inj, UInt16.toNat_toUInt8, UInt8.toNat_ofNat', Nat.mod_mod]
  calc shift^[8] crc
      = shift^[8] (UInt16.ofNat (2 ^ 8 * (crc.toNat / 256))) ^^^ shift^[8] (UInt16.ofNat (crc.toNat % 256)) := by
        rw [← iterate_shift_xor, ← hsplit]
    _ = (crc >>> 8) ^^^ absorb 0 crc.toUInt8 := by
        rw [iterate_shift_ofNat (by omega), iterate_shift_low _ hlow, hhigh, hbyte]

/-- A byte is absorbed by adding it to the register, and eight shifts. -/
theorem absorb_eq_shift (crc : UInt16) (byte : UInt8) : absorb crc byte = shift^[8] (crc ^^^ byte.toUInt16) := by
  have hlow : (crc ^^^ byte.toUInt16).toUInt8 = byte ^^^ crc.toUInt8 := by
    rw [UInt16.toUInt8_xor, UInt8.toUInt8_toUInt16, UInt8.xor_comm]
  have hhigh : (crc ^^^ byte.toUInt16) >>> 8 = crc >>> 8 := by
    have hnone : byte.toUInt16 >>> 8 = 0 :=
      UInt16.toNat_inj.1 ((toNat_shiftRight byte.toUInt16 8 (by decide)).trans (Nat.div_eq_of_lt byte.toNat_lt))
    rw [UInt16.shiftRight_xor, hnone, UInt16.xor_zero]
  rw [iterate_shift_eight, hlow, hhigh]
  simp [absorb, UInt16.xor_assoc]

/-- A byte is absorbed as its bits are taken in. -/
theorem absorb_eq_foldl (crc : UInt16) (byte : UInt8) : absorb crc byte = (bits byte).foldl takeIn crc := by
  rw [foldl_takeIn crc (by simp), length_bits, number_bits, UInt16.ofNat_uInt8ToNat, absorb_eq_shift]

/-- Bytes are absorbed as their bits are taken in. -/
theorem foldl_absorb (data : Bytes) (crc : UInt16) : data.foldl absorb crc = (stream data).foldl takeIn crc := by
  induction data generalizing crc with
  | nil => rfl
  | cons byte rest ih => rw [List.foldl_cons, ih, stream, stream, List.flatMap_cons, List.foldl_append, absorb_eq_foldl]

/-- The register that takes in bytes and the one that takes in bits hold the same behind every message. -/
theorem register_eq_serial (data : Bytes) : register data = serial data := foldl_absorb data preset

/-- The check is the register, the least significant byte first. -/
theorem check_eq_littleEndian (data : Bytes) : check data = littleEndian (register data) := (littleEndian_eq _).symm

/-- The check of a message is what the shift register holds behind its bits, the least significant byte first. -/
theorem check_eq_serial (data : Bytes) : check data = littleEndian (serial data) := by
  rw [check_eq_littleEndian, register_eq_serial]

-- the check behind the command that halts a card
example : littleEndian (serial [0x50, 0x00]) = [0x57, 0xCD] := by decide

end NfcHost.CrcA
