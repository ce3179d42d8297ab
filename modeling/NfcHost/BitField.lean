/-!
# Bit fields

Neighbouring bits of a register that carry one number. Setting a field leaves the register's other bits alone.
-/

namespace NfcHost

/-- The `width` bits of a register from bit `shift` up. -/
structure BitField where
  /-- The lowest bit. -/
  shift : Nat
  /-- How many bits. -/
  width : Nat
  deriving DecidableEq

namespace BitField

/-- The bits of the field, those beyond the register cut off. -/
def mask (f : BitField) : UInt8 := UInt8.ofNat (((1 <<< f.width) - 1) <<< f.shift)

/-- The number in the field. -/
def get (f : BitField) (reg : UInt8) : UInt8 := (reg &&& f.mask) >>> UInt8.ofNat f.shift

/-- The register with the number in the field replaced; bits of the number that do not fit are dropped. -/
def set (f : BitField) (reg value : UInt8) : UInt8 :=
  (reg &&& ~~~f.mask) ||| ((value <<< UInt8.ofNat f.shift) &&& f.mask)

/-! ## Bit by bit -/

/-- Bit `i` of a register, counted from the lowest. -/
def bit (reg : UInt8) (i : Nat) : Bool := reg.toBitVec.getLsbD i

@[simp] theorem bit_and (a b : UInt8) (i : Nat) : bit (a &&& b) i = (bit a i && bit b i) := by
  simp [bit]

@[simp] theorem bit_or (a b : UInt8) (i : Nat) : bit (a ||| b) i = (bit a i || bit b i) := by
  simp [bit]

theorem bit_not (a : UInt8) {i : Nat} (hi : i < 8) : bit (~~~a) i = !bit a i := by
  simp [bit, hi]

theorem bit_ofNat (n i : Nat) : bit (UInt8.ofNat n) i = (decide (i < 8) && n.testBit i) :=
  BitVec.getLsbD_ofNat 8 n i

theorem bit_shiftLeft (a : UInt8) {n i : Nat} (hn : n < 8) (hi : i < 8) :
    bit (a <<< UInt8.ofNat n) i = (decide (n ≤ i) && bit a (i - n)) := by
  have hcount : ((UInt8.ofNat n).toBitVec % 8).toNat = n := by
    simp
    omega
  rw [bit, UInt8.toBitVec_shiftLeft, BitVec.shiftLeft_eq', BitVec.getLsbD_shiftLeft, hcount]
  simp only [hi, decide_true, Bool.true_and, ← decide_not, Nat.not_lt, bit]

/-- The mask holds the bits of the field. -/
theorem bit_mask (f : BitField) {i : Nat} (hi : i < 8) : bit f.mask i = decide (f.shift ≤ i ∧ i < f.shift + f.width) := by
  rw [mask, bit_ofNat, Nat.one_shiftLeft, Nat.testBit_shiftLeft, Nat.testBit_two_pow_sub_one]
  simp only [hi, decide_true, Bool.true_and, ← Bool.decide_and]
  exact decide_eq_decide.2 (by omega)

/-- Setting a field puts the bits of the number into it. -/
theorem bit_set_in (f : BitField) (reg value : UInt8) {i : Nat} (hi : i < f.width) (hreg : f.shift + i < 8) :
    bit (f.set reg value) (f.shift + i) = bit value i := by
  have hmask : bit f.mask (f.shift + i) = true := by
    rw [bit_mask f hreg]
    exact decide_eq_true ⟨Nat.le_add_right _ _, Nat.add_lt_add_left hi _⟩
  have hshifted : bit (value <<< UInt8.ofNat f.shift) (f.shift + i) = bit value i := by
    rw [bit_shiftLeft _ (by omega) hreg]
    simp
  rw [set, bit_or, bit_and, bit_and, bit_not _ hreg, hmask, hshifted]
  simp

/-- Setting a field leaves every bit alone that is not in the field. -/
theorem bit_set_out (f : BitField) (reg value : UInt8) {i : Nat} (hi : i < f.shift ∨ f.shift + f.width ≤ i)
    (hreg : i < 8) : bit (f.set reg value) i = bit reg i := by
  have hmask : bit f.mask i = false := by
    rw [bit_mask f hreg]
    exact decide_eq_false (by omega)
  rw [set, bit_or, bit_and, bit_and, bit_not _ hreg, hmask]
  simp

end BitField

end NfcHost
