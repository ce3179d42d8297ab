import NfcHost.Proofs.BitSerial

/-!
# What the check detects

Statements about messages that are taken for each other. The shift register keeps apart what it holds: nothing that follows
brings two registers together (`CrcA.foldl_takeIn_injective`), and up to 16 bits are told apart wherever they stand
(`CrcA.eq_of_foldl_takeIn`). So a receiver that absorbs the check behind a message ends with an empty register, behind
anything else it does not (`CrcA.check_append_eq_zero_iff`), and no burst that fits into 16 bits goes unseen, whether it lies
on the bounds of bytes or not (`CrcA.check_ne_of_burst_bits`, `CrcA.check_ne_of_burst`).
-/

namespace NfcHost.CrcA

/-! ## Registers are kept apart -/

theorem takeIn_injective (bit : Bool) : Function.Injective (takeIn · bit) := by
  intro a b h
  exact (UInt16.xor_left_inj _).1 (shift_injective h)

/-- Different registers stay different, whatever message follows. -/
theorem foldl_takeIn_injective (message : List Bool) : Function.Injective (message.foldl takeIn) := by
  induction message with
  | nil => exact fun _ _ h => h
  | cons bit rest ih => exact ih.comp (takeIn_injective bit)

/-- Up to 16 bits that lead a register to the same end are the same. -/
theorem eq_of_foldl_takeIn {sent received : List Bool} {crc : UInt16} (hlen : sent.length = received.length)
    (hshort : sent.length ≤ 16) (h : sent.foldl takeIn crc = received.foldl takeIn crc) : sent = received := by
  have hfits : ∀ message : List Bool, message.length ≤ 16 → number message < 0x10000 := fun message hmessage =>
    (number_lt message).trans_le (Nat.pow_le_pow_right (by decide) hmessage)
  rw [foldl_takeIn crc hshort, foldl_takeIn crc (hlen ▸ hshort), ← hlen] at h
  have hadded := (UInt16.xor_right_inj crc).1 (shift_injective.iterate sent.length h)
  have hnumber := congrArg UInt16.toNat hadded
  rw [toNat_ofNat (hfits sent hshort), toNat_ofNat (hfits received (hlen ▸ hshort))] at hnumber
  exact eq_of_number_eq hlen hnumber

theorem iterate_shift_eq_zero_iff {count : Nat} {crc : UInt16} : shift^[count] crc = 0 ↔ crc = 0 := by
  have hzero : shift^[count] 0 = 0 := Function.iterate_fixed rfl count
  constructor
  · intro h
    exact shift_injective.iterate count (h.trans hzero.symm)
  · rintro rfl
    exact hzero

/-! ## Messages and their bits -/

theorem stream_append (first second : Bytes) : stream (first ++ second) = stream first ++ stream second :=
  List.flatMap_append

theorem length_stream (data : Bytes) : (stream data).length = 8 * data.length := by
  induction data with
  | nil => rfl
  | cons byte rest ih =>
    rw [stream, List.flatMap_cons, List.length_append, length_bits, ← stream, ih, List.length_cons]
    omega

theorem bits_injective : Function.Injective bits := by
  intro a b h
  rw [← UInt8.toNat_inj, ← number_bits, h, number_bits]

/-- A message is known by its bits. -/
theorem eq_of_stream_eq {first second : Bytes} (hlen : first.length = second.length) (h : stream first = stream second) :
    first = second := by
  induction first generalizing second with
  | nil => exact (List.eq_nil_of_length_eq_zero hlen.symm).symm
  | cons byte rest ih =>
    cases second with
    | nil => nomatch hlen
    | cons other others =>
      obtain ⟨hbyte, hrest⟩ := List.append_inj h (by simp)
      rw [bits_injective hbyte, ih (Nat.succ.inj hlen) hrest]

/-- Two bytes behind each other spell a register. -/
theorem number_stream_pair (low high : UInt8) : number (stream [low, high]) = low.toNat + 256 * high.toNat := by
  rw [show stream [low, high] = bits low ++ (bits high ++ []) from rfl, List.append_nil, number_append, number_bits,
    number_bits, length_bits]
  rfl

/-- Messages have the same check exactly if they leave the same register. -/
theorem check_eq_iff {first second : Bytes} : check first = check second ↔ register first = register second := by
  rw [check_eq_littleEndian, check_eq_littleEndian]
  exact littleEndian_injective.eq_iff

/-- What follows is taken in bit by bit. -/
theorem register_append (data rest : Bytes) : register (data ++ rest) = (stream rest).foldl takeIn (register data) := by
  rw [register, List.foldl_append, foldl_absorb rest, register]

/-! ## The check behind its message -/

/-- Two bytes empty the register exactly if they are those that it holds. -/
theorem register_append_pair_eq_zero_iff {data : Bytes} {low high : UInt8} :
    register (data ++ [low, high]) = 0 ↔ littleEndian (register data) = [low, high] := by
  have hlow := low.toNat_lt
  have hhigh := high.toNat_lt
  have hshort : (stream [low, high]).length ≤ 16 := by simp [length_stream]
  rw [register_append, foldl_takeIn _ hshort, iterate_shift_eq_zero_iff, UInt16.xor_eq_zero_iff, number_stream_pair,
    littleEndian_eq_iff, ← UInt16.toNat_inj, toNat_ofNat (by omega)]

/-- A receiver that absorbs two bytes behind a message is left with an empty check exactly if they are the check of the
message. -/
theorem check_append_eq_zero_iff (data : Bytes) :
    (∀ low high : UInt8, check (data ++ [low, high]) = [0, 0] ↔ [low, high] = check data) ∧
      check (append data) = [0, 0] := by
  have hcloses : ∀ low high : UInt8, check (data ++ [low, high]) = [0, 0] ↔ [low, high] = check data := by
    intro low high
    have hempty : littleEndian 0 = [0, 0] := rfl
    rw [check_eq_littleEndian, check_eq_littleEndian, ← hempty, littleEndian_injective.eq_iff,
      register_append_pair_eq_zero_iff]
    exact eq_comm
  exact ⟨hcloses, (hcloses _ _).2 rfl⟩

/-! ## Bursts -/

/-- A burst of up to 16 bits changes the check, wherever among the bits of a message it begins. -/
theorem check_ne_of_burst_bits {first second : Bytes} {before sent received after : List Bool}
    (hfirst : stream first = before ++ sent ++ after) (hsecond : stream second = before ++ received ++ after)
    (hlen : sent.length = received.length) (hshort : sent.length ≤ 16) (hne : sent ≠ received) :
    check first ≠ check second := by
  intro h
  rw [check_eq_iff, register_eq_serial, register_eq_serial, serial, serial, hfirst, hsecond, List.foldl_append,
    List.foldl_append, List.foldl_append, List.foldl_append] at h
  exact hne (eq_of_foldl_takeIn hlen hshort (foldl_takeIn_injective after h))

/-- One byte or two that stand in the place of others change the check, whatever stands around them. -/
theorem check_ne_of_burst (before after : Bytes) {sent received : Bytes} (hlen : sent.length = received.length)
    (hshort : sent.length ≤ 2) (hne : sent ≠ received) :
    check (before ++ sent ++ after) ≠ check (before ++ received ++ after) := by
  have haround (burst : Bytes) : stream (before ++ burst ++ after) = stream before ++ stream burst ++ stream after := by
    rw [stream_append, stream_append]
  refine check_ne_of_burst_bits (haround sent) (haround received) ?_ ?_ ?_
  · rw [length_stream, length_stream, hlen]
  · rw [length_stream]
    omega
  · exact fun h => hne (eq_of_stream_eq hlen h)

/-- Two bytes in the wrong order. -/
theorem check_ne_of_burst_swapped :
    let sent : Bytes := [0x50, 0x00]
    let received : Bytes := [0x00, 0x50]
    sent.length = received.length ∧ sent.length ≤ 2 ∧ sent ≠ received ∧
    check ([0x05] ++ sent ++ [0x08]) ≠ check ([0x05] ++ received ++ [0x08]) := by
  intro sent received
  have hne : sent ≠ received := by decide
  exact ⟨rfl, by decide, hne, check_ne_of_burst [0x05] [0x08] rfl (by decide) hne⟩

end NfcHost.CrcA
