import NfcHost.Proofs.Reading
import NfcHost.Proofs.Wire

/-!
# What the guards of the accessors let through

A guarded access has an end, the position behind the last of its bytes. If the data reaches to it the access is answered, and if
not it is refused, with the end and the length of the data; so it is for every end that fits into 64 bits. An end that does not
fit lies outside any data that there is, so nothing wrong is answered, but the guard compares the data with what 64-bit arithmetic
leaves of the end: it names a wrong length, or lets through an access outside the data (`FailsAt`). All accessors obey this one
law (`Guarded`), at every position and for every length (`accessors_guarded`). That the guards refuse whatever lies outside the
data is false (`outside_refused_false`).
-/

namespace NfcHost.Bytes

variable {data part : Bytes} {stop idx len next a b : Nat} {fault : Fault}

/-! ## Single accesses -/

/-- The byte that was read is the first of those from its position on. -/
theorem drop_of_byte {value : UInt8} (h : byte data idx = .ok value) : data.drop idx = value :: data.drop (idx + 1) := by
  obtain ⟨-, -, h⟩ := ok_of_bind h
  exact drop_of_fetch h

/-- A byte that was read stands at its position. -/
theorem getElem?_of_byte {value : UInt8} (h : byte data idx = .ok value) : data[idx]? = some value := by
  rw [← List.head?_drop, drop_of_byte h, List.head?_cons]

/-- The byte that stands at a position is read, since the guard asks for no more than it needs. -/
theorem byte_of_getElem? {value : UInt8} (h : data[idx]? = some value) : byte data idx = .ok value := by
  have hin : idx < data.length := (List.getElem?_eq_some_iff.1 h).1
  have hguard : sum64 idx 1 ≤ data.length := Nat.le_trans (Nat.mod_le _ _) hin
  rw [byte, require_of_le hguard]
  show fetch data idx = .ok value
  rw [fetch, h]

/-- Guarded bytes are read where the data reaches to their end. -/
theorem slice_eq (hfit : idx + len < 0x10000000000000000) :
    slice data idx len =
      if data.length < idx + len then .error (.invalidLength (idx + len) data.length)
      else .ok ((data.drop idx).take len) := by
  rw [slice, sum64_eq hfit, require]
  by_cases hshort : data.length < idx + len
  · rw [if_pos hshort, if_pos hshort]
    rfl
  · rw [if_neg hshort, if_neg hshort]
    show span data idx (idx + len) = _
    rw [span, if_pos ⟨Nat.le_add_right _ _, Nat.not_lt.1 hshort⟩, List.drop_take, Nat.add_sub_cancel_left]

/-! ## Accesses outside the data -/

/-- How an access fails that ends at `stop`, outside the data. -/
inductive FailsAt (data : Bytes) (stop : Nat) : Fault → Prop where
  /-- The end fits: the guard names it, and the length of the data. -/
  | short : data.length < stop → stop < 0x10000000000000000 → FailsAt data stop (.invalidLength stop data.length)
  /-- The guard asks for what is left of the end, and the data does not even have that. -/
  | misnamed : 0x10000000000000000 ≤ stop → data.length < stop - 0x10000000000000000 →
    FailsAt data stop (.invalidLength (stop - 0x10000000000000000) data.length)
  /-- The data has what is left of the end, and the guard lets the access through. -/
  | overlooked : data.length < stop → 0x10000000000000000 ≤ stop → stop - 0x10000000000000000 ≤ data.length →
    FailsAt data stop .outOfRange

namespace FailsAt

theorem outside (h : FailsAt data stop fault) : data.length < stop := by
  cases h with
  | short hout _ => exact hout
  | misnamed _ hshort => omega
  | overlooked hout _ _ => exact hout

/-- An access fails in one way only. -/
theorem unique {fault' : Fault} (h : FailsAt data stop fault) (h' : FailsAt data stop fault') : fault = fault' := by
  cases h with
  | short _ hfit =>
    cases h' with
    | short _ _ => rfl
    | misnamed hover _ => omega
    | overlooked _ hover _ => omega
  | misnamed hover hshort =>
    cases h' with
    | short _ hfit => omega
    | misnamed _ _ => rfl
    | overlooked _ _ hlong => omega
  | overlooked _ hover hlong =>
    cases h' with
    | short _ hfit => omega
    | misnamed _ hshort => omega
    | overlooked _ _ _ => rfl

/-- The fault names the end and the length of the data exactly if the end fits. -/
theorem eq_invalidLength_iff (h : FailsAt data stop fault) :
    fault = .invalidLength stop data.length ↔ stop < 0x10000000000000000 := by
  cases h with
  | short _ hfit => exact iff_of_true rfl hfit
  | misnamed hover _ =>
    refine iff_of_false (fun hnamed => ?_) (Nat.not_lt.2 hover)
    have hstop := (Fault.invalidLength.inj hnamed).1
    omega
  | overlooked _ hover _ => exact iff_of_false nofun (Nat.not_lt.2 hover)

/-- An access with an end that fits fails in the way it should. -/
theorem of_fit (h : FailsAt data stop fault) (hfit : stop < 0x10000000000000000) :
    data.length < stop ∧ fault = .invalidLength stop data.length :=
  ⟨h.outside, h.eq_invalidLength_iff.2 hfit⟩

end FailsAt

/-- What 64-bit arithmetic leaves of a sum that does not fit. -/
theorem sum64_eq_sub (ha : a < 0x10000000000000000) (hb : b < 0x10000000000000000) (hover : 0x10000000000000000 ≤ a + b) :
    sum64 a b = a + b - 0x10000000000000000 := by
  rw [sum64, Nat.mod_eq_sub_mod hover, Nat.mod_eq_of_lt (by omega)]

/-- A guard in front of an access outside the data. If the guard lets it through, which it does only where what is left of the
end lies in front of the start, then the access itself has to fail. -/
theorem failsAt_require {α : Type} {access : Except Fault α} (ha : a < 0x10000000000000000) (hb : b < 0x10000000000000000)
    (hout : data.length < a + b) (haccess : sum64 a b < a → access = .error .outOfRange) :
    ∃ fault, FailsAt data (a + b) fault ∧ (require data (sum64 a b) >>= fun _ => access) = .error fault := by
  by_cases hfit : a + b < 0x10000000000000000
  · refine ⟨_, .short hout hfit, ?_⟩
    rw [sum64_eq hfit, require, if_pos hout]
    rfl
  · have hover := Nat.not_lt.1 hfit
    have hsum := sum64_eq_sub ha hb hover
    by_cases hshort : data.length < a + b - 0x10000000000000000
    · refine ⟨_, .misnamed hover hshort, ?_⟩
      rw [hsum, require, if_pos hshort]
      rfl
    · refine ⟨_, .overlooked hout hover (Nat.not_lt.1 hshort), ?_⟩
      rw [haccess (by omega), hsum, require_of_le (Nat.not_lt.1 hshort)]
      rfl

/-! ## The law of the accessors -/

/-- An access that ends at `stop`, and that reads `value` if its bytes are there: it is answered if the data reaches to its end,
and fails otherwise. -/
structure Guarded {α : Type} (data : Bytes) (stop : Nat) (value : Option α) (access : Except Fault α) : Prop where
  inside : stop ≤ data.length → ∃ v, value = some v ∧ access = .ok v
  outside : data.length < stop → ∃ fault, FailsAt data stop fault ∧ access = .error fault

namespace Guarded

variable {α : Type} {value : Option α} {access : Except Fault α}

theorem eq_ok_iff (h : Guarded data stop value access) {v : α} :
    access = .ok v ↔ stop ≤ data.length ∧ value = some v := by
  by_cases hin : stop ≤ data.length
  · obtain ⟨w, rfl, rfl⟩ := h.inside hin
    simp [hin]
  · obtain ⟨fault, -, rfl⟩ := h.outside (Nat.not_le.1 hin)
    simp [hin]

theorem eq_error_iff (h : Guarded data stop value access) : access = .error fault ↔ FailsAt data stop fault := by
  by_cases hin : stop ≤ data.length
  · obtain ⟨w, -, rfl⟩ := h.inside hin
    exact iff_of_false nofun fun hfails => Nat.not_lt.2 hin hfails.outside
  · obtain ⟨fault', hfails, rfl⟩ := h.outside (Nat.not_le.1 hin)
    refine ⟨fun heq => Except.error.inj heq ▸ hfails, fun hfails' => ?_⟩
    rw [hfails.unique hfails']

end Guarded

/-- Bytes from a position on, if the data is no longer than it can be, or the end is known to fit. -/
theorem guarded_slice (hidx : idx < 0x10000000000000000) (hlen : len < 0x10000000000000000)
    (hfit : data.length < 0x10000000000000000 ∨ idx + len < 0x10000000000000000) :
    Guarded data (idx + len) (some ((data.drop idx).take len)) (slice data idx len) where
  inside hin := ⟨_, rfl, by rw [slice_eq (by omega), if_neg (Nat.not_lt.2 hin)]⟩
  outside hout := failsAt_require hidx hlen hout fun hcut => if_neg fun hspan => Nat.not_le.2 hcut hspan.1

/-- The byte at a position. -/
theorem guarded_byte (hidx : idx < 0x10000000000000000) : Guarded data (idx + 1) data[idx]? (byte data idx) where
  inside hin := ⟨_, List.getElem?_eq_getElem hin, byte_of_getElem? (List.getElem?_eq_getElem hin)⟩
  outside hout := failsAt_require hidx (by decide) hout fun _ => by
    rw [fetch, List.getElem?_eq_none (Nat.le_of_lt_succ hout)]

/-- Where the bytes end that the length byte at a position announces: behind that byte, if it is not there itself. -/
def announcedEnd (data : Bytes) (idx : Nat) : Nat := idx + 1 + (data[idx]?.map UInt8.toNat).getD 0

theorem announcedEnd_of_none (h : data[idx]? = none) : announcedEnd data idx = idx + 1 := by
  rw [announcedEnd, h]
  rfl

theorem announcedEnd_of_some {count : UInt8} (h : data[idx]? = some count) :
    announcedEnd data idx = idx + 1 + count.toNat := by
  rw [announcedEnd, h]
  rfl

/-- A length byte announces less than 256 bytes. -/
theorem announcedEnd_le (data : Bytes) (idx : Nat) : announcedEnd data idx ≤ idx + 0x100 := by
  cases hcount : data[idx]? with
  | none =>
    rw [announcedEnd_of_none hcount]
    omega
  | some count =>
    have hlt := UInt8.toNat_lt count
    rw [announcedEnd_of_some hcount]
    omega

/-- The bytes behind a length byte, and the position behind them. -/
theorem guarded_lengthPrefixed (hidx : idx < 0x10000000000000000)
    (hfit : data.length < 0x10000000000000000 ∨ idx + 0x100 < 0x10000000000000000) :
    Guarded data (announcedEnd data idx)
      (data[idx]?.map fun count => ((data.drop (idx + 1)).take count.toNat, idx + 1 + count.toNat))
      (lengthPrefixed data idx) := by
  cases hcount : data[idx]? with
  | none =>
    -- the length byte is what is missing
    have hout : data.length < idx + 1 := Nat.lt_succ_of_le (List.getElem?_eq_none_iff.1 hcount)
    rw [announcedEnd_of_none hcount]
    refine ⟨fun hin => absurd hout (Nat.not_lt.2 hin), fun _ => ?_⟩
    obtain ⟨fault, hfails, hbyte⟩ := (guarded_byte hidx).outside hout
    exact ⟨fault, hfails, by rw [lengthPrefixed, hbyte]; rfl⟩
  | some count =>
    have hin : idx < data.length := (List.getElem?_eq_some_iff.1 hcount).1
    have hlt := UInt8.toNat_lt count
    have hslice : Guarded data (idx + 1 + count.toNat) _ (slice data (idx + 1) count.toNat) :=
      guarded_slice (by omega) (by omega) (by omega)
    have hread : lengthPrefixed data idx =
        slice data (idx + 1) count.toNat >>= fun part => .ok (part, sum64 (idx + 1) count.toNat) := by
      rw [lengthPrefixed, byte_of_getElem? hcount, sum64_eq (show idx + 1 < _ by omega)]
      rfl
    rw [announcedEnd_of_some hcount, hread]
    refine ⟨fun hend => ?_, fun hout => ?_⟩
    · obtain ⟨part, hpart, hslice⟩ := hslice.inside hend
      obtain rfl := Option.some.inj hpart
      exact ⟨_, rfl, by rw [hslice, sum64_eq (by omega)]; rfl⟩
    · obtain ⟨fault, hfails, hslice⟩ := hslice.outside hout
      exact ⟨fault, hfails, by rw [hslice]; rfl⟩

/-- The length byte and all the bytes that it announces lie inside the data. -/
theorem lengthPrefixed_eq_ok_iff (hidx : idx < 0x10000000000000000)
    (hfit : data.length < 0x10000000000000000 ∨ idx + 0x100 < 0x10000000000000000) :
    lengthPrefixed data idx = .ok (part, next) ↔
      ∃ count : UInt8, data[idx]? = some count ∧ idx + 1 + count.toNat ≤ data.length ∧
        part = (data.drop (idx + 1)).take count.toNat ∧ next = idx + 1 + count.toNat := by
  rw [(guarded_lengthPrefixed hidx hfit).eq_ok_iff, Option.map_eq_some_iff]
  constructor
  · rintro ⟨hend, count, hcount, hpair⟩
    rw [announcedEnd_of_some hcount] at hend
    obtain ⟨rfl, rfl⟩ := Prod.mk.inj hpair
    exact ⟨count, hcount, hend, rfl, rfl⟩
  · rintro ⟨count, hcount, hend, rfl, rfl⟩
    rw [announcedEnd_of_some hcount]
    exact ⟨hend, count, hcount, rfl⟩

/-! ## Ends that fit -/

/-- A guarded byte is refused where the data ends in front of it. -/
theorem fault_byte (hfit : idx + 1 < 0x10000000000000000) (h : byte data idx = .error fault) :
    data.length < idx + 1 ∧ fault = .invalidLength (idx + 1) data.length :=
  ((guarded_byte (by omega)).eq_error_iff.1 h).of_fit hfit

/-- Guarded bytes are refused where the data ends in front of their end. -/
theorem fault_slice (hfit : idx + len < 0x10000000000000000) (h : slice data idx len = .error fault) :
    data.length < idx + len ∧ fault = .invalidLength (idx + len) data.length :=
  ((guarded_slice (by omega) (by omega) (Or.inr hfit)).eq_error_iff.1 h).of_fit hfit

/-- Bytes behind their length byte are refused where the data ends in front of their end. -/
theorem fault_lengthPrefixed (hidx : idx < 0x100000000) (h : lengthPrefixed data idx = .error fault) :
    data.length < announcedEnd data idx ∧ fault = .invalidLength (announcedEnd data idx) data.length := by
  have hle := announcedEnd_le data idx
  exact ((guarded_lengthPrefixed (by omega) (by omega)).eq_error_iff.1 h).of_fit (by omega)

/-- The bytes that were read are the first of those from their position on. -/
theorem drop_of_slice (hfit : idx + len < 0x10000000000000000) (h : slice data idx len = .ok part) :
    part.length = len ∧ data.drop idx = part ++ data.drop (idx + len) := by
  obtain ⟨hin, hpart⟩ := (guarded_slice (by omega) (by omega) (Or.inr hfit)).eq_ok_iff.1 h
  obtain rfl := Option.some.inj hpart
  rw [← List.drop_drop, List.take_append_drop, List.length_take, List.length_drop]
  exact ⟨by omega, rfl⟩

/-- The length byte that was read, the bytes it announces, and the position behind them. -/
theorem drop_of_lengthPrefixed (hidx : idx < 0x100000000) (h : lengthPrefixed data idx = .ok (part, next)) :
    ∃ count : UInt8, count.toNat = part.length ∧ next = idx + 1 + part.length ∧
      data.drop idx = count :: (part ++ data.drop next) := by
  obtain ⟨count, hcount, hend, rfl, rfl⟩ := (lengthPrefixed_eq_ok_iff (by omega) (by omega)).1 h
  have hlength : ((data.drop (idx + 1)).take count.toNat).length = count.toNat := by
    rw [List.length_take, List.length_drop]
    omega
  refine ⟨count, hlength.symm, by rw [hlength], ?_⟩
  rw [← List.drop_drop (i := count.toNat) (j := idx + 1), List.take_append_drop]
  exact drop_of_byte (byte_of_getElem? hcount)

/-- A part behind its length byte, and the position after it. -/
theorem lengthPrefixed_append (front : Bytes) {count : UInt8} (rest : Bytes) (hfront : front.length < 0x100000000)
    (hcount : count.toNat = part.length) :
    lengthPrefixed (front ++ count :: (part ++ rest)) front.length = .ok (part, front.length + 1 + part.length) := by
  have hdrop : (front ++ count :: (part ++ rest)).drop (front.length + 1) = part ++ rest := by
    rw [← List.drop_drop, List.drop_left, List.drop_succ_cons, List.drop_zero]
  refine (lengthPrefixed_eq_ok_iff (by omega) (by omega)).2 ⟨count, by simp, ?_, ?_, by rw [hcount]⟩
  · rw [List.length_append, List.length_cons, List.length_append]
    omega
  · rw [hdrop, hcount, List.take_left]

/-! ## Ends of any size -/

/-- How the accessors end, at every position and for every length of 64 bits, in data whose own length is one of 64 bits. Bytes are
answered exactly if all of them lie inside the data, and then it is these bytes: those from a position on, the one at a position,
or those that a length byte announces, with the position behind them. Everything else fails. The fault names the end of the access
and the length of the data exactly if the end fits into 64 bits. If it does not, the guard asks for what is left of it: either the
fault names that, or the access falls outside the data. -/
theorem accessors_guarded (data : Bytes) (hdata : data.length < 0x10000000000000000) (idx len : UInt64) :
    (∀ part, slice data idx.toNat len.toNat = .ok part ↔
      idx.toNat + len.toNat ≤ data.length ∧ part = (data.drop idx.toNat).take len.toNat) ∧
    (∀ fault, slice data idx.toNat len.toNat = .error fault ↔ FailsAt data (idx.toNat + len.toNat) fault) ∧
    (∀ value, byte data idx.toNat = .ok value ↔ ∃ h : idx.toNat < data.length, data[idx.toNat] = value) ∧
    (∀ fault, byte data idx.toNat = .error fault ↔ FailsAt data (idx.toNat + 1) fault) ∧
    (∀ part next, lengthPrefixed data idx.toNat = .ok (part, next) ↔
      ∃ count : UInt8, data[idx.toNat]? = some count ∧ idx.toNat + 1 + count.toNat ≤ data.length ∧
        part = (data.drop (idx.toNat + 1)).take count.toNat ∧ next = idx.toNat + 1 + count.toNat) ∧
    (∀ fault, lengthPrefixed data idx.toNat = .error fault ↔ FailsAt data (announcedEnd data idx.toNat) fault) ∧
    ∀ stop fault, FailsAt data stop fault →
      (fault = .invalidLength stop data.length ↔ stop < 0x10000000000000000) := by
  have hidx := idx.toNat_lt
  have hslice := guarded_slice hidx len.toNat_lt (Or.inl hdata)
  refine ⟨fun part => ?_, fun fault => hslice.eq_error_iff, fun value => ?_, fun fault => (guarded_byte hidx).eq_error_iff,
    fun part next => lengthPrefixed_eq_ok_iff hidx (Or.inl hdata),
    fun fault => (guarded_lengthPrefixed hidx (Or.inl hdata)).eq_error_iff, fun stop fault => FailsAt.eq_invalidLength_iff⟩
  · rw [hslice.eq_ok_iff, Option.some.injEq, eq_comm (a := part)]
  · rw [← List.getElem?_eq_some_iff]
    exact ⟨getElem?_of_byte, byte_of_getElem?⟩

/-- Five bytes of which the second announces the two behind it. Bytes behind the first one that end right behind the last position
there is are let through. -/
theorem accessors_guarded_five :
    let data : Bytes := [0xAA, 0x02, 0x10, 0x20, 0x30]
    data.length < 0x10000000000000000 ∧ slice data 1 0xFFFFFFFFFFFFFFFF = .error .outOfRange ∧ byte data 1 = .ok 0x02 ∧
      lengthPrefixed data 1 = .ok ([0x10, 0x20], 4) ∧ slice data 4 2 = .error (.invalidLength 6 5) := by
  intro data
  have hdata : data.length < 0x10000000000000000 := by decide
  obtain ⟨-, hslice, hbyte, -, hprefixed, -⟩ := accessors_guarded data hdata 1 0xFFFFFFFFFFFFFFFF
  obtain ⟨-, hshort, -⟩ := accessors_guarded data hdata 4 2
  exact ⟨hdata, (hslice _).2 (.overlooked (by decide) (by decide) (by decide)), (hbyte _).2 ⟨by decide, rfl⟩,
    (hprefixed _ _).2 ⟨0x02, rfl, by decide, rfl, rfl⟩, (hshort _).2 (.short (by decide) (by decide))⟩

/-- That whatever lies outside the data is refused for its length is false of every accessor: an end that does not fit may pass
the guard. -/
theorem outside_refused_false :
    (¬∀ (data : Bytes) (idx len : UInt64), data.length < idx.toNat + len.toNat →
      ∃ min, slice data idx.toNat len.toNat = .error (.invalidLength min data.length)) ∧
    (¬∀ (data : Bytes) (idx : UInt64), data.length ≤ idx.toNat →
      ∃ min, byte data idx.toNat = .error (.invalidLength min data.length)) ∧
    ¬∀ (data : Bytes) (idx : UInt64), data.length ≤ idx.toNat →
      ∃ min, lengthPrefixed data idx.toNat = .error (.invalidLength min data.length) := by
  refine ⟨fun h => ?_, fun h => ?_, fun h => ?_⟩
  · have hpassed : slice [1, 2, 3] 2 0xFFFFFFFFFFFFFFFE = .error .outOfRange := rfl
    obtain ⟨min, hmin⟩ := h [1, 2, 3] 2 0xFFFFFFFFFFFFFFFE (by decide)
    nomatch hpassed.symm.trans hmin
  · have hpassed : byte [1, 2, 3] 0xFFFFFFFFFFFFFFFF = .error .outOfRange := rfl
    obtain ⟨min, hmin⟩ := h [1, 2, 3] 0xFFFFFFFFFFFFFFFF (by decide)
    nomatch hpassed.symm.trans hmin
  · have hpassed : lengthPrefixed [1, 2, 3] 0xFFFFFFFFFFFFFFFF = .error .outOfRange := rfl
    obtain ⟨min, hmin⟩ := h [1, 2, 3] 0xFFFFFFFFFFFFFFFF (by decide)
    nomatch hpassed.symm.trans hmin

end NfcHost.Bytes
