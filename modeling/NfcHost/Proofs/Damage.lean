import NfcHost.Proofs.Wire

/-!
# Damaged frames

A byte string that differs from a frame at one position (`Bytes.AltersAt`), or breaks off before its end, or goes on behind it,
is never read as a frame (`Frame.damaged_refused`). Every part of a frame is guarded by a check of its own: the start code
and the postamble are compared with what they have to be, the length byte and the byte that closes it guard each other, and
the last sum guards the marker, the body and itself. An altered byte lies in one of these parts and leaves the others as they
were, so the head still says where the next check stands, unless its own check has failed before.
-/

namespace NfcHost

/-! ## Strings that differ at one position -/

namespace Bytes

/-- Another byte was received at position `i`, and everything else as it was sent. -/
structure AltersAt (i : Nat) (sent received : Bytes) : Prop where
  length : received.length = sent.length
  there : received[i]? ≠ sent[i]?
  elsewhere : ∀ j, j ≠ i → received[j]? = sent[j]?

namespace AltersAt

variable {i n : Nat} {sent received front rest : Bytes}

/-- There is a byte at the position. -/
theorem lt_length (h : AltersAt i sent received) : i < sent.length := by
  refine Nat.lt_of_not_le fun hle => h.there ?_
  rw [List.getElem?_eq_none hle, List.getElem?_eq_none (by rw [h.length]; exact hle)]

/-- What stands before the position is as it was sent. -/
theorem take_eq (h : AltersAt i sent received) (hn : n ≤ i) : received.take n = sent.take n := by
  refine List.ext_getElem? fun j => ?_
  rw [List.getElem?_take, List.getElem?_take]
  split
  · exact h.elsewhere j (by omega)
  · rfl

/-- So is what stands behind it. -/
theorem drop_eq (h : AltersAt i sent received) (hn : i < n) : received.drop n = sent.drop n := by
  refine List.ext_getElem? fun j => ?_
  rw [List.getElem?_drop, List.getElem?_drop]
  exact h.elsewhere _ (by omega)

/-- A part that reaches over the position is altered there. -/
theorem take (h : AltersAt i sent received) (hn : i < n) : AltersAt i (sent.take n) (received.take n) := by
  refine ⟨?_, ?_, fun j hj => ?_⟩
  · rw [List.length_take, List.length_take, h.length]
  · rw [List.getElem?_take_of_lt hn, List.getElem?_take_of_lt hn]
    exact h.there
  · rw [List.getElem?_take, List.getElem?_take, h.elsewhere j hj]

/-- A part that begins before the position is altered there, counted from its beginning. -/
theorem drop (h : AltersAt i sent received) (hn : n ≤ i) : AltersAt (i - n) (sent.drop n) (received.drop n) := by
  refine ⟨?_, ?_, fun j hj => ?_⟩
  · rw [List.length_drop, List.length_drop, h.length]
  · rw [List.getElem?_drop, List.getElem?_drop, Nat.add_sub_cancel' hn]
    exact h.there
  · rw [List.getElem?_drop, List.getElem?_drop]
    exact h.elsewhere _ (by omega)

/-- One byte stands for another between what is the same before it and behind it. -/
theorem split (h : AltersAt i sent received) :
    ∃ before b c after, sent = before ++ b :: after ∧ received = before ++ c :: after ∧ c ≠ b := by
  have hi := h.lt_length
  have hi' : i < received.length := h.length ▸ hi
  refine ⟨sent.take i, sent[i], received[i], sent.drop (i + 1), ?_, ?_, fun heq => h.there ?_⟩
  · rw [List.getElem_cons_drop, List.take_append_drop]
  · rw [← h.take_eq (Nat.le_refl i), ← h.drop_eq (Nat.lt_succ_self i), List.getElem_cons_drop, List.take_append_drop]
  · rw [List.getElem?_eq_getElem hi, List.getElem?_eq_getElem hi', heq]

/-- The position lies in the front of a string or in the rest of it, and the other one is left as it was. -/
theorem append (h : AltersAt i (front ++ rest) received) :
    (∃ front', received = front' ++ rest ∧ i < front.length ∧ AltersAt i front front') ∨
      ∃ rest', received = front ++ rest' ∧ front.length ≤ i ∧ AltersAt (i - front.length) rest rest' := by
  have hparts := (List.take_append_drop front.length received).symm
  by_cases hi : i < front.length
  · have hfront := h.take hi
    rw [h.drop_eq hi, List.drop_left] at hparts
    rw [List.take_left] at hfront
    exact Or.inl ⟨_, hparts, hi, hfront⟩
  · have hi := Nat.le_of_not_lt hi
    have hrest := h.drop hi
    rw [h.take_eq hi, List.take_left] at hparts
    rw [List.drop_left] at hrest
    exact Or.inr ⟨_, hparts, hi, hrest⟩

/-- The position is that of the first byte, or lies behind it. -/
theorem cons {b : UInt8} (h : AltersAt i (b :: rest) received) :
    (∃ c, received = c :: rest ∧ i = 0 ∧ c ≠ b) ∨
      ∃ rest', received = b :: rest' ∧ 1 ≤ i ∧ AltersAt (i - 1) rest rest' := by
  have hfirst : AltersAt i ([b] ++ rest) received := h
  obtain ⟨front, rfl, hi, hfront⟩ | ⟨rest', rfl, hi, hrest⟩ := hfirst.append
  · obtain ⟨c, rfl⟩ := List.length_eq_one_iff.1 hfront.length
    obtain rfl : i = 0 := Nat.lt_one_iff.1 hi
    exact Or.inl ⟨c, rfl, rfl, fun heq => hfront.there (congrArg some heq)⟩
  · exact Or.inr ⟨rest', rfl, hi, hrest⟩

end AltersAt

end Bytes

/-! ## Sums that differ -/

namespace Checksum

theorem ofLength_injective {len len' : UInt8} (h : ofLength len = ofLength len') : len = len' :=
  (UInt8.sub_right_inj 0).1 h

/-- A byte of a body is a summand. -/
theorem total_around (start b : UInt8) (before after : Bytes) :
    total start (before ++ b :: after) = total (total start before) after + b := by
  rw [← total_add, total, List.foldl_append, List.foldl_cons]
  rfl

/-- Another marker has another sum. -/
theorem ofData_marker {marker marker' : UInt8} (h : marker' ≠ marker) (body : Bytes) :
    ofData marker' body ≠ ofData marker body := by
  have hsum (m : UInt8) : total m body = total 0 body + m := by rw [← total_add, UInt8.zero_add]
  intro heq
  have htotal := (UInt8.sub_right_inj 0).1 heq
  rw [hsum marker', hsum marker] at htotal
  exact h ((UInt8.add_right_inj _).1 htotal)

/-- A body with another byte at one position has another sum. -/
theorem ofData_altered {i : Nat} {body body' : Bytes} (h : Bytes.AltersAt i body body') (marker : UInt8) :
    ofData marker body' ≠ ofData marker body := by
  obtain ⟨before, b, c, after, rfl, rfl, hne⟩ := h.split
  intro heq
  have htotal := (UInt8.sub_right_inj 0).1 heq
  rw [total_around, total_around] at htotal
  exact hne ((UInt8.add_right_inj _).1 htotal)

end Checksum

namespace Frame

/-! ## Refusals -/

section Refusals

variable {head : Head}

/-- Any other start code is refused. -/
theorem decode_of_start (hthree : head.start.length = 3) (hstart : head.start ≠ startCode) (rest : Bytes) :
    decode (head.bytes ++ rest) = .error (.frameFormat "invalid preamble") := by
  have hrefused : head.startOk = false := beq_eq_false_iff_ne.2 hstart
  simp [decode_head hthree, hrefused]

variable (hstart : head.start = startCode)
include hstart

theorem Head.length_start : head.start.length = 3 := by
  rw [hstart]
  rfl

theorem Head.startOk_of_eq : head.startOk = true := beq_iff_eq.2 hstart

/-- A length byte and its check that do not close are refused. -/
theorem decode_of_length (hcheck : head.check ≠ Checksum.ofLength head.len) (rest : Bytes) :
    decode (head.bytes ++ rest) = .error (.checksumMismatch (Checksum.ofLength head.len) head.check) := by
  have hrefused : head.lengthOk = false := by
    rw [← Bool.not_eq_true, Head.lengthOk, Checksum.closesLength_iff]
    exact hcheck
  simp [decode_head (Head.length_start hstart), Head.startOk_of_eq hstart, hrefused]

variable (hcheck : head.check = Checksum.ofLength head.len)
include hcheck

/-- Behind a head that can be trusted stand a body of the length announced and two bytes more, or nothing is read. -/
theorem decode_of_misfit {n : Nat} {rest : Bytes} (hn : head.bodyLength = .ok n) (hrest : rest.length ≠ n + 2) :
    decode (head.bytes ++ rest) = .error (.invalidLength (headLength + n + 2) (headLength + rest.length)) := by
  have hclosed : head.lengthOk = true := (Checksum.closesLength_iff _ _).2 hcheck
  simp [decode_head (Head.length_start hstart), Head.startOk_of_eq hstart, hclosed, hn, hrest, bind, Except.bind]

variable {body : Bytes} (hn : head.bodyLength = .ok body.length)
include hn

/-- A sum that does not close is refused. -/
theorem decode_of_sum {check : UInt8} (hsum : check ≠ Checksum.ofData head.marker body) (last : UInt8) :
    decode (head.bytes ++ (body ++ [check, last])) =
      .error (.checksumMismatch (Checksum.ofData head.marker body) check) := by
  have hclosed : head.lengthOk = true := (Checksum.closesLength_iff _ _).2 hcheck
  have hrefused : Checksum.closesData head.marker body check = false := by
    rw [← Bool.not_eq_true, Checksum.closesData_iff]
    exact hsum
  simp [decode_fitting (Head.length_start hstart) (Head.startOk_of_eq hstart) hclosed hn, hrefused]

/-- Any other last byte is refused. -/
theorem decode_of_postamble {last : UInt8} (hlast : last ≠ postamble) :
    decode (head.bytes ++ (body ++ [Checksum.ofData head.marker body, last])) =
      .error (.frameFormat "invalid postamble") := by
  have hclosed : head.lengthOk = true := (Checksum.closesLength_iff _ _).2 hcheck
  simp [decode_fitting (Head.length_start hstart) (Head.startOk_of_eq hstart) hclosed hn, hlast]

end Refusals

/-! ## What is made of a damaged frame -/

/-- The faults of the check that guards position `i` of a frame of `n` bytes. -/
inductive Guarding (n i : Nat) : Fault → Prop where
  | start : i < 3 → Guarding n i (.frameFormat "invalid preamble")
  | sums (expected actual : UInt8) : 3 ≤ i → i + 1 < n → Guarding n i (.checksumMismatch expected actual)
  | postamble : i + 1 = n → Guarding n i (.frameFormat "invalid postamble")

/-- They all are violations of the protocol. -/
theorem Guarding.isProtocolViolation {n i : Nat} {fault : Fault} (h : Guarding n i fault) :
    fault.isProtocolViolation = true := by
  cases h <;> rfl

section Damaged

variable {frame : Frame} (h : frame.body.length ≤ maxBody)
include h

/-- A frame with one byte altered is refused by the check that guards the byte. -/
theorem decode_altered {i : Nat} {received : Bytes} (halters : Bytes.AltersAt i frame.wire received) :
    ∃ fault, decode received = .error fault ∧ Guarding frame.wire.length i fault := by
  have hn := bodyLength_head h
  have hlaid (start : Bytes) (len check marker : UInt8) (rest : Bytes) :
      start ++ len :: check :: marker :: rest = Head.bytes ⟨start, len, check, marker⟩ ++ rest := by
    simp [Head.bytes]
  have hwire : frame.wire = startCode ++ frame.lengthByte :: Checksum.ofLength frame.lengthByte :: frame.marker ::
      (frame.body ++ [Checksum.ofData frame.marker frame.body, postamble]) := by
    rw [wire, List.append_assoc, hlaid]
    rfl
  have hthree : startCode.length = 3 := rfl
  rw [show frame.wire.length = 3 + 3 + frame.body.length + 2 from length_wire frame]
  rw [hwire] at halters
  -- the parts of the frame, from the front to the end
  obtain ⟨start, rfl, hi, hstart⟩ | ⟨_, rfl, hi, halters⟩ := halters.append
  · have hother : start ≠ startCode := fun heq => hstart.there (by rw [heq])
    rw [hlaid]
    exact ⟨_, decode_of_start hstart.length hother _, .start hi⟩
  obtain ⟨len, rfl, hi, hlen⟩ | ⟨_, rfl, hi, halters⟩ := halters.cons
  · have hother : Checksum.ofLength frame.lengthByte ≠ Checksum.ofLength len :=
      fun heq => hlen (Checksum.ofLength_injective heq).symm
    rw [hlaid]
    exact ⟨_, decode_of_length rfl hother _, .sums _ _ (by omega) (by omega)⟩
  obtain ⟨check, rfl, hi, hcheck⟩ | ⟨_, rfl, hi, halters⟩ := halters.cons
  · rw [hlaid]
    exact ⟨_, decode_of_length rfl hcheck _, .sums _ _ (by omega) (by omega)⟩
  obtain ⟨marker, rfl, hi, hmarker⟩ | ⟨_, rfl, hi, halters⟩ := halters.cons
  · have hother := Checksum.ofData_marker hmarker frame.body
    have hn : Head.bodyLength ⟨startCode, frame.lengthByte, Checksum.ofLength frame.lengthByte, marker⟩ = _ := hn
    rw [hlaid]
    exact ⟨_, decode_of_sum rfl rfl hn hother.symm _, .sums _ _ (by omega) (by omega)⟩
  obtain ⟨body, rfl, hi, hbody⟩ | ⟨_, rfl, hi, halters⟩ := halters.append
  · have hother := Checksum.ofData_altered hbody frame.marker
    have hn : frame.head.bodyLength = .ok body.length := by rw [hbody.length, hn]
    rw [hlaid]
    exact ⟨_, decode_of_sum rfl rfl hn hother.symm _, .sums _ _ (by omega) (by omega)⟩
  obtain ⟨sum, rfl, hi, hsum⟩ | ⟨_, rfl, hi, halters⟩ := halters.cons
  · rw [hlaid]
    exact ⟨_, decode_of_sum rfl rfl hn hsum _, .sums _ _ (by omega) (by omega)⟩
  obtain ⟨last, rfl, hi, hlast⟩ | ⟨_, rfl, hi, halters⟩ := halters.cons
  · rw [hlaid]
    exact ⟨_, decode_of_postamble rfl rfl hn hlast, .postamble (by omega)⟩
  exact absurd halters.lt_length (Nat.not_lt_zero _)

/-- What begins with the head of a frame and is not as long as the frame is refused for its length. -/
theorem decode_headed {received : Bytes} (hhead : received.take headLength = frame.head.bytes)
    (hlength : received.length ≠ frame.wire.length) :
    decode received = .error (.invalidLength frame.wire.length received.length) := by
  have hparts := (List.take_append_drop headLength received).symm
  have hdrop : (received.drop headLength).length = received.length - headLength := List.length_drop
  have htake := congrArg List.length hhead
  rw [List.length_take, length_head_bytes] at htake
  rw [hhead] at hparts
  rw [length_wire] at hlength ⊢
  have hrefused := decode_of_misfit rfl rfl (bodyLength_head h) (show (received.drop headLength).length ≠ _ by omega)
  rw [← hparts, show headLength + (received.drop headLength).length = received.length by omega] at hrefused
  exact hrefused

/-- A frame that breaks off is refused for its length: as a head that is too short, or else as a frame. -/
theorem decode_prefix {received : Bytes} (hpart : received <+: frame.wire) (hne : received ≠ frame.wire) :
    decode received =
      .error (.invalidLength (if received.length < headLength then headLength else frame.wire.length) received.length) := by
  split
  · rename_i hshort
    exact if_pos hshort
  · rename_i hlong
    obtain ⟨missing, hmissing⟩ := hpart
    refine decode_headed h ?_ fun heq => hne (List.IsPrefix.eq_of_length ⟨missing, hmissing⟩ heq)
    rw [← List.take_append_of_le_length (Nat.le_of_not_lt hlong), hmissing, take_head_wire]

/-- A frame that goes on is refused for its length. -/
theorem decode_extension {received : Bytes} (hpart : frame.wire <+: received) (hne : received ≠ frame.wire) :
    decode received = .error (.invalidLength frame.wire.length received.length) := by
  refine decode_headed h ?_ fun heq => hne (hpart.eq_of_length heq.symm).symm
  obtain ⟨extra, rfl⟩ := hpart
  rw [List.take_append_of_le_length (by rw [length_wire]; omega), take_head_wire]

end Damaged

/-- A frame that is damaged on its way is refused. Where one byte is altered, at whatever position and to whatever value, the
check that guards the byte finds a violation of the protocol: a wrong start code or postamble, or a sum that does not close.
Where bytes are missing at the end, or more follow, it is the length that is refused. -/
theorem damaged_refused (frame : Frame) (h : frame.body.length ≤ 254) :
    ∃ bytes, frame.encode = .ok bytes ∧
      (∀ i received, Bytes.AltersAt i bytes received →
        ∃ fault, decode received = .error fault ∧ Guarding bytes.length i fault ∧ fault.isProtocolViolation = true) ∧
      (∀ received, received <+: bytes → received ≠ bytes →
        decode received = .error (.invalidLength (if received.length < 6 then 6 else bytes.length) received.length)) ∧
      (∀ received, bytes <+: received → received ≠ bytes →
        decode received = .error (.invalidLength bytes.length received.length)) := by
  refine ⟨frame.wire, encode_eq_wire h, fun i received halters => ?_, fun _ => decode_prefix h, fun _ => decode_extension h⟩
  obtain ⟨fault, hdecode, hguarding⟩ := decode_altered h halters
  exact ⟨fault, hdecode, hguarding, hguarding.isProtocolViolation⟩

/-- A reply whose length byte announces one byte less than there is. -/
theorem damaged_refused_length :
    let sent : Bytes := [0x00, 0x00, 0xFF, 0x03, 0xFD, 0xD5, 0x4B, 0x00, 0xE0, 0x00]
    let received : Bytes := [0x00, 0x00, 0xFF, 0x02, 0xFD, 0xD5, 0x4B, 0x00, 0xE0, 0x00]
    (reply [0x4B, 0x00]).body.length ≤ 254 ∧ (reply [0x4B, 0x00]).encode = .ok sent ∧ Bytes.AltersAt 3 sent received ∧
      ∃ fault, decode received = .error fault ∧ Guarding sent.length 3 fault ∧ fault.isProtocolViolation = true := by
  intro sent received
  have hfits : (reply [0x4B, 0x00]).body.length ≤ 254 := by decide
  have hsent : (reply [0x4B, 0x00]).encode = .ok sent := rfl
  have halters : Bytes.AltersAt 3 sent received := by
    refine ⟨rfl, by decide, fun j hj => ?_⟩
    match j, hj with
    | 0, _ | 1, _ | 2, _ => rfl
    | j + 4, _ => rfl
  obtain ⟨bytes, hencode, haltered, -⟩ := damaged_refused (reply [0x4B, 0x00]) hfits
  obtain rfl := Except.ok.inj (hsent.symm.trans hencode)
  exact ⟨hfits, hsent, halters, haltered 3 received halters⟩

end Frame

end NfcHost
