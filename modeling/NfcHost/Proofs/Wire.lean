import NfcHost.Channel.Memory
import NfcHost.Link

/-!
# Frames on the wire

Statements about checksums and about `Frame.wire`, the bytes a frame is written as: a byte closes a checksum exactly when it
is the one the checksum computes, `encode` answers the bytes of every frame whose body fits, and `decode` reads a frame from
its bytes and from no others, so that the two are inverse to each other. A frame is found behind any run of zeros; an
acknowledgement holds none.
-/

namespace NfcHost

/-! ## Reading a computation backwards -/

/-- A computation that goes on to a value went on from a value. -/
theorem ok_of_bind {ε α β : Type} {r : Except ε α} {f : α → Except ε β} {v : β} (h : r >>= f = .ok v) :
    ∃ w, r = .ok w ∧ f w = .ok v := by
  cases r with
  | error fault => nomatch h
  | ok w => exact ⟨w, rfl, h⟩

/-- A computation that goes on to a fault failed, or went on from a value. -/
theorem error_of_bind {α β : Type} {r : Except Fault α} {f : α → Except Fault β} {fault : Fault}
    (h : r >>= f = .error fault) : r = .error fault ∨ ∃ w, r = .ok w ∧ f w = .error fault := by
  cases r with
  | error first => exact Or.inl (congrArg Except.error (Except.error.inj h))
  | ok w => exact Or.inr ⟨w, rfl, h⟩

/-- Computations that go on alike from every value end alike. -/
theorem bind_eq_bind {α β : Type} {r : Except Fault α} {f g : α → Except Fault β} (h : ∀ v, r = .ok v → f v = g v) :
    r >>= f = r >>= g := by
  cases r with
  | error fault => rfl
  | ok v => exact h v rfl

/-- A computation that goes on to a value passed its guard. -/
theorem ok_of_guard {ε α : Type} {c : Prop} [Decidable c] {fault : ε} {r : Except ε α} {v : α}
    (h : (if c then .error fault else r) = .ok v) : ¬c ∧ r = .ok v := by
  split at h
  · nomatch h
  · rename_i hc
    exact ⟨hc, h⟩

/-! ## Accesses -/

/-- An unguarded access fails outside the data only. -/
theorem Bytes.fault_fetch {data : Bytes} {i : Nat} {fault : Fault} (h : Bytes.fetch data i = .error fault) :
    fault = .outOfRange ∧ data.length ≤ i := by
  unfold Bytes.fetch at h
  split at h
  · nomatch h
  · rename_i hi
    exact ⟨(Except.error.inj h).symm, List.getElem?_eq_none_iff.1 hi⟩

/-- A byte that is fetched is the first of those from its position on. -/
theorem Bytes.drop_of_fetch {data : Bytes} {i : Nat} {b : UInt8} (h : Bytes.fetch data i = .ok b) :
    data.drop i = b :: data.drop (i + 1) := by
  unfold Bytes.fetch at h
  split at h
  · rename_i v hv
    obtain ⟨hi, hget⟩ := List.getElem?_eq_some_iff.1 hv
    rw [List.drop_eq_getElem_cons hi, hget, Except.ok.inj h]
  · nomatch h

/-- A span that is answered lies inside the data. -/
theorem Bytes.eq_of_span {data span : Bytes} {start stop : Nat} (h : Bytes.span data start stop = .ok span) :
    start ≤ stop ∧ stop ≤ data.length ∧ span = (data.take stop).drop start := by
  unfold Bytes.span at h
  split at h
  · rename_i hin
    exact ⟨hin.1, hin.2, (Except.ok.inj h).symm⟩
  · nomatch h

/-- All of the data is in the data. -/
theorem Bytes.slice_whole {data : Bytes} {len : Nat} (h : data.length = len) (hlt : len < 0x10000000000000000) :
    Bytes.slice data 0 len = .ok data := by
  have hsum : Bytes.sum64 0 len = len := by
    rw [Bytes.sum64, Nat.zero_add, Nat.mod_eq_of_lt hlt]
  subst h
  simp [Bytes.slice, Bytes.require, Bytes.span, hsum, bind, Except.bind]

/-! ## Checksums -/

namespace Checksum

/-- A length byte is closed by one byte only. -/
theorem closesLength_iff (len check : UInt8) : closesLength len check = true ↔ check = ofLength len := by
  simp only [closesLength, ofLength, beq_iff_eq]
  constructor
  · intro h
    rw [← h, UInt8.add_comm, UInt8.add_sub_cancel]
  · intro h
    rw [h, UInt8.add_comm, UInt8.sub_add_cancel]

/-- What a sum starts from is a summand like the others. -/
theorem total_add (start extra : UInt8) (body : Bytes) : total (start + extra) body = total start body + extra := by
  unfold total
  induction body generalizing start with
  | nil => rfl
  | cons b rest ih =>
    rw [List.foldl_cons, List.foldl_cons, ← ih, UInt8.add_assoc, UInt8.add_comm extra b, ← UInt8.add_assoc]

/-- A marker and a body are closed by one byte only. -/
theorem closesData_iff (marker check : UInt8) (body : Bytes) :
    closesData marker body check = true ↔ check = ofData marker body := by
  rw [closesData, total_add]
  exact closesLength_iff (total marker body) check

/-- The byte computed for a length byte closes it. -/
@[simp] theorem closesLength_ofLength (len : UInt8) : closesLength len (ofLength len) = true := (closesLength_iff _ _).2 rfl

/-- The byte computed for a marker and a body closes them. -/
@[simp] theorem closesData_ofData (marker : UInt8) (body : Bytes) : closesData marker body (ofData marker body) = true :=
  (closesData_iff _ _ _).2 rfl

end Checksum

namespace Frame

/-! ## Faults of reading -/

/-- A head is refused for its length only. -/
theorem Head.fault_parse {bytes : Bytes} {fault : Fault} (h : Head.parse bytes = .error fault) :
    fault = .invalidLength headLength bytes.length := by
  unfold Head.parse at h
  split at h
  · nomatch h
  · exact (Except.error.inj h).symm

/-- A length byte that does not count the marker is refused. -/
theorem Head.fault_bodyLength {head : Head} {fault : Fault} (h : head.bodyLength = .error fault) :
    fault = .invalidLength 1 0 := by
  unfold Head.bodyLength at h
  split at h
  · exact (Except.error.inj h).symm
  · nomatch h

/-! ## The bytes of a frame -/

/-- The length byte: it counts the marker and the body. -/
def lengthByte (frame : Frame) : UInt8 := UInt8.ofNat (frame.body.length + 1)

/-- The head of a frame. -/
def head (frame : Frame) : Head := ⟨startCode, frame.lengthByte, Checksum.ofLength frame.lengthByte, frame.marker⟩

/-- The bytes of a frame in the order of the wire. -/
def wire (frame : Frame) : Bytes :=
  frame.head.bytes ++ frame.body ++ [Checksum.ofData frame.marker frame.body, postamble]

/-- The length byte is exact as long as the body fits. -/
theorem toNat_lengthByte {frame : Frame} (h : frame.body.length ≤ maxBody) :
    frame.lengthByte.toNat = frame.body.length + 1 := by
  have hlt : frame.body.length + 1 < 256 := by unfold maxBody at h; omega
  simp [lengthByte, Nat.mod_eq_of_lt hlt]

/-- A length byte is never zero, since it counts the marker. -/
theorem lengthByte_ne_zero {frame : Frame} (h : frame.body.length ≤ maxBody) : frame.lengthByte ≠ 0 := by
  intro h0
  have := toNat_lengthByte h
  rw [h0] at this
  simp at this

@[simp] theorem length_head_bytes (frame : Frame) : frame.head.bytes.length = headLength := rfl

@[simp] theorem head_marker (frame : Frame) : frame.head.marker = frame.marker := rfl

@[simp] theorem startOk_head (frame : Frame) : frame.head.startOk = true := rfl

@[simp] theorem lengthOk_head (frame : Frame) : frame.head.lengthOk = true := Checksum.closesLength_ofLength _

/-- A head is read back from its bytes. -/
@[simp] theorem parse_head_bytes (frame : Frame) : Head.parse frame.head.bytes = .ok frame.head := rfl

/-- A head says how long the body is. -/
theorem bodyLength_head {frame : Frame} (h : frame.body.length ≤ maxBody) :
    frame.head.bodyLength = .ok frame.body.length := by
  rw [Head.bodyLength, if_neg (show frame.head.len ≠ 0 from lengthByte_ne_zero h)]
  exact congrArg Except.ok (by rw [show frame.head.len = frame.lengthByte from rfl, toNat_lengthByte h]; omega)

/-- A head is read from exactly its bytes. -/
theorem Head.eq_bytes_of_parse {bytes : Bytes} {head : Head} (h : Head.parse bytes = .ok head) : bytes = head.bytes := by
  unfold Head.parse at h
  split at h
  · rw [← Except.ok.inj h]
    rfl
  · nomatch h

/-- A head whose checks close and that announces the length of the frame's body is the head of the frame. -/
theorem Head.eq_head {head : Head} (frame : Frame) (hstart : head.startOk = true) (hlen : head.lengthOk = true)
    (hm : head.marker = frame.marker) (hbody : head.bodyLength = .ok frame.body.length) :
    frame.body.length ≤ maxBody ∧ head = frame.head := by
  obtain ⟨start, len, check, marker⟩ := head
  unfold Head.bodyLength at hbody
  split at hbody
  · nomatch hbody
  · rename_i hpos
    have hcount : len.toNat - 1 = frame.body.length := Except.ok.inj hbody
    have hlt := UInt8.toNat_lt len
    have hne : len.toNat ≠ 0 := fun h => hpos (UInt8.toNat_inj.1 h)
    have hfits : frame.body.length ≤ maxBody := by unfold maxBody; omega
    have hbyte : len = frame.lengthByte := by
      apply UInt8.toNat_inj.1
      rw [toNat_lengthByte hfits]
      omega
    have hstart' : start = startCode := beq_iff_eq.1 hstart
    have hcheck : check = Checksum.ofLength len := (Checksum.closesLength_iff _ _).1 hlen
    refine ⟨hfits, ?_⟩
    rw [hstart', hcheck, hbyte, show marker = frame.marker from hm]
    rfl

/-- The bytes of a frame: the head, the body and two bytes more. -/
theorem length_wire (frame : Frame) : frame.wire.length = headLength + frame.body.length + 2 := by
  simp [wire, Nat.add_assoc]

/-- A frame whose body fits is written as its bytes. -/
theorem encode_eq_wire {frame : Frame} (h : frame.body.length ≤ maxBody) : frame.encode = .ok frame.wire := by
  rw [encode, if_neg (by omega)]
  rfl

/-- A frame is written exactly when its body fits. -/
theorem encode_eq_ok_iff {frame : Frame} {bytes : Bytes} :
    frame.encode = .ok bytes ↔ frame.body.length ≤ maxBody ∧ bytes = frame.wire := by
  constructor
  · intro h
    by_cases hb : frame.body.length ≤ maxBody
    · rw [encode_eq_wire hb] at h
      exact ⟨hb, (Except.ok.inj h).symm⟩
    · rw [encode, if_pos (by omega)] at h
      nomatch h
  · rintro ⟨hb, rfl⟩
    exact encode_eq_wire hb

/-- What the bytes of a frame hold behind the head. -/
theorem drop_head_wire (frame : Frame) :
    frame.wire.drop headLength = frame.body ++ [Checksum.ofData frame.marker frame.body, postamble] := by
  rw [wire, List.append_assoc, List.drop_left' (length_head_bytes frame)]

/-- The bytes of a frame begin with its head. -/
theorem take_head_wire (frame : Frame) : frame.wire.take headLength = frame.head.bytes := by
  rw [wire, List.append_assoc, List.take_left' (length_head_bytes frame)]

/-! ## Reading a frame -/

section Opened

variable {head : Head} (hthree : head.start.length = 3)
include hthree

/-- A head is read back from its bytes. -/
theorem Head.parse_bytes : Head.parse head.bytes = .ok head := by
  obtain ⟨start, len, check, marker⟩ := head
  match start, hthree with
  | [a, b, c], _ => rfl

theorem Head.length_bytes : head.bytes.length = headLength := by
  rw [Head.bytes, List.length_append, hthree]
  rfl

/-- What is made of the bytes behind a head: the head is judged before they are looked at, and positions among them count
from the head on. -/
theorem decode_head (rest : Bytes) :
    decode (head.bytes ++ rest) =
      (if !head.startOk then .error (.frameFormat "invalid preamble")
      else if !head.lengthOk then .error (.checksumMismatch (Checksum.ofLength head.len) head.check)
      else do
        let n ← head.bodyLength
        if rest.length ≠ n + 2 then .error (.invalidLength (headLength + n + 2) (headLength + rest.length))
        else
          let check ← Bytes.fetch rest n
          let last ← Bytes.fetch rest (n + 1)
          if !Checksum.closesData head.marker (rest.take n) check then
            .error (.checksumMismatch (Checksum.ofData head.marker (rest.take n)) check)
          else if last ≠ postamble then .error (.frameFormat "invalid postamble")
          else .ok ⟨head.marker, rest.take n⟩) := by
  have hlen : head.bytes.length = headLength := Head.length_bytes hthree
  have htotal : (head.bytes ++ rest).length = headLength + rest.length := by rw [List.length_append, hlen]
  have htake : (head.bytes ++ rest).take headLength = head.bytes := List.take_left' hlen
  have hdrop : (head.bytes ++ rest).drop headLength = rest := List.drop_left' hlen
  have hfetch (n : Nat) : Bytes.fetch (head.bytes ++ rest) (headLength + n) = Bytes.fetch rest n := by
    rw [Bytes.fetch, ← List.getElem?_drop, hdrop, Bytes.fetch]
  rw [decode, if_neg (by omega), htake, Head.parse_bytes hthree]
  simp only [bind, Except.bind, htotal]
  split
  · rfl
  split
  · rfl
  cases head.bodyLength with
  | error fault => rfl
  | ok n =>
    by_cases hfit : rest.length = n + 2
    · have hspan : Bytes.span (head.bytes ++ rest) headLength (headLength + n) = .ok (rest.take n) := by
        rw [Bytes.span, if_pos (by omega), List.drop_take, hdrop, Nat.add_sub_cancel_left]
      simp [hfit, hspan, hfetch, Nat.add_assoc]
    · have hmisfit : headLength + rest.length ≠ headLength + n + 2 := by omega
      simp [hfit, hmisfit]

/-- Behind a head that can be trusted, a body of the length announced and two bytes more are judged by these two. -/
theorem decode_fitting {body : Bytes} (hstart : head.startOk = true) (hlen : head.lengthOk = true)
    (hn : head.bodyLength = .ok body.length) (check last : UInt8) :
    decode (head.bytes ++ (body ++ [check, last])) =
      if !Checksum.closesData head.marker body check then
        .error (.checksumMismatch (Checksum.ofData head.marker body) check)
      else if last ≠ postamble then .error (.frameFormat "invalid postamble")
      else .ok ⟨head.marker, body⟩ := by
  simp [decode_head hthree, hstart, hlen, hn, Bytes.fetch, bind, Except.bind]

end Opened

/-- A frame whose body fits is read back from its bytes. -/
theorem decode_wire {frame : Frame} (h : frame.body.length ≤ maxBody) : decode frame.wire = .ok frame := by
  rw [wire, List.append_assoc, decode_fitting rfl (startOk_head frame) (lengthOk_head frame) (bodyLength_head h)]
  simp

/-- What is read as a frame is the bytes of that frame, and no others. -/
theorem eq_wire_of_decode {bytes : Bytes} {frame : Frame} (h : decode bytes = .ok frame) :
    frame.body.length ≤ maxBody ∧ bytes = frame.wire := by
  unfold decode at h
  obtain ⟨-, h⟩ := ok_of_guard h
  obtain ⟨head, hparse, h⟩ := ok_of_bind h
  obtain ⟨hstart, h⟩ := ok_of_guard h
  obtain ⟨hclosed, h⟩ := ok_of_guard h
  obtain ⟨n, hn, h⟩ := ok_of_bind h
  obtain ⟨htotal, h⟩ := ok_of_guard h
  obtain ⟨body, hspan, h⟩ := ok_of_bind h
  obtain ⟨check, hcheck, h⟩ := ok_of_bind h
  obtain ⟨last, hlast, h⟩ := ok_of_bind h
  obtain ⟨hcloses, h⟩ := ok_of_guard h
  obtain ⟨hpost, h⟩ := ok_of_guard h
  obtain rfl := Except.ok.inj h
  have hlen : bytes.length = headLength + n + 2 := by simpa using htotal
  have hbody : body = (bytes.drop headLength).take n := by
    rw [(Bytes.eq_of_span hspan).2.2, List.drop_take, Nat.add_sub_cancel_left]
  have hcount : body.length = n := by
    rw [hbody, List.length_take, List.length_drop]
    omega
  -- Behind the body stand exactly two bytes, the ones that were fetched.
  have htail : (bytes.drop headLength).drop n = [check, last] := by
    rw [List.drop_drop, Bytes.drop_of_fetch hcheck, Bytes.drop_of_fetch hlast, List.drop_eq_nil_of_le (by omega)]
  have hhead := Head.eq_bytes_of_parse hparse
  obtain ⟨hfits, heq⟩ := Head.eq_head ⟨head.marker, body⟩ (by simpa using hstart) (by simpa using hclosed) rfl
    (by rw [hn, hcount])
  refine ⟨hfits, ?_⟩
  have hsum : check = Checksum.ofData head.marker body := (Checksum.closesData_iff _ _ _).1 (by simpa using hcloses)
  calc bytes = bytes.take headLength ++ ((bytes.drop headLength).take n ++ (bytes.drop headLength).drop n) := by
        rw [List.take_append_drop, List.take_append_drop]
    _ = head.bytes ++ (body ++ [check, last]) := by rw [hhead, ← hbody, htail]
    _ = Frame.wire ⟨head.marker, body⟩ := by
        rw [heq, hsum, show last = postamble by simpa using hpost, ← List.append_assoc]
        rfl

/-- `encode` and `decode` are inverse to each other between the frames whose body fits and the byte strings that are frames:
every frame whose body fits is written, and only those; what is written is read back as the frame; and what is read as a
frame is what that frame is written as, so no other byte string is read as it. -/
theorem encode_decode_inverse (frame : Frame) :
    ((∃ bytes, frame.encode = .ok bytes) ↔ frame.body.length ≤ 254) ∧
    (∀ bytes, frame.encode = .ok bytes → decode bytes = .ok frame) ∧
    (∀ bytes, decode bytes = .ok frame → frame.body.length ≤ 254 ∧ frame.encode = .ok bytes) := by
  refine ⟨⟨?_, fun hb => ⟨_, encode_eq_wire hb⟩⟩, ?_, ?_⟩
  · rintro ⟨bytes, h⟩
    exact (encode_eq_ok_iff.1 h).1
  · intro bytes h
    obtain ⟨hb, rfl⟩ := encode_eq_ok_iff.1 h
    exact decode_wire hb
  · intro bytes h
    obtain ⟨hb, hw⟩ := eq_wire_of_decode h
    exact ⟨hb, encode_eq_ok_iff.2 ⟨hb, hw⟩⟩

end Frame

/-! ## Finding a frame in a write -/

namespace MemoryChannel

/-- Zeros in front of a start code are skipped. -/
theorem fromStartCode_zeros (n : Nat) (rest : Bytes) :
    fromStartCode (List.replicate n 0 ++ (Frame.startCode ++ rest)) = some (Frame.startCode ++ rest) := by
  induction n with
  | zero => rfl
  | succ n ih =>
    -- The start code needs its third byte, which is a zero as long as one zero more stands in front.
    have hno : Frame.startCode.isPrefixOf (0 :: (List.replicate n 0 ++ (Frame.startCode ++ rest))) = false := by
      rcases n with _ | _ | n <;> rfl
    rw [List.replicate_succ, List.cons_append, fromStartCode, hno]
    exact ih

/-- A frame is found behind any run of zeros. -/
theorem frameIn_zeros_wire (n : Nat) {frame : Frame} (h : frame.body.length ≤ Frame.maxBody) :
    frameIn (List.replicate n 0 ++ frame.wire) = some frame := by
  have hstart : fromStartCode (List.replicate n 0 ++ frame.wire) = some frame.wire := by
    simp only [Frame.wire, Frame.head, Frame.Head.bytes, List.append_assoc]
    exact fromStartCode_zeros n _
  simp only [frameIn, hstart, bind, Option.bind, Frame.decode_wire h]

/-- A frame is found in its own bytes. -/
theorem frameIn_wire {frame : Frame} (h : frame.body.length ≤ Frame.maxBody) : frameIn frame.wire = some frame :=
  frameIn_zeros_wire 0 h

/-- A frame is found behind the zeros that wake the controller. -/
theorem frameIn_withWakeUp_wire {frame : Frame} (h : frame.body.length ≤ Frame.maxBody) :
    frameIn (Link.withWakeUp frame.wire) = some frame :=
  frameIn_zeros_wire Link.wakeUpZeros h

/-- An acknowledgement holds no frame. -/
theorem frameIn_ack : frameIn Frame.ack = none := by decide

/-- Nor does an acknowledgement behind the zeros that wake the controller. -/
theorem frameIn_withWakeUp_ack : frameIn (Link.withWakeUp Frame.ack) = none := by decide

end MemoryChannel

end NfcHost
