import Mathlib.Data.List.Basic
import NfcHost.Proofs.Tiling

/-!
# Two readings of a Type A card

A listing and a poll read the block of a Type A card each in its own way. They agree on the fields in front of the answer to
select (`TypeATarget.readFront`) and on how an answer to select is read (`TypeATarget.readAts`), and differ in whether it is
read: a listing goes by the card's announcement, a poll by whether there is a byte behind the identifier. Wherever these do not
contradict each other (`TypeATarget.Undisputed`), both give the same card or the same fault. Where a byte stands behind a card
that announces nothing, the listing leaves it to the next block, and the poll takes it for a length
(`TypeATarget.ofPoll_agrees`).
-/

namespace NfcHost

open Bytes

namespace TypeATarget

/-! ## The readings in two steps -/

/-- Reads the fields in front of the answer to select: the card without one, and the position behind its identifier. -/
def readFront (data : Bytes) : Except Fault (TypeATarget × Nat) := do
  let number ← byte data 0
  let sens ← slice data 1 2
  let selRes ← byte data 3
  let (nfcid, idx) ← lengthPrefixed data 4
  return (⟨number, (← fetch sens 0, ← fetch sens 1), selRes, nfcid, []⟩, idx)

/-- Reads an answer to select behind its length byte, which counts itself, if there is a byte at its position. -/
def readAts (data : Bytes) (idx : Nat) : Except Fault Bytes :=
  match data[idx]? with
  | some len => slice data (sum64 idx 1) (len.toNat - 1)
  | none => .ok []

/-- A listing reads an answer to select from a card that announces one. -/
theorem ofBlock_eq (data : Bytes) :
    ofBlock data = do
      let (t, idx) ← readFront data
      if t.isoDep && idx < data.length then
        let len := (← fetch data idx).toNat - 1
        let ats ← slice data (sum64 idx 1) len
        return ({ t with ats }, idx + (1 + len))
      else
        return (t, idx) := by
  unfold ofBlock readFront
  rw [bind_assoc]
  refine bind_eq_bind fun number _ => ?_
  rw [bind_assoc]
  refine bind_eq_bind fun sens _ => ?_
  rw [bind_assoc]
  refine bind_eq_bind fun selRes _ => ?_
  rw [bind_assoc]
  refine bind_eq_bind fun (nfcid, idx) _ => ?_
  rw [bind_assoc]
  refine bind_eq_bind fun first _ => ?_
  rw [bind_assoc]
  refine bind_eq_bind fun second _ => ?_
  rfl

/-- A poll reads an answer to select from every card. -/
theorem ofPoll_eq {count : UInt8} (hcount : count ≠ 0) (data : Bytes) :
    ofPoll (count :: data) = do
      let (t, idx) ← readFront data
      let ats ← readAts data idx
      return some { t with ats } := by
  rw [ofPoll, byte_cons_zero, suffix_cons_one, readFront]
  show (if count = 0 then _ else _) = _
  rw [if_neg hcount]
  show byte data 0 >>= _ = _
  rw [bind_assoc]
  refine bind_eq_bind fun number _ => ?_
  rw [bind_assoc]
  refine bind_eq_bind fun sens hsens => ?_
  -- the listing takes the answer to the request apart before the answer to select, the poll behind it
  obtain ⟨first, second, rfl⟩ := List.length_eq_two.1 (drop_of_slice (by decide) hsens).1
  rw [bind_assoc]
  refine bind_eq_bind fun selRes _ => ?_
  rw [bind_assoc]
  refine bind_eq_bind fun (nfcid, idx) _ => ?_
  show _ = do
    let ats ← readAts data idx
    return some (TypeATarget.mk number (first, second) selRes nfcid ats)
  unfold readAts
  dsimp only
  cases data[idx]? with
  | none => rfl
  | some len => rfl

/-! ## What the front says of the block -/

/-- The card whose front was read: its announcement stands at its place, and its identifier ends where its length byte says,
inside the block. -/
structure Fronted (data : Bytes) (t : TypeATarget) (idx : Nat) : Prop where
  selRes : data[3]? = some t.selRes
  nfcidEnd : ∃ len, data[4]? = some len ∧ idx = 5 + len.toNat
  inside : idx ≤ data.length
  noAts : t.ats = []

theorem fronted_of_readFront {data : Bytes} {t : TypeATarget} {idx : Nat} (h : readFront data = .ok (t, idx)) :
    Fronted data t idx := by
  obtain ⟨number, -, h⟩ := ok_of_bind h
  obtain ⟨sens, -, h⟩ := ok_of_bind h
  obtain ⟨selRes, hselRes, h⟩ := ok_of_bind h
  obtain ⟨⟨nfcid, next⟩, hnfcid, h⟩ := ok_of_bind h
  obtain ⟨first, -, h⟩ := ok_of_bind h
  obtain ⟨second, -, h⟩ := ok_of_bind h
  obtain ⟨rfl, rfl⟩ := Prod.mk.inj (Except.ok.inj h)
  obtain ⟨len, hlen, hnext, hdrop⟩ := drop_of_lengthPrefixed (by decide) hnfcid
  have hcount : data[4]? = some len := by
    rw [← List.head?_drop, hdrop, List.head?_cons]
  have hinside : next ≤ data.length := by
    have hlength := congrArg List.length hdrop
    rw [List.length_drop, List.length_cons, List.length_append] at hlength
    omega
  exact ⟨getElem?_of_byte hselRes, ⟨len, hcount, by omega⟩, hinside, rfl⟩

/-- A front is refused only where the block ends in front of the end of its identifier. -/
theorem cut_of_readFront {data : Bytes} {fault : Fault} (h : readFront data = .error fault) {len : UInt8}
    (hlen : data[4]? = some len) : data.length < 5 + len.toNat := by
  have hlt := (List.getElem?_eq_some_iff.1 hlen).1
  rcases error_of_bind h with h | ⟨number, -, h⟩
  · have := (fault_byte (by decide) h).1
    omega
  rcases error_of_bind h with h | ⟨sens, hsens, h⟩
  · have := (fault_slice (by decide) h).1
    omega
  have hpair := (drop_of_slice (by decide) hsens).1
  rcases error_of_bind h with h | ⟨selRes, -, h⟩
  · have := (fault_byte (by decide) h).1
    omega
  rcases error_of_bind h with h | ⟨⟨nfcid, idx⟩, -, h⟩
  · have hcut := (fault_lengthPrefixed (by decide) h).1
    rwa [announcedEnd_of_some hlen] at hcut
  rcases error_of_bind h with h | ⟨first, -, h⟩
  · have := (fault_fetch h).2
    omega
  rcases error_of_bind h with h | ⟨second, -, h⟩
  · have := (fault_fetch h).2
    omega
  nomatch h

/-! ## Where the readings agree -/

/-- What is behind the front of a block is not in dispute: the card announces an answer to select, the block ends with the
identifier, or it ends in front of the identifier's end. -/
inductive Undisputed (data : Bytes) : Prop where
  | announced (selRes : UInt8) : data[3]? = some selRes → announcesIsoDep selRes = true → Undisputed data
  | bare (len : UInt8) : data[4]? = some len → data.length = 5 + len.toNat → Undisputed data
  | cut : (∀ len, data[4]? = some len → data.length < 5 + len.toNat) → Undisputed data

/-- An answer to select is read if its length byte leaves as many bytes behind it as it counts. -/
theorem readAts_eq {data rest : Bytes} {idx : Nat} {len : UInt8} (hidx : idx < 0x100000000)
    (hdrop : data.drop idx = len :: rest) :
    readAts data idx = if len.toNat - 1 ≤ rest.length then .ok (rest.take (len.toNat - 1))
      else .error (.invalidLength (idx + 1 + (len.toNat - 1)) data.length) := by
  have hfit := UInt8.toNat_lt len
  have hlen : data[idx]? = some len := by
    rw [← List.head?_drop, hdrop, List.head?_cons]
  have hbehind : data.drop (idx + 1) = rest := by
    rw [← List.drop_drop, hdrop]
    rfl
  have hlength := congrArg List.length hdrop
  rw [List.length_drop, List.length_cons] at hlength
  rw [readAts, hlen]
  dsimp only
  rw [sum64_eq (by omega), slice_eq (by omega), hbehind]
  by_cases hroom : len.toNat - 1 ≤ rest.length
  · rw [if_pos hroom, if_neg (by omega)]
  · rw [if_neg hroom, if_pos (by omega)]

/-- An undisputed block that goes on behind the identifier is that of a card that announces its answer to select. -/
theorem Undisputed.isoDep {data : Bytes} {t : TypeATarget} {idx : Nat} (h : Undisputed data) (hfronted : Fronted data t idx)
    (hmore : idx < data.length) : t.isoDep = true := by
  obtain ⟨len, hlen, hidx⟩ := hfronted.nfcidEnd
  cases h with
  | announced selRes hselRes hannounced =>
    rw [hfronted.selRes, Option.some.injEq] at hselRes
    rw [TypeATarget.isoDep, hselRes, hannounced]
  | bare other hother hend =>
    rw [hlen, Option.some.injEq] at hother
    rw [← hother] at hend
    omega
  | cut hcut =>
    have := hcut len hlen
    omega

/-- Over an undisputed block the poll reads the card of the listing, or is refused as the listing is. -/
theorem ofPoll_eq_map {count : UInt8} (hcount : count ≠ 0) {data : Bytes} (h : Undisputed data) :
    ofPoll (count :: data) = (ofBlock data).map fun p => some p.1 := by
  rw [ofPoll_eq hcount, ofBlock_eq]
  cases hfront : readFront data with
  | error fault => rfl
  | ok p =>
    obtain ⟨t, idx⟩ := p
    have hfronted := fronted_of_readFront hfront
    show (do
      let ats ← readAts data idx
      return some { t with ats }) = Except.map _ (if _ then _ else _)
    cases hbyte : data[idx]? with
    | none =>
      have hend := List.getElem?_eq_none_iff.1 hbyte
      rw [if_neg (by simp [Nat.not_lt.2 hend]), readAts, hbyte, ← hfronted.noAts]
      rfl
    | some len =>
      have hmore := (List.getElem?_eq_some_iff.1 hbyte).1
      rw [if_pos (by simp [h.isoDep hfronted hmore, hmore]), readAts, fetch, hbyte]
      show (slice data (sum64 idx 1) (len.toNat - 1) >>= _) = Except.map _ (slice data (sum64 idx 1) (len.toNat - 1) >>= _)
      cases slice data (sum64 idx 1) (len.toNat - 1) with
      | error fault => rfl
      | ok ats => rfl

/-- The readings part behind the front: the listing ends the block there, with a card that has no answer to select, and the poll
takes the next byte for the length of one and is refused if the block does not reach so far. -/
def Parted (count : UInt8) (data : Bytes) : Prop :=
  ∃ (t : TypeATarget) (idx : Nat) (len : UInt8) (rest : Bytes),
    ofBlock data = .ok (t, idx) ∧ t.isoDep = false ∧ t.ats = [] ∧ data.drop idx = len :: rest ∧
    ofPoll (count :: data) = if len.toNat - 1 ≤ rest.length then .ok (some { t with ats := rest.take (len.toNat - 1) })
      else .error (.invalidLength (idx + 1 + (len.toNat - 1)) data.length)

/-- A disputed block has a front, a card that announces no answer to select, and another byte. -/
theorem parted_of_disputed {count : UInt8} (hcount : count ≠ 0) {data : Bytes} (h : ¬Undisputed data) : Parted count data := by
  cases hfront : readFront data with
  | error fault => exact absurd (.cut fun len => cut_of_readFront hfront) h
  | ok p =>
    obtain ⟨t, idx⟩ := p
    obtain ⟨hselRes, ⟨len, hlen, hidx⟩, hinside, hats⟩ := fronted_of_readFront hfront
    have hiso : t.isoDep = false := by
      cases hiso : t.isoDep with
      | false => rfl
      | true => exact absurd (.announced t.selRes hselRes hiso) h
    have hmore : idx < data.length := by
      refine Nat.lt_of_le_of_ne hinside fun hend => h (.bare len hlen ?_)
      omega
    have hfit := UInt8.toNat_lt len
    have hdrop := List.drop_eq_getElem_cons hmore
    refine ⟨t, idx, data[idx], data.drop (idx + 1), ?_, hiso, hats, hdrop, ?_⟩
    · rw [ofBlock_eq, hfront]
      show (if _ then _ else _) = _
      rw [if_neg (by simp [hiso])]
      rfl
    · rw [ofPoll_eq hcount, hfront]
      show (do
        let ats ← readAts data idx
        return some { t with ats }) = _
      rw [readAts_eq (by omega) hdrop]
      split
      · rfl
      · rfl

/-- A poll that found something reads the card that a listing reads from the same block, or both are refused with the same
lengths, wherever what stands behind the identifier is not in dispute; elsewhere the readings part. -/
theorem ofPoll_agrees (count : UInt8) (data : Bytes) (hcount : count ≠ 0) :
    (Undisputed data →
      (∀ t, ofPoll (count :: data) = .ok (some t) ↔ ∃ used, ofBlock data = .ok (t, used)) ∧
      ((∀ t used, ofBlock data ≠ .ok (t, used)) → ∃ expected, data.length < expected ∧
        ofPoll (count :: data) = .error (.invalidLength expected data.length) ∧
        ofBlock data = .error (.invalidLength expected data.length))) ∧
    (¬Undisputed data → Parted count data) := by
  refine ⟨fun h => ?_, parted_of_disputed hcount⟩
  rw [ofPoll_eq_map hcount h]
  cases hblock : ofBlock data with
  | ok p =>
    obtain ⟨card, used⟩ := p
    refine ⟨fun t => ?_, fun hnone => absurd rfl (hnone card used)⟩
    constructor
    · intro heq
      obtain rfl : card = t := Option.some.inj (Except.ok.inj heq)
      exact ⟨used, rfl⟩
    · rintro ⟨_, heq⟩
      rw [(Prod.mk.inj (Except.ok.inj heq)).1]
      rfl
  | error fault =>
    obtain ⟨expected, hshort, rfl⟩ := short_of_ofBlock hblock
    exact ⟨fun t => iff_of_false nofun (fun ⟨_, heq⟩ => nomatch heq), fun _ => ⟨expected, hshort, rfl, rfl⟩⟩

/-- A card that announces its answer to select, which is one byte long. -/
theorem ofPoll_agrees_announced :
    let data : Bytes := [0x01, 0x00, 0x04, 0x20, 0x04, 0x01, 0x02, 0x03, 0x04, 0x02, 0x75]
    let card : TypeATarget := ⟨0x01, (0x00, 0x04), 0x20, [0x01, 0x02, 0x03, 0x04], [0x75]⟩
    (0x01 : UInt8) ≠ 0 ∧ Undisputed data ∧ ofBlock data = .ok (card, 11) ∧ ofPoll (0x01 :: data) = .ok (some card) := by
  intro data card
  have hundisputed : Undisputed data := .announced 0x20 rfl (by decide)
  have hblock : ofBlock data = .ok (card, 11) := rfl
  have hpoll := (((ofPoll_agrees 0x01 data (by decide)).1 hundisputed).1 card).2 ⟨11, hblock⟩
  exact ⟨by decide, hundisputed, hblock, hpoll⟩

end TypeATarget

end NfcHost
