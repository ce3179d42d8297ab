import NfcHost.Proofs.Accessors
import NfcHost.Target.Listing

/-!
# How targets fill a listing

A listing that is read is filled by the targets read from it: behind the number of targets stand their blocks one after the
other, each holding the fields of its target and nothing else, and behind the last one bytes that are not looked at. The
relation `Target.Tiles` says so without the readers, and the readers accept exactly what it describes, whatever the length
bytes and counts claim (`Target.ofListing_tiles`). A block of a Type A card is not settled by its own bytes: an answer to
select that is announced may be missing where the payload ends, so the relation speaks of what stands behind a block too.
-/

namespace NfcHost

/-- The fault of data that is too short, which it names with its length. -/
def Bytes.Short (data : Bytes) (fault : Fault) : Prop := ∃ min, data.length < min ∧ fault = .invalidLength min data.length

open Bytes

/-! ## Type A -/

namespace TypeATarget

/-- The fields in front of the answer to select: the number, the answers to the request and to the selection, and the
identifier behind its length. -/
def front (t : TypeATarget) (len : UInt8) : Bytes := [t.number, t.sensRes.1, t.sensRes.2, t.selRes, len] ++ t.nfcid

/-- What stands behind the identifier in the block of a target that `rest` follows: nothing where no answer to select is
announced or the payload ends, else a length byte that counts itself and the answer to select, which is empty for a length of
zero too. -/
inductive AtsFills (t : TypeATarget) (rest : Bytes) : Bytes → Prop where
  | absent : t.isoDep = false ∨ rest = [] → t.ats = [] → AtsFills t rest []
  | present (len : UInt8) : t.isoDep = true → t.ats.length = max len.toNat 1 - 1 → AtsFills t rest (len :: t.ats)

/-- The block that `rest` follows holds the fields of the target, in order. -/
def Fills (t : TypeATarget) (block rest : Bytes) : Prop :=
  ∃ (len : UInt8) (field : Bytes), len.toNat = t.nfcid.length ∧ t.AtsFills rest field ∧ block = t.front len ++ field

@[simp] theorem length_front (t : TypeATarget) (len : UInt8) : (t.front len).length = 5 + t.nfcid.length := by
  simp [front]
  omega

/-- A block whose front is that of `t` is read on behind it. -/
theorem ofBlock_front {t : TypeATarget} {len : UInt8} (hlen : len.toNat = t.nfcid.length) (tail : Bytes) :
    ofBlock (t.front len ++ tail) =
      if t.isoDep && (t.front len).length < (t.front len ++ tail).length then do
        let len' := (← fetch (t.front len ++ tail) (t.front len).length).toNat - 1
        let ats ← slice (t.front len ++ tail) (sum64 (t.front len).length 1) len'
        return ({ t with ats }, (t.front len).length + (1 + len'))
      else
        return ({ t with ats := [] }, (t.front len).length) := by
  obtain ⟨number, ⟨first, second⟩, selRes, nfcid, ats⟩ := t
  rw [length_front]
  generalize hdata : front ⟨number, (first, second), selRes, nfcid, ats⟩ len ++ tail = data
  have hlayout : [number, first, second, selRes] ++ len :: (nfcid ++ tail) = data := hdata
  have hnumber : byte data 0 = .ok number := hlayout ▸ byte_append [] number _ (by simp)
  have hsens : slice data 1 2 = .ok [first, second] := hlayout ▸ slice_append [number] [first, second] _ (by simp)
  have hselRes : byte data 3 = .ok selRes := hlayout ▸ byte_append [number, first, second] selRes _ (by simp)
  have hnfcid : lengthPrefixed data 4 = .ok (nfcid, 5 + nfcid.length) :=
    hlayout ▸ lengthPrefixed_append [number, first, second, selRes] tail (by simp) hlen
  have hfirst : fetch [first, second] 0 = .ok first := rfl
  have hsecond : fetch [first, second] 1 = .ok second := rfl
  simp only [ofBlock, hnumber, hsens, hselRes, hnfcid, hfirst, hsecond, bind, Except.bind]
  rfl

/-- What a target is read from begins with the front of one. -/
theorem exists_front {data : Bytes} {p : TypeATarget × Nat} (h : ofBlock data = .ok p) :
    ∃ (t : TypeATarget) (len : UInt8) (tail : Bytes), len.toNat = t.nfcid.length ∧ data = t.front len ++ tail := by
  obtain ⟨number, hnumber, h⟩ := ok_of_bind h
  obtain ⟨sens, hsens, h⟩ := ok_of_bind h
  obtain ⟨selRes, hselRes, h⟩ := ok_of_bind h
  obtain ⟨⟨nfcid, idx⟩, hnfcid, h⟩ := ok_of_bind h
  obtain ⟨first, hfirst, h⟩ := ok_of_bind h
  obtain ⟨second, hsecond, -⟩ := ok_of_bind h
  obtain ⟨hsensLen, hsens⟩ := drop_of_slice (by decide) hsens
  obtain ⟨len, hlen, -, hnfcid⟩ := drop_of_lengthPrefixed (by decide) hnfcid
  have hpair : sens = [first, second] := by
    have hall : sens = first :: second :: sens.drop 2 := by
      rw [← drop_of_fetch hsecond, ← drop_of_fetch hfirst, List.drop_zero]
    rwa [List.drop_eq_nil_of_le (by omega)] at hall
  refine ⟨⟨number, (first, second), selRes, nfcid, []⟩, len, data.drop idx, hlen, ?_⟩
  calc data = number :: data.drop 1 := drop_of_byte hnumber
    _ = number :: ([first, second] ++ data.drop 3) := by rw [hsens, hpair]
    _ = number :: ([first, second] ++ selRes :: len :: (nfcid ++ data.drop idx)) := by rw [drop_of_byte hselRes, hnfcid]
    _ = [number, first, second, selRes, len] ++ nfcid ++ data.drop idx := by simp

/-- A target fills what it is read from. -/
theorem fills_of_ofBlock {data : Bytes} {t : TypeATarget} {used : Nat} (h : ofBlock data = .ok (t, used)) :
    ∃ block rest, data = block ++ rest ∧ used = block.length ∧ t.Fills block rest := by
  obtain ⟨u, len, tail, hlen, rfl⟩ := exists_front h
  have hlt := UInt8.toNat_lt len
  have hfront := length_front u len
  rw [ofBlock_front hlen] at h
  split at h
  · rename_i hats
    rw [Bool.and_eq_true, decide_eq_true_eq] at hats
    obtain ⟨count, hcount, h⟩ := ok_of_bind h
    obtain ⟨ats, hslice, h⟩ := ok_of_bind h
    obtain ⟨rfl, rfl⟩ := Prod.mk.inj (Except.ok.inj h)
    have hlt' := UInt8.toNat_lt count
    rw [sum64_eq (by omega)] at hslice
    obtain ⟨hatsLen, hdrop⟩ := drop_of_slice (by omega) hslice
    have htail := drop_of_fetch hcount
    rw [List.drop_left, hdrop] at htail
    obtain ⟨rest, rfl⟩ : ∃ rest, tail = count :: (ats ++ rest) := ⟨_, htail⟩
    refine ⟨u.front len ++ count :: ats, rest, ?_, ?_, len, count :: ats, hlen, .present count hats.1 ?_, rfl⟩
    · rw [List.append_assoc, List.cons_append]
    · rw [List.length_append, List.length_cons]
      omega
    · dsimp only
      omega
  · rename_i hats
    obtain ⟨rfl, rfl⟩ := Prod.mk.inj (Except.ok.inj h)
    refine ⟨u.front len, tail, rfl, rfl, len, [], hlen, .absent ?_ rfl, (List.append_nil _).symm⟩
    cases hiso : u.isoDep with
    | false => exact Or.inl hiso
    | true =>
      rw [hiso, Bool.true_and, decide_eq_true_eq, List.length_append] at hats
      exact Or.inr (List.length_eq_zero_iff.1 (by omega))

/-- What a target fills is read as it, with the number of bytes it fills. -/
theorem ofBlock_of_fills {t : TypeATarget} {block rest : Bytes} (h : t.Fills block rest) :
    ofBlock (block ++ rest) = .ok (t, block.length) := by
  obtain ⟨len, field, hlen, hfield, rfl⟩ := h
  have hlt := UInt8.toNat_lt len
  have hfront := length_front t len
  rw [List.append_assoc, ofBlock_front hlen]
  cases hfield with
  | absent hnone hats =>
    have hskip : ¬(t.isoDep && (t.front len).length < (t.front len ++ ([] ++ rest)).length) = true := by
      rcases hnone with hiso | rfl
      · simp [hiso]
      · simp
    rw [if_neg hskip, List.append_nil, ← hats]
    rfl
  | present count hiso hats =>
    have hread : (t.isoDep && (t.front len).length < (t.front len ++ (count :: t.ats ++ rest)).length) = true := by
      simp [hiso]
    have hlt' := UInt8.toNat_lt count
    have hcount : count.toNat - 1 = t.ats.length := by omega
    have hslice := slice_append (t.front len ++ [count]) t.ats rest (by simp; omega)
    rw [List.length_append, List.length_singleton, List.append_assoc, List.singleton_append] at hslice
    rw [if_pos hread, List.cons_append, fetch_append, sum64_eq (by omega)]
    simp only [bind, Except.bind, hcount, hslice, List.length_append, List.length_cons, Nat.add_comm 1]
    rfl

/-- A block is refused for its length only. -/
theorem short_of_ofBlock {data : Bytes} {fault : Fault} (h : ofBlock data = .error fault) : Short data fault := by
  rcases error_of_bind h with h | ⟨number, -, h⟩
  · exact ⟨_, fault_byte (by decide) h⟩
  rcases error_of_bind h with h | ⟨sens, hsens, h⟩
  · exact ⟨_, fault_slice (by decide) h⟩
  have hpair := (drop_of_slice (by decide) hsens).1
  rcases error_of_bind h with h | ⟨selRes, -, h⟩
  · exact ⟨_, fault_byte (by decide) h⟩
  rcases error_of_bind h with h | ⟨⟨nfcid, idx⟩, hnfcid, h⟩
  · exact ⟨_, fault_lengthPrefixed (by decide) h⟩
  obtain ⟨len, hlen, hidx, -⟩ := drop_of_lengthPrefixed (by decide) hnfcid
  rcases error_of_bind h with h | ⟨first, -, h⟩
  · have := (fault_fetch h).2
    omega
  rcases error_of_bind h with h | ⟨second, -, h⟩
  · have := (fault_fetch h).2
    omega
  dsimp only at h
  split at h
  · rename_i hats
    rw [Bool.and_eq_true, decide_eq_true_eq] at hats
    rcases error_of_bind h with h | ⟨count, -, h⟩
    · have := (fault_fetch h).2
      omega
    have hlt := UInt8.toNat_lt len
    have hlt' := UInt8.toNat_lt count
    rw [sum64_eq (by omega)] at h
    rcases error_of_bind h with h | ⟨ats, -, h⟩
    · exact ⟨_, fault_slice (by omega) h⟩
    · nomatch h
  · nomatch h

end TypeATarget

/-! ## Type B -/

namespace TypeBTarget

/-- The block holds the fields of the target, in order: the answer to the request has its length and its first byte, and the
answer to the attribute command stands behind its length. -/
def Fills (t : TypeBTarget) (block : Bytes) : Prop :=
  ∃ len : UInt8, len.toNat = t.attribRes.length ∧ t.sensbRes.length = sensbLength ∧ t.sensbRes.head? = some sensbMarker ∧
    block = t.number :: (t.sensbRes ++ len :: t.attribRes)

/-- What begins with a number and bytes in the place of an answer to the request, of which the first is not the one that such
an answer begins with. -/
def WrongMarker (data : Bytes) (first : UInt8) : Prop :=
  sensbLength < data.length ∧ data[1]? = some first ∧ first ≠ sensbMarker

/-- A target fills what it is read from. -/
theorem fills_of_ofBlock {data : Bytes} {t : TypeBTarget} {used : Nat} (h : ofBlock data = .ok (t, used)) :
    ∃ block rest, data = block ++ rest ∧ used = block.length ∧ t.Fills block := by
  obtain ⟨number, hnumber, h⟩ := ok_of_bind h
  obtain ⟨sensbRes, hsensb, h⟩ := ok_of_bind h
  obtain ⟨first, hfirst, h⟩ := ok_of_bind h
  obtain ⟨hmarker, h⟩ := ok_of_guard h
  obtain ⟨⟨attribRes, next⟩, hattrib, h⟩ := ok_of_bind h
  obtain ⟨rfl, rfl⟩ := Prod.mk.inj (Except.ok.inj h)
  obtain ⟨hlength, hsensb⟩ := drop_of_slice (by decide) hsensb
  obtain ⟨len, hlen, hnext, hattrib⟩ := drop_of_lengthPrefixed (by decide) hattrib
  have hhead : sensbRes.head? = some sensbMarker := by
    have hdrop := drop_of_fetch hfirst
    rw [List.drop_zero] at hdrop
    rw [hdrop, List.head?_cons, Decidable.not_not.1 hmarker]
  refine ⟨number :: (sensbRes ++ len :: attribRes), data.drop next, ?_, ?_, len, hlen, hlength, hhead, rfl⟩
  · calc data = number :: data.drop 1 := drop_of_byte hnumber
      _ = number :: (sensbRes ++ len :: (attribRes ++ data.drop next)) := by rw [hsensb, hattrib]
      _ = number :: (sensbRes ++ len :: attribRes) ++ data.drop next := by simp
  · simp only [List.length_cons, List.length_append]
    omega

/-- What a target fills is read as it, with the number of bytes it fills. -/
theorem ofBlock_of_fills {t : TypeBTarget} {block : Bytes} (h : t.Fills block) (rest : Bytes) :
    ofBlock (block ++ rest) = .ok (t, block.length) := by
  obtain ⟨len, hlen, hlength, hmarker, rfl⟩ := h
  have hfront : (t.number :: t.sensbRes).length = 1 + sensbLength := by rw [List.length_cons, hlength, Nat.add_comm]
  have hused : (t.number :: (t.sensbRes ++ len :: t.attribRes)).length = 1 + sensbLength + 1 + t.attribRes.length := by
    simp only [List.length_cons, List.length_append]
    omega
  generalize hdata : t.number :: (t.sensbRes ++ len :: t.attribRes) ++ rest = data
  have hlayout : t.number :: (t.sensbRes ++ len :: (t.attribRes ++ rest)) = data := by simp [← hdata]
  have hnumber : byte data 0 = .ok t.number := hlayout ▸ byte_append [] t.number _ (by simp)
  have hsensb : slice data 1 sensbLength = .ok t.sensbRes :=
    hlayout ▸ hlength ▸ slice_append [t.number] t.sensbRes _ (by simp [hlength, sensbLength])
  have hattrib : lengthPrefixed data (1 + sensbLength) = .ok (t.attribRes, 1 + sensbLength + 1 + t.attribRes.length) :=
    hlayout ▸ hfront ▸ lengthPrefixed_append (t.number :: t.sensbRes) rest (by rw [hfront]; decide) hlen
  have hfirst : fetch t.sensbRes 0 = .ok sensbMarker := by rw [fetch, ← List.head?_eq_getElem?, hmarker]
  simp only [ofBlock, hnumber, hsensb, hfirst, hattrib, bind, Except.bind, ne_eq, not_true_eq_false, if_false, hused]
  rfl

/-- A block is refused for its length, or where it has the wrong marker. -/
theorem fault_ofBlock {data : Bytes} {fault : Fault} (h : ofBlock data = .error fault) :
    (Short data fault ∧ ∀ first, ¬WrongMarker data first) ∨
      ∃ first, WrongMarker data first ∧ fault =
        .frameFormat ("SENSB_RES must start with " ++ Hex.literal sensbMarker ++ ", got " ++ Hex.literal first) := by
  rcases error_of_bind h with h | ⟨number, -, h⟩
  · have hshort := fault_byte (by decide) h
    refine Or.inl ⟨⟨_, hshort⟩, fun first hwrong => ?_⟩
    have := hwrong.1
    omega
  rcases error_of_bind h with h | ⟨sensbRes, hsensb, h⟩
  · have hshort := fault_slice (by decide) h
    refine Or.inl ⟨⟨_, hshort⟩, fun first hwrong => ?_⟩
    have := hwrong.1
    omega
  obtain ⟨hlength, hsensb⟩ := drop_of_slice (by decide) hsensb
  have hlong : sensbLength < data.length := by
    have := congrArg List.length hsensb
    rw [List.length_append, List.length_drop, hlength] at this
    simp only [sensbLength] at this ⊢
    omega
  rcases error_of_bind h with h | ⟨first, hfirst, h⟩
  · have := (fault_fetch h).2
    simp [hlength, sensbLength] at this
  have hsecond : data[1]? = some first := by
    have hfront := drop_of_fetch hfirst
    rw [List.drop_zero] at hfront
    rw [← List.head?_drop, hsensb, hfront]
    rfl
  split at h
  · rename_i hmarker
    exact Or.inr ⟨first, ⟨hlong, hsecond, hmarker⟩, (Except.error.inj h).symm⟩
  · rename_i hmarker
    refine Or.inl ⟨?_, fun other hwrong => hmarker ?_⟩
    · rcases error_of_bind h with h | ⟨_, -, h⟩
      · exact ⟨_, fault_lengthPrefixed (by decide) h⟩
      · nomatch h
    · rw [hwrong.2.1, Option.some_inj] at hsecond
      exact hsecond ▸ hwrong.2.2

end TypeBTarget

/-! ## Whole listings -/

namespace Target

/-- The block that `rest` follows holds the fields of the target, in the layout of its modulation. -/
def Fills (t : Target) (block rest : Bytes) : Prop :=
  match t with
  | typeA t => t.Fills block rest
  | typeB t => t.Fills block

/-- The blocks hold one target of the modulation each, in order, with `rest` behind the last one. -/
inductive Tiles (modulation : Modulation) (rest : Bytes) : List Target → List Bytes → Prop where
  | nil : Tiles modulation rest [] []
  | cons {t : Target} {block : Bytes} {targets : List Target} {blocks : List Bytes} : t.modulation = modulation →
      t.Fills block (blocks.flatten ++ rest) → Tiles modulation rest targets blocks →
      Tiles modulation rest (t :: targets) (block :: blocks)

/-- A block is read as a target where, and only where, a target of the modulation fills it. -/
theorem ofBlock_eq_ok_iff {modulation : Modulation} {data : Bytes} {t : Target} {used : Nat} :
    ofBlock modulation data = .ok (t, used) ↔
      t.modulation = modulation ∧ ∃ block rest, data = block ++ rest ∧ used = block.length ∧ t.Fills block rest := by
  constructor
  · intro h
    cases modulation with
    | typeA =>
      obtain ⟨⟨a, n⟩, hread, h⟩ := ok_of_bind h
      obtain ⟨rfl, rfl⟩ := Prod.mk.inj (Except.ok.inj h)
      exact ⟨rfl, TypeATarget.fills_of_ofBlock hread⟩
    | typeB =>
      obtain ⟨⟨b, n⟩, hread, h⟩ := ok_of_bind h
      obtain ⟨rfl, rfl⟩ := Prod.mk.inj (Except.ok.inj h)
      exact ⟨rfl, TypeBTarget.fills_of_ofBlock hread⟩
    | typeF => nomatch h
  · rintro ⟨rfl, block, rest, rfl, rfl, h⟩
    cases t with
    | typeA a =>
      have hread := TypeATarget.ofBlock_of_fills h
      simp only [ofBlock, modulation, hread, bind, Except.bind, pure, Except.pure]
    | typeB b =>
      have hread := TypeBTarget.ofBlock_of_fills h rest
      simp only [ofBlock, modulation, hread, bind, Except.bind, pure, Except.pure]

/-- Blocks are read one after the other where, and only where, targets fill them one after the other. -/
theorem ofBlocks_eq_ok_iff {modulation : Modulation} {count : Nat} {data : Bytes} {targets : List Target} :
    ofBlocks modulation count data = .ok targets ↔
      targets.length = count ∧ ∃ blocks rest, data = blocks.flatten ++ rest ∧ Tiles modulation rest targets blocks := by
  induction count generalizing data targets with
  | zero =>
    constructor
    · intro h
      obtain rfl := Except.ok.inj h
      exact ⟨rfl, [], data, rfl, .nil⟩
    · rintro ⟨hcount, -⟩
      rw [List.length_eq_zero_iff.1 hcount]
      rfl
  | succ count ih =>
    constructor
    · intro h
      obtain ⟨⟨t, used⟩, hblock, h⟩ := ok_of_bind h
      obtain ⟨hmod, block, tail, rfl, rfl, hfills⟩ := ofBlock_eq_ok_iff.1 hblock
      dsimp only at h
      rw [suffix_append] at h
      obtain ⟨_, hsuffix, h⟩ := ok_of_bind h
      obtain rfl := Except.ok.inj hsuffix
      obtain ⟨others, hothers, h⟩ := ok_of_bind h
      obtain rfl := Except.ok.inj h
      obtain ⟨hcount, blocks, rest, rfl, htiles⟩ := ih.1 hothers
      refine ⟨congrArg (· + 1) hcount, block :: blocks, rest, ?_, .cons hmod hfills htiles⟩
      rw [List.flatten_cons, List.append_assoc]
    · rintro ⟨hcount, blocks, rest, rfl, htiles⟩
      cases htiles with
      | nil => nomatch hcount
      | @cons t block targets blocks hmod hfills htiles =>
        have hblock := ofBlock_eq_ok_iff.2 ⟨hmod, block, blocks.flatten ++ rest, rfl, rfl, hfills⟩
        have hothers := ih.2 ⟨Nat.succ.inj hcount, blocks, rest, rfl, htiles⟩
        rw [List.flatten_cons, List.append_assoc]
        simp only [ofBlocks, hblock, bind, Except.bind, suffix_append, hothers]
        rfl

/-- Why a block is refused: its bytes end too early, or, where an answer to the request has to stand, stands something else.
Type F targets are not listed at all. -/
def Cause : Modulation → Bytes → Fault → Prop
  | .typeA, data, fault => Short data fault
  | .typeB, data, fault => (Short data fault ∧ ∀ first, ¬TypeBTarget.WrongMarker data first) ∨
      ∃ first, TypeBTarget.WrongMarker data first ∧ fault = .frameFormat ("SENSB_RES must start with " ++
        Hex.literal TypeBTarget.sensbMarker ++ ", got " ++ Hex.literal first)
  | .typeF, _, fault => fault = listingUnsupported

/-- No target of the modulation fills the bytes that the data begins with, which the fault says. -/
structure Refused (modulation : Modulation) (data : Bytes) (fault : Fault) : Prop where
  unfilled : ∀ (t : Target) (block rest : Bytes), t.modulation = modulation → data = block ++ rest → ¬t.Fills block rest
  cause : Cause modulation data fault

/-- The payload holds the number of the targets, the blocks that they fill, and bytes behind these. -/
def Accounts (modulation : Modulation) (payload : Bytes) (targets : List Target) : Prop :=
  ∃ (count : UInt8) (blocks : List Bytes) (rest : Bytes), payload = count :: (blocks.flatten ++ rest) ∧
    count.toNat = targets.length ∧ Tiles modulation rest targets blocks

/-- A block that is not read is refused. -/
theorem refused_of_ofBlock {modulation : Modulation} {data : Bytes} {fault : Fault}
    (h : ofBlock modulation data = .error fault) : Refused modulation data fault := by
  refine ⟨?_, ?_⟩
  · intro t block rest hmod hdata hfills
    rw [ofBlock_eq_ok_iff.2 ⟨hmod, block, rest, hdata, rfl, hfills⟩] at h
    nomatch h
  · cases modulation with
    | typeA =>
      rcases error_of_bind h with h | ⟨_, -, h⟩
      · exact TypeATarget.short_of_ofBlock h
      · nomatch h
    | typeB =>
      rcases error_of_bind h with h | ⟨_, -, h⟩
      · exact TypeBTarget.fault_ofBlock h
      · nomatch h
    | typeF => exact (Except.error.inj h).symm

/-- Blocks are refused at the first one that is. -/
theorem refused_of_ofBlocks {modulation : Modulation} {count : Nat} {data : Bytes} {fault : Fault}
    (h : ofBlocks modulation count data = .error fault) :
    ∃ targets blocks rest, data = blocks.flatten ++ rest ∧ Tiles modulation rest targets blocks ∧ targets.length < count ∧
      Refused modulation rest fault := by
  induction count generalizing data with
  | zero => nomatch h
  | succ count ih =>
    rcases error_of_bind h with h | ⟨⟨t, used⟩, hblock, h⟩
    · exact ⟨[], [], data, rfl, .nil, Nat.succ_pos count, refused_of_ofBlock h⟩
    obtain ⟨hmod, block, tail, rfl, rfl, hfills⟩ := ofBlock_eq_ok_iff.1 hblock
    dsimp only at h
    rw [suffix_append] at h
    rcases error_of_bind h with h | ⟨_, hsuffix, h⟩
    · nomatch h
    obtain rfl := Except.ok.inj hsuffix
    rcases error_of_bind h with h | ⟨others, -, h⟩
    · obtain ⟨targets, blocks, rest, rfl, htiles, hcount, hrefused⟩ := ih h
      refine ⟨t :: targets, block :: blocks, rest, ?_, .cons hmod hfills htiles, Nat.succ_lt_succ hcount, hrefused⟩
      rw [List.flatten_cons, List.append_assoc]
    · nomatch h

/-- A listing is the number of its targets and their blocks. -/
theorem ofListing_cons (modulation : Modulation) (count : UInt8) (data : Bytes) :
    ofListing modulation (count :: data) = ofBlocks modulation count.toNat data := by
  simp only [ofListing, byte_cons_zero, suffix_cons_one, bind, Except.bind]

/-- A listing is read as its targets exactly where it holds their number and the blocks they fill, one after the other, whatever
its length bytes claim; any other is refused, an empty one for its length and else at the first block that no target fills. -/
theorem ofListing_tiles (modulation : Modulation) (payload : Bytes) :
    (∀ targets, ofListing modulation payload = .ok targets ↔ Accounts modulation payload targets) ∧
    ((∀ targets, ¬Accounts modulation payload targets) → ∃ fault, ofListing modulation payload = .error fault ∧
      (payload = [] ∧ fault = .invalidLength 1 0 ∨
        ∃ (count : UInt8) (targets : List Target) (blocks : List Bytes) (rest : Bytes),
          payload = count :: (blocks.flatten ++ rest) ∧ Tiles modulation rest targets blocks ∧
          targets.length < count.toNat ∧ Refused modulation rest fault)) := by
  have hread : ∀ targets, ofListing modulation payload = .ok targets ↔ Accounts modulation payload targets := by
    intro targets
    cases payload with
    | nil =>
      refine iff_of_false nofun ?_
      rintro ⟨count, blocks, rest, hnil, -⟩
      nomatch hnil
    | cons count data =>
      rw [ofListing_cons, ofBlocks_eq_ok_iff]
      constructor
      · rintro ⟨hcount, blocks, rest, rfl, htiles⟩
        exact ⟨count, blocks, rest, rfl, hcount.symm, htiles⟩
      · rintro ⟨_, blocks, rest, hpayload, hcount, htiles⟩
        obtain ⟨rfl, rfl⟩ := List.cons.inj hpayload
        exact ⟨hcount.symm, blocks, rest, rfl, htiles⟩
  refine ⟨hread, fun hnone => ?_⟩
  cases hresult : ofListing modulation payload with
  | ok targets => exact absurd ((hread targets).1 hresult) (hnone targets)
  | error fault =>
    refine ⟨fault, rfl, ?_⟩
    cases payload with
    | nil => exact Or.inl ⟨rfl, (Except.error.inj hresult).symm⟩
    | cons count data =>
      rw [ofListing_cons] at hresult
      obtain ⟨targets, blocks, rest, rfl, hrest⟩ := refused_of_ofBlocks hresult
      exact Or.inr ⟨count, targets, blocks, rest, rfl, hrest⟩

end Target

end NfcHost
