import NfcHost.Proofs.Tiling

/-!
# Listings on the wire

How a controller lays out the targets of a listing: their number, and one block after the other (`Target.listing`). Statements
about what is read back from such a layout, whatever follows it: each block gives its target and the number of bytes it takes,
so the next block is read from where it starts, and a listing gives exactly its targets in their order.
-/

namespace NfcHost

open Bytes

/-! ## Type A -/

namespace TypeATarget

/-- The answer to select as it stands in a block, behind a length byte that counts itself. A card that does not announce
ISO-DEP has none. -/
def atsField (t : TypeATarget) : Bytes := if t.isoDep then UInt8.ofNat (t.ats.length + 1) :: t.ats else []

/-- The block of a target: its number, the answers to the request and to the selection, the identifier behind its length, and
the answer to select. -/
def block (t : TypeATarget) : Bytes :=
  [t.number, t.sensRes.1, t.sensRes.2, t.selRes] ++ UInt8.ofNat t.nfcid.length :: (t.nfcid ++ t.atsField)

/-- What a block can carry: the lengths fit into their bytes, and only a card that announces ISO-DEP has an answer to select.
-/
structure Listable (t : TypeATarget) : Prop where
  nfcid : t.nfcid.length ≤ 255
  ats : t.ats.length ≤ 254
  noAts : t.isoDep = false → t.ats = []

/-- A target fills its block, whatever follows it. -/
theorem fills_block {t : TypeATarget} (h : t.Listable) (rest : Bytes) : t.Fills t.block rest := by
  refine ⟨UInt8.ofNat t.nfcid.length, t.atsField, toNat_ofNat_le h.nfcid, ?_, by simp [block, front]⟩
  unfold atsField
  cases hiso : t.isoDep with
  | false => exact .absent (Or.inl hiso) (h.noAts hiso)
  | true =>
    refine .present _ hiso ?_
    rw [toNat_ofNat_le (show t.ats.length + 1 ≤ 255 from Nat.succ_le_succ h.ats)]
    omega

/-- A block is read back, with the number of bytes it takes. -/
theorem ofBlock_block {t : TypeATarget} (h : t.Listable) (rest : Bytes) :
    ofBlock (t.block ++ rest) = .ok (t, t.block.length) := ofBlock_of_fills (fills_block h rest)

end TypeATarget

/-! ## Type B -/

namespace TypeBTarget

/-- The block of a target: its number, the answer to the request, and the answer to the attribute command behind its length. -/
def block (t : TypeBTarget) : Bytes :=
  t.number :: (t.sensbRes ++ UInt8.ofNat t.attribRes.length :: t.attribRes)

/-- What a block can carry: an answer to the request of the length and with the first byte that every one in a listing has, and
an answer to the attribute command whose length fits into a byte. -/
structure Listable (t : TypeBTarget) : Prop where
  sensbRes : t.sensbRes.length = sensbLength
  marker : t.sensbRes.head? = some sensbMarker
  attribRes : t.attribRes.length ≤ 255

/-- A target fills its block. -/
theorem fills_block {t : TypeBTarget} (h : t.Listable) : t.Fills t.block :=
  ⟨UInt8.ofNat t.attribRes.length, toNat_ofNat_le h.attribRes, h.sensbRes, h.marker, rfl⟩

/-- A block is read back, with the number of bytes it takes. -/
theorem ofBlock_block {t : TypeBTarget} (h : t.Listable) (rest : Bytes) :
    ofBlock (t.block ++ rest) = .ok (t, t.block.length) := ofBlock_of_fills (fills_block h) rest

end TypeBTarget

/-! ## Whole listings -/

namespace Target

/-- The block of a target. -/
def block : Target → Bytes
  | typeA t => t.block
  | typeB t => t.block

/-- What a block can carry. -/
def Listable : Target → Prop
  | typeA t => t.Listable
  | typeB t => t.Listable

/-- The reply to a listing: the number of targets, and their blocks in order. -/
def listing (targets : List Target) : Bytes := UInt8.ofNat targets.length :: targets.flatMap block

/-- A block is read back by the reading of its modulation. -/
theorem ofBlock_block {t : Target} (h : t.Listable) (rest : Bytes) :
    ofBlock t.modulation (t.block ++ rest) = .ok (t, t.block.length) := by
  cases t with
  | typeA t =>
    have hread := TypeATarget.ofBlock_block h rest
    simp only [ofBlock, modulation, block, hread, bind, Except.bind, pure, Except.pure]
  | typeB t =>
    have hread := TypeBTarget.ofBlock_block h rest
    simp only [ofBlock, modulation, block, hread, bind, Except.bind, pure, Except.pure]

/-- Blocks of one modulation are read back one after the other, each from where the one before ended. -/
theorem ofBlocks_blocks {modulation : Modulation} {targets : List Target}
    (h : ∀ t ∈ targets, t.modulation = modulation ∧ t.Listable) (rest : Bytes) :
    ofBlocks modulation targets.length (targets.flatMap block ++ rest) = .ok targets := by
  induction targets with
  | nil => rfl
  | cons t others ih =>
    obtain ⟨hmod, hlist⟩ := h t List.mem_cons_self
    have hrest := ih fun q hq => h q (List.mem_cons_of_mem _ hq)
    have hblock := ofBlock_block hlist (others.flatMap block ++ rest)
    rw [hmod] at hblock
    rw [List.flatMap_cons, List.append_assoc, List.length_cons]
    simp only [ofBlocks, hblock, bind, Except.bind, suffix_append, hrest]
    rfl

/-- A listing of up to 255 targets of one modulation is read back as exactly these targets in their order, whatever follows it.
-/
theorem ofListing_listing (modulation : Modulation) (targets : List Target) (rest : Bytes) (hcount : targets.length ≤ 255)
    (h : ∀ t ∈ targets, t.modulation = modulation ∧ t.Listable) :
    ofListing modulation (listing targets ++ rest) = .ok targets := by
  have hbyte : byte (listing targets ++ rest) 0 = .ok (UInt8.ofNat targets.length) :=
    byte_append [] _ (targets.flatMap block ++ rest) (by simp)
  have hsuffix : suffix (listing targets ++ rest) 1 = .ok (targets.flatMap block ++ rest) :=
    suffix_append [UInt8.ofNat targets.length] (targets.flatMap block ++ rest)
  simp only [ofListing, hbyte, hsuffix, bind, Except.bind, toNat_ofNat_le hcount]
  exact ofBlocks_blocks h rest

/-- Two cards, of which the second announces ISO-DEP and has an answer to select of two bytes, and one byte behind them. -/
theorem ofListing_listing_two :
    let first : Target := .typeA ⟨0x01, (0x00, 0x44), 0x00, [0xAA, 0xBB, 0xCC, 0xDD], []⟩
    let second : Target := .typeA ⟨0x02, (0x00, 0x04), 0x20, [0x01, 0x02, 0x03, 0x04], [0x75, 0x77]⟩
    listing [first, second] = [0x02, 0x01, 0x00, 0x44, 0x00, 0x04, 0xAA, 0xBB, 0xCC, 0xDD, 0x02, 0x00, 0x04, 0x20, 0x04, 0x01,
      0x02, 0x03, 0x04, 0x03, 0x75, 0x77] ∧
    ofListing .typeA (listing [first, second] ++ [0x90]) = .ok [first, second] := by
  intro first second
  refine ⟨by decide, ofListing_listing .typeA [first, second] [0x90] (by decide) ?_⟩
  have hfirst : first.Listable := ⟨by decide, by decide, fun _ => rfl⟩
  have hsecond : second.Listable := ⟨by decide, by decide, nofun⟩
  intro t ht
  obtain rfl | rfl : t = first ∨ t = second := by simpa using ht
  · exact ⟨rfl, hfirst⟩
  · exact ⟨rfl, hsecond⟩

end Target

end NfcHost
