import NfcHost.Command
import NfcHost.Register

/-!
# Caches of written values

What was last known to be in the chip, by key. Only callers that ask for it rely on a cache, and whoever changes the chip
in another way has to clear it. Keys are entered at most once.
-/

namespace NfcHost

/-- Values by key. -/
structure Cache (κ ν : Type) where
  /-- The keys with their values. -/
  entries : List (κ × ν) := []
  /-- No key is entered twice. -/
  nodup : (entries.map Prod.fst).Nodup := by simp

namespace Cache

variable {κ ν : Type} [DecidableEq κ]

/-- The cache that knows nothing. -/
def empty : Cache κ ν := {}

/-- The value of the first pair with the key. -/
def valueIn (k : κ) : List (κ × ν) → Option ν
  | [] => none
  | (q, v) :: rest => if q = k then some v else valueIn k rest

/-- The value known for a key. -/
def get? (c : Cache κ ν) (k : κ) : Option ν := valueIn k c.entries

/-- The values known for all the keys, in their order; nothing if one is not known. -/
def getAll? (c : Cache κ ν) : List κ → Option (List ν)
  | [] => some []
  | k :: ks => do return (← c.get? k) :: (← c.getAll? ks)

/-- The pairs whose value differs from what is known. -/
def changed [DecidableEq ν] (c : Cache κ ν) (pairs : List (κ × ν)) : List (κ × ν) :=
  pairs.filter fun p => c.get? p.1 ≠ some p.2

/-- Enters the value of a key. -/
def insert (c : Cache κ ν) (k : κ) (v : ν) : Cache κ ν where
  entries := c.entries.filter (fun e => e.1 ≠ k) ++ [(k, v)]
  nodup := by
    have kept : ((c.entries.filter fun e => e.1 ≠ k).map Prod.fst).Nodup :=
      List.Pairwise.sublist (List.filter_sublist.map Prod.fst) c.nodup
    simp only [List.map_append, List.map_cons, List.map_nil]
    refine List.pairwise_append.2 ⟨kept, by simp, ?_⟩
    intro a ha b hb
    simp only [List.mem_map, List.mem_filter, decide_eq_true_eq] at ha
    obtain ⟨e, ⟨_, hne⟩, rfl⟩ := ha
    simp only [List.mem_singleton] at hb
    exact hb ▸ hne

/-- Enters pairs one after the other, so of two values for a key the later stays. -/
def insertAll (c : Cache κ ν) (pairs : List (κ × ν)) : Cache κ ν := pairs.foldl (fun c p => c.insert p.1 p.2) c

/-- How many keys are known. -/
def size (c : Cache κ ν) : Nat := c.entries.length

/-- Nothing is known. -/
def isEmpty (c : Cache κ ν) : Bool := c.entries.isEmpty

/-! ## What is known afterwards -/

@[simp] theorem get?_empty (k : κ) : (empty : Cache κ ν).get? k = none := rfl

/-- Taking a key out of a list of pairs and putting it at the end changes what the list holds for that key only. -/
theorem valueIn_moved (k : κ) (v : ν) (q : κ) (pairs : List (κ × ν)) :
    valueIn q (pairs.filter (fun e => e.1 ≠ k) ++ [(k, v)]) = if k = q then some v else valueIn q pairs := by
  induction pairs with
  | nil => simp [valueIn]
  | cons e rest ih =>
    by_cases he : e.1 = k
    · rw [List.filter_cons_of_neg (by simp [he]), ih]
      by_cases hq : k = q <;> simp [valueIn, he, hq]
    · rw [List.filter_cons_of_pos (by simp [he]), List.cons_append, valueIn, valueIn, ih]
      by_cases hq : k = q
      · subst hq
        simp [he]
      · simp [hq]

/-- Entering a key changes what is known of that key and of no other. -/
@[simp] theorem get?_insert (c : Cache κ ν) (k : κ) (v : ν) (q : κ) :
    (c.insert k v).get? q = if k = q then some v else c.get? q :=
  valueIn_moved k v q c.entries

end Cache

/-- The register values known to be in the chip. -/
abbrev RegisterCache := Cache Register UInt8

/-- The RF configuration known to be in the chip. -/
abbrev RfCache := Cache RfItem Bytes

end NfcHost
