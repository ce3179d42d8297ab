import NfcHost.Cache
import NfcHost.Driver.RegisterAccess

/-!
# What the chip holds, and what a cache knows of it

The chip's registers and RF items as tables (`Tables`), changed and read by the arguments of commands, byte by byte. A list
of pairs, written to the chip or entered in a cache, says of a key what the last pair with the key says (`lastValue`): both
`Tables.write` and `Cache.insertAll` are described by it, so the two can be compared whatever the list repeats.
-/

namespace NfcHost

/-! ## Lists of pairs -/

section LastValue

variable {κ ν : Type} [DecidableEq κ]

/-- The value of the last pair with the key. -/
def lastValue (k : κ) : List (κ × ν) → Option ν
  | [] => none
  | (q, v) :: rest => (lastValue k rest).or (if q = k then some v else none)

/-- A key that no pair has gets no value. -/
theorem lastValue_eq_none {k : κ} {pairs : List (κ × ν)} (h : k ∉ pairs.map Prod.fst) : lastValue k pairs = none := by
  induction pairs with
  | nil => rfl
  | cons p rest ih =>
    simp only [List.map_cons, List.mem_cons, not_or] at h
    rw [lastValue, ih h.2, if_neg (Ne.symm h.1)]
    rfl

/-- The value of a key is that of a pair. -/
theorem mem_of_lastValue {k : κ} {v : ν} {pairs : List (κ × ν)} (h : lastValue k pairs = some v) : (k, v) ∈ pairs := by
  induction pairs with
  | nil => nomatch h
  | cons p rest ih =>
    obtain ⟨q, w⟩ := p
    rw [lastValue, Option.or_eq_some_iff] at h
    obtain hrest | ⟨-, hq⟩ := h
    · exact List.mem_cons_of_mem _ (ih hrest)
    · split at hq
      · rename_i hqk
        rw [← Option.some.inj hq, hqk]
        exact List.mem_cons_self
      · nomatch hq

/-- Among pairs that have every key once, the value of a key is that of its pair. -/
theorem lastValue_of_mem {k : κ} {v : ν} {pairs : List (κ × ν)} (hn : (pairs.map Prod.fst).Nodup) (h : (k, v) ∈ pairs) :
    lastValue k pairs = some v := by
  induction pairs with
  | nil => nomatch h
  | cons p rest ih =>
    rw [List.map_cons, List.nodup_cons] at hn
    obtain rfl | hrest := List.mem_cons.1 h
    · rw [lastValue, lastValue_eq_none hn.1, if_pos rfl]
      rfl
    · rw [lastValue, ih hn.2 hrest]
      rfl

/-- A key that is listed has a last value. -/
theorem exists_lastValue {k : κ} {w : ν} {pairs : List (κ × ν)} (h : (k, w) ∈ pairs) : ∃ v, lastValue k pairs = some v := by
  induction pairs with
  | nil => nomatch h
  | cons p rest ih =>
    obtain ⟨q, v⟩ := p
    rw [lastValue]
    obtain heq | hrest := List.mem_cons.1 h
    · rw [if_pos (Prod.mk.inj heq).1.symm]
      cases lastValue k rest with
      | none => exact ⟨v, rfl⟩
      | some u => exact ⟨u, rfl⟩
    · obtain ⟨u, hu⟩ := ih hrest
      exact ⟨u, by rw [hu, Option.some_or]⟩

/-- A key that is not listed is not listed among some of the pairs. -/
theorem lastValue_filter_none {k : κ} {pairs : List (κ × ν)} (p : κ × ν → Bool) (h : lastValue k pairs = none) :
    lastValue k (pairs.filter p) = none := by
  refine Option.eq_none_iff_forall_ne_some.2 fun u hu => ?_
  obtain ⟨v, hv⟩ := exists_lastValue (List.mem_filter.1 (mem_of_lastValue hu)).1
  rw [h] at hv
  nomatch hv

/-- The last value of a key stays the last if its pair is kept. -/
theorem lastValue_filter_kept {k : κ} {v : ν} {pairs : List (κ × ν)} {p : κ × ν → Bool} (h : lastValue k pairs = some v)
    (hkept : p (k, v) = true) : lastValue k (pairs.filter p) = some v := by
  induction pairs with
  | nil => nomatch h
  | cons q rest ih =>
    obtain ⟨q, w⟩ := q
    rw [lastValue, Option.or_eq_some_iff] at h
    obtain hlast | ⟨hnone, hq⟩ := h
    · rw [List.filter_cons]
      split
      · rw [lastValue, ih hlast, Option.some_or]
      · exact ih hlast
    · obtain ⟨rfl, hv⟩ := Option.ite_none_right_eq_some.1 hq
      obtain rfl := Option.some.inj hv
      rw [List.filter_cons_of_pos hkept, lastValue, lastValue_filter_none p hnone, if_pos rfl, Option.none_or]

/-- Keys paired with their values under a function get that value, if they get one. -/
theorem lastValue_zip_map {k : κ} {v : ν} (f : κ → ν) (keys : List κ) (h : lastValue k (keys.zip (keys.map f)) = some v) :
    v = f k := by
  induction keys with
  | nil => nomatch h
  | cons q rest ih =>
    rw [List.map_cons, List.zip_cons_cons, lastValue] at h
    rcases hrest : lastValue k (rest.zip (rest.map f)) with _ | w
    · rw [hrest, Option.none_or] at h
      split at h
      · rename_i hq
        rw [← Option.some.inj h, hq]
      · nomatch h
    · rw [hrest, Option.some_or] at h
      exact ih (hrest.trans h)

/-- Entering pairs in a cache leaves the last value of each key. -/
theorem Cache.get?_insertAll (c : Cache κ ν) (pairs : List (κ × ν)) (k : κ) :
    (c.insertAll pairs).get? k = (lastValue k pairs).or (c.get? k) := by
  induction pairs generalizing c with
  | nil => rfl
  | cons p rest ih =>
    obtain ⟨q, v⟩ := p
    rw [show c.insertAll ((q, v) :: rest) = (c.insert q v).insertAll rest from rfl, ih, Cache.get?_insert, lastValue]
    by_cases hq : q = k
    · cases lastValue k rest <;> simp [hq]
    · cases lastValue k rest <;> simp [hq]

/-! ## What a cache leaves out of a list -/

/-- The last value that pairs list for a key is the one known, but they list another before it. -/
def Cache.Overlooks (c : Cache κ ν) (pairs : List (κ × ν)) (k : κ) : Prop :=
  ∃ v, lastValue k pairs = some v ∧ c.get? k = some v ∧ ∃ w, (k, w) ∈ pairs ∧ w ≠ v

/-- A list that names no key twice overlooks none. -/
theorem Cache.not_overlooks (c : Cache κ ν) {pairs : List (κ × ν)} (hn : (pairs.map Prod.fst).Nodup) (k : κ) :
    ¬c.Overlooks pairs k := by
  rintro ⟨v, hlast, -, w, hmem, hne⟩
  exact hne (Option.some.inj ((lastValue_of_mem hn hmem).symm.trans hlast))

variable [DecidableEq ν]

/-- What is left of a list says of a key what the list says, unless that is known. -/
theorem Cache.lastValue_changed_unknown (c : Cache κ ν) {pairs : List (κ × ν)} {k : κ} (h : lastValue k pairs ≠ c.get? k) :
    lastValue k (c.changed pairs) = lastValue k pairs := by
  cases hlast : lastValue k pairs with
  | none => exact lastValue_filter_none _ hlast
  | some v =>
    rw [hlast] at h
    exact lastValue_filter_kept hlast (decide_eq_true (Ne.symm h))

/-- What is left of a list says another value of a key that it overlooks. -/
theorem Cache.Overlooks.lastValue_changed {c : Cache κ ν} {pairs : List (κ × ν)} {k : κ} (h : c.Overlooks pairs k) :
    ∃ w, lastValue k (c.changed pairs) = some w ∧ lastValue k pairs ≠ some w := by
  obtain ⟨v, hlast, hknown, w, hmem, hne⟩ := h
  have hkept : (k, w) ∈ c.changed pairs := by
    refine List.mem_filter.2 ⟨hmem, decide_eq_true ?_⟩
    rw [hknown]
    exact fun heq => hne (Option.some.inj heq).symm
  obtain ⟨u, hu⟩ := exists_lastValue hkept
  have hdiffers := of_decide_eq_true (List.mem_filter.1 (mem_of_lastValue hu)).2
  refine ⟨u, hu, ?_⟩
  rw [hlast, ← hknown]
  exact hdiffers

end LastValue

/-! ## Addresses and codes name one thing each -/

namespace Register

/-- The register at an address. -/
def ofAddress? (a : UInt16) : Option Register := all.find? fun r => r.address = a

theorem ofAddress?_address (r : Register) : ofAddress? r.address = some r := by
  cases r <;> rfl

/-- Registers with the same address are the same. -/
theorem address_inj {r q : Register} : r.address = q.address ↔ r = q := by
  constructor
  · intro h
    exact Option.some.inj ((ofAddress?_address r).symm.trans ((congrArg ofAddress? h).trans (ofAddress?_address q)))
  · exact congrArg address

/-- Every register is listed. -/
theorem mem_all (r : Register) : r ∈ all := by
  cases r <;> decide

/-- Every address stands in two bytes. -/
theorem length_addressBytes (registers : List Register) :
    (registers.flatMap addressBytes).length = 2 * registers.length := by
  induction registers with
  | nil => rfl
  | cons r rest ih =>
    rw [List.flatMap_cons, List.length_append, ih, List.length_cons, show r.addressBytes.length = 2 from rfl]
    omega

end Register

/-- Items with the same code are the same. -/
theorem RfItem.code_inj {i j : RfItem} : i.code = j.code ↔ i = j := by
  constructor
  · intro h
    cases i <;> cases j <;> first | rfl | exact absurd h (by decide)
  · exact congrArg code

/-! ## The tables of the chip -/

namespace Command

/-- The command leaves registers and items alone. -/
def Harmless (command : Command) : Prop :=
  command ∉ [Command.writeRegister, .rfConfiguration, .inListPassiveTarget, .tgInitAsTarget]

instance (command : Command) : Decidable command.Harmless := inferInstanceAs (Decidable (_ ∉ _))

end Command

/-- The registers by address and the items of the RF configuration by code. -/
structure Tables where
  /-- The value of each register. -/
  registers : UInt16 → UInt8
  /-- The value of each item. -/
  items : UInt8 → Bytes

namespace Tables

/-- The address that stands in two bytes of the arguments, the high byte first. -/
def address (high low : UInt8) : UInt16 := high.toUInt16 * 0x100 + low.toUInt16

/-- Sets one register. -/
def setRegister (t : Tables) (a : UInt16) (v : UInt8) : Tables :=
  { t with registers := fun b => if b = a then v else t.registers b }

/-- Sets one item. -/
def setItem (t : Tables) (i : UInt8) (v : Bytes) : Tables := { t with items := fun j => if j = i then v else t.items j }

/-- What the arguments of a reading ask for: one byte for each address of two bytes. -/
def read (t : Tables) : Bytes → Bytes
  | high :: low :: rest => t.registers (address high low) :: t.read rest
  | _ => []

/-- What the arguments of a writing do: groups of an address and a value, applied in their order. -/
def write (t : Tables) : Bytes → Tables
  | high :: low :: value :: rest => (t.setRegister (address high low) value).write rest
  | _ => t

/-- What the arguments of a configuration do: the bytes behind the item's code become its value. -/
def configure (t : Tables) : Bytes → Tables
  | item :: value => t.setItem item value
  | [] => t

@[simp] theorem items_setItem (t : Tables) (i : UInt8) (v : Bytes) (j : UInt8) :
    (t.setItem i v).items j = if j = i then v else t.items j := rfl

/-- Setting a register to the value it holds changes nothing. -/
theorem setRegister_self (t : Tables) (a : UInt16) : t.setRegister a (t.registers a) = t := by
  unfold setRegister
  congr
  funext b
  split
  · rename_i h
    rw [h]
  · rfl

/-- Setting an item to the value it holds changes nothing. -/
theorem setItem_self (t : Tables) (i : UInt8) : t.setItem i (t.items i) = t := by
  unfold setItem
  congr
  funext j
  split
  · rename_i h
    rw [h]
  · rfl

/-- Reading registers by name. -/
theorem read_addressBytes (t : Tables) (registers : List Register) :
    t.read (registers.flatMap Register.addressBytes) = registers.map fun r => t.registers r.address := by
  induction registers with
  | nil => rfl
  | cons r rest ih =>
    rw [List.flatMap_cons, List.map_cons, ← ih]
    rfl

/-- A reading answers half as many bytes as it is asked with. -/
theorem length_read (t : Tables) (args : Bytes) : (t.read args).length = args.length / 2 := by
  fun_induction read t args with
  | case1 high low rest ih =>
    rw [List.length_cons, ih, List.length_cons, List.length_cons]
    omega
  | case2 args hshort =>
    rcases args with _ | ⟨a, _ | ⟨b, rest⟩⟩
    · rfl
    · simp
    · exact absurd rfl (hshort a b rest)

/-- The first pair is written before the others. -/
theorem write_settingBytes_cons (t : Tables) (p : Setting) (rest : List Setting) :
    t.write ((p :: rest).flatMap Driver.settingBytes) =
      (t.setRegister p.1.address p.2).write (rest.flatMap Driver.settingBytes) := rfl

/-- Writing pairs leaves the last value of each register. -/
theorem registers_write (t : Tables) (pairs : List Setting) (r : Register) :
    (t.write (pairs.flatMap Driver.settingBytes)).registers r.address =
      (lastValue r pairs).getD (t.registers r.address) := by
  induction pairs generalizing t with
  | nil => rfl
  | cons p rest ih =>
    obtain ⟨q, v⟩ := p
    rw [write_settingBytes_cons, ih, lastValue]
    cases lastValue r rest with
    | some w => rfl
    | none =>
      by_cases hq : q = r
      · simp [setRegister, hq]
      · have hne : r.address ≠ q.address := fun h => hq (Register.address_inj.1 h).symm
        simp [setRegister, hq, hne]

/-- The addresses that the arguments of a writing name. -/
def named : Bytes → List UInt16
  | high :: low :: _ :: rest => address high low :: named rest
  | _ => []

/-- Pairs name the addresses of their registers. -/
theorem named_settingBytes (pairs : List Setting) :
    named (pairs.flatMap Driver.settingBytes) = pairs.map fun p => p.1.address := by
  induction pairs with
  | nil => rfl
  | cons p rest ih =>
    rw [List.map_cons, ← ih]
    rfl

/-- A writing leaves every address alone that it does not name. -/
theorem registers_write_other (t : Tables) {args : Bytes} {a : UInt16} (h : a ∉ named args) :
    (t.write args).registers a = t.registers a := by
  fun_induction write t args with
  | case1 t high low value rest ih =>
    rw [named, List.mem_cons, not_or] at h
    exact (ih h.2).trans (if_neg h.1)
  | case2 => rfl

/-- Writing registers touches no item. -/
theorem items_write (t : Tables) (args : Bytes) : (t.write args).items = t.items := by
  fun_induction write t args with
  | case1 t high low value rest ih => exact ih
  | case2 => rfl

/-! ## What a cache knows of the tables -/

/-- Every register that is known holds the value known. -/
def Bears (t : Tables) (c : RegisterCache) : Prop := ∀ r v, c.get? r = some v → t.registers r.address = v

/-- Every item that is known holds the value known. -/
def BearsItems (t : Tables) (c : RfCache) : Prop := ∀ i v, c.get? i = some v → t.items i.code = v

theorem bears_empty (t : Tables) : t.Bears .empty := fun _ _ h => nomatch h

theorem bearsItems_empty (t : Tables) : t.BearsItems .empty := fun _ _ h => nomatch h

/-- What all registers hold is what is known of them, if all are known. -/
theorem Bears.getAll? {t : Tables} {c : RegisterCache} (h : t.Bears c) {registers : List Register} {values : Bytes}
    (hv : c.getAll? registers = some values) : values = registers.map fun r => t.registers r.address := by
  induction registers generalizing values with
  | nil => exact (Option.some.inj hv).symm
  | cons r rest ih =>
    simp only [Cache.getAll?, bind, Option.bind_eq_some_iff, pure, Option.some.injEq] at hv
    obtain ⟨v, hr, vs, hrest, rfl⟩ := hv
    rw [List.map_cons, h r v hr, ih hrest]

/-- Entering what registers hold. -/
theorem Bears.read {t : Tables} {c : RegisterCache} (h : t.Bears c) (registers : List Register) :
    t.Bears (c.insertAll (registers.zip (registers.map fun r => t.registers r.address))) := by
  intro r v hv
  rw [Cache.get?_insertAll, Option.or_eq_some_iff] at hv
  obtain hv | ⟨-, hv⟩ := hv
  · exact (lastValue_zip_map (fun r => t.registers r.address) registers hv).symm
  · exact h r v hv

/-- What is known is right when the tables hold what pairs list last and the pairs are entered. -/
theorem Bears.listed {t t' : Tables} {c c' : RegisterCache} (h : t.Bears c) {values : List Setting}
    (hknown : ∀ r, c'.get? r = (lastValue r values).or (c.get? r))
    (hheld : ∀ r : Register, t'.registers r.address = (lastValue r values).getD (t.registers r.address)) : t'.Bears c' := by
  intro r v hv
  rw [hknown, Option.or_eq_some_iff] at hv
  rw [hheld]
  obtain hlast | ⟨hnone, hv⟩ := hv
  · rw [hlast]
    rfl
  · rw [hnone]
    exact h r v hv

/-- Writing pairs and entering them. -/
theorem Bears.write {t : Tables} {c : RegisterCache} (h : t.Bears c) (values : List Setting) :
    (t.write (values.flatMap Driver.settingBytes)).Bears (c.insertAll values) :=
  h.listed (c.get?_insertAll values) (t.registers_write values)

/-- What is left of a list, written to a chip that holds what is known: every register holds what the list says last of it,
but for those that the list overlooks, which hold another value. -/
theorem Bears.registers_write_changed {t : Tables} {c : RegisterCache} (h : t.Bears c) (values : List Setting)
    (r : Register) :
    (t.write ((c.changed values).flatMap Driver.settingBytes)).registers r.address =
      (lastValue r values).getD (t.registers r.address) ↔ ¬c.Overlooks values r := by
  rw [registers_write]
  constructor
  · rintro heq hover
    obtain ⟨w, hw, hne⟩ := hover.lastValue_changed
    obtain ⟨v, hlast, -⟩ := hover
    rw [hw, hlast] at heq
    exact hne (hlast.trans (congrArg some heq.symm))
  · intro hnot
    by_cases hknown : lastValue r values = c.get? r
    · -- the pair of that value is left out, and with it every pair of the register
      have hleft : lastValue r (c.changed values) = none := by
        refine Option.eq_none_iff_forall_ne_some.2 fun w hw => ?_
        obtain ⟨hmem, hdiffers⟩ := List.mem_filter.1 (mem_of_lastValue hw)
        obtain ⟨v, hlast⟩ := exists_lastValue hmem
        refine hnot ⟨v, hlast, hknown.symm.trans hlast, w, hmem, fun heq => of_decide_eq_true hdiffers ?_⟩
        rw [heq, ← hknown, hlast]
      rw [hleft]
      cases hlast : lastValue r values with
      | none => rfl
      | some v => exact h r v (hknown.symm.trans hlast)
    · rw [c.lastValue_changed_unknown hknown]

/-- Writing only the pairs that differ from what is known, and entering them all. No register may stand in two pairs: the
pair that is left out could be the later one. -/
theorem Bears.write_changed {t : Tables} {c : RegisterCache} (h : t.Bears c) {values : List Setting}
    (hn : (values.map Prod.fst).Nodup) :
    (t.write ((c.changed values).flatMap Driver.settingBytes)).Bears (c.insertAll values) :=
  h.listed (c.get?_insertAll values) fun r => (h.registers_write_changed values r).2 (c.not_overlooks hn r)

/-- Writing registers leaves what is known of items right. -/
theorem BearsItems.write {t : Tables} {c : RfCache} (h : t.BearsItems c) (args : Bytes) : (t.write args).BearsItems c := by
  intro i v hv
  rw [items_write]
  exact h i v hv

/-- Writing an item and entering it. -/
theorem BearsItems.configure {t : Tables} {c : RfCache} (h : t.BearsItems c) (item : RfItem) (value : Bytes) :
    (t.configure (item.code :: value)).BearsItems (c.insert item value) := by
  intro i v hv
  rw [Cache.get?_insert] at hv
  split at hv
  · rename_i hi
    rw [← Option.some.inj hv, ← hi]
    exact if_pos rfl
  · rename_i hi
    have hne : i.code ≠ item.code := fun hcode => hi (RfItem.code_inj.1 hcode).symm
    exact (if_neg hne).trans (h i v hv)

/-! ## Writing what is held already -/

/-- Whole groups are written before what follows them. -/
theorem write_append (t : Tables) {before : Bytes} (after : Bytes) (h : before.length % 3 = 0) :
    t.write (before ++ after) = (t.write before).write after := by
  fun_induction write t before with
  | case1 t high low value rest ih =>
    simp only [List.length_cons] at h
    exact ih (by omega)
  | case2 args t hshort =>
    rcases args with _ | ⟨x, _ | ⟨y, _ | ⟨z, rest⟩⟩⟩
    · rfl
    · simp at h
    · simp at h
    · exact absurd rfl (hshort x y z rest)

/-- A function of the arguments of a writing that does not see a group that writes what the register holds by then. -/
def SkipsHeld {α : Type} (t : Tables) (f : Bytes → α) : Prop :=
  ∀ (before : Bytes) (high low : UInt8) (after : Bytes), before.length % 3 = 0 →
    f (before ++ high :: low :: (t.write before).registers (address high low) :: after) = f (before ++ after)

/-- The tables do not see such a group. -/
theorem skipsHeld_write (t : Tables) : t.SkipsHeld t.write := by
  intro before high low after h
  rw [write_append t _ h, write_append t _ h, write, setRegister_self]

/-- A pair takes three bytes. -/
theorem length_settingBytes (pairs : List Setting) : (pairs.flatMap Driver.settingBytes).length = 3 * pairs.length := by
  induction pairs with
  | nil => rfl
  | cons p rest ih =>
    rw [List.flatMap_cons, List.length_append, ih, List.length_cons, show (Driver.settingBytes p).length = 3 from rfl]
    omega

/-- Pairs that name no register twice are few enough for one command. -/
theorem length_settingBytes_lt {pairs : List Setting} (hn : (pairs.map Prod.fst).Nodup) :
    (pairs.flatMap Driver.settingBytes).length < Frame.maxBody := by
  have hle : (pairs.map Prod.fst).length ≤ Register.all.length :=
    hn.length_le_of_subset fun r _ => Register.mem_all r
  rw [List.length_map, show Register.all.length = 28 from rfl] at hle
  rw [length_settingBytes, Frame.maxBody]
  omega

/-- What does not see such groups does not see what a cache leaves out, behind pairs that are written before: none of their
registers is to come. -/
theorem SkipsHeld.changed_behind {α : Type} {t : Tables} {f : Bytes → α} (h : t.SkipsHeld f) {c : RegisterCache}
    (hc : t.Bears c) {done values : List Setting} (hn : ((done ++ values).map Prod.fst).Nodup) :
    f (done.flatMap Driver.settingBytes ++ (c.changed values).flatMap Driver.settingBytes) =
      f (done.flatMap Driver.settingBytes ++ values.flatMap Driver.settingBytes) := by
  induction values generalizing done with
  | nil => rfl
  | cons p rest ih =>
    have hshift : done ++ p :: rest = (done ++ [p]) ++ rest := by simp
    by_cases hknown : c.get? p.1 = some p.2
    · have hskip : c.changed (p :: rest) = c.changed rest := List.filter_cons_of_neg (by simp [hknown])
      have hnot : p.1 ∉ done.map Prod.fst := by
        rw [List.map_append, List.map_cons, List.nodup_append] at hn
        intro hmem
        exact hn.2.2 p.1 hmem p.1 List.mem_cons_self rfl
      have hheld : (t.write (done.flatMap Driver.settingBytes)).registers p.1.address = p.2 := by
        rw [registers_write, lastValue_eq_none hnot]
        exact hc p.1 p.2 hknown
      have hrest : ((done ++ rest).map Prod.fst).Nodup :=
        hn.sublist ((List.Sublist.append_left (List.sublist_cons_self p rest) done).map Prod.fst)
      have hgroup := h (done.flatMap Driver.settingBytes) Register.page p.1.offset (rest.flatMap Driver.settingBytes)
        (by rw [length_settingBytes]; omega)
      rw [show address Register.page p.1.offset = p.1.address from rfl, hheld] at hgroup
      rw [hskip, ih hrest]
      exact hgroup.symm
    · have hkeep : c.changed (p :: rest) = p :: c.changed rest := List.filter_cons_of_pos (by simp [hknown])
      rw [hshift] at hn
      have hstep := ih hn
      simp only [List.flatMap_append, List.flatMap_cons, List.flatMap_nil, List.append_nil, List.append_assoc] at hstep
      rw [hkeep, List.flatMap_cons, List.flatMap_cons]
      exact hstep

/-- What does not see such groups does not see what a cache leaves out. -/
theorem SkipsHeld.changed {α : Type} {t : Tables} {f : Bytes → α} (h : t.SkipsHeld f) {c : RegisterCache} (hc : t.Bears c)
    {values : List Setting} (hn : (values.map Prod.fst).Nodup) :
    f ((c.changed values).flatMap Driver.settingBytes) = f (values.flatMap Driver.settingBytes) := by
  have hn' : (([] ++ values).map Prod.fst).Nodup := hn
  exact h.changed_behind hc hn'

end Tables

end NfcHost
