import NfcHost.Proofs.Access
import NfcHost.Proofs.Bounds
import NfcHost.Proofs.Operations

/-!
# What a driver completes

What counts for the caches of a driver, as it is completed: a reading with its values, a writing with all its pairs, the
configuration of an item, and the forgetting of everything (`Completion`). What a list of completions says of a key is what the
last one since the last forgetting says of it (`lastKnown`). The three steps that enter values in a cache enter exactly that,
over any channel: also those that are served from a cache or left out, since what they would enter is known already; and those
that end in a fault enter nothing.
-/

namespace NfcHost

/-- Something completed that counts for the caches. -/
inductive Completion where
  /-- Both caches were forgotten. -/
  | forgetting
  /-- Registers were read. -/
  | reading (registers : List Register) (values : Bytes)
  /-- Pairs were written. -/
  | writing (values : List Setting)
  /-- An item of the RF configuration was written. -/
  | configuring (item : RfItem) (value : Bytes)
  deriving DecidableEq

namespace Completion

/-- The registers that are given a value, in order. -/
def settings : Completion → List Setting
  | reading registers values => registers.zip values
  | writing values => values
  | forgetting | configuring .. => []

/-- The item that is given a value. -/
def items : Completion → List (RfItem × Bytes)
  | configuring item value => [(item, value)]
  | forgetting | reading .. | writing _ => []

end Completion

/-! ## What completions say of a key -/

/-- The completions behind the last forgetting. -/
def sinceForgotten : List Completion → List Completion
  | [] => []
  | c :: rest => if .forgetting ∈ rest then sinceForgotten rest else if c = .forgetting then rest else c :: rest

/-- Behind a forgetting, what came before it does not count. -/
theorem sinceForgotten_append (first second : List Completion) :
    sinceForgotten (first ++ second) =
      if .forgetting ∈ second then sinceForgotten second else sinceForgotten first ++ second := by
  induction first with
  | nil =>
    by_cases hsecond : Completion.forgetting ∈ second
    · rw [if_pos hsecond, List.nil_append]
    · rw [if_neg hsecond]
      cases second with
      | nil => rfl
      | cons c rest =>
        rw [List.mem_cons, not_or] at hsecond
        show sinceForgotten (c :: rest) = c :: rest
        rw [sinceForgotten, if_neg hsecond.2, if_neg (Ne.symm hsecond.1)]
  | cons c rest ih =>
    rw [List.cons_append, sinceForgotten, ih, sinceForgotten]
    by_cases hsecond : Completion.forgetting ∈ second
    · simp [hsecond]
    · by_cases hrest : Completion.forgetting ∈ rest
      · simp [hsecond, hrest]
      · by_cases hc : c = .forgetting <;> simp [hsecond, hrest, hc]

section LastKnown

variable {κ ν : Type} [DecidableEq κ]

/-- The value of a key in lists one behind the other. -/
theorem lastValue_append (k : κ) (first second : List (κ × ν)) :
    lastValue k (first ++ second) = (lastValue k second).or (lastValue k first) := by
  induction first with
  | nil => exact Option.or_none.symm
  | cons p rest ih =>
    obtain ⟨q, v⟩ := p
    rw [List.cons_append, lastValue, lastValue, ih, Option.or_assoc]

/-- What is known of a key behind completions, given what was known before: the last value given since everything was
forgotten, else what was known before, if nothing was forgotten. -/
def lastKnown (pairs : Completion → List (κ × ν)) (k : κ) (completions : List Completion) (before : Option ν) : Option ν :=
  (lastValue k ((sinceForgotten completions).flatMap pairs)).or (if .forgetting ∈ completions then none else before)

variable (pairs : Completion → List (κ × ν)) (k : κ)

theorem lastKnown_nil (before : Option ν) : lastKnown pairs k [] before = before := rfl

/-- Where nothing was known before, what counts is the last value given since everything was forgotten. -/
theorem lastKnown_none (completions : List Completion) :
    lastKnown pairs k completions none = lastValue k ((sinceForgotten completions).flatMap pairs) := by
  rw [lastKnown, ite_self, Option.or_none]

theorem lastKnown_singleton {c : Completion} (hc : c ≠ .forgetting) (before : Option ν) :
    lastKnown pairs k [c] before = (lastValue k (pairs c)).or before := by
  have hsince : sinceForgotten [c] = [c] := by
    rw [sinceForgotten, if_neg List.not_mem_nil, if_neg hc]
  have hnot : Completion.forgetting ∉ [c] := fun h => hc (List.mem_singleton.1 h).symm
  rw [lastKnown, hsince, if_neg hnot, List.flatMap_singleton]

/-- What is known behind completions one list after the other. -/
theorem lastKnown_append (first second : List Completion) (before : Option ν) :
    lastKnown pairs k (first ++ second) before = lastKnown pairs k second (lastKnown pairs k first before) := by
  unfold lastKnown
  rw [sinceForgotten_append]
  by_cases hsecond : Completion.forgetting ∈ second
  · simp [hsecond]
  · have hsince : sinceForgotten second = second := by
      have happend := sinceForgotten_append [] second
      rwa [if_neg hsecond] at happend
    rw [if_neg hsecond, if_neg hsecond, List.flatMap_append, lastValue_append, hsince, Option.or_assoc]
    simp [hsecond]

end LastKnown

/-! ## What is known already -/

/-- Pairs that a cache holds already say nothing new. -/
theorem Cache.or_get?_of_mem {κ ν : Type} [DecidableEq κ] {c : Cache κ ν} {pairs : List (κ × ν)}
    (h : ∀ p ∈ pairs, c.get? p.1 = some p.2) (k : κ) : (lastValue k pairs).or (c.get? k) = c.get? k := by
  cases hlast : lastValue k pairs with
  | none => rfl
  | some v => exact (h _ (mem_of_lastValue hlast)).symm

/-- What is served from a cache is held there. -/
theorem Cache.get?_of_getAll? {κ ν : Type} [DecidableEq κ] {c : Cache κ ν} {keys : List κ} {values : List ν}
    (h : c.getAll? keys = some values) : values.length = keys.length ∧ ∀ p ∈ keys.zip values, c.get? p.1 = some p.2 := by
  induction keys generalizing values with
  | nil =>
    obtain rfl := Option.some.inj h
    exact ⟨rfl, nofun⟩
  | cons k rest ih =>
    simp only [Cache.getAll?, bind, Option.bind_eq_some_iff, pure, Option.some.injEq] at h
    obtain ⟨v, hk, vs, hrest, rfl⟩ := h
    obtain ⟨hlength, hheld⟩ := ih hrest
    refine ⟨congrArg (· + 1) hlength, ?_⟩
    rw [List.zip_cons_cons, List.forall_mem_cons]
    exact ⟨hk, hheld⟩

/-- A cache leaves out all pairs exactly if they are held there. -/
theorem Cache.changed_eq_nil {κ ν : Type} [DecidableEq κ] [DecidableEq ν] {c : Cache κ ν} {pairs : List (κ × ν)} :
    c.changed pairs = [] ↔ ∀ p ∈ pairs, c.get? p.1 = some p.2 := by
  simp [changed, List.filter_eq_nil_iff]

/-! ## What the steps of a driver leave in its caches -/

namespace Driver

open Act

variable {phase : Phase} {σ : Type}

/-- The caches of the driver. -/
structure Holding (registers : RegisterCache) (items : RfCache) (d : Driver phase σ) : Prop where
  registers : d.registers = registers
  items : d.rfItems = items

/-- The driver's caches are what completions make of caches. -/
structure Accounts (completions : List Completion) (registers : RegisterCache) (items : RfCache) (d : Driver phase σ) :
    Prop where
  registers : ∀ r, d.registers.get? r = lastKnown Completion.settings r completions (registers.get? r)
  items : ∀ i, d.rfItems.get? i = lastKnown Completion.items i completions (items.get? i)

variable {registers : RegisterCache} {items : RfCache} {d : Driver phase σ}

/-- What leaves the caches alone. -/
theorem Holding.accounts (h : Holding registers items d) : Accounts [] registers items d :=
  ⟨fun r => by rw [h.registers, lastKnown_nil], fun i => by rw [h.items, lastKnown_nil]⟩

/-- Completions one list after the other. -/
theorem Accounts.append {first second : List Completion} {d' : Driver phase σ} (h : Accounts first registers items d)
    (h' : Accounts second d.registers d.rfItems d') : Accounts (first ++ second) registers items d' :=
  ⟨fun r => by rw [h'.registers, h.registers, lastKnown_append], fun i => by rw [h'.items, h.items, lastKnown_append]⟩

/-- What gives values to registers. -/
theorem Accounts.settings {c : Completion} (hc : c ≠ .forgetting) (hitems : c.items = []) (hd : d.rfItems = items)
    (h : ∀ r, d.registers.get? r = (lastValue r c.settings).or (registers.get? r)) : Accounts [c] registers items d := by
  refine ⟨fun r => ?_, fun i => ?_⟩
  · rw [h, lastKnown_singleton _ _ hc]
  · rw [hd, lastKnown_singleton _ _ hc, hitems]
    rfl

/-- One completion gives registers and items the values that it lists last. -/
theorem Accounts.of_single {c : Completion} (h : Accounts [c] registers items d) (hc : c ≠ .forgetting) :
    (∀ r, d.registers.get? r = (lastValue r c.settings).or (registers.get? r)) ∧
      ∀ i, d.rfItems.get? i = (lastValue i c.items).or (items.get? i) :=
  ⟨fun r => by rw [h.registers, lastKnown_singleton _ _ hc], fun i => by rw [h.items, lastKnown_singleton _ _ hc]⟩

/-- A writing gives the registers the values listed last, and the items none. -/
theorem Accounts.of_writing {values : List Setting} (h : Accounts [.writing values] registers items d) :
    (∀ r, d.registers.get? r = (lastValue r values).or (registers.get? r)) ∧ ∀ i, d.rfItems.get? i = items.get? i :=
  h.of_single nofun

/-- What gives a value to an item. -/
theorem Accounts.item {item : RfItem} {value : Bytes} (hd : d.registers = registers)
    (h : ∀ i, d.rfItems.get? i = if item = i then some value else items.get? i) :
    Accounts [.configuring item value] registers items d := by
  have hc : Completion.configuring item value ≠ .forgetting := nofun
  refine ⟨fun r => ?_, fun i => ?_⟩
  · rw [hd, lastKnown_singleton _ _ hc]
    rfl
  · rw [h, lastKnown_singleton _ _ hc, Completion.items, lastValue, lastValue]
    split <;> rfl

variable [Channel σ]

theorem keeps_sendCommand_holding (command : Command) (args : Bytes) (timeout : Duration) :
    (sendCommand command args timeout : Act (Driver phase σ) (Option Bytes)).Keeps (Holding registers items) :=
  (Keeps.tell _ _).bind fun _ => (Keeps.lift _).bind fun _ => fun _ h => ⟨h.registers, h.items⟩

theorem keeps_execute_holding (command : Command) (args : Bytes) (timeout : Duration) :
    (execute command args timeout : Act (Driver phase σ) Bytes).Keeps (Holding registers items) :=
  congr_execute (keeps_congruence _) (keeps_sendCommand_holding command args timeout)

/-- A fetch that completes enters its values, and one that does not enters nothing. -/
theorem meets_fetchRegisters_holding (asked : List Register) :
    (fetchRegisters asked : Act (Driver .ready σ) Bytes).Meets (Holding registers items)
      (fun values d => values.length = asked.length ∧ Accounts [.reading asked values] registers items d)
      (fun _ => Holding registers items) := by
  -- too many registers for one frame are refused; fewer are also few enough for the slice to take all their values
  by_cases hl : (asked.flatMap Register.addressBytes).length < Frame.maxBody
  · have hshort : 0 + asked.length < 0x10000000000000000 := by
      rw [Register.length_addressBytes, Frame.maxBody] at hl
      omega
    have hslice {reply values : Bytes} (h : Bytes.slice reply 0 asked.length = .ok values) :
        values.length = asked.length := by
      have hread := Bytes.inBounds_slice reply hshort
      rw [h] at hread
      exact hread.2
    refine (Keeps.look _).meets.bind fun timeout => (keeps_execute_holding _ _ _).meets.bind fun reply => ?_
    refine Meets.bind (Meets.lift (fun values h d hd => And.intro (hslice h) hd) fun _ _ _ hd => hd) fun values =>
      Meets.assume fun hlength => ?_
    have hnote : (noteReadings (asked.zip values) : Act (Driver .ready σ) Unit).Meets (Holding registers items)
        (fun _ => Accounts [.reading asked values] registers items) (fun _ => Holding registers items) := by
      refine Meets.of_ends fun d hd => ⟨(), _, ends_noteReadings _ d, ?_⟩
      refine Accounts.settings (by rintro ⟨⟩) rfl hd.items fun r => ?_
      rw [← hd.registers]
      exact Cache.get?_insertAll _ _ _
    exact hnote.bind fun _ => Meets.done fun d hd => ⟨hlength, hd⟩
  · intro d hd
    exact (ends_fetchRegisters_error (ends_execute_long d .readRegister d.settings.commandTimeout hl)).meets_error hd

/-- A reading that completes enters its values, also one that is served from the cache, which holds them already. -/
theorem meets_readRegisters_holding (asked : List Register) (useCache : Bool) :
    (readRegisters asked useCache : Act (Driver .ready σ) Bytes).Meets (Holding registers items)
      (fun values d => values.length = asked.length ∧ Accounts [.reading asked values] registers items d)
      (fun _ => Holding registers items) := by
  intro d hd
  rcases hknown : (if useCache then d.registers.getAll? asked else none) with _ | values
  · refine Ends.bind_meets (Ends.look _ d) ?_
    rw [hknown]
    exact meets_fetchRegisters_holding asked d hd
  · refine (ends_readRegisters_known hknown).meets_ok ?_
    have hall : d.registers.getAll? asked = some values := by
      cases useCache with
      | true => exact hknown
      | false => nomatch hknown
    obtain ⟨hlength, hheld⟩ := Cache.get?_of_getAll? hall
    refine ⟨hlength, Accounts.settings (by rintro ⟨⟩) rfl hd.items fun r => ?_⟩
    rw [← hd.registers]
    exact (Cache.or_get?_of_mem hheld r).symm

/-- A writing that completes enters all its pairs, also those it leaves out, which the cache holds already. -/
theorem meets_writeRegisters_holding (values : List Setting) (useCache : Bool) :
    (writeRegisters values useCache : Act (Driver .ready σ) Unit).Meets (Holding registers items)
      (fun _ => Accounts [.writing values] registers items) (fun _ => Holding registers items) := by
  intro d hd
  by_cases hnone : (d.pending values useCache).isEmpty = true
  · refine (ends_writeRegisters_nothing hnone).meets_ok ?_
    refine Accounts.settings (by rintro ⟨⟩) rfl hd.items fun r => ?_
    have hheld : ∀ p ∈ values, d.registers.get? p.1 = some p.2 := by
      have hempty := List.isEmpty_iff.1 hnone
      cases useCache with
      | true => exact Cache.changed_eq_nil.1 hempty
      | false =>
        rw [show values = [] from hempty]
        exact nofun
    rw [← hd.registers]
    exact (Cache.or_get?_of_mem hheld r).symm
  · refine Ends.bind_meets (ends_pending d values useCache) ?_
    rw [if_neg hnone]
    have htell : (tellWrites (d.pending values useCache) : Act (Driver .ready σ) Unit).Meets (Holding registers items)
        (fun _ => Holding registers items) (fun _ => Holding registers items) :=
      Meets.of_ends fun d hd => ⟨(), d, ends_tellWrites _ d, hd⟩
    have hnote : (Act.change fun d => { d with registers := d.registers.insertAll values } :
        Act (Driver .ready σ) Unit).Meets (Holding registers items) (fun _ => Accounts [.writing values] registers items)
        (fun _ => Holding registers items) := by
      intro d hd
      refine Accounts.settings (by rintro ⟨⟩) rfl hd.items fun r => ?_
      rw [← hd.registers]
      exact Cache.get?_insertAll _ _ _
    refine (htell.bind fun _ => (Keeps.look _).meets.bind fun timeout => ?_) d hd
    exact (keeps_execute_holding _ _ _).meets.bind fun _ => hnote

/-- An item whose configuration completes is entered, also one that is left out, which the cache holds already. -/
theorem meets_applyItem_holding (item : RfItem) (value : Bytes) (useCache : Bool) (timeout : Duration) :
    (applyItem item value useCache timeout : Act (Driver phase σ) Unit).Meets (Holding registers items)
      (fun _ => Accounts [.configuring item value] registers items) (fun _ => Holding registers items) := by
  intro d hd
  by_cases hknown : useCache = true ∧ d.rfItems.get? item = some value
  · refine (ends_applyItem_known timeout hknown).meets_ok ?_
    refine Accounts.item hd.registers fun i => ?_
    rw [← hd.items]
    split
    · rename_i hi
      rw [← hi]
      exact hknown.2
    · rfl
  · rw [run_applyItem_sent timeout hknown]
    refine ((keeps_execute_holding _ _ _).meets.bind fun _ => ?_) d hd
    intro d hd
    refine Accounts.item hd.registers fun i => ?_
    rw [← hd.items]
    exact Cache.get?_insert _ _ _ _

end Driver

end NfcHost
