import NfcHost.Proofs.Completion
import NfcHost.Proofs.RawEffect

/-!
# Writings that list a register more than once

A writing that relies on a cache leaves out the pairs that agree with what was known before the call, while the chip applies
what is left pair by pair, and everything is entered afterwards. On a list that gives a register several values these three
views come apart where the last of them is the one known: that pair is left out, and another of the register is sent
(`Cache.Overlooks`). What such a writing leaves is compared, register by register, with what the plain one leaves
(`overlooked_writes`).
-/

namespace NfcHost

variable {ι : Type} {b : Behaviour ι}

namespace Driver

/-- What a writing leaves: the pairs that were pending are in the chip, and all pairs are known. -/
structure Wrote (d : Driver .ready (Chip b)) (values : List Setting) (useCache : Bool) (d' : Driver .ready (Chip b)) :
    Prop where
  tables : d'.chip.tables = d.chip.tables.write ((d.pending values useCache).flatMap settingBytes)
  known : ∀ r, d'.registers.get? r = (lastValue r values).or (d.registers.get? r)
  items : d'.rfItems = d.rfItems

/-- A writing that ends well has entered its pairs, over any channel. -/
theorem known_writeRegisters {σ : Type} [Channel σ] {d d' : Driver .ready σ} {values : List Setting} {useCache : Bool}
    (h : (writeRegisters values useCache).Ends d (.ok ()) d') (r : Register) :
    d'.registers.get? r = (lastValue r values).or (d.registers.get? r) := by
  rw [← h.2]
  exact ((meets_writeRegisters_holding values useCache).of_ok ⟨rfl, rfl⟩ h.1).of_writing.1 r

/-- A writing to a quiet chip that answers. -/
theorem ends_writeRegisters_wrote (hb : b.Answering) {d : Driver .ready (Chip b)} (hq : d.chip.outgoing = [])
    {values : List Setting} (useCache : Bool)
    (hl : ((d.pending values useCache).flatMap settingBytes).length < Frame.maxBody) :
    ∃ d', (writeRegisters values useCache).Ends d (.ok ()) d' ∧ d.Wrote values useCache d' := by
  by_cases hnone : (d.pending values useCache).isEmpty = true
  · have hends := ends_writeRegisters_nothing hnone
    refine ⟨d, hends, ?_, known_writeRegisters hends, rfl⟩
    rw [List.isEmpty_iff.1 hnone]
    rfl
  · have hends := ends_writeRegisters hnone (ends_execute_answering hb hq .writeRegister d.settings.commandTimeout hl)
    exact ⟨_, hends, tables_afterCommand hb d _ _, known_writeRegisters hends, rfl⟩

section Wrote

variable {d d' : Driver .ready (Chip b)} {values : List Setting} {useCache : Bool}

/-- Behind a writing the driver is coherent if the chip holds what was listed last. -/
theorem Wrote.coherent_iff (h : d.Wrote values useCache d') (hd : d.Coherent) :
    d'.Coherent ↔
      ∀ r, d'.chip.tables.registers r.address = (lastValue r values).getD (d.chip.tables.registers r.address) := by
  constructor
  · intro hd' r
    cases hlast : lastValue r values with
    | some v =>
      refine hd'.registers r v ?_
      rw [h.known, hlast, Option.some_or]
    | none =>
      have hpending : lastValue r (d.pending values useCache) = none := by
        cases useCache
        · exact hlast
        · exact lastValue_filter_none _ hlast
      rw [h.tables, Tables.registers_write, hpending]
  · intro hheld
    refine ⟨hd.registers.listed h.known hheld, ?_⟩
    rw [h.tables, h.items]
    exact hd.items.write _

/-- A writing leaves registers alone that are not listed. -/
theorem Wrote.unlisted (h : d.Wrote values useCache d') {a : UInt16} (ha : ∀ p ∈ values, p.1.address ≠ a) :
    d'.chip.tables.registers a = d.chip.tables.registers a := by
  rw [h.tables]
  refine Tables.registers_write_other _ fun hnamed => ?_
  rw [Tables.named_settingBytes, List.mem_map] at hnamed
  obtain ⟨p, hp, hpa⟩ := hnamed
  cases useCache
  · exact ha p hp hpa
  · exact ha p (List.mem_filter.1 hp).1 hpa

/-- Behind a writing, what is pending of the same list is what is not listed last. -/
theorem Wrote.pending_again (h : d.Wrote values useCache d') :
    d'.pending values true = [] ↔ ∀ p ∈ values, lastValue p.1 values = some p.2 := by
  refine Cache.changed_eq_nil.trans (forall₂_congr fun p hp => ?_)
  obtain ⟨v, hlast⟩ := exists_lastValue (show (p.1, p.2) ∈ values from hp)
  rw [h.known, hlast, Option.some_or]

end Wrote

end Driver

open Driver in
/-- A writing that relies on the cache and the plain one, from a coherent driver to a quiet chip that answers, whatever the
list repeats. Both end well. Behind the plain one every register holds the value listed last for it, and what is known is
right. Behind the other every register holds the same, and what is known is right, exactly if no register is overlooked; one
that is holds another value than the one listed last, which is taken for known. No other address and no item is touched. The
same writing once more is left out exactly if every register is listed with one value only. -/
theorem overlooked_writes (b : Behaviour ι) (hb : b.Answering) (d : Driver .ready (Chip b)) (hd : d.Coherent)
    (hq : d.chip.outgoing = []) (values : List Setting) (hl : (values.flatMap settingBytes).length < Frame.maxBody) :
    ∃ d' d'', (writeRegisters values true).Ends d (.ok ()) d' ∧ (writeRegisters values false).Ends d (.ok ()) d'' ∧
      (∀ r, d''.chip.tables.registers r.address = (lastValue r values).getD (d.chip.tables.registers r.address)) ∧
      (∀ r, d'.chip.tables.registers r.address = d''.chip.tables.registers r.address ↔ ¬d.registers.Overlooks values r) ∧
      d''.Coherent ∧ (d'.Coherent ↔ ∀ r, ¬d.registers.Overlooks values r) ∧
      (∀ a, (∀ p ∈ values, p.1.address ≠ a) → d'.chip.tables.registers a = d.chip.tables.registers a ∧
        d''.chip.tables.registers a = d.chip.tables.registers a) ∧
      d'.chip.tables.items = d.chip.tables.items ∧ d''.chip.tables.items = d.chip.tables.items ∧
      ((writeRegisters values true).run d' = ⟨.ok (), d', [⟨d'.label, .writeLeftOut⟩]⟩ ↔
        ∀ p ∈ values, lastValue p.1 values = some p.2) := by
  have hfits : ((d.pending values true).flatMap settingBytes).length < Frame.maxBody := by
    have hshorter : (d.registers.changed values).length ≤ values.length := List.length_filter_le _ _
    rw [Tables.length_settingBytes] at hl ⊢
    exact Nat.lt_of_le_of_lt (Nat.mul_le_mul_left 3 hshorter) hl
  obtain ⟨d', hcached, hwrote⟩ := ends_writeRegisters_wrote hb hq true hfits
  obtain ⟨d'', hplain, hwrote'⟩ := ends_writeRegisters_wrote hb hq false hl
  have hlisted (r : Register) :
      d''.chip.tables.registers r.address = (lastValue r values).getD (d.chip.tables.registers r.address) := by
    rw [hwrote'.tables]
    exact Tables.registers_write _ values r
  have hsame (r : Register) : d'.chip.tables.registers r.address =
      (lastValue r values).getD (d.chip.tables.registers r.address) ↔ ¬d.registers.Overlooks values r := by
    rw [hwrote.tables]
    exact hd.registers.registers_write_changed values r
  refine ⟨d', d'', hcached, hplain, hlisted, fun r => ?_, (hwrote'.coherent_iff hd).2 hlisted,
    (hwrote.coherent_iff hd).trans (forall_congr' hsame), fun a ha => ⟨hwrote.unlisted ha, hwrote'.unlisted ha⟩,
    ?_, ?_, (run_writeRegisters_leftOut d' values true).trans hwrote.pending_again⟩
  · rw [hlisted]
    exact hsame r
  · rw [hwrote.tables]
    exact Tables.items_write _ _
  · rw [hwrote'.tables]
    exact Tables.items_write _ _

open Driver in
/-- The transmission mode is known to be 0x80 and listed with zero and 0x80: it is overlooked, and holds zero afterwards. -/
theorem overlooked_writes_txMode :
    (knowingTxMode 0x80).registers.Overlooks [(.txMode, 0x00), (.txMode, 0x80)] .txMode ∧
      ∃ d' d'', (writeRegisters [(.txMode, 0x00), (.txMode, 0x80)] true).Ends (knowingTxMode 0x80) (.ok ()) d' ∧
        (writeRegisters [(.txMode, 0x00), (.txMode, 0x80)] false).Ends (knowingTxMode 0x80) (.ok ()) d'' ∧
        d''.chip.tables.registers Register.txMode.address = 0x80 ∧
        d'.chip.tables.registers Register.txMode.address ≠ d''.chip.tables.registers Register.txMode.address ∧
        ¬d'.Coherent := by
  have hanswers : Behaviour.prompt.Answering := fun _ _ _ _ => rfl
  have hover : (knowingTxMode 0x80).registers.Overlooks [(.txMode, 0x00), (.txMode, 0x80)] .txMode :=
    ⟨0x80, rfl, rfl, 0x00, List.mem_cons_self, by decide⟩
  obtain ⟨d', d'', hcached, hplain, hlisted, hsame, -, hcoherent, -⟩ :=
    overlooked_writes Behaviour.prompt hanswers (knowingTxMode 0x80) (coherent_knowingTxMode 0x80) rfl
      [(.txMode, 0x00), (.txMode, 0x80)] (by decide)
  exact ⟨hover, d', d'', hcached, hplain, hlisted .txMode, fun h => (hsame .txMode).1 h hover,
    fun h => hcoherent.1 h .txMode hover⟩

open Driver in
/-- That a writing that relies on the cache leaves what is listed last is false: there the chip is left with zero. -/
theorem writes_listed_last_false :
    ¬∀ (b : Behaviour Nat) (d d' : Driver .ready (Chip b)) (values : List Setting), b.Answering → d.Coherent →
      d.chip.outgoing = [] → (values.flatMap settingBytes).length < Frame.maxBody →
      (writeRegisters values true).Ends d (.ok ()) d' →
      ∀ r v, lastValue r values = some v → d'.chip.tables.registers r.address = v := by
  intro h
  have hlast := h Behaviour.prompt (knowingTxMode 0x80) _ [(.txMode, 0x00), (.txMode, 0x80)] (fun _ _ _ _ => rfl)
    (coherent_knowingTxMode 0x80) rfl (by decide) ⟨rfl, rfl⟩ .txMode 0x80 rfl
  have hheld : (0x00 : UInt8) = 0x80 := hlast
  nomatch hheld

end NfcHost
