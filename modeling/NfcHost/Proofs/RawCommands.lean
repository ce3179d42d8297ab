import NfcHost.Proofs.Coherence
import NfcHost.Proofs.LinkInvariant

/-!
# Commands that the host sends as they are

A host may send any command with any arguments. The driver sends it, enters nothing and forgets nothing, so a command that
changes registers or items leaves what is known of them behind. The statements say which entries a command can turn wrong
(`Command.Touches`, `Command.TouchesItem`), over a chip of any behaviour with anything on its way to the host, and that no
other entry is (`wrong_only_where_touched`).
-/

namespace NfcHost

/-! ## What a command touches -/

namespace Command

/-- The command may change the register: it writes it, or has the chip set up its own radio. -/
def Touches (command : Command) (args : Bytes) (r : Register) : Prop :=
  match command with
  | writeRegister => r.address ∈ Tables.named args
  | inListPassiveTarget | tgInitAsTarget => True
  | _ => False

/-- The command may change the item: it configures it, or has the chip set up its own radio. -/
def TouchesItem (command : Command) (args : Bytes) (i : RfItem) : Prop :=
  match command with
  | rfConfiguration => args.head? = some i.code
  | inListPassiveTarget | tgInitAsTarget => True
  | _ => False

/-- A harmless command touches nothing. -/
theorem Harmless.untouched {command : Command} (h : command.Harmless) (args : Bytes) :
    (∀ r, ¬command.Touches args r) ∧ ∀ i, ¬command.TouchesItem args i := by
  cases command <;> first | exact ⟨fun _ => id, fun _ => id⟩ | exact absurd h (by decide)

end Command

variable {ι : Type} {b : Behaviour ι}

namespace Chip

variable (c : Chip b) {command : Command} {args : Bytes}

/-- What holds of the tables before a command and of what a received command makes of them holds behind it. -/
theorem obey_tables_cases {P : Tables → Prop} {code : UInt8} (h : P c.tables) (hafter : P (c.tablesAfter code args)) :
    P (c.obey code args).tables := by
  simp only [obey]
  split
  · exact hafter
  · exact h

/-- A register that is not touched is left alone, whether the command is received or not. -/
theorem registers_obey_untouched {r : Register} (h : ¬command.Touches args r) :
    (c.obey command.code args).tables.registers r.address = c.tables.registers r.address := by
  refine c.obey_tables_cases (P := fun t => t.registers r.address = c.tables.registers r.address) rfl ?_
  cases command with
  | writeRegister => exact Tables.registers_write_other _ h
  | rfConfiguration => cases args <;> rfl
  | inListPassiveTarget => exact absurd trivial h
  | tgInitAsTarget => exact absurd trivial h
  | _ => rfl

/-- So is an item. -/
theorem items_obey_untouched {i : RfItem} (h : ¬command.TouchesItem args i) :
    (c.obey command.code args).tables.items i.code = c.tables.items i.code := by
  refine c.obey_tables_cases (P := fun t => t.items i.code = c.tables.items i.code) rfl ?_
  cases command with
  | writeRegister => exact congrFun (Tables.items_write _ _) _
  | rfConfiguration =>
    cases args with
    | nil => rfl
    | cons code value => exact if_neg fun hcode => h (congrArg some hcode.symm)
  | inListPassiveTarget => exact absurd trivial h
  | tgInitAsTarget => exact absurd trivial h
  | _ => rfl

end Chip

/-! ## What a command leaves -/

namespace Link

/-- Behind its first write an exchange leaves the tables alone. -/
theorem outlasts_tables (t : Tables) (timeout : Duration) :
    Outlasts (fun l : Link (Chip b) => l.channel.tables = t) timeout where
  stage _ _ h := h
  receive _ := fun _ h => h
  ack := fun l h => (congrArg Chip.tables (Chip.receiveBytes_ack l.channel)).trans h

/-- A command that is carried by an exchange is obeyed, whatever is on its way to the host. -/
theorem tables_exchange {write : Bytes} {code : UInt8} {args : Bytes}
    (hw : MemoryChannel.frameIn write = some (Frame.command code args)) (timeout : Duration) (l : Link (Chip b)) :
    ((exchange write timeout).run l).state.channel.tables = (l.channel.obey code args).tables := by
  refine (outlasts_tables (l.channel.obey code args).tables timeout).exchange ?_
  show (l.channel.receiveBytes write).tables = _
  rw [Chip.receiveBytes_command hw]
  rfl

end Link

namespace Driver

variable {phase : Phase}

/-- A command that fits is obeyed, and one that does not fit changes nothing. -/
theorem tables_execute (d : Driver phase (Chip b)) (command : Command) (args : Bytes) (timeout : Duration) :
    ((execute command args timeout).run d).state.chip.tables =
      if args.length < Frame.maxBody then (d.chip.obey command.code args).tables else d.chip.tables := by
  rw [state_execute]
  split
  · rename_i hl
    have hframe : MemoryChannel.frameIn (Frame.command command.code args).wire = some (Frame.command command.code args) :=
      MemoryChannel.frameIn_wire hl
    exact Link.tables_exchange hframe timeout d.link
  · rfl

/-- A command enters nothing and forgets nothing. -/
theorem caches_execute {σ : Type} [Channel σ] (d : Driver phase σ) (command : Command) (args : Bytes) (timeout : Duration) :
    ((execute command args timeout).run d).state.registers = d.registers ∧
      ((execute command args timeout).run d).state.rfItems = d.rfItems := by
  rw [state_execute]
  split
  · exact ⟨rfl, rfl⟩
  · exact ⟨rfl, rfl⟩

section Coherent

variable {d : Driver phase (Chip b)} (hd : d.Coherent) {command : Command} {args : Bytes} (timeout : Duration)
include hd

/-- What is known of a register that is not touched stays right. -/
theorem Coherent.register_execute {r : Register} {v : UInt8} (hv : d.registers.get? r = some v)
    (h : args.length < Frame.maxBody → ¬command.Touches args r) :
    ((execute command args timeout).run d).state.chip.tables.registers r.address = v := by
  rw [tables_execute]
  split
  · rename_i hl
    rw [Chip.registers_obey_untouched _ (h hl)]
    exact hd.registers r v hv
  · exact hd.registers r v hv

/-- So does what is known of an item. -/
theorem Coherent.item_execute {i : RfItem} {v : Bytes} (hv : d.rfItems.get? i = some v)
    (h : args.length < Frame.maxBody → ¬command.TouchesItem args i) :
    ((execute command args timeout).run d).state.chip.tables.items i.code = v := by
  rw [tables_execute]
  split
  · rename_i hl
    rw [Chip.items_obey_untouched _ (h hl)]
    exact hd.items i v hv
  · exact hd.items i v hv

end Coherent

/-- A command sent when the caches are forgotten leaves nothing to be wrong. -/
theorem coherent_execute_forgotten (d : Driver phase (Chip b)) (command : Command) (args : Bytes) (timeout : Duration) :
    ((execute command args timeout).run d.forgotten).state.Coherent := by
  obtain ⟨hregisters, hitems⟩ := caches_execute d.forgotten command args timeout
  constructor
  · rw [hregisters]
    exact Tables.bears_empty _
  · rw [hitems]
    exact Tables.bearsItems_empty _

end Driver

open Driver in
/-- A command that the host sends as it is, from a coherent driver, over a chip of any behaviour with anything on its way to
the host. What is known stays what it was, and the chip has obeyed, if the command fits into a frame. An entry that is wrong
afterwards is one of a register or an item that the command touches; a harmless command leaves the driver coherent. Any
command does if the caches are forgotten before. -/
theorem wrong_only_where_touched {phase : Phase} (d : Driver phase (Chip b)) (hd : d.Coherent) (command : Command)
    (args : Bytes) (timeout : Duration) :
    let d' := ((execute command args timeout).run d).state
    (d'.registers = d.registers ∧ d'.rfItems = d.rfItems) ∧
    (d'.chip.tables = if args.length < Frame.maxBody then (d.chip.obey command.code args).tables else d.chip.tables) ∧
    (∀ r v, d'.registers.get? r = some v → d'.chip.tables.registers r.address ≠ v →
      args.length < Frame.maxBody ∧ command.Touches args r) ∧
    (∀ i v, d'.rfItems.get? i = some v → d'.chip.tables.items i.code ≠ v →
      args.length < Frame.maxBody ∧ command.TouchesItem args i) ∧
    (command.Harmless → d'.Coherent) ∧
    ((execute command args timeout).run d.forgotten).state.Coherent := by
  intro d'
  obtain ⟨hregisters, hitems⟩ := caches_execute d command args timeout
  refine ⟨⟨hregisters, hitems⟩, tables_execute d command args timeout, fun r v hv hwrong => ?_, fun i v hv hwrong => ?_,
    fun hharmless => ⟨fun r v hv => ?_, fun i v hv => ?_⟩, coherent_execute_forgotten d command args timeout⟩
  · rw [hregisters] at hv
    exact Classical.byContradiction fun hno => hwrong (hd.register_execute timeout hv fun hl ht => hno ⟨hl, ht⟩)
  · rw [hitems] at hv
    exact Classical.byContradiction fun hno => hwrong (hd.item_execute timeout hv fun hl ht => hno ⟨hl, ht⟩)
  · rw [hregisters] at hv
    exact hd.register_execute timeout hv fun _ => (hharmless.untouched args).1 r
  · rw [hitems] at hv
    exact hd.item_execute timeout hv fun _ => (hharmless.untouched args).2 i

open Driver in
/-- The transmission mode is known to be zero, and the host writes 0x80 to it by a command of its own. -/
theorem wrong_only_where_touched_txMode :
    let d' := ((execute .writeRegister [0x63, 0x02, 0x80] defaultCommandTimeout).run (knowingTxMode 0x00)).state
    d'.registers.get? .txMode = some 0x00 ∧ d'.chip.tables.registers Register.txMode.address = 0x80 ∧
      Command.writeRegister.Touches [0x63, 0x02, 0x80] .txMode := by
  intro d'
  obtain ⟨⟨hregisters, -⟩, htables, hwrong, -⟩ := wrong_only_where_touched (knowingTxMode 0x00)
    (coherent_knowingTxMode 0x00) .writeRegister [0x63, 0x02, 0x80] defaultCommandTimeout
  have hknown : d'.registers.get? .txMode = some 0x00 := by
    rw [hregisters]
    rfl
  have hheld : d'.chip.tables.registers Register.txMode.address = 0x80 := by
    rw [htables]
    rfl
  refine ⟨hknown, hheld, (hwrong .txMode 0x00 hknown ?_).2⟩
  rw [hheld]
  decide

open Driver in
/-- That a command leaves what is known right is false: that one does not. -/
theorem coherent_behind_command_false :
    ¬∀ (b : Behaviour Nat) (d : Driver .ready (Chip b)) (command : Command) (args : Bytes) (timeout : Duration),
      b.Answering → d.Coherent → ((execute command args timeout).run d).state.Coherent := by
  intro h
  have hcoherent := h Behaviour.prompt (knowingTxMode 0x00) .writeRegister [0x63, 0x02, 0x80] defaultCommandTimeout
    (fun _ _ _ _ => rfl) (coherent_knowingTxMode 0x00)
  have hheld : (0x80 : UInt8) = 0x00 := hcoherent.registers .txMode 0x00 rfl
  nomatch hheld

end NfcHost
