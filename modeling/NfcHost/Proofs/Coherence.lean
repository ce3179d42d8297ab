import NfcHost.Proofs.Chip
import NfcHost.Proofs.Operations

/-!
# The caches tell the truth

A driver is coherent with its chip when every register and every item that it knows holds the value known
(`Driver.Coherent`). The statements say what one command of a driver does to that, then that every operation keeps it, and
from there that it holds between any two requests of a session. Two invariants carry this: a settled driver is coherent and
idle over a quiet chip; a blank one knows nothing, so the chip may rewrite its tables.
-/

namespace NfcHost

variable {ι : Type} {b : Behaviour ι}

namespace Driver

variable {phase : Phase}

/-- What the driver knows is what the chip holds. -/
structure Coherent (d : Driver phase (Chip b)) : Prop where
  /-- Of its registers. -/
  registers : d.chip.tables.Bears d.registers
  /-- Of its RF configuration. -/
  items : d.chip.tables.BearsItems d.rfItems

/-- The driver is coherent and nothing is under way. -/
structure Settled (d : Driver phase (Chip b)) : Prop extends Coherent d where
  /-- The chip has nothing left to say. -/
  quiet : d.chip.outgoing = []
  /-- The link is idle. -/
  idle : d.link.stage = .idle
  /-- Every value known fits into a command. -/
  short : ∀ i v, d.rfItems.get? i = some v → v.length + 1 < Frame.maxBody

/-- The driver knows nothing and nothing is under way. -/
structure Blank (d : Driver phase (Chip b)) : Prop where
  /-- No register is known. -/
  registers : d.registers = .empty
  /-- No item is known. -/
  items : d.rfItems = .empty
  /-- The chip has nothing left to say. -/
  quiet : d.chip.outgoing = []
  /-- The link is idle. -/
  idle : d.link.stage = .idle

/-- Who knows nothing is not mistaken. -/
theorem Blank.settled {d : Driver phase (Chip b)} (h : d.Blank) : d.Settled where
  registers := by
    rw [h.registers]
    exact Tables.bears_empty _
  items := by
    rw [h.items]
    exact Tables.bearsItems_empty _
  quiet := h.quiet
  idle := h.idle
  short := by
    rw [h.items]
    exact fun _ _ hv => nomatch hv

/-- Forgetting makes blank. -/
theorem Settled.forgets {d : Driver phase (Chip b)} (h : d.Settled) : d.forgotten.Blank where
  registers := rfl
  items := rfl
  quiet := h.quiet
  idle := h.idle

/-! ## One command -/

/-- A command that changes no table leaves the driver coherent. -/
theorem Coherent.unchanged {d : Driver phase (Chip b)} (h : d.Coherent) {command : Command} {args : Bytes}
    (ht : (d.chip.obey command.code args).tables = d.chip.tables) : (d.afterCommand command args).Coherent where
  registers := by
    have := h.registers
    rwa [← ht] at this
  items := by
    have := h.items
    rwa [← ht] at this

/-- A command that changes no table leaves the driver settled. -/
theorem Settled.unchanged {d : Driver phase (Chip b)} (h : d.Settled) {command : Command} {args : Bytes}
    (ht : (d.chip.obey command.code args).tables = d.chip.tables) : (d.afterCommand command args).Settled where
  toCoherent := h.toCoherent.unchanged ht
  quiet := h.quiet
  idle := rfl
  short := h.short

/-- A blank driver stays blank whatever the chip does. -/
theorem Blank.obeyed {d : Driver phase (Chip b)} (h : d.Blank) (command : Command) (args : Bytes) :
    (d.afterCommand command args).Blank where
  registers := h.registers
  items := h.items
  quiet := h.quiet
  idle := rfl

/-- Executing a command from a settled driver: it is received and answered, or it ends in a fault that leaves the driver
settled. -/
theorem Settled.execute {d : Driver phase (Chip b)} (h : d.Settled) (command : Command) (args : Bytes) (timeout : Duration) :
    (∃ payload, args.length < Frame.maxBody ∧ d.chip.answer? command.code args = some payload ∧
      (Driver.execute command args timeout).Ends d (.ok payload) (d.afterCommand command args)) ∨
    (∃ fault d', (Driver.execute command args timeout).Ends d (.error fault) d' ∧ d'.Settled) := by
  by_cases hl : args.length < Frame.maxBody
  · have hends := ends_execute h.quiet command timeout hl
    rcases hanswer : d.chip.answer? command.code args with _ | payload
    · rw [hanswer] at hends
      exact Or.inr ⟨_, _, hends, h.unchanged (Chip.tables_obey_unheard hanswer)⟩
    · rw [hanswer] at hends
      exact Or.inl ⟨payload, hl, rfl, hends⟩
  · exact Or.inr ⟨_, _, ends_execute_long d command timeout hl, h⟩

/-- What an invariant needs to outlive a command: a quiet chip, and to hold of the driver when the chip has obeyed. -/
structure Admits (inv : Driver phase (Chip b) → Prop) (command : Command) : Prop where
  quiet : ∀ d, inv d → d.chip.outgoing = []
  obeyed : ∀ d args, inv d → inv (d.afterCommand command args)

theorem Settled.admits {command : Command} (h : command.Harmless) : Admits (@Settled ι b phase) command where
  quiet _ hd := hd.quiet
  obeyed d args hd := hd.unchanged (Chip.tables_obey_harmless h d.chip args)

theorem Blank.admits (command : Command) : Admits (@Blank ι b phase) command where
  quiet _ hd := hd.quiet
  obeyed _ args hd := hd.obeyed command args

section Commands

variable {inv : Driver phase (Chip b) → Prop} {command : Command}

theorem keeps_sendCommand (h : Admits inv command) (args : Bytes) (timeout : Duration) :
    (sendCommand command args timeout).Keeps inv := by
  refine Act.Keeps.of_ends fun d hd => ?_
  by_cases hl : args.length < Frame.maxBody
  · exact ⟨_, _, ends_sendCommand (h.quiet d hd) command timeout hl, h.obeyed d args hd⟩
  · exact ⟨_, _, ends_sendCommand_long d command timeout hl, hd⟩

theorem keeps_sendWaking (h : Admits inv command) {args : Bytes} (timeout : Duration) (hl : args.length < Frame.maxBody) :
    (sendWaking command args timeout).Keeps inv :=
  Act.Keeps.of_ends fun d hd => ⟨_, _, ends_sendWaking (h.quiet d hd) command timeout hl, h.obeyed d args hd⟩

end Commands

theorem keeps_resetBuffers : (resetBuffers : Act (Driver phase (Chip b)) Unit).Keeps Settled :=
  Act.Keeps.of_ends fun _ hd => ⟨_, _, (Link.ends_resetBuffers hd.quiet).onPart, hd⟩

/-! ## Registers -/

/-- The values that the chip holds in registers. -/
def held (d : Driver phase (Chip b)) (registers : List Register) : Bytes :=
  registers.map fun r => d.chip.tables.registers r.address

/-- A reading that is received answers what the registers hold, and enters it. -/
theorem ends_fetchRegisters_received {d : Driver .ready (Chip b)} (hq : d.chip.outgoing = []) {registers : List Register}
    {payload : Bytes} (hl : (registers.flatMap Register.addressBytes).length < Frame.maxBody)
    (hp : d.chip.answer? Command.readRegister.code (registers.flatMap Register.addressBytes) = some payload) :
    (fetchRegisters registers).Ends d (.ok (d.held registers))
      ((d.afterCommand .readRegister (registers.flatMap Register.addressBytes)).noting
        (registers.zip (d.held registers))) := by
  have hexec := ends_execute hq .readRegister d.settings.commandTimeout hl
  rw [hp, show payload = d.held registers from
    (Chip.answer?_readRegister hp).trans (Tables.read_addressBytes _ _)] at hexec
  exact ends_fetchRegisters (by rw [held, List.length_map]) hl hexec

/-- What a reading is served from what is known is what the chip holds. -/
theorem Coherent.eq_held {d : Driver phase (Chip b)} (h : d.Coherent) {registers : List Register} {useCache : Bool}
    {values : Bytes} (hknown : (if useCache then d.registers.getAll? registers else none) = some values) :
    values = d.held registers := by
  cases useCache with
  | false => exact absurd hknown (Option.some_ne_none values).symm
  | true => exact h.registers.getAll? hknown

/-- Entering what a reading brought keeps what is known right. -/
theorem Coherent.read {d : Driver phase (Chip b)} (h : d.Coherent) (registers : List Register) (args : Bytes) :
    ((d.afterCommand .readRegister args).noting (registers.zip (d.held registers))).Coherent := by
  have htables : (d.chip.obey Command.readRegister.code args).tables = d.chip.tables :=
    Chip.tables_obey_harmless (by decide) d.chip args
  refine ⟨?_, (h.unchanged htables).items⟩
  have hbears : d.chip.tables.Bears (d.registers.insertAll (registers.zip (d.held registers))) := h.registers.read registers
  rw [← htables] at hbears
  exact hbears

/-- Writing what is pending and entering everything keeps what is known right. -/
theorem Coherent.written {d : Driver phase (Chip b)} (h : d.Coherent) {values : List Setting}
    (hn : (values.map Prod.fst).Nodup) (useCache : Bool) {payload : Bytes}
    (hp : d.chip.answer? Command.writeRegister.code ((d.pending values useCache).flatMap settingBytes) = some payload) :
    ((d.afterCommand .writeRegister ((d.pending values useCache).flatMap settingBytes)).noting values).Coherent := by
  have htables : (d.chip.obey Command.writeRegister.code ((d.pending values useCache).flatMap settingBytes)).tables =
      d.chip.tables.write ((d.pending values useCache).flatMap settingBytes) := Chip.tables_obey_heard hp
  constructor
  · have hbears : (d.chip.tables.write ((d.pending values useCache).flatMap settingBytes)).Bears
        (d.registers.insertAll values) := by
      cases useCache
      · exact h.registers.write values
      · exact h.registers.write_changed hn
    rw [← htables] at hbears
    exact hbears
  · have hitems := h.items.write ((d.pending values useCache).flatMap settingBytes)
    rw [← htables] at hitems
    exact hitems

theorem keeps_fetchRegisters (registers : List Register) :
    (fetchRegisters registers : Act (Driver .ready (Chip b)) Bytes).Keeps Settled := by
  refine Act.Keeps.of_ends fun d hd => ?_
  obtain ⟨payload, hl, hp, -⟩ | ⟨fault, d', hends, hd'⟩ :=
    hd.execute .readRegister (registers.flatMap Register.addressBytes) d.settings.commandTimeout
  · exact ⟨_, _, ends_fetchRegisters_received hd.quiet hl hp, ⟨hd.toCoherent.read registers _, hd.quiet, rfl, hd.short⟩⟩
  · exact ⟨_, _, ends_fetchRegisters_error hends, hd'⟩

theorem keeps_readRegisters (registers : List Register) (useCache : Bool) :
    (readRegisters registers useCache : Act (Driver .ready (Chip b)) Bytes).Keeps Settled := by
  refine (Act.Keeps.look _).bind fun known => ?_
  cases known with
  | some values => exact (Act.Keeps.tell _ _).bind fun _ => Act.Keeps.done _
  | none => exact keeps_fetchRegisters registers

/-- A writing that names no register twice. -/
theorem keeps_writeRegisters {values : List Setting} (hn : (values.map Prod.fst).Nodup) (useCache : Bool) :
    (writeRegisters values useCache : Act (Driver .ready (Chip b)) Unit).Keeps Settled := by
  refine Act.Keeps.of_ends fun d hd => ?_
  by_cases hnone : (d.pending values useCache).isEmpty = true
  · exact ⟨_, _, ends_writeRegisters_nothing hnone, hd⟩
  · obtain ⟨payload, -, hp, hends⟩ | ⟨fault, d', hends, hd'⟩ :=
      hd.execute .writeRegister ((d.pending values useCache).flatMap settingBytes) d.settings.commandTimeout
    · exact ⟨_, _, ends_writeRegisters hnone hends, ⟨hd.toCoherent.written hn useCache hp, hd.quiet, rfl, hd.short⟩⟩
    · exact ⟨_, _, ends_writeRegisters_error hnone hends, hd'⟩

/-! ## RF configuration -/

/-- Writing an item and entering it keeps what is known right. -/
theorem Coherent.configured {d : Driver phase (Chip b)} (h : d.Coherent) (item : RfItem) {value payload : Bytes}
    (hp : d.chip.answer? Command.rfConfiguration.code (item.code :: value) = some payload) :
    ((d.afterCommand .rfConfiguration (item.code :: value)).notingItem item value).Coherent := by
  have htables : (d.chip.obey Command.rfConfiguration.code (item.code :: value)).tables =
      d.chip.tables.configure (item.code :: value) := Chip.tables_obey_heard hp
  constructor
  · have hbears : (d.chip.tables.configure (item.code :: value)).Bears d.registers := h.registers
    rw [← htables] at hbears
    exact hbears
  · have hitems := h.items.configure item value
    rw [← htables] at hitems
    exact hitems

/-- Writing an item and entering it leaves the driver settled. -/
theorem Settled.configured {d : Driver phase (Chip b)} (h : d.Settled) (item : RfItem) {value payload : Bytes}
    (hl : (item.code :: value).length < Frame.maxBody)
    (hp : d.chip.answer? Command.rfConfiguration.code (item.code :: value) = some payload) :
    ((d.afterCommand .rfConfiguration (item.code :: value)).notingItem item value).Settled := by
  refine ⟨h.toCoherent.configured item hp, h.quiet, rfl, ?_⟩
  intro i v hv
  rw [notingItem, Cache.get?_insert] at hv
  split at hv
  · rw [← Option.some.inj hv]
    exact hl
  · exact h.short i v hv

theorem keeps_applyItem (item : RfItem) (value : Bytes) (useCache : Bool) (timeout : Duration) :
    (applyItem item value useCache timeout : Act (Driver phase (Chip b)) Unit).Keeps Settled := by
  refine Act.Keeps.of_ends fun d hd => ?_
  by_cases hknown : useCache = true ∧ d.rfItems.get? item = some value
  · exact ⟨_, _, ends_applyItem_known timeout hknown, hd⟩
  · obtain ⟨payload, hl, hp, hends⟩ | ⟨fault, d', hends, hd'⟩ := hd.execute .rfConfiguration (item.code :: value) timeout
    · exact ⟨_, _, ends_applyItem hknown hends, hd.configured item hl hp⟩
    · exact ⟨_, _, ends_applyItem_error hknown hends, hd'⟩

/-! ## Every request -/

/-- The chip sets up its own radio only when the driver knows nothing. -/
theorem settled_guards : Guards (σ := Chip b) Settled Blank where
  weaken _ hd := hd.settled
  forgets _ hd := hd.forgets
  blank command := keeps_sendCommand (Blank.admits command)
  send args timeout hc := keeps_sendCommand (Settled.admits hc) args timeout
  waking timeout := keeps_sendWaking (Settled.admits (by decide)) timeout (by decide)
  reset := keeps_resetBuffers
  read := keeps_readRegisters
  write useCache hn := keeps_writeRegisters hn useCache
  item := keeps_applyItem

/-! ## Bring-up -/

theorem keeps_bringUpSteps : (bringUpSteps : Act (Driver .asleep (Chip b)) Unit).Keeps Settled := by
  have hwake : (onLink Link.wakeUp : Act (Driver .asleep (Chip b)) Unit).Keeps Settled :=
    Act.Keeps.of_ends fun _ hd => ⟨_, _, (Link.ends_wakeUp hd.quiet).onPart, hd⟩
  have hreset : (onLink (Link.onChannel Channel.resetInput) : Act (Driver .asleep (Chip b)) Unit).Keeps Settled :=
    Act.Keeps.of_ends fun _ hd => ⟨_, _, (Link.ends_resetInput hd.quiet).onPart, hd⟩
  exact congr_bringUpSteps (keeps_congruence Settled) hwake hreset
    (fun _ _ timeout hc hl => keeps_sendWaking (Settled.admits hc) timeout hl) fun item value => keeps_applyItem item value false

/-- A driver that was brought up is settled. -/
theorem settled_bringUp {tables : Tables} {inner : ι} {settings : Settings} {d : Driver .ready (Chip b)}
    (h : ((Driver.over (⟨tables, inner, []⟩ : Chip b) settings).bringUp).result = .ok d) : d.Settled := by
  have hblank : (Driver.over (⟨tables, inner, []⟩ : Chip b) settings).Blank := ⟨rfl, rfl, rfl, rfl⟩
  have hsettled := keeps_bringUpSteps _ hblank.settled
  rw [eq_of_bringUp h]
  exact ⟨⟨hsettled.registers, hsettled.items⟩, hsettled.quiet, hsettled.idle, hsettled.short⟩

/-- A driver of a prompt chip whose registers all hold a value, which is known of the transmission mode. -/
def knowingTxMode (value : UInt8) : Driver .ready (Chip Behaviour.prompt) :=
  ⟨.over ⟨⟨fun _ => value, fun _ => []⟩, 0, []⟩ .tolerant, {}, Cache.empty.insert .txMode value, .empty⟩

theorem coherent_knowingTxMode (value : UInt8) : (knowingTxMode value).Coherent :=
  ⟨(Tables.bears_empty _).read [.txMode], Tables.bearsItems_empty _⟩

end Driver

/-! ## Sessions -/

/-- Between any two requests of a session, whatever the chip receives and whatever it does about it, every register and every
item that the driver knows holds in the chip the value known. -/
theorem caches_coherent (b : Behaviour ι) (tables : Tables) (inner : ι) (settings : Settings) (requests : List Request)
    (hcareful : ∀ request ∈ requests, request.Careful) (d : Driver .ready (Chip b))
    (hup : ((Driver.over (⟨tables, inner, []⟩ : Chip b) settings).bringUp).result = .ok d) :
    ((replay requests).run d).state.Coherent := by
  have hkeeps : (replay requests).Keeps (Driver.Settled (b := b)) :=
    keeps_replay fun request hr => Driver.settled_guards.request (hcareful request hr)
  exact (hkeeps d (Driver.settled_bringUp hup)).toCoherent

/-- A session that writes a register, lists targets, which clears the register, and writes the register again. -/
theorem caches_coherent_listing :
    ∃ d, ((Driver.over (⟨⟨fun _ => 0x00, fun _ => []⟩, 0, []⟩ : Chip Behaviour.prompt)).bringUp).result = .ok d ∧
      ((replay [.writeRegisters [(.txMode, 0x80)] true, .listTargets .typeA 1,
        .writeRegisters [(.txMode, 0x80)] true]).run d).state.Coherent := by
  have hup : ((Driver.over (⟨⟨fun _ => 0x00, fun _ => []⟩, 0, []⟩ : Chip Behaviour.prompt)).bringUp).result = .ok _ := rfl
  refine ⟨_, hup, caches_coherent _ _ _ _ _ ?_ _ hup⟩
  simp [Request.Careful]

end NfcHost
