import NfcHost.Proofs.Coherence

/-!
# What a raw exchange does to the chip

The tables of a chip when a raw exchange has set up the radio and sends its data (`RadioSetUp`), compared with the tables
before: which bits are set to what, and that every other bit, register and item is left alone. This is the same whatever
the driver knows and whether it relies on that: what a coherent driver leaves out, the chip holds already. Setting up the
radio is three steps, an item, a reading and a writing; for each there is a contract that says what an answering chip holds
afterwards (`Driver.Calm`).
-/

namespace NfcHost

/-! ## Bits of the radio registers -/

/-- A mode register before and after: bit 7 says whether the hardware check is on, bits 6 to 4 are the code of the bit rate,
bits 1 and 0 that of the framing, and bits 3 and 2 are left alone. -/
structure ModeSet (settings : RawSettings) (before after : UInt8) : Prop where
  crc : BitField.bit after 7 = settings.crc
  rate : ∀ i < 3, BitField.bit after (4 + i) = BitField.bit settings.bitRate.code i
  framing : ∀ i < 2, BitField.bit after i = BitField.bit settings.modulation.framing.code i
  rest : ∀ i, 2 ≤ i → i < 4 → BitField.bit after i = BitField.bit before i

/-- The automatic transmitter settings before and after: bit 6 says whether the modulation is Type A, and the other bits are
left alone. -/
structure TxAutoSet (settings : RawSettings) (before after : UInt8) : Prop where
  fullAsk : BitField.bit after 6 = decide (settings.modulation = .typeA)
  rest : ∀ i < 8, i ≠ 6 → BitField.bit after i = BitField.bit before i

/-- The bit framing before and after: bits 2 to 0 are the number of bits modulo 8, and the other bits are left alone. -/
structure BitFramingSet (settings : RawSettings) (before after : UInt8) : Prop where
  lastBits : after.toNat % 8 = settings.bits.toNat % 8
  rest : ∀ i, 3 ≤ i → i < 8 → BitField.bit after i = BitField.bit before i

namespace RadioRegisters

open BitField

/-- A switch as a number has one bit. -/
theorem bit_toUInt8 (enabled : Bool) : bit enabled.toUInt8 0 = enabled := by
  cases enabled <;> decide

/-- The check, the framing and the speed are set in fields that have no bit in common. -/
theorem modeSet_modeFor (settings : RawSettings) (value : UInt8) : ModeSet settings value (modeFor settings value) := by
  unfold modeFor ModeRegister.withCrc ModeRegister.withFraming ModeRegister.withBitRate
  constructor
  case crc =>
    have hin (reg : UInt8) := bit_set_in ModeRegister.crcField reg settings.crc.toUInt8 (show 0 < 1 by decide) (by decide)
    exact (hin _).trans (bit_toUInt8 settings.crc)
  case rate =>
    intro i hi
    rw [bit_set_out ModeRegister.crcField _ _ (Or.inl (show 4 + i < 7 by omega)) (by omega),
      bit_set_out ModeRegister.framingField _ _ (Or.inr (show 2 ≤ 4 + i by omega)) (by omega)]
    exact bit_set_in ModeRegister.speedField _ _ hi (show 4 + i < 8 by omega)
  case framing =>
    intro i hi
    have hin := bit_set_in ModeRegister.framingField (ModeRegister.speedField.set value settings.bitRate.code)
      settings.modulation.framing.code hi (show 0 + i < 8 by omega)
    rw [show ModeRegister.framingField.shift + i = i from Nat.zero_add i] at hin
    rw [bit_set_out ModeRegister.crcField _ _ (Or.inl (show i < 7 by omega)) (by omega), hin]
  case rest =>
    intro i h2 h4
    rw [bit_set_out ModeRegister.crcField _ _ (Or.inl (show i < 7 by omega)) (by omega),
      bit_set_out ModeRegister.framingField _ _ (Or.inr (show 0 + 2 ≤ i by omega)) (by omega),
      bit_set_out ModeRegister.speedField _ _ (Or.inl h4) (by omega)]

theorem txAutoSet_withFullAsk (settings : RawSettings) (value : UInt8) :
    TxAutoSet settings value (TxAutoRegister.withFullAsk value (settings.modulation == .typeA)) := by
  unfold TxAutoRegister.withFullAsk
  constructor
  case fullAsk =>
    have hin := bit_set_in TxAutoRegister.fullAskField value (settings.modulation == .typeA).toUInt8
      (show 0 < 1 by decide) (by decide)
    rw [bit_toUInt8] at hin
    exact hin
  case rest =>
    intro i hi hne
    exact bit_set_out TxAutoRegister.fullAskField _ _ (show i < 6 ∨ 6 + 1 ≤ i by omega) hi

/-- The low three bits of a register are its value modulo 8. -/
theorem mod_eight_eq {a c : UInt8} (h : ∀ i < 3, bit a i = bit c i) : a.toNat % 8 = c.toNat % 8 := by
  refine Nat.eq_of_testBit_eq fun i => ?_
  rw [show 8 = 2 ^ 3 from rfl, Nat.testBit_mod_two_pow, Nat.testBit_mod_two_pow]
  by_cases hi : i < 3
  · rw [show a.toNat.testBit i = bit a i from rfl, show c.toNat.testBit i = bit c i from rfl, h i hi]
  · simp [hi]

theorem bitFramingSet_withLastBits (settings : RawSettings) (value : UInt8) :
    BitFramingSet settings value (BitFramingRegister.withLastBits value settings.bits) := by
  unfold BitFramingRegister.withLastBits
  constructor
  case lastBits =>
    refine mod_eight_eq fun i hi => ?_
    have hseven : ∀ j < 3, bit 7 j = true := by decide
    have hin := bit_set_in BitFramingRegister.lastBitsField value (settings.bits &&& 7) hi (show 0 + i < 8 by omega)
    rw [show BitFramingRegister.lastBitsField.shift + i = i from Nat.zero_add i, bit_and, hseven i hi,
      Bool.and_true] at hin
    exact hin
  case rest =>
    intro i h3 h8
    exact bit_set_out BitFramingRegister.lastBitsField _ _ (Or.inr (show 0 + 3 ≤ i by omega)) h8

end RadioRegisters

/-! ## The tables of the chip -/

/-- The tables before and after the radio is set up for a raw exchange. -/
structure RadioSetUp (settings : RawSettings) (timeout : Duration) (before after : Tables) : Prop where
  /-- The retry timeout is that of the exchange. -/
  timings : after.items RfItem.variousTimings.code = [0x00, 0x0B, timeout.timeoutIndex]
  txMode : ModeSet settings (before.registers Register.txMode.address) (after.registers Register.txMode.address)
  rxMode : ModeSet settings (before.registers Register.rxMode.address) (after.registers Register.rxMode.address)
  txAuto : TxAutoSet settings (before.registers Register.txAuto.address) (after.registers Register.txAuto.address)
  bitFraming :
    BitFramingSet settings (before.registers Register.bitFraming.address) (after.registers Register.bitFraming.address)
  /-- The analog part is that of the modulation. -/
  preset : ∀ r v, (r, v) ∈ settings.modulation.preset → after.registers r.address = v
  /-- No other address is touched. -/
  registers : ∀ a, (∀ r ∈ RadioRegisters.order ++ settings.modulation.preset.map Prod.fst, r.address ≠ a) →
    after.registers a = before.registers a
  /-- No other item is touched. -/
  items : ∀ i, i ≠ RfItem.variousTimings.code → after.items i = before.items i

namespace Tables

/-- The values of the four radio registers. -/
def radio (t : Tables) : RadioRegisters where
  txMode := t.registers Register.txMode.address
  rxMode := t.registers Register.rxMode.address
  txAuto := t.registers Register.txAuto.address
  bitFraming := t.registers Register.bitFraming.address

/-- What a raw exchange writes to a chip with these tables. -/
def rawSettings (t : Tables) (settings : RawSettings) : List Setting :=
  (t.radio.apply settings).settings ++ settings.modulation.preset

/-- The tables when the retry timeout is set and the registers are written. -/
def setUp (t : Tables) (settings : RawSettings) (timeout : Duration) : Tables :=
  (t.setItem RfItem.variousTimings.code [0x00, 0x0B, timeout.timeoutIndex]).write
    ((t.rawSettings settings).flatMap Driver.settingBytes)

/-- A register that is written holds the value written. -/
theorem registers_setUp {t : Tables} {settings : RawSettings} (timeout : Duration) {r : Register} {v : UInt8}
    (h : (r, v) ∈ t.rawSettings settings) : (t.setUp settings timeout).registers r.address = v := by
  have hlast : lastValue r (t.rawSettings settings) = some v := lastValue_of_mem (Driver.nodup_rawSettings _ _) h
  rw [setUp, registers_write, hlast]
  rfl

/-- The radio is set up by what is written. -/
theorem radioSetUp_setUp (t : Tables) (settings : RawSettings) (timeout : Duration) :
    RadioSetUp settings timeout t (t.setUp settings timeout) := by
  have hradio {r : Register} {v : UInt8} (h : (r, v) ∈ (t.radio.apply settings).settings) :
      (t.setUp settings timeout).registers r.address = v := registers_setUp timeout (List.mem_append_left _ h)
  have hitems (i : UInt8) : (t.setUp settings timeout).items i =
      (t.setItem RfItem.variousTimings.code [0x00, 0x0B, timeout.timeoutIndex]).items i := by
    rw [setUp, items_write]
  constructor
  case timings =>
    rw [hitems, items_setItem, if_pos rfl]
  case txMode =>
    rw [hradio (r := .txMode) (v := (t.radio.apply settings).txMode) (by simp [RadioRegisters.settings])]
    exact RadioRegisters.modeSet_modeFor settings _
  case rxMode =>
    rw [hradio (r := .rxMode) (v := (t.radio.apply settings).rxMode) (by simp [RadioRegisters.settings])]
    exact RadioRegisters.modeSet_modeFor settings _
  case txAuto =>
    rw [hradio (r := .txAuto) (v := (t.radio.apply settings).txAuto) (by simp [RadioRegisters.settings])]
    exact RadioRegisters.txAutoSet_withFullAsk settings _
  case bitFraming =>
    rw [hradio (r := .bitFraming) (v := (t.radio.apply settings).bitFraming) (by simp [RadioRegisters.settings])]
    exact RadioRegisters.bitFramingSet_withLastBits settings _
  case preset =>
    intro r v h
    exact registers_setUp timeout (List.mem_append_right _ h)
  case registers =>
    intro a ha
    refine registers_write_other _ fun hnamed => ?_
    rw [named_settingBytes, List.mem_map] at hnamed
    obtain ⟨p, hp, rfl⟩ := hnamed
    obtain hp | hp := List.mem_append.1 hp
    · have horder : p.1 ∈ RadioRegisters.order := List.mem_map_of_mem (f := Prod.fst) hp
      exact ha p.1 (List.mem_append_left _ horder) rfl
    · exact ha p.1 (List.mem_append_right _ (List.mem_map_of_mem hp)) rfl
  case items =>
    intro i hi
    rw [hitems, items_setItem, if_neg hi]

end Tables

/-! ## The steps of setting up the radio -/

variable {ι : Type} {b : Behaviour ι}

namespace Driver

/-- The driver is coherent over a quiet chip, has these settings, and its chip these tables. -/
structure Calm (settings : Settings) (t : Tables) (d : Driver .ready (Chip b)) : Prop extends Coherent d where
  quiet : d.chip.outgoing = []
  settings_eq : d.settings = settings
  tables_eq : d.chip.tables = t

section Steps

variable (hb : b.Answering) {config : Settings} {t : Tables}
include hb

/-- An answering chip does what a command that it gets says. -/
theorem tables_afterCommand (d : Driver .ready (Chip b)) (command : Command) (args : Bytes) :
    (d.afterCommand command args).chip.tables = d.chip.tablesAfter command.code args :=
  Chip.tables_obey_heard (Chip.answer?_answering hb d.chip _ _)

/-- After an item is applied the chip holds its value, also if it was left out. -/
theorem meets_applyItem (item : RfItem) {value : Bytes} (hl : (item.code :: value).length < Frame.maxBody) (useCache : Bool)
    (timeout : Duration) :
    (applyItem item value useCache timeout).Meets (Calm (b := b) config t)
      (fun _ => Calm config (t.setItem item.code value)) fun _ _ => False := by
  refine Act.Meets.of_ends fun d hd => ?_
  by_cases hknown : useCache = true ∧ d.rfItems.get? item = some value
  · have hheld : t.items item.code = value := by
      rw [← hd.tables_eq]
      exact hd.items item value hknown.2
    have hsame : t.setItem item.code value = t := by
      rw [← hheld]
      exact Tables.setItem_self t item.code
    refine ⟨(), d, ends_applyItem_known timeout hknown, ?_⟩
    rw [hsame]
    exact hd
  · have hexec := ends_execute_answering hb hd.quiet .rfConfiguration timeout hl
    have hcoherent :=
      hd.toCoherent.configured item (Chip.answer?_answering hb d.chip Command.rfConfiguration.code (item.code :: value))
    refine ⟨(), _, ends_applyItem hknown hexec, hcoherent, hd.quiet, hd.settings_eq, ?_⟩
    rw [← hd.tables_eq]
    exact tables_afterCommand hb d _ _

/-- A reading answers what the chip holds, also if all of it was known. -/
theorem meets_readRegisters {registers : List Register}
    (hl : (registers.flatMap Register.addressBytes).length < Frame.maxBody) (useCache : Bool) :
    (readRegisters registers useCache).Meets (Calm (b := b) config t)
      (fun values d => values = (registers.map fun r => t.registers r.address) ∧ Calm config t d) fun _ _ => False := by
  refine Act.Meets.of_ends fun d hd => ?_
  have hheld : d.held registers = registers.map fun r => t.registers r.address := by rw [held, hd.tables_eq]
  cases hknown : (if useCache then d.registers.getAll? registers else none) with
  | some values =>
    exact ⟨values, d, ends_readRegisters_known hknown, (hd.toCoherent.eq_held hknown).trans hheld, hd⟩
  | none =>
    have hfetch := ends_fetchRegisters_received hd.quiet hl (Chip.answer?_answering hb d.chip _ _)
    have hcoherent := hd.toCoherent.read registers (registers.flatMap Register.addressBytes)
    refine ⟨_, _, ends_readRegisters_unknown hknown hfetch, hheld, hcoherent, hd.quiet, hd.settings_eq, ?_⟩
    rw [← hd.tables_eq]
    exact tables_afterCommand hb d _ _

/-- After a writing the chip holds what was to be written, also where it was left out. -/
theorem meets_writeRegisters {values : List Setting} (hn : (values.map Prod.fst).Nodup) (useCache : Bool) :
    (writeRegisters values useCache).Meets (Calm (b := b) config t)
      (fun _ => Calm config (t.write (values.flatMap settingBytes))) fun _ _ => False := by
  refine Act.Meets.of_ends fun d hd => ?_
  have hwritten : d.chip.tables.write ((d.pending values useCache).flatMap settingBytes) =
      t.write (values.flatMap settingBytes) := by
    rw [← hd.tables_eq]
    cases useCache
    · rfl
    · exact (Tables.skipsHeld_write d.chip.tables).changed hd.registers hn
  by_cases hnone : (d.pending values useCache).isEmpty = true
  · refine ⟨(), d, ends_writeRegisters_nothing hnone, hd.toCoherent, hd.quiet, hd.settings_eq, ?_⟩
    rw [← hwritten, List.isEmpty_iff.1 hnone]
    rfl
  · have hexec := ends_execute_answering hb hd.quiet .writeRegister d.settings.commandTimeout
      (length_pending_lt d hn useCache)
    have hcoherent := hd.toCoherent.written hn useCache (Chip.answer?_answering hb d.chip _ _)
    refine ⟨(), _, ends_writeRegisters hnone hexec, hcoherent, hd.quiet, hd.settings_eq, ?_⟩
    exact (tables_afterCommand hb d _ _).trans hwritten

/-- Setting up the radio: the retry timeout, then a writing of what follows from a reading. -/
theorem meets_setUpRadio (settings : RawSettings) (timeout : Duration) :
    (setUpRadio settings timeout).Meets (Calm (b := b) config t) (fun _ => Calm config (t.setUp settings timeout))
      fun _ _ => False := by
  have hitem : (setRetryTimeout timeout settings.useCache).Meets (Calm (b := b) config t)
      (fun _ => Calm config (t.setItem RfItem.variousTimings.code [0x00, 0x0B, timeout.timeoutIndex]))
      fun _ _ => False := by
    have hlook : (setting Settings.commandTimeout).Meets (Calm (b := b) config t) (fun _ => Calm config t)
        fun _ _ => False := fun _ hd => hd
    have hfit : [RfItem.variousTimings.code, 0x00, 0x0B, timeout.timeoutIndex].length < Frame.maxBody := by
      simp [Frame.maxBody]
    exact (hlook.bind fun span => meets_applyItem hb .variousTimings hfit settings.useCache span).bind fun _ =>
      Act.Meets.done fun _ hd => hd
  refine hitem.bind fun _ => (meets_readRegisters hb (by decide) settings.useCache).bind fun values => ?_
  refine Act.Meets.assume fun hvalues => ?_
  have hregs : RadioRegisters.ofValues values = .ok t.radio := by
    rw [hvalues]
    rfl
  rw [hregs]
  exact meets_writeRegisters hb (nodup_rawSettings _ _) settings.useCache

end Steps

/-- When the radio is set up the data goes out, and nothing else. -/
theorem ends_exchangeRaw (hb : b.Answering) {d d' : Driver .ready (Chip b)} (hd' : d'.chip.outgoing = [])
    {data : Bytes} {settings : RawSettings} (hl : (rawPayload settings.modulation data).length < Frame.maxBody)
    (hsetup : (setUpRadio settings (settings.timeout.getD d.settings.rawTimeout)).Ends d (.ok ()) d') :
    ∃ r, (exchangeRaw data settings).Ends d r
      (d'.afterCommand .inCommunicateThru (rawPayload settings.modulation data)) :=
  ends_exchangeRaw_execute hsetup (ends_execute_answering hb hd' .inCommunicateThru _ hl)

end Driver

/-- A raw exchange over a coherent driver and a quiet chip that answers, whatever the driver knows and whether it relies on
that: the radio is set up in full, and then the data goes out to a chip with these tables. -/
theorem raw_exchange_sets_up_radio (b : Behaviour ι) (hb : b.Answering) (d : Driver .ready (Chip b)) (hd : d.Coherent)
    (hq : d.chip.outgoing = []) (data : Bytes) (settings : RawSettings)
    (hl : (Driver.rawPayload settings.modulation data).length < Frame.maxBody) :
    ∃ d' r, (Driver.setUpRadio settings (settings.timeout.getD d.settings.rawTimeout)).Ends d (.ok ()) d' ∧
      RadioSetUp settings (settings.timeout.getD d.settings.rawTimeout) d.chip.tables d'.chip.tables ∧
      (Driver.exchangeRaw data settings).Ends d r
        (d'.afterCommand .inCommunicateThru (Driver.rawPayload settings.modulation data)) := by
  have hcalm : d.Calm d.settings d.chip.tables := ⟨hd, hq, rfl, rfl⟩
  obtain ⟨⟨⟩, d', hsetup, hcalm'⟩ :=
    (Driver.meets_setUpRadio hb settings (settings.timeout.getD d.settings.rawTimeout)).ends hcalm
  obtain ⟨r, hends⟩ := Driver.ends_exchangeRaw hb hcalm'.quiet hl hsetup
  refine ⟨d', r, hsetup, ?_, hends⟩
  rw [hcalm'.tables_eq]
  exact Tables.radioSetUp_setUp _ _ _

/-- A Type B exchange of three bits by a driver that knows the transmission mode. -/
theorem raw_exchange_sets_up_radio_typeB :
    ∃ d : Driver .ready (Chip Behaviour.prompt), d.registers.get? .txMode = some 0x0C ∧
      ∃ d' r, (Driver.setUpRadio { modulation := .typeB, bits := 3 } d.settings.rawTimeout).Ends d (.ok ()) d' ∧
        RadioSetUp { modulation := .typeB, bits := 3 } d.settings.rawTimeout d.chip.tables d'.chip.tables ∧
        (Driver.exchangeRaw [0x05] { modulation := .typeB, bits := 3 }).Ends d r
          (d'.afterCommand .inCommunicateThru [0x05]) := by
  have hanswers : Behaviour.prompt.Answering := fun _ _ _ _ => rfl
  have hbears : (⟨fun _ => 0x0C, fun _ => []⟩ : Tables).Bears (Cache.empty.insert .txMode 0x0C) := by
    intro r v hv
    rw [Cache.get?_insert] at hv
    split at hv
    · exact Option.some.inj hv
    · exact absurd hv.symm (Option.some_ne_none v)
  exact ⟨⟨.over ⟨⟨fun _ => 0x0C, fun _ => []⟩, 0, []⟩ .tolerant, {}, Cache.empty.insert .txMode 0x0C, .empty⟩, rfl,
    raw_exchange_sets_up_radio Behaviour.prompt hanswers _ ⟨hbears, Tables.bearsItems_empty _⟩ rfl [0x05]
      { modulation := .typeB, bits := 3 } (by decide)⟩

end NfcHost
