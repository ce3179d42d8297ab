import NfcHost.Proofs.Coherence

/-!
# Caching is transparent

Two runs of the same requests over the same chip, one that relies on the caches where it is asked to and one that never does,
end alike: the same answers, and the same chip. The chip has to be steady (`Behaviour.Steady`): it receives every command,
and what it remembers beside its tables does not move when something is read, or written that is held already. The two
drivers then differ in what they know at most (`Driver.Aligned`), and the caches of the first tell the truth.
-/

namespace NfcHost

variable {ι : Type} {b : Behaviour ι}

/-- A chip that receives every command, and whose inner state is not touched by what changes nothing: not by a reading, not
by the groups of a writing that write what a register holds, and not by configuring an item with the value it has. -/
structure Behaviour.Steady (b : Behaviour ι) : Prop where
  hears : ∀ i t code args, b.hears i t code args = true
  read : ∀ i t args, b.next i t Command.readRegister.code args = i
  write_nothing : ∀ i t, b.next i t Command.writeRegister.code [] = i
  write_held : ∀ (i : ι) (t : Tables), t.SkipsHeld (b.next i t Command.writeRegister.code)
  configure_held : ∀ (i : ι) (t : Tables) (item : UInt8), b.next i t Command.rfConfiguration.code (item :: t.items item) = i

/-! ## What a steady chip does not notice -/

namespace Chip

variable (hb : b.Steady) (c : Chip b)
include hb

/-- A reading. -/
theorem obey_read (args : Bytes) : c.obey Command.readRegister.code args = c := by
  ext1
  · exact tables_obey_harmless (by decide) c args
  · exact hb.read _ _ _
  · rfl

/-- A writing of nothing. -/
theorem obey_write_nothing : c.obey Command.writeRegister.code [] = c := by
  ext1
  · exact (tables_obey_heard (answer?_answering hb.hears c _ _)).trans rfl
  · exact hb.write_nothing _ _
  · rfl

/-- A writing that leaves out what is known. -/
theorem obey_write_changed {known : RegisterCache} (hc : c.tables.Bears known) {values : List Setting}
    (hn : (values.map Prod.fst).Nodup) :
    c.obey Command.writeRegister.code ((known.changed values).flatMap Driver.settingBytes) =
      c.obey Command.writeRegister.code (values.flatMap Driver.settingBytes) := by
  have htables (args : Bytes) : (c.obey Command.writeRegister.code args).tables = c.tables.write args :=
    tables_obey_heard (answer?_answering hb.hears c _ _)
  ext1
  · rw [htables, htables]
    exact (Tables.skipsHeld_write c.tables).changed hc hn
  · exact (hb.write_held c.inner c.tables).changed hc hn
  · rfl

/-- A configuration with the value that the item has. -/
theorem obey_configure_held {item : RfItem} {value : Bytes} (h : c.tables.items item.code = value) :
    c.obey Command.rfConfiguration.code (item.code :: value) = c := by
  subst h
  ext1
  · exact (tables_obey_heard (answer?_answering hb.hears c _ _)).trans (Tables.setItem_self c.tables item.code)
  · exact hb.configure_held _ _ _
  · rfl

end Chip

namespace Driver

/-! ## Drivers that differ in what they know -/

section Aligned

variable {phase : Phase} {σ : Type}

/-- The drivers differ in what they know at most. -/
structure Aligned (d d' : Driver phase σ) : Prop where
  link : d.link = d'.link
  settings : d.settings = d'.settings

theorem Aligned.symm {d d' : Driver phase σ} (h : Aligned d d') : Aligned d' d := ⟨h.link.symm, h.settings.symm⟩

theorem Aligned.trans {d d' d'' : Driver phase σ} (h : Aligned d d') (h' : Aligned d' d'') : Aligned d d'' :=
  ⟨h.link.trans h'.link, h.settings.trans h'.settings⟩

/-- Ending alike from aligned drivers is respected by every way to build an action of a driver. -/
theorem aligned_congruence : Congruence (Act.Coupled (@Aligned phase σ) (fun _ => False) Eq) where
  ofActions := Act.Coupled.congruence Aligned
  setting f := Act.Coupled.look fun _ _ h => congrArg f h.settings

/-- The same action on the links of aligned drivers. -/
theorem aligned_onLink {α : Type} (a : Act (Link σ) α) :
    Act.Coupled (@Aligned phase σ) (fun _ => False) Eq (onLink a) (onLink a) :=
  Act.Coupled.onPart a (fun _ _ h => h.link) fun _ _ _ h => ⟨rfl, h.settings⟩

theorem aligned_forget : Act.Coupled (@Aligned .ready σ) (fun _ => False) Eq forget forget :=
  Act.Coupled.change fun _ _ h => ⟨h.link, h.settings⟩

variable [Channel σ]

theorem aligned_sendCommand (command : Command) (args : Bytes) (timeout : Duration) :
    Act.Coupled (@Aligned phase σ) (fun _ => False) Eq (sendCommand command args timeout)
      (sendCommand command args timeout) :=
  aligned_congruence.bind (aligned_congruence.tell _ _) fun _ =>
    aligned_congruence.bind (aligned_congruence.lift _) fun _ => aligned_onLink _

theorem aligned_sendWaking (command : Command) (args : Bytes) (timeout : Duration) :
    Act.Coupled (@Aligned phase σ) (fun _ => False) Eq (sendWaking command args timeout) (sendWaking command args timeout) :=
  aligned_congruence.bind (aligned_congruence.lift _) fun _ =>
    aligned_congruence.bind (aligned_onLink _) fun _ => aligned_congruence.lift _

/-- Sending an item and entering it. -/
theorem aligned_item (item : RfItem) (value : Bytes) (timeout : Duration) :
    Act.Coupled (@Aligned phase σ) (fun _ => False) Eq
      (execute .rfConfiguration (item.code :: value) timeout >>= fun _ =>
        Act.change fun d => { d with rfItems := d.rfItems.insert item value })
      (execute .rfConfiguration (item.code :: value) timeout >>= fun _ =>
        Act.change fun d => { d with rfItems := d.rfItems.insert item value }) :=
  aligned_congruence.bind (congr_execute aligned_congruence (aligned_sendCommand _ _ _)) fun _ =>
    Act.Coupled.change fun _ _ h => ⟨h.link, h.settings⟩

theorem aligned_listOne (modulation : Modulation) (data : Bytes) :
    Act.Coupled (@Aligned .ready σ) (fun _ => False) Eq (listOne modulation data) (listOne modulation data) :=
  congr_listOne aligned_congruence aligned_forget (aligned_sendCommand _) modulation data

theorem aligned_requestListing (modulation : Modulation) (maxTargets : UInt8) :
    Act.Coupled (@Aligned .ready σ) (fun _ => False) Eq (requestListing modulation maxTargets)
      (requestListing modulation maxTargets) :=
  congr_requestListing aligned_congruence aligned_forget (aligned_sendCommand _) modulation maxTargets

theorem aligned_becomeTarget : Act.Coupled (@Aligned .ready σ) (fun _ => False) Eq becomeTarget becomeTarget :=
  congr_becomeTarget aligned_congruence aligned_forget (aligned_sendCommand _)

end Aligned

/-! ## Steps that rely on a cache -/

section Steady

variable {phase : Phase}

/-- A command that the chip does not notice leaves the link alone, if it was idle. -/
theorem link_afterCommand {d : Driver phase (Chip b)} (hidle : d.link.stage = .idle) {command : Command} {args : Bytes}
    (hobey : d.chip.obey command.code args = d.chip) : (d.afterCommand command args).link = d.link := by
  rw [afterCommand, hobey, ← hidle]

/-- Aligned drivers drive the same chip. -/
theorem Aligned.chip {d d' : Driver phase (Chip b)} (h : Aligned d d') : d'.chip = d.chip :=
  congrArg Link.channel h.link.symm

theorem Aligned.quiet {d d' : Driver phase (Chip b)} (h : Aligned d d') (hq : d.chip.outgoing = []) :
    d'.chip.outgoing = [] := by
  rw [h.chip]
  exact hq

theorem Aligned.idle {d d' : Driver phase (Chip b)} (h : Aligned d d') (hidle : d.link.stage = .idle) :
    d'.link.stage = .idle := by
  rw [← h.link]
  exact hidle

/-- Aligned drivers stay aligned under a command. -/
theorem Aligned.afterCommand {d d' : Driver phase (Chip b)} (h : Aligned d d') (command : Command) (args : Bytes) :
    Aligned (d.afterCommand command args) (d'.afterCommand command args) := by
  refine ⟨?_, h.settings⟩
  rw [Driver.afterCommand, Driver.afterCommand, h.chip, h.link]

variable (hb : b.Steady)
include hb

/-- Fetching registers answers what they hold, and the link does not move. -/
theorem ends_fetchRegisters_steady {d : Driver .ready (Chip b)} (hq : d.chip.outgoing = []) (hidle : d.link.stage = .idle)
    {registers : List Register} (hl : registers.length ≤ 126) :
    ∃ d', (fetchRegisters registers).Ends d (.ok (d.held registers)) d' ∧ Aligned d d' := by
  have hfit : (registers.flatMap Register.addressBytes).length < Frame.maxBody := by
    rw [Register.length_addressBytes, Frame.maxBody]
    omega
  have hlink := link_afterCommand hidle (Chip.obey_read hb d.chip (registers.flatMap Register.addressBytes))
  exact ⟨_, ends_fetchRegisters_received hq hfit (Chip.answer?_answering hb.hears d.chip _ _), hlink.symm, rfl⟩

/-- Reading registers with a cache, and without one. -/
theorem alike_readRegisters {d d' : Driver .ready (Chip b)} (h : Aligned d d') (hd : d.Settled) {registers : List Register}
    (hl : registers.length ≤ 126) (useCache : Bool) :
    Outcome.Alike Aligned (fun _ => False) Eq ((readRegisters registers useCache).run d)
      ((readRegisters registers false).run d') := by
  obtain ⟨after', hfetch', hafter'⟩ := ends_fetchRegisters_steady hb (h.quiet hd.quiet) (h.idle hd.idle) hl
  rw [show d'.held registers = d.held registers by rw [held, held, h.chip]] at hfetch'
  have hplain : (readRegisters registers false).Ends d' (.ok (d.held registers)) after' :=
    ends_readRegisters_unknown rfl hfetch'
  cases hknown : (if useCache then d.registers.getAll? registers else none) with
  | none =>
    obtain ⟨after, hfetch, hafter⟩ := ends_fetchRegisters_steady hb hd.quiet hd.idle hl
    exact (ends_readRegisters_unknown hknown hfetch).alike hplain (hafter.symm.trans (h.trans hafter'))
  | some values =>
    have hcached : (readRegisters registers useCache).Ends d (.ok values) d := ends_readRegisters_known hknown
    rw [hd.toCoherent.eq_held hknown] at hcached
    exact hcached.alike hplain (h.trans hafter')

/-- Writing registers: the link ends up as if everything had been sent, whatever is left out. -/
theorem ends_writeRegisters_steady {d : Driver .ready (Chip b)} (hq : d.chip.outgoing = []) (hidle : d.link.stage = .idle)
    {values : List Setting} (hn : (values.map Prod.fst).Nodup) {useCache : Bool}
    (hknown : useCache = true → d.chip.tables.Bears d.registers) :
    ∃ d', (writeRegisters values useCache).Ends d (.ok ()) d' ∧
      Aligned (d.afterCommand .writeRegister (values.flatMap settingBytes)) d' := by
  have hobey : d.chip.obey Command.writeRegister.code ((d.pending values useCache).flatMap settingBytes) =
      d.chip.obey Command.writeRegister.code (values.flatMap settingBytes) := by
    cases useCache
    · rfl
    · exact Chip.obey_write_changed hb d.chip (hknown rfl) hn
  have hfit := length_pending_lt d hn useCache
  by_cases hnone : (d.pending values useCache).isEmpty = true
  · rw [List.isEmpty_iff.1 hnone, List.flatMap_nil, Chip.obey_write_nothing hb] at hobey
    exact ⟨d, ends_writeRegisters_nothing hnone, link_afterCommand hidle hobey.symm, rfl⟩
  · have hends := ends_execute_answering hb.hears hq .writeRegister d.settings.commandTimeout hfit
    refine ⟨_, ends_writeRegisters hnone hends, ?_, rfl⟩
    rw [noting, afterCommand, afterCommand, hobey]

/-- Writing registers with a cache, and without one. -/
theorem alike_writeRegisters {d d' : Driver .ready (Chip b)} (h : Aligned d d') (hd : d.Settled) {values : List Setting}
    (hn : (values.map Prod.fst).Nodup) (useCache : Bool) :
    Outcome.Alike Aligned (fun _ => False) Eq ((writeRegisters values useCache).run d)
      ((writeRegisters values false).run d') := by
  have hplain : false = true → d'.chip.tables.Bears d'.registers := nofun
  obtain ⟨after, hends, hafter⟩ := ends_writeRegisters_steady hb hd.quiet hd.idle hn fun _ : useCache = true => hd.registers
  obtain ⟨after', hends', hafter'⟩ := ends_writeRegisters_steady hb (h.quiet hd.quiet) (h.idle hd.idle) hn hplain
  exact hends.alike hends' (hafter.symm.trans ((h.afterCommand _ _).trans hafter'))

/-- Writing an item with a cache, and without one. -/
theorem alike_applyItem {d d' : Driver .ready (Chip b)} (h : Aligned d d') (hd : d.Settled) (item : RfItem) (value : Bytes)
    (useCache : Bool) (timeout : Duration) :
    Outcome.Alike Aligned (fun _ => False) Eq ((applyItem item value useCache timeout).run d)
      ((applyItem item value false timeout).run d') := by
  have hplain : ¬(false = true ∧ d'.rfItems.get? item = some value) := nofun
  rw [run_applyItem_sent timeout hplain]
  by_cases hknown : useCache = true ∧ d.rfItems.get? item = some value
  · -- The item is left out. Sending it would not have been noticed.
    have hheld : d'.chip.tables.items item.code = value := by
      rw [h.chip]
      exact hd.items item value hknown.2
    have hfit : (item.code :: value).length < Frame.maxBody := hd.short item value hknown.2
    have hexec := ends_execute_answering hb.hears (h.quiet hd.quiet) .rfConfiguration timeout hfit
    have hlink := link_afterCommand (h.idle hd.idle) (Chip.obey_configure_held hb d'.chip hheld)
    exact (ends_applyItem_known timeout hknown).alike (hexec.bind (Act.Ends.change _ _))
      ⟨h.link.trans hlink.symm, h.settings⟩
  · rw [run_applyItem_sent timeout hknown]
    exact aligned_item item value timeout d d' h

/-- The steps of every request, with a cache and without one, end alike. -/
theorem steady_steps : Steps (σ := Chip b) (fun registers => registers.length ≤ 126)
    (Act.Coupled (fun d d' => Aligned d d' ∧ d.Settled) (fun _ => False) Eq) where
  ofActions := Act.Coupled.congruence _
  setting f := Act.Coupled.look fun _ _ h => congrArg f h.1.settings
  send args timeout hc := (aligned_sendCommand _ args timeout).keeping (settled_guards.steps.send args timeout hc)
  waking timeout := (aligned_sendWaking _ _ timeout).keeping (settled_guards.steps.waking timeout)
  reset := (aligned_onLink _).keeping settled_guards.steps.reset
  forget := aligned_forget.keeping settled_guards.steps.forget
  list _ _ := (aligned_listOne _ _).keeping (settled_guards.steps.list _ _)
  listing _ _ := (aligned_requestListing _ _).keeping (settled_guards.steps.listing _ _)
  target := aligned_becomeTarget.keeping settled_guards.steps.target
  read useCache hl := .relying (fun _ _ h hd => alike_readRegisters hb h hd hl useCache)
    (settled_guards.steps.read useCache trivial)
  write useCache hn := .relying (fun _ _ h hd => alike_writeRegisters hb h hd hn useCache)
    (settled_guards.steps.write useCache hn)
  item item value useCache timeout := .relying (fun _ _ h hd => alike_applyItem hb h hd item value useCache timeout)
    (settled_guards.steps.item item value useCache timeout)

end Steady

end Driver

/-! ## Sessions -/

/-- Two sessions of the same requests with a steady chip, one that relies on the caches where it is asked to and one that
never does, answer every request alike and leave the chip the same. -/
theorem caching_transparent (b : Behaviour ι) (hb : b.Steady) (tables : Tables) (inner : ι) (settings : Settings)
    (requests : List Request) (hcareful : ∀ request ∈ requests, request.Careful)
    (hreads : ∀ request ∈ requests, request.Reads fun registers => registers.length ≤ 126) :
    (session (⟨tables, inner, []⟩ : Chip b) settings requests).result =
        (session (⟨tables, inner, []⟩ : Chip b) settings (requests.map Request.plain)).result ∧
      (session (⟨tables, inner, []⟩ : Chip b) settings requests).state =
        (session (⟨tables, inner, []⟩ : Chip b) settings (requests.map Request.plain)).state := by
  have hreplay := coupled_replay fun request hr =>
    (Driver.steady_steps hb).request (by decide) (hcareful request hr) (hreads request hr)
  unfold session
  rcases hup : (Driver.over (⟨tables, inner, []⟩ : Chip b) settings).bringUp with ⟨fault | d, chip, log⟩
  · exact ⟨rfl, rfl⟩
  · have hd : d.Settled := Driver.settled_bringUp (by rw [hup])
    obtain ⟨hresult, haligned, -⟩ := (hreplay d d ⟨⟨rfl, rfl⟩, hd⟩).same
    rw [Outcome.andThen_ok, Outcome.andThen_ok]
    exact ⟨hresult, congrArg Link.channel haligned.link⟩

theorem Behaviour.steady_prompt : Behaviour.prompt.Steady where
  hears _ _ _ _ := rfl
  read _ _ _ := rfl
  write_nothing _ _ := rfl
  write_held _ _ _ _ _ _ _ := rfl
  configure_held _ _ _ := rfl

/-- A session that writes two registers of which one is known, reads one back, and lists targets. -/
theorem caching_transparent_listing :
    (session (⟨⟨fun _ => 0x00, fun _ => []⟩, 0, []⟩ : Chip Behaviour.prompt) {}
        [.writeRegisters [(.txMode, 0x80)] true, .writeRegisters [(.txMode, 0x80), (.rxMode, 0x80)] true,
          .readRegisters [.rxMode] true, .listTargets .typeA 1, .setRetryTimeout (.ofMillis 50) true]).result =
      (session (⟨⟨fun _ => 0x00, fun _ => []⟩, 0, []⟩ : Chip Behaviour.prompt) {}
        [.writeRegisters [(.txMode, 0x80)] false, .writeRegisters [(.txMode, 0x80), (.rxMode, 0x80)] false,
          .readRegisters [.rxMode] false, .listTargets .typeA 1, .setRetryTimeout (.ofMillis 50) false]).result :=
  (caching_transparent Behaviour.prompt Behaviour.steady_prompt ⟨fun _ => 0x00, fun _ => []⟩ 0 {}
    [.writeRegisters [(.txMode, 0x80)] true, .writeRegisters [(.txMode, 0x80), (.rxMode, 0x80)] true,
      .readRegisters [.rxMode] true, .listTargets .typeA 1, .setRetryTimeout (.ofMillis 50) true]
    (by simp [Request.Careful]) (by simp [Request.Reads])).1

end NfcHost
