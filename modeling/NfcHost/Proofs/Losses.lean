import NfcHost.Proofs.LossyChip
import NfcHost.Proofs.Operations

/-!
# What a lost answer does to the caches

When the answer to a writing is lost, the driver takes the command for failed and keeps what it knew, though the chip has
changed. So it is false that what is known is always what the chip holds (`right_whatever_is_lost_false`): an entry that was
right before the loss stays, and a later writing of its value is left out. What holds is that nothing else goes wrong
(`wrong_only_where_cut`): an entry differs from the chip only where the last writing that the chip obeyed had its answer cut.
The invariant that carries this (`Driver.Vouched`) is preserved by every operation, however its commands end.
-/

namespace NfcHost

variable {ι : Type} {b : Behaviour ι} {losses : Losses ι}

namespace Driver

variable {phase : Phase}

/-- The chip that the driver drives, with the line to it. -/
abbrev lossy (d : Driver phase (LossyChip b losses)) : LossyChip b losses := d.link.channel

/-- Every register and every item that is known holds the value known, or is in doubt. -/
structure Vouched (d : Driver phase (LossyChip b losses)) : Prop where
  registers : ∀ r v, d.registers.get? r = some v → d.lossy.doubts.Allows d.lossy.chip.tables r v
  items : ∀ i v, d.rfItems.get? i = some v → d.lossy.doubts.AllowsItem d.lossy.chip.tables i v

/-- The driver vouches for what it knows, and the chip has nothing left to say. -/
structure Poised (d : Driver phase (LossyChip b losses)) : Prop extends Vouched d where
  quiet : d.lossy.chip.outgoing = []

/-- The driver knows nothing, and the chip has nothing left to say. -/
structure Unknowing (d : Driver phase (LossyChip b losses)) : Prop where
  registers : d.registers = .empty
  items : d.rfItems = .empty
  quiet : d.lossy.chip.outgoing = []

/-- Who knows nothing has nothing to vouch for. -/
theorem Unknowing.poised {d : Driver phase (LossyChip b losses)} (h : d.Unknowing) : d.Poised where
  registers := by
    rw [h.registers]
    exact fun _ _ hv => nomatch hv
  items := by
    rw [h.items]
    exact fun _ _ hv => nomatch hv
  quiet := h.quiet

/-! ## One command -/

/-- The driver when its chip has obeyed a command. -/
def heeded (d : Driver phase (LossyChip b losses)) (command : Command) (args : Bytes) : Driver phase (LossyChip b losses) :=
  { d with link := { d.link with channel := d.lossy.obey command.code args, stage := .idle } }

/-- A command whose arguments fit is sent: the chip obeys, and what comes of its answer comes back. -/
theorem ends_sendCommand_lossy {d : Driver phase (LossyChip b losses)} (hq : d.lossy.chip.outgoing = []) (command : Command)
    {args : Bytes} (timeout : Duration) (hl : args.length < Frame.maxBody) :
    ∃ r, (sendCommand command args timeout).Ends d r (d.heeded command args) ∧ d.lossy.Brings command.code args r := by
  obtain ⟨r, hends, hbrings⟩ :=
    Link.ends_exchange_lossy timeout (l := d.link) (MemoryChannel.frameIn_wire hl) hl hq
  exact ⟨r, ends_sendCommand_exchange hl hends, hbrings⟩

/-- A waking command goes out in the same way. -/
theorem ends_sendWaking_lossy {d : Driver phase (LossyChip b losses)} (hq : d.lossy.chip.outgoing = []) (command : Command)
    {args : Bytes} (timeout : Duration) (hl : args.length < Frame.maxBody) :
    ∃ r, (sendWaking command args timeout).Ends d r (d.heeded command args) := by
  obtain ⟨r, hends, -⟩ :=
    Link.ends_exchange_lossy timeout (l := d.link) (MemoryChannel.frameIn_withWakeUp_wire hl) hl hq
  exact ⟨_, ends_sendWaking_exchange hl hends⟩

/-- Executing a command: it is not sent, or the chip obeys and the payload that comes back, if one does, is the chip's. If no
payload comes back, the command was not received or its answer was cut. -/
theorem ends_execute_lossy {d : Driver phase (LossyChip b losses)} (hq : d.lossy.chip.outgoing = []) (command : Command)
    (args : Bytes) (timeout : Duration) :
    (∃ fault, (execute command args timeout).Ends d (.error fault) d) ∨
    (∃ payload, (execute command args timeout).Ends d (.ok payload) (d.heeded command args) ∧
      d.lossy.chip.answer? command.code args = some payload ∧ args.length < Frame.maxBody) ∨
    (∃ fault, (execute command args timeout).Ends d (.error fault) (d.heeded command args) ∧
      ∀ payload, d.lossy.chip.answer? command.code args = some payload → d.lossy.lost command.code args ≠ 0) := by
  by_cases hl : args.length < Frame.maxBody
  · obtain ⟨r, hends, hbrings⟩ := ends_sendCommand_lossy hq command timeout hl
    have hexec := ends_execute_sendCommand hends
    rcases hresult : (r >>= answered command >>= stripCode command) with fault | payload
    · rw [hresult] at hexec
      refine Or.inr (Or.inr ⟨fault, hexec, fun payload hp hlost => ?_⟩)
      rw [hbrings.whole payload hp hlost] at hresult
      nomatch (stripCode_reply command payload).symm.trans hresult
    · rw [hresult] at hexec
      obtain ⟨reply, hreply, hstrip⟩ := ok_of_bind hresult
      obtain ⟨reply?, rfl, hanswered⟩ := ok_of_bind hreply
      cases reply? with
      | none => nomatch hanswered
      | some reply' =>
        obtain rfl : reply' = reply := Except.ok.inj hanswered
        obtain ⟨payload', hp, rfl⟩ := hbrings.sound reply' rfl
        have hpayload : payload' = payload := Except.ok.inj ((stripCode_reply command payload').symm.trans hstrip)
        exact Or.inr (Or.inl ⟨payload, hexec, hpayload ▸ hp, hl⟩)
  · exact Or.inl ⟨_, ends_execute_long d command timeout hl⟩

/-- A harmless command leaves what is vouched for alone. -/
theorem Poised.harmless {d : Driver phase (LossyChip b losses)} (h : d.Poised) {command : Command} (hc : command.Harmless)
    (args : Bytes) : (d.heeded command args).Poised := by
  obtain ⟨htables, hdoubts⟩ := LossyChip.obey_harmless hc d.lossy args
  refine ⟨⟨?_, ?_⟩, h.quiet⟩
  · have hr := h.registers
    rw [← htables, ← hdoubts] at hr
    exact hr
  · have hi := h.items
    rw [← htables, ← hdoubts] at hi
    exact hi

/-- Who knows nothing knows nothing after a command. -/
theorem Unknowing.heeded {d : Driver phase (LossyChip b losses)} (h : d.Unknowing) (command : Command) (args : Bytes) :
    (d.heeded command args).Unknowing := ⟨h.registers, h.items, h.quiet⟩

section Commands

variable {inv : Driver phase (LossyChip b losses) → Prop} (hq : ∀ d, inv d → d.lossy.chip.outgoing = []) {command : Command}
  (hheeded : ∀ d args, inv d → inv (d.heeded command args))
include hq hheeded

theorem keeps_sendCommand_lossy (args : Bytes) (timeout : Duration) : (sendCommand command args timeout).Keeps inv := by
  refine Act.Keeps.of_ends fun d hd => ?_
  by_cases hl : args.length < Frame.maxBody
  · obtain ⟨r, hends, -⟩ := ends_sendCommand_lossy (hq d hd) command timeout hl
    exact ⟨r, _, hends, hheeded d args hd⟩
  · exact ⟨_, _, ends_sendCommand_long d command timeout hl, hd⟩

theorem keeps_sendWaking_lossy {args : Bytes} (timeout : Duration) (hl : args.length < Frame.maxBody) :
    (sendWaking command args timeout).Keeps inv := by
  refine Act.Keeps.of_ends fun d hd => ?_
  obtain ⟨r, hends⟩ := ends_sendWaking_lossy (hq d hd) command timeout hl
  exact ⟨r, _, hends, hheeded d args hd⟩

end Commands

/-! ## Registers -/

section Registers

variable {d : Driver phase (LossyChip b losses)}

/-- A writing that brings nothing back was not received, or its registers come in doubt. -/
theorem Poised.missed_writing (h : d.Poised) {args : Bytes}
    (hcut : ∀ payload, d.lossy.chip.answer? Command.writeRegister.code args = some payload →
      d.lossy.lost Command.writeRegister.code args ≠ 0) :
    (d.heeded .writeRegister args).Poised := by
  refine ⟨⟨fun r v hv => ?_, fun i v hv => ?_⟩, h.quiet⟩
  · refine d.lossy.obey_allows _ _ (h.registers r v hv) fun payload hp => ?_
    by_cases hr : r.address ∈ Tables.named args
    · rw [decide_eq_true (hcut payload hp)]
      exact Doubts.allows_write_cut _ v hr
    · exact (h.registers r v hv).write hr _
  · exact d.lossy.obey_allowsItem _ _ (h.items i v hv) fun _ _ => (h.items i v hv).write args _

/-- What is entered by a writing and was not sent was known before. -/
theorem known_of_not_pending {values : List Setting} {useCache : Bool} {r : Register} {v : UInt8}
    (hr : r ∉ (d.pending values useCache).map Prod.fst) (hv : (d.noting values).registers.get? r = some v) :
    d.registers.get? r = some v := by
  rw [noting, Cache.get?_insertAll, Option.or_eq_some_iff] at hv
  obtain hlast | ⟨-, hv⟩ := hv
  · have hmem := mem_of_lastValue hlast
    cases useCache with
    | false => exact absurd (List.mem_map_of_mem (f := Prod.fst) hmem) hr
    | true =>
      refine Decidable.byContradiction fun hne => hr ?_
      exact List.mem_map_of_mem (f := Prod.fst) (List.mem_filter.2 ⟨hmem, decide_eq_true hne⟩)
  · exact hv

/-- A writing that brings something back leaves in the chip what it enters. -/
theorem Poised.written (h : d.Poised) {values : List Setting} (hn : (values.map Prod.fst).Nodup) (useCache : Bool)
    {payload : Bytes}
    (hp : d.lossy.chip.answer? Command.writeRegister.code ((d.pending values useCache).flatMap settingBytes) = some payload) :
    ((d.heeded .writeRegister ((d.pending values useCache).flatMap settingBytes)).noting values).Poised := by
  refine ⟨⟨fun r v hv => ?_, fun i v hv => ?_⟩, h.quiet⟩
  · by_cases hr : r ∈ (d.pending values useCache).map Prod.fst
    · obtain ⟨⟨q, w⟩, hmem, rfl⟩ := List.mem_map.1 hr
      have hsub : (d.pending values useCache).Sublist values := by
        cases useCache
        · exact List.Sublist.refl _
        · exact List.filter_sublist
      have hpending : lastValue q (d.pending values useCache) = some w :=
        lastValue_of_mem (hn.sublist (hsub.map Prod.fst)) hmem
      have hw : w = v := by
        rw [noting, Cache.get?_insertAll, lastValue_of_mem hn (hsub.subset hmem)] at hv
        exact Option.some.inj hv
      have hwritten : (d.lossy.chip.tables.write ((d.pending values useCache).flatMap settingBytes)).registers q.address =
          v := by
        rw [Tables.registers_write, hpending, hw]
        rfl
      left
      rw [← hwritten]
      exact congrArg (fun t : Tables => t.registers q.address) (Chip.tables_obey_heard hp)
    · have hunnamed : r.address ∉ Tables.named ((d.pending values useCache).flatMap settingBytes) := by
        rw [Tables.named_settingBytes, List.mem_map]
        rintro ⟨p, hmem, hp⟩
        rw [← Register.address_inj.1 hp] at hr
        exact hr (List.mem_map_of_mem hmem)
      have hknown := h.registers r v (known_of_not_pending hr hv)
      exact d.lossy.obey_allows _ _ hknown fun _ _ => hknown.write hunnamed _
  · exact d.lossy.obey_allowsItem _ _ (h.items i v hv) fun _ _ => (h.items i v hv).write _ _

/-- A reading that brings something back enters what the chip holds. -/
theorem Poised.fetched (h : d.Poised) (registers : List Register) (args : Bytes) :
    ((d.heeded .readRegister args).noting
      (registers.zip (registers.map fun r => d.lossy.chip.tables.registers r.address))).Poised := by
  have hheeded : (d.heeded .readRegister args).Poised := h.harmless (by decide) args
  refine ⟨⟨fun r v hv => ?_, hheeded.items⟩, h.quiet⟩
  rw [noting, Cache.get?_insertAll, Option.or_eq_some_iff] at hv
  obtain hv | ⟨-, hv⟩ := hv
  · left
    rw [lastValue_zip_map (fun r : Register => d.lossy.chip.tables.registers r.address) registers hv]
    exact congrArg (fun t : Tables => t.registers r.address) (LossyChip.obey_harmless (by decide) d.lossy args).1
  · exact hheeded.registers r v hv

theorem keeps_readRegisters_lossy (registers : List Register) (useCache : Bool) :
    (readRegisters registers useCache : Act (Driver .ready (LossyChip b losses)) Bytes).Keeps Poised := by
  refine Act.Keeps.of_ends fun d hd => ?_
  cases hknown : (if useCache then d.registers.getAll? registers else none) with
  | some values => exact ⟨_, _, ends_readRegisters_known hknown, hd⟩
  | none =>
    obtain ⟨fault, hends⟩ | ⟨payload, hends, hp, hl⟩ | ⟨fault, hends, -⟩ :=
      ends_execute_lossy hd.quiet .readRegister (registers.flatMap Register.addressBytes) d.settings.commandTimeout
    · exact ⟨_, _, ends_readRegisters_unknown hknown (ends_fetchRegisters_error hends), hd⟩
    · have hheld : payload = registers.map fun r => d.lossy.chip.tables.registers r.address :=
        (Chip.answer?_readRegister hp).trans (Tables.read_addressBytes _ _)
      have hlen : payload.length = registers.length := by rw [hheld, List.length_map]
      have hfetch := ends_fetchRegisters hlen hl hends
      rw [hheld] at hfetch
      exact ⟨_, _, ends_readRegisters_unknown hknown hfetch, hd.fetched registers _⟩
    · exact ⟨_, _, ends_readRegisters_unknown hknown (ends_fetchRegisters_error hends), hd.harmless (by decide) _⟩

theorem keeps_writeRegisters_lossy {values : List Setting} (hn : (values.map Prod.fst).Nodup) (useCache : Bool) :
    (writeRegisters values useCache : Act (Driver .ready (LossyChip b losses)) Unit).Keeps Poised := by
  refine Act.Keeps.of_ends fun d hd => ?_
  by_cases hnone : (d.pending values useCache).isEmpty = true
  · exact ⟨_, _, ends_writeRegisters_nothing hnone, hd⟩
  · obtain ⟨fault, hends⟩ | ⟨payload, hends, hp, -⟩ | ⟨fault, hends, hcut⟩ :=
      ends_execute_lossy hd.quiet .writeRegister ((d.pending values useCache).flatMap settingBytes)
        d.settings.commandTimeout
    · exact ⟨_, _, ends_writeRegisters_error hnone hends, hd⟩
    · exact ⟨_, _, ends_writeRegisters hnone hends, hd.written hn useCache hp⟩
    · exact ⟨_, _, ends_writeRegisters_error hnone hends, hd.missed_writing hcut⟩

end Registers

/-! ## Items -/

section Items

variable {d : Driver phase (LossyChip b losses)}

/-- A configuration that brings nothing back was not received, or its item comes in doubt. -/
theorem Poised.missed_configuration (h : d.Poised) {item : RfItem} {value : Bytes}
    (hcut : ∀ payload, d.lossy.chip.answer? Command.rfConfiguration.code (item.code :: value) = some payload →
      d.lossy.lost Command.rfConfiguration.code (item.code :: value) ≠ 0) :
    (d.heeded .rfConfiguration (item.code :: value)).Poised := by
  refine ⟨⟨fun r v hv => ?_, fun i v hv => ?_⟩, h.quiet⟩
  · exact d.lossy.obey_allows _ _ (h.registers r v hv) fun _ _ => (h.registers r v hv).configure _ _
  · refine d.lossy.obey_allowsItem _ _ (h.items i v hv) fun payload hp => ?_
    by_cases hi : item = i
    · subst hi
      rw [decide_eq_true (hcut payload hp)]
      exact Doubts.allowsItem_configure_cut _ v value
    · exact (h.items i v hv).configure hi _

/-- A configuration that brings something back leaves in the chip what it enters. -/
theorem Poised.configured (h : d.Poised) {item : RfItem} {value payload : Bytes}
    (hp : d.lossy.chip.answer? Command.rfConfiguration.code (item.code :: value) = some payload) :
    ((d.heeded .rfConfiguration (item.code :: value)).notingItem item value).Poised := by
  refine ⟨⟨fun r v hv => ?_, fun i v hv => ?_⟩, h.quiet⟩
  · exact d.lossy.obey_allows _ _ (h.registers r v hv) fun _ _ => (h.registers r v hv).configure _ _
  · rw [notingItem, Cache.get?_insert] at hv
    split at hv
    · rename_i hi
      left
      have hwritten : (d.lossy.chip.tables.configure (item.code :: value)).items i.code = v := by
        rw [Tables.configure, Tables.items_setItem, if_pos (congrArg RfItem.code hi.symm), Option.some.inj hv]
      rw [← hwritten]
      exact congrArg (fun t : Tables => t.items i.code) (Chip.tables_obey_heard hp)
    · rename_i hi
      exact d.lossy.obey_allowsItem _ _ (h.items i v hv) fun _ _ => (h.items i v hv).configure hi _

theorem keeps_applyItem_lossy (item : RfItem) (value : Bytes) (useCache : Bool) (timeout : Duration) :
    (applyItem item value useCache timeout : Act (Driver phase (LossyChip b losses)) Unit).Keeps Poised := by
  refine Act.Keeps.of_ends fun d hd => ?_
  by_cases hknown : useCache = true ∧ d.rfItems.get? item = some value
  · exact ⟨_, _, ends_applyItem_known timeout hknown, hd⟩
  · obtain ⟨fault, hends⟩ | ⟨payload, hends, hp, -⟩ | ⟨fault, hends, hcut⟩ :=
      ends_execute_lossy hd.quiet .rfConfiguration (item.code :: value) timeout
    · exact ⟨_, _, ends_applyItem_error hknown hends, hd⟩
    · exact ⟨_, _, ends_applyItem hknown hends, hd.configured hp⟩
    · exact ⟨_, _, ends_applyItem_error hknown hends, hd.missed_configuration hcut⟩

end Items

/-! ## Every request -/

theorem keeps_resetInput_lossy :
    (onLink (Link.onChannel Channel.resetInput) : Act (Driver phase (LossyChip b losses)) Unit).Keeps Poised :=
  fun _ hd => ⟨⟨hd.registers, hd.items⟩, rfl⟩

/-- The chip sets up its own radio only when the driver knows nothing. -/
theorem poised_guards : Guards (σ := LossyChip b losses) Poised Unknowing where
  weaken _ hd := hd.poised
  forgets _ hd := ⟨rfl, rfl, hd.quiet⟩
  blank command := keeps_sendCommand_lossy (fun _ hd => hd.quiet) fun _ args hd => hd.heeded command args
  send args timeout hc := keeps_sendCommand_lossy (fun _ hd => hd.quiet) (fun _ args hd => hd.harmless hc args) args timeout
  waking timeout :=
    keeps_sendWaking_lossy (fun _ hd => hd.quiet) (fun _ args hd => hd.harmless (by decide) args) timeout (by decide)
  reset _ hd := ⟨⟨hd.registers, hd.items⟩, rfl⟩
  read := keeps_readRegisters_lossy
  write useCache hn := keeps_writeRegisters_lossy hn useCache
  item := keeps_applyItem_lossy

/-! ## Bring-up -/

theorem keeps_bringUpSteps_lossy :
    (bringUpSteps : Act (Driver .asleep (LossyChip b losses)) Unit).Keeps Poised := by
  have hwake : (onLink Link.wakeUp : Act (Driver .asleep (LossyChip b losses)) Unit).Keeps Poised := by
    intro d hd
    have hstate : ((onLink Link.wakeUp).run d).state =
        { d with link := { d.link with channel := (d.lossy.receiveBytes (Link.withWakeUp Frame.ack)).saying [] } } := rfl
    rw [hstate, LossyChip.receiveBytes_wakeUp]
    exact ⟨⟨hd.registers, hd.items⟩, rfl⟩
  exact congr_bringUpSteps (keeps_congruence Poised) hwake keeps_resetInput_lossy
    (fun _ _ timeout hc hl => keeps_sendWaking_lossy (fun _ hd => hd.quiet) (fun _ args hd => hd.harmless hc args) timeout hl)
    fun item value => keeps_applyItem_lossy item value false

/-- A driver that was brought up is poised. -/
theorem poised_bringUp {tables : Tables} {inner : ι} {settings : Settings} {d : Driver .ready (LossyChip b losses)}
    (h : ((Driver.over (⟨⟨tables, inner, []⟩, {}⟩ : LossyChip b losses) settings).bringUp).result = .ok d) : d.Poised := by
  have hknows : (Driver.over (⟨⟨tables, inner, []⟩, {}⟩ : LossyChip b losses) settings).Unknowing := ⟨rfl, rfl, rfl⟩
  have hpoised := keeps_bringUpSteps_lossy _ hknows.poised
  rw [eq_of_bringUp h]
  exact ⟨⟨hpoised.registers, hpoised.items⟩, hpoised.quiet⟩

end Driver

/-! ## Sessions -/

/-- Between any two requests of a session, whatever the chip receives and whatever is lost of its answers, every register and
every item that the driver knows holds in the chip the value known, but for those of which the last writing that the chip
obeyed had its answer cut. -/
theorem wrong_only_where_cut (b : Behaviour ι) (losses : Losses ι) (tables : Tables) (inner : ι) (settings : Settings)
    (requests : List Request) (hcareful : ∀ request ∈ requests, request.Careful) (d : Driver .ready (LossyChip b losses))
    (hup : ((Driver.over (⟨⟨tables, inner, []⟩, {}⟩ : LossyChip b losses) settings).bringUp).result = .ok d) :
    ((replay requests).run d).state.Vouched := by
  have hkeeps : (replay requests : Act (Driver .ready (LossyChip b losses)) _).Keeps Driver.Poised :=
    keeps_replay fun request hr => Driver.poised_guards.request (hcareful request hr)
  exact (hkeeps d (Driver.poised_bringUp hup)).toVouched

/-- A line that loses the last two bytes of the answer to one writing: of zero to the transmission mode. -/
def Losses.zeroing : Losses Nat := fun _ _ code args =>
  if code = Command.writeRegister.code ∧ args = [0x63, 0x02, 0x00] then 2 else 0

/-- A session over that line in which the writing of zero comes between two writings of the value before. The first of these
is known when the last is asked for, so that one is left out and ends well, though the chip holds zero. -/
theorem wrong_only_where_cut_zeroing :
    ∃ d, ((Driver.over (⟨⟨⟨fun _ => 0x00, fun _ => []⟩, 0, []⟩, {}⟩ : LossyChip Behaviour.prompt Losses.zeroing)).bringUp).result
        = .ok d ∧
      ((replay [.writeRegisters [(.txMode, 0x80)] true, .writeRegisters [(.txMode, 0x00)] true,
        .writeRegisters [(.txMode, 0x80)] true]).run d).result =
          .ok [.ok .nothing, .error (.invalidLength 1 0), .ok .nothing] ∧
      ((replay [.writeRegisters [(.txMode, 0x80)] true, .writeRegisters [(.txMode, 0x00)] true,
        .writeRegisters [(.txMode, 0x80)] true]).run d).state.lossy.chip.tables.registers Register.txMode.address = 0x00 ∧
      ((replay [.writeRegisters [(.txMode, 0x80)] true, .writeRegisters [(.txMode, 0x00)] true,
        .writeRegisters [(.txMode, 0x80)] true]).run d).state.Vouched := by
  have hup : ((Driver.over (⟨⟨⟨fun _ => 0x00, fun _ => []⟩, 0, []⟩, {}⟩ :
      LossyChip Behaviour.prompt Losses.zeroing)).bringUp).result = .ok _ := rfl
  refine ⟨_, hup, rfl, rfl, wrong_only_where_cut _ _ _ _ _ _ ?_ _ hup⟩
  simp [Request.Careful]

/-- That every register known is right whatever is lost is false: at the end of that session the value before is still known.
-/
theorem right_whatever_is_lost_false :
    ¬∀ (b : Behaviour Nat) (losses : Losses Nat) (tables : Tables) (inner : Nat) (settings : Settings)
      (requests : List Request) (d : Driver .ready (LossyChip b losses)), (∀ request ∈ requests, request.Careful) →
      ((Driver.over (⟨⟨tables, inner, []⟩, {}⟩ : LossyChip b losses) settings).bringUp).result = .ok d →
      ∀ r v, ((replay requests).run d).state.registers.get? r = some v →
        ((replay requests).run d).state.lossy.chip.tables.registers r.address = v := by
  intro h
  have hup : ((Driver.over (⟨⟨⟨fun _ => 0x00, fun _ => []⟩, 0, []⟩, {}⟩ :
      LossyChip Behaviour.prompt Losses.zeroing)).bringUp).result = .ok _ := rfl
  have hright := h _ _ _ _ _ [.writeRegisters [(.txMode, 0x80)] true, .writeRegisters [(.txMode, 0x00)] true,
    .writeRegisters [(.txMode, 0x80)] true] _ (by simp [Request.Careful]) hup .txMode 0x80 rfl
  have hheld : (0x00 : UInt8) = 0x80 := hright
  nomatch hheld

end NfcHost
