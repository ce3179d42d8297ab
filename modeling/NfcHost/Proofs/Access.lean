import NfcHost.Driver.Raw
import NfcHost.Proofs.Contract
import NfcHost.Proofs.Tables
import NfcHost.Proofs.Wire

/-!
# Commands, and reading and writing through the caches

How a command ends, over any channel, given how the exchange that carries it ended; and how the operations that rely on a
cache end, given how the command in them ended: what they send (`Driver.pending`), what they enter when it is answered
(`Driver.noting`, `Driver.notingItem`), and that they enter nothing when it is not. A raw exchange leaves what the command
in it leaves.
-/

namespace NfcHost.Driver

/-! ## Commands -/

section Commands

variable {phase : Phase} {σ : Type}

/-- A reply of the right kind loses its response code. -/
theorem stripCode_reply (command : Command) (payload : Bytes) :
    stripCode command (command.responseCode :: payload) = .ok payload := by
  simp [stripCode, Bytes.expectCode, Bytes.byte, Bytes.require, Bytes.sum64, Bytes.fetch, Bytes.suffix, bind, Except.bind]

/-- Arguments that fit are put in a frame. -/
theorem ends_encode (d : Driver phase σ) (command : Command) {args : Bytes} (hl : args.length < Frame.maxBody) :
    (liftM (Frame.command command.code args).encode : Act (Driver phase σ) Bytes).Ends d
      (.ok (Frame.command command.code args).wire) d := by
  rw [Frame.encode_eq_wire (show (command.code :: args).length ≤ Frame.maxBody from hl)]
  exact Act.Ends.lift _ d

variable [Channel σ]

/-- A command whose arguments do not fit is not sent. -/
theorem ends_sendCommand_long (d : Driver phase σ) (command : Command) {args : Bytes} (timeout : Duration)
    (hl : ¬ args.length < Frame.maxBody) :
    (sendCommand command args timeout).Ends d (.error (.invalidLength Frame.maxBody (args.length + 1))) d := by
  have hlong : (Frame.command command.code args).encode = .error (.invalidLength Frame.maxBody (args.length + 1)) :=
    if_pos (show (command.code :: args).length > Frame.maxBody from Nat.lt_succ_of_le (Nat.not_lt.1 hl))
  have hfault := Act.Ends.lift (Frame.command command.code args).encode d
  rw [hlong] at hfault
  refine (Act.Ends.tell _ _ d).bind ?_
  rw [hlong]
  exact hfault.bind_error

/-- A command whose arguments do not fit is not executed. -/
theorem ends_execute_long (d : Driver phase σ) (command : Command) {args : Bytes} (timeout : Duration)
    (hl : ¬ args.length < Frame.maxBody) :
    (execute command args timeout).Ends d (.error (.invalidLength Frame.maxBody (args.length + 1))) d :=
  (ends_sendCommand_long d command timeout hl).bind_error

/-- A command whose arguments fit ends as its exchange. -/
theorem ends_sendCommand_exchange {d : Driver phase σ} {command : Command} {args : Bytes} {timeout : Duration}
    {r : Except Fault (Option Bytes)} {l : Link σ} (hl : args.length < Frame.maxBody)
    (h : (Link.exchange (Frame.command command.code args).wire timeout).Ends d.link r l) :
    (sendCommand command args timeout).Ends d r { d with link := l } :=
  (Act.Ends.tell _ _ d).bind ((ends_encode d command hl).bind h.onPart)

/-- A waking command ends as its exchange, but silence is a fault. -/
theorem ends_sendWaking_exchange {d : Driver phase σ} {command : Command} {args : Bytes} {timeout : Duration}
    {r : Except Fault (Option Bytes)} {l : Link σ} (hl : args.length < Frame.maxBody)
    (h : (Link.exchange (Link.withWakeUp (Frame.command command.code args).wire) timeout).Ends d.link r l) :
    (sendWaking command args timeout).Ends d (r >>= answered command) { d with link := l } := by
  refine (ends_encode d command hl).bind ?_
  exact h.onPart.bind_lift (answered command)

/-- What outlives the exchange of a command that fits outlives the command. -/
theorem keeps_sendCommand_of_exchange {inv : Driver phase σ → Prop} {command : Command} {args : Bytes} {timeout : Duration}
    (h : args.length < Frame.maxBody → ∀ d, inv d → ∃ r l,
      (Link.exchange (Frame.command command.code args).wire timeout).Ends d.link r l ∧ inv { d with link := l }) :
    (sendCommand command args timeout).Keeps inv := by
  refine Act.Keeps.of_ends fun d hd => ?_
  by_cases hl : args.length < Frame.maxBody
  · obtain ⟨r, l, hends, hinv⟩ := h hl d hd
    exact ⟨r, _, ends_sendCommand_exchange hl hends, hinv⟩
  · exact ⟨_, d, ends_sendCommand_long d command timeout hl, hd⟩

/-- What outlives the exchange of a waking command outlives the command. -/
theorem keeps_sendWaking_of_exchange {inv : Driver phase σ → Prop} {command : Command} {args : Bytes} {timeout : Duration}
    (hl : args.length < Frame.maxBody)
    (h : ∀ d, inv d → ∃ r l, (Link.exchange (Link.withWakeUp (Frame.command command.code args).wire) timeout).Ends d.link r l ∧
      inv { d with link := l }) :
    (sendWaking command args timeout).Keeps inv := by
  refine Act.Keeps.of_ends fun d hd => ?_
  obtain ⟨r, l, hends, hinv⟩ := h d hd
  exact ⟨_, _, ends_sendWaking_exchange hl hends, hinv⟩

/-- A command is executed as it is sent: silence is a fault, and a reply loses its response code. -/
theorem ends_execute_sendCommand {d d' : Driver phase σ} {command : Command} {args : Bytes} {timeout : Duration}
    {r : Except Fault (Option Bytes)} (h : (sendCommand command args timeout).Ends d r d') :
    (execute command args timeout).Ends d (r >>= answered command >>= stripCode command) d' := by
  rw [execute, ← bind_assoc]
  exact (h.bind_lift (answered command)).bind_lift (stripCode command)

/-- A command leaves what its exchange leaves, and one whose arguments do not fit leaves everything. -/
theorem state_execute (d : Driver phase σ) (command : Command) (args : Bytes) (timeout : Duration) :
    ((execute command args timeout).run d).state =
      if args.length < Frame.maxBody then
        { d with link := ((Link.exchange (Frame.command command.code args).wire timeout).run d.link).state }
      else d := by
  by_cases hl : args.length < Frame.maxBody
  · have hsend : (sendCommand command args timeout).Ends d _ _ := ends_sendCommand_exchange hl (Act.Ends.of_run _ d.link)
    rw [if_pos hl]
    exact (ends_execute_sendCommand hsend).2
  · rw [if_neg hl]
    exact (ends_execute_long d command timeout hl).2

end Commands

/-! ## What is sent and what is entered -/

section Notes

variable {phase : Phase} {σ : Type}

/-- The pairs that a writing has to send. -/
def pending (d : Driver phase σ) (values : List Setting) (useCache : Bool) : List Setting :=
  if useCache then d.registers.changed values else values

/-- What is pending of pairs is packed into three bytes for each of them, or less. -/
theorem length_pending_le (d : Driver phase σ) (values : List Setting) (useCache : Bool) :
    ((d.pending values useCache).flatMap settingBytes).length ≤ 3 * values.length := by
  rw [Tables.length_settingBytes]
  refine Nat.mul_le_mul_left 3 ?_
  cases useCache
  · exact Nat.le_refl _
  · exact List.length_filter_le _ _

/-- What is pending of pairs that name no register twice fits into a command. -/
theorem length_pending_lt (d : Driver phase σ) {values : List Setting} (hn : (values.map Prod.fst).Nodup) (useCache : Bool) :
    ((d.pending values useCache).flatMap settingBytes).length < Frame.maxBody := by
  cases useCache
  · exact Tables.length_settingBytes_lt hn
  · exact Tables.length_settingBytes_lt (hn.sublist (List.filter_sublist.map Prod.fst))

/-- The driver when it has entered pairs. -/
def noting (d : Driver phase σ) (pairs : List Setting) : Driver phase σ :=
  { d with registers := d.registers.insertAll pairs }

/-- The driver when it has entered the value of an item. -/
def notingItem (d : Driver phase σ) (item : RfItem) (value : Bytes) : Driver phase σ :=
  { d with rfItems := d.rfItems.insert item value }

/-- The driver when it has forgotten what it knew. -/
def forgotten (d : Driver phase σ) : Driver phase σ := { d with registers := .empty, rfItems := .empty }

theorem ends_noteReadings (pairs : List Setting) (d : Driver .ready σ) :
    (noteReadings pairs).Ends d (.ok ()) (d.noting pairs) := by
  induction pairs generalizing d with
  | nil => exact Act.Ends.done () d
  | cons p rest ih => exact (Act.Ends.tell _ _ d).bind ((Act.Ends.change _ d).bind (ih _))

theorem ends_tellWrites (pairs : List Setting) (d : Driver .ready σ) : (tellWrites pairs).Ends d (.ok ()) d := by
  induction pairs with
  | nil => exact Act.Ends.done () d
  | cons p rest ih => exact (Act.Ends.tell _ _ d).bind ih

/-- A writing first looks what is pending. -/
theorem ends_pending (d : Driver .ready σ) (values : List Setting) (useCache : Bool) :
    (Act.look fun d : Driver .ready σ => if useCache then d.registers.changed values else values).Ends d
      (.ok (d.pending values useCache)) d := Act.Ends.look _ d

end Notes

variable {σ : Type} [Channel σ]

/-! ## Readings -/

/-- A fetch whose command is answered with as many bytes as there are registers enters them. -/
theorem ends_fetchRegisters {d d' : Driver .ready σ} {registers : List Register} {values : Bytes}
    (hvalues : values.length = registers.length)
    (hl : (registers.flatMap Register.addressBytes).length < Frame.maxBody)
    (hends : (execute .readRegister (registers.flatMap Register.addressBytes) d.settings.commandTimeout).Ends d
      (.ok values) d') :
    (fetchRegisters registers).Ends d (.ok values) (d'.noting (registers.zip values)) := by
  have hslice : Bytes.slice values 0 registers.length = .ok values := by
    refine Bytes.slice_whole hvalues ?_
    rw [Register.length_addressBytes, Frame.maxBody] at hl
    omega
  refine (Act.Ends.look _ d).bind (hends.bind ?_)
  rw [hslice]
  exact (Act.Ends.lift _ _).bind ((ends_noteReadings _ _).bind (Act.Ends.done _ _))

/-- A fetch whose command ends in a fault. -/
theorem ends_fetchRegisters_error {d d' : Driver .ready σ} {registers : List Register} {fault : Fault}
    (hends : (execute .readRegister (registers.flatMap Register.addressBytes) d.settings.commandTimeout).Ends d
      (.error fault) d') :
    (fetchRegisters registers).Ends d (.error fault) d' :=
  (Act.Ends.look _ d).bind hends.bind_error

/-- A reading of what is known. -/
theorem ends_readRegisters_known {d : Driver .ready σ} {registers : List Register} {useCache : Bool} {values : Bytes}
    (hknown : (if useCache then d.registers.getAll? registers else none) = some values) :
    (readRegisters registers useCache).Ends d (.ok values) d := by
  refine (Act.Ends.look _ d).bind ?_
  rw [hknown]
  exact (Act.Ends.tell _ _ d).bind (Act.Ends.done _ d)

/-- A reading of what is not known. -/
theorem ends_readRegisters_unknown {d d' : Driver .ready σ} {registers : List Register} {useCache : Bool}
    {r : Except Fault Bytes} (hknown : (if useCache then d.registers.getAll? registers else none) = none)
    (hends : (fetchRegisters registers).Ends d r d') : (readRegisters registers useCache).Ends d r d' := by
  refine (Act.Ends.look _ d).bind ?_
  rw [hknown]
  exact hends

/-! ## Writings -/

/-- A writing is left out exactly if nothing is pending. -/
theorem run_writeRegisters_leftOut (d : Driver .ready σ) (values : List Setting) (useCache : Bool) :
    (writeRegisters values useCache).run d = ⟨.ok (), d, [⟨d.label, .writeLeftOut⟩]⟩ ↔ d.pending values useCache = [] := by
  rw [writeRegisters, Act.run_bind, Act.run_look, Outcome.andThen_ok, Outcome.after_nil, ← pending]
  cases d.pending values useCache with
  | nil => exact ⟨fun _ => rfl, fun _ => rfl⟩
  | cons p rest =>
    -- the first pair is told of before anything else
    refine ⟨fun h => ?_, nofun⟩
    have hfirst := congrArg (fun o => o.log.head?) h
    simp [tellWrites, tell] at hfirst

/-- A writing with nothing to send. -/
theorem ends_writeRegisters_nothing {d : Driver .ready σ} {values : List Setting} {useCache : Bool}
    (hnone : (d.pending values useCache).isEmpty = true) : (writeRegisters values useCache).Ends d (.ok ()) d := by
  refine (ends_pending d values useCache).bind ?_
  rw [if_pos hnone]
  exact Act.Ends.tell _ _ d

/-- A writing whose command is answered enters every pair. -/
theorem ends_writeRegisters {d d' : Driver .ready σ} {values : List Setting} {useCache : Bool} {payload : Bytes}
    (hne : ¬ (d.pending values useCache).isEmpty = true)
    (hends : (execute .writeRegister ((d.pending values useCache).flatMap settingBytes) d.settings.commandTimeout).Ends d
      (.ok payload) d') :
    (writeRegisters values useCache).Ends d (.ok ()) (d'.noting values) := by
  refine (ends_pending d values useCache).bind ?_
  rw [if_neg hne]
  exact (ends_tellWrites _ d).bind ((Act.Ends.look _ d).bind (hends.bind (Act.Ends.change _ _)))

/-- A writing whose command ends in a fault. -/
theorem ends_writeRegisters_error {d d' : Driver .ready σ} {values : List Setting} {useCache : Bool} {fault : Fault}
    (hne : ¬ (d.pending values useCache).isEmpty = true)
    (hends : (execute .writeRegister ((d.pending values useCache).flatMap settingBytes) d.settings.commandTimeout).Ends d
      (.error fault) d') :
    (writeRegisters values useCache).Ends d (.error fault) d' := by
  refine (ends_pending d values useCache).bind ?_
  rw [if_neg hne]
  exact (ends_tellWrites _ d).bind ((Act.Ends.look _ d).bind hends.bind_error)

/-! ## Items -/

section Items

variable {phase : Phase} {d d' : Driver phase σ} {item : RfItem} {value : Bytes} {useCache : Bool}

/-- An item that may be left out is. -/
theorem ends_applyItem_known (timeout : Duration) (h : useCache = true ∧ d.rfItems.get? item = some value) :
    (applyItem item value useCache timeout).Ends d (.ok ()) d := by
  refine (Act.Ends.look _ d).bind ?_
  rw [if_pos h]
  exact Act.Ends.tell _ _ d

/-- An item that may not be left out is sent and entered. -/
theorem run_applyItem_sent (timeout : Duration) (h : ¬(useCache = true ∧ d.rfItems.get? item = some value)) :
    (applyItem item value useCache timeout).run d =
      (execute .rfConfiguration (item.code :: value) timeout >>= fun _ =>
        Act.change fun d => { d with rfItems := d.rfItems.insert item value }).run d := by
  rw [applyItem, Act.run_bind, Act.run_look, Outcome.andThen_ok, Outcome.after_nil, if_neg h]

/-- An item whose command is answered is entered. -/
theorem ends_applyItem {payload : Bytes} {timeout : Duration}
    (h : ¬(useCache = true ∧ d.rfItems.get? item = some value))
    (hends : (execute .rfConfiguration (item.code :: value) timeout).Ends d (.ok payload) d') :
    (applyItem item value useCache timeout).Ends d (.ok ()) (d'.notingItem item value) := by
  unfold Act.Ends
  rw [run_applyItem_sent timeout h]
  exact hends.bind (Act.Ends.change _ _)

/-- An item whose command ends in a fault. -/
theorem ends_applyItem_error {fault : Fault} {timeout : Duration}
    (h : ¬(useCache = true ∧ d.rfItems.get? item = some value))
    (hends : (execute .rfConfiguration (item.code :: value) timeout).Ends d (.error fault) d') :
    (applyItem item value useCache timeout).Ends d (.error fault) d' := by
  unfold Act.Ends
  rw [run_applyItem_sent timeout h]
  exact hends.bind_error

end Items

/-! ## Raw exchanges -/

/-- A raw exchange ends where the radio cannot be set up. -/
theorem ends_exchangeRaw_error {d d' : Driver .ready σ} (data : Bytes) {settings : RawSettings} {fault : Fault}
    (hsetup : (setUpRadio settings (settings.timeout.getD d.settings.rawTimeout)).Ends d (.error fault) d') :
    (exchangeRaw data settings).Ends d (.error fault) d' :=
  (Act.Ends.look _ d).bind hsetup.bind_error

/-- When the radio is set up and the data cannot be exchanged, that is how a raw exchange ends. -/
theorem ends_exchangeRaw_fault {d d' d'' : Driver .ready σ} {data : Bytes} {settings : RawSettings} {fault : Fault}
    (hsetup : (setUpRadio settings (settings.timeout.getD d.settings.rawTimeout)).Ends d (.ok ()) d')
    (hexec : (execute .inCommunicateThru (rawPayload settings.modulation data)
      (Duration.max d'.settings.commandTimeout (settings.timeout.getD d.settings.rawTimeout))).Ends d' (.error fault) d'') :
    (exchangeRaw data settings).Ends d (.error fault) d'' := by
  have hlook : (setting Settings.rawTimeout).Ends d (.ok d.settings.rawTimeout) d := Act.Ends.look _ d
  have hlook' : (setting Settings.commandTimeout).Ends d' (.ok d'.settings.commandTimeout) d' := Act.Ends.look _ d'
  exact hlook.bind (hsetup.bind (hlook'.bind hexec.bind_error))

/-- When the radio is set up the data goes out, and that is all: what follows reads the reply. -/
theorem ends_exchangeRaw_execute {d d' d'' : Driver .ready σ} {data : Bytes} {settings : RawSettings}
    {r : Except Fault Bytes}
    (hsetup : (setUpRadio settings (settings.timeout.getD d.settings.rawTimeout)).Ends d (.ok ()) d')
    (hexec : (execute .inCommunicateThru (rawPayload settings.modulation data)
      (Duration.max d'.settings.commandTimeout (settings.timeout.getD d.settings.rawTimeout))).Ends d' r d'') :
    ∃ r', (exchangeRaw data settings).Ends d r' d'' := by
  have hlook : (setting Settings.rawTimeout).Ends d (.ok d.settings.rawTimeout) d := Act.Ends.look _ d
  have hlook' : (setting Settings.commandTimeout).Ends d' (.ok d'.settings.commandTimeout) d' := Act.Ends.look _ d'
  cases r with
  | error fault => exact ⟨_, ends_exchangeRaw_fault hsetup hexec⟩
  | ok reply =>
    refine ⟨_, hlook.bind (hsetup.bind (hlook'.bind (hexec.bind ⟨rfl, ?_⟩)))⟩
    refine (show Act.Keeps (fun e => e = d'') _ from (Act.Keeps.lift _).bind fun parts => ?_) _ rfl
    dsimp only
    split
    · exact (Act.Keeps.tell _ _).bind fun _ => Act.Keeps.done _
    · exact (Act.Keeps.tell _ _).bind fun _ => Act.Keeps.done _

end NfcHost.Driver
