import NfcHost.Proofs.Access
import NfcHost.Proofs.Bounds
import NfcHost.Proofs.Session

/-!
# No operation of a driver reads outside the data

Every operation checks the length of a reply before it takes it apart, some of them in another function than the one that
takes it apart. With the statements about the readers and the link, none of them ends in an access outside the data, nor
does any in a run of them, whatever the chip or anything else on the line sends.
-/

namespace NfcHost

open Bytes Act

variable {σ α : Type}

/-! ## The driver -/

namespace Driver

/-- The response code is checked before it is taken off, so a reply without one is refused. -/
theorem inBounds_stripCode (command : Command) (reply : Bytes) : InBounds (fun _ => True) (stripCode command reply) :=
  (inBounds_expectCode reply _).bind fun _ hlen => inBounds_suffix hlen

/-- Silence is a fault of its own. -/
theorem inBounds_answered (command : Command) (reply : Option Bytes) : InBounds (fun _ => True) (answered command reply) := by
  cases reply with
  | none => exact nofun
  | some reply => trivial

variable {phase : Phase}

/-- What stays in bounds on the link does so as part of the driver. -/
theorem stays_onLink {P : α → Prop} {a : Act (Link σ) α} (h : a.Stays P) : (onLink a : Act (Driver phase σ) α).Stays P :=
  h.onPart

/-- Telling of an event reads no data. -/
theorem stays_tell (event : Event) : (tell event : Act (Driver phase σ) Unit).Stays fun _ => True := Stays.tell _ _

/-- Nor does telling of it where there is a cause. -/
theorem stays_tellIf (cause : Bool) (event : Event) : (tellIf cause event : Act (Driver phase σ) Unit).Stays fun _ => True :=
  Stays.tellIf _ _ _

/-- Nor does a look at the settings. -/
theorem stays_setting (f : Settings → α) : (setting f : Act (Driver phase σ) α).Stays fun _ => True := Stays.look _

/-- Forgetting the caches reads no data. -/
theorem stays_forget : (forget : Act (Driver phase σ) Unit).Stays fun _ => True := Stays.change _

/-- Entering what was read goes through the pairs and reads no reply. -/
theorem stays_noteReadings (pairs : List Setting) : (noteReadings pairs : Act (Driver .ready σ) Unit).Stays fun _ => True := by
  induction pairs with
  | nil => exact Stays.done trivial
  | cons p rest ih => exact (stays_tell _).bind fun _ _ => (Stays.change _).bind fun _ _ => ih

/-- Telling of the writes goes through the pairs as well. -/
theorem stays_tellWrites (pairs : List Setting) : (tellWrites pairs : Act (Driver .ready σ) Unit).Stays fun _ => True := by
  induction pairs with
  | nil => exact Stays.done trivial
  | cons p rest ih => exact (stays_tell _).bind fun _ _ => ih

/-- The first byte is taken off only where there is one. -/
theorem stays_dropCode (command : Command) (reply : Bytes) :
    (dropCode command reply : Act (Driver .ready σ) Bytes).Stays fun _ => True := by
  refine (stays_tellIf _ _).bind fun _ _ => ?_
  split
  · exact Stays.done trivial
  · rename_i hne
    exact Stays.lift (inBounds_suffix (List.length_pos_iff.2 (by simpa using hne)))

variable [Channel σ] [GuardedChannel σ]

/-- Resetting the buffers is left to the channel. -/
theorem stays_resetBuffers : (resetBuffers : Act (Driver phase σ) Unit).Stays fun _ => True :=
  stays_onLink Link.stays_resetBuffers

/-- A command is encoded, or refused for its size, and exchanged. -/
theorem stays_sendCommand (command : Command) (args : Bytes) (timeout : Duration) :
    (sendCommand command args timeout : Act (Driver phase σ) (Option Bytes)).Stays fun _ => True :=
  (stays_tell _).bind fun _ _ => (Stays.lift (Frame.inBounds_encode _)).bind fun _ _ =>
    stays_onLink (Link.stays_exchange _ _)

/-- So is a waking command. -/
theorem stays_sendWaking (command : Command) (args : Bytes) (timeout : Duration) :
    (sendWaking command args timeout : Act (Driver phase σ) Bytes).Stays fun _ => True :=
  (Stays.lift (Frame.inBounds_encode _)).bind fun _ _ => (stays_onLink (Link.stays_exchange _ _)).bind fun _ _ =>
    Stays.lift (inBounds_answered _ _)

/-- Behind a command the response code is taken off its reply, if it has one. -/
theorem stays_execute (command : Command) (args : Bytes) (timeout : Duration) :
    (execute command args timeout : Act (Driver phase σ) Bytes).Stays fun _ => True :=
  (stays_sendCommand command args timeout).bind fun _ _ => (Stays.lift (inBounds_answered _ _)).bind fun _ _ =>
    Stays.lift (inBounds_stripCode _ _)

/-- Behind a waking command too. -/
theorem stays_executeWaking (command : Command) (args : Bytes) (timeout : Duration) :
    (executeWaking command args timeout : Act (Driver phase σ) Bytes).Stays fun _ => True :=
  (stays_sendWaking command args timeout).bind fun _ _ => Stays.lift (inBounds_stripCode _ _)

/-- The firmware query hands its reply over as it came, whatever its length. -/
theorem stays_queryFirmware : (queryFirmware : Act (Driver phase σ) Bytes).Stays fun _ => True :=
  (stays_tell _).bind fun _ _ => (stays_setting _).bind fun _ _ => (stays_sendWaking _ _ _).bind fun _ _ =>
    (stays_tellIf _ _).bind fun _ _ => Stays.done trivial

/-- A reply of any length can be compared with the firmware expected. -/
theorem stays_verifyFirmware : (verifyFirmware : Act (Driver phase σ) Bool).Stays fun _ => True :=
  stays_queryFirmware.bind fun reply _ => Stays.lift (Firmware.inBounds_replyMatches reply)

/-- The four bytes of a firmware version are read off only where there are four. -/
theorem stays_firmware : (firmware : Act (Driver phase σ) Firmware).Stays fun _ => True :=
  (stays_setting _).bind fun _ _ => (stays_executeWaking _ _ _).bind fun payload _ =>
    Stays.lift (Firmware.inBounds_parse payload)

/-! ### Bring-up -/

/-- An item is sent or left out, and its reply is not looked into. -/
theorem stays_applyItem (item : RfItem) (value : Bytes) (useCache : Bool) (timeout : Duration) :
    (applyItem item value useCache timeout : Act (Driver phase σ) Unit).Stays fun _ => True := by
  refine (Stays.look _).bind fun known _ => ?_
  split
  · exact stays_tell _
  · exact (stays_execute _ _ _).bind fun _ _ => Stays.change _

/-- A bring-up compares the firmware, and takes nothing but the response code off the other replies. -/
theorem stays_bringUpSteps : (bringUpSteps : Act (Driver .asleep σ) Unit).Stays fun _ => True := by
  refine (stays_tell _).bind fun _ _ => (stays_onLink Link.stays_wakeUp).bind fun _ _ => ?_
  refine stays_queryFirmware.bind fun reply _ => (Stays.lift (Firmware.inBounds_replyMatches reply)).bind fun ok _ => ?_
  split
  · refine (stays_setting _).bind fun setup _ => (stays_executeWaking _ _ _).bind fun _ _ => ?_
    refine (stays_setting _).bind fun disable _ => ?_
    split
    · exact (stays_onLink GuardedChannel.resetInput.onPart).bind fun _ _ => stays_applyItem _ _ _ _
    · exact Stays.done trivial
  · exact (stays_tell _).bind fun _ _ => Stays.fail nofun

/-! ### Registers and the RF configuration -/

/-- A reply shorter than the registers asked for is a fault of its length: a list of registers whose length does not fit the
machine's word is refused before anything is sent. -/
theorem stays_fetchRegisters (registers : List Register) :
    (fetchRegisters registers : Act (Driver .ready σ) Bytes).Stays fun _ => True := by
  by_cases hl : (registers.flatMap Register.addressBytes).length < Frame.maxBody
  · have hshort : 0 + registers.length < 0x10000000000000000 := by
      rw [Register.length_addressBytes, Frame.maxBody] at hl
      omega
    refine (stays_setting _).bind fun timeout _ => (stays_execute _ _ _).bind fun reply _ => ?_
    refine (Stays.lift (inBounds_slice reply hshort)).bind fun values _ => ?_
    exact (stays_noteReadings _).bind fun _ _ => Stays.done trivial
  · intro d _
    refine (ends_fetchRegisters_error (ends_execute_long d .readRegister d.settings.commandTimeout hl)).meets_error ?_
    rintro ⟨⟩

/-- Registers that are known are not asked for. -/
theorem stays_readRegisters (registers : List Register) (useCache : Bool) :
    (readRegisters registers useCache : Act (Driver .ready σ) Bytes).Stays fun _ => True := by
  refine (Stays.look _).bind fun known _ => ?_
  cases known with
  | some values => exact (stays_tell _).bind fun _ _ => Stays.done trivial
  | none => exact stays_fetchRegisters registers

/-- A writing takes nothing from the reply. -/
theorem stays_writeRegisters (values : List Setting) (useCache : Bool) :
    (writeRegisters values useCache : Act (Driver .ready σ) Unit).Stays fun _ => True := by
  refine (Stays.look _).bind fun pending _ => ?_
  split
  · exact stays_tell _
  · exact (stays_tellWrites _).bind fun _ _ => (stays_setting _).bind fun _ _ => (stays_execute _ _ _).bind fun _ _ =>
      Stays.change _

/-- The reply to a configuration is not taken apart. -/
theorem stays_configure (item : RfItem) (value : Bytes) (useCache : Bool) :
    (configure item value useCache : Act (Driver .ready σ) Unit).Stays fun _ => True :=
  (stays_setting _).bind fun _ _ => stays_applyItem _ _ _ _

/-- The index of the timeout comes from the table and not from a reply. -/
theorem stays_setRetryTimeout (timeout : Duration) (useCache : Bool) :
    (setRetryTimeout timeout useCache : Act (Driver .ready σ) UInt8).Stays fun _ => True :=
  (stays_configure _ _ _).bind fun _ _ => Stays.done trivial

/-- Switching the field off is a configuration. -/
theorem stays_antennaOff : (antennaOff : Act (Driver .ready σ) Unit).Stays fun _ => True :=
  (stays_tell _).bind fun _ _ => stays_configure _ _ _

/-- So is switching it on. -/
theorem stays_antennaOn : (antennaOn : Act (Driver .ready σ) Unit).Stays fun _ => True :=
  (stays_tell _).bind fun _ _ => stays_configure _ _ _

/-! ### Discovery -/

/-- A listing hands over what follows the response code, if anything came. -/
theorem stays_listOne (modulation : Modulation) (initiatorData : Bytes) :
    (listOne modulation initiatorData : Act (Driver .ready σ) (Option Bytes)).Stays fun _ => True := by
  refine stays_forget.bind fun _ _ => (stays_setting _).bind fun _ _ => (stays_sendCommand _ _ _).bind fun reply _ => ?_
  cases reply with
  | none => exact (stays_tell _).bind fun _ _ => Stays.done trivial
  | some reply => exact (stays_dropCode _ _).bind fun _ _ => Stays.done trivial

/-- The block of a Type A card is read by a parser that stays in bounds. -/
theorem stays_tryPollA : (tryPollA : Act (Driver .ready σ) (Option TypeATarget)).Stays fun _ => True := by
  refine (stays_listOne _ _).bind fun payload _ => ?_
  cases payload with
  | none => exact Stays.done trivial
  | some payload =>
    refine (Stays.lift (TypeATarget.inBounds_ofPoll payload)).bind fun target _ => ?_
    cases target with
    | none => exact Stays.done trivial
    | some target => exact (stays_tell _).bind fun _ _ => Stays.done trivial

/-- Setting whole bytes is a writing. -/
theorem stays_setWholeBytes : (setWholeBytes : Act (Driver .ready σ) Unit).Stays fun _ => True := stays_writeRegisters _ _

/-- A broadcast hands the reply over as it came. -/
theorem stays_broadcast (data : Bytes) : (broadcast data : Act (Driver .ready σ) Bytes).Stays fun _ => True :=
  (stays_tell _).bind fun _ _ => stays_setWholeBytes.bind fun _ _ => (stays_setting _).bind fun _ _ => stays_execute _ _ _

/-- The status is split off the answer to the wake-up only where there is one. -/
theorem stays_refreshB (listed : TypeBTarget) : (refreshB listed : Act (Driver .ready σ) TypeBTarget).Stays fun _ => True := by
  refine (stays_broadcast _).bind fun _ _ => stays_setWholeBytes.bind fun _ _ => (stays_setting _).bind fun _ _ => ?_
  refine (stays_execute _ _ _).bind fun reply _ => (Stays.lift (inBounds_splitStatus reply)).bind fun parts _ => ?_
  obtain ⟨status, sensbRes⟩ := parts
  dsimp only
  split
  · exact (stays_tell _).bind fun _ _ => Stays.fail nofun
  · exact Stays.done trivial

/-- A block for a Type B card is looked for only behind the number of targets. -/
theorem stays_tryPollB : (tryPollB : Act (Driver .ready σ) (Option TypeBTarget)).Stays fun _ => True := by
  refine (stays_listOne _ _).bind fun payload _ => ?_
  cases payload with
  | none => exact Stays.done trivial
  | some payload =>
    refine (Stays.lift (inBounds_byte payload (by decide))).bind fun count hcount => ?_
    split
    · exact Stays.done trivial
    · refine (Stays.lift (inBounds_suffix hcount)).bind fun block _ => ?_
      refine (Stays.lift (TypeBTarget.inBounds_ofBlock block)).bind fun listed _ => ?_
      exact (stays_refreshB listed.1).bind fun _ _ => Stays.done trivial

/-- A listing is parsed behind the response code, which is checked before. -/
theorem stays_requestListing (modulation : Modulation) (maxTargets : UInt8) :
    (requestListing modulation maxTargets : Act (Driver .ready σ) (List Target)).Stays fun _ => True := by
  refine stays_forget.bind fun _ _ => (stays_setting _).bind fun _ _ => (stays_sendCommand _ _ _).bind fun reply _ => ?_
  cases reply with
  | none => exact Stays.done trivial
  | some reply =>
    refine (Stays.lift (inBounds_expectCode reply _)).bind fun _ hlen => (Stays.lift (inBounds_suffix hlen)).bind fun _ _ => ?_
    exact Stays.lift (Target.inBounds_ofListing _ _)

/-- Type F targets are refused before anything is read. -/
theorem stays_listTargets (modulation : Modulation) (maxTargets : UInt8) :
    (listTargets modulation maxTargets : Act (Driver .ready σ) (List Target)).Stays fun _ => True := by
  unfold listTargets
  split
  · exact Stays.fail nofun
  · exact stays_requestListing _ _

/-! ### Exchanges and target mode -/

/-- The status is split off a reply only where there is one. -/
theorem stays_exchangeData (args : Bytes) (timeout : Duration) :
    (exchangeData args timeout : Act (Driver .ready σ) (Option Bytes)).Stays fun _ => True := by
  refine (stays_sendCommand _ _ _).bind fun reply _ => ?_
  cases reply with
  | none => exact Stays.done trivial
  | some reply =>
    refine (stays_dropCode _ _).bind fun payload _ => (Stays.lift (inBounds_splitStatus payload)).bind fun parts _ => ?_
    obtain ⟨status, body⟩ := parts
    dsimp only
    split
    · exact (stays_tell _).bind fun _ _ => Stays.done trivial
    · exact Stays.done trivial

/-- So it is in an exchange with the timeout of the settings. -/
theorem stays_transceive (data : Bytes) : (transceive data : Act (Driver .ready σ) (Option Bytes)).Stays fun _ => True :=
  (stays_tell _).bind fun _ _ => (stays_setting _).bind fun _ _ => stays_exchangeData _ _

/-- What the initiator sent stands behind the response code, which is checked before. -/
theorem stays_becomeTarget : (becomeTarget : Act (Driver .ready σ) (Option Bytes)).Stays fun _ => True := by
  refine (stays_tell _).bind fun _ _ => stays_forget.bind fun _ _ => (stays_setting _).bind fun _ _ => ?_
  refine (stays_sendCommand _ _ _).bind fun reply _ => ?_
  cases reply with
  | none => exact Stays.done trivial
  | some reply =>
    refine (Stays.lift (inBounds_expectCode reply _)).bind fun _ hlen => (Stays.lift (inBounds_suffix hlen)).bind fun _ _ => ?_
    exact Stays.done trivial

/-- Four values are read off for the four registers, or too few are a fault. -/
theorem stays_setUpRadio (settings : RawSettings) (timeout : Duration) :
    (setUpRadio settings timeout : Act (Driver .ready σ) Unit).Stays fun _ => True :=
  (stays_setRetryTimeout _ _).bind fun _ _ => (stays_readRegisters _ _).bind fun values _ =>
    (Stays.lift (RadioRegisters.inBounds_ofValues values)).bind fun _ _ => stays_writeRegisters _ _

/-- The status of a raw exchange is split off only where there is one. -/
theorem stays_exchangeRaw (data : Bytes) (settings : RawSettings) :
    (exchangeRaw data settings : Act (Driver .ready σ) (Option Bytes)).Stays fun _ => True := by
  refine (stays_setting _).bind fun _ _ => (stays_setUpRadio _ _).bind fun _ _ => (stays_setting _).bind fun _ _ => ?_
  refine (stays_execute _ _ _).bind fun reply _ => (Stays.lift (inBounds_splitStatus reply)).bind fun parts _ => ?_
  obtain ⟨status, body⟩ := parts
  dsimp only
  split
  · exact (stays_tell _).bind fun _ _ => Stays.done trivial
  · exact (stays_tell _).bind fun _ _ => Stays.done trivial

end Driver

/-! ## Sessions -/

/-- The poll did not fail on an access outside the data. -/
def Poll.InBounds (poll : Poll α) : Prop := ∀ fault, poll = .failed fault → fault ≠ .outOfRange

/-- What an action handed over makes a poll that did not fail so. -/
theorem Poll.inBounds_ofExcept {P : Option α → Prop} {r : Except Fault (Option α)} (h : NfcHost.InBounds P r) :
    (Poll.ofExcept r).InBounds := by
  rintro fault hfault
  rcases r with fault' | _ | target
  · obtain rfl : fault' = fault := Poll.failed.inj hfault
    exact h
  · nomatch hfault
  · nomatch hfault

/-- A poll keeps its fault in the answer: none of them is an access outside the data. -/
def Answer.InBounds : Answer → Prop
  | .typeA poll => poll.InBounds
  | .typeB poll => poll.InBounds
  | _ => True

section Session

variable [Channel σ] [GuardedChannel σ]

/-- No request ends in an access outside the data. -/
theorem Request.stays (request : Request) : (request.run (σ := σ)).Stays Answer.InBounds := by
  cases request with
  | readRegisters => exact (Driver.stays_readRegisters _ _).bind fun _ _ => Stays.done trivial
  | writeRegisters => exact (Driver.stays_writeRegisters _ _).bind fun _ _ => Stays.done trivial
  | configure => exact (Driver.stays_configure _ _ _).bind fun _ _ => Stays.done trivial
  | setRetryTimeout => exact (Driver.stays_setRetryTimeout _ _).bind fun _ _ => Stays.done trivial
  | setActivationRetries => exact (Driver.stays_configure _ _ _).bind fun _ _ => Stays.done trivial
  | setExchangeRetries => exact (Driver.stays_configure _ _ _).bind fun _ _ => Stays.done trivial
  | setField => exact (Driver.stays_configure _ _ _).bind fun _ _ => Stays.done trivial
  | antennaOff => exact Driver.stays_antennaOff.bind fun _ _ => Stays.done trivial
  | antennaOn => exact Driver.stays_antennaOn.bind fun _ _ => Stays.done trivial
  | exchangeRaw => exact (Driver.stays_exchangeRaw _ _).bind fun _ _ => Stays.done trivial
  | broadcast => exact (Driver.stays_broadcast _).bind fun _ _ => Stays.done trivial
  | pollA =>
    refine Stays.bind (P := Poll.InBounds) ?_ fun _ hpoll => Stays.done hpoll
    exact (Driver.stays_tell _).bind fun _ _ => Driver.stays_tryPollA.attempt.bind fun _ hended =>
      Stays.done (Poll.inBounds_ofExcept hended)
  | pollB =>
    refine Stays.bind (P := Poll.InBounds) ?_ fun _ hpoll => Stays.done hpoll
    exact (Driver.stays_tell _).bind fun _ _ => Driver.stays_tryPollB.attempt.bind fun _ hended =>
      Stays.done (Poll.inBounds_ofExcept hended)
  | listTargets => exact (Driver.stays_listTargets _ _).bind fun _ _ => Stays.done trivial
  | transceive => exact (Driver.stays_transceive _).bind fun _ _ => Stays.done trivial
  | exchangeWith => exact (Driver.stays_exchangeData _ _).bind fun _ _ => Stays.done trivial
  | becomeTarget => exact Driver.stays_becomeTarget.bind fun _ _ => Stays.done trivial
  | verifyFirmware => exact Driver.stays_verifyFirmware.bind fun _ _ => Stays.done trivial
  | firmware => exact Driver.stays_firmware.bind fun _ _ => Stays.done trivial
  | resetBuffers => exact Driver.stays_resetBuffers.bind fun _ _ => Stays.done trivial
  | forget => exact Driver.stays_forget.bind fun _ _ => Stays.done trivial
  | execute => exact (Driver.stays_execute _ _ _).bind fun _ _ => Stays.done trivial

/-- Whatever was asked before, every request of a run ends in bounds. -/
theorem stays_replay (requests : List Request) :
    (replay requests : Act (Driver .ready σ) (List (Except Fault Answer))).Stays fun endings =>
      ∀ ended ∈ endings, InBounds Answer.InBounds ended := by
  induction requests with
  | nil => exact Stays.done nofun
  | cons request rest ih =>
    refine request.stays.attempt.bind fun ended hended => ih.bind fun endings hendings => ?_
    exact Stays.done (List.forall_mem_cons.2 ⟨hended, hendings⟩)

/-- No bring-up ends in an access outside the data. -/
theorem Driver.inBounds_bringUp (d : Driver .asleep σ) : InBounds (fun _ => True) d.bringUp.result := by
  have hsteps := Driver.stays_bringUpSteps.result d
  show InBounds (fun _ => True) ((Driver.bringUpSteps.run d).result.map _)
  rcases hresult : (Driver.bringUpSteps.run d).result with fault | _
  · rw [hresult] at hsteps
    exact hsteps
  · trivial

/-- Neither does a bring-up with any requests behind it. -/
theorem inBounds_session (channel : σ) (settings : Settings) (requests : List Request) :
    InBounds (fun endings => ∀ ended ∈ endings, InBounds Answer.InBounds ended)
      (session channel settings requests).result := by
  have hbringUp := Driver.inBounds_bringUp (Driver.over channel settings)
  unfold session
  revert hbringUp
  rcases (Driver.over channel settings).bringUp with ⟨fault | d, left, log⟩ <;> intro hbringUp
  · exact hbringUp
  · exact (stays_replay requests).result d

end Session

/-- No operation ends in an access outside the data, whatever bytes come in, whichever calls fail and however anomalies are
taken: none of a link in any state, which covers what earlier operations on it left; none of a driver in either phase that
needs no bring-up; not the bring-up; and, in a run of requests of any length from any state, none of the requests. -/
theorem operations_inBounds :
    (∀ (l : Link (Tapped MemoryChannel)) (frame : Bytes) (timeout : Duration),
      InBounds (fun _ => True) ((Link.exchange frame timeout).run l).result ∧
      InBounds (fun _ => True) (Link.wakeUp.run l).result ∧
      InBounds (fun _ => True) (Link.resetBuffers.run l).result) ∧
    (∀ (phase : Phase) (d : Driver phase (Tapped MemoryChannel)) (command : Command) (args : Bytes) (timeout : Duration),
      InBounds (fun _ => True) ((Driver.execute command args timeout).run d).result ∧
      InBounds (fun _ => True) (Driver.verifyFirmware.run d).result ∧
      InBounds (fun _ => True) (Driver.firmware.run d).result ∧
      InBounds (fun _ => True) (Driver.resetBuffers.run d).result) ∧
    (∀ d : Driver .asleep (Tapped MemoryChannel), InBounds (fun _ => True) d.bringUp.result) ∧
    (∀ (d : Driver .ready (Tapped MemoryChannel)) (requests : List Request),
      InBounds (fun endings => ∀ ended ∈ endings, InBounds Answer.InBounds ended) ((replay requests).run d).result) ∧
    ∀ (channel : Tapped MemoryChannel) (settings : Settings) (requests : List Request),
      InBounds (fun endings => ∀ ended ∈ endings, InBounds Answer.InBounds ended)
        (session channel settings requests).result := by
  refine ⟨fun l frame timeout => ⟨?_, ?_, ?_⟩, fun phase d command args timeout => ⟨?_, ?_, ?_, ?_⟩,
    Driver.inBounds_bringUp, fun d requests => (stays_replay requests).result d, inBounds_session⟩
  · exact (Link.stays_exchange frame timeout).result l
  · exact Link.stays_wakeUp.result l
  · exact Link.stays_resetBuffers.result l
  · exact (Driver.stays_execute command args timeout).result d
  · exact Driver.stays_verifyFirmware.result d
  · exact Driver.stays_firmware.result d
  · exact Driver.stays_resetBuffers.result d

end NfcHost
