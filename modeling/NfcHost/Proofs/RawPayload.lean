import NfcHost.Proofs.Capacity

/-!
# What a raw exchange hands to a card

The data of a raw exchange goes out as it stands, for Type F behind a byte that says how long it is and counts itself. That
byte is a length cut to eight bits, so it would be wrong from 255 bytes of data on; but data of that length is too long for a
frame, and no frame is written. Nor does setting up the radio send anything to a card. So what is sent is intact, whatever the
driver knows, whatever comes in and whichever calls fail (`raw_payload_intact`).
-/

namespace NfcHost

/-! ## The arguments of a command among calls -/

/-- The arguments in a frame that carries the command. -/
def Command.argsIn (command : Command) (frame : Frame) : Option Bytes :=
  match frame.body with
  | code :: args => if code = command.code then some args else none
  | [] => none

/-- The arguments that calls send with a command, oldest first. -/
def argsSent (command : Command) (made : List (Call × Bool)) : List Bytes := (framesSent made).filterMap command.argsIn

theorem argsSent_append (command : Command) (first second : List (Call × Bool)) :
    argsSent command (first ++ second) = argsSent command first ++ argsSent command second := by
  rw [argsSent, framesSent_append, List.filterMap_append]
  rfl

/-- The frame of a command holds its arguments. -/
theorem Command.argsIn_self (command : Command) (args : Bytes) :
    command.argsIn (Frame.command command.code args) = some args := if_pos rfl

/-- The frame of another command holds nothing for a card. -/
theorem Command.argsIn_thru {command : Command} (h : command ≠ .inCommunicateThru) (args : Bytes) :
    Command.inCommunicateThru.argsIn (Frame.command command.code args) = none := by
  cases command <;> first | rfl | exact absurd rfl h

/-! ## Intact data -/

/-- The data as it stands, for Type F behind the number of its bytes and one. -/
def Modulation.Intact (modulation : Modulation) (data args : Bytes) : Prop :=
  match modulation with
  | .typeA | .typeB => args = data
  | .typeF => ∃ len : UInt8, args = len :: data ∧ len.toNat = data.length + 1

/-- How many bytes of data a raw exchange has room for. -/
def Modulation.rawRoom : Modulation → Nat
  | .typeA | .typeB => 253
  | .typeF => 252

namespace Driver

open Act

/-- There is room for data exactly if what goes out fits in a frame. -/
theorem length_rawPayload_le (modulation : Modulation) (data : Bytes) :
    (rawPayload modulation data).length ≤ 253 ↔ data.length ≤ modulation.rawRoom := by
  cases modulation with
  | typeA => exact Iff.rfl
  | typeB => exact Iff.rfl
  | typeF => exact Nat.succ_le_succ_iff

/-- Where there is room the length is not cut. -/
theorem intact_rawPayload {modulation : Modulation} {data : Bytes} (h : data.length ≤ modulation.rawRoom) :
    modulation.Intact data (rawPayload modulation data) := by
  cases modulation with
  | typeA => rfl
  | typeB => rfl
  | typeF =>
    have hlt : data.length + 1 < 256 := Nat.lt_of_le_of_lt (Nat.succ_le_succ h) (by decide)
    exact ⟨UInt8.ofNat (data.length + 1), rfl, UInt8.toNat_ofNat_of_lt' hlt⟩

/-! ## Setting up the radio -/

variable {phase : Phase} {σ : Type} [Channel σ]

/-- Behind some calls nothing was sent to a card. -/
def Unsent (before : List (Call × Bool)) (d : Driver phase (Tapped σ)) : Prop :=
  ∃ made, d.link.channel.calls = before ++ made ∧ argsSent .inCommunicateThru made = []

/-- Another command sends nothing to a card. -/
theorem keeps_sendCommand_unsent {before : List (Call × Bool)} {command : Command} (hne : command ≠ .inCommunicateThru)
    (args : Bytes) (timeout : Duration) :
    (sendCommand command args timeout : Act (Driver phase (Tapped σ)) _).Keeps (Unsent before) := by
  rintro d ⟨made, hcalls, hnone⟩
  have hcarries := carries_sendCommand d command args timeout
  by_cases hfits : args.length ≤ 253
  · obtain ⟨more, hmore, hframes⟩ := (hcarries.written hfits).framesSent
    have hother : argsSent .inCommunicateThru more = [] := by
      rw [argsSent, hframes, List.filterMap_cons_none (Command.argsIn_thru hne args), List.filterMap_nil]
    refine ⟨made ++ more, ?_, ?_⟩
    · rw [hmore, hcalls, List.append_assoc]
    · rw [argsSent_append, hnone, hother, List.append_nil]
  · rw [(hcarries.refused (Nat.not_le.1 hfits)).2]
    exact ⟨made, hcalls, hnone⟩

/-- Setting up the radio sends nothing to a card. -/
theorem unsent_setUpRadio (d : Driver .ready (Tapped σ)) (settings : RawSettings) (timeout : Duration) :
    Unsent d.link.channel.calls ((setUpRadio settings timeout).run d).state := by
  have huncached : Uncached fun e : Driver .ready (Tapped σ) => Unsent d.link.channel.calls e :=
    ⟨fun _ _ h => h, fun _ _ h => h⟩
  exact huncached.setUpRadio (fun _ args timeout hne => keeps_sendCommand_unsent hne args timeout) settings timeout d
    ⟨[], (List.append_nil _).symm, rfl⟩

/-! ## Raw exchanges -/

section Sent

variable (d : Driver .ready (Tapped σ)) (data : Bytes) (settings : RawSettings)

/-- A raw exchange whose radio could not be set up sends nothing to a card. -/
theorem unsent_exchangeRaw_error {fault : Fault}
    (h : ((setUpRadio settings (settings.timeout.getD d.settings.rawTimeout)).run d).result = .error fault) :
    ((exchangeRaw data settings).run d).result = .error fault ∧
      Unsent d.link.channel.calls ((exchangeRaw data settings).run d).state := by
  obtain ⟨hresult, hstate⟩ := ends_exchangeRaw_error data ⟨h, rfl⟩
  rw [hstate]
  exact ⟨hresult, unsent_setUpRadio d _ _⟩

/-- So does one whose data does not fit. -/
theorem unsent_exchangeRaw_long {d' : Driver .ready (Tapped σ)}
    (hsetup : (setUpRadio settings (settings.timeout.getD d.settings.rawTimeout)).Ends d (.ok ()) d')
    (hlong : settings.modulation.rawRoom < data.length) :
    (∃ fault, ((exchangeRaw data settings).run d).result = .error fault) ∧
      Unsent d.link.channel.calls ((exchangeRaw data settings).run d).state := by
  have hpayload : 253 < (rawPayload settings.modulation data).length :=
    Nat.not_le.1 fun hle => Nat.not_le.2 hlong ((length_rawPayload_le _ _).1 hle)
  obtain ⟨hresult, hstate⟩ := ends_exchangeRaw_fault hsetup ((carries_execute d' _ _ _).refused hpayload)
  rw [hstate, ← hsetup.2]
  exact ⟨⟨_, hresult⟩, unsent_setUpRadio d _ _⟩

/-- When the radio is set up, data that fits is sent once, and nothing else is. -/
theorem argsSent_exchangeRaw {d' : Driver .ready (Tapped σ)}
    (hsetup : (setUpRadio settings (settings.timeout.getD d.settings.rawTimeout)).Ends d (.ok ()) d')
    (hfits : data.length ≤ settings.modulation.rawRoom) :
    ∃ made, ((exchangeRaw data settings).run d).state.link.channel.calls = d.link.channel.calls ++ made ∧
      argsSent .inCommunicateThru made = [rawPayload settings.modulation data] := by
  have hpayload := (length_rawPayload_le settings.modulation data).2 hfits
  obtain ⟨setUp, hcalls, hnone⟩ := unsent_setUpRadio d settings (settings.timeout.getD d.settings.rawTimeout)
  obtain ⟨made, hmade, hframes⟩ := ((carries_execute d' .inCommunicateThru (rawPayload settings.modulation data)
    (Duration.max d'.settings.commandTimeout (settings.timeout.getD d.settings.rawTimeout))).written hpayload).framesSent
  obtain ⟨r, -, hstate⟩ := ends_exchangeRaw_execute hsetup (Ends.of_run _ d')
  rw [hsetup.2] at hcalls
  refine ⟨setUp ++ made, ?_, ?_⟩
  · rw [hstate, hmade, hcalls, List.append_assoc]
  · rw [argsSent_append, hnone, List.nil_append, argsSent, hframes,
      List.filterMap_cons_some (Command.argsIn_self _ _), List.filterMap_nil]

end Sent

/-- What a raw exchange sends to a card, over any channel and from any driver. The data is sent as it stands, for Type F
behind the exact number of its bytes and one, or not at all. Data of more than 253 bytes, of more than 252 for Type F, is not
sent, and the exchange ends in a fault; other data is sent once if the radio could be set up. -/
theorem raw_payload_intact (d : Driver .ready (Tapped σ)) (data : Bytes) (settings : RawSettings) :
    ∃ made, ((exchangeRaw data settings).run d).state.link.channel.calls = d.link.channel.calls ++ made ∧
      (∀ args ∈ argsSent .inCommunicateThru made, settings.modulation.Intact data args) ∧
      (settings.modulation.rawRoom < data.length →
        argsSent .inCommunicateThru made = [] ∧ ∃ fault, ((exchangeRaw data settings).run d).result = .error fault) ∧
      (((setUpRadio settings (settings.timeout.getD d.settings.rawTimeout)).run d).result = .ok () →
        data.length ≤ settings.modulation.rawRoom → ∃ args, argsSent .inCommunicateThru made = [args]) := by
  rcases hsetup : ((setUpRadio settings (settings.timeout.getD d.settings.rawTimeout)).run d).result with fault | ⟨⟩
  · obtain ⟨hresult, made, hcalls, hnone⟩ := unsent_exchangeRaw_error d data settings hsetup
    refine ⟨made, hcalls, ?_, fun _ => ⟨hnone, fault, hresult⟩, nofun⟩
    rw [hnone]
    exact nofun
  · by_cases hfits : data.length ≤ settings.modulation.rawRoom
    · obtain ⟨made, hcalls, hargs⟩ := argsSent_exchangeRaw d data settings ⟨hsetup, rfl⟩ hfits
      refine ⟨made, hcalls, fun args hmem => ?_, fun hlong => absurd hfits (Nat.not_le.2 hlong), fun _ _ => ⟨_, hargs⟩⟩
      rw [hargs] at hmem
      rw [List.mem_singleton.1 hmem]
      exact intact_rawPayload hfits
    · obtain ⟨hfault, made, hcalls, hnone⟩ :=
        unsent_exchangeRaw_long d data settings ⟨hsetup, rfl⟩ (Nat.not_le.1 hfits)
      refine ⟨made, hcalls, ?_, fun _ => ⟨hnone, hfault⟩, fun _ h => absurd h hfits⟩
      rw [hnone]
      exact nofun

end Driver

end NfcHost
