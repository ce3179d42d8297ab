import NfcHost.Proofs.Calls
import NfcHost.Proofs.Operations

/-!
# What fits into a frame

A request that comes down to one command is carried by one frame, or not at all (`Driver.Carries`): with 253 bytes of
arguments or fewer it makes the calls of one exchange, whose frame holds all of them, and with more it is refused for its
length and leaves the driver and its channel as they were. How many registers, pairs or bytes of data that is depends on how
a request packs them (`too_large_refused`).
-/

namespace NfcHost.Driver

open Act

variable {phase : Phase} {σ α β : Type} [Channel σ]

/-- The action makes the calls of one exchange, and no others; the frame carries the command with all of the arguments. -/
def Writes (a : Act (Driver phase (Tapped σ)) α) (d : Driver phase (Tapped σ)) (command : Command) (args : Bytes)
    (timeout : Duration) : Prop :=
  ∃ frame made, (Frame.command command.code args).encode = .ok frame ∧
    (a.run d).state.link.channel.calls = d.link.channel.calls ++ made ∧ ExchangeCalls frame timeout made

omit [Channel σ] in
/-- So one frame is written, that of the command. -/
theorem Writes.framesSent {a : Act (Driver phase (Tapped σ)) α} {d : Driver phase (Tapped σ)} {command : Command}
    {args : Bytes} {timeout : Duration} (h : Writes a d command args timeout) :
    ∃ made, (a.run d).state.link.channel.calls = d.link.channel.calls ++ made ∧
      framesSent made = [Frame.command command.code args] := by
  obtain ⟨frame, made, hframe, hcalls, hmade⟩ := h
  obtain ⟨hfits, rfl⟩ := Frame.encode_eq_ok_iff.1 hframe
  exact ⟨made, hcalls, hmade.framesSent hfits⟩

/-- The action comes down to one command: the frame that carries it is written, or the arguments are too many, and nothing
happens. -/
structure Carries (a : Act (Driver phase (Tapped σ)) α) (d : Driver phase (Tapped σ)) (command : Command) (args : Bytes)
    (timeout : Duration) : Prop where
  written : args.length ≤ 253 → Writes a d command args timeout
  refused : 253 < args.length → a.Ends d (.error (.invalidLength 254 (args.length + 1))) d

/-- The same by what a request counts: up to a limit one frame carries all of it, and beyond the limit it makes no call, ends
in the fault of a body that is too long, and leaves the driver and its channel as they were. -/
structure Limited (limit count : Nat) (a : Act (Driver phase (Tapped σ)) α) (d : Driver phase (Tapped σ))
    (command : Command) (args : Bytes) (timeout : Duration) : Prop where
  written : count ≤ limit → Writes a d command args timeout
  refused : limit < count → a.Ends d (.error (.invalidLength 254 (args.length + 1))) d
  silent : (a.run d).state.link.channel.calls = d.link.channel.calls ↔ limit < count

section Carries

variable {a : Act (Driver phase (Tapped σ)) α} {f : α → Act (Driver phase (Tapped σ)) β} {d : Driver phase (Tapped σ)}
  {command : Command} {args : Bytes} {timeout : Duration}

omit [Channel σ] in
/-- A request whose size is that of its arguments is limited as they are. -/
theorem Carries.limited {limit count : Nat} (h : Carries a d command args timeout)
    (hcount : args.length ≤ 253 ↔ count ≤ limit) :
    Limited limit count a d command args timeout where
  written hfits := h.written (hcount.2 hfits)
  refused hlong := h.refused (by omega)
  silent := by
    constructor
    · intro hsilent
      refine Nat.lt_of_not_le fun hfits => ?_
      obtain ⟨frame, made, -, hcalls, failed, rest, rfl, -⟩ := h.written (hcount.2 hfits)
      rw [hcalls] at hsilent
      exact List.cons_ne_nil _ _ (List.append_right_eq_self.1 hsilent)
    · intro hlong
      rw [(h.refused (by omega)).2]

omit [Channel σ] in
/-- What follows an action and leaves the link alone leaves the link of the action. -/
theorem link_bind (hf : ∀ v l, (f v).Keeps fun e => e.link = l) : ((a >>= f).run d).state.link = (a.run d).state.link := by
  rcases hresult : (a.run d).result with fault | v
  · rw [state_bind_of_error _ hresult]
  · rw [state_bind_of_ok _ hresult]
    exact hf v _ _ rfl

omit [Channel σ] in
/-- What follows a command may read the reply and enter values, as long as it leaves the link alone. -/
theorem Carries.bind (h : Carries a d command args timeout) (hf : ∀ v l, (f v).Keeps fun e => e.link = l) :
    Carries (a >>= f) d command args timeout where
  written hfits := by
    obtain ⟨frame, made, hframe, hcalls, hmade⟩ := h.written hfits
    refine ⟨frame, made, hframe, ?_, hmade⟩
    rw [link_bind hf]
    exact hcalls
  refused hlong := (h.refused hlong).bind_error

omit [Channel σ] in
/-- What comes before a command may look and tell, as long as it leaves the driver alone. -/
theorem Carries.behind {v : α} (h : a.Ends d (.ok v) d) (hf : Carries (f v) d command args timeout) :
    Carries (a >>= f) d command args timeout where
  written hfits := by
    obtain ⟨frame, made, hframe, hcalls, hmade⟩ := hf.written hfits
    refine ⟨frame, made, hframe, ?_, hmade⟩
    rw [(h.bind (Ends.of_run (f v) d)).2]
    exact hcalls
  refused hlong := h.bind (hf.refused hlong)

/-- A command is carried when it is sent. -/
theorem carries_sendCommand (d : Driver phase (Tapped σ)) (command : Command) (args : Bytes) (timeout : Duration) :
    Carries (sendCommand command args timeout) d command args timeout where
  written hfits := by
    have hl : args.length < Frame.maxBody := Nat.lt_succ_of_le hfits
    obtain ⟨made, hcalls, hmade⟩ := Link.called_exchange (Frame.command command.code args).wire timeout d.link
    refine ⟨_, made, Frame.encode_eq_wire (Nat.succ_le_of_lt hl), ?_, hmade⟩
    rw [(ends_sendCommand_exchange hl (Ends.of_run _ d.link)).2]
    exact hcalls
  refused hlong := ends_sendCommand_long d command timeout (Nat.not_lt.2 hlong)

/-- A command is carried when it is executed. -/
theorem carries_execute (d : Driver phase (Tapped σ)) (command : Command) (args : Bytes) (timeout : Duration) :
    Carries (execute command args timeout) d command args timeout :=
  (carries_sendCommand d command args timeout).bind fun _ _ => (Keeps.lift _).bind fun _ => Keeps.lift _

/-- An item that may not be left out is carried with its value. -/
theorem carries_applyItem {item : RfItem} {value : Bytes} {useCache : Bool}
    (h : ¬(useCache = true ∧ d.rfItems.get? item = some value)) (timeout : Duration) :
    Carries (applyItem item value useCache timeout) d .rfConfiguration (item.code :: value) timeout := by
  refine Carries.behind (Ends.look _ d) ?_
  rw [if_neg h]
  exact (carries_execute d _ _ timeout).bind fun _ _ => fun _ hd => hd

end Carries

section Requests

variable {d : Driver .ready (Tapped σ)}

/-- A reading that is not served from what is known is carried with the address of every register. -/
theorem carries_readRegisters {registers : List Register} {useCache : Bool}
    (h : useCache = true → d.registers.getAll? registers = none) :
    Carries (readRegisters registers useCache) d .readRegister (registers.flatMap Register.addressBytes)
      d.settings.commandTimeout := by
  have hunknown : (if useCache then d.registers.getAll? registers else none) = none := by
    cases useCache
    · rfl
    · exact h rfl
  refine Carries.behind (Ends.look _ d) ?_
  rw [hunknown]
  refine Carries.behind (Ends.look _ d) ((carries_execute d _ _ _).bind fun reply l => (Keeps.lift _).bind fun values => ?_)
  have hnote : (noteReadings (registers.zip values)).Keeps fun e : Driver .ready (Tapped σ) => e.link = l :=
    Keeps.of_ends fun d hd => ⟨_, _, ends_noteReadings _ d, hd⟩
  exact hnote.bind fun _ => Keeps.done _

/-- A writing is carried with every pair that is left to send, if any is. -/
theorem carries_writeRegisters {values : List Setting} {useCache : Bool} (h : d.pending values useCache ≠ []) :
    Carries (writeRegisters values useCache) d .writeRegister ((d.pending values useCache).flatMap settingBytes)
      d.settings.commandTimeout := by
  refine Carries.behind (ends_pending d values useCache) ?_
  rw [if_neg (by rwa [List.isEmpty_iff])]
  refine Carries.behind (ends_tellWrites _ d) (Carries.behind (Ends.look _ d) ?_)
  exact (carries_execute d _ _ _).bind fun _ _ => fun _ hd => hd

/-- An exchange of data is carried with the data. -/
theorem carries_exchangeData (args : Bytes) (timeout : Duration) :
    Carries (exchangeData args timeout) d .inDataExchange args timeout := by
  refine (carries_sendCommand d _ _ _).bind fun reply l => ?_
  cases reply with
  | none => exact Keeps.done _
  | some reply =>
    refine (congr_dropCode (keeps_congruence _) _ _).bind fun payload => (Keeps.lift _).bind fun parts => ?_
    obtain ⟨status, body⟩ := parts
    dsimp only
    split
    · exact (Keeps.tell _ _).bind fun _ => Keeps.done _
    · exact Keeps.done _

end Requests

/-- What is too large for a frame is refused before anything happens, over any channel and whatever the driver knows. A frame
holds 253 bytes of arguments. So it holds the addresses of 126 registers, for a reading that is not served from what is
known; 84 pairs, of those that a writing has left to send; a value of 252 bytes behind the code of an item that is not left
out; 252 bytes of data behind the number of a target; and 253 bytes of data that starts with that number. -/
theorem too_large_refused (d : Driver .ready (Tapped σ)) :
    (∀ (phase : Phase) (e : Driver phase (Tapped σ)) (command : Command) (args : Bytes) (timeout : Duration),
      Limited 253 args.length (execute command args timeout) e command args timeout) ∧
    (∀ (registers : List Register) (useCache : Bool), (useCache = true → d.registers.getAll? registers = none) →
      Limited 126 registers.length (readRegisters registers useCache) d .readRegister
        (registers.flatMap Register.addressBytes) d.settings.commandTimeout) ∧
    (∀ (values : List Setting) (useCache : Bool), d.pending values useCache ≠ [] →
      Limited 84 (d.pending values useCache).length (writeRegisters values useCache) d .writeRegister
        ((d.pending values useCache).flatMap settingBytes) d.settings.commandTimeout) ∧
    (∀ (item : RfItem) (value : Bytes) (useCache : Bool), ¬(useCache = true ∧ d.rfItems.get? item = some value) →
      Limited 252 value.length (configure item value useCache) d .rfConfiguration (item.code :: value)
        d.settings.commandTimeout) ∧
    (∀ (number : UInt8) (data : Bytes) (timeout : Duration),
      Limited 252 data.length (exchangeWith number data timeout) d .inDataExchange (number :: data) timeout) ∧
    (∀ data : Bytes, Limited 253 data.length (transceive data) d .inDataExchange data d.settings.exchangeTimeout) := by
  refine ⟨?execute, ?read, ?write, ?configure, ?exchangeWith, ?transceive⟩
  case execute => exact fun phase e command args timeout => (carries_execute e command args timeout).limited Iff.rfl
  case read =>
    intro registers useCache hunknown
    refine (carries_readRegisters hunknown).limited ?_
    rw [Register.length_addressBytes]
    omega
  case write =>
    intro values useCache hpending
    refine (carries_writeRegisters hpending).limited ?_
    rw [Tables.length_settingBytes]
    omega
  case configure =>
    intro item value useCache hunknown
    refine (Carries.behind (Ends.look _ d) (carries_applyItem hunknown _)).limited ?_
    rw [List.length_cons]
    omega
  case exchangeWith =>
    intro number data timeout
    refine (carries_exchangeData (number :: data) timeout).limited ?_
    rw [List.length_cons]
    omega
  case transceive =>
    intro data
    have hcarries := carries_exchangeData (d := d) data d.settings.exchangeTimeout
    exact (Carries.behind (Ends.tell _ _ d) (Carries.behind (Ends.look _ d) hcarries)).limited Iff.rfl

end NfcHost.Driver
