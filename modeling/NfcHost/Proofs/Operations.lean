import NfcHost.Proofs.Access
import NfcHost.Proofs.Session

/-!
# The operations of a driver, step by step

Every operation is made of a few steps: commands that go out, registers and items that are read and written, and the
forgetting of the caches. The statements take a relation between actions that every way to build an action respects, and say
which steps it has to relate so that it relates an operation with itself, or with the same operation that relies on no cache.
An invariant and a comparison of two runs are both such relations, so neither has to walk through the operations again.
-/

namespace NfcHost

/-- The same settings, relying on no cache. -/
def RawSettings.plain (settings : RawSettings) : RawSettings := { settings with useCache := false }

namespace Driver

variable {phase : Phase} {σ : Type}

/-- A relation between actions of a driver that every way to build an action respects. -/
structure Congruence (P : ∀ {α : Type}, Act (Driver phase σ) α → Act (Driver phase σ) α → Prop) : Prop
    extends ofActions : Act.Congruence P where
  setting : ∀ {α : Type} (f : Settings → α), P (setting f) (setting f)

/-- Keeping an invariant is respected by every way to build an action of a driver. -/
theorem keeps_congruence (inv : Driver phase σ → Prop) : Congruence fun a _ => a.Keeps inv where
  ofActions := Act.Keeps.congruence inv
  setting f := Act.Keeps.look fun d => f d.settings

/-- Taking off the response code. -/
theorem congr_dropCode {P : ∀ {α : Type}, Act (Driver .ready σ) α → Act (Driver .ready σ) α → Prop} (hP : Congruence P)
    (command : Command) (reply : Bytes) : P (dropCode command reply) (dropCode command reply) := by
  refine hP.bind (hP.tellIf _ _ _) fun _ => ?_
  split
  · exact hP.done _
  · exact hP.lift _

variable [Channel σ]

section Commands

variable {P : ∀ {α : Type}, Act (Driver phase σ) α → Act (Driver phase σ) α → Prop} (hP : Congruence P)
include hP

/-- The relation passes from a command that is sent to its execution. -/
theorem congr_execute {command : Command} {args : Bytes} {timeout : Duration}
    (h : P (sendCommand command args timeout) (sendCommand command args timeout)) :
    P (execute command args timeout) (execute command args timeout) :=
  hP.bind h fun _ => hP.bind (hP.lift _) fun _ => hP.lift _

/-- And from a waking command. -/
theorem congr_executeWaking {command : Command} {args : Bytes} {timeout : Duration}
    (h : P (sendWaking command args timeout) (sendWaking command args timeout)) :
    P (executeWaking command args timeout) (executeWaking command args timeout) :=
  hP.bind h fun _ => hP.lift _

variable (hwaking : ∀ timeout, P (sendWaking .getFirmwareVersion [] timeout) (sendWaking .getFirmwareVersion [] timeout))
include hwaking

/-- The firmware query is a waking command. -/
theorem congr_queryFirmware : P queryFirmware queryFirmware :=
  hP.bind (hP.tell _ _) fun _ => hP.bind (hP.setting _) fun timeout => hP.bind (hwaking timeout) fun _ =>
    hP.bind (hP.tellIf _ _ _) fun _ => hP.done _

/-- To verify the firmware is to query it. -/
theorem congr_verifyFirmware : P verifyFirmware verifyFirmware :=
  hP.bind (congr_queryFirmware hP hwaking) fun _ => hP.lift _

/-- The firmware version is what a waking command answers. -/
theorem congr_firmware : P firmware firmware :=
  hP.bind (hP.setting _) fun timeout => hP.bind (congr_executeWaking hP (hwaking timeout)) fun _ => hP.lift _

end Commands

/-! ## Bring-up -/

/-- The steps of the bring-up. -/
theorem congr_bringUpSteps {P : ∀ {α : Type}, Act (Driver .asleep σ) α → Act (Driver .asleep σ) α → Prop}
    (hP : Congruence P) (hwake : P (onLink Link.wakeUp) (onLink Link.wakeUp))
    (hreset : P (onLink (Link.onChannel Channel.resetInput)) (onLink (Link.onChannel Channel.resetInput)))
    (hwaking : ∀ (command : Command) (args : Bytes) (timeout : Duration), command.Harmless → args.length < Frame.maxBody →
      P (sendWaking command args timeout) (sendWaking command args timeout))
    (hitem : ∀ (item : RfItem) (value : Bytes) (timeout : Duration),
      P (applyItem item value false timeout) (applyItem item value false timeout)) :
    P bringUpSteps bringUpSteps := by
  have hquery := congr_queryFirmware hP fun timeout => hwaking _ _ timeout (by decide) (by decide)
  refine hP.bind (hP.tell _ _) fun _ => hP.bind hwake fun _ => hP.bind hquery fun reply => hP.bind (hP.lift _) fun ok => ?_
  split
  · refine hP.bind (hP.setting _) fun setup => ?_
    have hnormal := congr_executeWaking hP (hwaking .samConfiguration normalMode setup (by decide) (by decide))
    refine hP.bind hnormal fun _ => hP.bind (hP.setting _) fun disable => ?_
    split
    · exact hP.bind hreset fun _ => hitem _ _ _
    · exact hP.done _
  · exact hP.bind (hP.tell _ _) fun _ => hP.fail _

section Operations

variable {P : ∀ {α : Type}, Act (Driver .ready σ) α → Act (Driver .ready σ) α → Prop} (hP : Congruence P)
include hP

/-! ## Listings and target mode -/

/-- Listing one target is forgetting and a command. -/
theorem congr_listOne (hforget : P forget forget)
    (hsend : ∀ args timeout,
      P (sendCommand .inListPassiveTarget args timeout) (sendCommand .inListPassiveTarget args timeout))
    (modulation : Modulation) (initiatorData : Bytes) :
    P (listOne modulation initiatorData) (listOne modulation initiatorData) := by
  refine hP.bind hforget fun _ => hP.bind (hP.setting _) fun timeout => hP.bind (hsend _ timeout) fun reply => ?_
  cases reply with
  | none => exact hP.bind (hP.tell _ _) fun _ => hP.done _
  | some reply => exact hP.bind (congr_dropCode hP _ _) fun _ => hP.done _

/-- So is requesting a listing. -/
theorem congr_requestListing (hforget : P forget forget)
    (hsend : ∀ args timeout,
      P (sendCommand .inListPassiveTarget args timeout) (sendCommand .inListPassiveTarget args timeout))
    (modulation : Modulation) (maxTargets : UInt8) :
    P (requestListing modulation maxTargets) (requestListing modulation maxTargets) := by
  refine hP.bind hforget fun _ => hP.bind (hP.setting _) fun timeout => hP.bind (hsend _ timeout) fun reply => ?_
  cases reply with
  | none => exact hP.done _
  | some reply => exact hP.bind (hP.lift _) fun _ => hP.bind (hP.lift _) fun _ => hP.lift _

/-- So is becoming a target. -/
theorem congr_becomeTarget (hforget : P forget forget)
    (hsend : ∀ args timeout, P (sendCommand .tgInitAsTarget args timeout) (sendCommand .tgInitAsTarget args timeout)) :
    P becomeTarget becomeTarget := by
  refine hP.bind (hP.tell _ _) fun _ => hP.bind hforget fun _ => hP.bind (hP.setting _) fun timeout =>
    hP.bind (hsend _ timeout) fun reply => ?_
  cases reply with
  | none => exact hP.done _
  | some reply => exact hP.bind (hP.lift _) fun _ => hP.bind (hP.lift _) fun _ => hP.done _

/-! ## Polls and exchanges -/

/-- A poll for Type A cards lists one target. -/
theorem congr_pollA (hlist : ∀ modulation data, P (listOne modulation data) (listOne modulation data)) : P pollA pollA := by
  have htry : P tryPollA tryPollA := by
    refine hP.bind (hlist _ _) fun payload => ?_
    cases payload with
    | none => exact hP.done _
    | some payload =>
      refine hP.bind (hP.lift _) fun target => ?_
      cases target with
      | none => exact hP.done _
      | some target => exact hP.bind (hP.tell _ _) fun _ => hP.done _
  exact hP.bind (hP.tell _ _) fun _ => hP.bind (hP.attempt htry) fun _ => hP.done _

/-- A data exchange is one command. -/
theorem congr_exchangeData
    (hsend : ∀ args timeout, P (sendCommand .inDataExchange args timeout) (sendCommand .inDataExchange args timeout))
    (args : Bytes) (timeout : Duration) : P (exchangeData args timeout) (exchangeData args timeout) := by
  refine hP.bind (hsend args timeout) fun reply => ?_
  cases reply with
  | none => exact hP.done _
  | some reply =>
    refine hP.bind (congr_dropCode hP _ _) fun payload => hP.bind (hP.lift _) fun parts => ?_
    obtain ⟨status, body⟩ := parts
    dsimp only
    split
    · exact hP.bind (hP.tell _ _) fun _ => hP.done _
    · exact hP.done _

section Thru

variable
  (hthru : ∀ args timeout, P (sendCommand .inCommunicateThru args timeout) (sendCommand .inCommunicateThru args timeout))
include hthru

/-- A broadcast sets whole bytes and sends a command through. -/
theorem congr_broadcast (hwhole : P setWholeBytes setWholeBytes) (data : Bytes) : P (broadcast data) (broadcast data) :=
  hP.bind (hP.tell _ _) fun _ => hP.bind hwhole fun _ => hP.bind (hP.setting _) fun timeout =>
    congr_execute hP (hthru _ timeout)

/-- The answer of a Type B card is refreshed by a broadcast and a second command behind whole bytes. -/
theorem congr_refreshB (hwhole : P setWholeBytes setWholeBytes) (listed : TypeBTarget) :
    P (refreshB listed) (refreshB listed) := by
  refine hP.bind (congr_broadcast hP hthru hwhole _) fun _ => hP.bind hwhole fun _ => ?_
  refine hP.bind (hP.setting _) fun timeout => ?_
  refine hP.bind (congr_execute hP (hthru _ timeout)) fun reply => hP.bind (hP.lift _) fun parts => ?_
  obtain ⟨status, sensbRes⟩ := parts
  dsimp only
  split
  · exact hP.bind (hP.tell _ _) fun _ => hP.fail _
  · exact hP.done _

/-- A poll for Type B cards lists one target and refreshes its answer. -/
theorem congr_pollB (hwhole : P setWholeBytes setWholeBytes)
    (hlist : ∀ modulation data, P (listOne modulation data) (listOne modulation data)) : P pollB pollB := by
  have htry : P tryPollB tryPollB := by
    refine hP.bind (hlist _ _) fun payload => ?_
    cases payload with
    | none => exact hP.done _
    | some payload =>
      refine hP.bind (hP.lift _) fun count => ?_
      split
      · exact hP.done _
      · refine hP.bind (hP.lift _) fun block => hP.bind (hP.lift _) fun listed => ?_
        exact hP.bind (congr_refreshB hP hthru hwhole listed.1) fun _ => hP.done _
  exact hP.bind (hP.tell _ _) fun _ => hP.bind (hP.attempt htry) fun _ => hP.done _

/-- A raw exchange with one that relies on no cache. -/
theorem congr_exchangeRaw (data : Bytes) (settings : RawSettings)
    (hsetup : ∀ timeout, P (setUpRadio settings timeout) (setUpRadio settings.plain timeout)) :
    P (exchangeRaw data settings) (exchangeRaw data settings.plain) := by
  refine hP.bind (hP.setting _) fun usual => hP.bind (hsetup _) fun _ => hP.bind (hP.setting _) fun least => ?_
  refine hP.bind (congr_execute hP (hthru _ _)) fun reply => hP.bind (hP.lift _) fun parts => ?_
  obtain ⟨status, body⟩ := parts
  dsimp only
  split
  · exact hP.bind (hP.tell _ _) fun _ => hP.done _
  · exact hP.bind (hP.tell _ _) fun _ => hP.done _

end Thru

end Operations

end Driver

/-! ## Requests -/

namespace Request

/-- What a host must not do if it wants to rely on a cache: name a register twice in one writing, or change the tables of the
chip by a command of its own. -/
def Careful : Request → Prop
  | writeRegisters values _ => (values.map Prod.fst).Nodup
  | execute command _ _ => command.Harmless
  | _ => True

/-- A request to read registers asks for what can be read. -/
def Reads (readable : List Register → Prop) : Request → Prop
  | readRegisters registers _ => readable registers
  | _ => True

/-- Where everything can be read, every request may ask for what it does. -/
theorem reads_any (request : Request) : request.Reads fun _ => True := by cases request <;> trivial

end Request

namespace Driver

variable {σ : Type} [Channel σ]

/-- The steps that the requests of a careful host are made of, related each with itself or with the step that relies on no
cache. -/
structure Steps (readable : List Register → Prop)
    (P : ∀ {α : Type}, Act (Driver .ready σ) α → Act (Driver .ready σ) α → Prop) : Prop extends Congruence P where
  send : ∀ {command : Command} (args : Bytes) (timeout : Duration), command.Harmless →
    P (sendCommand command args timeout) (sendCommand command args timeout)
  waking : ∀ timeout, P (sendWaking .getFirmwareVersion [] timeout) (sendWaking .getFirmwareVersion [] timeout)
  reset : P resetBuffers resetBuffers
  forget : P forget forget
  list : ∀ modulation data, P (listOne modulation data) (listOne modulation data)
  listing : ∀ modulation maxTargets, P (requestListing modulation maxTargets) (requestListing modulation maxTargets)
  target : P becomeTarget becomeTarget
  read : ∀ {registers : List Register} (useCache : Bool), readable registers →
    P (readRegisters registers useCache) (readRegisters registers false)
  write : ∀ {values : List Setting} (useCache : Bool), (values.map Prod.fst).Nodup →
    P (writeRegisters values useCache) (writeRegisters values false)
  item : ∀ (item : RfItem) (value : Bytes) (useCache : Bool) (timeout : Duration),
    P (applyItem item value useCache timeout) (applyItem item value false timeout)

/-- No register stands twice in what a raw exchange writes: the four radio registers and the analog part have none in common.
-/
theorem nodup_rawSettings (regs : RadioRegisters) (modulation : Modulation) :
    ((regs.settings ++ modulation.preset).map Prod.fst).Nodup := by
  rw [List.map_append]
  show (RadioRegisters.order ++ modulation.preset.map Prod.fst).Nodup
  cases modulation <;> decide

section Steps

variable {readable : List Register → Prop}
  {P : ∀ {α : Type}, Act (Driver .ready σ) α → Act (Driver .ready σ) α → Prop} (hS : Steps readable P)
include hS

/-- Setting whole bytes is a writing that relies on no cache. -/
theorem Steps.setWholeBytes : P setWholeBytes setWholeBytes := hS.write false (by decide)

/-- What is sent through is a command that changes no table. -/
theorem Steps.thru (args : Bytes) (timeout : Duration) :
    P (sendCommand .inCommunicateThru args timeout) (sendCommand .inCommunicateThru args timeout) :=
  hS.send args timeout (by decide)

/-- A configuration writes one item. -/
theorem Steps.configure (item : RfItem) (value : Bytes) (useCache : Bool) :
    P (configure item value useCache) (configure item value false) :=
  hS.bind (hS.setting _) fun timeout => hS.item item value useCache timeout

/-- Setting the retry timeout is a configuration. -/
theorem Steps.setRetryTimeout (timeout : Duration) (useCache : Bool) :
    P (setRetryTimeout timeout useCache) (setRetryTimeout timeout false) :=
  hS.bind (hS.configure _ _ _) fun _ => hS.done _

/-- A data exchange changes no table. -/
theorem Steps.exchangeData (args : Bytes) (timeout : Duration) : P (exchangeData args timeout) (exchangeData args timeout) :=
  congr_exchangeData hS.toCongruence (fun args timeout => hS.send args timeout (by decide)) args timeout

/-- Setting up the radio reads the radio registers and writes them back with the analog part. -/
theorem Steps.setUpRadio (horder : readable RadioRegisters.order) (settings : RawSettings) (timeout : Duration) :
    P (setUpRadio settings timeout) (setUpRadio settings.plain timeout) :=
  hS.bind (hS.setRetryTimeout _ _) fun _ => hS.bind (hS.read _ horder) fun _ => hS.bind (hS.lift _) fun _ =>
    hS.write _ (nodup_rawSettings _ _)

/-- A careful request is related with the one that relies on no cache. -/
theorem Steps.request (horder : readable RadioRegisters.order) {request : Request} (hc : request.Careful)
    (hr : request.Reads readable) : P request.run request.plain.run := by
  have hP := hS.toCongruence
  cases request with
  | readRegisters registers useCache => exact hS.bind (hS.read useCache hr) fun _ => hS.done _
  | writeRegisters values useCache => exact hS.bind (hS.write useCache hc) fun _ => hS.done _
  | configure item value useCache => exact hS.bind (hS.configure _ _ _) fun _ => hS.done _
  | setRetryTimeout timeout useCache => exact hS.bind (hS.setRetryTimeout _ _) fun _ => hS.done _
  | setActivationRetries => exact hS.bind (hS.configure _ _ _) fun _ => hS.done _
  | setExchangeRetries => exact hS.bind (hS.configure _ _ _) fun _ => hS.done _
  | setField => exact hS.bind (hS.configure _ _ _) fun _ => hS.done _
  | antennaOff => exact hS.bind (hS.bind (hS.tell _ _) fun _ => hS.configure _ _ _) fun _ => hS.done _
  | antennaOn => exact hS.bind (hS.bind (hS.tell _ _) fun _ => hS.configure _ _ _) fun _ => hS.done _
  | exchangeRaw data settings =>
    exact hS.bind (congr_exchangeRaw hP hS.thru data settings (hS.setUpRadio horder settings)) fun _ => hS.done _
  | broadcast data => exact hS.bind (congr_broadcast hP hS.thru hS.setWholeBytes data) fun _ => hS.done _
  | pollA => exact hS.bind (congr_pollA hP hS.list) fun _ => hS.done _
  | pollB => exact hS.bind (congr_pollB hP hS.thru hS.setWholeBytes hS.list) fun _ => hS.done _
  | listTargets modulation maxTargets =>
    refine hS.bind ?_ fun _ => hS.done _
    unfold listTargets
    split
    · exact hS.fail _
    · exact hS.listing _ _
  | transceive data =>
    exact hS.bind (hS.bind (hS.tell _ _) fun _ => hS.bind (hS.setting _) fun _ => hS.exchangeData _ _) fun _ => hS.done _
  | exchangeWith number data timeout => exact hS.bind (hS.exchangeData _ _) fun _ => hS.done _
  | becomeTarget => exact hS.bind hS.target fun _ => hS.done _
  | verifyFirmware => exact hS.bind (congr_verifyFirmware hP hS.waking) fun _ => hS.done _
  | firmware => exact hS.bind (congr_firmware hP hS.waking) fun _ => hS.done _
  | resetBuffers => exact hS.bind hS.reset fun _ => hS.done _
  | forget => exact hS.bind hS.forget fun _ => hS.done _
  | execute command args timeout => exact hS.bind (congr_execute hP (hS.send _ _ hc)) fun _ => hS.done _

/-- So is every other request, if any writing and any command can be related. -/
theorem Steps.request_any (horder : readable RadioRegisters.order)
    (hwrite : ∀ values useCache, P (writeRegisters values useCache) (writeRegisters values false))
    (hsend : ∀ command args timeout, P (sendCommand command args timeout) (sendCommand command args timeout))
    {request : Request} (hr : request.Reads readable) : P request.run request.plain.run := by
  cases request with
  | writeRegisters values useCache => exact hS.bind (hwrite values useCache) fun _ => hS.done _
  | execute command args timeout =>
    exact hS.bind (congr_execute hS.toCongruence (hsend command args timeout)) fun _ => hS.done _
  -- a careful host may ask for all the others
  | _ => exact hS.request horder trivial hr

end Steps

/-! ## Invariants of a driver -/

/-- The property does not depend on what is known. -/
structure Uncached {phase : Phase} (inv : Driver phase σ → Prop) : Prop where
  registers : ∀ d registers, inv d → inv { d with registers }
  rfItems : ∀ d rfItems, inv d → inv { d with rfItems }

section Uncached

/-- An item is written, or left out. -/
theorem Uncached.applyItem {phase : Phase} {inv : Driver phase σ → Prop} (h : Uncached inv)
    (hsend : ∀ args timeout, (sendCommand .rfConfiguration args timeout).Keeps inv) (item : RfItem) (value : Bytes)
    (useCache : Bool) (timeout : Duration) : (applyItem item value useCache timeout).Keeps inv := by
  refine (Act.Keeps.look _).bind fun known => ?_
  split
  · exact Act.Keeps.tell _ _
  · exact (congr_execute (keeps_congruence inv) (hsend _ _)).bind fun _ => fun d hd => h.rfItems d _ hd

variable {inv : Driver .ready σ → Prop} (h : Uncached inv)
include h

/-- Registers are read, or known. -/
theorem Uncached.readRegisters (hsend : ∀ args timeout, (sendCommand .readRegister args timeout).Keeps inv)
    (registers : List Register) (useCache : Bool) : (readRegisters registers useCache).Keeps inv := by
  refine (Act.Keeps.look _).bind fun known => ?_
  cases known with
  | some values => exact (Act.Keeps.tell _ _).bind fun _ => Act.Keeps.done _
  | none =>
    refine (Act.Keeps.look _).bind fun timeout => (congr_execute (keeps_congruence inv) (hsend _ _)).bind fun reply => ?_
    refine (Act.Keeps.lift _).bind fun values => ?_
    have hnote : (noteReadings (registers.zip values)).Keeps inv :=
      Act.Keeps.of_ends fun d hd => ⟨_, _, ends_noteReadings _ d, h.registers d _ hd⟩
    exact hnote.bind fun _ => Act.Keeps.done _

/-- Registers are written, or left out. -/
theorem Uncached.writeRegisters (hsend : ∀ args timeout, (sendCommand .writeRegister args timeout).Keeps inv)
    (values : List Setting) (useCache : Bool) : (writeRegisters values useCache).Keeps inv := by
  refine (Act.Keeps.look _).bind fun pending => ?_
  split
  · exact Act.Keeps.tell _ _
  · have htell : (tellWrites pending).Keeps inv := Act.Keeps.of_ends fun d hd => ⟨_, _, ends_tellWrites pending d, hd⟩
    refine htell.bind fun _ => (Act.Keeps.look _).bind fun timeout => ?_
    exact (congr_execute (keeps_congruence inv) (hsend _ _)).bind fun _ => fun d hd => h.registers d _ hd

/-- The radio is set up by an item, a reading and a writing, so nothing goes out to a card. -/
theorem Uncached.setUpRadio
    (hsend : ∀ command args timeout, command ≠ .inCommunicateThru → (sendCommand command args timeout).Keeps inv)
    (settings : RawSettings) (timeout : Duration) : (setUpRadio settings timeout).Keeps inv := by
  have hitem : (setRetryTimeout timeout settings.useCache).Keeps inv :=
    ((Act.Keeps.look _).bind fun _ => h.applyItem (fun _ _ => hsend _ _ _ (by decide)) _ _ _ _).bind fun _ => Act.Keeps.done _
  exact hitem.bind fun _ => (h.readRegisters (fun _ _ => hsend _ _ _ (by decide)) _ _).bind fun _ =>
    (Act.Keeps.lift _).bind fun _ => h.writeRegisters (fun _ _ => hsend _ _ _ (by decide)) _ _

/-- What outlives every command outlives every request, also one of a host that is not careful. -/
theorem Uncached.request
    (hsend : ∀ command args timeout, (sendCommand command args timeout).Keeps inv)
    (hwaking : ∀ timeout, (sendWaking .getFirmwareVersion [] timeout).Keeps inv)
    (hreset : (resetBuffers : Act (Driver .ready σ) Unit).Keeps inv) (request : Request) :
    (request.run (σ := σ)).Keeps inv := by
  have hforget : (forget : Act (Driver .ready σ) Unit).Keeps inv := fun d hd =>
    h.rfItems { d with registers := .empty } .empty (h.registers d .empty hd)
  have hsteps : Steps (fun _ => True) fun (a : Act (Driver .ready σ) _) _ => a.Keeps inv := {
    toCongruence := keeps_congruence inv
    send := fun args timeout _ => hsend _ args timeout
    waking := hwaking
    reset := hreset
    forget := hforget
    list := congr_listOne (keeps_congruence inv) hforget (hsend _)
    listing := congr_requestListing (keeps_congruence inv) hforget (hsend _)
    target := congr_becomeTarget (keeps_congruence inv) hforget (hsend _)
    read := fun useCache _ => h.readRegisters (hsend _) _ useCache
    write := fun useCache _ => h.writeRegisters (hsend _) _ useCache
    item := h.applyItem (hsend _) }
  exact hsteps.request_any trivial (h.writeRegisters (hsend _)) hsend request.reads_any

end Uncached

/-- What an invariant needs to outlive every request of a careful host: it outlives every step but those in which the chip
sets up its own radio, and these are taken when the driver has forgotten what it knew, from where a narrower invariant
outlives every command. -/
structure Guards (inv blank : Driver .ready σ → Prop) : Prop where
  weaken : ∀ d, blank d → inv d
  forgets : ∀ d, inv d → blank d.forgotten
  blank : ∀ (command : Command) (args : Bytes) (timeout : Duration), (sendCommand command args timeout).Keeps blank
  send : ∀ {command : Command} (args : Bytes) (timeout : Duration), command.Harmless →
    (sendCommand command args timeout).Keeps inv
  waking : ∀ timeout, (sendWaking .getFirmwareVersion [] timeout).Keeps inv
  reset : (resetBuffers : Act (Driver .ready σ) Unit).Keeps inv
  read : ∀ (registers : List Register) (useCache : Bool), (readRegisters registers useCache).Keeps inv
  write : ∀ {values : List Setting} (useCache : Bool), (values.map Prod.fst).Nodup →
    (writeRegisters values useCache).Keeps inv
  item : ∀ (item : RfItem) (value : Bytes) (useCache : Bool) (timeout : Duration),
    (applyItem item value useCache timeout).Keeps inv

section Guards

variable {inv blank : Driver .ready σ → Prop} (hG : Guards inv blank)
include hG

/-- What forgets before all else. -/
theorem Guards.of_forgets {α : Type} {a : Act (Driver .ready σ) α}
    (hforgets : ∀ d, (a.run d).state = (a.run d.forgotten).state) (h : a.Keeps blank) : a.Keeps inv := by
  intro d hd
  rw [hforgets d]
  exact hG.weaken _ (h _ (hG.forgets d hd))

/-- The steps of every request keep the invariant. -/
theorem Guards.steps : Steps (fun _ => True) fun a _ => a.Keeps inv := by
  have hforget : (forget : Act (Driver .ready σ) Unit).Keeps blank := fun d hd => hG.forgets d (hG.weaken d hd)
  exact {
    toCongruence := keeps_congruence inv
    send := hG.send
    waking := hG.waking
    reset := hG.reset
    forget := fun d hd => hG.weaken _ (hG.forgets d hd)
    list := fun _ _ => hG.of_forgets (fun _ => rfl) (congr_listOne (keeps_congruence blank) hforget (hG.blank _) _ _)
    listing := fun _ _ =>
      hG.of_forgets (fun _ => rfl) (congr_requestListing (keeps_congruence blank) hforget (hG.blank _) _ _)
    target := hG.of_forgets (fun _ => rfl) (congr_becomeTarget (keeps_congruence blank) hforget (hG.blank _))
    read := fun useCache _ => hG.read _ useCache
    write := hG.write
    item := hG.item }

/-- A careful request keeps the invariant. -/
theorem Guards.request {request : Request} (hc : request.Careful) : (request.run (σ := σ)).Keeps inv :=
  hG.steps.request trivial hc request.reads_any

end Guards

end Driver

end NfcHost
