import NfcHost.Bench
import NfcHost.Proofs.Completion

/-!
# Where the entries of the caches come from

A history of an action is the list of what it completes, in order, read off how it is built (`Driver.Completes`): of the
three steps that enter values in a cache those that ended in a value, and every forgetting. Over any channel, so whatever the
chip sends and whichever calls fail, every run of requests has a history, and what the caches hold at its end is what the
history says (`cache_provenance`).
-/

namespace NfcHost

namespace Driver

open Act

variable {σ : Type} [Channel σ]

/-- What an action completes from a driver. The driver's own steps count once they have ended in a value; other than these,
only commands and what needs no chip are done. -/
inductive Completes : {phase : Phase} → {α : Type} → Act (Driver phase σ) α → Driver phase σ → List Completion → Prop where
  | done {phase : Phase} {α : Type} (v : α) (d : Driver phase σ) : Completes (pure v) d []
  | fail {phase : Phase} {α : Type} (fault : Fault) (d : Driver phase σ) : Completes (Act.fail fault : Act _ α) d []
  | lift {phase : Phase} {α : Type} (r : Except Fault α) (d : Driver phase σ) : Completes (liftM r) d []
  | tell {phase : Phase} (label : Driver phase σ → String) (event : Event) (d : Driver phase σ) :
    Completes (Act.tell label event) d []
  | tellIf {phase : Phase} (cause : Bool) (label : Driver phase σ → String) (event : Event) (d : Driver phase σ) :
    Completes (Act.tellIf cause label event) d []
  | setting {phase : Phase} {α : Type} (f : Settings → α) (d : Driver phase σ) : Completes (setting f) d []
  | onLink {phase : Phase} {α : Type} (a : Act (Link σ) α) (d : Driver phase σ) : Completes (onLink a) d []
  | forget {phase : Phase} (d : Driver phase σ) : Completes forget d [.forgetting]
  | reading {d : Driver .ready σ} {registers : List Register} {useCache : Bool} {values : Bytes} :
    ((readRegisters registers useCache).run d).result = .ok values →
    Completes (readRegisters registers useCache) d [.reading registers values]
  | noReading {d : Driver .ready σ} {registers : List Register} {useCache : Bool} {fault : Fault} :
    ((readRegisters registers useCache).run d).result = .error fault → Completes (readRegisters registers useCache) d []
  | writing {d : Driver .ready σ} {values : List Setting} {useCache : Bool} :
    ((writeRegisters values useCache).run d).result = .ok () → Completes (writeRegisters values useCache) d [.writing values]
  | noWriting {d : Driver .ready σ} {values : List Setting} {useCache : Bool} {fault : Fault} :
    ((writeRegisters values useCache).run d).result = .error fault → Completes (writeRegisters values useCache) d []
  | configuring {phase : Phase} {d : Driver phase σ} {item : RfItem} {value : Bytes} {useCache : Bool} {timeout : Duration} :
    ((applyItem item value useCache timeout).run d).result = .ok () →
    Completes (applyItem item value useCache timeout) d [.configuring item value]
  | noConfiguring {phase : Phase} {d : Driver phase σ} {item : RfItem} {value : Bytes} {useCache : Bool}
    {timeout : Duration} {fault : Fault} :
    ((applyItem item value useCache timeout).run d).result = .error fault →
    Completes (applyItem item value useCache timeout) d []
  | bind {phase : Phase} {α β : Type} {a : Act (Driver phase σ) α} {f : α → Act (Driver phase σ) β} {d : Driver phase σ}
    {v : α} {first second : List Completion} :
    Completes a d first → (a.run d).result = .ok v → Completes (f v) (a.run d).state second →
    Completes (a >>= f) d (first ++ second)
  | stop {phase : Phase} {α β : Type} {a : Act (Driver phase σ) α} {f : α → Act (Driver phase σ) β} {d : Driver phase σ}
    {fault : Fault} {first : List Completion} :
    Completes a d first → (a.run d).result = .error fault → Completes (a >>= f) d first
  | attempt {phase : Phase} {α : Type} {a : Act (Driver phase σ) α} {d : Driver phase σ} {completions : List Completion} :
    Completes a d completions → Completes a.attempt d completions

/-- What the caches hold behind an action is what its history makes of what they held before. -/
theorem Completes.accounts {phase : Phase} {α : Type} {a : Act (Driver phase σ) α} {d : Driver phase σ}
    {completions : List Completion} (h : Completes a d completions) :
    Accounts completions d.registers d.rfItems (a.run d).state := by
  -- on how the action is built: each part accounts for what it finds, and accounts append
  induction h with
  | done v d => exact Holding.accounts ⟨rfl, rfl⟩
  | fail fault d => exact Holding.accounts ⟨rfl, rfl⟩
  | lift r d =>
    rw [run_lift]
    exact Holding.accounts ⟨rfl, rfl⟩
  | tell label event d => exact Holding.accounts ⟨rfl, rfl⟩
  | tellIf cause label event d =>
    rw [run_tellIf]
    exact Holding.accounts ⟨rfl, rfl⟩
  | setting f d => exact Holding.accounts ⟨rfl, rfl⟩
  | onLink a d => exact Holding.accounts ⟨rfl, rfl⟩
  | forget d => exact ⟨fun _ => rfl, fun _ => rfl⟩
  | reading hok => exact ((meets_readRegisters_holding _ _).of_ok ⟨rfl, rfl⟩ hok).2
  | noReading hfault => exact ((meets_readRegisters_holding _ _).of_error ⟨rfl, rfl⟩ hfault).accounts
  | writing hok => exact (meets_writeRegisters_holding _ _).of_ok ⟨rfl, rfl⟩ hok
  | noWriting hfault => exact ((meets_writeRegisters_holding _ _).of_error ⟨rfl, rfl⟩ hfault).accounts
  | configuring hok => exact (meets_applyItem_holding _ _ _ _).of_ok ⟨rfl, rfl⟩ hok
  | noConfiguring hfault => exact ((meets_applyItem_holding _ _ _ _).of_error ⟨rfl, rfl⟩ hfault).accounts
  | bind _ hv _ ih ih' =>
    rw [state_bind_of_ok _ hv]
    exact ih.append ih'
  | stop _ hfault ih =>
    rw [state_bind_of_error _ hfault]
    exact ih
  | attempt _ ih => exact ih

/-- A completed reading has one value for each register. -/
theorem Completes.length_reading {phase : Phase} {α : Type} {a : Act (Driver phase σ) α} {d : Driver phase σ}
    {completions : List Completion} (h : Completes a d completions) {registers : List Register} {values : Bytes}
    (hmem : .reading registers values ∈ completions) : values.length = registers.length := by
  induction h with
  | reading hok =>
    obtain ⟨rfl, rfl⟩ := Completion.reading.inj (List.mem_singleton.1 hmem)
    exact ((meets_readRegisters_holding _ _).of_ok ⟨rfl, rfl⟩ hok).1
  | bind _ _ _ ih ih' => exact (List.mem_append.1 hmem).elim ih ih'
  | stop _ _ ih => exact ih hmem
  | attempt _ ih => exact ih hmem
  | forget => nomatch List.mem_singleton.1 hmem
  | writing => nomatch List.mem_singleton.1 hmem
  | configuring => nomatch List.mem_singleton.1 hmem
  | _ => nomatch hmem

/-! ## Every run has a history -/

/-- From every driver the action completes something, or nothing. -/
def Recorded {phase : Phase} {α : Type} (a : Act (Driver phase σ) α) : Prop := ∀ d, ∃ completions, Completes a d completions

namespace Recorded

variable {phase : Phase} {α β : Type}

/-- One recorded action after another is recorded: what the second completes follows what the first has completed. -/
theorem bind {a : Act (Driver phase σ) α} {f : α → Act (Driver phase σ) β} (h : Recorded a) (hf : ∀ v, Recorded (f v)) :
    Recorded (a >>= f) := by
  intro d
  obtain ⟨first, hfirst⟩ := h d
  rcases hresult : (a.run d).result with fault | v
  · exact ⟨first, hfirst.stop hresult⟩
  · obtain ⟨second, hsecond⟩ := hf v (a.run d).state
    exact ⟨first ++ second, hfirst.bind hresult hsecond⟩

/-- An action that does nothing completes nothing. -/
theorem done (v : α) : Recorded (pure v : Act (Driver phase σ) α) := fun d => ⟨[], .done v d⟩

/-- Neither does a computation. -/
theorem lift (r : Except Fault α) : Recorded (liftM r : Act (Driver phase σ) α) := fun d => ⟨[], .lift r d⟩

/-- Nor does what is done on the link. -/
theorem onLink (a : Act (Link σ) α) : Recorded (Driver.onLink a : Act (Driver phase σ) α) := fun d => ⟨[], .onLink a d⟩

/-- Forgetting is completed. -/
theorem forget : Recorded (Driver.forget : Act (Driver phase σ) Unit) := fun d => ⟨_, .forget d⟩

/-- What is handed over of an action has the history of the action. -/
theorem attempt {a : Act (Driver phase σ) α} (h : Recorded a) : Recorded a.attempt :=
  fun d => (h d).imp fun _ => Completes.attempt

/-- Being recorded is respected by every way to build an action of a driver. -/
theorem congruence : Congruence fun (a : Act (Driver phase σ) _) _ => Recorded a where
  done := done
  fail fault d := ⟨[], .fail fault d⟩
  bind := bind
  tell label event d := ⟨[], .tell label event d⟩
  tellIf cause label event d := ⟨[], .tellIf cause label event d⟩
  lift := lift
  attempt := attempt
  setting f d := ⟨[], .setting f d⟩

/-- A command completes nothing. -/
theorem sendCommand (command : Command) (args : Bytes) (timeout : Duration) :
    Recorded (Driver.sendCommand command args timeout : Act (Driver phase σ) (Option Bytes)) :=
  bind (congruence.tell _ _) fun _ => (lift _).bind fun _ => onLink _

/-- Nor does a waking one. -/
theorem sendWaking (command : Command) (args : Bytes) (timeout : Duration) :
    Recorded (Driver.sendWaking command args timeout : Act (Driver phase σ) Bytes) :=
  (lift _).bind fun _ => (onLink _).bind fun _ => lift _

/-- A reading is completed if it ends in values. -/
theorem readRegisters (registers : List Register) (useCache : Bool) :
    Recorded (Driver.readRegisters registers useCache : Act (Driver .ready σ) Bytes) := by
  intro d
  rcases hresult : ((Driver.readRegisters registers useCache).run d).result with fault | values
  · exact ⟨[], .noReading hresult⟩
  · exact ⟨_, .reading hresult⟩

/-- A writing is completed if it ends without a fault. -/
theorem writeRegisters (values : List Setting) (useCache : Bool) :
    Recorded (Driver.writeRegisters values useCache : Act (Driver .ready σ) Unit) := by
  intro d
  rcases hresult : ((Driver.writeRegisters values useCache).run d).result with fault | _
  · exact ⟨[], .noWriting hresult⟩
  · exact ⟨_, .writing hresult⟩

/-- So is a configuration. -/
theorem applyItem (item : RfItem) (value : Bytes) (useCache : Bool) (timeout : Duration) :
    Recorded (Driver.applyItem item value useCache timeout : Act (Driver phase σ) Unit) := by
  intro d
  rcases hresult : ((Driver.applyItem item value useCache timeout).run d).result with fault | _
  · exact ⟨[], .noConfiguring hresult⟩
  · exact ⟨_, .configuring hresult⟩

/-- A bring-up has a history. -/
theorem bringUpSteps : Recorded (Driver.bringUpSteps : Act (Driver .asleep σ) Unit) :=
  congr_bringUpSteps congruence (onLink _) (onLink _) (fun command args timeout _ _ => sendWaking command args timeout)
    fun item value timeout => applyItem item value false timeout

/-- The steps of every request are recorded. -/
theorem steps : Steps (fun _ => True) fun (a : Act (Driver .ready σ) _) _ => Recorded a where
  toCongruence := congruence
  send args timeout _ := sendCommand _ args timeout
  waking timeout := sendWaking _ _ timeout
  reset := onLink _
  forget := forget
  list modulation data := congr_listOne congruence forget (sendCommand _) modulation data
  listing modulation maxTargets := congr_requestListing congruence forget (sendCommand _) modulation maxTargets
  target := congr_becomeTarget congruence forget (sendCommand _)
  read useCache _ := readRegisters _ useCache
  write useCache _ := writeRegisters _ useCache
  item := applyItem

/-- Every request has a history, also one of a host that is not careful. -/
theorem request (request : Request) : Recorded (request.run (σ := σ)) :=
  steps.request_any trivial writeRegisters sendCommand request.reads_any

/-- A run of requests has a history. -/
theorem replay (requests : List Request) : Recorded (NfcHost.replay requests : Act (Driver .ready σ) _) := by
  induction requests with
  | nil => exact done _
  | cons first rest ih => exact (request first).attempt.bind fun _ => ih.bind fun _ => done _

end Recorded

/-! ## Listings -/

/-- What is known when targets were listed: nothing, but for the number of bits that the poll for Type B cards has set. -/
structure Listed (d : Driver .ready σ) : Prop where
  registers : ∀ r v, d.registers.get? r = some v → r = .bitFraming ∧ v = 0
  items : ∀ i, d.rfItems.get? i = none

omit [Channel σ] in
/-- A driver that has forgotten both caches. -/
theorem Holding.listed {d : Driver .ready σ} (h : Holding .empty .empty d) : Listed d := by
  refine ⟨fun r v hv => ?_, fun i => ?_⟩
  · rw [h.registers] at hv
    nomatch hv
  · rw [h.items]
    rfl

/-- Setting whole bytes enters nothing but the number of bits. -/
theorem keeps_setWholeBytes_listed : (setWholeBytes : Act (Driver .ready σ) Unit).Keeps Listed := by
  unfold setWholeBytes
  intro d hd
  rcases hresult : ((writeRegisters [(.bitFraming, 0)] false).run d).result with fault | _
  · have hkept := (meets_writeRegisters_holding _ _).of_error ⟨rfl, rfl⟩ hresult
    refine ⟨fun r v hv => hd.registers r v ?_, fun i => ?_⟩
    · rwa [hkept.registers] at hv
    · rw [hkept.items]
      exact hd.items i
  · obtain ⟨hregisters, hitems⟩ := ((meets_writeRegisters_holding _ _).of_ok ⟨rfl, rfl⟩ hresult).of_writing
    refine ⟨fun r v hv => ?_, fun i => ?_⟩
    · rw [hregisters] at hv
      by_cases hr : Register.bitFraming = r
      · have hzero : some 0 = some v := by simpa [lastValue, hr] using hv
        exact ⟨hr.symm, (Option.some.inj hzero).symm⟩
      · exact hd.registers r v (by simpa [lastValue, hr] using hv)
    · rw [hitems]
      exact hd.items i

/-- A listing enters nothing where all is forgotten. -/
theorem keeps_listOne_holding (modulation : Modulation) (initiatorData : Bytes) :
    (listOne modulation initiatorData : Act (Driver .ready σ) (Option Bytes)).Keeps (Holding .empty .empty) :=
  congr_listOne (keeps_congruence _) (fun _ _ => ⟨rfl, rfl⟩) (keeps_sendCommand_holding _) modulation initiatorData

/-- A poll for Type A cards leaves no more known than a listing does. -/
theorem listed_pollA (d : Driver .ready σ) : Listed (pollA.run d).state :=
  (congr_pollA (keeps_congruence (Holding .empty .empty)) keeps_listOne_holding d.forgotten ⟨rfl, rfl⟩).listed

/-- Nor does a request for a listing. -/
theorem listed_requestListing (modulation : Modulation) (maxTargets : UInt8) (d : Driver .ready σ) :
    Listed ((requestListing modulation maxTargets).run d).state :=
  (congr_requestListing (keeps_congruence (Holding .empty .empty)) (fun _ _ => ⟨rfl, rfl⟩) (keeps_sendCommand_holding _)
    modulation maxTargets d.forgotten ⟨rfl, rfl⟩).listed

/-- Nor does target mode. -/
theorem listed_becomeTarget (d : Driver .ready σ) : Listed (becomeTarget.run d).state :=
  (congr_becomeTarget (keeps_congruence (Holding .empty .empty)) (fun _ _ => ⟨rfl, rfl⟩) (keeps_sendCommand_holding _)
    d.forgotten ⟨rfl, rfl⟩).listed

/-- A command enters nothing. -/
theorem keeps_sendCommand_listed (command : Command) (args : Bytes) (timeout : Duration) :
    (sendCommand command args timeout : Act (Driver .ready σ) (Option Bytes)).Keeps Listed :=
  (Keeps.tell _ _).bind fun _ => (Keeps.lift _).bind fun _ => fun _ h => ⟨h.registers, h.items⟩

/-- A poll for Type B cards leaves at most the number of bits known. -/
theorem listed_pollB (d : Driver .ready σ) : Listed (pollB.run d).state := by
  have hlist (modulation : Modulation) (data : Bytes) : (listOne modulation data : Act (Driver .ready σ) _).Keeps Listed :=
    fun d _ => (keeps_listOne_holding modulation data d.forgotten ⟨rfl, rfl⟩).listed
  exact congr_pollB (keeps_congruence Listed) (keeps_sendCommand_listed _) keeps_setWholeBytes_listed hlist d.forgotten
    (Holding.listed ⟨rfl, rfl⟩)

end Driver

namespace Request

open Act Driver

variable {σ : Type} [Channel σ]

/-- A request for a single step that enters values in a cache. -/
def Single : Request → Prop
  | readRegisters .. | writeRegisters .. | configure .. | setRetryTimeout .. | setActivationRetries .. => True
  | setExchangeRetries .. | setField .. | antennaOff | antennaOn => True
  | _ => False

/-- Such a request enters nothing when it ends in a fault. -/
theorem meets_single {request : Request} (h : request.Single) (registers : RegisterCache) (items : RfCache) :
    (request.run (σ := σ)).Meets (Holding registers items) (fun _ _ => True) (fun _ => Holding registers items) := by
  have hconfigure (item : RfItem) (value : Bytes) (useCache : Bool) :
      (Driver.configure item value useCache : Act (Driver .ready σ) Unit).Meets (Holding registers items)
        (fun _ => Accounts [.configuring item value] registers items) (fun _ => Holding registers items) :=
    (Keeps.look _).meets.bind fun _ => meets_applyItem_holding _ _ _ _
  cases request with
  | readRegisters asked useCache => exact (meets_readRegisters_holding asked useCache).bind_done _
  | writeRegisters values useCache => exact (meets_writeRegisters_holding values useCache).bind_done _
  | configure => exact (hconfigure _ _ _).bind_done _
  | setRetryTimeout => exact ((hconfigure _ _ _).bind_done _).bind_done _
  | setActivationRetries => exact (hconfigure _ _ _).bind_done _
  | setExchangeRetries => exact (hconfigure _ _ _).bind_done _
  | setField => exact (hconfigure _ _ _).bind_done _
  | antennaOff => exact ((Keeps.tell _ _).meets.bind fun _ => hconfigure _ _ _).bind_done _
  | antennaOn => exact ((Keeps.tell _ _).meets.bind fun _ => hconfigure _ _ _).bind_done _
  | _ => exact h.elim

/-- A request that has the controller list targets or become one. Listing Type F targets is refused without it. -/
def Listing : Request → Prop
  | pollA | pollB | becomeTarget => True
  | listTargets modulation _ => modulation ≠ .typeF
  | _ => False

/-- Such a request leaves what it would leave if nothing had been known before it. -/
theorem state_forgotten {request : Request} (h : request.Listing) (d : Driver .ready σ) :
    (request.run.run d).state = (request.run.run d.forgotten).state := by
  cases request with
  | pollA => rfl
  | pollB => rfl
  | listTargets modulation maxTargets =>
    have hasked : Driver.listTargets (σ := σ) modulation maxTargets = requestListing modulation maxTargets := if_neg h
    rw [run, hasked]
    rfl
  | becomeTarget => rfl
  | _ => exact h.elim

/-- Such a request leaves nothing that was known before it, however it ends. -/
theorem listed {request : Request} (h : request.Listing) (d : Driver .ready σ) : Listed (request.run.run d).state := by
  cases request with
  | pollA =>
    rw [run, state_bind_done]
    exact listed_pollA d
  | pollB =>
    rw [run, state_bind_done]
    exact listed_pollB d
  | listTargets modulation maxTargets =>
    rw [run, state_bind_done, Driver.listTargets, if_neg h]
    exact listed_requestListing modulation maxTargets d
  | becomeTarget =>
    rw [run, state_bind_done]
    exact listed_becomeTarget d
  | _ => exact h.elim

end Request

/-! ## Whole runs -/

section Runs

open Driver

variable {σ : Type} [Channel σ]

/-- Behind a bring-up and a run of requests the caches hold what the two histories make of nothing. -/
theorem accounts_replay {channel : σ} {settings : Settings} {requests : List Request} {d : Driver .ready σ}
    (hup : (Driver.over channel settings).bringUp.result = .ok d) {before after : List Completion}
    (hbefore : Completes bringUpSteps (Driver.over channel settings) before) (hafter : Completes (replay requests) d after) :
    Accounts (before ++ after) .empty .empty ((replay requests).run d).state := by
  have hd := eq_of_bringUp hup
  have hbrought : Accounts before .empty .empty d := by
    rw [hd]
    exact ⟨hbefore.accounts.registers, hbefore.accounts.items⟩
  exact hbrought.append hafter.accounts

/-- Over any channel, so whatever comes in, whichever calls fail and however anomalies are taken, a bring-up and any requests
have a history, and in every history a completed reading has one value for each register. At the end a register or an item is
known with a value exactly if that is the last value that the history gives it since everything was forgotten. Of a single
request, from any driver, the caches are what its history makes of those before, so one that fails midway has entered what it
completed till then. A reading, a writing or a configuration that ends in a fault leaves both caches as they are. An operation
that lists targets or lets the controller be one goes, however it ends, as if nothing had been known before it, and leaves at
most the number of bits that it has set itself. A command sent as it is completes nothing: behind one that changes what is
cached, the caller forgets. -/
theorem cache_provenance (channel : σ) (settings : Settings) (requests : List Request) {d : Driver .ready σ}
    (hup : (Driver.over channel settings).bringUp.result = .ok d) :
    (∃ before after, Completes bringUpSteps (Driver.over channel settings) before ∧ Completes (replay requests) d after) ∧
    (∀ before after, Completes bringUpSteps (Driver.over channel settings) before → Completes (replay requests) d after →
      (∀ asked values, .reading asked values ∈ before ++ after → values.length = asked.length) ∧
      (∀ r v, ((replay requests).run d).state.registers.get? r = some v ↔
        lastValue r ((sinceForgotten (before ++ after)).flatMap Completion.settings) = some v) ∧
      ∀ i v, ((replay requests).run d).state.rfItems.get? i = some v ↔
        lastValue i ((sinceForgotten (before ++ after)).flatMap Completion.items) = some v) ∧
    (∀ (e : Driver .ready σ) (request : Request), ∃ completions, Completes request.run e completions) ∧
    (∀ (e : Driver .ready σ) (request : Request) (completions : List Completion), Completes request.run e completions →
      Accounts completions e.registers e.rfItems (request.run.run e).state) ∧
    (∀ (e : Driver .ready σ) (request : Request) (fault : Fault), request.Single →
      (request.run.run e).result = .error fault → Holding e.registers e.rfItems (request.run.run e).state) ∧
    ∀ (e : Driver .ready σ) (request : Request), request.Listing →
      (request.run.run e).state = (request.run.run e.forgotten).state ∧ Listed (request.run.run e).state := by
  have hhistory : ∃ before after, Completes bringUpSteps (Driver.over channel settings) before ∧
      Completes (replay requests) d after := by
    obtain ⟨before, hbefore⟩ := Recorded.bringUpSteps (Driver.over channel settings)
    obtain ⟨after, hafter⟩ := Recorded.replay requests d
    exact ⟨before, after, hbefore, hafter⟩
  have hcompletes (e : Driver .ready σ) (request : Request) : ∃ completions, Completes request.run e completions :=
    Recorded.request request e
  have hfails (e : Driver .ready σ) (request : Request) (fault : Fault) (hsingle : request.Single)
      (hfault : (request.run.run e).result = .error fault) : Holding e.registers e.rfItems (request.run.run e).state :=
    (Request.meets_single hsingle e.registers e.rfItems).of_error ⟨rfl, rfl⟩ hfault
  have hlists (e : Driver .ready σ) (request : Request) (hlisting : request.Listing) :
      (request.run.run e).state = (request.run.run e.forgotten).state ∧ Listed (request.run.run e).state :=
    ⟨Request.state_forgotten hlisting e, Request.listed hlisting e⟩
  refine ⟨hhistory, fun before after hbefore hafter => ?_, hcompletes, fun _ _ _ h => h.accounts, hfails, hlists⟩
  have hrun := accounts_replay hup hbefore hafter
  refine ⟨fun asked values hmem => ?_, fun r v => ?_, fun i v => ?_⟩
  · exact (List.mem_append.1 hmem).elim hbefore.length_reading hafter.length_reading
  · rw [hrun.registers, Cache.get?_empty, lastKnown_none]
  · rw [hrun.items, Cache.get?_empty, lastKnown_none]

/-- A run in which a writing is answered, but neither the poll behind it, which forgets what was written, nor a second
writing. -/
theorem cache_provenance_poll :
    let driver := Driver.over ((Bench.seed {}).queueExchange [Command.writeRegister.responseCode]) {}
    let requests : List Request := [.writeRegisters [(.txMode, 0x80)] true, .pollB, .writeRegisters [(.rxMode, 0x80)] true]
    ∃ d, driver.bringUp.result = .ok d ∧
      (∃ before after, Completes bringUpSteps driver before ∧ Completes (replay requests) d after) ∧
      ∀ before after, Completes bringUpSteps driver before → Completes (replay requests) d after →
        ∀ r v, ((replay requests).run d).state.registers.get? r = some v ↔
          lastValue r ((sinceForgotten (before ++ after)).flatMap Completion.settings) = some v := by
  intro driver requests
  have hup :
      (Driver.over ((Bench.seed {}).queueExchange [Command.writeRegister.responseCode]) {}).bringUp.result = .ok _ := rfl
  obtain ⟨hhistory, hknown, -⟩ := cache_provenance _ _ requests hup
  exact ⟨_, hup, hhistory, fun before after hbefore hafter => (hknown before after hbefore hafter).2.1⟩

end Runs

end NfcHost
