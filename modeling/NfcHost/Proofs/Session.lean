import NfcHost.Driver.BringUp
import NfcHost.Driver.Discovery
import NfcHost.Driver.Exchange
import NfcHost.Driver.Raw
import NfcHost.Proofs.Contract

/-!
# Sessions

A session brings a controller up and makes one request after the other of the driver; a request that ends in a fault does not
end the session. Statements about sessions quantify over the list of requests, so they speak of every state between two
requests.
-/

namespace NfcHost

/-- What a host can ask of a driver. -/
inductive Request where
  | readRegisters (registers : List Register) (useCache : Bool)
  | writeRegisters (values : List Setting) (useCache : Bool)
  | configure (item : RfItem) (value : Bytes) (useCache : Bool)
  | setRetryTimeout (timeout : Duration) (useCache : Bool)
  | setActivationRetries (attributes selection passive : UInt8) (useCache : Bool)
  | setExchangeRetries (retries : UInt8) (useCache : Bool)
  | setField (on avoidCollisions useCache : Bool)
  | antennaOff
  | antennaOn
  | exchangeRaw (data : Bytes) (settings : RawSettings)
  | broadcast (data : Bytes)
  | pollA
  | pollB
  | listTargets (modulation : Modulation) (maxTargets : UInt8)
  | transceive (data : Bytes)
  | exchangeWith (number : UInt8) (data : Bytes) (timeout : Duration)
  | becomeTarget
  | verifyFirmware
  | firmware
  | resetBuffers
  | forget
  | execute (command : Command) (args : Bytes) (timeout : Duration)

/-- What a request brings back. -/
inductive Answer where
  | nothing
  | bytes (bytes : Bytes)
  | reply (reply : Option Bytes)
  | index (index : UInt8)
  | verdict (ok : Bool)
  | firmware (firmware : Firmware)
  | typeA (poll : Poll TypeATarget)
  | typeB (poll : Poll TypeBTarget)
  | targets (targets : List Target)
  deriving DecidableEq

namespace Request

variable {σ : Type} [Channel σ]

/-- What the driver does for a request. -/
def run : Request → Act (Driver .ready σ) Answer
  | readRegisters registers useCache => do return .bytes (← Driver.readRegisters registers useCache)
  | writeRegisters values useCache => do
    Driver.writeRegisters values useCache
    return .nothing
  | configure item value useCache => do
    Driver.configure item value useCache
    return .nothing
  | setRetryTimeout timeout useCache => do return .index (← Driver.setRetryTimeout timeout useCache)
  | setActivationRetries attributes selection passive useCache => do
    Driver.setActivationRetries attributes selection passive useCache
    return .nothing
  | setExchangeRetries retries useCache => do
    Driver.setExchangeRetries retries useCache
    return .nothing
  | setField on avoidCollisions useCache => do
    Driver.setField on avoidCollisions useCache
    return .nothing
  | antennaOff => do
    Driver.antennaOff
    return .nothing
  | antennaOn => do
    Driver.antennaOn
    return .nothing
  | exchangeRaw data settings => do return .reply (← Driver.exchangeRaw data settings)
  | broadcast data => do return .bytes (← Driver.broadcast data)
  | pollA => do return .typeA (← Driver.pollA)
  | pollB => do return .typeB (← Driver.pollB)
  | listTargets modulation maxTargets => do return .targets (← Driver.listTargets modulation maxTargets)
  | transceive data => do return .reply (← Driver.transceive data)
  | exchangeWith number data timeout => do return .reply (← Driver.exchangeWith number data timeout)
  | becomeTarget => do return .reply (← Driver.becomeTarget)
  | verifyFirmware => do return .verdict (← Driver.verifyFirmware)
  | firmware => do return .firmware (← Driver.firmware)
  | resetBuffers => do
    Driver.resetBuffers
    return .nothing
  | forget => do
    Driver.forget
    return .nothing
  | execute command args timeout => do return .bytes (← Driver.execute command args timeout)

/-- The same request, relying on no cache. -/
def plain : Request → Request
  | readRegisters registers _ => readRegisters registers false
  | writeRegisters values _ => writeRegisters values false
  | configure item value _ => configure item value false
  | setRetryTimeout timeout _ => setRetryTimeout timeout false
  | setActivationRetries attributes selection passive _ => setActivationRetries attributes selection passive false
  | setExchangeRetries retries _ => setExchangeRetries retries false
  | setField on avoidCollisions _ => setField on avoidCollisions false
  | exchangeRaw data settings => exchangeRaw data { settings with useCache := false }
  | request => request

end Request

section Session

variable {σ : Type} [Channel σ]

/-- Makes the requests one after the other and answers how each ended. -/
def replay : List Request → Act (Driver .ready σ) (List (Except Fault Answer))
  | [] => return []
  | request :: rest => do
    let ended ← request.run.attempt
    return ended :: (← replay rest)

/-- A session over a channel, which is left when the requests are made or the controller could not be brought up. -/
def session (channel : σ) (settings : Settings) (requests : List Request) : Outcome σ (List (Except Fault Answer)) :=
  (Driver.over channel settings).bringUp.andThen fun d _ =>
    let o := (replay requests).run d
    ⟨o.result, o.state.link.channel, o.log⟩

/-- A driver that was brought up is what the steps of the bring-up left. -/
theorem eq_of_bringUp {d : Driver .asleep σ} {d' : Driver .ready σ} (h : d.bringUp.result = .ok d') :
    d' = (Driver.bringUpSteps.run d).state.asReady := by
  have hmap : (Driver.bringUpSteps.run d).result.map (fun _ => (Driver.bringUpSteps.run d).state.asReady) = .ok d' := h
  rcases hresult : (Driver.bringUpSteps.run d).result with fault | _
  · rw [hresult] at hmap
    nomatch hmap
  · rw [hresult] at hmap
    exact (Except.ok.inj hmap).symm

/-- What every request keeps, all of them together keep. -/
theorem keeps_replay {inv : Driver .ready σ → Prop} {requests : List Request}
    (h : ∀ request ∈ requests, (request.run (σ := σ)).Keeps inv) : (replay requests).Keeps inv := by
  induction requests with
  | nil => exact Act.Keeps.done _
  | cons request rest ih =>
    have hfirst : request.run.attempt.Keeps inv := (h request (List.mem_cons_self)).attempt
    have hrest := ih fun q hq => h q (List.mem_cons_of_mem _ hq)
    exact hfirst.bind fun _ => hrest.bind fun _ => Act.Keeps.done _

/-- Requests that end alike in turn end alike together. -/
theorem coupled_replay {τ : Type} [Channel τ] {R : Driver .ready σ → Driver .ready τ → Prop} {f : Request → Request}
    {requests : List Request}
    (h : ∀ request ∈ requests, Act.Coupled R (fun _ => False) Eq (request.run (σ := σ)) ((f request).run (σ := τ))) :
    Act.Coupled R (fun _ => False) Eq (replay requests) (replay (requests.map f)) := by
  induction requests with
  | nil => exact Act.Coupled.done rfl
  | cons request rest ih =>
    have hfirst := (h request (List.mem_cons_self)).attempt
    have hrest := ih fun q hq => h q (List.mem_cons_of_mem _ hq)
    refine hfirst.bind ?_
    rintro ended _ rfl
    refine hrest.bind ?_
    rintro others _ rfl
    exact Act.Coupled.done rfl

end Session

end NfcHost
