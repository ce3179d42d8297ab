import NfcHost.Proofs.BringUpCourse
import NfcHost.Proofs.Capacity
import NfcHost.Proofs.Completion
import NfcHost.Proofs.Tap

/-!
# What is left out and what is sent

A run of writings and configurations that may be left out, on a driver that was just brought up, of a chip that answers. The
caches hold the last values that the run gave (`Driver.Recalls`): a request keeps that, whether it is sent, sent in part or left
out, and so does a run. So what a request sends is what differs from the last values given, and nothing else
(`elision_sends_changes`), however long the run before it was.
-/

namespace NfcHost

/-- A pair as a writing packs it: the address, high byte first, and the value. -/
def packed (s : Setting) : Bytes := [(s.1.address >>> 8).toUInt8, s.1.address.toUInt8, s.2]

/-- That is how pairs stand in arguments. -/
theorem settingBytes_eq_packed (s : Setting) : Driver.settingBytes s = packed s := by
  have haddress (r : Register) : r.addressBytes = [(r.address >>> 8).toUInt8, r.address.toUInt8] := by
    cases r <;> decide
  rw [Driver.settingBytes, haddress]
  rfl

/-! ## Requests that may be left out -/

namespace Request

/-- The pairs that a request writes. -/
def pairs : Request → List Setting
  | writeRegisters values _ => values
  | _ => []

/-- The item that a request configures, with its value. -/
def itemValues : Request → List (RfItem × Bytes)
  | configure item value _ => [(item, value)]
  | _ => []

/-- A writing or a configuration that may be left out, and fits in a frame if it is not. -/
def Elidable : Request → Prop
  | writeRegisters values useCache => useCache = true ∧ values.length ≤ 84
  | configure _ value useCache => useCache = true ∧ value.length ≤ 252
  | _ => False

end Request

/-- The items that a bring-up configures: the retries, if it is to disable them. -/
def Settings.configured (settings : Settings) : List (RfItem × Bytes) :=
  if settings.disableRetries then [(.maxRetries, [0x00, 0x00, 0x00])] else []

namespace Driver

open Act

variable {ι : Type} {b : Behaviour ι}

/-- The caches hold the last values given to registers and items, and the chip behind the tap is quiet. -/
structure Recalls (pairs : List Setting) (items : List (RfItem × Bytes)) (d : Driver .ready (Tapped (Chip b))) : Prop where
  quiet : d.link.Quiet
  registers : ∀ r, d.registers.get? r = lastValue r pairs
  items : ∀ i, d.rfItems.get? i = lastValue i items

/-- Behind a bring-up no register was given a value, and no item but those configured. -/
theorem recalls_bringUp (hb : b.Answering) {channel : Tapped (Chip b)} (hplans : channel.plans = [])
    (hquiet : channel.inner.outgoing = []) {settings : Settings} {d : Driver .ready (Tapped (Chip b))}
    (hup : (Driver.over channel settings).bringUp.result = .ok d) : Recalls [] settings.configured d := by
  have hready := quiet_bringUp hb hplans hquiet hup
  obtain ⟨_, _, _, l, -, -, hresult, -⟩ | ⟨_, _, _, -, hresult, -⟩ := bringUp_interview (Driver.over channel settings)
  · obtain rfl := Except.ok.inj (hresult.symm.trans hup)
    refine ⟨hready, fun r => ?_, fun i => ?_⟩
    · show Cache.get? (Driver.over channel settings).notingBringUp.registers r = none
      rw [(notingBringUp_kept _).2]
      rfl
    · show Cache.valueIn i (Driver.over channel settings).notingBringUp.rfItems.entries = _
      rw [rfItems_notingBringUp, Settings.configured]
      split <;> rfl
  · cases hresult.symm.trans hup

section Steps

variable (hb : b.Answering) {pairs : List Setting} {items : List (RfItem × Bytes)} {d : Driver .ready (Tapped (Chip b))}
  (hd : Recalls pairs items d)
include hb hd

/-- A writing that may be left out gives registers its values, sent or not. -/
theorem Recalls.writing {values : List Setting} (hl : values.length ≤ 84) :
    ∃ d', (writeRegisters values true).Ends d (.ok ()) d' ∧ Recalls (pairs ++ values) items d' := by
  have hends : ∃ d', (writeRegisters values true).Ends d (.ok ()) d' ∧ d'.link.Quiet := by
    by_cases hnone : (d.pending values true).isEmpty = true
    · exact ⟨d, ends_writeRegisters_nothing hnone, hd.quiet⟩
    · have hfits : ((d.pending values true).flatMap settingBytes).length < Frame.maxBody := by
        have hle := d.length_pending_le values true
        rw [Frame.maxBody]
        omega
      obtain ⟨payload, l, hexec, hquiet⟩ := ends_execute_tapped hb hd.quiet .writeRegister d.settings.commandTimeout hfits
      exact ⟨_, ends_writeRegisters hnone hexec, hquiet⟩
  obtain ⟨_, ⟨hok, rfl⟩, hquiet⟩ := hends
  obtain ⟨hregisters, hitems⟩ := ((meets_writeRegisters_holding values true).of_ok ⟨rfl, rfl⟩ hok).of_writing
  refine ⟨_, ⟨hok, rfl⟩, hquiet, fun r => ?_, fun i => ?_⟩
  · rw [hregisters, hd.registers, lastValue_append]
  · rw [hitems, hd.items]

/-- A configuration that may be left out gives the item its value, sent or not. -/
theorem Recalls.configuring (item : RfItem) {value : Bytes} (hl : value.length ≤ 252) :
    ∃ d', (configure item value true).Ends d (.ok ()) d' ∧ Recalls pairs (items ++ [(item, value)]) d' := by
  have hends : ∃ d', (applyItem item value true d.settings.commandTimeout).Ends d (.ok ()) d' ∧ d'.link.Quiet := by
    by_cases hknown : true = true ∧ d.rfItems.get? item = some value
    · exact ⟨d, ends_applyItem_known _ hknown, hd.quiet⟩
    · have hfits : (item.code :: value).length < Frame.maxBody := by
        rw [List.length_cons, Frame.maxBody]
        omega
      obtain ⟨payload, l, hexec, hquiet⟩ := ends_execute_tapped hb hd.quiet .rfConfiguration d.settings.commandTimeout hfits
      exact ⟨_, ends_applyItem hknown hexec, hquiet⟩
  obtain ⟨_, ⟨hok, rfl⟩, hquiet⟩ := hends
  obtain ⟨hregisters, hitems⟩ := ((meets_applyItem_holding item value true _).of_ok ⟨rfl, rfl⟩ hok).of_single (by simp)
  refine ⟨_, (Ends.look _ d).bind ⟨hok, rfl⟩, hquiet, fun r => ?_, fun i => ?_⟩
  · rw [hregisters, hd.registers]
    rfl
  · rw [hitems, hd.items, lastValue_append]
    rfl

/-- A request that may be left out gives its values. -/
theorem Recalls.request {request : Request} (hr : request.Elidable) :
    ∃ d', request.run.Ends d (.ok .nothing) d' ∧ Recalls (pairs ++ request.pairs) (items ++ request.itemValues) d' := by
  cases request with
  | writeRegisters values useCache =>
    obtain ⟨rfl, hl⟩ := hr
    obtain ⟨d', hends, hrecalls⟩ := hd.writing hb hl
    rw [← List.append_nil items] at hrecalls
    exact ⟨d', hends.bind (Ends.done _ d'), hrecalls⟩
  | configure item value useCache =>
    obtain ⟨rfl, hl⟩ := hr
    obtain ⟨d', hends, hrecalls⟩ := hd.configuring hb item hl
    rw [← List.append_nil pairs] at hrecalls
    exact ⟨d', hends.bind (Ends.done _ d'), hrecalls⟩
  | _ => exact hr.elim

end Steps

/-- A run of requests that may be left out ends well and gives all their values. -/
theorem Recalls.replay (hb : b.Answering) {requests : List Request} (hr : ∀ request ∈ requests, request.Elidable)
    {pairs : List Setting} {items : List (RfItem × Bytes)} {d : Driver .ready (Tapped (Chip b))}
    (hd : Recalls pairs items d) :
    ∃ d', (replay requests).Ends d (.ok (requests.map fun _ => .ok .nothing)) d' ∧
      Recalls (pairs ++ requests.flatMap Request.pairs) (items ++ requests.flatMap Request.itemValues) d' := by
  induction requests generalizing pairs items d with
  | nil => exact ⟨d, Ends.done _ d, by simpa using hd⟩
  | cons request rest ih =>
    obtain ⟨d', hends, hrecalls⟩ := hd.request hb (hr request List.mem_cons_self)
    obtain ⟨d'', hrest, hrecalls'⟩ := ih (fun q hq => hr q (List.mem_cons_of_mem _ hq)) hrecalls
    have hfirst : request.run.attempt.Ends d (.ok (.ok .nothing)) d' := ⟨congrArg Except.ok hends.1, hends.2⟩
    refine ⟨d'', hfirst.bind (hrest.bind (Ends.done _ d'')), ?_⟩
    rwa [List.append_assoc, List.append_assoc] at hrecalls'

/-! ## What is sent -/

section Sent

variable (hb : b.Answering) {pairs : List Setting} {items : List (RfItem × Bytes)} {d : Driver .ready (Tapped (Chip b))}
  (hd : Recalls pairs items d)
include hb hd

/-- A writing sends the pairs that differ from the last values given, in their order, and makes no call if none does. -/
theorem Recalls.sends_writing {values : List Setting} (hl : values.length ≤ 84) :
    ∃ d' made, (writeRegisters values true).Ends d (.ok ()) d' ∧
      d'.link.channel.calls = d.link.channel.calls ++ made ∧
      if ∃ p ∈ values, lastValue p.1 pairs ≠ some p.2 then
        framesSent made = [Frame.command Command.writeRegister.code
          ((values.filter fun p => lastValue p.1 pairs ≠ some p.2).flatMap packed)]
      else made = [] := by
  have hpending : d.pending values true = values.filter fun p => lastValue p.1 pairs ≠ some p.2 := by
    simp only [pending, Cache.changed, hd.registers, if_true]
  by_cases hdiffers : ∃ p ∈ values, lastValue p.1 pairs ≠ some p.2
  · have hne : d.pending values true ≠ [] := by
      obtain ⟨p, hp, hne⟩ := hdiffers
      rw [hpending]
      exact List.ne_nil_of_mem (List.mem_filter.2 ⟨hp, decide_eq_true hne⟩)
    have hfits : ((d.pending values true).flatMap settingBytes).length ≤ 253 := by
      have hle := d.length_pending_le values true
      omega
    obtain ⟨d', hends, -⟩ := hd.writing hb hl
    obtain ⟨made, hcalls, hframes⟩ := ((carries_writeRegisters hne).written hfits).framesSent
    rw [hends.2] at hcalls
    refine ⟨d', made, hends, hcalls, ?_⟩
    rw [if_pos hdiffers, hframes, hpending, show settingBytes = packed from funext settingBytes_eq_packed]
  · have hnone : (d.pending values true).isEmpty = true := by
      rw [hpending, List.isEmpty_iff, List.filter_eq_nil_iff]
      exact fun p hp hne => hdiffers ⟨p, hp, of_decide_eq_true hne⟩
    refine ⟨d, [], ends_writeRegisters_nothing hnone, (List.append_nil _).symm, ?_⟩
    rw [if_neg hdiffers]

/-- A configuration sends the item with its value if that differs from the last value given, and else makes no call. -/
theorem Recalls.sends_configuration (item : RfItem) {value : Bytes} (hl : value.length ≤ 252) :
    ∃ d' made, (configure item value true).Ends d (.ok ()) d' ∧
      d'.link.channel.calls = d.link.channel.calls ++ made ∧
      if lastValue item items ≠ some value then
        framesSent made = [Frame.command Command.rfConfiguration.code (item.code :: value)]
      else made = [] := by
  by_cases hdiffers : lastValue item items ≠ some value
  · have hsent : ¬(true = true ∧ d.rfItems.get? item = some value) := by
      rw [hd.items]
      exact fun h => hdiffers h.2
    have hcarries : Carries (configure item value true) d .rfConfiguration (item.code :: value)
        d.settings.commandTimeout := Carries.behind (Ends.look _ d) (carries_applyItem hsent _)
    obtain ⟨d', hends, -⟩ := hd.configuring hb item hl
    obtain ⟨made, hcalls, hframes⟩ := (hcarries.written (Nat.succ_le_succ hl)).framesSent
    rw [hends.2] at hcalls
    refine ⟨d', made, hends, hcalls, ?_⟩
    rw [if_pos hdiffers, hframes]
  · have hknown : true = true ∧ d.rfItems.get? item = some value := by
      rw [hd.items]
      exact ⟨rfl, Decidable.of_not_not hdiffers⟩
    refine ⟨d, [], (Ends.look _ d).bind (ends_applyItem_known _ hknown), (List.append_nil _).symm, ?_⟩
    rw [if_neg hdiffers]

end Sent

end Driver

open Driver in
/-- What requests that may be left out send, on a driver that was just brought up, of a chip that answers. Behind any run of
them, each of which fits in a frame, all have ended well. The next writing then sends one frame if one of its pairs differs from
the last value that the run gave to the register, or if there is none, and the frame holds just these pairs, in their order;
else it makes no call. The next configuration sends one frame if its value differs from the last one that the run or the
bring-up gave to the item, or if there is none, and the frame holds the code of the item and the whole value; else it makes no
call. -/
theorem elision_sends_changes {ι : Type} (b : Behaviour ι) (hb : b.Answering) (channel : Tapped (Chip b))
    (hplans : channel.plans = []) (hquiet : channel.inner.outgoing = []) (settings : Settings)
    (d : Driver .ready (Tapped (Chip b))) (hup : (Driver.over channel settings).bringUp.result = .ok d)
    (before : List Request) (hbefore : ∀ request ∈ before, request.Elidable) :
    let lastRegister (r : Register) : Option UInt8 := lastValue r (before.flatMap Request.pairs)
    let lastItem (i : RfItem) : Option Bytes := lastValue i (settings.configured ++ before.flatMap Request.itemValues)
    ∃ d', (replay before).Ends d (.ok (before.map fun _ => .ok .nothing)) d' ∧
      (∀ values : List Setting, values.length ≤ 84 →
        ∃ d'' made, (writeRegisters values true).Ends d' (.ok ()) d'' ∧
          d''.link.channel.calls = d'.link.channel.calls ++ made ∧
          if ∃ p ∈ values, lastRegister p.1 ≠ some p.2 then
            framesSent made = [Frame.command Command.writeRegister.code
              ((values.filter fun p => lastRegister p.1 ≠ some p.2).flatMap packed)]
          else made = []) ∧
      (∀ (item : RfItem) (value : Bytes), value.length ≤ 252 →
        ∃ d'' made, (configure item value true).Ends d' (.ok ()) d'' ∧
          d''.link.channel.calls = d'.link.channel.calls ++ made ∧
          if lastItem item ≠ some value then
            framesSent made = [Frame.command Command.rfConfiguration.code (item.code :: value)]
          else made = []) := by
  intro lastRegister lastItem
  have hup' := recalls_bringUp hb hplans hquiet hup
  obtain ⟨d', hends, hrecalls⟩ := hup'.replay hb hbefore
  exact ⟨d', hends, fun values hl => hrecalls.sends_writing hb hl, fun item value hl => hrecalls.sends_configuration hb item hl⟩

/-- A prompt chip whose registers are all zero, behind a tap. -/
def Behaviour.promptTapped : Tapped (Chip Behaviour.prompt) where
  inner := ⟨⟨fun _ => 0x00, fun _ => []⟩, 0, []⟩
  name := "tap"

open Driver in
/-- Two modes are written, and the retries configured as they are. Of two pairs, one of them as before, the other one is sent;
the retries are left out again. -/
theorem elision_sends_changes_partly :
    ∃ d, (Driver.over Behaviour.promptTapped).bringUp.result = .ok d ∧
      ∃ d', (replay [.writeRegisters [(.txMode, 0x80), (.rxMode, 0x80)] true,
          .configure .maxRetries [0x00, 0x00, 0x00] true]).Ends d (.ok [.ok .nothing, .ok .nothing]) d' ∧
        (∃ d'' made, (writeRegisters [(.txMode, 0x80), (.rxMode, 0x00)] true).Ends d' (.ok ()) d'' ∧
          d''.link.channel.calls = d'.link.channel.calls ++ made ∧
          framesSent made = [Frame.command 0x08 [0x63, 0x03, 0x00]]) ∧
        (∃ d'' made, (configure .maxRetries [0x00, 0x00, 0x00] true).Ends d' (.ok ()) d'' ∧
          d''.link.channel.calls = d'.link.channel.calls ++ made ∧ made = []) := by
  have hanswers : Behaviour.prompt.Answering := fun _ _ _ _ => rfl
  have hup : (Driver.over Behaviour.promptTapped).bringUp.result = .ok _ := rfl
  obtain ⟨d', hends, hwriting, hconfiguring⟩ := elision_sends_changes Behaviour.prompt hanswers Behaviour.promptTapped rfl rfl
    {} _ hup [.writeRegisters [(.txMode, 0x80), (.rxMode, 0x80)] true, .configure .maxRetries [0x00, 0x00, 0x00] true]
    (by simp [Request.Elidable])
  obtain ⟨d₁, made₁, hends₁, hcalls₁, hmade₁⟩ := hwriting [(.txMode, 0x80), (.rxMode, 0x00)] (by decide)
  obtain ⟨d₂, made₂, hends₂, hcalls₂, hmade₂⟩ := hconfiguring .maxRetries [0x00, 0x00, 0x00] (by decide)
  rw [if_pos (by decide)] at hmade₁
  rw [if_neg (by decide)] at hmade₂
  exact ⟨_, hup, d', hends, ⟨d₁, made₁, hends₁, hcalls₁, hmade₁⟩, ⟨d₂, made₂, hends₂, hcalls₂, hmade₂⟩⟩

end NfcHost
