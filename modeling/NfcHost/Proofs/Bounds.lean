import NfcHost.Channel.Memory
import NfcHost.Channel.Tapped
import NfcHost.Firmware
import NfcHost.Link
import NfcHost.Proofs.Accessors
import NfcHost.Proofs.Contract
import NfcHost.Radio.RawSettings
import NfcHost.Target.Listing

/-!
# No access outside the data

Below every guard stands an unguarded access, which outside the data ends in the fault `outOfRange`. The statements say
that the guards suffice: no reader of replies and no operation of a link ends in that fault, whatever the channel brings in
and whenever it fails. Each function has one statement, of what holds when it ends in a value; what follows a reader relies
on that, where a length was checked in one function and the access stands in another.
-/

namespace NfcHost

variable {σ τ α β : Type}

/-- The computation ends in a value with `P`, or in a fault other than that of an access outside the data. -/
def InBounds (P : α → Prop) : Except Fault α → Prop
  | .ok value => P value
  | .error fault => fault ≠ .outOfRange

namespace InBounds

variable {P : α → Prop} {Q : β → Prop}

theorem bind {r : Except Fault α} {f : α → Except Fault β} (h : InBounds P r) (hf : ∀ v, P v → InBounds Q (f v)) :
    InBounds Q (r >>= f) := by
  cases r with
  | error fault => exact h
  | ok v => exact hf v h

theorem done {v : α} (h : P v) : InBounds P (pure v) := h

/-- What is promised of the value may be weakened. -/
theorem imp {P' : α → Prop} {r : Except Fault α} (h : InBounds P r) (himp : ∀ v, P v → P' v) : InBounds P' r := by
  cases r with
  | error fault => exact h
  | ok v => exact himp v h

end InBounds

/-! ## Readers of replies -/

namespace Bytes

/-- Data that is long enough is what is required. -/
theorem inBounds_require (data : Bytes) (min : Nat) : InBounds (fun _ => min ≤ data.length) (require data min) := by
  unfold require
  split
  · exact nofun
  · rename_i hlen
    exact Nat.not_lt.1 hlen

/-- A byte inside the data is fetched. -/
theorem inBounds_fetch {data : Bytes} {i : Nat} (h : i < data.length) : InBounds (fun _ => True) (fetch data i) := by
  rw [fetch, List.getElem?_eq_getElem h]
  trivial

/-- So is what follows a position inside the data. -/
theorem inBounds_suffix {data : Bytes} {start : Nat} (h : start ≤ data.length) :
    InBounds (fun _ => True) (suffix data start) := by
  rw [suffix, if_pos h]
  trivial

/-- An access that ends where 64 bits reach is refused outside the data and never let through. -/
theorem Guarded.inBounds {data : Bytes} {stop : Nat} {value : Option α} {access : Except Fault α} {P : α → Prop}
    (h : Guarded data stop value access) (hfit : stop < 0x10000000000000000)
    (hP : stop ≤ data.length → ∀ v, value = some v → P v) : InBounds P access := by
  cases access with
  | ok v =>
    obtain ⟨hin, hvalue⟩ := h.eq_ok_iff.1 rfl
    exact hP hin v hvalue
  | error fault =>
    obtain ⟨-, rfl⟩ := (h.eq_error_iff.1 rfl).of_fit hfit
    exact nofun

/-- A byte that was read lies inside the data. -/
theorem inBounds_byte (data : Bytes) {idx : Nat} (h : idx + 1 < 0x10000000000000000) :
    InBounds (fun _ => idx < data.length) (byte data idx) :=
  (guarded_byte (by omega)).inBounds h fun hin _ _ => hin

/-- A part that was read lies inside the data and has the length asked for. -/
theorem inBounds_slice (data : Bytes) {idx len : Nat} (h : idx + len < 0x10000000000000000) :
    InBounds (fun part => idx + len ≤ data.length ∧ part.length = len) (slice data idx len) := by
  refine (guarded_slice (by omega) (by omega) (Or.inr h)).inBounds h fun hin part hpart => ⟨hin, ?_⟩
  rw [← Option.some.inj hpart, List.length_take, List.length_drop]
  omega

/-- The position after a part behind its length byte lies inside the data, and not far from the length byte. -/
theorem inBounds_lengthPrefixed (data : Bytes) {idx : Nat} (h : idx < 0x100000000) :
    InBounds (fun p => p.2 ≤ data.length ∧ p.2 ≤ idx + 256) (lengthPrefixed data idx) := by
  have hle := announcedEnd_le data idx
  refine (guarded_lengthPrefixed (by omega) (by omega)).inBounds (by omega) fun hin p hp => ?_
  obtain ⟨count, hcount, rfl⟩ := Option.map_eq_some_iff.1 hp
  rw [announcedEnd_of_some hcount] at hin hle
  exact ⟨hin, hle⟩

/-- Data that starts with a code is not empty. -/
theorem inBounds_expectCode (data : Bytes) (expected : UInt8) :
    InBounds (fun _ => 1 ≤ data.length) (expectCode data expected) := by
  refine (inBounds_byte data (by decide)).bind fun actual hlen => ?_
  split
  · exact nofun
  · exact hlen

/-- The status is split off only where there is one. -/
theorem inBounds_splitStatus (data : Bytes) : InBounds (fun _ => True) (splitStatus data) := by
  refine (inBounds_require data 1).bind fun _ hlen => (inBounds_fetch hlen).bind fun _ _ => ?_
  exact (inBounds_suffix hlen).bind fun _ _ => trivial

end Bytes

open Bytes

/-- The position after a block lies inside the data, also where the answer to select stands at its end. -/
theorem TypeATarget.inBounds_ofBlock (data : Bytes) : InBounds (fun p => p.2 ≤ data.length) (TypeATarget.ofBlock data) := by
  refine (inBounds_byte data (by decide)).bind fun number _ => (inBounds_slice data (by decide)).bind fun sens hsens => ?_
  refine (inBounds_byte data (by decide)).bind fun selRes _ => ?_
  refine (inBounds_lengthPrefixed data (by decide)).bind ?_
  rintro ⟨nfcid, idx⟩ ⟨hin, hnear⟩
  dsimp only at hin hnear ⊢
  refine (inBounds_fetch (by omega)).bind fun _ _ => (inBounds_fetch (by omega)).bind fun _ _ => ?_
  split
  · rename_i hats
    refine (inBounds_fetch (by simpa using (Bool.and_eq_true_iff.1 hats).2)).bind fun len _ => ?_
    have hlen := UInt8.toNat_lt len
    rw [sum64_eq (show idx + 1 < _ by omega)]
    refine (inBounds_slice data (by omega)).bind fun ats hend => ?_
    exact InBounds.done (show idx + (1 + (len.toNat - 1)) ≤ data.length by omega)
  · exact InBounds.done hin

/-- The first block of a poll is read inside the data, with an answer to select behind it or without. -/
theorem TypeATarget.inBounds_ofPoll (payload : Bytes) : InBounds (fun _ => True) (TypeATarget.ofPoll payload) := by
  refine (inBounds_byte payload (by decide)).bind fun count hcount => ?_
  split
  · exact InBounds.done trivial
  · refine (inBounds_suffix hcount).bind fun data _ => (inBounds_byte data (by decide)).bind fun number _ => ?_
    refine (inBounds_slice data (by decide)).bind fun sens hsens => (inBounds_byte data (by decide)).bind fun selRes _ => ?_
    refine (inBounds_lengthPrefixed data (by decide)).bind ?_
    rintro ⟨nfcid, idx⟩ ⟨hin, hnear⟩
    dsimp only at hin hnear ⊢
    have hats : ∀ ats : Bytes, InBounds (fun _ => True) (do
        return some (⟨number, (← fetch sens 0, ← fetch sens 1), selRes, nfcid, ats⟩ : TypeATarget)) := fun ats =>
      (inBounds_fetch (by omega)).bind fun _ _ => (inBounds_fetch (by omega)).bind fun _ _ => InBounds.done trivial
    split
    · rename_i len _
      have hlen := UInt8.toNat_lt len
      rw [sum64_eq (show idx + 1 < _ by omega)]
      exact (inBounds_slice data (by omega)).bind fun ats _ => hats ats
    · exact hats []

/-- A block of a Type B card is read up to the end of its last part. -/
theorem TypeBTarget.inBounds_ofBlock (data : Bytes) : InBounds (fun p => p.2 ≤ data.length) (TypeBTarget.ofBlock data) := by
  refine (inBounds_byte data (by decide)).bind fun number _ => (inBounds_slice data (by decide)).bind fun sensbRes hsensb => ?_
  refine (inBounds_fetch (by rw [hsensb.2]; decide)).bind fun first _ => ?_
  split
  · exact nofun
  · refine (inBounds_lengthPrefixed data (by decide)).bind ?_
    rintro ⟨attribRes, used⟩ ⟨hin, -⟩
    exact InBounds.done hin

namespace Target

/-- The position after a block lies inside the data, whatever the modulation. -/
theorem inBounds_ofBlock (modulation : Modulation) (data : Bytes) :
    InBounds (fun p => p.2 ≤ data.length) (ofBlock modulation data) := by
  cases modulation with
  | typeA => exact (TypeATarget.inBounds_ofBlock data).bind fun _ hused => InBounds.done hused
  | typeB => exact (TypeBTarget.inBounds_ofBlock data).bind fun _ hused => InBounds.done hused
  | typeF => exact nofun

/-- Every block ends inside the data, so the next one starts inside of it. -/
theorem inBounds_ofBlocks (modulation : Modulation) (count : Nat) (data : Bytes) :
    InBounds (fun _ => True) (ofBlocks modulation count data) := by
  induction count generalizing data with
  | zero => trivial
  | succ count ih =>
    refine (inBounds_ofBlock modulation data).bind fun block hused => (inBounds_suffix hused).bind fun rest _ => ?_
    exact (ih rest).bind fun _ _ => InBounds.done trivial

/-- A listing is read block by block behind the number of targets. -/
theorem inBounds_ofListing (modulation : Modulation) (payload : Bytes) :
    InBounds (fun _ => True) (ofListing modulation payload) := by
  refine (inBounds_byte payload (by decide)).bind fun count hcount => (inBounds_suffix hcount).bind fun data _ => ?_
  exact inBounds_ofBlocks modulation count.toNat data

end Target

/-- A firmware version is read off four bytes. -/
theorem Firmware.inBounds_parse (payload : Bytes) : InBounds (fun _ => True) (Firmware.parse payload) := by
  refine (inBounds_slice payload (by decide)).bind fun four hfour => ?_
  refine (inBounds_fetch (by omega)).bind fun _ _ => (inBounds_fetch (by omega)).bind fun _ _ => ?_
  exact (inBounds_fetch (by omega)).bind fun _ _ => (inBounds_fetch (by omega)).bind fun _ _ => InBounds.done trivial

/-- A reply is compared only where it has the length expected. -/
theorem Firmware.inBounds_replyMatches (reply : Bytes) : InBounds (fun _ => True) (Firmware.replyMatches reply) := by
  unfold Firmware.replyMatches
  split
  · rename_i hlen
    have hlen' : reply.length = 5 := hlen
    refine (inBounds_fetch (by omega)).bind fun code _ => ?_
    split
    · exact (inBounds_fetch (by omega)).bind fun _ _ => InBounds.done trivial
    · exact InBounds.done trivial
  · trivial

/-- The radio registers are read off four values. -/
theorem RadioRegisters.inBounds_ofValues (values : Bytes) : InBounds (fun _ => True) (RadioRegisters.ofValues values) := by
  refine (inBounds_slice values (by decide)).bind fun four hfour => ?_
  have hlen : four.length = 4 := hfour.2
  refine (inBounds_fetch (by omega)).bind fun _ _ => (inBounds_fetch (by omega)).bind fun _ _ => ?_
  exact (inBounds_fetch (by omega)).bind fun _ _ => (inBounds_fetch (by omega)).bind fun _ _ => InBounds.done trivial

namespace Frame

/-- A frame that is too large is refused. -/
theorem inBounds_encode (frame : Frame) : InBounds (fun _ => True) frame.encode := by
  unfold encode
  split
  · exact nofun
  · trivial

/-- Bytes that are no head are refused. -/
theorem Head.inBounds_parse (bytes : Bytes) : InBounds (fun _ => True) (Head.parse bytes) := by
  unfold Head.parse
  split
  · trivial
  · exact nofun

/-- A length byte that leaves no room for a marker is refused. -/
theorem Head.inBounds_bodyLength (head : Head) : InBounds (fun _ => True) head.bodyLength := by
  unfold Head.bodyLength
  split
  · exact nofun
  · trivial

end Frame

/-! ## Actions -/

namespace Act

/-- From every state the action ends in a value with `P`, or in a fault other than that of an access outside the data. -/
def Stays (P : α → Prop) (a : Act σ α) : Prop :=
  a.Meets (fun _ => True) (fun v _ => P v) fun fault _ => fault ≠ .outOfRange

namespace Stays

variable {P : α → Prop} {Q : β → Prop}

/-- The result of such an action. -/
theorem result {a : Act σ α} (h : a.Stays P) (s : σ) : InBounds P (a.run s).result := by
  rcases hresult : (a.run s).result with fault | v
  · exact Meets.of_error h trivial hresult
  · exact Meets.of_ok h trivial hresult

theorem bind {a : Act σ α} {f : α → Act σ β} (h : a.Stays P) (hf : ∀ v, P v → (f v).Stays Q) : (a >>= f).Stays Q :=
  Meets.bind h fun v s hv => hf v hv s trivial

theorem done {v : α} (h : P v) : (pure v : Act σ α).Stays P := fun _ _ => h

theorem fail {fault : Fault} (h : fault ≠ .outOfRange) : (Act.fail fault : Act σ α).Stays P := fun _ _ => h

theorem look (f : σ → α) : (Act.look f).Stays fun _ => True := fun _ _ => trivial

theorem change (f : σ → σ) : (Act.change f).Stays fun _ => True := fun _ _ => trivial

theorem tell (label : σ → String) (event : Event) : (Act.tell label event).Stays fun _ => True := fun _ _ => trivial

theorem tellIf (cause : Bool) (label : σ → String) (event : Event) : (Act.tellIf cause label event).Stays fun _ => True := by
  intro s _
  rw [run_tellIf]
  trivial

theorem ofExcept {r : Except Fault α} (h : InBounds P r) : (Act.ofExcept r : Act σ α).Stays P := by
  cases r with
  | ok v => exact Stays.done h
  | error fault => exact Stays.fail h

theorem lift {r : Except Fault α} (h : InBounds P r) : (liftM r : Act σ α).Stays P := Stays.ofExcept h

/-- What is handed over of an action that stays in bounds is in bounds. -/
theorem attempt {a : Act σ α} (h : a.Stays P) : a.attempt.Stays (InBounds P) := fun s _ => h.result s

/-- What stays in bounds on a part of the state does so on the whole. -/
theorem onPart {part : τ → σ} {replace : τ → σ → τ} {a : Act σ α} (h : a.Stays P) : (a.onPart part replace).Stays P :=
  fun t _ => h (part t) trivial

end Stays

end Act

open Act

/-! ## Channels -/

/-- No operation of the channel ends in an access outside the data. -/
class GuardedChannel (σ : Type) [Channel σ] : Prop where
  send : ∀ bytes, (Channel.send bytes : Act σ Unit).Stays fun _ => True
  receive : ∀ len timeout, (Channel.receive len timeout : Act σ Bytes).Stays fun _ => True
  flush : (Channel.flush : Act σ Unit).Stays fun _ => True
  resetInput : (Channel.resetInput : Act σ Unit).Stays fun _ => True
  resetOutput : (Channel.resetOutput : Act σ Unit).Stays fun _ => True
  resetBuffers : (Channel.resetBuffers : Act σ Unit).Stays fun _ => True

instance : GuardedChannel MemoryChannel where
  send _ := Stays.change _
  receive _ _ := fun _ _ => trivial
  flush := Stays.change _
  resetInput := Stays.change _
  resetOutput := Stays.done trivial
  resetBuffers := (Stays.change _).bind fun _ _ => Stays.done trivial

/-- A planned failure is a failure of the channel. -/
theorem Tapped.stays_pass {P : α → Prop} (call : Call) {onward : Act σ α} (h : onward.Stays P) :
    (Tapped.pass call onward).Stays P := by
  intro t _
  rcases hmeet : FailurePlan.meet call.kind t.plans with ⟨_ | reason, plans⟩
  · have hresult : ((Tapped.pass call onward).run t).result = (onward.run t.inner).result := by
      simp only [Act.run, Tapped.pass, hmeet]
    have hinner := h.result t.inner
    rcases hend : (onward.run t.inner).result with fault | v
    · rw [hend] at hresult hinner
      exact Ends.meets_error ⟨hresult, rfl⟩ hinner
    · rw [hend] at hresult hinner
      exact Ends.meets_ok ⟨hresult, rfl⟩ hinner
  · have hresult : ((Tapped.pass call onward).run t).result = .error (.channel reason) := by
      simp only [Act.run, Tapped.pass, hmeet]
    exact Ends.meets_error ⟨hresult, rfl⟩ nofun

instance [Channel σ] [GuardedChannel σ] : GuardedChannel (Tapped σ) where
  send bytes := Tapped.stays_pass _ (GuardedChannel.send bytes)
  receive len timeout := Tapped.stays_pass _ (GuardedChannel.receive len timeout)
  flush := Tapped.stays_pass _ GuardedChannel.flush
  resetInput := Tapped.stays_pass _ GuardedChannel.resetInput
  resetOutput := Tapped.stays_pass _ GuardedChannel.resetOutput
  resetBuffers := (Tapped.stays_pass _ GuardedChannel.resetInput).bind fun _ _ =>
    Tapped.stays_pass _ GuardedChannel.resetOutput

/-! ## The link -/

namespace Link

/-- Telling of an event reads no data. -/
theorem stays_tell (event : Event) : (tell event : Act (Link σ) Unit).Stays fun _ => True := Stays.tell _ _

/-- Nor does a change of the stage. -/
theorem stays_enter (next : Stage) : (enter next : Act (Link σ) Unit).Stays fun _ => True :=
  (Stays.look _).bind fun _ _ => (stays_tell _).bind fun _ _ => Stays.change _

/-- An anomaly is a fault of the protocol, or an event. -/
theorem stays_expect (well : Bool) (otherwise : Anomaly) :
    (expect well otherwise : Act (Link σ) Unit).Stays fun _ => True := by
  unfold expect
  split
  · exact Stays.done trivial
  · refine (Stays.look _).bind fun strict _ => ?_
    split
    · exact Stays.fail nofun
    · exact stays_tell _

/-- So is a head that is not to be trusted. -/
theorem stays_trustHead (head : Frame.Head) : (trustHead head : Act (Link σ) Bool).Stays fun _ => True := by
  refine (Stays.look _).bind fun strict _ => ?_
  split
  · split
    · exact Stays.fail nofun
    · exact (stays_tell _).bind fun _ _ => Stays.done trivial
  · split
    · split
      · exact Stays.fail nofun
      · exact (stays_tell _).bind fun _ _ => Stays.done trivial
    · exact Stays.done trivial

/-- What is put off is no access outside the data. -/
theorem stays_judgeChecksum (head : Frame.Head) (body : Bytes) (check : UInt8) :
    (judgeChecksum head body check : Act (Link σ) (Option Fault)).Stays fun pending =>
      ∀ fault ∈ pending, fault ≠ .outOfRange := by
  unfold judgeChecksum
  split
  · exact Stays.done nofun
  · refine (Stays.look _).bind fun strict _ => ?_
    split
    · refine Stays.done ?_
      rintro fault ⟨⟩
      exact nofun
    · exact (stays_tell _).bind fun _ _ => Stays.done nofun

/-- Neither is what is put off for a wrong postamble. -/
theorem stays_judgePostamble (got : Bytes) {pending : Option Fault} (h : ∀ fault ∈ pending, fault ≠ .outOfRange) :
    (judgePostamble got pending : Act (Link σ) (Option Fault)).Stays fun pending =>
      ∀ fault ∈ pending, fault ≠ .outOfRange := by
  unfold judgePostamble
  split
  · exact Stays.done h
  · refine (Stays.look _).bind fun strict _ => ?_
    split
    · refine Stays.done ?_
      rintro fault ⟨⟩
      cases pending with
      | none => exact nofun
      | some fault => exact h fault rfl
    · exact (stays_tell _).bind fun _ _ => Stays.done h

variable [Channel σ] [GuardedChannel σ]

/-- A write is left to the channel. -/
theorem stays_send (bytes : Bytes) : (onChannel (Channel.send bytes) : Act (Link σ) Unit).Stays fun _ => True :=
  (GuardedChannel.send bytes).onPart

/-- So is a read. -/
theorem stays_receive (len : Nat) (timeout : Duration) :
    (onChannel (Channel.receive len timeout) : Act (Link σ) Bytes).Stays fun _ => True :=
  (GuardedChannel.receive len timeout).onPart

/-- What is read exactly has the length that was asked for. -/
theorem stays_readExactly (len : Nat) (timeout : Duration) :
    (readExactly len timeout : Act (Link σ) Bytes).Stays fun bytes => bytes.length = len := by
  refine (stays_receive _ _).bind fun bytes _ => ?_
  split
  · exact Stays.fail nofun
  · rename_i hlen
    exact Stays.done (by simpa using hlen)

/-- The acknowledgement is compared as a whole. -/
theorem stays_sendAndAwaitAck (frame : Bytes) (timeout : Duration) :
    (sendAndAwaitAck frame timeout : Act (Link σ) Bool).Stays fun _ => True := by
  refine (stays_tell _).bind fun _ _ => (stays_send _).bind fun _ _ => (stays_enter _).bind fun _ _ => ?_
  refine (stays_enter _).bind fun _ _ => (stays_receive _ _).bind fun ack _ => ?_
  split
  · exact (stays_tell _).bind fun _ _ => Stays.done trivial
  · exact (stays_expect _ _).bind fun _ _ => (stays_enter _).bind fun _ _ => Stays.done trivial

/-- The head is parsed from what came, however much that is. -/
theorem stays_awaitHead (timeout : Duration) :
    (awaitHead timeout : Act (Link σ) (Option Frame.Head)).Stays fun _ => True := by
  refine (stays_enter _).bind fun _ _ => (stays_receive _ _).bind fun bytes _ => ?_
  split
  · exact (stays_tell _).bind fun _ _ => Stays.done trivial
  · refine (Stays.lift (Frame.Head.inBounds_parse bytes)).bind fun head _ => (stays_expect _ _).bind fun _ _ => ?_
    refine (stays_trustHead _).bind fun trusted _ => ?_
    split <;> exact Stays.done trivial

/-- The checksum byte is there, since one byte was read exactly. -/
theorem stays_finish (head : Frame.Head) (timeout : Duration) :
    (finish head timeout : Act (Link σ) Bytes).Stays fun _ => True := by
  refine (Stays.lift head.inBounds_bodyLength).bind fun len _ => (stays_readExactly _ _).bind fun body _ => ?_
  refine (stays_readExactly _ _).bind fun one hone => (Stays.lift (inBounds_fetch (by omega))).bind fun check _ => ?_
  refine (stays_judgeChecksum _ _ _).bind fun pending hpending => (stays_receive _ _).bind fun got _ => ?_
  refine (stays_judgePostamble got hpending).bind fun pending' hpending' => (stays_send _).bind fun _ _ => ?_
  refine (stays_enter _).bind fun _ _ => (stays_tell _).bind fun _ _ => ?_
  cases pending' with
  | some fault => exact Stays.fail (hpending' fault rfl)
  | none => exact Stays.done trivial

/-- A handshake that ends early reads no further. -/
theorem stays_handshake (frame : Bytes) (timeout : Duration) :
    (handshake frame timeout : Act (Link σ) (Option Bytes)).Stays fun _ => True := by
  refine (stays_sendAndAwaitAck _ _).bind fun came _ => ?_
  split
  · refine (stays_awaitHead _).bind fun head? _ => ?_
    cases head? with
    | some head => exact (stays_finish _ _).bind fun _ _ => Stays.done trivial
    | none => exact Stays.done trivial
  · exact Stays.done trivial

/-- An exchange ends as its handshake does. -/
theorem stays_exchange (frame : Bytes) (timeout : Duration) :
    (exchange frame timeout : Act (Link σ) (Option Bytes)).Stays fun _ => True :=
  (stays_handshake frame timeout).attempt.bind fun _ hended => (stays_enter _).bind fun _ _ => Stays.ofExcept hended

/-- A wake-up reads nothing. -/
theorem stays_wakeUp : (wakeUp : Act (Link σ) Unit).Stays fun _ => True :=
  GuardedChannel.flush.onPart.bind fun _ _ => (stays_send _).bind fun _ _ => GuardedChannel.resetInput.onPart

/-- Nor does resetting the buffers. -/
theorem stays_resetBuffers : (resetBuffers : Act (Link σ) Unit).Stays fun _ => True := GuardedChannel.resetBuffers.onPart

end Link

end NfcHost
