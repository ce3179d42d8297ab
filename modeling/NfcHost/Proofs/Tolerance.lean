import NfcHost.Channel.Tapped
import NfcHost.Proofs.SideBySide

/-!
# Tolerant and strict links

A tolerant link differs from a strict one only where the strict link ends in a protocol violation. The two links are coupled
stage by stage, with the violations of the strict link excused; a violation that the strict link puts off until its
acknowledgement is out is a value in between (`PutOff`). Beside it stands the contract of a tolerant link: whatever it ends
in, it is no violation, as long as the channel's own failures are none (`HonestChannel`).
-/

namespace NfcHost

/-- What fails on the channel is never a broken rule of the protocol. -/
class HonestChannel (σ : Type) [Channel σ] : Prop where
  send_fault : ∀ bytes (s : σ) fault, ((Channel.send bytes).run s).result = .error fault → fault.isProtocolViolation = false
  receive_fault : ∀ len timeout (s : σ) fault,
    ((Channel.receive len timeout).run s).result = .error fault → fault.isProtocolViolation = false

/-- A channel in memory does not fail. -/
instance : HonestChannel MemoryChannel where
  send_fault _ _ _ h := nomatch h
  receive_fault _ _ _ _ h := nomatch h

namespace Tapped

variable {σ α : Type}

/-- Planned failures are failures of the channel. -/
theorem pass_fault {call : Call} {onward : Act σ α} {t : Tapped σ} {fault : Fault}
    (h : ((pass call onward).run t).result = .error fault) :
    fault.isProtocolViolation = false ∨ (onward.run t.inner).result = .error fault := by
  simp only [Act.run, pass] at h
  split at h
  · left
    rw [← Except.error.inj h]
    rfl
  · exact Or.inr h

/-- A tap on an honest channel is honest. -/
instance [Channel σ] [HonestChannel σ] : HonestChannel (Tapped σ) where
  send_fault _ _ _ h := (pass_fault h).elim id (HonestChannel.send_fault _ _ _)
  receive_fault _ _ _ _ h := (pass_fault h).elim id (HonestChannel.receive_fault _ _ _ _)

end Tapped

namespace Link

variable {σ α : Type}

/-- A strict link beside a tolerant one that is the same otherwise. -/
def Twin (l l' : Link σ) : Prop := l.strictness = .strict ∧ l' = l.taking .tolerant

/-- The strict link puts off a violation, if anything, and the tolerant one nothing. -/
def PutOff (p q : Option Fault) : Prop := (∀ fault ∈ p, fault.isProtocolViolation = true) ∧ q = none

/-- The faults of a strict link that a tolerant link does not share. -/
def Violation (fault : Fault) : Prop := fault.isProtocolViolation = true

/-- An action of the strict link and one of its twin end alike, unless the strict link ends in a violation. -/
abbrev Twinned {β : Type} (V : α → β → Prop) (a : Act (Link σ) α) (b : Act (Link σ) β) : Prop :=
  Act.Coupled Twin Violation V a b

/-! ## Coupling the judgements -/

section Coupling

open Act

/-- What the twins do on their channels they do alike, since the channels are the same. -/
theorem twin_onChannel (a : Act σ α) : Twinned Eq (onChannel a) (onChannel a) := by
  refine Coupled.onPart a ?_ ?_
  · rintro l l' ⟨-, rfl⟩
    rfl
  · rintro l l' x ⟨hs, rfl⟩
    exact ⟨hs, rfl⟩

/-- Looking at the strictness is where the twins part. -/
theorem twin_isStrict :
    Twinned (fun b b' => b = true ∧ b' = false) (look isStrict : Act (Link σ) Bool) (look isStrict) := by
  refine Coupled.look ?_
  rintro l l' ⟨hs, rfl⟩
  exact ⟨by rw [isStrict, hs]; rfl, rfl⟩

/-- Where the strict link ends in a violation, the tolerant one goes on as it likes. -/
theorem twin_part {V : α → α → Prop} {fault : Fault} (h : fault.isProtocolViolation = true) (a b : Act (Link σ) α) :
    Twinned V (if true = true then fail fault else a) (if false = true then fail fault else b) := by
  rw [if_pos rfl]
  exact Coupled.excuse h _

/-- An anomaly is a violation for the strict link, and an event for the tolerant one. -/
theorem twin_expect (well : Bool) (otherwise : Anomaly) :
    Twinned Eq (expect well otherwise : Act (Link σ) Unit) (expect well otherwise) := by
  unfold expect
  cases well with
  | true => exact Coupled.done rfl
  | false =>
    refine Coupled.bind twin_isStrict ?_
    rintro _ _ ⟨rfl, rfl⟩
    exact twin_part rfl _ _

/-- A head that is not to be trusted is a violation for the strict link, and an event for the tolerant one. -/
theorem twin_trustHead (head : Frame.Head) :
    Twinned Eq (trustHead head : Act (Link σ) Bool) (trustHead head) := by
  refine Coupled.bind twin_isStrict ?_
  rintro _ _ ⟨rfl, rfl⟩
  split
  · exact twin_part rfl _ _
  · split
    · exact twin_part rfl _ _
    · exact Coupled.done rfl

/-- A wrong checksum is put off by the strict link, and told of by the tolerant one. -/
theorem twin_judgeChecksum (head : Frame.Head) (body : Bytes) (check : UInt8) :
    Twinned PutOff (judgeChecksum head body check : Act (Link σ) (Option Fault)) (judgeChecksum head body check) := by
  unfold judgeChecksum
  split
  · exact Coupled.done ⟨nofun, rfl⟩
  · refine Coupled.bind twin_isStrict ?_
    rintro _ _ ⟨rfl, rfl⟩
    refine Coupled.tellRight (Coupled.done ⟨?_, rfl⟩) _ _
    rintro fault ⟨⟩
    rfl

/-- So is a wrong postamble, unless something was put off before. -/
theorem twin_judgePostamble (got : Bytes) {p q : Option Fault} (h : PutOff p q) :
    Twinned PutOff (judgePostamble got p : Act (Link σ) (Option Fault)) (judgePostamble got q) := by
  unfold judgePostamble
  split
  · exact Coupled.done h
  · refine Coupled.bind twin_isStrict ?_
    rintro _ _ ⟨rfl, rfl⟩
    refine Coupled.tellRight (Coupled.done ⟨?_, h.2⟩) _ _
    rintro fault ⟨⟩
    cases p with
    | none => rfl
    | some fault => exact h.1 fault rfl

/-- What was put off is raised at the end, where a tolerant link has nothing to raise. -/
theorem twin_raise (body : Bytes) (p q : Option Fault) : PutOff p q →
    Twinned (σ := σ) Eq (match p with | some fault => Act.fail fault | none => pure body)
      (match q with | some fault => Act.fail fault | none => pure body) := by
  rintro ⟨hp, rfl⟩
  cases p with
  | some fault => exact Coupled.excuse (hp fault rfl) _
  | none => exact Coupled.done rfl

variable [Channel σ]

/-- Twins go through an exchange side by side. -/
theorem twin_abreast : Abreast (σ := σ) Twin Violation PutOff where
  stage := by
    rintro l _ next ⟨hs, rfl⟩
    exact ⟨hs, rfl⟩
  send _ := twin_onChannel _
  receive _ _ := twin_onChannel _
  expect := twin_expect
  trustHead := twin_trustHead
  judgeChecksum := twin_judgeChecksum
  judgePostamble got _ _ := twin_judgePostamble got
  raise := twin_raise

/-- So their exchanges end alike, unless the strict one ends in a violation. -/
theorem twin_exchange (frame : Bytes) (timeout : Duration) :
    Twinned Eq (exchange frame timeout : Act (Link σ) (Option Bytes)) (exchange frame timeout) :=
  twin_abreast.exchange frame timeout

end Coupling

/-! ## A tolerant link ends in no violation -/

/-- From a tolerant link the action ends in a value with `P`, or in a fault that is no violation, and leaves a tolerant link.
-/
def Lenient (P : α → Prop) (a : Act (Link σ) α) : Prop :=
  a.Meets (fun l => l.strictness = .tolerant) (fun v l => P v ∧ l.strictness = .tolerant)
    (fun fault _ => fault.isProtocolViolation = false)

section Lenient

open Act

/-- Two lenient actions one after the other are lenient. -/
theorem Lenient.bind {β : Type} {P : α → Prop} {Q : β → Prop} {a : Act (Link σ) α} {f : α → Act (Link σ) β}
    (h : Lenient P a) (hf : ∀ v, P v → Lenient Q (f v)) : Lenient Q (a >>= f) :=
  Meets.bind h fun v l hl => hf v hl.1 l hl.2

/-- To answer is lenient. -/
theorem Lenient.done {P : α → Prop} {v : α} (h : P v) : Lenient (σ := σ) P (pure v) := fun _ hl => ⟨h, hl⟩

/-- To fail is lenient where the fault is no violation. -/
theorem Lenient.fail {P : α → Prop} {fault : Fault} (h : fault.isProtocolViolation = false) :
    Lenient (σ := σ) P (Act.fail fault) := fun _ _ => h

/-- Telling of an event leaves the link tolerant. -/
theorem Lenient.tell (event : Event) : Lenient (σ := σ) (fun _ => True) (Link.tell event) := fun _ hl => ⟨trivial, hl⟩

/-- So does a change of its stage. -/
theorem Lenient.enter (next : Stage) : Lenient (σ := σ) (fun _ => True) (Link.enter next) := fun _ hl => ⟨trivial, hl⟩

/-- A tolerant link says that it is not strict. -/
theorem Lenient.isStrict : Lenient (σ := σ) (fun b => b = false) (Act.look Link.isStrict) := by
  intro l hl
  exact ⟨by rw [Link.isStrict, hl]; rfl, hl⟩

/-- A computation is lenient if none of its faults is a violation. -/
theorem Lenient.lift {r : Except Fault α} (h : ∀ fault, r = .error fault → fault.isProtocolViolation = false) :
    Lenient (σ := σ) (fun _ => True) (liftM r) :=
  Meets.lift (fun _ _ _ hl => ⟨trivial, hl⟩) fun fault hr _ _ => h fault hr

/-- So is an action on the channel, on the same condition. -/
theorem Lenient.onChannel {a : Act σ α}
    (h : ∀ s fault, (a.run s).result = .error fault → fault.isProtocolViolation = false) :
    Lenient (fun _ => True) (Link.onChannel a) := by
  intro l hl
  unfold Link.onChannel
  rw [run_onPart]
  rcases hr : (a.run l.channel).result with fault | v
  · exact h _ _ hr
  · exact ⟨trivial, hl⟩

/-- A tolerant link tells of an anomaly and goes on. -/
theorem lenient_expect (well : Bool) (otherwise : Anomaly) :
    Lenient (σ := σ) (fun _ => True) (expect well otherwise) := by
  unfold expect
  split
  · exact Lenient.done trivial
  · refine Lenient.isStrict.bind ?_
    rintro _ rfl
    exact Lenient.tell _

/-- It tells of a head that it does not trust, and goes on without it. -/
theorem lenient_trustHead (head : Frame.Head) : Lenient (σ := σ) (fun _ => True) (trustHead head) := by
  refine Lenient.isStrict.bind ?_
  rintro _ rfl
  split
  · exact (Lenient.tell _).bind fun _ _ => Lenient.done trivial
  · split
    · exact (Lenient.tell _).bind fun _ _ => Lenient.done trivial
    · exact Lenient.done trivial

/-- A tolerant link puts nothing off. -/
theorem lenient_judgeChecksum (head : Frame.Head) (body : Bytes) (check : UInt8) :
    Lenient (σ := σ) (fun pending => pending = none) (judgeChecksum head body check) := by
  unfold judgeChecksum
  split
  · exact Lenient.done rfl
  · refine Lenient.isStrict.bind ?_
    rintro _ rfl
    exact (Lenient.tell _).bind fun _ _ => Lenient.done rfl

/-- Nor for a wrong postamble. -/
theorem lenient_judgePostamble (got : Bytes) :
    Lenient (σ := σ) (fun pending => pending = none) (judgePostamble got none) := by
  unfold judgePostamble
  split
  · exact Lenient.done rfl
  · refine Lenient.isStrict.bind ?_
    rintro _ rfl
    exact (Lenient.tell _).bind fun _ _ => Lenient.done rfl

variable [Channel σ] [HonestChannel σ]

/-- A write that fails is no violation. -/
theorem lenient_send (bytes : Bytes) : Lenient (σ := σ) (fun _ => True) (Link.onChannel (Channel.send bytes)) :=
  Lenient.onChannel fun _ _ => HonestChannel.send_fault _ _ _

/-- Nor is a read that fails. -/
theorem lenient_receive (len : Nat) (timeout : Duration) :
    Lenient (σ := σ) (fun _ => True) (Link.onChannel (Channel.receive len timeout)) :=
  Lenient.onChannel fun _ _ => HonestChannel.receive_fault _ _ _ _

/-- Too few bytes are a fault, but no violation. -/
theorem lenient_readExactly (len : Nat) (timeout : Duration) :
    Lenient (σ := σ) (fun _ => True) (readExactly len timeout) := by
  refine (lenient_receive _ _).bind fun bytes _ => ?_
  split
  · exact Lenient.fail rfl
  · exact Lenient.done trivial

/-- A missing or wrong acknowledgement is told of. -/
theorem lenient_sendAndAwaitAck (frame : Bytes) (timeout : Duration) :
    Lenient (σ := σ) (fun _ => True) (sendAndAwaitAck frame timeout) := by
  refine (Lenient.tell _).bind fun _ _ => (lenient_send _).bind fun _ _ => ?_
  refine (Lenient.enter _).bind fun _ _ => (Lenient.enter _).bind fun _ _ => (lenient_receive _ _).bind fun ack _ => ?_
  split
  · exact (Lenient.tell _).bind fun _ _ => Lenient.done trivial
  · exact (lenient_expect _ _).bind fun _ _ => (Lenient.enter _).bind fun _ _ => Lenient.done trivial

/-- A head that cannot be parsed is a fault, but no violation. -/
theorem lenient_awaitHead (timeout : Duration) : Lenient (σ := σ) (fun _ => True) (awaitHead timeout) := by
  refine (Lenient.enter _).bind fun _ _ => (lenient_receive _ _).bind fun bytes _ => ?_
  split
  · exact (Lenient.tell _).bind fun _ _ => Lenient.done trivial
  · refine (Lenient.lift ?_).bind fun head _ => (lenient_expect _ _).bind fun _ _ => ?_
    · intro fault hf
      rw [Frame.Head.fault_parse hf]
      rfl
    · refine (lenient_trustHead _).bind fun trusted _ => ?_
      split <;> exact Lenient.done trivial

/-- The rest of a frame is read, judged and acknowledged without a violation. -/
theorem lenient_finish (head : Frame.Head) (timeout : Duration) :
    Lenient (σ := σ) (fun _ => True) (finish head timeout) := by
  refine (Lenient.lift ?_).bind fun len _ => (lenient_readExactly _ _).bind fun body _ => ?_
  · intro fault hf
    rw [Frame.Head.fault_bodyLength hf]
    rfl
  · refine (lenient_readExactly _ _).bind fun one _ => (Lenient.lift ?_).bind fun check _ => ?_
    · intro fault hf
      rw [(Bytes.fault_fetch hf).1]
      rfl
    · refine (lenient_judgeChecksum _ _ _).bind ?_
      rintro _ rfl
      refine (lenient_receive _ _).bind fun got _ => (lenient_judgePostamble _).bind ?_
      rintro _ rfl
      refine (lenient_send _).bind fun _ _ => (Lenient.enter _).bind fun _ _ => (Lenient.tell _).bind fun _ _ => ?_
      exact Lenient.done trivial

/-- The handshake of a tolerant link ends in no violation. -/
theorem lenient_handshake (frame : Bytes) (timeout : Duration) :
    Lenient (σ := σ) (fun _ => True) (handshake frame timeout) := by
  refine (lenient_sendAndAwaitAck _ _).bind fun came _ => ?_
  split
  · refine (lenient_awaitHead _).bind fun head? _ => ?_
    split
    · exact (lenient_finish _ _).bind fun _ _ => Lenient.done trivial
    · exact Lenient.done trivial
  · exact Lenient.done trivial

/-- So does its exchange. -/
theorem lenient_exchange (frame : Bytes) (timeout : Duration) {l : Link σ} (hl : l.strictness = .tolerant) {fault : Fault}
    (h : ((exchange frame timeout).run l).result = .error fault) : fault.isProtocolViolation = false := by
  rw [(ends_exchange (show (handshake frame timeout).Ends l _ _ from ⟨rfl, rfl⟩)).1] at h
  have hend := lenient_handshake frame timeout l hl
  unfold Outcome.Meets at hend
  rw [h] at hend
  exact hend

end Lenient

/-! ## Tolerance extends strictness -/

/-- An exchange over a tapped channel with any bytes queued and any failures planned, once strict and once tolerant. Unless
the strict link ends in a violation, the tolerant one ends in the same body, the same silence or the same fault and leaves
the same channel: the same calls, each failed or not, and the same bytes queued. And a tolerant link ends in no violation. -/
theorem tolerant_extends_strict (l : Link (Tapped MemoryChannel)) (frame : Bytes) (timeout : Duration) :
    let strict := (exchange frame timeout).run (l.taking .strict)
    let tolerant := (exchange frame timeout).run (l.taking .tolerant)
    ((∀ fault, strict.result = .error fault → fault.isProtocolViolation = false) →
      tolerant.result = strict.result ∧ tolerant.state.channel = strict.state.channel) ∧
    ∀ fault, tolerant.result = .error fault → fault.isProtocolViolation = false := by
  intro strict tolerant
  refine ⟨fun hstrict => ?_, fun fault => lenient_exchange frame timeout rfl⟩
  have h : Outcome.Alike Twin Violation Eq strict tolerant := twin_exchange frame timeout _ _ ⟨rfl, rfl⟩
  unfold Outcome.Alike at h
  split at h
  · rename_i v w hv hw
    obtain ⟨rfl, -, hstate⟩ := h
    exact ⟨hw.trans hv.symm, by rw [hstate]; rfl⟩
  · rename_i f g hf hg
    rcases h with h | ⟨rfl, -, hstate⟩
    · rw [Violation, hstrict f hf] at h
      nomatch h
    · exact ⟨hg.trans hf.symm, by rw [hstate]; rfl⟩
  · rename_i f w hf hw
    rw [Violation, hstrict f hf] at h
    nomatch h
  · exact h.elim

/-- The acknowledgement is read, and the next read fails: in both ways the fault is the channel's, and the channels are left
the same. -/
theorem tolerant_extends_strict_unread :
    let queued : MemoryChannel := { incoming := Frame.ack ++ (Frame.reply [0x03, 0x32, 0x01, 0x06, 0x07]).wire }
    let l : Link (Tapped MemoryChannel) := .over { inner := queued, name := "tap", plans := [⟨.receive, 1, "gone"⟩] } .strict
    let strict := (exchange (Frame.command 0x02 []).wire .zero).run (l.taking .strict)
    let tolerant := (exchange (Frame.command 0x02 []).wire .zero).run (l.taking .tolerant)
    strict.result = .error (.channel "gone") ∧ tolerant.result = strict.result ∧
      tolerant.state.channel = strict.state.channel := by
  intro queued l strict tolerant
  have hstrict : strict.result = .error (.channel "gone") := rfl
  refine ⟨hstrict, (tolerant_extends_strict l (Frame.command 0x02 []).wire .zero).1 ?_⟩
  intro fault hfault
  rw [← Except.error.inj (hstrict.symm.trans hfault)]
  rfl

end Link

end NfcHost
