import NfcHost.Proofs.Handshake

/-!
# What outlives an exchange

Behind its first write a link reads, writes acknowledgements, and goes from stage to stage; the rest is judging what was read,
which leaves the link alone. So a property of the link that outlives these three kinds of steps outlives the exchange
(`Link.Outlasts.exchange`), over any channel and whatever comes in.
-/

namespace NfcHost.Link

open Act

variable {σ : Type}

/-! ## Judgements leave the link alone -/

section Judgements

variable {inv : Link σ → Prop}

/-- An anomaly is raised or told of. -/
theorem keeps_expect (well : Bool) (otherwise : Anomaly) : (expect well otherwise : Act (Link σ) Unit).Keeps inv := by
  unfold expect
  split
  · exact Keeps.done _
  · refine (Keeps.look _).bind fun strict => ?_
    split
    · exact Keeps.fail _
    · exact Keeps.tell _ _

/-- So is a head that is not to be trusted. -/
theorem keeps_trustHead (head : Frame.Head) : (trustHead head : Act (Link σ) Bool).Keeps inv := by
  refine (Keeps.look _).bind fun strict => ?_
  split
  · split
    · exact Keeps.fail _
    · exact (Keeps.tell _ _).bind fun _ => Keeps.done _
  · split
    · split
      · exact Keeps.fail _
      · exact (Keeps.tell _ _).bind fun _ => Keeps.done _
    · exact Keeps.done _

/-- A look at the strictness promises what held before it. -/
theorem meets_isStrict (bad : Fault → Link σ → Prop) :
    (look isStrict : Act (Link σ) Bool).Meets inv (fun _ => inv) bad := fun _ h => h

/-- So does telling of an event. -/
theorem meets_tell (event : Event) (bad : Fault → Link σ → Prop) :
    (tell event : Act (Link σ) Unit).Meets inv (fun _ => inv) bad := fun _ h => h

/-- A judgement that is put off is no fault yet. -/
theorem meets_judgeChecksum (head : Frame.Head) (body : Bytes) (check : UInt8) (bad : Fault → Link σ → Prop) :
    (judgeChecksum head body check : Act (Link σ) (Option Fault)).Meets inv (fun _ => inv) bad := by
  unfold judgeChecksum
  split
  · exact Meets.done fun _ h => h
  · refine (meets_isStrict bad).bind fun strict => ?_
    split
    · exact Meets.done fun _ h => h
    · exact (meets_tell _ bad).bind fun _ => Meets.done fun _ h => h

/-- Nor is one that joins what was put off before. -/
theorem meets_judgePostamble (got : Bytes) (pending : Option Fault) (bad : Fault → Link σ → Prop) :
    (judgePostamble got pending : Act (Link σ) (Option Fault)).Meets inv (fun _ => inv) bad := by
  unfold judgePostamble
  split
  · exact Meets.done fun _ h => h
  · refine (meets_isStrict bad).bind fun strict => ?_
    split
    · exact Meets.done fun _ h => h
    · exact (meets_tell _ bad).bind fun _ => Meets.done fun _ h => h

end Judgements

/-! ## Exchanges -/

variable [Channel σ]

/-- What a property of a link needs to outlive an exchange with a timeout behind its first write. -/
structure Outlasts (inv : Link σ → Prop) (timeout : Duration) : Prop where
  stage : ∀ l next, inv l → inv { l with stage := next }
  receive : ∀ len, (onChannel (Channel.receive len timeout)).Keeps inv
  ack : (onChannel (Channel.send Frame.ack)).Keeps inv

namespace Outlasts

variable {inv : Link σ → Prop} {timeout : Duration} (h : Outlasts inv timeout)
include h

/-- A change of stage is one of the three kinds of steps. -/
theorem enter (next : Stage) : (Link.enter next).Keeps inv := fun l hl => h.stage l next hl

/-- To read exactly is to read and to count. -/
theorem readExactly (len : Nat) : (Link.readExactly len timeout).Keeps inv := by
  refine (h.receive len).bind fun bytes => ?_
  split
  · exact Keeps.fail _
  · exact Keeps.done _

/-- The first write may bring about what the others keep. -/
theorem sendAndAwaitAck (frame : Bytes) :
    (Link.sendAndAwaitAck frame timeout).Meets (fun l => inv ((onChannel (Channel.send frame)).run l).state)
      (fun _ => inv) fun _ => inv := by
  have hsend : (onChannel (Channel.send frame)).Meets (fun l => inv ((onChannel (Channel.send frame)).run l).state)
      (fun _ => inv) fun _ => inv := by
    intro l hl
    unfold Outcome.Meets
    split
    · exact hl
    · exact hl
  refine (meets_tell _ _).bind fun _ => hsend.bind fun _ => Keeps.meets ?_
  refine (h.enter _).bind fun _ => (h.enter _).bind fun _ => (h.receive _).bind fun ack => ?_
  split
  · exact (Keeps.tell _ _).bind fun _ => Keeps.done _
  · exact (keeps_expect _ _).bind fun _ => (h.enter _).bind fun _ => Keeps.done _

/-- The head is read and judged. -/
theorem awaitHead : (Link.awaitHead timeout : Act (Link σ) _).Keeps inv := by
  refine (h.enter _).bind fun _ => (h.receive _).bind fun bytes => ?_
  split
  · exact (Keeps.tell _ _).bind fun _ => Keeps.done _
  · refine (Keeps.lift _).bind fun head => (keeps_expect _ _).bind fun _ => (keeps_trustHead _).bind fun trusted => ?_
    split
    · exact Keeps.done _
    · exact Keeps.done _

/-- The rest of the frame is read, judged and acknowledged. -/
theorem finish (head : Frame.Head) :
    (Link.finish head timeout : Act (Link σ) Bytes).Meets inv (fun _ => inv) fun _ => inv := by
  refine (Keeps.lift _).meets.bind fun len => (h.readExactly len).meets.bind fun body => ?_
  refine (h.readExactly 1).meets.bind fun one => (Keeps.lift _).meets.bind fun check => ?_
  refine (meets_judgeChecksum head body check _).bind fun pending => (h.receive 1).meets.bind fun got => ?_
  refine (meets_judgePostamble got pending _).bind fun pending' => h.ack.meets.bind fun _ => ?_
  refine (h.enter _).meets.bind fun _ => (meets_tell _ _).bind fun _ => ?_
  cases pending' with
  | some fault => exact Meets.fail fun _ hl => hl
  | none => exact Meets.done fun _ hl => hl

/-- What holds when the frame was written, or could not be written, holds when the exchange is over. -/
theorem exchange {frame : Bytes} {l : Link σ} (hl : inv ((onChannel (Channel.send frame)).run l).state) :
    inv ((Link.exchange frame timeout).run l).state := by
  have hhandshake : (Link.handshake frame timeout).Meets
      (fun l => inv ((onChannel (Channel.send frame)).run l).state) (fun _ => inv) fun _ => inv := by
    refine (h.sendAndAwaitAck frame).bind fun came => ?_
    split
    · refine h.awaitHead.meets.bind fun head? => ?_
      cases head? with
      | some head => exact (h.finish head).bind fun body => Meets.done fun _ hl => hl
      | none => exact Meets.done fun _ hl => hl
    · exact Meets.done fun _ hl => hl
  have hstate : inv ((Link.handshake frame timeout).run l).state := by
    rcases hresult : ((Link.handshake frame timeout).run l).result with fault | reply
    · exact hhandshake.of_error hl hresult
    · exact hhandshake.of_ok hl hresult
  rw [(ends_exchange ⟨rfl, rfl⟩).2]
  exact h.stage _ _ hstate

end Outlasts

end NfcHost.Link
