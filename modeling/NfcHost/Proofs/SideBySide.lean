import NfcHost.Proofs.Handshake

/-!
# Exchanges over two links

An exchange run over two links that are related, possibly over channels of different kinds. It is enough to relate what an
exchange is made of (`Link.Abreast`): the calls of the channel, the stages, and the judgements of what came in. A violation that
is put off until the acknowledgement is out is a value in between, so it has a relation of its own. Links that are equally
strict judge alike (`Link.abreast_of_strictness`).
-/

namespace NfcHost.Link

open Act

variable {σ τ : Type}

/-- An action of one link and one of another link end alike, unless the first ends in a fault that is excused. -/
abbrev Joined (R : Link σ → Link τ → Prop) (excused : Fault → Prop) {α : Type} (V : α → α → Prop) (a : Act (Link σ) α)
    (b : Act (Link τ) α) : Prop := Coupled R excused V a b

variable [Channel σ] [Channel τ]

/-- What a relation between links needs so that their exchanges end alike. -/
structure Abreast (R : Link σ → Link τ → Prop) (excused : Fault → Prop) (putOff : Option Fault → Option Fault → Prop) :
    Prop where
  stage : ∀ l l' next, R l l' → R { l with stage := next } { l' with stage := next }
  send : ∀ bytes, Joined R excused Eq (onChannel (Channel.send bytes)) (onChannel (Channel.send bytes))
  receive : ∀ len timeout,
    Joined R excused Eq (onChannel (Channel.receive len timeout)) (onChannel (Channel.receive len timeout))
  expect : ∀ well otherwise, Joined R excused Eq (Link.expect well otherwise) (Link.expect well otherwise)
  trustHead : ∀ head, Joined R excused Eq (Link.trustHead head) (Link.trustHead head)
  judgeChecksum : ∀ head body check,
    Joined R excused putOff (Link.judgeChecksum head body check) (Link.judgeChecksum head body check)
  judgePostamble : ∀ got p q, putOff p q →
    Joined R excused putOff (Link.judgePostamble got p) (Link.judgePostamble got q)
  /-- What was put off is raised at the end. -/
  raise : ∀ (body : Bytes) p q, putOff p q →
    Joined R excused Eq (match p with | some fault => Act.fail fault | none => pure body)
      (match q with | some fault => Act.fail fault | none => pure body)

namespace Abreast

variable {R : Link σ → Link τ → Prop} {excused : Fault → Prop} {putOff : Option Fault → Option Fault → Prop}
  (h : Abreast R excused putOff)
include h

theorem enter (next : Stage) : Joined R excused Eq (Link.enter next) (Link.enter next) := by
  have hlook : Joined R excused (fun _ _ => True) (look Link.stage) (look Link.stage) := Coupled.look fun _ _ _ => trivial
  exact hlook.bind fun _ _ _ => (Coupled.tell _ _ _ _).bind fun _ _ _ => Coupled.change fun l l' hl => h.stage l l' next hl

theorem readExactly (len : Nat) (timeout : Duration) :
    Joined R excused Eq (Link.readExactly len timeout) (Link.readExactly len timeout) := by
  refine Coupled.bind (h.receive _ _) ?_
  rintro bytes _ rfl
  split
  · exact Coupled.fail _
  · exact Coupled.done rfl

theorem sendAndAwaitAck (frame : Bytes) (timeout : Duration) :
    Joined R excused Eq (Link.sendAndAwaitAck frame timeout) (Link.sendAndAwaitAck frame timeout) := by
  refine Coupled.bind (Coupled.tell _ _ _ _) fun _ _ _ => Coupled.bind (h.send _) fun _ _ _ => ?_
  refine Coupled.bind (h.enter _) fun _ _ _ => Coupled.bind (h.enter _) fun _ _ _ => ?_
  refine Coupled.bind (h.receive _ _) ?_
  rintro ack _ rfl
  split
  · exact Coupled.bind (Coupled.tell _ _ _ _) fun _ _ _ => Coupled.done rfl
  · exact Coupled.bind (h.expect _ _) fun _ _ _ => Coupled.bind (h.enter _) fun _ _ _ => Coupled.done rfl

theorem awaitHead (timeout : Duration) : Joined R excused Eq (Link.awaitHead timeout) (Link.awaitHead timeout) := by
  refine Coupled.bind (h.enter _) fun _ _ _ => Coupled.bind (h.receive _ _) ?_
  rintro bytes _ rfl
  split
  · exact Coupled.bind (Coupled.tell _ _ _ _) fun _ _ _ => Coupled.done rfl
  · refine Coupled.bind (Coupled.lift _) ?_
    rintro head _ rfl
    refine Coupled.bind (h.expect _ _) fun _ _ _ => Coupled.bind (h.trustHead _) ?_
    rintro trusted _ rfl
    split <;> exact Coupled.done rfl

theorem finish (head : Frame.Head) (timeout : Duration) :
    Joined R excused Eq (Link.finish head timeout) (Link.finish head timeout) := by
  refine Coupled.bind (Coupled.lift _) ?_
  rintro len _ rfl
  refine Coupled.bind (h.readExactly _ _) ?_
  rintro body _ rfl
  refine Coupled.bind (h.readExactly _ _) ?_
  rintro one _ rfl
  refine Coupled.bind (Coupled.lift _) ?_
  rintro check _ rfl
  refine Coupled.bind (h.judgeChecksum _ _ _) fun p q hpq => Coupled.bind (h.receive _ _) ?_
  rintro got _ rfl
  refine Coupled.bind (h.judgePostamble got p q hpq) fun p' q' hpq' => Coupled.bind (h.send _) fun _ _ _ => ?_
  refine Coupled.bind (h.enter _) fun _ _ _ => Coupled.bind (Coupled.tell _ _ _ _) fun _ _ _ => ?_
  exact h.raise body p' q' hpq'

/-- The handshakes end alike. -/
theorem handshake (frame : Bytes) (timeout : Duration) :
    Joined R excused Eq (Link.handshake frame timeout) (Link.handshake frame timeout) := by
  refine Coupled.bind (h.sendAndAwaitAck _ _) ?_
  rintro came _ rfl
  split
  · refine Coupled.bind (h.awaitHead _) ?_
    rintro (_ | head) _ rfl
    · exact Coupled.done rfl
    · refine Coupled.bind (h.finish _ _) ?_
      rintro body _ rfl
      exact Coupled.done rfl
  · exact Coupled.done rfl

/-- So do the exchanges. -/
theorem exchange (frame : Bytes) (timeout : Duration) :
    Joined R excused Eq (Link.exchange frame timeout) (Link.exchange frame timeout) := by
  intro l l' hl
  have halike := h.handshake frame timeout l l' hl
  obtain ⟨hr, hs⟩ := ends_exchange (show (Link.handshake frame timeout).Ends l _ _ from ⟨rfl, rfl⟩)
  obtain ⟨hr', hs'⟩ := ends_exchange (show (Link.handshake frame timeout).Ends l' _ _ from ⟨rfl, rfl⟩)
  -- the way back to idle does the same to related links
  unfold Outcome.Alike at halike ⊢
  rw [hr, hr', hs, hs']
  split at halike
  · exact ⟨halike.1, h.stage _ _ _ halike.2⟩
  · exact halike.imp id fun halike => ⟨halike.1, h.stage _ _ _ halike.2⟩
  · exact halike
  · exact halike

end Abreast

/-! ## Links that are equally strict -/

section Equal

variable {R : Link σ → Link τ → Prop} (hstrict : ∀ l l', R l l' → l.strictness = l'.strictness)
include hstrict

/-- Equally strict links judge alike. -/
theorem abreast_of_strictness (hstage : ∀ l l' next, R l l' → R { l with stage := next } { l' with stage := next })
    (hsend : ∀ bytes, Joined R (fun _ => False) Eq (onChannel (Channel.send bytes)) (onChannel (Channel.send bytes)))
    (hreceive : ∀ len timeout,
      Joined R (fun _ => False) Eq (onChannel (Channel.receive len timeout)) (onChannel (Channel.receive len timeout))) :
    Abreast R (fun _ => False) Eq := by
  have hlook : Joined R (fun _ => False) Eq (look isStrict) (look isStrict) := by
    refine Coupled.look fun l l' hl => ?_
    rw [isStrict, isStrict, hstrict l l' hl]
  have htell {α : Type} (event : Event) (v : α) :
      Joined R (fun _ => False) Eq (do tell event; return v) (do tell event; return v) :=
    (Coupled.tell _ _ _ _).bind fun _ _ _ => Coupled.done rfl
  refine ⟨hstage, hsend, hreceive, ?expect, ?trustHead, ?judgeChecksum, ?judgePostamble, ?raise⟩
  case expect =>
    intro well otherwise
    unfold Link.expect
    split
    · exact Coupled.done rfl
    · refine hlook.bind ?_
      rintro strict _ rfl
      split
      · exact Coupled.fail _
      · exact Coupled.tell _ _ _ _
  case trustHead =>
    intro head
    refine hlook.bind ?_
    rintro strict _ rfl
    split
    · split
      · exact Coupled.fail _
      · exact htell _ _
    · split
      · split
        · exact Coupled.fail _
        · exact htell _ _
      · exact Coupled.done rfl
  case judgeChecksum =>
    intro head body check
    unfold Link.judgeChecksum
    split
    · exact Coupled.done rfl
    · refine hlook.bind ?_
      rintro strict _ rfl
      split
      · exact Coupled.done rfl
      · exact htell _ _
  case judgePostamble =>
    rintro got p _ rfl
    unfold Link.judgePostamble
    split
    · exact Coupled.done rfl
    · refine hlook.bind ?_
      rintro strict _ rfl
      split
      · exact Coupled.done rfl
      · exact htell _ _
  case raise =>
    rintro body p _ rfl
    cases p with
    | some fault => exact Coupled.fail fault
    | none => exact Coupled.done rfl

end Equal

end NfcHost.Link
