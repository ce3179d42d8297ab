import NfcHost.Channel

/-!
# A tapped channel

Puts a tap on a channel: every call is written down before it is passed on, and calls can be planned to fail. A call that
fails does not reach the channel behind the tap.
-/

namespace NfcHost

/-- The calls of a channel, without their arguments. -/
inductive CallKind where
  | send | receive | flush | resetInput | resetOutput
  deriving DecidableEq

namespace CallKind

/-- Every kind of call. -/
def all : List CallKind := [send, receive, flush, resetInput, resetOutput]

end CallKind

/-- A call with its arguments. -/
inductive Call where
  | send (bytes : Bytes)
  | receive (len : Nat) (timeout : Duration)
  | flush
  | resetInput
  | resetOutput
  deriving DecidableEq

/-- Which operation a call asks for. -/
def Call.kind : Call → CallKind
  | .send _ => .send
  | .receive .. => .receive
  | .flush => .flush
  | .resetInput => .resetInput
  | .resetOutput => .resetOutput

/-- A failure to come: after `after` more calls of the kind, the next one fails. -/
structure FailurePlan where
  /-- The kind of call that fails. -/
  kind : CallKind
  /-- How many calls of the kind still go through. -/
  after : Nat
  /-- The reason that the failure gives. -/
  reason : String
  deriving DecidableEq

namespace FailurePlan

/-- Meets the plans with a call: the first plan for its kind counts down, or comes true and is spent. Answers the reason if
the call is to fail, and the plans left. -/
def meet (kind : CallKind) : List FailurePlan → Option String × List FailurePlan
  | [] => (none, [])
  | p :: rest =>
    if p.kind = kind then
      if p.after = 0 then (some p.reason, rest) else (none, { p with after := p.after - 1 } :: rest)
    else ((meet kind rest).1, p :: (meet kind rest).2)

end FailurePlan

/-- A channel behind a tap. -/
structure Tapped (σ : Type) where
  /-- The channel behind the tap. -/
  inner : σ
  /-- What the tapped channel is called. -/
  name : String
  /-- The failures to come. -/
  plans : List FailurePlan := []
  /-- Every call made and whether it was made to fail, oldest first. -/
  calls : List (Call × Bool) := []

namespace Tapped

variable {σ α : Type}

/-- Writes a call down and either fails it as planned or passes it on. -/
def pass (call : Call) (onward : Act σ α) : Act (Tapped σ) α := fun t =>
  match FailurePlan.meet call.kind t.plans with
  | (some reason, plans) => ⟨.error (.channel reason), { t with plans, calls := t.calls ++ [(call, true)] }, []⟩
  | (none, plans) =>
    let o := onward t.inner
    ⟨o.result, { t with inner := o.state, plans, calls := t.calls ++ [(call, false)] }, o.log⟩

instance [Channel σ] : Channel (Tapped σ) where
  name t := t.name
  send bytes := pass (.send bytes) (Channel.send bytes)
  receive len timeout := pass (.receive len timeout) (Channel.receive len timeout)
  flush := pass .flush Channel.flush
  resetInput := pass .resetInput Channel.resetInput
  resetOutput := pass .resetOutput Channel.resetOutput

end Tapped

end NfcHost
