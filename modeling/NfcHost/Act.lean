import NfcHost.Fault
import NfcHost.Log

/-!
# Actions

An action runs on a state: it ends in a value or a fault, leaves a state in either case, and tells what happened on the way.
A fault ends the action that meets it; what was done and told before it stands. The statements below give the outcome of
each way to build an action.
-/

namespace NfcHost

/-- What an action leaves behind. -/
structure Outcome (σ α : Type) where
  /-- The value, or the fault that ended the action. -/
  result : Except Fault α
  /-- The state afterwards. -/
  state : σ
  /-- What happened, oldest first. -/
  log : List Record

namespace Outcome

variable {σ α β : Type}

/-- The outcome with something told before it. -/
def after (told : List Record) (o : Outcome σ α) : Outcome σ α := { o with log := told ++ o.log }

/-- Goes on from a value and the state left; a fault ends it here. -/
def andThen (o : Outcome σ α) (next : α → σ → Outcome σ β) : Outcome σ β :=
  match o with
  | ⟨.ok value, s, told⟩ => (next value s).after told
  | ⟨.error fault, s, told⟩ => ⟨.error fault, s, told⟩

@[simp] theorem andThen_ok (value : α) (s : σ) (told : List Record) (next : α → σ → Outcome σ β) :
    andThen ⟨.ok value, s, told⟩ next = (next value s).after told := rfl

@[simp] theorem andThen_error (fault : Fault) (s : σ) (told : List Record) (next : α → σ → Outcome σ β) :
    andThen ⟨.error fault, s, told⟩ next = ⟨.error fault, s, told⟩ := rfl

@[simp] theorem after_mk (told : List Record) (r : Except Fault α) (s : σ) (log : List Record) :
    after told ⟨r, s, log⟩ = ⟨r, s, told ++ log⟩ := rfl

@[simp] theorem after_nil (o : Outcome σ α) : o.after [] = o := rfl

@[simp] theorem after_after (first second : List Record) (o : Outcome σ α) :
    (o.after second).after first = o.after (first ++ second) := by
  simp [after]

@[simp] theorem after_result (told : List Record) (o : Outcome σ α) : (o.after told).result = o.result := rfl

@[simp] theorem after_state (told : List Record) (o : Outcome σ α) : (o.after told).state = o.state := rfl

@[simp] theorem after_log (told : List Record) (o : Outcome σ α) : (o.after told).log = told ++ o.log := rfl

/-- What was told before an outcome stays before what follows it. -/
@[simp] theorem after_andThen (told : List Record) (o : Outcome σ α) (next : α → σ → Outcome σ β) :
    (o.after told).andThen next = (o.andThen next).after told := by
  rcases o with ⟨_ | value, s, log⟩
  · rfl
  · simp

/-- How continuations are grouped does not matter. -/
theorem andThen_assoc {γ : Type} (o : Outcome σ α) (f : α → σ → Outcome σ β) (g : β → σ → Outcome σ γ) :
    (o.andThen f).andThen g = o.andThen fun value s => (f value s).andThen g := by
  rcases o with ⟨_ | value, s, log⟩
  · rfl
  · simp

end Outcome

/-- An action on a state of type `σ` that ends in a value of type `α`. -/
def Act (σ α : Type) : Type := σ → Outcome σ α

namespace Act

variable {σ τ α β : Type}

/-- Runs an action. -/
def run (a : Act σ α) (s : σ) : Outcome σ α := a s

/-- Actions that have the same outcome from every state are the same. -/
theorem ext_run {a b : Act σ α} (h : ∀ s, a.run s = b.run s) : a = b := funext h

/-- Ends in a value and does nothing else. -/
def done (value : α) : Act σ α := fun s => ⟨.ok value, s, []⟩

/-- Ends in a fault and does nothing else. -/
def fail (fault : Fault) : Act σ α := fun s => ⟨.error fault, s, []⟩

/-- Runs an action and, if it ends in a value, the action that follows from the value. -/
def andThen (a : Act σ α) (f : α → Act σ β) : Act σ β := fun s => (a.run s).andThen fun value s' => (f value).run s'

instance : Monad (Act σ) where
  pure := done
  bind := andThen

/-- Ends as a computation without a state ended. -/
def ofExcept : Except Fault α → Act σ α
  | .ok value => done value
  | .error fault => fail fault

instance : MonadLift (Except Fault) (Act σ) := ⟨ofExcept⟩

/-- Ends in something read off the state. -/
def look (f : σ → α) : Act σ α := fun s => ⟨.ok (f s), s, []⟩

/-- Changes the state. -/
def change (f : σ → σ) : Act σ Unit := fun s => ⟨.ok (), f s, []⟩

/-- Tells of an event under a label read off the state. -/
def tell (label : σ → String) (event : Event) : Act σ Unit := fun s => ⟨.ok (), s, [⟨label s, event⟩]⟩

/-- Tells of an event if there is cause to. -/
def tellIf (cause : Bool) (label : σ → String) (event : Event) : Act σ Unit := if cause then tell label event else done ()

/-- Runs an action to its end and hands over how it ended, so that a fault does not end what follows. -/
def attempt (a : Act σ α) : Act σ (Except Fault α) := fun s => ⟨.ok (a.run s).result, (a.run s).state, (a.run s).log⟩

/-- Runs an action on a part of the state. -/
def onPart (part : τ → σ) (replace : τ → σ → τ) (a : Act σ α) : Act τ α := fun t =>
  ⟨(a.run (part t)).result, replace t (a.run (part t)).state, (a.run (part t)).log⟩

/-! ## Outcomes -/

@[simp] theorem run_pure (value : α) (s : σ) : (pure value : Act σ α).run s = ⟨.ok value, s, []⟩ := rfl

@[simp] theorem run_fail (fault : Fault) (s : σ) : (fail fault : Act σ α).run s = ⟨.error fault, s, []⟩ := rfl

@[simp] theorem run_bind (a : Act σ α) (f : α → Act σ β) (s : σ) :
    (a >>= f).run s = (a.run s).andThen fun value s' => (f value).run s' := rfl

@[simp] theorem run_map (f : α → β) (a : Act σ α) (s : σ) :
    (f <$> a).run s = (a.run s).andThen fun value s' => ⟨.ok (f value), s', []⟩ := rfl

@[simp] theorem run_ofExcept (r : Except Fault α) (s : σ) : (ofExcept r).run s = ⟨r, s, []⟩ := by
  cases r <;> rfl

@[simp] theorem run_lift (r : Except Fault α) (s : σ) : (liftM r : Act σ α).run s = ⟨r, s, []⟩ := run_ofExcept r s

@[simp] theorem run_look (f : σ → α) (s : σ) : (look f).run s = ⟨.ok (f s), s, []⟩ := rfl

@[simp] theorem run_change (f : σ → σ) (s : σ) : (change f).run s = ⟨.ok (), f s, []⟩ := rfl

@[simp] theorem run_tell (label : σ → String) (event : Event) (s : σ) :
    (tell label event).run s = ⟨.ok (), s, [⟨label s, event⟩]⟩ := rfl

@[simp] theorem run_tellIf (cause : Bool) (label : σ → String) (event : Event) (s : σ) :
    (tellIf cause label event).run s = ⟨.ok (), s, if cause then [⟨label s, event⟩] else []⟩ := by
  cases cause <;> rfl

@[simp] theorem run_attempt (a : Act σ α) (s : σ) :
    a.attempt.run s = ⟨.ok (a.run s).result, (a.run s).state, (a.run s).log⟩ := rfl

@[simp] theorem run_onPart (part : τ → σ) (replace : τ → σ → τ) (a : Act σ α) (t : τ) :
    (a.onPart part replace).run t = ⟨(a.run (part t)).result, replace t (a.run (part t)).state, (a.run (part t)).log⟩ := rfl

/-- An action whose value is handed on unchanged. -/
theorem map_id' (a : Act σ α) : id <$> a = a := by
  refine ext_run fun s => ?_
  rcases h : a.run s with ⟨_ | value, s', told⟩ <;> simp [h]

/-- Ending in a value hands it on. -/
theorem done_bind (value : α) (f : α → Act σ β) : pure value >>= f = f value := by
  refine ext_run fun s => ?_
  simp

/-- How actions that follow one another are grouped does not matter. -/
theorem bind_assoc' {γ : Type} (a : Act σ α) (f : α → Act σ β) (g : β → Act σ γ) :
    a >>= f >>= g = a >>= fun value => f value >>= g :=
  ext_run fun s => Outcome.andThen_assoc (a.run s) _ _

instance : LawfulMonad (Act σ) := LawfulMonad.mk' (Act σ) map_id' done_bind bind_assoc'

end Act

end NfcHost
