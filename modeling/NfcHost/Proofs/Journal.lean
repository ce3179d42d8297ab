import NfcHost.Log
import NfcHost.Proofs.Contract

/-!
# Contracts that see the log

What an action tells does not count in `Act.Meets`. An action can also be taken to act on a state that holds what was told so
far (`Act.journal`); a contract of that action (`Act.Recounts`) speaks of the log as well, and its rules are those of
`Act.Meets`. The changes of stage that a log tells of are what such contracts are about here.
-/

namespace NfcHost

variable {σ α β : Type}

namespace Act

/-- The action on a state that also holds what was told so far. -/
def journal (a : Act σ α) : Act (σ × List Record) α := fun s =>
  ⟨(a.run s.1).result, ((a.run s.1).state, s.2 ++ (a.run s.1).log), []⟩

@[simp] theorem run_journal (a : Act σ α) (s : σ × List Record) :
    a.journal.run s = ⟨(a.run s.1).result, ((a.run s.1).state, s.2 ++ (a.run s.1).log), []⟩ := rfl

/-- A contract of an action that speaks of the state and of what was told. -/
def Recounts (pre : σ × List Record → Prop) (a : Act σ α) (post : α → σ × List Record → Prop)
    (bad : Fault → σ × List Record → Prop) : Prop := a.journal.Meets pre post bad

namespace Recounts

variable {pre : σ × List Record → Prop} {post : α → σ × List Record → Prop} {bad : Fault → σ × List Record → Prop}

/-- What follows an action starts from what the action leaves and has told. -/
theorem bind {a : Act σ α} {f : α → Act σ β} {mid : α → σ × List Record → Prop} {post : β → σ × List Record → Prop}
    (ha : a.Recounts pre mid bad) (hf : ∀ v, (f v).Recounts (mid v) post bad) : (a >>= f).Recounts pre post bad := by
  have hjournal : (a >>= f).journal = a.journal >>= fun v => (f v).journal := by
    refine ext_run fun s => ?_
    rw [run_journal, run_bind, run_bind, run_journal]
    rcases a.run s.1 with ⟨_ | v, s', log⟩
    · rfl
    · simp
  unfold Recounts
  rw [hjournal]
  exact Meets.bind ha hf

/-- What does not speak of the state may be assumed outside of the contract. -/
theorem assume {a : Act σ α} {p : Prop} (h : p → a.Recounts pre post bad) : a.Recounts (fun s => p ∧ pre s) post bad :=
  Meets.assume h

theorem done {v : α} (h : ∀ s, pre s → post v s) : (pure v : Act σ α).Recounts pre post bad := by
  intro s hs
  show post v (s.1, s.2 ++ [])
  rw [List.append_nil]
  exact h s hs

theorem fail {fault : Fault} (h : ∀ s, pre s → bad fault s) : (Act.fail fault : Act σ α).Recounts pre post bad := by
  intro s hs
  show bad fault (s.1, s.2 ++ [])
  rw [List.append_nil]
  exact h s hs

theorem look {f : σ → α} (h : ∀ s, pre s → post (f s.1) s) : (Act.look f).Recounts pre post bad := by
  intro s hs
  show post (f s.1) (s.1, s.2 ++ [])
  rw [List.append_nil]
  exact h s hs

theorem lift {r : Except Fault α} (hok : ∀ v, r = .ok v → ∀ s, pre s → post v s)
    (hbad : ∀ fault, r = .error fault → ∀ s, pre s → bad fault s) : (liftM r : Act σ α).Recounts pre post bad := by
  cases r with
  | ok v => exact done (hok v rfl)
  | error fault => exact fail (hbad fault rfl)

/-- What is promised may be weakened. -/
theorem imp {a : Act σ α} {post' : α → σ × List Record → Prop} {bad' : Fault → σ × List Record → Prop}
    (h : a.Recounts pre post bad) (hpost : ∀ v s, post v s → post' v s) (hbad : ∀ fault s, bad fault s → bad' fault s) :
    a.Recounts pre post' bad' := by
  exact Meets.weaken h hpost hbad

end Recounts

end Act

/-! ## Stages as they are told -/

/-- The change of stage that an event tells of. -/
def Event.stageChange? : Event → Option (Stage × Stage)
  | .stageChange before after => some (before, after)
  | _ => none

/-- The changes of stage that a log tells of, oldest first. -/
def stageChanges (log : List Record) : List (Stage × Stage) := log.filterMap fun r => r.event.stageChange?

/-- The changes along a walk from a stage through others. -/
def changesAlong : Stage → List Stage → List (Stage × Stage)
  | _, [] => []
  | before, after :: rest => (before, after) :: changesAlong after rest

/-- One more stage is entered from the last one. -/
theorem changesAlong_append (start : Stage) (walk : List Stage) (next : Stage) :
    changesAlong start (walk ++ [next]) = changesAlong start walk ++ [(walk.getLastD start, next)] := by
  induction walk generalizing start with
  | nil => rfl
  | cons stage rest ih =>
    rw [List.cons_append, changesAlong, changesAlong, ih, List.getLastD_cons, List.cons_append]

/-- The stages that a walk enters. -/
theorem map_snd_changesAlong (start : Stage) (walk : List Stage) : (changesAlong start walk).map Prod.snd = walk := by
  induction walk generalizing start with
  | nil => rfl
  | cons stage rest ih => rw [changesAlong, List.map_cons, ih]

end NfcHost
