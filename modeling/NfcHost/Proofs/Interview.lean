import NfcHost.Proofs.Calls
import NfcHost.Proofs.Reading

/-!
# Operations that ask step by step

Some operations of a driver are a row of steps, each a call of the channel or an exchange, and go on from one step to the next
only as long as they are satisfied with what came of it. `Interview` says that of a link without the operation: the steps are
taken in order, up to the first whose reply is refused. The rules for actions below find the interview in an operation:
`Past` holds behind the steps that were accepted, `Refused` where one was not. Over a tapped channel an interview makes the
calls of its steps and no others (`Heard.deeds`).
-/

namespace NfcHost

variable {σ : Type}

/-- A move of the host. -/
inductive Move where
  | flush
  | resetInput
  | write (bytes : Bytes)
  | exchange (frame : Bytes) (timeout : Duration)

/-- How a move ends: with what came in, with silence, or with the fault of a channel or a link. Nothing comes in of a move that
is no exchange. -/
abbrev Reply := Except Fault (Option Bytes)

namespace Move

/-- Makes a move. -/
def act [Channel σ] : Move → Act (Link σ) (Option Bytes)
  | flush => do
    Link.onChannel Channel.flush
    return none
  | resetInput => do
    Link.onChannel Channel.resetInput
    return none
  | write bytes => do
    Link.onChannel (Channel.send bytes)
    return none
  | exchange frame timeout => Link.exchange frame timeout

/-- The call that a move begins with. -/
def call : Move → Call
  | flush => .flush
  | resetInput => .resetInput
  | write bytes => .send bytes
  | exchange frame _ => .send frame

end Move

/-- A step of an operation: a move, and the judgement of what came in. A fault of the judgement ends the operation. -/
structure Step where
  /-- What the host does. -/
  move : Move
  /-- What the operation makes of what came in. -/
  judge : Option Bytes → Except Fault Unit

/-! ## Moves and steps one after the other -/

/-- The moves are made one after the other, and end as the replies say. -/
inductive Heard [Channel σ] : List Move → Link σ → List Reply → Link σ → Prop where
  | nil (l : Link σ) : Heard [] l [] l
  | cons {move : Move} {moves : List Move} {l l' l'' : Link σ} {r : Reply} {rs : List Reply} :
    move.act.Ends l r l' → Heard moves l' rs l'' → Heard (move :: moves) l (r :: rs) l''

/-- The steps are taken one after the other, with these replies, up to the first that ends in a fault or is judged so. -/
inductive Interview [Channel σ] : List Step → Link σ → List Reply → Except Fault Unit → Link σ → Prop where
  | finished (l : Link σ) : Interview [] l [] (.ok ()) l
  | refused {step : Step} {steps : List Step} {l l' : Link σ} {r : Reply} {fault : Fault} : step.move.act.Ends l r l' →
    r >>= step.judge = .error fault → Interview (step :: steps) l [r] (.error fault) l'
  | accepted {step : Step} {steps : List Step} {l l' l'' : Link σ} {r : Reply} {rs : List Reply} {e : Except Fault Unit} :
    step.move.act.Ends l r l' → r >>= step.judge = .ok () → Interview steps l' rs e l'' →
    Interview (step :: steps) l (r :: rs) e l''

namespace Interview

variable [Channel σ] {steps : List Step} {l l' : Link σ} {rs : List Reply} {e : Except Fault Unit}

/-- Behind steps that were accepted, further steps are taken. -/
theorem append {more : List Step} {l'' : Link σ} {rs' : List Reply} (h : Interview steps l rs (.ok ()) l')
    (h' : Interview more l' rs' e l'') : Interview (steps ++ more) l (rs ++ rs') e l'' := by
  generalize hok : (.ok () : Except Fault Unit) = ended at h
  induction h with
  | finished => exact h'
  | refused => nomatch hok
  | accepted hends hjudge _ ih => exact .accepted hends hjudge (ih h' hok)

/-- The moves of the steps that were taken. -/
theorem heard (h : Interview steps l rs e l') : Heard ((steps.map Step.move).take rs.length) l rs l' := by
  induction h with
  | finished l => exact .nil l
  | refused hends _ => exact .cons hends (.nil _)
  | accepted hends _ _ ih => exact .cons hends ih

/-- Every step behind which another one was taken was accepted. -/
theorem passed {k : Nat} (h : Interview steps l rs e l') (hk : k + 1 < rs.length) :
    ∃ step r, steps[k]? = some step ∧ rs[k]? = some r ∧ r >>= step.judge = .ok () := by
  induction h generalizing k with
  | finished => nomatch hk
  | refused => exact absurd hk (by simp)
  | @accepted step _ _ _ _ r _ _ _ hjudge _ ih =>
    cases k with
    | zero => exact ⟨step, r, rfl, rfl, hjudge⟩
    | succ k => exact ih (Nat.lt_of_succ_lt_succ hk)

/-- Where a step was refused, it was the last one taken. -/
theorem last_refused {fault : Fault} (h : Interview steps l rs (.error fault) l') :
    ∃ k step r, rs.length = k + 1 ∧ steps[k]? = some step ∧ rs[k]? = some r ∧ r >>= step.judge = .error fault := by
  generalize herror : (.error fault : Except Fault Unit) = ended at h
  induction h with
  | finished => nomatch herror
  | refused _ hjudge =>
    obtain rfl := Except.error.inj herror
    exact ⟨0, _, _, rfl, rfl, rfl, hjudge⟩
  | accepted _ _ _ ih =>
    obtain ⟨k, step, r, hlength, hstep, hr, hjudge⟩ := ih herror
    exact ⟨k + 1, step, r, congrArg (· + 1) hlength, hstep, hr, hjudge⟩

/-- Steps whose moves are made with replies that are all judged well are accepted. -/
theorem of_heard (h : Heard (steps.map Step.move) l rs l') (hjudges : ∀ p ∈ steps.zip rs, p.2 >>= p.1.judge = .ok ()) :
    Interview steps l rs (.ok ()) l' := by
  induction steps generalizing l rs with
  | nil =>
    cases h
    exact .finished _
  | cons step steps ih =>
    cases h with
    | cons hends hrest =>
      obtain ⟨hjudge, hjudges⟩ := List.forall_mem_cons.1 hjudges
      exact .accepted hends hjudge (ih hrest hjudges)

/-- Steps from one link are taken in one way only. -/
theorem unique {rs' : List Reply} {e' : Except Fault Unit} {l'' : Link σ} (h : Interview steps l rs e l')
    (h' : Interview steps l rs' e' l'') : rs = rs' ∧ e = e' ∧ l' = l'' := by
  induction h generalizing rs' with
  | finished =>
    cases h'
    exact ⟨rfl, rfl, rfl⟩
  | refused hends hjudge =>
    cases h' with
    | refused hends' hjudge' =>
      obtain rfl := hends.1.symm.trans hends'.1
      exact ⟨rfl, hjudge.symm.trans hjudge', hends.2.symm.trans hends'.2⟩
    | accepted hends' hjudge' _ =>
      obtain rfl := hends.1.symm.trans hends'.1
      nomatch hjudge.symm.trans hjudge'
  | accepted hends hjudge _ ih =>
    cases h' with
    | refused hends' hjudge' =>
      obtain rfl := hends.1.symm.trans hends'.1
      nomatch hjudge.symm.trans hjudge'
    | accepted hends' _ hrest =>
      obtain rfl := hends.1.symm.trans hends'.1
      obtain rfl := hends.2.symm.trans hends'.2
      obtain ⟨rfl, he, hl⟩ := ih hrest
      exact ⟨rfl, he, hl⟩

end Interview

/-! ## What the host does over a tapped channel -/

/-- The call is neither a read nor an acknowledgement. -/
def Call.isDeed : Call → Bool
  | .receive .. => false
  | .send bytes => bytes != Frame.ack
  | _ => true

/-- The calls by which the host did something, in order. -/
def deeds (made : List (Call × Bool)) : List Call := (made.map Prod.fst).filter Call.isDeed

theorem deeds_append (first second : List (Call × Bool)) : deeds (first ++ second) = deeds first ++ deeds second := by
  rw [deeds, List.map_append, List.filter_append]
  rfl

/-- A frame is no acknowledgement. -/
theorem Frame.wire_ne_ack (frame : Frame) : frame.wire ≠ Frame.ack := by
  intro h
  have hlength := congrArg List.length h
  rw [Frame.length_wire, show Frame.ack.length = Frame.headLength from rfl] at hlength
  omega

@[simp] theorem Call.isDeed_wire (frame : Frame) : (Call.send frame.wire).isDeed = true := bne_iff_ne.2 frame.wire_ne_ack

@[simp] theorem Call.isDeed_withWakeUp (bytes : Bytes) : (Call.send (Link.withWakeUp bytes)).isDeed = true := by
  refine bne_iff_ne.2 fun h => ?_
  have hlength := congrArg List.length h
  rw [Link.withWakeUp, List.length_append, List.length_replicate] at hlength
  have hack : Frame.ack.length < Link.wakeUpZeros := by decide
  omega

/-- An exchange does one thing. -/
theorem ExchangeCalls.deeds {frame : Bytes} {timeout : Duration} {made : List (Call × Bool)}
    (h : ExchangeCalls frame timeout made) (hframe : (Call.send frame).isDeed = true) : deeds made = [.send frame] := by
  obtain ⟨failed, rest, rfl, hrest⟩ := h
  have hnone : NfcHost.deeds rest = [] := by
    refine List.filter_eq_nil_iff.2 fun call hmem => ?_
    obtain ⟨entry, hentry, rfl⟩ := List.mem_map.1 hmem
    rcases hrest entry hentry with hack | ⟨len, hreceive⟩
    · rw [hack]
      decide
    · rw [hreceive]
      exact Bool.false_ne_true
  exact (List.filter_cons_of_pos hframe).trans (congrArg _ hnone)

section Deeds

variable [Channel σ]

/-- A move does one thing. -/
theorem Move.deeds_act {move : Move} (hmove : move.call.isDeed = true) (l : Link (Tapped σ)) :
    ∃ made, (move.act.run l).state.channel.calls = l.channel.calls ++ made ∧ deeds made = [move.call] := by
  have hcall {α : Type} {call : Call} (hdeed : call.isDeed = true) (onward : Act σ α) (f : α → Option Bytes) :
      ∃ made, ((Link.onChannel (Tapped.pass call onward) >>= fun v => pure (f v)).run l).state.channel.calls =
        l.channel.calls ++ made ∧ deeds made = [call] := by
    obtain ⟨failed, hpass⟩ := Tapped.calls_pass call onward l.channel
    rw [Act.state_bind_done]
    exact ⟨_, hpass, List.filter_cons_of_pos hdeed⟩
  cases move with
  | flush => exact hcall hmove _ fun _ => none
  | resetInput => exact hcall hmove _ fun _ => none
  | write bytes => exact hcall hmove _ fun _ => none
  | exchange frame timeout =>
    obtain ⟨made, hcalls, hmade⟩ := Link.called_exchange frame timeout l
    exact ⟨made, hcalls, hmade.deeds hmove⟩

/-- Moves one after the other do one thing each, in their order. -/
theorem Heard.deeds {moves : List Move} {l l' : Link (Tapped σ)} {rs : List Reply} (h : Heard moves l rs l')
    (hmoves : ∀ move ∈ moves, move.call.isDeed = true) :
    ∃ made, l'.channel.calls = l.channel.calls ++ made ∧ deeds made = moves.map Move.call := by
  induction h with
  | nil l => exact ⟨[], (List.append_nil _).symm, rfl⟩
  | @cons move moves l m l' r rs hends _ ih =>
    obtain ⟨first, hfirst, hdeed⟩ := Move.deeds_act (hmoves move List.mem_cons_self) l
    obtain ⟨rest, hrest, hdeeds⟩ := ih fun next hmem => hmoves next (List.mem_cons_of_mem _ hmem)
    rw [hends.2] at hfirst
    refine ⟨first ++ rest, ?_, ?_⟩
    · rw [hrest, hfirst, List.append_assoc]
    · rw [deeds_append, hdeed, hdeeds]
      rfl

end Deeds

/-! ## Interviews in operations -/

namespace Driver

open Act

variable {phase : Phase} {α : Type} [Channel σ] {l : Link σ} {front : List Step} {rs : List Reply} {e d : Driver phase σ}

/-- The steps were taken from a link, and accepted; but for the link, the driver is `e`. -/
structure Past (l : Link σ) (front : List Step) (rs : List Reply) (e d : Driver phase σ) : Prop where
  heard : Interview front l rs (.ok ()) d.link
  kept : d = { e with link := d.link }

/-- Behind accepted steps a move was made that is not judged yet. -/
structure Asked (l : Link σ) (front : List Step) (rs : List Reply) (move : Move) (r : Reply) (e d : Driver phase σ) :
    Prop where
  heard : ∃ m, Interview front l rs (.ok ()) m ∧ move.act.Ends m r d.link
  kept : d = { e with link := d.link }

/-- The steps were taken from a link up to one that was refused. -/
def Refused (l : Link σ) (steps : List Step) (fault : Fault) (d : Driver phase σ) : Prop :=
  ∃ rs, Interview steps l rs (.error fault) d.link

theorem Past.start (d : Driver phase σ) : Past d.link [] [] d d := ⟨.finished _, rfl⟩

theorem Past.settings (h : Past l front rs e d) : d.settings = e.settings := by
  rw [h.kept]

theorem Past.noting {e d : Driver .ready σ} (h : Past l front rs e d) (pairs : List Setting) :
    Past l front rs (e.noting pairs) (d.noting pairs) := by
  refine ⟨h.heard, ?_⟩
  rw [h.kept]
  rfl

theorem Past.notingItem (h : Past l front rs e d) (item : RfItem) (value : Bytes) :
    Past l front rs (e.notingItem item value) (d.notingItem item value) := by
  refine ⟨h.heard, ?_⟩
  rw [h.kept]
  rfl

theorem Asked.accepted {step : Step} {r : Reply} (h : Asked l front rs step.move r e d) (hjudge : r >>= step.judge = .ok ()) :
    Past l (front ++ [step]) (rs ++ [r]) e d := by
  obtain ⟨⟨m, hpast, hends⟩, hkept⟩ := h
  exact ⟨hpast.append (.accepted hends hjudge (.finished _)), hkept⟩

theorem Asked.refused {step : Step} {r : Reply} {fault : Fault} (h : Asked l front rs step.move r e d)
    (hjudge : r >>= step.judge = .error fault) (back : List Step) : Refused l (front ++ step :: back) fault d := by
  obtain ⟨⟨m, hpast, hends⟩, -⟩ := h
  exact ⟨_, hpast.append (.refused hends hjudge)⟩

/-- An action that makes a move and reads what came in. -/
theorem meets_asked {a : Act (Driver phase σ) α} (move : Move) (read : Option Bytes → Except Fault α)
    (ha : ∀ d r m, move.act.Ends d.link r m → a.Ends d (r >>= read) { d with link := m }) :
    a.Meets (Past l front rs e) (fun v d => ∃ r, r >>= read = .ok v ∧ Asked l front rs move r e d)
      fun fault d => ∃ r, r >>= read = .error fault ∧ Asked l front rs move r e d := by
  intro d hd
  have hmove := Ends.of_run move.act d.link
  have hends := ha d _ _ hmove
  have hasked : Asked l front rs move (move.act.run d.link).result e { d with link := (move.act.run d.link).state } := by
    refine ⟨⟨d.link, hd.heard, hmove⟩, ?_⟩
    rw [hd.kept]
  rcases hread : (move.act.run d.link).result >>= read with fault | v
  · rw [hread] at hends
    exact hends.meets_error ⟨_, hread, hasked⟩
  · rw [hread] at hends
    exact hends.meets_ok ⟨_, hread, hasked⟩

/-- Looking at the settings. -/
theorem meets_setting_past {β : Type} (f : Settings → β) (bad : Fault → Driver phase σ → Prop) :
    (setting f : Act (Driver phase σ) β).Meets (Past l front rs e) (fun v d => v = f e.settings ∧ Past l front rs e d) bad :=
  fun _ hd => ⟨congrArg f hd.settings, hd⟩

/-! ### Commands -/

/-- What is made of the reply to a command that is executed: it must be there and begin with the response code. -/
def executed (command : Command) (reply : Option Bytes) : Except Fault Bytes := do
  stripCode command (← answered command reply)

/-- The judgement of a command that is executed. -/
def echoed (command : Command) (reply : Option Bytes) : Except Fault Unit := do
  let _ ← executed command reply
  return ()

/-- A command that is executed. -/
def commandStep (command : Command) (args : Bytes) (timeout : Duration) : Step :=
  ⟨.exchange (Frame.command command.code args).wire timeout, echoed command⟩

/-- A command that is executed and also wakes the controller. -/
def wakingStep (command : Command) (args : Bytes) (timeout : Duration) : Step :=
  ⟨.exchange (Link.withWakeUp (Frame.command command.code args).wire) timeout, echoed command⟩

/-- A reply loses its response code if it begins with it. -/
theorem stripCode_cons (command : Command) (code : UInt8) (payload : Bytes) :
    stripCode command (code :: payload) =
      if code = command.responseCode then .ok payload else .error (.unexpectedResponse command.responseCode code) := by
  split
  · rename_i hcode
    rw [hcode]
    exact stripCode_reply command payload
  · rename_i hcode
    simp only [stripCode, Bytes.expectCode, Bytes.byte_cons_zero, bind, Except.bind, ne_eq, hcode, not_false_eq_true, if_true]

/-- An executed command ends in what stands behind the response code. -/
theorem executed_eq_ok_iff {command : Command} {r : Reply} {payload : Bytes} :
    r >>= executed command = .ok payload ↔ r = .ok (some (command.responseCode :: payload)) := by
  constructor
  · intro h
    obtain ⟨reply?, rfl, hread⟩ := ok_of_bind h
    obtain ⟨reply, hanswered, hstrip⟩ := ok_of_bind hread
    cases reply? with
    | none => nomatch hanswered
    | some body =>
      obtain rfl := Except.ok.inj hanswered
      cases body with
      | nil => nomatch hstrip
      | cons code rest =>
        rw [stripCode_cons] at hstrip
        split at hstrip
        · rename_i hcode
          rw [hcode, Except.ok.inj hstrip]
        · nomatch hstrip
  · rintro rfl
    exact stripCode_reply command payload

/-- How the execution of a command fails: with the fault of the link, in silence, or with a reply that does not begin with the
response code. -/
theorem fault_executed {command : Command} {r : Reply} {fault : Fault}
    (h : r >>= executed command = .error fault) :
    r = .error fault ∨ (r = .ok none ∧ fault = .noResponse command.code) ∨
      (r = .ok (some []) ∧ fault = .invalidLength 1 0) ∨
      ∃ code payload, r = .ok (some (code :: payload)) ∧ code ≠ command.responseCode ∧
        fault = .unexpectedResponse command.responseCode code := by
  rcases r with first | _ | _ | ⟨code, payload⟩
  · exact Or.inl (congrArg _ (Except.error.inj h))
  · exact Or.inr (Or.inl ⟨rfl, (Except.error.inj h).symm⟩)
  · exact Or.inr (Or.inr (Or.inl ⟨rfl, (Except.error.inj h).symm⟩))
  · have hstrip : stripCode command (code :: payload) = .error fault := h
    rw [stripCode_cons] at hstrip
    split at hstrip
    · nomatch hstrip
    · rename_i hcode
      exact Or.inr (Or.inr (Or.inr ⟨code, payload, rfl, hcode, (Except.error.inj hstrip).symm⟩))

/-- What is read of a reply is judged as it is read. -/
theorem judge_of_read {β : Type} {read : Option Bytes → Except Fault β} {r : Reply} {ended : Except Fault β}
    (h : r >>= read = ended) :
    (r >>= fun reply => do
      let _ ← read reply
      return ()) = ended.map fun _ => () := by
  subst h
  cases r with
  | error fault => rfl
  | ok reply => cases hread : read reply <;> simp [hread, bind, Except.bind, Except.map, pure, Except.pure]

/-- An action that executes a command is a step, and is accepted with the reply that it ends in. -/
theorem meets_executed_past {a : Act (Driver phase σ) Bytes} {move : Move} {command : Command}
    (ha : ∀ d r m, move.act.Ends d.link r m → a.Ends d (r >>= executed command) { d with link := m }) (back : List Step) :
    a.Meets (Past l front rs e)
      (fun payload => Past l (front ++ [⟨move, echoed command⟩]) (rs ++ [.ok (some (command.responseCode :: payload))]) e)
      (Refused l (front ++ ⟨move, echoed command⟩ :: back)) := by
  refine (meets_asked move (executed command) ha).weaken ?_ ?_
  · rintro payload d ⟨r, hread, hasked⟩
    have hpast : Past l (front ++ [⟨move, echoed command⟩]) (rs ++ [r]) e d := Asked.accepted hasked (judge_of_read hread)
    rwa [executed_eq_ok_iff.1 hread] at hpast
  · rintro fault d ⟨r, hread, hasked⟩
    exact Asked.refused hasked (judge_of_read hread) back

/-- A command is executed as its exchange ends. -/
theorem ends_execute_executed {command : Command} {args : Bytes} {timeout : Duration} (hl : args.length < Frame.maxBody)
    {d : Driver phase σ} {r : Reply} {m : Link σ} (hends : (commandStep command args timeout).move.act.Ends d.link r m) :
    (execute command args timeout).Ends d (r >>= executed command) { d with link := m } := by
  have hread := ends_execute_sendCommand (ends_sendCommand_exchange hl hends)
  rwa [bind_assoc] at hread

theorem meets_execute_past {command : Command} {args : Bytes} (timeout : Duration) (hl : args.length < Frame.maxBody)
    (back : List Step) :
    (execute command args timeout).Meets (Past l front rs e)
      (fun payload => Past l (front ++ [commandStep command args timeout])
        (rs ++ [.ok (some (command.responseCode :: payload))]) e)
      (Refused l (front ++ commandStep command args timeout :: back)) :=
  meets_executed_past (fun _ _ _ => ends_execute_executed hl) back

/-- A waking command is executed as its exchange ends. -/
theorem ends_executeWaking_executed {command : Command} {args : Bytes} {timeout : Duration} (hl : args.length < Frame.maxBody)
    {d : Driver phase σ} {r : Reply} {m : Link σ} (hends : (wakingStep command args timeout).move.act.Ends d.link r m) :
    (executeWaking command args timeout).Ends d (r >>= executed command) { d with link := m } := by
  have hread := (ends_sendWaking_exchange hl hends).bind_lift (stripCode command)
  rwa [bind_assoc] at hread

theorem meets_executeWaking_past {command : Command} {args : Bytes} (timeout : Duration) (hl : args.length < Frame.maxBody)
    (back : List Step) :
    (executeWaking command args timeout).Meets (Past l front rs e)
      (fun payload => Past l (front ++ [wakingStep command args timeout])
        (rs ++ [.ok (some (command.responseCode :: payload))]) e)
      (Refused l (front ++ wakingStep command args timeout :: back)) :=
  meets_executed_past (fun _ _ _ => ends_executeWaking_executed hl) back

/-- What the link takes of an interview is taken of it in an operation. -/
theorem meets_onLink_past {a : Act (Link σ) α} {more steps : List Step} {answers : List Reply}
    (ha : a.Meets (fun m => Interview front l rs (.ok ()) m) (fun _ m => Interview more l answers (.ok ()) m)
      fun fault m => ∃ rs', Interview steps l rs' (.error fault) m) :
    (onLink a : Act (Driver phase σ) α).Meets (Past l front rs e) (fun _ => Past l more answers e) (Refused l steps) := by
  intro d hd
  have hkept (m : Link σ) : ({ d with link := m } : Driver phase σ) = { e with link := m } := by
    rw [hd.kept]
  rcases hresult : (a.run d.link).result with fault | v
  · exact Ends.meets_error (Ends.onPart ⟨hresult, rfl⟩) (ha.of_error hd.heard hresult)
  · exact Ends.meets_ok (Ends.onPart ⟨hresult, rfl⟩) ⟨ha.of_ok hd.heard hresult, hkept _⟩

end Driver

end NfcHost
