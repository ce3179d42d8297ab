import NfcHost.Driver.BringUp
import NfcHost.Proofs.Interview

/-!
# The course of a bring-up

A bring-up wakes the controller, asks it for its firmware, puts it in normal mode and, if the settings ask for that, sets the
retries of the activation commands to zero. It goes from one step to the next only if the one before was answered as it has to
be; the statements say so of any channel, with what it sends, what it leaves in the caches and how it fails
(`bringUp_course`).
-/

namespace NfcHost

open Act

variable {σ : Type} [Channel σ]

/-! ## Moves that nothing comes in of -/

/-- A step that ends well if its move does. -/
def quietStep (move : Move) : Step := ⟨move, fun _ => .ok ()⟩

namespace Link

variable {l : Link σ} {front : List Step} {rs : List Reply}

/-- An operation of a link that is a quiet step is accepted if it ends in a value. -/
theorem meets_quiet {move : Move} {a : Act (Link σ) Unit} (ha : move.act = (do a; return none)) (back : List Step) :
    a.Meets (fun m => Interview front l rs (.ok ()) m)
      (fun _ m => Interview (front ++ [quietStep move]) l (rs ++ [.ok none]) (.ok ()) m)
      fun fault m => ∃ rs', Interview (front ++ quietStep move :: back) l rs' (.error fault) m := by
  intro m hm
  rcases hresult : (a.run m).result with fault | _
  · have hends : move.act.Ends m (.error fault) (a.run m).state := by
      rw [ha]
      exact Ends.bind_error ⟨hresult, rfl⟩
    exact Ends.meets_error ⟨hresult, rfl⟩ ⟨_, hm.append (.refused hends rfl)⟩
  · have hends : move.act.Ends m (.ok none) (a.run m).state := by
      rw [ha]
      exact Ends.bind ⟨hresult, rfl⟩ (Ends.done _ _)
    exact Ends.meets_ok ⟨hresult, rfl⟩ (hm.append (.accepted hends rfl (.finished _)))

/-- The steps of waking the controller. -/
def wakingSteps : List Step :=
  [quietStep .flush, quietStep (.write (withWakeUp Frame.ack)), quietStep .resetInput]

/-- Waking the controller is these steps. -/
theorem meets_wakeUp (back : List Step) :
    (wakeUp : Act (Link σ) Unit).Meets (fun m => Interview [] l [] (.ok ()) m)
      (fun _ m => Interview wakingSteps l [.ok none, .ok none, .ok none] (.ok ()) m)
      fun fault m => ∃ rs, Interview (wakingSteps ++ back) l rs (.error fault) m :=
  (meets_quiet rfl _).bind fun _ => (meets_quiet rfl _).bind fun _ => meets_quiet rfl back

end Link

namespace Driver

/-! ## The firmware -/

/-- The reply to the firmware query that a bring-up goes on with. -/
structure Verified (reply : Bytes) : Prop where
  length : reply.length = 5
  code : reply[0]? = some 0x03
  chip : reply[1]? = some 0x32

/-- A reply matches exactly if a bring-up goes on with it. -/
theorem replyMatches_eq (reply : Bytes) :
    ∃ ok, Firmware.replyMatches reply = .ok ok ∧ (ok = true ↔ Verified reply) := by
  by_cases hlength : reply.length = 5
  · match reply, hlength with
    | [code, chip, version, revision, support], hlength =>
      by_cases hcode : code = 0x03
      · subst hcode
        refine ⟨chip == 0x32, rfl, beq_iff_eq.trans ⟨fun hchip => ⟨rfl, rfl, congrArg some hchip⟩, fun h => ?_⟩⟩
        exact Option.some.inj h.chip
      · refine ⟨false, ?_, iff_of_false nofun fun h => hcode (Option.some.inj h.code)⟩
        exact (if_pos hlength).trans (if_neg hcode)
  · exact ⟨false, if_neg hlength, iff_of_false nofun fun h => hlength h.length⟩

/-- What is made of the reply to the firmware query: it must be there and be the one of the controller. -/
def verified (reply : Option Bytes) : Except Fault Unit := do
  let reply ← answered .getFirmwareVersion reply
  if ← Firmware.replyMatches reply then return () else .error (.firmwareMismatch (Hex.render reply))

/-- The firmware query of a bring-up. -/
def firmwareStep (timeout : Duration) : Step := ⟨(wakingStep .getFirmwareVersion [] timeout).move, verified⟩

/-- The steps of a bring-up. -/
def bringUpScript (settings : Settings) : List Step :=
  Link.wakingSteps ++ firmwareStep settings.commandTimeout ::
    wakingStep .samConfiguration normalMode settings.setupTimeout ::
      if settings.disableRetries then
        [quietStep .resetInput, commandStep .rfConfiguration (RfItem.maxRetries.code :: noRetries) settings.setupTimeout]
      else []

/-- A reply is judged by whether a bring-up goes on with it. -/
theorem verified_reply {reply : Bytes} (ok : Bool) (h : Firmware.replyMatches reply = .ok ok) :
    verified (some reply) = if ok then .ok () else .error (.firmwareMismatch (Hex.render reply)) := by
  simp only [verified, answered, h, bind, Except.bind, pure, Except.pure]

/-- What is known of the items behind a bring-up. -/
def notingBringUp (d : Driver .asleep σ) : Driver .asleep σ :=
  if d.settings.disableRetries then d.notingItem .maxRetries noRetries else d

/-- The replies to a bring-up that is answered. -/
def bringUpAnswers (settings : Settings) (firmware normal retries : Bytes) : List Reply :=
  [.ok none, .ok none, .ok none, .ok (some firmware), .ok (some (Command.samConfiguration.responseCode :: normal))] ++
    if settings.disableRetries then [.ok none, .ok (some (Command.rfConfiguration.responseCode :: retries))] else []

section Steps

variable {l : Link σ} {front : List Step} {rs : List Reply} {e : Driver .asleep σ}

/-- The firmware query is asked behind what was accepted, and must be replied to. -/
theorem meets_queryFirmware_asked (back : List Step) :
    (queryFirmware : Act (Driver .asleep σ) Bytes).Meets (Past l front rs e)
      (fun reply => Asked l front rs (firmwareStep e.settings.commandTimeout).move (.ok (some reply)) e)
      (Refused l (front ++ firmwareStep e.settings.commandTimeout :: back)) := by
  refine (Meets.tell _ _).bind fun _ => (meets_setting_past _ _).bind fun timeout => Meets.assume fun htimeout => ?_
  subst htimeout
  have hsend : (sendWaking .getFirmwareVersion [] e.settings.commandTimeout).Meets (Past l front rs e)
      (fun reply => Asked l front rs (firmwareStep e.settings.commandTimeout).move (.ok (some reply)) e)
      (Refused l (front ++ firmwareStep e.settings.commandTimeout :: back)) := by
    refine (meets_asked (firmwareStep e.settings.commandTimeout).move (answered .getFirmwareVersion) fun d r m hends =>
      ends_sendWaking_exchange (by decide) hends).weaken ?_ ?_
    · rintro reply d ⟨r, hread, hasked⟩
      obtain ⟨reply?, rfl, hanswered⟩ := ok_of_bind hread
      cases reply? with
      | none => nomatch hanswered
      | some body =>
        obtain rfl := Except.ok.inj hanswered
        exact hasked
    · rintro fault d ⟨r, hread, hasked⟩
      have hjudge : r >>= verified = .error fault := by
        show (r >>= fun reply => answered .getFirmwareVersion reply >>= _) = _
        rw [← bind_assoc, hread]
        rfl
      exact hasked.refused hjudge back
  exact hsend.bind fun reply => (Meets.tellIf _ _ _).bind fun _ => Meets.done fun _ h => h

/-- An item is written, and known behind it. -/
theorem meets_applyItem_past (item : RfItem) (value : Bytes) (timeout : Duration)
    (hl : (item.code :: value).length < Frame.maxBody) (back : List Step) :
    (applyItem item value false timeout : Act (Driver .asleep σ) Unit).Meets (Past l front rs e)
      (fun _ d => ∃ payload, Past l (front ++ [commandStep .rfConfiguration (item.code :: value) timeout])
        (rs ++ [.ok (some (Command.rfConfiguration.responseCode :: payload))]) (e.notingItem item value) d)
      (Refused l (front ++ commandStep .rfConfiguration (item.code :: value) timeout :: back)) := by
  intro d hd
  have hexec : (execute .rfConfiguration (item.code :: value) timeout).Meets (Past l front rs e)
      (fun payload => Past l (front ++ [commandStep .rfConfiguration (item.code :: value) timeout])
        (rs ++ [.ok (some (Command.rfConfiguration.responseCode :: payload))]) e)
      (Refused l (front ++ commandStep .rfConfiguration (item.code :: value) timeout :: back)) :=
    meets_execute_past timeout hl back
  have hsent : ¬(false = true ∧ d.rfItems.get? item = some value) := nofun
  rcases hresult : ((execute .rfConfiguration (item.code :: value) timeout).run d).result with fault | payload
  · exact (ends_applyItem_error hsent ⟨hresult, rfl⟩).meets_error (hexec.of_error hd hresult)
  · exact (ends_applyItem hsent ⟨hresult, rfl⟩).meets_ok ⟨payload, (hexec.of_ok hd hresult).notingItem item value⟩

/-- A bring-up takes its steps, and ends well behind the last one. -/
theorem meets_bringUpSteps_past :
    (bringUpSteps : Act (Driver .asleep σ) Unit).Meets (Past l [] [] e)
      (fun _ d => ∃ firmware normal retries, Verified firmware ∧
        Past l (bringUpScript e.settings) (bringUpAnswers e.settings firmware normal retries) e.notingBringUp d)
      (Refused l (bringUpScript e.settings)) := by
  refine (Meets.tell _ _).bind fun _ => (meets_onLink_past (Link.meets_wakeUp _)).bind fun _ => ?_
  refine (meets_queryFirmware_asked _).bind fun reply => ?_
  obtain ⟨ok, hmatches, hok⟩ := replyMatches_eq reply
  rw [hmatches]
  refine (Meets.lift (fun v hv d hd => (⟨Except.ok.inj hv, hd⟩ : ok = v ∧ _)) nofun).bind fun v => Meets.assume fun hv => ?_
  subst hv
  split
  · rename_i htrue
    have haccepted : (.ok (some reply) : Reply) >>= verified = .ok () := (verified_reply ok hmatches).trans (if_pos htrue)
    refine Meets.requiring ?_ fun d hasked => Asked.accepted hasked haccepted
    refine (meets_setting_past _ _).bind fun setup => Meets.assume fun hsetup => ?_
    subst hsetup
    refine (meets_executeWaking_past _ (by decide) _).bind fun normal => ?_
    refine (meets_setting_past _ _).bind fun disable => Meets.assume fun hdisable => ?_
    subst hdisable
    split
    · rename_i hdisable
      simp only [bringUpScript, bringUpAnswers, notingBringUp, if_pos hdisable]
      refine (meets_onLink_past (Link.meets_quiet rfl _)).bind fun _ => ?_
      refine (meets_applyItem_past _ _ _ (by decide) _).imp ?_
      rintro _ d ⟨payload, hpast⟩
      exact ⟨reply, normal, payload, hok.1 htrue, hpast⟩
    · rename_i hdisable
      simp only [bringUpScript, bringUpAnswers, notingBringUp, if_neg hdisable]
      exact Meets.done fun d hpast => ⟨reply, normal, [], hok.1 htrue, hpast⟩
  · rename_i hfalse
    refine (Meets.tell _ _).bind fun _ => Meets.fail fun d hasked => hasked.refused ((verified_reply ok hmatches).trans ?_) _
    exact if_neg hfalse

end Steps

/-! ## Stages and their replies -/

/-- A stage of a bring-up. -/
inductive Stage where
  /-- A call of the channel. -/
  | line
  /-- The firmware query. -/
  | query
  /-- A command that is executed. -/
  | setUp (command : Command)

namespace Stage

/-- The reply lets the bring-up go on behind the stage. -/
def Passes : Stage → Reply → Prop
  | line, r => ∃ reply, r = .ok reply
  | query, r => ∃ reply, r = .ok (some reply) ∧ Verified reply
  | setUp command, r => ∃ payload, r = .ok (some (command.responseCode :: payload))

/-- The reply ends the bring-up at the stage, in the fault. -/
inductive Fails : Stage → Reply → Fault → Prop where
  /-- A fault of the channel or the link is its own. -/
  | own (stage : Stage) (fault : Fault) : Fails stage (.error fault) fault
  | unanswered : Fails query (.ok none) (.noResponse Command.getFirmwareVersion.code)
  | unverified {reply : Bytes} : ¬Verified reply → Fails query (.ok (some reply)) (.firmwareMismatch (Hex.render reply))
  | silent (command : Command) : Fails (setUp command) (.ok none) (.noResponse command.code)
  | empty (command : Command) : Fails (setUp command) (.ok (some [])) (.invalidLength 1 0)
  | wrong {command : Command} {code : UInt8} (payload : Bytes) : code ≠ command.responseCode →
    Fails (setUp command) (.ok (some (code :: payload))) (.unexpectedResponse command.responseCode code)

/-- What the bring-up makes of what came in. -/
def judge : Stage → Option Bytes → Except Fault Unit
  | line => fun _ => .ok ()
  | query => verified
  | setUp command => echoed command

/-- A reply that is judged well lets the bring-up go on. -/
theorem passes_of_judge {stage : Stage} {r : Reply} (h : r >>= stage.judge = .ok ()) : stage.Passes r := by
  obtain ⟨reply?, rfl, hjudge⟩ := ok_of_bind h
  cases stage with
  | line => exact ⟨_, rfl⟩
  | query =>
    cases reply? with
    | none => nomatch hjudge
    | some reply =>
      obtain ⟨ok, hmatches, hok⟩ := replyMatches_eq reply
      have hverified := (verified_reply ok hmatches).symm.trans hjudge
      split at hverified
      · rename_i htrue
        exact ⟨reply, rfl, hok.1 htrue⟩
      · nomatch hverified
  | setUp command =>
    obtain ⟨payload, hexecuted, -⟩ := ok_of_bind hjudge
    exact ⟨payload, executed_eq_ok_iff.1 hexecuted⟩

/-- A reply that is judged ill ends the bring-up. -/
theorem fails_of_judge {stage : Stage} {r : Reply} {fault : Fault} (h : r >>= stage.judge = .error fault) :
    stage.Fails r fault := by
  rcases r with first | reply?
  · obtain rfl := Except.error.inj h
    exact .own stage first
  have hjudge : stage.judge reply? = .error fault := h
  cases stage with
  | line => nomatch hjudge
  | query =>
    cases reply? with
    | none =>
      obtain rfl := Except.error.inj hjudge
      exact .unanswered
    | some reply =>
      obtain ⟨ok, hmatches, hok⟩ := replyMatches_eq reply
      have hverified := (verified_reply ok hmatches).symm.trans hjudge
      split at hverified
      · nomatch hverified
      · rename_i hfalse
        obtain rfl := Except.error.inj hverified
        exact .unverified fun hreply => hfalse (hok.2 hreply)
  | setUp command =>
    obtain hexecuted | ⟨_, -, hdone⟩ := error_of_bind hjudge
    · obtain hown | ⟨hnone, rfl⟩ | ⟨hempty, rfl⟩ | ⟨code, payload, hreply, hcode, rfl⟩ :=
        fault_executed (r := .ok reply?) hexecuted
      · nomatch hown
      · rw [hnone]
        exact .silent command
      · rw [hempty]
        exact .empty command
      · rw [hreply]
        exact .wrong payload hcode
    · nomatch hdone

/-- A reply that ends the bring-up at a stage does not let it go on. -/
theorem Fails.not_passes {stage : Stage} {r : Reply} {fault : Fault} (h : stage.Fails r fault) : ¬stage.Passes r := by
  intro hpasses
  cases h with
  | own stage fault =>
    cases stage with
    | line => nomatch hpasses.choose_spec
    | query => nomatch hpasses.choose_spec.1
    | setUp command => nomatch hpasses.choose_spec
  | unanswered => nomatch hpasses.choose_spec.1
  | unverified hreply =>
    obtain ⟨reply, hsome, hverified⟩ := hpasses
    obtain rfl := Option.some.inj (Except.ok.inj hsome)
    exact hreply hverified
  | silent => nomatch hpasses.choose_spec
  | empty => nomatch hpasses.choose_spec
  | wrong _ hcode =>
    obtain ⟨payload, hsome⟩ := hpasses
    exact hcode (List.cons.inj (Option.some.inj (Except.ok.inj hsome))).1

end Stage

/-- The stages of a bring-up. -/
def bringUpStages : List Stage :=
  [.line, .line, .line, .query, .setUp .samConfiguration, .line, .setUp .rfConfiguration]

/-- The steps of a bring-up judge as its stages. -/
theorem judge_bringUpScript {settings : Settings} {k : Nat} {step : Step} (h : (bringUpScript settings)[k]? = some step) :
    ∃ stage, bringUpStages[k]? = some stage ∧ step.judge = stage.judge := by
  have hjudges : (bringUpScript settings).map Step.judge <+: bringUpStages.map Stage.judge := by
    unfold bringUpScript
    split
    · exact List.prefix_refl _
    · exact ⟨[Stage.line.judge, (Stage.setUp .rfConfiguration).judge], rfl⟩
  have hk : ((bringUpScript settings).map Step.judge)[k]? = some step.judge := by
    rw [List.getElem?_map, h]
    rfl
  obtain ⟨rest, hrest⟩ := hjudges
  have hstage : (bringUpStages.map Stage.judge)[k]? = some step.judge := by
    rw [← hrest, List.getElem?_append_left (List.getElem?_eq_some_iff.1 hk).1, hk]
  rw [List.getElem?_map] at hstage
  obtain ⟨stage, hget, hjudge⟩ := Option.map_eq_some_iff.1 hstage
  exact ⟨stage, hget, hjudge.symm⟩

/-- The moves of a bring-up. -/
def bringUpMoves (settings : Settings) : List Move :=
  [.flush, .write (List.replicate 20 0x00 ++ Frame.ack), .resetInput,
    .exchange (List.replicate 20 0x00 ++ (Frame.mk Frame.hostMarker [0x02]).wire) settings.commandTimeout,
    .exchange (List.replicate 20 0x00 ++ (Frame.mk Frame.hostMarker [0x14, 0x01, 0x00]).wire) settings.setupTimeout] ++
  if settings.disableRetries then
    [.resetInput, .exchange (Frame.mk Frame.hostMarker [0x32, 0x05, 0x00, 0x00, 0x00]).wire settings.setupTimeout]
  else []

theorem map_bringUpScript (settings : Settings) : (bringUpScript settings).map Step.move = bringUpMoves settings := by
  unfold bringUpScript bringUpMoves
  split
  · rfl
  · rfl

/-- Every move of a bring-up does something. -/
theorem isDeed_bringUpMoves {settings : Settings} : ∀ move ∈ bringUpMoves settings, move.call.isDeed = true := by
  have hwake : ∀ bytes, (Call.send (List.replicate 20 0x00 ++ bytes)).isDeed = true := Call.isDeed_withWakeUp
  refine List.forall_mem_append.2 ⟨?_, ?_⟩
  · simp only [List.forall_mem_cons]
    exact ⟨rfl, hwake _, rfl, hwake _, hwake _, nofun⟩
  · split
    · simp only [List.forall_mem_cons]
      exact ⟨rfl, Call.isDeed_wire _, nofun⟩
    · nofun

/-- A bring-up that was refused failed at the last stage that it came to. -/
theorem last_stage_of_refused {settings : Settings} {l l' : Link σ} {replies : List Reply} {fault : Fault}
    (h : Interview (bringUpScript settings) l replies (.error fault) l') :
    ∃ k stage last, replies.length = k + 1 ∧ bringUpStages[k]? = some stage ∧ replies[k]? = some last ∧
      stage.Fails last fault := by
  obtain ⟨k, step, r, hlength, hstep, hr, hjudge⟩ := h.last_refused
  obtain ⟨stage, hstage, hstep⟩ := judge_bringUpScript hstep
  rw [hstep] at hjudge
  exact ⟨k, stage, r, hlength, hstage, hr, Stage.fails_of_judge hjudge⟩

/-- The replies to a bring-up that is answered do not end it. -/
theorem not_refused_bringUpAnswers {settings : Settings} {l l' : Link σ} {firmware normal retries : Bytes} {fault : Fault} :
    ¬Interview (bringUpScript settings) l (bringUpAnswers settings firmware normal retries) (.error fault) l' := by
  intro h
  obtain ⟨k, stage, r, hlength, hstage, hr, hfails⟩ := last_stage_of_refused h
  refine hfails.not_passes ?_
  unfold bringUpAnswers at hlength hr
  by_cases hdisable : settings.disableRetries = true
  · rw [if_pos hdisable] at hlength hr
    obtain rfl : k = 6 := Nat.succ.inj hlength.symm
    obtain rfl := Option.some.inj hstage
    exact ⟨retries, (Option.some.inj hr).symm⟩
  · rw [if_neg hdisable] at hlength hr
    obtain rfl : k = 4 := Nat.succ.inj hlength.symm
    obtain rfl := Option.some.inj hstage
    exact ⟨normal, (Option.some.inj hr).symm⟩

/-- A bring-up takes its steps: to the end, if it is satisfied with every reply, or else up to a step that is refused. -/
theorem bringUp_interview (d : Driver .asleep σ) :
    (∃ firmware normal retries l, Verified firmware ∧
      Interview (bringUpScript d.settings) d.link (bringUpAnswers d.settings firmware normal retries) (.ok ()) l ∧
      d.bringUp.result = .ok { d.notingBringUp.asReady with link := l } ∧ d.bringUp.state = l.channel) ∨
    ∃ replies fault l, Interview (bringUpScript d.settings) d.link replies (.error fault) l ∧
      d.bringUp.result = .error fault ∧ d.bringUp.state = l.channel := by
  have hmeets := meets_bringUpSteps_past d (Past.start d)
  have hready {ended : Except Fault Unit} (h : (bringUpSteps.run d).result = ended) :
      d.bringUp.result = ended.map fun _ => (bringUpSteps.run d).state.asReady := congrArg (Except.map _) h
  unfold Outcome.Meets at hmeets
  split at hmeets
  · rename_i hresult
    obtain ⟨firmware, normal, retries, hfirmware, hpast⟩ := hmeets
    refine Or.inl ⟨firmware, normal, retries, _, hfirmware, hpast.heard, (hready hresult).trans ?_, rfl⟩
    exact congrArg (fun d => Except.ok (asReady d)) hpast.kept
  · rename_i fault hresult
    obtain ⟨replies, hrefused⟩ := hmeets
    exact Or.inr ⟨replies, fault, _, hrefused, hready hresult, rfl⟩

/-- The steps that a bring-up took make the first of its moves and nothing else, and every stage but the last was passed. -/
theorem stages_of_interview {settings : Settings} {l l' : Link (Tapped σ)} {replies : List Reply} {e : Except Fault Unit}
    (h : Interview (bringUpScript settings) l replies e l') :
    Heard ((bringUpMoves settings).take replies.length) l replies l' ∧
    (∃ made, l'.channel.calls = l.channel.calls ++ made ∧
      deeds made = ((bringUpMoves settings).take replies.length).map Move.call) ∧
    ∀ k, k + 1 < replies.length → ∃ stage r, bringUpStages[k]? = some stage ∧ replies[k]? = some r ∧ stage.Passes r := by
  have hheard := h.heard
  rw [map_bringUpScript] at hheard
  refine ⟨hheard, hheard.deeds fun move hmem => isDeed_bringUpMoves move (List.mem_of_mem_take hmem), fun k hk => ?_⟩
  obtain ⟨step, r, hstep, hr, hjudge⟩ := h.passed hk
  obtain ⟨stage, hstage, hstep⟩ := judge_bringUpScript hstep
  rw [hstep] at hjudge
  exact ⟨stage, r, hstage, hr, Stage.passes_of_judge hjudge⟩

/-- A driver that starts out knows nothing but the retries behind a bring-up, if they were set. -/
theorem rfItems_notingBringUp (channel : σ) (settings : Settings) :
    (Driver.over channel settings).notingBringUp.rfItems.entries =
      if settings.disableRetries then [(.maxRetries, noRetries)] else [] := by
  unfold notingBringUp
  split
  · rename_i hdisable
    exact (if_pos hdisable).symm
  · rename_i hdisable
    exact (if_neg hdisable).symm

omit [Channel σ] in
/-- Bringing a controller up changes neither the settings nor what is known of the registers. -/
theorem notingBringUp_kept (d : Driver .asleep σ) :
    d.notingBringUp.settings = d.settings ∧ d.notingBringUp.registers = d.registers := by
  unfold notingBringUp
  split
  · exact ⟨rfl, rfl⟩
  · exact ⟨rfl, rfl⟩

/-- What a bring-up does over any channel, so whatever comes in, whichever calls fail and however anomalies are taken. It makes
the first moves of a bring-up, as many as there are replies, and apart from reads and acknowledgements no other calls: it wakes
the controller, asks for the firmware, puts the controller in normal mode and, if the settings ask for that, resets the input
and sets the retries to zero. It comes to a stage only if it passed the ones before. It ends well exactly if the firmware query
was replied to by the expected chip and the configuration commands with their response codes; the driver then knows no register,
and of the items the retries if they were set. Else the fault is that of the last stage: its own, the silence of its command,
the reply to the firmware query as a text, or an empty or wrong echo. -/
theorem bringUp_course (channel : Tapped σ) (settings : Settings) :
    ∃ (replies : List Reply) (l : Link (Tapped σ)), (Driver.over channel settings).bringUp.state = l.channel ∧
      Heard ((bringUpMoves settings).take replies.length) (.over channel settings.strictness) replies l ∧
      (∃ made, l.channel.calls = channel.calls ++ made ∧
        deeds made = ((bringUpMoves settings).take replies.length).map Move.call) ∧
      (∀ k, k + 1 < replies.length → ∃ stage r, bringUpStages[k]? = some stage ∧ replies[k]? = some r ∧ stage.Passes r) ∧
      ((∃ ready, (Driver.over channel settings).bringUp.result = .ok ready) ↔
        ∃ firmware normal retries, Verified firmware ∧
          replies = [.ok none, .ok none, .ok none, .ok (some firmware), .ok (some (0x15 :: normal))] ++
            if settings.disableRetries then [.ok none, .ok (some (0x33 :: retries))] else []) ∧
      (∀ ready, (Driver.over channel settings).bringUp.result = .ok ready →
        ready.link = l ∧ ready.settings = settings ∧ ready.registers.entries = [] ∧
        ready.rfItems.entries = if settings.disableRetries then [(.maxRetries, [0x00, 0x00, 0x00])] else []) ∧
      (∀ fault, (Driver.over channel settings).bringUp.result = .error fault →
        ∃ k stage last, replies.length = k + 1 ∧ bringUpStages[k]? = some stage ∧ replies[k]? = some last ∧
          stage.Fails last fault) := by
  obtain ⟨firmware, normal, retries, l, hfirmware, hover, hresult, hstate⟩ | ⟨replies, fault, l, hrefused, hresult, hstate⟩ :=
    bringUp_interview (Driver.over channel settings)
  · obtain ⟨hheard, hmade, hpassed⟩ := stages_of_interview hover
    refine ⟨_, l, hstate, hheard, hmade, hpassed,
      iff_of_true ⟨_, hresult⟩ ⟨firmware, normal, retries, hfirmware, rfl⟩, fun ready hready => ?_, fun fault hfault => ?_⟩
    · obtain rfl := Except.ok.inj (hresult.symm.trans hready)
      obtain ⟨hsettings, hregisters⟩ := notingBringUp_kept (Driver.over channel settings)
      exact ⟨rfl, hsettings, congrArg Cache.entries hregisters, rfItems_notingBringUp channel settings⟩
    · nomatch hresult.symm.trans hfault
  · obtain ⟨hheard, hmade, hpassed⟩ := stages_of_interview hrefused
    refine ⟨replies, l, hstate, hheard, hmade, hpassed, iff_of_false ?_ ?_, fun ready hready => ?_, fun fault' hfault => ?_⟩
    · rintro ⟨ready, hready⟩
      nomatch hresult.symm.trans hready
    · rintro ⟨firmware, normal, retries, -, rfl⟩
      exact not_refused_bringUpAnswers hrefused
    · nomatch hresult.symm.trans hready
    · obtain rfl := Except.error.inj (hresult.symm.trans hfault)
      exact last_stage_of_refused hrefused

end Driver

end NfcHost
