import NfcHost.Proofs.Interview
import NfcHost.Proofs.Provenance
import NfcHost.Proofs.Tiling

/-!
# The poll for Type B cards

A poll for Type B cards lists one card, deselects it and wakes it again: five exchanges, and the card's application family, read
in the listing, goes back out in the last one. The statements say which frames a poll sends and how the replies settle its
outcome (`pollB_script`).
-/

namespace NfcHost.Driver

open Act

variable {σ : Type} [Channel σ]

/-! ## Refreshing a listed card -/

/-- The writing that has every bit of the last byte sent. -/
def wholeBytesStep (timeout : Duration) : Step :=
  commandStep .writeRegister ([(.bitFraming, 0)].flatMap settingBytes) timeout

/-- The card that was listed, with the answer to the wake-up, whose status must say that the card was woken. -/
def readStatus (listed : TypeBTarget) (payload : Bytes) : Except Fault TypeBTarget := do
  let (status, sensbRes) ← Bytes.splitStatus payload
  if status ≠ 0 then .error (.noResponse Command.inCommunicateThru.code) else return { listed with sensbRes }

/-- What is made of the reply to the wake-up. -/
def readWakeUp (listed : TypeBTarget) (reply : Option Bytes) : Except Fault TypeBTarget := do
  readStatus listed (← executed .inCommunicateThru reply)

/-- Waking the listed card again, with its application family. -/
def wakeUpStep (timeout : Duration) (listed : TypeBTarget) : Step where
  move := (commandStep .inCommunicateThru (CrcA.append [wakeUpB, listed.afi.getD 0, wakeUpBParameter]) timeout).move
  judge reply := do
    let _ ← readWakeUp listed reply
    return ()

/-- The steps of refreshing a listed card. -/
def refreshSteps (timeout : Duration) (listed : TypeBTarget) : List Step :=
  [wholeBytesStep timeout, commandStep .inCommunicateThru (CrcA.append [deselectBroadcast]) timeout, wholeBytesStep timeout,
    wakeUpStep timeout listed]

section Refresh

variable {l : Link σ} {front : List Step} {rs : List Reply} {e : Driver .ready σ}

theorem meets_setWholeBytes_past (back : List Step) :
    (setWholeBytes : Act (Driver .ready σ) Unit).Meets (Past l front rs e)
      (fun _ d => ∃ payload, Past l (front ++ [wholeBytesStep e.settings.commandTimeout])
        (rs ++ [.ok (some (Command.writeRegister.responseCode :: payload))]) (e.noting [(.bitFraming, 0)]) d)
      (Refused l (front ++ wholeBytesStep e.settings.commandTimeout :: back)) := by
  intro d hd
  rw [← hd.settings]
  have hargs : (([(.bitFraming, 0)] : List Setting).flatMap settingBytes).length < Frame.maxBody := by decide
  have hexec : (execute .writeRegister ([(.bitFraming, 0)].flatMap settingBytes) d.settings.commandTimeout).Meets
      (Past l front rs e) (fun payload => Past l (front ++ [wholeBytesStep d.settings.commandTimeout])
        (rs ++ [.ok (some (Command.writeRegister.responseCode :: payload))]) e)
      (Refused l (front ++ wholeBytesStep d.settings.commandTimeout :: back)) := meets_execute_past _ hargs back
  have hne : ¬(d.pending [(.bitFraming, 0)] false).isEmpty = true := nofun
  rcases hresult : ((execute .writeRegister ([(.bitFraming, 0)].flatMap settingBytes) d.settings.commandTimeout).run d).result
    with fault | payload
  · exact (ends_writeRegisters_error hne ⟨hresult, rfl⟩).meets_error (hexec.of_error hd hresult)
  · exact (ends_writeRegisters hne ⟨hresult, rfl⟩).meets_ok ⟨payload, (hexec.of_ok hd hresult).noting _⟩

/-- The status of a reply that has one. -/
theorem splitStatus_cons (status : UInt8) (rest : Bytes) : Bytes.splitStatus (status :: rest) = .ok (status, rest) := by
  have hlong : Bytes.require (status :: rest) 1 = .ok () := Bytes.require_of_le (by simp)
  have hfetch : Bytes.fetch (status :: rest) 0 = .ok status := rfl
  simp only [Bytes.splitStatus, hlong, hfetch, Bytes.suffix_cons_one, bind, Except.bind, pure, Except.pure]

/-- A status other than zero says that no card was woken; behind a status of zero stands the answer. -/
theorem readStatus_cons (listed : TypeBTarget) (status : UInt8) (sensbRes : Bytes) :
    readStatus listed (status :: sensbRes) =
      if status ≠ 0 then .error (.noResponse Command.inCommunicateThru.code) else .ok { listed with sensbRes } := by
  simp only [readStatus, splitStatus_cons, bind, Except.bind, pure, Except.pure]

/-- The reply to the wake-up is executed like another, and then its status is read. -/
theorem bind_readWakeUp (r : Reply) (listed : TypeBTarget) :
    r >>= readWakeUp listed = r >>= executed .inCommunicateThru >>= readStatus listed := (bind_assoc r _ _).symm

/-- The reply to the wake-up brings in a card exactly if a status of zero stands behind the response code. -/
theorem readWakeUp_eq_ok_iff {listed t : TypeBTarget} {r : Reply} :
    r >>= readWakeUp listed = .ok t ↔ ∃ sensbRes,
      r = .ok (some (Command.inCommunicateThru.responseCode :: 0 :: sensbRes)) ∧ t = { listed with sensbRes } := by
  rw [bind_readWakeUp]
  constructor
  · intro h
    obtain ⟨payload, hexecuted, hstatus⟩ := ok_of_bind h
    cases payload with
    | nil => nomatch hstatus
    | cons status sensbRes =>
      rw [readStatus_cons] at hstatus
      obtain ⟨hzero, ht⟩ := ok_of_guard hstatus
      obtain rfl := Decidable.not_not.1 hzero
      exact ⟨sensbRes, executed_eq_ok_iff.1 hexecuted, (Except.ok.inj ht).symm⟩
  · rintro ⟨sensbRes, rfl, rfl⟩
    rw [executed_eq_ok_iff.2 rfl]
    exact readStatus_cons listed 0 sensbRes

/-- A listed card is refreshed by the steps of that, with what the last reply brings in. -/
theorem meets_refreshB_past (listed : TypeBTarget) :
    (refreshB listed : Act (Driver .ready σ) TypeBTarget).Meets (Past l [] [] e)
      (fun t d => ∃ first second third sensbRes e', t = { listed with sensbRes } ∧
        Past l (refreshSteps e.settings.commandTimeout listed)
          [.ok (some (Command.writeRegister.responseCode :: first)),
            .ok (some (Command.inCommunicateThru.responseCode :: second)),
            .ok (some (Command.writeRegister.responseCode :: third)),
            .ok (some (Command.inCommunicateThru.responseCode :: 0 :: sensbRes))] e' d)
      (Refused l (refreshSteps e.settings.commandTimeout listed)) := by
  have hbroadcast : (broadcast [deselectBroadcast] : Act (Driver .ready σ) Bytes).Meets (Past l [] [] e)
      (fun second d => ∃ first, Past l ((refreshSteps e.settings.commandTimeout listed).take 2)
        [.ok (some (Command.writeRegister.responseCode :: first)),
          .ok (some (Command.inCommunicateThru.responseCode :: second))] (e.noting [(.bitFraming, 0)]) d)
      (Refused l (refreshSteps e.settings.commandTimeout listed)) := by
    refine (Meets.tell _ _).bind fun _ => (meets_setWholeBytes_past _).bind fun _ => Meets.exists fun first => ?_
    refine (meets_setting_past _ _).bind fun timeout => Meets.assume fun htimeout => ?_
    subst htimeout
    exact (meets_execute_past _ (by decide) _).weaken (fun _ _ h => ⟨first, h⟩) fun _ _ h => h
  refine hbroadcast.bind fun second => Meets.exists fun first => (meets_setWholeBytes_past _).bind fun _ => ?_
  refine Meets.exists fun third => (meets_setting_past _ _).bind fun timeout => Meets.assume fun htimeout => ?_
  subst htimeout
  refine (meets_asked (wakeUpStep e.settings.commandTimeout listed).move (readWakeUp listed) fun d r m hends => ?_).weaken ?_ ?_
  · have hexec := ends_execute_executed (by simp [CrcA.append, CrcA.check, Frame.maxBody]) hends
    rw [bind_readWakeUp]
    rcases hresult : r >>= executed .inCommunicateThru with fault | payload
    · rw [hresult] at hexec
      exact hexec.bind_error
    · rw [hresult] at hexec
      refine hexec.bind ?_
      cases payload with
      | nil => exact (Ends.lift _ _).bind_error
      | cons status sensbRes =>
        rw [splitStatus_cons]
        refine (Ends.lift _ _).bind ?_
        show Act.Ends _ _ (readStatus listed (status :: sensbRes)) _
        rw [readStatus_cons]
        dsimp only
        split
        · exact (Ends.tell _ _ _).bind ⟨rfl, rfl⟩
        · exact Ends.done _ _
  · rintro t d ⟨r, hread, hasked⟩
    have hpast := hasked.accepted (judge_of_read hread)
    obtain ⟨sensbRes, rfl, ht⟩ := readWakeUp_eq_ok_iff.1 hread
    exact ⟨first, second, third, sensbRes, _, ht, hpast⟩
  · rintro fault d ⟨r, hread, hasked⟩
    exact hasked.refused (judge_of_read hread) []

end Refresh

/-! ## The whole poll -/

/-- Asking for one card of Type B, whatever its application family. -/
def listingMove (timeout : Duration) : Move :=
  (commandStep .inListPassiveTarget [1, Modulation.typeB.listingCode, 0x00] timeout).move

/-- The reply to a listing that lists nothing: there is none, or its number of cards is zero. -/
def NoneListed (first : Reply) : Prop := first = .ok none ∨ ∃ reply, first = .ok (some reply) ∧ reply[1]? = some 0

/-- The reply to a listing that lists a card, as the first of a number of cards. -/
def Lists (first : Reply) (listed : TypeBTarget) : Prop :=
  ∃ code count data used, first = .ok (some (code :: count :: data)) ∧ count ≠ 0 ∧ TypeBTarget.ofBlock data = .ok (listed, used)

/-- How a poll goes over a link. Where a card is listed the poll goes on with it, and finds it with the answer that stands behind
the status of the last reply. -/
inductive PollCourse (timeout : Duration) (l : Link σ) : List Reply → Poll TypeBTarget → Link σ → Prop where
  | empty {first : Reply} {l' : Link σ} : (listingMove timeout).act.Ends l first l' → NoneListed first →
    PollCourse timeout l [first] .notFound l'
  | unlisted {first : Reply} {l' : Link σ} {fault : Fault} : (listingMove timeout).act.Ends l first l' → ¬NoneListed first →
    (∀ listed, ¬Lists first listed) → PollCourse timeout l [first] (.failed fault) l'
  | unwoken {first : Reply} {listed : TypeBTarget} {l' l'' : Link σ} {rs : List Reply} {fault : Fault} :
    (listingMove timeout).act.Ends l first l' → Lists first listed →
    Interview (refreshSteps timeout listed) l' rs (.error fault) l'' → PollCourse timeout l (first :: rs) (.failed fault) l''
  | woken {first : Reply} {listed : TypeBTarget} {l' l'' : Link σ} {one two three sensbRes : Bytes} :
    (listingMove timeout).act.Ends l first l' → Lists first listed →
    Interview (refreshSteps timeout listed) l' [.ok (some (Command.writeRegister.responseCode :: one)),
      .ok (some (Command.inCommunicateThru.responseCode :: two)), .ok (some (Command.writeRegister.responseCode :: three)),
      .ok (some (Command.inCommunicateThru.responseCode :: 0 :: sensbRes))] (.ok ()) l'' →
    PollCourse timeout l [first, .ok (some (Command.writeRegister.responseCode :: one)),
      .ok (some (Command.inCommunicateThru.responseCode :: two)), .ok (some (Command.writeRegister.responseCode :: three)),
      .ok (some (Command.inCommunicateThru.responseCode :: 0 :: sensbRes))] (.found { listed with sensbRes }) l''

omit [Channel σ] in
/-- A reply loses its first byte, whatever it is. -/
theorem ends_dropCode (command : Command) (reply : Bytes) (d : Driver .ready σ) :
    (dropCode command reply).Ends d (.ok reply.tail) d := by
  refine (Ends.tellIf _ _ _ d).bind ?_
  cases reply with
  | nil => exact Ends.done _ d
  | cons code payload =>
    rw [Bytes.suffix_cons_one]
    exact Ends.lift _ d

/-- A listing ends as its exchange, and its reply loses its first byte. -/
theorem ends_listOne (modulation : Modulation) (initiatorData : Bytes) {d : Driver .ready σ} {r : Reply} {l : Link σ}
    (hl : initiatorData.length + 2 < Frame.maxBody)
    (hends : (commandStep .inListPassiveTarget ([1, modulation.listingCode] ++ initiatorData)
      d.settings.commandTimeout).move.act.Ends d.link r l) :
    (listOne modulation initiatorData).Ends d (r.map (Option.map List.tail)) { d.forgotten with link := l } := by
  have hsend : (sendCommand .inListPassiveTarget ([1, modulation.listingCode] ++ initiatorData)
      d.settings.commandTimeout).Ends d.forgotten r { d.forgotten with link := l } :=
    ends_sendCommand_exchange (by simpa using hl) hends
  refine (Ends.change _ d).bind ((Ends.look _ d.forgotten).bind ?_)
  rcases r with fault | _ | reply
  · exact hsend.bind_error
  · exact hsend.bind ((Ends.tell _ _ _).bind (Ends.done _ _))
  · exact hsend.bind ((ends_dropCode _ _ _).bind (Ends.done _ _))

/-- A poll ends as the attempt at it. -/
theorem ends_pollB {d d' : Driver .ready σ} {r : Except Fault (Option TypeBTarget)} (h : tryPollB.Ends d r d') :
    pollB.Ends d (.ok (Poll.ofExcept r)) d' := by
  have hattempt : tryPollB.attempt.Ends d (.ok r) d' := ⟨congrArg Except.ok h.1, h.2⟩
  exact (Ends.tell _ _ d).bind (hattempt.bind (Ends.done _ _))

/-- A reply that is too short for a number of cards lists nothing, but does not say so. -/
theorem unlisted_of_short {reply : Bytes} (h : reply[1]? = none) :
    ¬NoneListed (.ok (some reply)) ∧ ∀ listed, ¬Lists (.ok (some reply)) listed := by
  constructor
  · rintro (hnone | ⟨reply', hreply, hzero⟩)
    · nomatch hnone
    · obtain rfl := Option.some.inj (Except.ok.inj hreply)
      rw [h] at hzero
      nomatch hzero
  · rintro listed ⟨code, count, data, used, hreply, -⟩
    obtain rfl := Option.some.inj (Except.ok.inj hreply)
    nomatch h

/-- The attempt at a poll ends behind the reply to the listing if no card is listed, and else goes on with the card. -/
theorem ends_tryPollB {d d' : Driver .ready σ} {first : Reply}
    (hlist : (listOne .typeB [0x00]).Ends d (first.map (Option.map List.tail)) d') :
    (NoneListed first ∧ tryPollB.Ends d (.ok none) d') ∨
      ((¬NoneListed first ∧ ∀ listed, ¬Lists first listed) ∧ ∃ fault, tryPollB.Ends d (.error fault) d') ∨
      ∃ listed, Lists first listed ∧ ∀ r d'', (refreshB listed).Ends d' r d'' → tryPollB.Ends d (r.map some) d'' := by
  rcases first with fault | _ | _ | ⟨code, _ | ⟨count, data⟩⟩
  · refine Or.inr (Or.inl ⟨⟨?_, ?_⟩, fault, hlist.bind_error⟩)
    · rintro (h | ⟨_, h, -⟩) <;> nomatch h
    · rintro listed ⟨_, _, _, _, h, -⟩
      nomatch h
  · exact Or.inl ⟨Or.inl rfl, hlist.bind (Ends.done _ _)⟩
  · exact Or.inr (Or.inl ⟨unlisted_of_short rfl, _, hlist.bind (Ends.lift (Bytes.byte [] 0) _).bind_error⟩)
  · exact Or.inr (Or.inl ⟨unlisted_of_short rfl, _, hlist.bind (Ends.lift (Bytes.byte [] 0) _).bind_error⟩)
  have hcount := Ends.lift_of_eq (Bytes.byte_cons_zero count data) d'
  by_cases hzero : count = 0
  · refine Or.inl ⟨Or.inr ⟨_, rfl, congrArg some hzero⟩, hlist.bind (hcount.bind ?_)⟩
    rw [if_pos hzero]
    exact Ends.done _ _
  have hdata := Ends.lift_of_eq (Bytes.suffix_cons_one count data) d'
  rcases hread : TypeBTarget.ofBlock data with fault | ⟨listed, used⟩
  · refine Or.inr (Or.inl ⟨⟨?_, ?_⟩, fault, hlist.bind (hcount.bind ?_)⟩)
    · rintro (h | ⟨reply, hreply, h⟩)
      · nomatch h
      · obtain rfl := Option.some.inj (Except.ok.inj hreply)
        exact hzero (Option.some.inj h)
    · rintro listed ⟨_, _, _, used, hreply, -, h⟩
      obtain ⟨rfl, rfl, rfl⟩ := by simpa using hreply
      nomatch hread.symm.trans h
    · rw [if_neg hzero]
      exact hdata.bind (Ends.lift_of_eq hread d').bind_error
  · refine Or.inr (Or.inr ⟨listed, ⟨code, count, data, used, rfl, hzero, hread⟩, fun r d'' hrefresh => ?_⟩)
    refine hlist.bind (hcount.bind ?_)
    rw [if_neg hzero]
    refine hdata.bind ((Ends.lift_of_eq hread d').bind ?_)
    cases r with
    | error fault => exact hrefresh.bind_error
    | ok t => exact hrefresh.bind (Ends.done _ _)

/-- Every poll goes in one of these ways. -/
theorem pollB_course (d : Driver .ready σ) :
    ∃ replies outcome d', pollB.Ends d (.ok outcome) d' ∧
      PollCourse d.settings.commandTimeout d.link replies outcome d'.link := by
  have hfirst := Ends.of_run (listingMove d.settings.commandTimeout).act d.link
  obtain ⟨hnone, hends⟩ | ⟨⟨hsome, hunlisted⟩, fault, hends⟩ | ⟨listed, hlists, hends⟩ :=
    ends_tryPollB (ends_listOne .typeB [0x00] (by decide) hfirst)
  · exact ⟨_, _, _, ends_pollB hends, .empty hfirst hnone⟩
  · exact ⟨_, _, _, ends_pollB hends, .unlisted hfirst hsome hunlisted⟩
  · have hmeets := meets_refreshB_past listed _ (Past.start
      { d.forgotten with link := ((listingMove d.settings.commandTimeout).act.run d.link).state })
    have hpoll := ends_pollB (hends _ _ (Ends.of_run (refreshB listed) _))
    unfold Outcome.Meets at hmeets
    split at hmeets
    · rename_i t hresult
      obtain ⟨one, two, three, sensbRes, e, rfl, hpast⟩ := hmeets
      rw [hresult] at hpoll
      exact ⟨_, _, _, hpoll, .woken hfirst hlists hpast.heard⟩
    · rename_i fault hresult
      obtain ⟨rs, hrefused⟩ := hmeets
      rw [hresult] at hpoll
      exact ⟨_, _, _, hpoll, .unwoken hfirst hlists hrefused⟩

/-! ## What the replies say -/

/-- A reply that lists a card does not list nothing. -/
theorem Lists.not_noneListed {first : Reply} {listed : TypeBTarget} (h : Lists first listed) : ¬NoneListed first := by
  obtain ⟨code, count, data, used, rfl, hcount, -⟩ := h
  rintro (hnone | ⟨reply, hreply, hzero⟩)
  · nomatch hnone
  · obtain rfl := Option.some.inj (Except.ok.inj hreply)
    exact hcount (Option.some.inj hzero)

/-- A reply lists one card as the first. -/
theorem Lists.unique {first : Reply} {listed listed' : TypeBTarget} (h : Lists first listed) (h' : Lists first listed') :
    listed = listed' := by
  obtain ⟨code, count, data, used, rfl, -, hread⟩ := h
  obtain ⟨code', count', data', used', hreply, -, hread'⟩ := h'
  obtain ⟨rfl, rfl, rfl⟩ := by simpa using hreply
  rw [hread] at hread'
  exact (Prod.mk.inj (Except.ok.inj hread')).1

/-- The application family of the listed card stands in the reply behind the number of cards, the number of the card, and the
first five bytes of its answer. -/
theorem Lists.first_afi {first : Reply} {listed : TypeBTarget} {rs : List Reply} (h : Lists first listed) :
    ∃ reply, (first :: rs)[0]? = some (.ok (some reply)) ∧ reply[8]? = some (listed.afi.getD 0) := by
  obtain ⟨code, count, data, used, rfl, -, hread⟩ := h
  obtain ⟨block, rest, rfl, -, len, -, hlength, -, rfl⟩ := TypeBTarget.fills_of_ofBlock hread
  have hin : 5 < listed.sensbRes.length := by
    rw [hlength]
    decide
  refine ⟨_, rfl, ?_⟩
  rw [TypeBTarget.afi, List.getElem?_eq_getElem hin, Option.getD_some]
  show (listed.sensbRes ++ len :: listed.attribRes ++ rest)[5]? = _
  rw [List.append_assoc, List.getElem?_append_left hin, List.getElem?_eq_getElem hin]

/-- The replies with which a poll goes on or ends well, by their place. -/
def Fits : Nat → Reply → Prop
  | 0, r => NoneListed r ∨ ∃ listed, Lists r listed
  | 1, r => ∃ rest, r = .ok (some (Command.writeRegister.responseCode :: rest))
  | 2, r => ∃ rest, r = .ok (some (Command.inCommunicateThru.responseCode :: rest))
  | 3, r => ∃ rest, r = .ok (some (Command.writeRegister.responseCode :: rest))
  | _, r => ∃ sensbRes, r = .ok (some (Command.inCommunicateThru.responseCode :: 0 :: sensbRes))

theorem commandStep_accepts {command : Command} {args : Bytes} {timeout : Duration} {rest : Bytes} :
    (.ok (some (command.responseCode :: rest)) : Reply) >>= (commandStep command args timeout).judge = .ok () :=
  judge_of_read (executed_eq_ok_iff.2 rfl)

/-- A reply that is refused at a step of refreshing a card does not fit there. -/
theorem not_fits_of_refused {timeout : Duration} {listed : TypeBTarget} {k : Nat} {step : Step} {r : Reply} {fault : Fault}
    (hstep : (refreshSteps timeout listed)[k]? = some step) (hrefused : r >>= step.judge = .error fault) : ¬Fits (k + 1) r := by
  have hcommand {command : Command} {args : Bytes} (hrefused : r >>= (commandStep command args timeout).judge = .error fault) :
      ¬∃ rest, r = .ok (some (command.responseCode :: rest)) := by
    rintro ⟨rest, rfl⟩
    rw [commandStep_accepts] at hrefused
    nomatch hrefused
  match k with
  | 0 =>
    obtain rfl := Option.some.inj hstep
    exact hcommand hrefused
  | 1 =>
    obtain rfl := Option.some.inj hstep
    exact hcommand hrefused
  | 2 =>
    obtain rfl := Option.some.inj hstep
    exact hcommand hrefused
  | 3 =>
    obtain rfl := Option.some.inj hstep
    rintro ⟨sensbRes, rfl⟩
    have hread : (.ok (some (Command.inCommunicateThru.responseCode :: 0 :: sensbRes)) : Reply) >>= readWakeUp listed =
        .ok { listed with sensbRes } := readWakeUp_eq_ok_iff.2 ⟨sensbRes, rfl, rfl⟩
    nomatch (judge_of_read hread).symm.trans hrefused

/-- The bodies of the frames that a poll sends, of a card of an application family. -/
def pollBodies (afi : UInt8) : List Bytes :=
  [[0x4A, 0x01, 0x03, 0x00], [0x08, 0x63, 0x3D, 0x00], 0x42 :: CrcA.append [0xC2], [0x08, 0x63, 0x3D, 0x00],
    0x42 :: CrcA.append [0x05, afi, 0x08]]

/-- The exchange of a frame of the host. -/
def askingMove (timeout : Duration) (body : Bytes) : Move := .exchange (Frame.mk Frame.hostMarker body).wire timeout

/-- A poll asks with these bodies. -/
theorem map_pollBodies (timeout : Duration) (listed : TypeBTarget) :
    (pollBodies (listed.afi.getD 0)).map (askingMove timeout) =
      listingMove timeout :: (refreshSteps timeout listed).map Step.move := rfl

/-- The moves that a poll made are the first ones of its script. -/
theorem PollCourse.heard {timeout : Duration} {l l' : Link σ} {replies : List Reply} {outcome : Poll TypeBTarget}
    (h : PollCourse timeout l replies outcome l') :
    ∃ afi, (replies.length = 5 → ∃ reply, replies[0]? = some (.ok (some reply)) ∧ reply[8]? = some afi) ∧
      Heard (((pollBodies afi).take replies.length).map (askingMove timeout)) l replies l' := by
  -- without a card only the listing goes out, whose body does not depend on the application family
  cases h with
  | empty hends _ => exact ⟨0, nofun, .cons hends (.nil _)⟩
  | unlisted hends _ _ => exact ⟨0, nofun, .cons hends (.nil _)⟩
  | unwoken hends hlists hrefused =>
    refine ⟨_, fun _ => hlists.first_afi, ?_⟩
    rw [List.map_take, map_pollBodies]
    exact .cons hends hrefused.heard
  | woken hends hlists hover =>
    refine ⟨_, fun _ => hlists.first_afi, ?_⟩
    rw [List.map_take, map_pollBodies]
    exact .cons hends hover.heard

/-- The outcome of a poll by its replies. -/
theorem PollCourse.outcome {timeout : Duration} {l l' : Link σ} {replies : List Reply} {outcome : Poll TypeBTarget}
    (h : PollCourse timeout l replies outcome l') :
    (outcome = .notFound ↔ ∃ first, replies = [first] ∧ NoneListed first) ∧
    (∀ t, outcome = .found t ↔ ∃ first listed one two three sensbRes, Lists first listed ∧
      replies = [first, .ok (some (Command.writeRegister.responseCode :: one)),
        .ok (some (Command.inCommunicateThru.responseCode :: two)), .ok (some (Command.writeRegister.responseCode :: three)),
        .ok (some (Command.inCommunicateThru.responseCode :: 0 :: sensbRes))] ∧ t = { listed with sensbRes }) ∧
    (∀ fault, outcome = .failed fault → ∃ k last, replies.length = k + 1 ∧ replies[k]? = some last ∧ ¬Fits k last) := by
  cases h with
  | empty hends hnone =>
    refine ⟨iff_of_true rfl ⟨_, rfl, hnone⟩, fun t => iff_of_false nofun ?_, nofun⟩
    rintro ⟨first, listed, one, two, three, sensbRes, -, hreplies, -⟩
    nomatch hreplies
  | unlisted hends hsome hunlisted =>
    refine ⟨iff_of_false nofun ?_, fun t => iff_of_false nofun ?_, fun fault _ => ⟨0, _, rfl, rfl, ?_⟩⟩
    · rintro ⟨first, hreplies, hnone⟩
      obtain ⟨rfl, -⟩ := List.cons.inj hreplies
      exact hsome hnone
    · rintro ⟨first, listed, one, two, three, sensbRes, -, hreplies, -⟩
      nomatch hreplies
    · rintro (hnone | ⟨listed, hlists⟩)
      · exact hsome hnone
      · exact hunlisted listed hlists
  | @unwoken first listed l' l'' rs fault hends hlists hrefused =>
    obtain ⟨k, step, r, hlength, hstep, hr, hjudge⟩ := hrefused.last_refused
    have hunfit := not_fits_of_refused hstep hjudge
    refine ⟨iff_of_false nofun ?_, fun t => iff_of_false nofun ?_, fun fault _ => ⟨k + 1, r, by simpa using hlength, hr, hunfit⟩⟩
    · rintro ⟨other, hreplies, hnone⟩
      obtain ⟨rfl, -⟩ := List.cons.inj hreplies
      exact hlists.not_noneListed hnone
    · rintro ⟨other, listed', one, two, three, sensbRes, -, hreplies, -⟩
      obtain ⟨rfl, rfl⟩ := List.cons.inj hreplies
      obtain rfl : k = 3 := by simpa using hlength.symm
      obtain rfl := Option.some.inj hr
      exact hunfit ⟨sensbRes, rfl⟩
  | @woken first listed l' l'' one two three sensbRes hends hlists hover =>
    refine ⟨iff_of_false nofun ?_, fun t => ⟨?_, ?_⟩, nofun⟩
    · rintro ⟨first, hreplies, -⟩
      nomatch hreplies
    · intro ht
      exact ⟨first, listed, one, two, three, sensbRes, hlists, rfl, (Poll.found.inj ht).symm⟩
    · rintro ⟨first', listed', one', two', three', sensbRes', hlists', hreplies, rfl⟩
      obtain ⟨rfl, rfl, rfl, rfl, rfl⟩ := by simpa using hreplies
      rw [hlists.unique hlists']

/-- What a poll for Type B cards does, over any channel, so whatever comes in, whichever calls fail and however anomalies are
taken. It makes the exchanges of its script one after the other, and no others: apart from reads and acknowledgements it writes
the frames with the first bodies of the script, as many as there are replies; the application family in the last one is the byte
of the listed answer that says so. Nothing is found exactly if the listing is not replied to or counts no card, and then nothing
else is sent. A card is found exactly if the listing counts one and its first card is read, the next three replies begin with
their response codes, and the last one brings a status of zero, behind which the card's answer stands; number and answer to the
attribute command are the listed ones. Else the poll fails, at the first reply that does not fit. However it ends, no item is
known behind it, and of the registers at most that every bit of the last byte is sent. -/
theorem pollB_script (d : Driver .ready (Tapped σ)) :
    ∃ (afi : UInt8) (replies : List Reply) (outcome : Poll TypeBTarget) (d' : Driver .ready (Tapped σ)),
      pollB.Ends d (.ok outcome) d' ∧
      Heard (((pollBodies afi).take replies.length).map (askingMove d.settings.commandTimeout)) d.link replies d'.link ∧
      (∃ made, d'.link.channel.calls = d.link.channel.calls ++ made ∧
        deeds made = ((pollBodies afi).take replies.length).map fun body => .send (Frame.mk Frame.hostMarker body).wire) ∧
      (replies.length = 5 → ∃ reply, replies[0]? = some (.ok (some reply)) ∧ reply[8]? = some afi) ∧
      (outcome = .notFound ↔
        replies = [.ok none] ∨ ∃ reply, replies = [.ok (some reply)] ∧ reply[1]? = some 0) ∧
      (∀ t, outcome = .found t ↔ ∃ code count data listed used one two three sensbRes,
        replies = [.ok (some (code :: count :: data)), .ok (some (0x09 :: one)), .ok (some (0x43 :: two)),
          .ok (some (0x09 :: three)), .ok (some (0x43 :: 0x00 :: sensbRes))] ∧
        count ≠ 0 ∧ TypeBTarget.ofBlock data = .ok (listed, used) ∧ t = { listed with sensbRes }) ∧
      (∀ fault, outcome = .failed fault → ∃ k last, replies.length = k + 1 ∧ replies[k]? = some last ∧ ¬Fits k last) ∧
      Listed d' := by
  obtain ⟨replies, outcome, d', hends, hcourse⟩ := pollB_course d
  obtain ⟨afi, hafi, hheard⟩ := hcourse.heard
  obtain ⟨hnone, hfound, hfailed⟩ := hcourse.outcome
  have hmoves : ∀ move ∈ ((pollBodies afi).take replies.length).map (askingMove d.settings.commandTimeout),
      move.call.isDeed = true := by
    intro move hmem
    obtain ⟨body, -, rfl⟩ := List.mem_map.1 hmem
    exact Call.isDeed_wire _
  obtain ⟨made, hcalls, hdeeds⟩ := hheard.deeds hmoves
  have hlisted := listed_pollB d
  rw [hends.2] at hlisted
  refine ⟨afi, replies, outcome, d', hends, hheard, ⟨made, hcalls, ?_⟩, hafi, hnone.trans ?_, fun t => (hfound t).trans ?_,
    hfailed, hlisted⟩
  · rw [hdeeds, List.map_map]
    rfl
  · constructor
    · rintro ⟨first, rfl, rfl | ⟨reply, rfl, hzero⟩⟩
      · exact Or.inl rfl
      · exact Or.inr ⟨reply, rfl, hzero⟩
    · rintro (rfl | ⟨reply, rfl, hzero⟩)
      · exact ⟨_, rfl, Or.inl rfl⟩
      · exact ⟨_, rfl, Or.inr ⟨reply, rfl, hzero⟩⟩
  · constructor
    · rintro ⟨first, listed, one, two, three, sensbRes, ⟨code, count, data, used, rfl, hcount, hread⟩, hreplies, ht⟩
      exact ⟨code, count, data, listed, used, one, two, three, sensbRes, hreplies, hcount, hread, ht⟩
    · rintro ⟨code, count, data, listed, used, one, two, three, sensbRes, hreplies, hcount, hread, ht⟩
      exact ⟨_, listed, one, two, three, sensbRes, ⟨code, count, data, used, rfl, hcount, hread⟩, hreplies, ht⟩

end NfcHost.Driver
