import NfcHost.Reader.Canned
import NfcHost.Tag
import NfcHost.Proofs.Contract

/-!
# Exchanges in turn

A transaction and a run of commands drive a reader through one exchange after the other, each from the state the one before
left, and stop at the first that disappoints. `turns` lists what the exchanges come to when nothing stops them, and
`stateAfter` is the state they leave. Against these, `transact_stops` and `transceiveAll_all_or_nothing` say where each run
stops, what it ends in and which exchanges it made, for every reader: a reader whose state records its calls is one of them.
-/

namespace NfcHost

namespace Act

variable {ρ ι α : Type}

/-- The outcomes of actions run one after the other, however each of them ends. -/
def turns (act : ι → Act ρ α) : ρ → List ι → List (Outcome ρ α)
  | _, [] => []
  | s, x :: xs => (act x).run s :: turns act ((act x).run s).state xs

/-- The state that actions run one after the other leave. -/
def stateAfter (act : ι → Act ρ α) (s : ρ) (xs : List ι) : ρ := xs.foldl (fun t x => ((act x).run t).state) s

/-- Turn `k` ends in a value that is good for that turn. -/
def PassesAt (act : ι → Act ρ α) (s : ρ) (xs : List ι) (good : Nat → α → Prop) (k : Nat) : Prop :=
  ∃ o v, (turns act s xs)[k]? = some o ∧ o.result = .ok v ∧ good k v

@[simp] theorem turns_nil (act : ι → Act ρ α) (s : ρ) : turns act s [] = [] := rfl

@[simp] theorem turns_cons (act : ι → Act ρ α) (s : ρ) (x : ι) (xs : List ι) :
    turns act s (x :: xs) = (act x).run s :: turns act ((act x).run s).state xs := rfl

@[simp] theorem stateAfter_nil (act : ι → Act ρ α) (s : ρ) : stateAfter act s [] = s := rfl

@[simp] theorem stateAfter_cons (act : ι → Act ρ α) (s : ρ) (x : ι) (xs : List ι) :
    stateAfter act s (x :: xs) = stateAfter act ((act x).run s).state xs := rfl

/-- The action of a turn runs from the state that those before it leave. -/
theorem getElem?_turns (act : ι → Act ρ α) (s : ρ) (xs : List ι) (k : Nat) :
    (turns act s xs)[k]? = xs[k]?.map fun x => (act x).run (stateAfter act s (xs.take k)) := by
  induction xs generalizing s k with
  | nil => rfl
  | cons x xs ih =>
    cases k with
    | zero => rfl
    | succ k => simp [ih]

@[simp] theorem length_turns (act : ι → Act ρ α) (s : ρ) (xs : List ι) : (turns act s xs).length = xs.length := by
  induction xs generalizing s with
  | nil => rfl
  | cons x xs ih => simp [ih]

theorem passesAt_zero {act : ι → Act ρ α} {s : ρ} {x : ι} {xs : List ι} {good : Nat → α → Prop} :
    PassesAt act s (x :: xs) good 0 ↔ ∃ v, ((act x).run s).result = .ok v ∧ good 0 v := by
  simp [PassesAt]

theorem passesAt_succ {act : ι → Act ρ α} {s : ρ} {x : ι} {xs : List ι} {good : Nat → α → Prop} {k : Nat} :
    PassesAt act s (x :: xs) good (k + 1) ↔ PassesAt act ((act x).run s).state xs (fun i => good (i + 1)) k := Iff.rfl

/-- If the turns before `k + 1` pass, so does the first, and after it those before `k`. -/
theorem passesAt_before_succ {act : ι → Act ρ α} {s : ρ} {x : ι} {xs : List ι} {good : Nat → α → Prop} {k : Nat}
    (h : ∀ i < k + 1, PassesAt act s (x :: xs) good i) :
    (∃ v, ((act x).run s).result = .ok v ∧ good 0 v) ∧
      ∀ i < k, PassesAt act ((act x).run s).state xs (fun i => good (i + 1)) i :=
  ⟨passesAt_zero.1 (h 0 k.succ_pos), fun i hi => passesAt_succ.1 (h (i + 1) (Nat.succ_lt_succ hi))⟩

end Act

/-! ## What meets an expectation -/

namespace Expectation

/-- Bytes are accepted as they are, or behind a status byte of zero if they are there and do not start with a zero. -/
theorem accepts_iff (expected actual : Bytes) :
    accepts expected actual = true ↔
      actual = expected ∨ (expected ≠ [] ∧ expected.head? ≠ some 0 ∧ actual = 0 :: expected) := by
  cases expected with
  | nil => cases actual <;> simp [accepts]
  | cons e es =>
    cases actual with
    | nil => simp [accepts]
    | cons status rest =>
      have hstatus : (e != 0 && status == 0 && e :: es == rest) = true ↔ e ≠ 0 ∧ status = 0 ∧ rest = e :: es := by
        simp [and_assoc, @eq_comm _ rest]
      rw [accepts, Bool.or_eq_true, hstatus, beq_iff_eq, @eq_comm _ (e :: es)]
      simp

/-- Only an expectation of anything is met by a response that is missing. -/
theorem matchedBy_none_iff (e : Expectation) : e.matchedBy none = true ↔ e = any := by
  cases e <;> simp [matchedBy]

end Expectation

/-! ## Transactions -/

namespace Tag

variable {ρ : Type} [Reader ρ]

/-- An exchange with the tag's target, with the timeout that the reader has at that moment. -/
def exchange (tag : Tag) (command : Bytes) : Act ρ (Option Bytes) := fun s =>
  (Reader.exchangeWith tag.target.number command (Reader.exchangeTimeout s)).run s

theorem transceive_eq_exchange (tag : Tag) (command : Bytes) :
    (tag.transceive command : Act ρ (Option Bytes)) = tag.exchange command := by
  refine Act.ext_run fun s => ?_
  rw [transceive, Act.run_bind, Act.run_look, Outcome.andThen_ok, Outcome.after_nil]
  rfl

/-- A response is what a transaction expects at a position. -/
def MeetsAt (expected : List Expectation) (k : Nat) (response : Option Bytes) : Prop :=
  ∃ e, expected[k]? = some e ∧ e.matchedBy response = true

section Steps

variable {tag : Tag} {command : Bytes} {e : Expectation} {rest : List (Bytes × Expectation)} {s : ρ}

/-- A response that meets what is expected leads to the next step. -/
theorem ends_runSteps_met {r : Option Bytes} {result : Except Fault Bool} {s' : ρ}
    (h : ((tag.exchange command : Act ρ _).run s).result = .ok r) (he : e.matchedBy r = true)
    (hrest : (tag.runSteps rest).Ends ((tag.exchange command : Act ρ _).run s).state result s') :
    (tag.runSteps ((command, e) :: rest)).Ends s result s' := by
  rw [runSteps, transceive_eq_exchange]
  refine Act.Ends.bind ⟨h, rfl⟩ ?_
  rw [if_pos he]
  exact hrest

/-- A step that does not pass is the last: the transaction ends in its fault, or says that it failed. -/
theorem ends_runSteps_stop (h : ∀ r, ((tag.exchange command : Act ρ _).run s).result = .ok r → ¬e.matchedBy r = true) :
    (tag.runSteps ((command, e) :: rest)).Ends s (((tag.exchange command : Act ρ _).run s).result.map fun _ => false)
      ((tag.exchange command : Act ρ _).run s).state := by
  rw [runSteps, transceive_eq_exchange]
  cases hr : ((tag.exchange command : Act ρ _).run s).result with
  | error fault => exact Act.Ends.bind_error ⟨hr, rfl⟩
  | ok r =>
    refine Act.Ends.bind ⟨hr, rfl⟩ ?_
    rw [if_neg (h r hr)]
    exact (Act.Ends.tell _ _ _).bind (Act.Ends.done false _)

end Steps

/-- The first step that does not pass ends a run of steps. -/
theorem ends_runSteps_of_stop (tag : Tag) {commands : List Bytes} {expected : List Expectation} {s : ρ} {k : Nat}
    {o : Outcome ρ (Option Bytes)} (ho : (Act.turns tag.exchange s commands)[k]? = some o) (hk : k < expected.length)
    (hbefore : ∀ i < k, Act.PassesAt tag.exchange s commands (MeetsAt expected) i)
    (hstop : ¬Act.PassesAt tag.exchange s commands (MeetsAt expected) k) :
    (tag.runSteps (commands.zip expected)).Ends s (o.result.map fun _ => false)
      (Act.stateAfter tag.exchange s (commands.take (k + 1))) := by
  induction commands generalizing s k expected with
  | nil => nomatch ho
  | cons command commands ih =>
    cases expected with
    | nil => exact absurd hk (Nat.not_lt_zero k)
    | cons e expected =>
      cases k with
      | zero =>
        obtain rfl : (tag.exchange command).run s = o := by simpa using ho
        refine ends_runSteps_stop fun r hr hmet => hstop ?_
        exact Act.passesAt_zero.2 ⟨r, hr, e, rfl, hmet⟩
      | succ k =>
        obtain ⟨⟨r, hr, _, hfirst, hmet⟩, hlater⟩ := Act.passesAt_before_succ hbefore
        obtain rfl : e = _ := Option.some.inj hfirst
        exact ends_runSteps_met hr hmet (ih ho (Nat.lt_of_succ_lt_succ hk) hlater hstop)

/-- If every step passes, all of them are made. -/
theorem ends_runSteps_of_all (tag : Tag) {commands : List Bytes} {expected : List Expectation} {s : ρ}
    (h : ∀ i < min commands.length expected.length, Act.PassesAt tag.exchange s commands (MeetsAt expected) i) :
    (tag.runSteps (commands.zip expected)).Ends s (.ok true)
      (Act.stateAfter tag.exchange s (commands.take (min commands.length expected.length))) := by
  induction commands generalizing s expected with
  | nil => exact Act.Ends.done true s
  | cons command commands ih =>
    cases expected with
    | nil => exact Act.Ends.done true s
    | cons e expected =>
      rw [List.length_cons, List.length_cons, Nat.succ_min_succ] at h ⊢
      obtain ⟨⟨r, hr, _, hfirst, hmet⟩, hlater⟩ := Act.passesAt_before_succ h
      obtain rfl : e = _ := Option.some.inj hfirst
      exact ends_runSteps_met hr hmet (ih hlater)

/-- The announcement of a transaction changes nothing. -/
theorem ends_transact {tag : Tag} {commands : List Bytes} {expected : List Expectation} {s s' : ρ} {r : Except Fault Bool}
    (h : (tag.runSteps (commands.zip expected)).Ends s r s') : (tag.transact commands expected).Ends s r s' :=
  (Act.Ends.tell _ _ s).bind h

/-- A transaction stops at the first failure. With `n` the length of the shorter list, the exchanges run in order, each with
its command and the timeout of the moment, and end with the first of the `n` that ends in a fault or whose response does not
meet what is expected of it; the transaction ends in that fault, or says that it failed, and leaves the state that these
exchanges leave. Where there is no such exchange, all `n` are made and the transaction says so. -/
theorem transact_stops (tag : Tag) (commands : List Bytes) (expected : List Expectation) (s : ρ) :
    (∀ k o, (Act.turns tag.exchange s commands)[k]? = some o → k < expected.length →
        (∀ i < k, Act.PassesAt tag.exchange s commands (MeetsAt expected) i) →
        ¬Act.PassesAt tag.exchange s commands (MeetsAt expected) k →
        (tag.transact commands expected).Ends s (o.result.map fun _ => false)
          (Act.stateAfter tag.exchange s (commands.take (k + 1)))) ∧
      ((∀ i < min commands.length expected.length, Act.PassesAt tag.exchange s commands (MeetsAt expected) i) →
        (tag.transact commands expected).Ends s (.ok true)
          (Act.stateAfter tag.exchange s (commands.take (min commands.length expected.length)))) ∧
      (∀ k command, commands[k]? = some command →
        (Act.turns tag.exchange s commands)[k]? =
          let before := Act.stateAfter tag.exchange s (commands.take k)
          some ((Reader.exchangeWith tag.target.number command (Reader.exchangeTimeout before)).run before)) ∧
      (∀ e r : Bytes, (Expectation.bytes e).matchedBy (some r) = true ↔
        r = e ∨ (e ≠ [] ∧ e.head? ≠ some 0 ∧ r = 0 :: e)) ∧
      (∀ r, Expectation.any.matchedBy r = true) ∧
      ∀ e : Expectation, e.matchedBy none = true ↔ e = .any := by
  refine ⟨?_, ?_, ?_, Expectation.accepts_iff, fun _ => rfl, Expectation.matchedBy_none_iff⟩
  · intro k o ho hk hbefore hstop
    exact ends_transact (ends_runSteps_of_stop tag ho hk hbefore hstop)
  · intro hall
    exact ends_transact (ends_runSteps_of_all tag hall)
  · intro k command hcommand
    rw [Act.getElem?_turns, hcommand]
    rfl

end Tag

/-! ## Commands in a run -/

namespace Reader

variable {ρ : Type} [Reader ρ]

section Steps

variable {apdu : Bytes} {apdus : List Bytes} {s s' : ρ}

/-- A response leads to the next command, and stands before the responses to those. -/
theorem ends_transceiveAll_response {r : Bytes} {result : Except Fault (Option (List Bytes))}
    (h : ((transceive apdu : Act ρ _).run s).result = .ok (some r))
    (hrest : (transceiveAll apdus).Ends ((transceive apdu : Act ρ _).run s).state result s') :
    (transceiveAll (apdu :: apdus)).Ends s (result.map (Option.map (r :: ·))) s' := by
  rw [transceiveAll]
  refine Act.Ends.bind ⟨h, rfl⟩ ?_
  cases result with
  | error fault => exact Act.Ends.bind_error hrest
  | ok rs => exact hrest.bind (Act.Ends.done _ _)

/-- A command that brings back no response is the last. -/
theorem ends_transceiveAll_stop (h : ∀ r, ((transceive apdu : Act ρ _).run s).result ≠ .ok (some r)) :
    (transceiveAll (apdu :: apdus)).Ends s (((transceive apdu : Act ρ _).run s).result.map fun _ => none)
      ((transceive apdu : Act ρ _).run s).state := by
  rw [transceiveAll]
  match hr : ((transceive apdu : Act ρ _).run s).result with
  | .error fault => exact Act.Ends.bind_error ⟨hr, rfl⟩
  | .ok none => exact Act.Ends.bind ⟨hr, rfl⟩ (Act.Ends.done none _)
  | .ok (some r) => exact absurd hr (h r)

end Steps

/-- The turn brought back a response. -/
def Responds (_ : Nat) (response : Option Bytes) : Prop := response.isSome

/-- The first command that brings back no response ends the run. -/
theorem ends_transceiveAll_of_stop {apdus : List Bytes} {s : ρ} {k : Nat} {o : Outcome ρ (Option Bytes)}
    (ho : (Act.turns transceive s apdus)[k]? = some o)
    (hbefore : ∀ i < k, Act.PassesAt transceive s apdus Responds i)
    (hstop : ¬Act.PassesAt transceive s apdus Responds k) :
    (transceiveAll apdus).Ends s (o.result.map fun _ => none) (Act.stateAfter transceive s (apdus.take (k + 1))) := by
  induction apdus generalizing s k with
  | nil => nomatch ho
  | cons apdu apdus ih =>
    cases k with
    | zero =>
      obtain rfl : (transceive apdu).run s = o := by simpa using ho
      exact ends_transceiveAll_stop fun r hr => hstop (Act.passesAt_zero.2 ⟨some r, hr, rfl⟩)
    | succ k =>
      obtain ⟨⟨v, hv, hsome⟩, hlater⟩ := Act.passesAt_before_succ hbefore
      obtain ⟨r, rfl⟩ := Option.isSome_iff_exists.1 hsome
      have hrest := ends_transceiveAll_response hv (ih ho hlater hstop)
      rwa [show (o.result.map fun _ => (none : Option (List Bytes))).map (Option.map (r :: ·)) = o.result.map fun _ => none
        from by cases o.result <;> rfl] at hrest

/-- If every command brings back a response, the run ends in all of them. -/
theorem ends_transceiveAll_of_all {apdus rs : List Bytes} {s : ρ}
    (h : (Act.turns transceive s apdus).map Outcome.result = rs.map fun r => .ok (some r)) :
    (transceiveAll apdus).Ends s (.ok (some rs)) (Act.stateAfter transceive s apdus) := by
  induction apdus generalizing s rs with
  | nil =>
    obtain rfl : rs = [] := List.map_eq_nil_iff.1 h.symm
    exact Act.Ends.done _ s
  | cons apdu apdus ih =>
    cases rs with
    | nil => nomatch h
    | cons r rs =>
      simp only [Act.turns_cons, List.map_cons, List.cons.injEq] at h
      exact ends_transceiveAll_response h.1 (ih h.2)

/-- A run that ends in responses has one for each command. -/
theorem responses_of_transceiveAll {apdus rs : List Bytes} {s : ρ}
    (h : ((transceiveAll apdus).run s).result = .ok (some rs)) :
    (Act.turns transceive s apdus).map Outcome.result = rs.map fun r => .ok (some r) := by
  induction apdus generalizing s rs with
  | nil =>
    obtain rfl : [] = rs := by simpa [transceiveAll] using h
    rfl
  | cons apdu apdus ih =>
    by_cases hr : ∃ r, ((transceive apdu : Act ρ _).run s).result = .ok (some r)
    · obtain ⟨r, hr⟩ := hr
      rw [(ends_transceiveAll_response hr (Act.Ends.of_run _ _)).1] at h
      match hrest : ((transceiveAll apdus).run ((transceive apdu : Act ρ _).run s).state).result with
      | .error fault => rw [hrest] at h; nomatch h
      | .ok none => rw [hrest] at h; nomatch h
      | .ok (some rs') =>
        rw [hrest] at h
        obtain rfl : r :: rs' = rs := Option.some.inj (Except.ok.inj h)
        rw [Act.turns_cons, List.map_cons, List.map_cons, hr, ih hrest]
    · rw [(ends_transceiveAll_stop fun r h => hr ⟨r, h⟩).1] at h
      cases hres : ((transceive apdu : Act ρ _).run s).result <;> rw [hres] at h <;> nomatch h

/-- A run of commands is all or nothing. It ends in responses exactly when every command, from the state that those before
it leave, brings one back: then there is one for each command, in order, and every command was sent. Otherwise it ends with
the first command that brings back none: in nothing, or in the fault, and in the state that the commands up to that one
leave. -/
theorem transceiveAll_all_or_nothing (apdus : List Bytes) (s : ρ) :
    (∀ rs, ((transceiveAll apdus).run s).result = .ok (some rs) ↔
        (Act.turns transceive s apdus).map Outcome.result = rs.map fun r => .ok (some r)) ∧
      (∀ rs, ((transceiveAll apdus).run s).result = .ok (some rs) →
        ((transceiveAll apdus).run s).state = Act.stateAfter transceive s apdus ∧ rs.length = apdus.length ∧
          ∀ i apdu, apdus[i]? = some apdu → ∃ r, rs[i]? = some r ∧
            ((transceive apdu).run (Act.stateAfter transceive s (apdus.take i))).result = .ok (some r)) ∧
      ∀ k o, (Act.turns transceive s apdus)[k]? = some o →
        (∀ i < k, Act.PassesAt transceive s apdus Responds i) → ¬Act.PassesAt transceive s apdus Responds k →
        (transceiveAll apdus).Ends s (o.result.map fun _ => none) (Act.stateAfter transceive s (apdus.take (k + 1))) := by
  refine ⟨fun rs => ⟨responses_of_transceiveAll, fun h => (ends_transceiveAll_of_all h).1⟩, ?_, ?_⟩
  · intro rs hrs
    have hturns := responses_of_transceiveAll hrs
    refine ⟨(ends_transceiveAll_of_all hturns).2, ?_, ?_⟩
    · simpa using congrArg List.length hturns.symm
    · intro i apdu hapdu
      have hi := congrArg (·[i]?) hturns
      simp only [List.getElem?_map, Act.getElem?_turns, hapdu, Option.map_some] at hi
      obtain ⟨r, hr, heq⟩ := Option.map_eq_some_iff.1 hi.symm
      exact ⟨r, hr, heq.symm⟩
  · intro k o ho hbefore hstop
    exact ends_transceiveAll_of_stop ho hbefore hstop

/-- Behind a silence nothing is sent. -/
example : ((transceiveAll [[0x01], [0x02], [0x03]]).run (⟨[.ok (some [0x90]), .ok none], []⟩ : CannedReader)).state.sent =
    [[0x01], [0x02]] := rfl

end Reader

end NfcHost
