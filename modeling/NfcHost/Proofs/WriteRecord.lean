import Mathlib.Data.List.Induction
import Mathlib.Data.List.Nodup
import NfcHost.Channel.Memory

/-!
# The record of writes

A channel in memory keeps every write on record until it is taken off. Whatever is sent and taken in between, no write is lost
and none is taken twice, and what is left stands in the order of writing. But the record is a stack: a write is taken before
the older ones that are still there, so that the writes come out oldest first is false (`oldest_first_false`). They do as long
as no more than one stands on record whenever one is taken (`takes_latest`).
-/

namespace NfcHost.MemoryChannel

/-- A call that concerns the record of writes. -/
inductive RecordCall where
  | send (bytes : Bytes)
  | take

/-- What a call takes off the record, and the channel behind it. -/
def RecordCall.on : RecordCall → MemoryChannel → Option Bytes × MemoryChannel
  | send bytes, c => (none, ((Channel.send bytes).run c).state)
  | take, c => c.takeSent

/-- The channel behind the calls. -/
def afterCalls (calls : List RecordCall) (c : MemoryChannel) : MemoryChannel := calls.foldl (fun c call => (call.on c).2) c

/-- What the calls take off the record, in the order of taking. -/
def takenIn : List RecordCall → MemoryChannel → List Bytes
  | [], _ => []
  | call :: calls, c => (call.on c).1.toList ++ takenIn calls (call.on c).2

/-- What the calls write, in the order of writing. -/
def sentIn (calls : List RecordCall) : List Bytes :=
  calls.filterMap fun
    | .send bytes => some bytes
    | .take => none

/-- The calls take off what they write, and nothing else: every write is followed by the taking that it belongs to, as an
opening bracket by the closing one. -/
inductive PairedOff : List RecordCall → Prop where
  | nil : PairedOff []
  | pair (bytes : Bytes) {between rest : List RecordCall} : PairedOff between → PairedOff rest →
    PairedOff (.send bytes :: (between ++ .take :: rest))

/-- No taking finds more than one write on record. -/
def NeverCrowded (calls : List RecordCall) (c : MemoryChannel) : Prop :=
  ∀ early late, calls = early ++ .take :: late → (afterCalls early c).sent.length ≤ 1

/-! ## One call -/

section Call

variable {c : MemoryChannel}

/-- Nothing is taken off an empty record. -/
theorem on_take_empty (h : c.sent = []) : RecordCall.take.on c = (none, c) := by
  obtain ⟨sent, incoming, reads, inputResets, flushes⟩ := c
  obtain rfl : sent = [] := h
  rfl

/-- The last write on record is taken. -/
theorem on_take_concat {older : List Bytes} {bytes : Bytes} (h : c.sent = older ++ [bytes]) :
    RecordCall.take.on c = (some bytes, { c with sent := older }) := by
  simp [RecordCall.on, takeSent, h]

@[simp] theorem afterCalls_nil : afterCalls [] c = c := rfl

@[simp] theorem afterCalls_cons (call : RecordCall) (calls : List RecordCall) :
    afterCalls (call :: calls) c = afterCalls calls (call.on c).2 := rfl

@[simp] theorem afterCalls_append (calls more : List RecordCall) :
    afterCalls (calls ++ more) c = afterCalls more (afterCalls calls c) := List.foldl_append

@[simp] theorem sent_on_send (bytes : Bytes) : ((RecordCall.send bytes).on c).2.sent = c.sent ++ [bytes] := rfl

@[simp] theorem takenIn_send (bytes : Bytes) (calls : List RecordCall) :
    takenIn (.send bytes :: calls) c = takenIn calls ((RecordCall.send bytes).on c).2 := rfl

theorem takenIn_take_empty (calls : List RecordCall) (h : c.sent = []) : takenIn (.take :: calls) c = takenIn calls c := by
  rw [takenIn, on_take_empty h]
  rfl

theorem takenIn_take_concat (calls : List RecordCall) {older : List Bytes} {bytes : Bytes} (h : c.sent = older ++ [bytes]) :
    takenIn (.take :: calls) c = bytes :: takenIn calls { c with sent := older } := by
  rw [takenIn, on_take_concat h]
  rfl

@[simp] theorem sentIn_send (bytes : Bytes) (calls : List RecordCall) :
    sentIn (.send bytes :: calls) = bytes :: sentIn calls := rfl

@[simp] theorem sentIn_take (calls : List RecordCall) : sentIn (.take :: calls) = sentIn calls := rfl

end Call

/-! ## Nothing is lost or taken twice -/

/-- What is taken and what is left are the writes that were on record and those that were sent. -/
theorem taken_left_perm (calls : List RecordCall) (c : MemoryChannel) :
    (takenIn calls c ++ (afterCalls calls c).sent).Perm (c.sent ++ sentIn calls) := by
  induction calls generalizing c with
  | nil => simp [takenIn, sentIn]
  | cons call calls ih =>
    cases call with
    | send bytes => simpa using ih ((RecordCall.send bytes).on c).2
    | take =>
      obtain hempty | ⟨older, bytes, hsent⟩ := List.eq_nil_or_concat' c.sent
      · rw [takenIn_take_empty calls hempty, afterCalls_cons, on_take_empty hempty, sentIn_take]
        exact ih c
      · rw [takenIn_take_concat calls hsent, afterCalls_cons, on_take_concat hsent, sentIn_take, hsent, List.append_assoc]
        exact ((ih { c with sent := older }).cons bytes).trans List.perm_middle.symm

/-- What is left is in the order of writing. -/
theorem left_sublist (calls : List RecordCall) (c : MemoryChannel) :
    (afterCalls calls c).sent.Sublist (c.sent ++ sentIn calls) := by
  induction calls generalizing c with
  | nil => simp [sentIn]
  | cons call calls ih =>
    cases call with
    | send bytes => simpa using ih ((RecordCall.send bytes).on c).2
    | take =>
      obtain hempty | ⟨older, bytes, hsent⟩ := List.eq_nil_or_concat' c.sent
      · rw [afterCalls_cons, on_take_empty hempty, sentIn_take]
        exact ih c
      · rw [afterCalls_cons, on_take_concat hsent, sentIn_take, hsent]
        exact (ih { c with sent := older }).trans ((List.sublist_append_left older [bytes]).append (List.Sublist.refl _))

/-! ## The record is a stack -/

/-- Calls that are paired off leave the channel as it was. -/
theorem PairedOff.afterCalls {calls : List RecordCall} (h : PairedOff calls) (c : MemoryChannel) : afterCalls calls c = c := by
  induction h generalizing c with
  | nil => rfl
  | pair bytes _ _ ihbetween ihrest =>
    rw [afterCalls_cons, afterCalls_append, ihbetween, afterCalls_cons, on_take_concat (sent_on_send bytes), ihrest]
    rfl

theorem PairedOff.append {calls more : List RecordCall} (h : PairedOff calls) (h' : PairedOff more) :
    PairedOff (calls ++ more) := by
  induction h with
  | nil => exact h'
  | pair bytes hbetween _ _ ihrest =>
    rw [List.cons_append, List.append_assoc, List.cons_append]
    exact .pair bytes hbetween ihrest

/-- How a record came about: each write on it was sent behind the older ones, and all that was sent and taken in between is
paired off. -/
inductive Stacked (c : MemoryChannel) : List RecordCall → List Bytes → Prop where
  | bottom {calls : List RecordCall} : (afterCalls calls c).sent = [] → Stacked c calls []
  | send {early late : List RecordCall} {older : List Bytes} (bytes : Bytes) : Stacked c early older → PairedOff late →
    Stacked c (early ++ .send bytes :: late) (older ++ [bytes])

/-- What is paired off changes nothing in a record. -/
theorem Stacked.append {c : MemoryChannel} {calls more : List RecordCall} {sent : List Bytes} (h : Stacked c calls sent)
    (hmore : PairedOff more) : Stacked c (calls ++ more) sent := by
  cases h with
  | bottom hempty =>
    refine .bottom ?_
    rw [afterCalls_append, hmore.afterCalls, hempty]
  | send bytes hearly hlate =>
    rw [List.append_assoc, List.cons_append]
    exact .send bytes hearly (hlate.append hmore)

/-- A record that was empty at first came about so. -/
theorem stacked_afterCalls {c : MemoryChannel} (hc : c.sent = []) (calls : List RecordCall) :
    Stacked c calls (afterCalls calls c).sent := by
  induction calls using List.reverseRecOn with
  | nil => exact hc.symm ▸ .bottom hc
  | append_singleton calls call ih =>
    rw [afterCalls_append]
    generalize hsent : (afterCalls calls c).sent = sent at ih
    cases call with
    | send bytes =>
      rw [afterCalls_cons, afterCalls_nil, sent_on_send, hsent]
      exact .send bytes ih .nil
    | take =>
      cases ih with
      | bottom =>
        rw [afterCalls_cons, afterCalls_nil, on_take_empty hsent, hsent]
        refine .bottom ?_
        rw [afterCalls_append, afterCalls_cons, afterCalls_nil, on_take_empty hsent, hsent]
      | send bytes hearly hlate =>
        -- the taking closes the pair of the last write, and the record is the older one again
        rw [afterCalls_cons, afterCalls_nil, on_take_concat hsent, List.append_assoc, List.cons_append]
        exact hearly.append (.pair bytes hlate .nil)

/-- A taking answers the write behind which everything is paired off. -/
theorem takeSent_eq_some_iff {c : MemoryChannel} (hc : c.sent = []) (calls : List RecordCall) (bytes : Bytes) :
    (afterCalls calls c).takeSent.1 = some bytes ↔ ∃ early late, calls = early ++ .send bytes :: late ∧ PairedOff late := by
  constructor
  · intro h
    have hstacked := stacked_afterCalls hc calls
    obtain ⟨older, hsent⟩ := List.getLast?_eq_some_iff.1 h
    generalize (afterCalls calls c).sent = sent at hstacked hsent
    cases hstacked with
    | bottom => exact absurd hsent (by simp)
    | @send early late _ _ _ hlate =>
      obtain ⟨-, hlast⟩ := List.append_inj' hsent rfl
      obtain rfl := (List.cons.inj hlast).1
      exact ⟨early, late, rfl, hlate⟩
  · rintro ⟨early, late, rfl, hlate⟩
    rw [afterCalls_append, afterCalls_cons, hlate.afterCalls]
    exact List.getLast?_concat

/-! ## When the writes come out oldest first -/

theorem neverCrowded_nil (c : MemoryChannel) : NeverCrowded [] c := by
  intro early late hcalls
  simp at hcalls

/-- A row of calls is never crowded if the first call is not and the calls behind it are not. -/
theorem neverCrowded_cons {call : RecordCall} {calls : List RecordCall} {c : MemoryChannel} :
    NeverCrowded (call :: calls) c ↔ (call = .take → c.sent.length ≤ 1) ∧ NeverCrowded calls (call.on c).2 := by
  constructor
  · intro h
    refine ⟨?_, fun early late hcalls => h (call :: early) late (congrArg _ hcalls)⟩
    rintro rfl
    exact h [] calls rfl
  · rintro ⟨hfirst, hrest⟩ early late hcalls
    obtain _ | ⟨first, early⟩ := early
    · exact hfirst (List.cons.inj hcalls).1
    · obtain ⟨rfl, htail⟩ := List.cons.inj hcalls
      exact hrest early late htail

/-- As long as no more than one write stands on record whenever one is taken, the writes come out oldest first. -/
theorem oldest_first {calls : List RecordCall} {c : MemoryChannel} (h : NeverCrowded calls c) :
    takenIn calls c ++ (afterCalls calls c).sent = c.sent ++ sentIn calls := by
  induction calls generalizing c with
  | nil => simp [takenIn, sentIn]
  | cons call calls ih =>
    obtain ⟨hfirst, hrest⟩ := neverCrowded_cons.1 h
    cases call with
    | send bytes => simpa using ih hrest
    | take =>
      obtain hempty | ⟨older, bytes, hsent⟩ := List.eq_nil_or_concat' c.sent
      · rw [on_take_empty hempty] at hrest
        rw [takenIn_take_empty calls hempty, afterCalls_cons, on_take_empty hempty, sentIn_take]
        exact ih hrest
      · -- the record holds the one write that is taken
        obtain rfl : older = [] := by
          have hlength := hfirst rfl
          rw [hsent, List.length_append, List.length_singleton] at hlength
          exact List.eq_nil_of_length_eq_zero (by omega)
        rw [on_take_concat hsent] at hrest
        rw [takenIn_take_concat calls hsent, afterCalls_cons, on_take_concat hsent, sentIn_take, hsent]
        exact congrArg (bytes :: ·) (ih hrest)

/-- Writes that can be told apart come out oldest first only then. -/
theorem neverCrowded_of_oldest_first {calls : List RecordCall} {c : MemoryChannel} (hapart : (c.sent ++ sentIn calls).Nodup)
    (h : takenIn calls c ++ (afterCalls calls c).sent = c.sent ++ sentIn calls) : NeverCrowded calls c := by
  induction calls generalizing c with
  | nil => exact neverCrowded_nil c
  | cons call calls ih =>
    cases call with
    | send bytes =>
      refine neverCrowded_cons.2 ⟨nofun, ih ?_ ?_⟩
      · simpa using hapart
      · simpa using h
    | take =>
      obtain hempty | ⟨older, bytes, hsent⟩ := List.eq_nil_or_concat' c.sent
      · rw [takenIn_take_empty calls hempty, afterCalls_cons, on_take_empty hempty] at h
        refine neverCrowded_cons.2 ⟨fun _ => by simp [hempty], ?_⟩
        rw [on_take_empty hempty]
        exact ih hapart h
      · rw [takenIn_take_concat calls hsent, afterCalls_cons, on_take_concat hsent, sentIn_take, hsent] at h
        rw [sentIn_take, hsent] at hapart
        obtain _ | ⟨oldest, others⟩ := older
        · refine neverCrowded_cons.2 ⟨fun _ => by simp [hsent], ?_⟩
          rw [on_take_concat hsent]
          exact ih (List.nodup_cons.1 hapart).2 (List.cons.inj h).2
        · -- the latest write would have to be the oldest one as well
          obtain rfl := (List.cons.inj h).1
          exact absurd hapart (by simp)

/-! ## What a taking answers -/

/-- What sends and takings in any order do to a fresh channel. No write is lost and none is taken twice, and what is left is in
the order of writing. A taking answers the latest write that is still there: the one behind which all that was sent and taken
is paired off. So the writes come out oldest first as long as no more than one stands on record whenever one is taken, and
writes that can be told apart do so only then. -/
theorem takes_latest (calls : List RecordCall) :
    let c := afterCalls calls {}
    (takenIn calls {} ++ c.sent).Perm (sentIn calls) ∧ c.sent.Sublist (sentIn calls) ∧
    (∀ bytes, c.takeSent.1 = some bytes ↔ ∃ early late, calls = early ++ .send bytes :: late ∧ PairedOff late) ∧
    (NeverCrowded calls {} → takenIn calls {} ++ c.sent = sentIn calls) ∧
    ((sentIn calls).Nodup → takenIn calls {} ++ c.sent = sentIn calls → NeverCrowded calls {}) :=
  ⟨taken_left_perm calls {}, left_sublist calls {}, takeSent_eq_some_iff rfl calls, oldest_first,
    neverCrowded_of_oldest_first (c := {})⟩

/-- Two writes of which the first is taken before the second is sent. -/
theorem takes_latest_one_by_one :
    let calls : List RecordCall := [.send [0x01], .take, .send [0x02]]
    NeverCrowded calls {} ∧ (sentIn calls).Nodup ∧ takenIn calls {} ++ (afterCalls calls {}).sent = sentIn calls := by
  intro calls
  have hcalm : NeverCrowded calls {} :=
    neverCrowded_cons.2 ⟨nofun, neverCrowded_cons.2 ⟨fun _ => by decide, neverCrowded_cons.2 ⟨nofun, neverCrowded_nil _⟩⟩⟩
  exact ⟨hcalm, by decide, (takes_latest calls).2.2.2.1 hcalm⟩

/-- That the writes come out oldest first is false: of two writes on record the later one is taken. -/
theorem oldest_first_false :
    ¬∀ calls : List RecordCall, takenIn calls {} ++ (afterCalls calls {}).sent = sentIn calls := by
  intro h
  exact absurd (h [.send [0x01], .send [0x02], .take]) (by decide)

end NfcHost.MemoryChannel
