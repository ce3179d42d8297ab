import NfcHost.Bench
import NfcHost.Proofs.Listing
import NfcHost.Proofs.Succession
import NfcHost.Proofs.TypeBPoll

/-!
# What the poll for Type B cards finds

A poll for Type B cards that finds a card puts it together from two replies: number and answer to the attribute command come from
the listing, where the card's answer to the request was checked for its length and its first byte; the answer that is reported
comes from the reply to the wake-up, where nothing is checked but the status. So a poll reports any bytes as an answer that a
frame can carry, none at all too (`found_pollB`), and that everything it finds has a whole answer is false
(`found_whole_false`).
-/

namespace NfcHost

open Act

variable {σ : Type} [Channel σ]

/-! ## A link that is answered -/

/-- Moves that go on from the first ones have the replies to these in front. -/
theorem Heard.replies_prefix {moves more : List Move} {l l' l'' : Link σ} {rs rs' : List Reply} (h : Heard moves l rs l')
    (h' : Heard (moves ++ more) l rs' l'') : rs <+: rs' := by
  induction h generalizing rs' with
  | nil => exact List.nil_prefix
  | cons hends _ ih =>
    cases h' with
    | cons hends' hrest =>
      obtain rfl := hends.1.symm.trans hends'.1
      obtain rfl := hends.2.symm.trans hends'.2
      exact (List.prefix_cons_inj _).2 (ih hrest)

/-- Replies that are queued back to back are heard, whatever is asked. -/
theorem Heard.of_backToBack (timeout : Duration) (asked : List Bytes) {bodies : List Bytes} {l : Link MemoryChannel}
    (hlen : asked.length = bodies.length) (hqueue : Link.BackToBack (bodies.map Frame.reply) l.channel.incoming) :
    ∃ l', Heard (asked.map (Driver.askingMove timeout)) l (bodies.map fun body => .ok (some body)) l' := by
  induction bodies generalizing asked l with
  | nil =>
    obtain rfl := List.length_eq_zero_iff.1 hlen
    exact ⟨l, .nil l⟩
  | cons body rest ih =>
    obtain _ | ⟨first, others⟩ := asked
    · nomatch hlen
    · obtain ⟨m, hends, -, hrest⟩ := Link.ends_exchange_first (Frame.mk Frame.hostMarker first).wire timeout rfl hqueue
      obtain ⟨l', hheard⟩ := ih others (Nat.succ.inj hlen) hrest
      exact ⟨l', .cons hends hheard⟩

/-- Replies to a poll for Type B cards: the listing of a card, the two writings, the deselection, and the status of a wake-up with
nothing behind it. -/
def Bench.emptyAnswer : List Bytes :=
  [[0x4B, 0x01, 0x01, 0x50, 0x11, 0x22, 0x33, 0x44, 0x00, 0x00, 0x00, 0x00, 0x00, 0x71, 0x85, 0x01, 0x00], [0x09],
    [0x43, 0x00, 0xC2], [0x09], [0x43, 0x00]]

/-- A driver with these replies queued. -/
def Bench.emptyAnswered : Driver .ready MemoryChannel :=
  (Driver.over (emptyAnswer.foldl (fun c reply => c.queueExchange reply) {}) {}).asReady

namespace Driver

/-- A poll that is answered in full finds the card. -/
theorem pollB_answered {d : Driver .ready MemoryChannel} {code count : UInt8} {data one two three sensbRes : Bytes}
    {listed : TypeBTarget} {used : Nat} (hqueue : Link.BackToBack ([code :: count :: data, 0x09 :: one, 0x43 :: two,
      0x09 :: three, 0x43 :: 0x00 :: sensbRes].map Frame.reply) d.link.channel.incoming) (hcount : count ≠ 0)
    (hread : TypeBTarget.ofBlock data = .ok (listed, used)) :
    ∃ d', pollB.Ends d (.ok (.found { listed with sensbRes })) d' := by
  obtain ⟨replies, outcome, d', hends, hcourse⟩ := pollB_course d
  obtain ⟨afi, -, hheard⟩ := hcourse.heard
  obtain ⟨hnone, hfound, hfailed⟩ := hcourse.outcome
  have hlists : Lists (.ok (some (code :: count :: data))) listed := ⟨code, count, data, used, rfl, hcount, hread⟩
  -- the replies that the poll heard are the first of those queued
  obtain ⟨l', hall⟩ := Heard.of_backToBack d.settings.commandTimeout (pollBodies afi) (by rfl) hqueue
  rw [← List.take_append_drop replies.length (pollBodies afi), List.map_append] at hall
  have hprefix := hheard.replies_prefix hall
  cases outcome with
  | notFound =>
    obtain ⟨first, rfl, hempty⟩ := hnone.1 rfl
    obtain ⟨rfl, -⟩ := List.cons_prefix_cons.1 hprefix
    exact (hlists.not_noneListed hempty).elim
  | failed fault =>
    obtain ⟨k, last, hlength, hlast, hunfit⟩ := hfailed fault rfl
    have hk := hprefix.length_le
    obtain ⟨rest, hrest⟩ := hprefix
    have hget : (replies ++ rest)[k]? = replies[k]? := List.getElem?_append_left (by omega)
    rw [hrest, hlast] at hget
    refine (hunfit ?_).elim
    match k with
    | 0 => exact Option.some.inj hget ▸ Or.inr ⟨listed, hlists⟩
    | 1 => exact Option.some.inj hget ▸ ⟨one, rfl⟩
    | 2 => exact Option.some.inj hget ▸ ⟨two, rfl⟩
    | 3 => exact Option.some.inj hget ▸ ⟨three, rfl⟩
    | 4 => exact Option.some.inj hget ▸ ⟨sensbRes, rfl⟩
    | k + 5 => nomatch hget
  | found t =>
    obtain ⟨first, listed', one', two', three', sensbRes', hlists', rfl, rfl⟩ := (hfound t).1 rfl
    have hsame := hprefix.eq_of_length rfl
    obtain ⟨rfl, -, -, -, -, rfl⟩ := by simpa using hsame
    rw [hlists.unique hlists']
    exact ⟨d', hends⟩

/-- What a poll that finds a card found: a card that fills a block of the listing, and an answer that the last exchange brought.
-/
theorem eq_of_found {d d' : Driver .ready σ} {t : TypeBTarget} (h : pollB.Ends d (.ok (.found t)) d') :
    ∃ (listed : TypeBTarget) (block : Bytes) (l : Link σ), listed.Fills block ∧ t = { listed with sensbRes := t.sensbRes } ∧
      (askingMove d.settings.commandTimeout (0x42 :: CrcA.append [0x05, listed.afi.getD 0, 0x08])).act.Ends l
        (.ok (some (0x43 :: 0x00 :: t.sensbRes))) d'.link := by
  obtain ⟨replies, outcome, d'', hends, hcourse⟩ := pollB_course d
  obtain rfl : outcome = .found t := Except.ok.inj (hends.1.symm.trans h.1)
  obtain rfl : d'' = d' := hends.2.symm.trans h.2
  cases hcourse with
  | woken hfirst hlists hover =>
    obtain ⟨code, count, data, used, -, -, hread⟩ := hlists
    obtain ⟨block, rest, -, -, hfills⟩ := TypeBTarget.fills_of_ofBlock hread
    -- the four steps of refreshing the card, of which the last brings the answer
    cases hover with | accepted _ _ hover => ?_
    cases hover with | accepted _ _ hover => ?_
    cases hover with | accepted _ _ hover => ?_
    cases hover with | accepted hends _ hover => ?_
    cases hover
    exact ⟨_, block, _, hfills, rfl, hends⟩

/-- What a poll finds. Over any channel, its number and its answer to the attribute command are those of a card that fills a
block of the listing, whose own answer to the request has its length and its first byte. The answer that is reported is
another one: it stood behind a status of zero in the reply to the wake-up, so silence and any other status find nothing; its
identifier has four bytes exactly if the answer has five or more. Nothing else is asked of it: a poll whose five replies have
the right codes, list a card and bring a status of zero finds the card with whatever stands behind that status, empty or of
any length and first byte. -/
theorem found_pollB :
    (∀ (d d' : Driver .ready σ) (t : TypeBTarget), pollB.Ends d (.ok (.found t)) d' →
      ∃ (listed : TypeBTarget) (block : Bytes) (l : Link σ), listed.Fills block ∧ t = { listed with sensbRes := t.sensbRes } ∧
        (askingMove d.settings.commandTimeout (0x42 :: CrcA.append [0x05, listed.afi.getD 0, 0x08])).act.Ends l
          (.ok (some (0x43 :: 0x00 :: t.sensbRes))) d'.link ∧
        (t.nfcid.length = 4 ↔ 5 ≤ t.sensbRes.length)) ∧
    ∀ (d : Driver .ready MemoryChannel) (code count : UInt8) (data one two three sensbRes : Bytes) (listed : TypeBTarget)
      (used : Nat), count ≠ 0 → TypeBTarget.ofBlock data = .ok (listed, used) →
      Link.BackToBack ([code :: count :: data, 0x09 :: one, 0x43 :: two, 0x09 :: three, 0x43 :: 0x00 :: sensbRes].map
        Frame.reply) d.link.channel.incoming →
      ∃ d', pollB.Ends d (.ok (.found { listed with sensbRes })) d' := by
  refine ⟨fun d d' t h => ?_, fun d code count data one two three sensbRes listed used hcount hread hqueue =>
    pollB_answered hqueue hcount hread⟩
  obtain ⟨listed, block, l, hfills, ht, hends⟩ := eq_of_found h
  refine ⟨listed, block, l, hfills, ht, hends, ?_⟩
  unfold TypeBTarget.nfcid
  split
  · rename_i hlong
    simp only [List.length_take, List.length_drop]
    omega
  · rename_i hshort
    simp only [List.length_nil]
    omega

/-- A card is found with an empty answer; number and answer to the attribute command are those of the listing. -/
theorem found_pollB_empty :
    ∃ (listed : TypeBTarget) (block : Bytes) (d' : Driver .ready MemoryChannel),
      pollB.Ends Bench.emptyAnswered (.ok (.found ⟨0x01, [], [0x00]⟩)) d' ∧ listed.Fills block ∧
      (⟨0x01, [], [0x00]⟩ : TypeBTarget) = { listed with sensbRes := [] } := by
  have hqueue : Link.BackToBack (Bench.emptyAnswer.map Frame.reply) Bench.emptyAnswered.link.channel.incoming :=
    ⟨_, _, rfl, rfl, _, _, rfl, rfl, _, _, rfl, rfl, _, _, rfl, rfl, _, _, rfl, rfl, rfl⟩
  obtain ⟨d', hends⟩ := (found_pollB (σ := MemoryChannel)).2 Bench.emptyAnswered _ _ _ _ _ _ _ _ _ (by decide) rfl hqueue
  obtain ⟨listed, block, -, hfills, ht, -⟩ := found_pollB.1 _ _ _ hends
  exact ⟨listed, block, d', hends, hfills, ht⟩

/-- That every card that is found has a whole answer is false: behind the status of the last reply stands nothing, and the card
is found with an empty answer and without an identifier. -/
theorem found_whole_false :
    ¬∀ (d d' : Driver .ready MemoryChannel) (t : TypeBTarget), pollB.Ends d (.ok (.found t)) d' →
      12 ≤ t.sensbRes.length ∧ t.sensbRes.head? = some TypeBTarget.sensbMarker ∧ t.nfcid.length = 4 := by
  intro h
  have hwhole := h Bench.emptyAnswered _ ⟨0x01, [], [0x00]⟩ ⟨rfl, rfl⟩
  exact absurd hwhole.1 (by decide)

end Driver

end NfcHost
