import NfcHost.Channel.Memory
import NfcHost.Proofs.Course
import NfcHost.Proofs.Journal

/-!
# The course of every handshake

What a link does in one exchange with a controller that answers anything, over a channel of which any call can fail: which
calls it makes, which stages it enters, where it stops and how it ends (`Link.exchange_course`). Every part of the handshake is
described by how far it brings it (`Link.Reached`): which calls went through, and which stages were entered and told of.
-/

namespace NfcHost

variable {σ α : Type}

namespace Link

open Act

/-! ## How far a handshake came -/

section Progress

variable (l : Link (Tapped MemoryChannel)) (frame : Bytes) (timeout : Duration)

/-- What of the waiting bytes is left behind the first calls. -/
def unreadBehind (n : Nat) : Bytes :=
  (firstCalls l frame timeout n).foldl (fun w call => call.leaving w) l.channel.inner.incoming

/-- The link has entered the first stages of a handshake, and told of each change. -/
structure Entered (m : Nat) (s : Link (Tapped MemoryChannel) × List Record) : Prop where
  stage : s.1.stage = (handshakeStages.take m).getLastD l.stage
  told : stageChanges s.2 = changesAlong l.stage (handshakeStages.take m)

/-- The first `n` calls of a handshake went through, and `m` stages were entered. -/
structure Reached (n m : Nat) (s : Link (Tapped MemoryChannel) × List Record) : Prop extends Entered l m s where
  calls : s.1.channel.calls = l.channel.calls ++ passed l frame timeout n
  plans : s.1.channel.plans = FailurePlan.remaining (firstCalls l frame timeout n) l.channel.plans
  unread : s.1.channel.inner.incoming = unreadBehind l frame timeout n
  strictness : s.1.strictness = l.strictness

/-- The handshake ended, and this was its course. -/
def Ended (r : Except Fault (Option Bytes)) (s : Link (Tapped MemoryChannel) × List Record) : Prop :=
  ∃ made m, s.1.channel.calls = l.channel.calls ++ made ∧ Entered l m s ∧ Course l frame timeout made m r

variable {l frame timeout} {n m : Nat}

/-- A stage is entered. -/
theorem recounts_enter {next : Stage} (hnext : handshakeStages[m]? = some next)
    (bad : Fault → Link (Tapped MemoryChannel) × List Record → Prop) :
    (enter next : Act (Link (Tapped MemoryChannel)) Unit).Recounts (Reached l frame timeout n m)
      (fun _ => Reached l frame timeout n (m + 1)) bad := by
  intro s h
  have htake : handshakeStages.take (m + 1) = handshakeStages.take m ++ [next] := by
    rw [List.take_add_one, hnext]
    rfl
  refine ⟨⟨?_, ?_⟩, h.calls, h.plans, h.unread, h.strictness⟩
  · rw [htake, List.getLastD_concat]
    rfl
  · show stageChanges (s.2 ++ [⟨s.1.label, .stageChange s.1.stage next⟩]) = _
    rw [stageChanges, List.filterMap_append, htake, changesAlong_append, ← h.stage, ← h.told]
    rfl

/-- What is told of other things is no change of stage. -/
theorem recounts_tell {event : Event} (hevent : event.stageChange? = none)
    (bad : Fault → Link (Tapped MemoryChannel) × List Record → Prop) :
    (tell event : Act (Link (Tapped MemoryChannel)) Unit).Recounts (Reached l frame timeout n m)
      (fun _ => Reached l frame timeout n m) bad := by
  intro s h
  refine ⟨⟨h.stage, ?_⟩, h.calls, h.plans, h.unread, h.strictness⟩
  show stageChanges (s.2 ++ [⟨s.1.label, event⟩]) = _
  rw [stageChanges, List.filterMap_append, ← h.told]
  simp [stageChanges, hevent]

/-- The next call goes through, or fails as planned. -/
theorem recounts_pass {call : Call} {onward : Act MemoryChannel α} (value : Bytes → α)
    (hcall : (handshakeCalls frame timeout l.channel.inner.incoming)[n]? = some call)
    (honward : ∀ c, ∃ c', onward.run c = ⟨.ok (value c.incoming), c', []⟩ ∧ c'.incoming = call.leaving c.incoming)
    (hm : m < 5) (hack : n = 6 → ∃ head, Accepted l.strictness l.channel.inner.incoming head) :
    (onChannel (Tapped.pass call onward) : Act (Link (Tapped MemoryChannel)) α).Recounts (Reached l frame timeout n m)
      (fun v s => v = value (unreadBehind l frame timeout n) ∧ Reached l frame timeout (n + 1) m s)
      (fun fault => Ended l frame timeout (.error fault)) := by
  intro s h
  have htake : firstCalls l frame timeout (n + 1) = firstCalls l frame timeout n ++ [call] := by
    rw [firstCalls, List.take_add_one, hcall]
    rfl
  rcases hmeet : FailurePlan.meet call.kind s.1.channel.plans with ⟨_ | reason, plans⟩
  · obtain ⟨c', hrun, hleft⟩ := honward s.1.channel.inner
    have hpass : (onChannel (Tapped.pass call onward)).journal.run s =
        ⟨.ok (value s.1.channel.inner.incoming),
          ({ s.1 with channel := ⟨c', s.1.channel.name, plans, s.1.channel.calls ++ [(call, false)]⟩ }, s.2), []⟩ := by
      have hinner : onward s.1.channel.inner = _ := hrun
      simp [onChannel, Act.run, Act.journal, Act.onPart, Tapped.pass, hmeet, hinner]
    rw [hpass]
    refine ⟨by rw [h.unread], ⟨h.stage, h.told⟩, ?_, ?_, ?_, h.strictness⟩
    · show s.1.channel.calls ++ _ = _
      rw [h.calls, passed, passed, htake, List.map_append, List.append_assoc]
      rfl
    · rw [htake, FailurePlan.remaining_append, ← h.plans]
      exact (congrArg Prod.snd hmeet).symm
    · rw [unreadBehind, htake, List.foldl_append, ← unreadBehind, ← h.unread]
      exact hleft
  · have hpass : (onChannel (Tapped.pass call onward)).journal.run s =
        ⟨.error (.channel reason),
          ({ s.1 with channel := ⟨s.1.channel.inner, s.1.channel.name, plans, s.1.channel.calls ++ [(call, true)]⟩ }, s.2),
          []⟩ := by
      simp [onChannel, Act.run, Act.journal, Act.onPart, Tapped.pass, hmeet]
    rw [hpass]
    refine ⟨passed l frame timeout n ++ [(call, true)], m, ?_, ⟨h.stage, h.told⟩, .cut hcall ?_ hm hack⟩
    · show s.1.channel.calls ++ _ = _
      rw [h.calls, List.append_assoc]
    · rw [← h.plans]
      exact congrArg Prod.fst hmeet

/-- A stop at an exit. -/
theorem Reached.ended {r : Except Fault (Option Bytes)} {s : Link (Tapped MemoryChannel) × List Record}
    (h : Reached l frame timeout n m s) (hexit : Exit l.strictness l.channel.inner.incoming n r)
    (hall : m = 5 ↔ n = 7 := by decide) (hm : m ≤ 5 := by decide) : Ended l frame timeout r s :=
  ⟨_, m, h.calls, h.toEntered, .exit hall hm hexit⟩

/-- The next call writes. -/
theorem recounts_send {bytes : Bytes}
    (hcall : (handshakeCalls frame timeout l.channel.inner.incoming)[n]? = some (.send bytes)) (hm : m < 5)
    (hack : n = 6 → ∃ head, Accepted l.strictness l.channel.inner.incoming head) :
    (onChannel (Channel.send bytes) : Act (Link (Tapped MemoryChannel)) Unit).Recounts (Reached l frame timeout n m)
      (fun _ => Reached l frame timeout (n + 1) m) (fun fault => Ended l frame timeout (.error fault)) :=
  (recounts_pass (fun _ => ()) hcall (fun c => ⟨_, MemoryChannel.run_send bytes c, rfl⟩) hm hack).imp (fun _ _ h => h.2)
    fun _ _ h => h

/-- The next call reads. -/
theorem recounts_receive {len : Nat}
    (hcall : (handshakeCalls frame timeout l.channel.inner.incoming)[n]? = some (.receive len timeout)) (hn : n < 6)
    (hm : m < 5) :
    (onChannel (Channel.receive len timeout) : Act (Link (Tapped MemoryChannel)) Bytes).Recounts (Reached l frame timeout n m)
      (fun got s => got = (unreadBehind l frame timeout n).take len ∧ Reached l frame timeout (n + 1) m s)
      (fun fault => Ended l frame timeout (.error fault)) :=
  recounts_pass (List.take len) hcall (fun c => ⟨_, MemoryChannel.run_receive len timeout c, rfl⟩) hm
    fun h6 => absurd h6 (by omega)

/-- The next call reads, and what it reads is to have the length asked for. -/
theorem recounts_readExactly {len : Nat}
    (hcall : (handshakeCalls frame timeout l.channel.inner.incoming)[n]? = some (.receive len timeout)) (hn : n < 6)
    (hm : m < 5)
    (hexit : ((unreadBehind l frame timeout n).take len).length ≠ len → Exit l.strictness l.channel.inner.incoming (n + 1)
      (.error (.invalidLength len ((unreadBehind l frame timeout n).take len).length))) :
    (readExactly len timeout : Act (Link (Tapped MemoryChannel)) Bytes).Recounts (Reached l frame timeout n m)
      (fun got s => (got = (unreadBehind l frame timeout n).take len ∧ got.length = len) ∧
        Reached l frame timeout (n + 1) m s)
      (fun fault => Ended l frame timeout (.error fault)) := by
  refine (recounts_receive hcall hn hm).bind fun got => Recounts.assume fun hgot => ?_
  split
  · rename_i hshort
    rw [hgot] at hshort ⊢
    exact Recounts.fail fun s h => h.ended (hexit hshort) ⟨by omega, by omega⟩ (by omega)
  · rename_i hlen
    exact Recounts.done fun s h => ⟨⟨hgot, by simpa using hlen⟩, h⟩

/-- A link looks at its strictness. -/
theorem recounts_isStrict (bad : Fault → Link (Tapped MemoryChannel) × List Record → Prop) :
    (look isStrict : Act (Link (Tapped MemoryChannel)) Bool).Recounts (Reached l frame timeout n m)
      (fun strict s => (strict = true ↔ l.strictness = .strict) ∧ Reached l frame timeout n m s) bad :=
  Recounts.look fun s h => ⟨by simp [isStrict, h.strictness], h⟩

/-- A strict link stops at an anomaly. -/
theorem recounts_expect (well : Bool) (otherwise : Anomaly) (hn : n < 7) (hm : m < 5)
    (hexit : l.strictness = .strict → well = false →
      Exit l.strictness l.channel.inner.incoming n (.error (.frameFormat otherwise.text))) :
    (expect well otherwise : Act (Link (Tapped MemoryChannel)) Unit).Recounts (Reached l frame timeout n m)
      (fun _ s => (l.strictness = .strict → well = true) ∧ Reached l frame timeout n m s)
      (fun fault => Ended l frame timeout (.error fault)) := by
  unfold expect
  split
  · rename_i hwell
    exact Recounts.done fun s h => ⟨fun _ => hwell, h⟩
  · rename_i hill
    refine (recounts_isStrict _).bind fun strict => Recounts.assume fun hstrict => ?_
    split
    · rename_i hs
      exact Recounts.fail fun s h => h.ended (hexit (hstrict.1 hs) (by simpa using hill)) ⟨by omega, by omega⟩ (by omega)
    · rename_i hs
      exact (recounts_tell rfl _).imp (fun _ s h => ⟨fun h' => absurd (hstrict.2 h') hs, h⟩) fun _ _ h => h

/-! ### Stage by stage -/

/-- From the first write to an acknowledgement that was looked at. -/
theorem recounts_sendAndAwaitAck :
    (sendAndAwaitAck frame timeout : Act (Link (Tapped MemoryChannel)) Bool).Recounts (Reached l frame timeout 0 0)
      (fun came s => (came = false ∧ l.channel.inner.incoming = []) ∧ Reached l frame timeout 2 2 s ∨
        (came = true ∧ l.channel.inner.incoming ≠ [] ∧
          (l.strictness = .strict → l.channel.inner.incoming.take Frame.ack.length = Frame.ack)) ∧
          Reached l frame timeout 2 3 s)
      (fun fault => Ended l frame timeout (.error fault)) := by
  refine (recounts_tell rfl _).bind fun _ => (recounts_send (n := 0) (m := 0) rfl (by decide) nofun).bind fun _ => ?_
  refine (recounts_enter rfl _).bind fun _ => (recounts_enter rfl _).bind fun _ => ?_
  refine (recounts_receive rfl (by decide) (by decide)).bind fun ack => Recounts.assume fun hack => ?_
  have hack : ack = l.channel.inner.incoming.take Frame.ack.length := hack
  split
  · rename_i hempty
    have hw : l.channel.inner.incoming = [] := by simpa [hack, Frame.ack] using hempty
    exact (recounts_tell rfl _).bind fun _ => Recounts.done fun s h => Or.inl ⟨⟨rfl, hw⟩, h⟩
  · rename_i hsome
    have hw : l.channel.inner.incoming ≠ [] := by simpa [hack, Frame.ack] using hsome
    refine (recounts_expect _ _ (by decide) (by decide) fun hs hill => ?_).bind fun _ => Recounts.assume fun hwell => ?_
    · rw [hack]
      exact Exit.notAck hs hw (by simpa [hack] using hill)
    · refine (recounts_enter rfl _).bind fun _ => Recounts.done fun s h => Or.inr ⟨⟨rfl, hw, fun hs => ?_⟩, h⟩
      simpa [hack] using hwell hs

/-- A head that came is trusted, or the handshake stops behind it. -/
theorem recounts_trustHead {head : Frame.Head} (hhead : Headed l.strictness l.channel.inner.incoming head) :
    (trustHead head : Act (Link (Tapped MemoryChannel)) Bool).Recounts (Reached l frame timeout 3 4)
      (fun trusted s => ((trusted = false → Exit l.strictness l.channel.inner.incoming 3 (.ok none)) ∧
        (trusted = true → Trusted l.strictness l.channel.inner.incoming head)) ∧ Reached l frame timeout 3 4 s)
      (fun fault => Ended l frame timeout (.error fault)) := by
  refine (recounts_isStrict _).bind fun strict => Recounts.assume fun hstrict => ?_
  split
  · rename_i hopen
    have hexit := Exit.lengthOpen hhead (by simpa using hopen)
    split
    · rename_i hs
      rw [if_pos (hstrict.1 hs)] at hexit
      exact Recounts.fail fun s h => h.ended hexit
    · rename_i hs
      rw [if_neg fun h => hs (hstrict.2 h)] at hexit
      exact (recounts_tell rfl _).bind fun _ => Recounts.done fun s h => ⟨⟨fun _ => hexit, nofun⟩, h⟩
  · rename_i hlen
    have hlen : head.lengthOk = true := by simpa using hlen
    split
    · rename_i hmarker
      have hexit := Exit.otherMarker hhead hlen hmarker
      split
      · rename_i hs
        rw [if_pos (hstrict.1 hs)] at hexit
        exact Recounts.fail fun s h => h.ended hexit
      · rename_i hs
        rw [if_neg fun h => hs (hstrict.2 h)] at hexit
        exact (recounts_tell rfl _).bind fun _ => Recounts.done fun s h => ⟨⟨fun _ => hexit, nofun⟩, h⟩
    · rename_i hmarker
      exact Recounts.done fun s h => ⟨⟨nofun, fun _ => ⟨hhead, hlen, by simpa using hmarker⟩⟩, h⟩

/-- From an acknowledgement to a head that can be trusted. -/
theorem recounts_awaitHead (hne : l.channel.inner.incoming ≠ [])
    (hack : l.strictness = .strict → l.channel.inner.incoming.take Frame.ack.length = Frame.ack) :
    (awaitHead timeout : Act (Link (Tapped MemoryChannel)) (Option Frame.Head)).Recounts (Reached l frame timeout 2 3)
      (fun head? s => ((head? = none → Exit l.strictness l.channel.inner.incoming 3 (.ok none)) ∧
        ∀ head, head? = some head → Trusted l.strictness l.channel.inner.incoming head) ∧ Reached l frame timeout 3 4 s)
      (fun fault => Ended l frame timeout (.error fault)) := by
  refine (recounts_enter rfl _).bind fun _ => ?_
  refine (recounts_receive rfl (by decide) (by decide)).bind fun bytes => Recounts.assume fun hbytes => ?_
  have hbytes : bytes = (behindAck l.channel.inner.incoming).take Frame.headLength := hbytes
  split
  · rename_i hempty
    have hw : behindAck l.channel.inner.incoming = [] := by simpa [hbytes, Frame.headLength] using hempty
    refine (recounts_tell rfl _).bind fun _ => Recounts.done fun s h => ⟨⟨fun _ => ?_, nofun⟩, h⟩
    exact Exit.unanswered hne hack hw
  · rename_i hsome
    have hw : behindAck l.channel.inner.incoming ≠ [] := by simpa [hbytes, Frame.headLength] using hsome
    refine Recounts.bind (Recounts.lift (fun head hp s h => And.intro hp h) fun fault hp s h => ?_) fun head =>
      Recounts.assume fun hp => ?_
    · rw [hbytes] at hp
      exact h.ended (Exit.headShort hack hw hp)
    · rw [hbytes] at hp
      refine (recounts_expect _ _ (by decide) (by decide) fun hs hill => ?_).bind fun _ => Recounts.assume fun hstart => ?_
      · exact Exit.badStart hs (hack hs) hp hill
      · refine (recounts_trustHead ⟨hack, hp, hstart⟩).bind fun trusted => Recounts.assume fun htrust => ?_
        cases trusted with
        | true =>
          refine Recounts.done fun s h => ⟨⟨nofun, ?_⟩, h⟩
          rintro _ ⟨⟩
          exact htrust.2 rfl
        | false => exact Recounts.done fun s h => ⟨⟨fun _ => htrust.1 rfl, nofun⟩, h⟩

/-- A data checksum that does not close is put off by a strict link. -/
theorem recounts_judgeChecksum (head : Frame.Head) (body : Bytes) (check : UInt8)
    (bad : Fault → Link (Tapped MemoryChannel) × List Record → Prop) :
    (judgeChecksum head body check : Act (Link (Tapped MemoryChannel)) (Option Fault)).Recounts (Reached l frame timeout n m)
      (fun pending s => (pending = none ∧ (l.strictness = .strict → Checksum.closesData head.marker body check = true) ∨
        pending = some (.checksumMismatch (Checksum.ofData head.marker body) check) ∧ l.strictness = .strict ∧
          Checksum.closesData head.marker body check = false) ∧ Reached l frame timeout n m s) bad := by
  unfold judgeChecksum
  split
  · rename_i hcloses
    exact Recounts.done fun s h => ⟨Or.inl ⟨rfl, fun _ => hcloses⟩, h⟩
  · rename_i hopen
    refine (recounts_isStrict _).bind fun strict => Recounts.assume fun hstrict => ?_
    split
    · rename_i hs
      exact Recounts.done fun s h => ⟨Or.inr ⟨rfl, hstrict.1 hs, by simpa using hopen⟩, h⟩
    · rename_i hs
      refine (recounts_tell rfl _).bind fun _ => Recounts.done fun s h => ⟨Or.inl ⟨rfl, fun h' => ?_⟩, h⟩
      exact absurd (hstrict.2 h') hs

/-- A wrong postamble is put off by a strict link, behind what was put off before. -/
theorem recounts_judgePostamble (got : Bytes) (pending : Option Fault)
    (bad : Fault → Link (Tapped MemoryChannel) × List Record → Prop) :
    (judgePostamble got pending : Act (Link (Tapped MemoryChannel)) (Option Fault)).Recounts (Reached l frame timeout n m)
      (fun pending' s => (pending' = pending ∧ (l.strictness = .strict → got.head? = some Frame.postamble) ∨
        pending' = some (pending.getD (.frameFormat ("unexpected postamble " ++ Hex.render got))) ∧ l.strictness = .strict ∧
          got.head? ≠ some Frame.postamble) ∧ Reached l frame timeout n m s) bad := by
  unfold judgePostamble
  split
  · rename_i hgot
    exact Recounts.done fun s h => ⟨Or.inl ⟨rfl, fun _ => hgot⟩, h⟩
  · rename_i hwrong
    refine (recounts_isStrict _).bind fun strict => Recounts.assume fun hstrict => ?_
    split
    · rename_i hs
      exact Recounts.done fun s h => ⟨Or.inr ⟨rfl, hstrict.1 hs, hwrong⟩, h⟩
    · rename_i hs
      refine (recounts_tell rfl _).bind fun _ => Recounts.done fun s h => ⟨Or.inl ⟨rfl, fun h' => ?_⟩, h⟩
      exact absurd (hstrict.2 h') hs

/-- What is put off is raised behind the last call: the data checksum before the postamble. -/
theorem Accepted.exit {strictness : Strictness} {w : Bytes} {head : Frame.Head} {check : UInt8}
    {pending pending' : Option Fault} (h : Accepted strictness w head) (hcheck : (behindBody w).head? = some check)
    (hdata : pending = none ∧ (strictness = .strict → Checksum.closesData head.marker (bodyIn w) check = true) ∨
      pending = some (.checksumMismatch (Checksum.ofData head.marker (bodyIn w)) check) ∧ strictness = .strict ∧
        Checksum.closesData head.marker (bodyIn w) check = false)
    (hpost : pending' = pending ∧ (strictness = .strict → (postambleIn w).head? = some Frame.postamble) ∨
      pending' = some (pending.getD (.frameFormat ("unexpected postamble " ++ Hex.render (postambleIn w)))) ∧
        strictness = .strict ∧ (postambleIn w).head? ≠ some Frame.postamble) :
    Exit strictness w 7 (match pending' with
      | some fault => .error fault
      | none => .ok (some (bodyIn w))) := by
  obtain ⟨rfl, hcloses⟩ | ⟨rfl, hs, hopen⟩ := hdata
  · obtain ⟨rfl, hgot⟩ | ⟨rfl, hs, hgot⟩ := hpost
    · exact Exit.answered h hcheck fun hs => ⟨hcloses hs, hgot hs⟩
    · exact Exit.badPostamble hs h hcheck (hcloses hs) hgot
  · obtain ⟨rfl, -⟩ | ⟨rfl, -, -⟩ := hpost
    · exact Exit.dataOpen hs h hcheck hopen
    · exact Exit.dataOpen hs h hcheck hopen

/-- From a trusted head to the acknowledgement of the reply. -/
theorem recounts_finish {head : Frame.Head} (hhead : Trusted l.strictness l.channel.inner.incoming head) :
    (finish head timeout : Act (Link (Tapped MemoryChannel)) Bytes).Recounts (Reached l frame timeout 3 4)
      (fun body s => Exit l.strictness l.channel.inner.incoming 7 (.ok (some body)) ∧ Reached l frame timeout 7 5 s)
      (fun fault => Ended l frame timeout (.error fault)) := by
  have hannounced := hhead.toHeaded.announced
  by_cases hne : head.len = 0
  · have hlen : head.bodyLength = .error (.invalidLength 1 0) := if_pos hne
    unfold finish
    rw [hlen]
    exact Recounts.fail fun s h => h.ended (Exit.lengthZero hhead hne)
  have hlen : head.bodyLength = .ok (announced l.channel.inner.incoming) := (if_neg hne).trans (congrArg _ hannounced)
  unfold finish
  rw [hlen]
  refine (recounts_readExactly rfl (by decide) (by decide) fun hshort => ?_).bind fun body => Recounts.assume fun hbody => ?_
  · exact Exit.bodyShort hhead hne hshort
  obtain ⟨hbody, hfull⟩ := hbody
  have hbody : body = bodyIn l.channel.inner.incoming := hbody
  rw [hbody] at hfull
  refine (recounts_readExactly rfl (by decide) (by decide) fun hshort => ?_).bind fun one => Recounts.assume fun hone => ?_
  · have hmissing : behindBody l.channel.inner.incoming = [] := behindBody_eq_nil hshort
    show Exit _ _ 5 (.error (.invalidLength 1 ((behindBody l.channel.inner.incoming).take 1).length))
    rw [hmissing]
    exact Exit.checkMissing hhead hne hfull hmissing
  obtain ⟨hone, hlength⟩ := hone
  obtain ⟨check, rfl⟩ := List.length_eq_one_iff.1 hlength
  have hcheck : (behindBody l.channel.inner.incoming).head? = some check := head?_behindBody hone
  have haccepted := hhead.accepted hne hcheck
  have hfetch : (liftM (Bytes.fetch [check] 0) : Act (Link (Tapped MemoryChannel)) UInt8).Recounts
      (Reached l frame timeout 5 4) (fun v s => v = check ∧ Reached l frame timeout 5 4 s)
      (fun fault => Ended l frame timeout (.error fault)) :=
    Recounts.done fun s h => ⟨rfl, h⟩
  refine hfetch.bind fun v => Recounts.assume fun hv => ?_
  rw [hv, hbody]
  refine (recounts_judgeChecksum _ _ _ _).bind fun pending => Recounts.assume fun hdata => ?_
  refine (recounts_receive rfl (by decide) (by decide)).bind fun got => Recounts.assume fun hgot => ?_
  have hgot : got = postambleIn l.channel.inner.incoming := hgot
  rw [hgot]
  refine (recounts_judgePostamble _ _ _).bind fun pending' => Recounts.assume fun hpost => ?_
  have hexit := haccepted.exit hcheck hdata hpost
  refine (recounts_send rfl (by decide) fun _ => ⟨head, haccepted⟩).bind fun _ => ?_
  refine (recounts_enter rfl _).bind fun _ => (recounts_tell rfl _).bind fun _ => ?_
  cases pending' with
  | some fault => exact Recounts.fail fun s h => h.ended hexit
  | none => exact Recounts.done fun s h => ⟨hexit, h⟩

/-- From the first write to the last. -/
theorem recounts_handshake :
    (handshake frame timeout : Act (Link (Tapped MemoryChannel)) (Option Bytes)).Recounts (Reached l frame timeout 0 0)
      (fun body? => Ended l frame timeout (.ok body?)) (fun fault => Ended l frame timeout (.error fault)) := by
  refine recounts_sendAndAwaitAck.bind fun came => Meets.or (Recounts.assume fun hcame => ?_)
    (Recounts.assume fun hcame => ?_)
  · rw [hcame.1]
    exact Recounts.done fun s h => h.ended (Exit.silence hcame.2)
  · obtain ⟨rfl, hne, hack⟩ := hcame
    rw [if_pos rfl]
    refine (recounts_awaitHead hne hack).bind fun head? => Recounts.assume fun hhead => ?_
    cases head? with
    | none => exact Recounts.done fun s h => h.ended (hhead.1 rfl)
    | some head =>
      refine (recounts_finish (hhead.2 head rfl)).bind fun body => Recounts.done fun s h => ?_
      exact h.2.ended h.1

end Progress

/-! ## The exchange -/

/-- An exchange ends as its handshake, and the link is idle. -/
theorem run_exchange [Channel σ] (frame : Bytes) (timeout : Duration) (l : Link σ) :
    (exchange frame timeout).run l =
      ⟨((handshake frame timeout).run l).result, { ((handshake frame timeout).run l).state with stage := .idle },
        ((handshake frame timeout).run l).log ++
          [⟨((handshake frame timeout).run l).state.label,
            .stageChange ((handshake frame timeout).run l).state.stage .idle⟩]⟩ := by
  simp [exchange, enter, tell]

/-- A handshake from its start. -/
theorem ended_handshake (l : Link (Tapped MemoryChannel)) (frame : Bytes) (timeout : Duration) :
    Ended l frame timeout ((handshake frame timeout).run l).result
      (((handshake frame timeout).run l).state, ((handshake frame timeout).run l).log) := by
  have hstart : Reached l frame timeout 0 0 (l, []) := ⟨⟨rfl, rfl⟩, (List.append_nil _).symm, rfl, rfl, rfl⟩
  rcases hresult : ((handshake frame timeout).run l).result with fault | body?
  · exact Meets.of_error recounts_handshake hstart hresult
  · exact Meets.of_ok recounts_handshake hstart hresult

/-- The last stage is among the first `m` only if these are all. -/
theorem parsed_mem_iff {m : Nat} (hm : m ≤ 5) : Stage.responseParsed ∈ handshakeStages.take m ++ [.idle] ↔ m = 5 := by
  revert m
  decide

/-- What a link does in an exchange, whatever it sends, whatever waits in the channel, whichever calls are to fail and however
anomalies are taken. The calls it makes are the first ones of a whole handshake. A call that fails is the last one, and its
fault is the result. The stages it enters are the first ones of a whole handshake, from the stage it was in, and then it is
idle. The closing acknowledgement is called for exactly if nothing failed before it and a reply came that is to be
acknowledged, which does not depend on its data checksum and its postamble; and the last stage is entered exactly if that call
went through. If no call failed, the exchange ended at the exit behind the calls it made. A strict link raises a data checksum
before a postamble, and raises neither before the closing acknowledgement has gone out. -/
theorem exchange_course (l : Link (Tapped MemoryChannel)) (frame : Bytes) (timeout : Duration) :
    let w := l.channel.inner.incoming
    let o := (exchange frame timeout).run l
    ∃ made : List (Call × Bool), o.state.channel.calls = l.channel.calls ++ made ∧
      made.map Prod.fst <+: handshakeCalls frame timeout w ∧
      (∀ before call after, made = before ++ (call, true) :: after → after = [] ∧ ∃ reason,
        (FailurePlan.meet call.kind (FailurePlan.remaining (before.map Prod.fst) l.channel.plans)).1 = some reason ∧
        o.result = .error (.channel reason)) ∧
      (∃ m, stageChanges o.log = changesAlong l.stage (handshakeStages.take m ++ [.idle])) ∧ o.state.stage = .idle ∧
      ((made.map Prod.fst)[6]? = some (.send Frame.ack) ↔
        (∀ call ∈ made.take 6, call.2 = false) ∧ ∃ head, Accepted l.strictness w head) ∧
      (.responseParsed ∈ (stageChanges o.log).map Prod.snd ↔ made[6]? = some (.send Frame.ack, false)) ∧
      ((∀ call ∈ made, call.2 = false) → Exit l.strictness w made.length o.result) ∧
      (made[6]? = some (.send Frame.ack, false) → l.strictness = .strict → ∀ head check, Accepted l.strictness w head →
        (behindBody w).head? = some check →
        (Checksum.closesData head.marker (bodyIn w) check = false →
          o.result = .error (.checksumMismatch (Checksum.ofData head.marker (bodyIn w)) check)) ∧
        (Checksum.closesData head.marker (bodyIn w) check = true → (postambleIn w).head? ≠ some Frame.postamble →
          o.result = .error (.frameFormat ("unexpected postamble " ++ Hex.render (postambleIn w))))) ∧
      (∀ text, o.result = .error (.frameFormat ("unexpected postamble " ++ text)) →
        made[6]? = some (.send Frame.ack, false)) ∧
      ∀ expected actual, o.result = .error (.checksumMismatch expected actual) →
        made[6]? = some (.send Frame.ack, false) ∨ ∃ head, Headed l.strictness w head ∧ head.lengthOk = false ∧
          expected = Checksum.ofLength head.len ∧ actual = head.check := by
  intro w o
  obtain ⟨made, m, hcalls, hentered, hcourse⟩ := ended_handshake l frame timeout
  have hchanges : stageChanges o.log = changesAlong l.stage (handshakeStages.take m ++ [.idle]) := by
    have htold : stageChanges ((handshake frame timeout).run l).log = _ := hentered.told
    have hstage : ((handshake frame timeout).run l).state.stage = _ := hentered.stage
    show stageChanges ((exchange frame timeout).run l).log = _
    rw [run_exchange, stageChanges, List.filterMap_append, ← stageChanges, changesAlong_append, htold, ← hstage]
    rfl
  have hresult : o.result = ((handshake frame timeout).run l).result := by
    show ((exchange frame timeout).run l).result = _
    rw [run_exchange]
  rw [← hresult] at hcourse
  refine ⟨made, ?_, hcourse.calls_prefix, fun before call after => hcourse.failing, ⟨m, hchanges⟩, ?_, hcourse.ack_iff, ?_,
    hcourse.exit_of_passed, ?_, ?_, ?_⟩
  · show ((exchange frame timeout).run l).state.channel.calls = _
    rw [run_exchange]
    exact hcalls
  · show ((exchange frame timeout).run l).state.stage = _
    rw [run_exchange]
  · rw [hchanges, map_snd_changesAlong, parsed_mem_iff hcourse.le]
    exact hcourse.last_iff
  · intro hack hs head check hhead hcheck
    have hexit := hcourse.exit_of_ack hack
    rw [hs] at hexit hhead
    exact hexit.raised hhead hcheck
  · intro text htext
    obtain ⟨reason, hchannel⟩ | ⟨n, hexit, hack⟩ := hcourse.channel_or_exit
    · nomatch hchannel.symm.trans htext
    · exact hack (hexit.postamble_late htext)
  · intro expected actual hmismatch
    obtain ⟨reason, hchannel⟩ | ⟨n, hexit, hack⟩ := hcourse.channel_or_exit
    · nomatch hchannel.symm.trans hmismatch
    · exact (hexit.checksum_late hmismatch).imp hack fun hlength => hlength

end Link

end NfcHost
