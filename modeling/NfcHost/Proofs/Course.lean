import NfcHost.Channel.Tapped
import NfcHost.Link
import NfcHost.Proofs.Wire

/-!
# Courses of a handshake

A handshake that nothing stops makes the seven calls of `Link.handshakeCalls` and enters the five stages of
`Link.handshakeStages`. What came in can stop it early, at one of the rows of `Link.Exit`; a call that fails stops it at once.
`Link.Course` puts the two together. The statements here are about courses only: which calls can be in one, when the closing
acknowledgement is among them, and what it ends in.
-/

namespace NfcHost

/-! ## Calls that go through -/

/-- What of the waiting bytes is left by a call. -/
def Call.leaving : Call → Bytes → Bytes
  | .receive len _, w => w.drop len
  | _, w => w

/-- The failures still to come when calls have gone through. -/
def FailurePlan.remaining (calls : List Call) (plans : List FailurePlan) : List FailurePlan :=
  calls.foldl (fun plans call => (meet call.kind plans).2) plans

/-- One more call meets what the others left. -/
theorem FailurePlan.remaining_append (calls : List Call) (call : Call) (plans : List FailurePlan) :
    remaining (calls ++ [call]) plans = (meet call.kind (remaining calls plans)).2 := List.foldl_append

namespace Link

/-! ## A whole handshake -/

/-- The length byte that waits behind an acknowledgement and a start code announces a body of this many bytes. -/
def announced (w : Bytes) : Nat := (w[Frame.ack.length + Frame.startCode.length]?.getD 0).toNat - 1

/-- The calls of a handshake that nothing stops. -/
def handshakeCalls (frame : Bytes) (timeout : Duration) (w : Bytes) : List Call :=
  [.send frame, .receive Frame.ack.length timeout, .receive Frame.headLength timeout, .receive (announced w) timeout,
    .receive 1 timeout, .receive 1 timeout, .send Frame.ack]

/-- The stages of a handshake that nothing stops. -/
def handshakeStages : List Stage := [.frameSent, .ackAwaited, .ackVerified, .responseAwaited, .responseParsed]

/-- The bytes behind the acknowledgement. -/
def behindAck (w : Bytes) : Bytes := w.drop Frame.ack.length

/-- The bytes behind the head of the reply. -/
def behindHead (w : Bytes) : Bytes := (behindAck w).drop Frame.headLength

/-- The body as far as it came. -/
def bodyIn (w : Bytes) : Bytes := (behindHead w).take (announced w)

/-- The bytes behind the body. -/
def behindBody (w : Bytes) : Bytes := (behindHead w).drop (announced w)

/-- The postamble, if it came. -/
def postambleIn (w : Bytes) : Bytes := ((behindBody w).drop 1).take 1

/-- A head came, behind an acknowledgement and with a start code where the link insists on them. -/
structure Headed (strictness : Strictness) (w : Bytes) (head : Frame.Head) : Prop where
  ack : strictness = .strict → w.take Frame.ack.length = Frame.ack
  parsed : Frame.Head.parse ((behindAck w).take Frame.headLength) = .ok head
  start : strictness = .strict → head.startOk = true

/-- The head is that of a reply: its length byte is closed and it has the controller's marker. -/
structure Trusted (strictness : Strictness) (w : Bytes) (head : Frame.Head) : Prop extends Headed strictness w head where
  lengthOk : head.lengthOk = true
  marker : head.marker = Frame.deviceMarker

/-- A reply to acknowledge: its head is accepted, and the body and the checksum byte came in full. -/
structure Accepted (strictness : Strictness) (w : Bytes) (head : Frame.Head) : Prop extends Trusted strictness w head where
  len : head.len ≠ 0
  whole : head.len.toNat - 1 + 1 ≤ (behindHead w).length

/-- Where a handshake stops if no call fails: after how many calls, and in what it ends. -/
inductive Exit (strictness : Strictness) (w : Bytes) : Nat → Except Fault (Option Bytes) → Prop where
  /-- Nothing came. -/
  | silence : w = [] → Exit strictness w 2 (.ok none)
  /-- Something other than an acknowledgement came. -/
  | notAck : strictness = .strict → w ≠ [] → w.take Frame.ack.length ≠ Frame.ack →
    Exit strictness w 2 (.error (.frameFormat (Anomaly.notAck (w.take Frame.ack.length)).text))
  /-- Nothing came behind the acknowledgement. -/
  | unanswered : w ≠ [] → (strictness = .strict → w.take Frame.ack.length = Frame.ack) → behindAck w = [] →
    Exit strictness w 3 (.ok none)
  /-- Less than a head came. -/
  | headShort {fault : Fault} : (strictness = .strict → w.take Frame.ack.length = Frame.ack) → behindAck w ≠ [] →
    Frame.Head.parse ((behindAck w).take Frame.headLength) = .error fault → Exit strictness w 3 (.error fault)
  /-- The head does not open with a start code. -/
  | badStart {head : Frame.Head} : strictness = .strict → w.take Frame.ack.length = Frame.ack →
    Frame.Head.parse ((behindAck w).take Frame.headLength) = .ok head → head.startOk = false →
    Exit strictness w 3 (.error (.frameFormat (Anomaly.badStart head.start).text))
  /-- The length byte is not closed. -/
  | lengthOpen {head : Frame.Head} : Headed strictness w head → head.lengthOk = false →
    Exit strictness w 3 (if strictness = .strict then .error (.checksumMismatch (Checksum.ofLength head.len) head.check)
      else .ok none)
  /-- The marker is not the controller's. -/
  | otherMarker {head : Frame.Head} : Headed strictness w head → head.lengthOk = true → head.marker ≠ Frame.deviceMarker →
    Exit strictness w 3 (if strictness = .strict then .error (.frameFormat ("unexpected TFI " ++ Hex.literal head.marker))
      else .ok none)
  /-- The length byte does not even count the marker. -/
  | lengthZero {head : Frame.Head} : Trusted strictness w head → head.len = 0 →
    Exit strictness w 3 (.error (.invalidLength 1 0))
  /-- Less than the announced body came. -/
  | bodyShort {head : Frame.Head} : Trusted strictness w head → head.len ≠ 0 → (bodyIn w).length ≠ announced w →
    Exit strictness w 4 (.error (.invalidLength (announced w) (bodyIn w).length))
  /-- The checksum byte did not come. -/
  | checkMissing {head : Frame.Head} : Trusted strictness w head → head.len ≠ 0 → (bodyIn w).length = announced w →
    behindBody w = [] →
    Exit strictness w 5 (.error (.invalidLength 1 0))
  /-- The data checksum does not close, whatever the postamble is. -/
  | dataOpen {head : Frame.Head} {check : UInt8} : strictness = .strict → Accepted strictness w head →
    (behindBody w).head? = some check → Checksum.closesData head.marker (bodyIn w) check = false →
    Exit strictness w 7 (.error (.checksumMismatch (Checksum.ofData head.marker (bodyIn w)) check))
  /-- The data checksum closes, and the postamble is wrong. -/
  | badPostamble {head : Frame.Head} {check : UInt8} : strictness = .strict → Accepted strictness w head →
    (behindBody w).head? = some check → Checksum.closesData head.marker (bodyIn w) check = true →
    (postambleIn w).head? ≠ some Frame.postamble →
    Exit strictness w 7 (.error (.frameFormat ("unexpected postamble " ++ Hex.render (postambleIn w))))
  /-- The body is answered. -/
  | answered {head : Frame.Head} {check : UInt8} : Accepted strictness w head → (behindBody w).head? = some check →
    (strictness = .strict → Checksum.closesData head.marker (bodyIn w) check = true ∧
      (postambleIn w).head? = some Frame.postamble) →
    Exit strictness w 7 (.ok (some (bodyIn w)))

/-! ## Courses -/

section Course

variable (l : Link (Tapped MemoryChannel)) (frame : Bytes) (timeout : Duration)

/-- The first calls of a handshake. -/
def firstCalls (n : Nat) : List Call := (handshakeCalls frame timeout l.channel.inner.incoming).take n

/-- The first calls of a handshake, as they are written down when they go through. -/
def passed (n : Nat) : List (Call × Bool) := (firstCalls l frame timeout n).map fun call => (call, false)

/-- The course of a handshake: the calls it made, each with whether it failed, how many stages it entered, and how it ended. A
call fails, the last one only if there is a reply to acknowledge; or the handshake stops at an exit, behind the last call
exactly if every stage was entered. -/
inductive Course : List (Call × Bool) → Nat → Except Fault (Option Bytes) → Prop where
  | cut {n m : Nat} {call : Call} {reason : String} :
    (handshakeCalls frame timeout l.channel.inner.incoming)[n]? = some call →
    (FailurePlan.meet call.kind (FailurePlan.remaining (firstCalls l frame timeout n) l.channel.plans)).1 = some reason →
    m < 5 → (n = 6 → ∃ head, Accepted l.strictness l.channel.inner.incoming head) →
    Course (passed l frame timeout n ++ [(call, true)]) m (.error (.channel reason))
  | exit {n m : Nat} {r : Except Fault (Option Bytes)} : (m = 5 ↔ n = 7) → m ≤ 5 →
    Exit l.strictness l.channel.inner.incoming n r → Course (passed l frame timeout n) m r

end Course

/-! ## Heads and exits -/

section Exits

variable {strictness : Strictness} {w : Bytes} {head : Frame.Head} {n : Nat} {r : Except Fault (Option Bytes)}

/-- The length byte of a trusted head is the one that waits in the channel. -/
theorem Headed.announced (h : Headed strictness w head) :
    head.len.toNat - 1 = Link.announced w := by
  have hparsed := h.parsed
  unfold Frame.Head.parse at hparsed
  split at hparsed
  · rename_i a b c len check marker hbytes
    have hlen : w[Frame.ack.length + Frame.startCode.length]? = some len := by
      have hthird : ((behindAck w).take Frame.headLength)[Frame.startCode.length]? = some len := by
        rw [hbytes]
        rfl
      rwa [List.getElem?_take_of_lt (by decide), behindAck, List.getElem?_drop] at hthird
    rw [← Except.ok.inj hparsed, Link.announced, hlen]
    rfl
  · nomatch hparsed

/-- There is one head. -/
theorem Headed.unique {head' : Frame.Head} (h : Headed strictness w head)
    (h' : Frame.Head.parse ((behindAck w).take Frame.headLength) = .ok head') : head' = head :=
  Except.ok.inj (h'.symm.trans h.parsed)

/-- A head does not come where nothing does. -/
theorem Headed.behindAck_ne (h : Headed strictness w head) : behindAck w ≠ [] := by
  intro hempty
  have hparsed := h.parsed
  rw [hempty] at hparsed
  nomatch hparsed

/-- A head is accepted where its length byte counts the marker, the body came in full and a checksum byte came behind it. -/
theorem Trusted.accepted {check : UInt8} (h : Trusted strictness w head) (hne : head.len ≠ 0)
    (hcheck : (behindBody w).head? = some check) : Accepted strictness w head := by
  have hannounced := h.toHeaded.announced
  have hbehind := List.length_pos_of_mem (List.mem_of_mem_head? hcheck)
  rw [behindBody, List.length_drop] at hbehind
  exact ⟨h, hne, by omega⟩

/-- Where a read of the checksum byte comes back short, nothing is behind the body. -/
theorem behindBody_eq_nil (h : ((behindBody w).take 1).length ≠ 1) : behindBody w = [] := by
  rcases hrest : behindBody w with _ | ⟨b, rest⟩
  · rfl
  · rw [hrest] at h
    exact absurd rfl h

/-- The checksum byte is what a read of one byte brings. -/
theorem head?_behindBody {check : UInt8} (h : [check] = (behindBody w).take 1) : (behindBody w).head? = some check := by
  have hfirst := congrArg List.head? h
  rw [List.head?_take, if_neg Nat.one_ne_zero] at hfirst
  exact hfirst.symm

/-- No handshake makes more calls than a whole one. -/
theorem Exit.le (h : Exit strictness w n r) : n ≤ 7 := by
  cases h <;> decide

/-- A reply that was acknowledged is one to acknowledge. -/
theorem Exit.accepted (h : Exit strictness w 7 r) : ∃ head, Accepted strictness w head := by
  cases h with
  | dataOpen _ haccepted => exact ⟨_, haccepted⟩
  | badPostamble _ haccepted => exact ⟨_, haccepted⟩
  | answered haccepted => exact ⟨_, haccepted⟩

/-- In front of the last call the handshake does not stop at a reply to acknowledge. -/
theorem Accepted.exit_eq (h : Accepted strictness w head) (hexit : Exit strictness w n r) : n = 7 := by
  have hannounced := h.toHeaded.announced
  have hwhole := h.whole
  cases hexit with
  | silence hw =>
    refine absurd ?_ h.toHeaded.behindAck_ne
    rw [hw]
    rfl
  | notAck hs _ hack => exact absurd (h.ack hs) hack
  | unanswered _ _ hempty => exact absurd hempty h.toHeaded.behindAck_ne
  | headShort _ _ hparsed => nomatch hparsed.symm.trans h.parsed
  | badStart hs _ hparsed hill =>
    rw [h.toHeaded.unique hparsed, h.start hs] at hill
    nomatch hill
  | lengthOpen hhead hopen =>
    rw [h.toHeaded.unique hhead.parsed, h.lengthOk] at hopen
    nomatch hopen
  | otherMarker hhead _ hmarker =>
    rw [h.toHeaded.unique hhead.parsed] at hmarker
    exact absurd h.marker hmarker
  | lengthZero hhead hzero =>
    rw [h.toHeaded.unique hhead.parsed] at hzero
    exact absurd hzero h.len
  | bodyShort _ _ hshort =>
    refine absurd ?_ hshort
    rw [bodyIn, List.length_take]
    omega
  | checkMissing _ _ _ hmissing =>
    have hlen := congrArg List.length hmissing
    rw [behindBody, List.length_drop, List.length_nil] at hlen
    omega
  | dataOpen => rfl
  | badPostamble => rfl
  | answered => rfl

/-- Behind the closing acknowledgement a strict link raises the fault of a data checksum that does not close, whatever the
postamble is, and that of a wrong postamble only behind a checksum that does. -/
theorem Exit.raised {check : UInt8} (h : Exit .strict w 7 r) (hhead : Accepted .strict w head)
    (hcheck : (behindBody w).head? = some check) :
    (Checksum.closesData head.marker (bodyIn w) check = false →
      r = .error (.checksumMismatch (Checksum.ofData head.marker (bodyIn w)) check)) ∧
    (Checksum.closesData head.marker (bodyIn w) check = true → (postambleIn w).head? ≠ some Frame.postamble →
      r = .error (.frameFormat ("unexpected postamble " ++ Hex.render (postambleIn w)))) := by
  cases h with
  | dataOpen _ hhead' hcheck' hopen =>
    obtain rfl := hhead.toHeaded.unique hhead'.parsed
    obtain rfl := Option.some.inj (hcheck.symm.trans hcheck')
    exact ⟨fun _ => rfl, fun hcloses => nomatch hcloses.symm.trans hopen⟩
  | badPostamble _ hhead' hcheck' hcloses =>
    obtain rfl := hhead.toHeaded.unique hhead'.parsed
    obtain rfl := Option.some.inj (hcheck.symm.trans hcheck')
    exact ⟨fun hopen => (nomatch hcloses.symm.trans hopen), fun _ _ => rfl⟩
  | answered hhead' hcheck' hwell =>
    obtain rfl := hhead.toHeaded.unique hhead'.parsed
    obtain rfl := Option.some.inj (hcheck.symm.trans hcheck')
    obtain ⟨hcloses, hgot⟩ := hwell rfl
    exact ⟨fun hopen => (nomatch hcloses.symm.trans hopen), fun _ hne => absurd hgot hne⟩

/-- Texts that differ within their beginnings differ whatever follows. -/
theorem append_ne_append {front front' : String} {i : Nat} (hi : i < front.toList.length) (hi' : i < front'.toList.length)
    (h : front.toList[i]? ≠ front'.toList[i]?) (rest rest' : String) : front ++ rest ≠ front' ++ rest' := by
  intro heq
  have hlist := congrArg (fun text => text.toList[i]?) heq
  simp only [String.toList_append, List.getElem?_append_left hi, List.getElem?_append_left hi'] at hlist
  exact h hlist

/-- In front of the closing acknowledgement no fault is about the postamble. -/
theorem Exit.postamble_late (h : Exit strictness w n r) {text : String}
    (hr : r = .error (.frameFormat ("unexpected postamble " ++ text))) : n = 7 := by
  have htext {front rest : String} (hfront : 11 < front.toList.length) (hne : front.toList[11]? ≠ some 'p') :
      front ++ rest ≠ "unexpected postamble " ++ text :=
    append_ne_append hfront (by decide) hne rest text
  cases h with
  | silence => nomatch hr
  | notAck => exact absurd (Fault.frameFormat.inj (Except.error.inj hr)) (htext (by decide) (by decide))
  | unanswered => nomatch hr
  | headShort _ _ hparsed =>
    rw [Frame.Head.fault_parse hparsed] at hr
    nomatch hr
  | badStart => exact absurd (Fault.frameFormat.inj (Except.error.inj hr)) (htext (by decide) (by decide))
  | lengthOpen =>
    split at hr
    · nomatch hr
    · nomatch hr
  | otherMarker =>
    split at hr
    · exact absurd (Fault.frameFormat.inj (Except.error.inj hr)) (htext (by decide) (by decide))
    · nomatch hr
  | lengthZero => nomatch hr
  | bodyShort => nomatch hr
  | checkMissing => nomatch hr
  | dataOpen => rfl
  | badPostamble => rfl
  | answered => rfl

/-- In front of the closing acknowledgement a checksum that does not close is that of the length byte. -/
theorem Exit.checksum_late (h : Exit strictness w n r) {expected actual : UInt8}
    (hr : r = .error (.checksumMismatch expected actual)) :
    n = 7 ∨ ∃ head, Headed strictness w head ∧ head.lengthOk = false ∧ expected = Checksum.ofLength head.len ∧
      actual = head.check := by
  cases h with
  | silence => nomatch hr
  | notAck => nomatch hr
  | unanswered => nomatch hr
  | headShort _ _ hparsed =>
    rw [Frame.Head.fault_parse hparsed] at hr
    nomatch hr
  | badStart => nomatch hr
  | lengthOpen hhead hopen =>
    split at hr
    · obtain ⟨rfl, rfl⟩ := Fault.checksumMismatch.inj (Except.error.inj hr)
      exact Or.inr ⟨_, hhead, hopen, rfl, rfl⟩
    · nomatch hr
  | otherMarker =>
    split at hr
    · nomatch hr
    · nomatch hr
  | lengthZero => nomatch hr
  | bodyShort => nomatch hr
  | checkMissing => nomatch hr
  | dataOpen => exact Or.inl rfl
  | badPostamble => exact Or.inl rfl
  | answered => exact Or.inl rfl

end Exits

/-! ## What the course says -/

section Course

variable {l : Link (Tapped MemoryChannel)} {frame : Bytes} {timeout : Duration} {made : List (Call × Bool)} {m : Nat}
  {r : Except Fault (Option Bytes)}

theorem map_fst_passed (n : Nat) : (passed l frame timeout n).map Prod.fst = firstCalls l frame timeout n := by
  rw [passed, List.map_map]
  exact List.map_id _

theorem length_passed {n : Nat} (hn : n ≤ 7) : (passed l frame timeout n).length = n := by
  rw [passed, List.length_map, firstCalls, List.length_take]
  exact Nat.min_eq_left hn

theorem not_failed_of_mem_passed {n : Nat} {call : Call × Bool} (h : call ∈ passed l frame timeout n) : call.2 = false := by
  obtain ⟨_, -, rfl⟩ := List.mem_map.1 h
  rfl

/-- A planned failure is in front of the end of a handshake. -/
theorem lt_of_call {n : Nat} {call : Call} (h : (handshakeCalls frame timeout l.channel.inner.incoming)[n]? = some call) :
    n < 7 := (List.getElem?_eq_some_iff.1 h).1

/-- The calls are the first ones of a whole handshake. -/
theorem Course.calls_prefix (h : Course l frame timeout made m r) :
    made.map Prod.fst <+: handshakeCalls frame timeout l.channel.inner.incoming := by
  cases h with
  | @cut n m call reason hcall =>
    have htake : firstCalls l frame timeout n ++ [call] = firstCalls l frame timeout (n + 1) := by
      rw [firstCalls, firstCalls, List.take_add_one, hcall]
      rfl
    rw [List.map_append, map_fst_passed]
    show firstCalls l frame timeout n ++ [call] <+: _
    rw [htake]
    exact List.take_prefix _ _
  | exit =>
    rw [map_fst_passed]
    exact List.take_prefix _ _

/-- A call that fails is the last one, and the handshake ends in its fault. -/
theorem Course.failing (h : Course l frame timeout made m r) {before after : List (Call × Bool)} {call : Call}
    (hmade : made = before ++ (call, true) :: after) :
    after = [] ∧ ∃ reason,
      (FailurePlan.meet call.kind (FailurePlan.remaining (before.map Prod.fst) l.channel.plans)).1 = some reason ∧
      r = .error (.channel reason) := by
  cases h with
  | @cut n m last reason hcall hreason =>
    rcases List.eq_nil_or_concat after with rfl | ⟨init, x, rfl⟩
    · obtain ⟨hbefore, hlast⟩ := List.append_inj' hmade rfl
      obtain rfl : last = call := congrArg Prod.fst (List.singleton_inj.1 hlast)
      rw [← hbefore, map_fst_passed]
      exact ⟨rfl, reason, hreason, rfl⟩
    · rw [List.concat_eq_append, ← List.cons_append, ← List.append_assoc] at hmade
      have hmem : (call, true) ∈ passed l frame timeout n :=
        (List.append_inj' hmade rfl).1 ▸ List.mem_append_right _ List.mem_cons_self
      nomatch not_failed_of_mem_passed hmem
  | exit =>
    have hmem : (call, true) ∈ passed l frame timeout _ := hmade ▸ List.mem_append_right _ List.mem_cons_self
    nomatch not_failed_of_mem_passed hmem

/-- In front of its end, a handshake has made fewer than seven calls. -/
theorem passed_six {n : Nat} (hn : n < 7) : (passed l frame timeout n)[6]? = none :=
  List.getElem?_eq_none (by rw [length_passed (Nat.le_of_lt hn)]; omega)

/-- The closing acknowledgement is called for exactly if nothing failed before and there is a reply to acknowledge. -/
theorem Course.ack_iff (h : Course l frame timeout made m r) :
    (made.map Prod.fst)[6]? = some (.send Frame.ack) ↔
      (∀ call ∈ made.take 6, call.2 = false) ∧ ∃ head, Accepted l.strictness l.channel.inner.incoming head := by
  cases h with
  | @cut n m call reason hcall _ _ hack =>
    have hn := lt_of_call hcall
    have hlength : (passed l frame timeout n).length = n := length_passed (Nat.le_of_lt hn)
    by_cases hsix : n = 6
    · subst hsix
      obtain rfl : call = .send Frame.ack := (Option.some.inj hcall).symm
      rw [List.take_left' hlength]
      exact ⟨fun _ => ⟨fun c hc => not_failed_of_mem_passed hc, hack rfl⟩, fun _ => rfl⟩
    · have hmade : (passed l frame timeout n ++ [(call, true)]).length ≤ 6 := by
        rw [List.length_append, hlength, List.length_singleton]
        omega
      rw [List.getElem?_map, List.getElem?_eq_none hmade, List.take_of_length_le hmade]
      exact ⟨nofun, fun h => nomatch h.1 _ (List.mem_append_right _ List.mem_cons_self)⟩
  | @exit n m _ _ _ hexit =>
    by_cases hseven : n = 7
    · subst hseven
      exact ⟨fun _ => ⟨fun c hc => not_failed_of_mem_passed (List.mem_of_mem_take hc), hexit.accepted⟩, fun _ => rfl⟩
    · have hn : n < 7 := Nat.lt_of_le_of_ne hexit.le hseven
      rw [List.getElem?_map, passed_six hn]
      refine ⟨nofun, ?_⟩
      rintro ⟨-, head, haccepted⟩
      exact absurd (haccepted.exit_eq hexit) hseven

/-- The last stage is entered exactly if the closing acknowledgement went through. -/
theorem Course.last_iff (h : Course l frame timeout made m r) : m = 5 ↔ made[6]? = some (.send Frame.ack, false) := by
  cases h with
  | @cut n m call reason hcall _ hm =>
    have hn := lt_of_call hcall
    have hlength : (passed l frame timeout n).length = n := length_passed (Nat.le_of_lt hn)
    refine ⟨fun h5 => absurd h5 (Nat.ne_of_lt hm), fun hsix => ?_⟩
    rw [List.getElem?_append_right (by omega)] at hsix
    have hlast := List.mem_singleton.1 (List.mem_of_getElem? hsix)
    nomatch congrArg Prod.snd hlast
  | @exit n m _ hall _ hexit =>
    rw [hall]
    by_cases hseven : n = 7
    · subst hseven
      exact ⟨fun _ => rfl, fun _ => rfl⟩
    · have hn : n < 7 := Nat.lt_of_le_of_ne hexit.le hseven
      rw [passed_six hn]
      exact ⟨fun h7 => absurd h7 hseven, nofun⟩

/-- A handshake of which no call failed stopped at an exit. -/
theorem Course.exit_of_passed (h : Course l frame timeout made m r) (hmade : ∀ call ∈ made, call.2 = false) :
    Exit l.strictness l.channel.inner.incoming made.length r := by
  cases h with
  | cut => nomatch hmade _ (List.mem_append_right _ List.mem_cons_self)
  | exit _ _ hexit =>
    rw [length_passed hexit.le]
    exact hexit

/-- A handshake that no failed call ended stopped at an exit, the last of which is behind the closing acknowledgement. -/
theorem Course.channel_or_exit (h : Course l frame timeout made m r) :
    (∃ reason, r = .error (.channel reason)) ∨ ∃ n, Exit l.strictness l.channel.inner.incoming n r ∧
      (n = 7 → made[6]? = some (.send Frame.ack, false)) := by
  cases h with
  | cut => exact Or.inl ⟨_, rfl⟩
  | exit _ _ hexit =>
    refine Or.inr ⟨_, hexit, ?_⟩
    rintro rfl
    rfl

/-- There are five stages to enter. -/
theorem Course.le (h : Course l frame timeout made m r) : m ≤ 5 := by
  cases h with
  | cut _ _ hm => exact Nat.le_of_lt hm
  | exit _ hm => exact hm

/-- Behind the closing acknowledgement, the data checksum and the postamble decide. -/
theorem Course.exit_of_ack (h : Course l frame timeout made m r) (hack : made[6]? = some (.send Frame.ack, false)) :
    Exit l.strictness l.channel.inner.incoming 7 r := by
  have hlast := h.last_iff.2 hack
  cases h with
  | cut _ _ hm => exact absurd hlast (Nat.ne_of_lt hm)
  | exit hall _ hexit =>
    rw [hall.1 hlast] at hexit
    exact hexit

end Course

end Link

end NfcHost
