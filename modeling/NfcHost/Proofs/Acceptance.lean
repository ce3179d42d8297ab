import NfcHost.Proofs.Handshake

/-!
# What a strict link accepts

A strict link answers a body exactly when its queue starts with an acknowledgement and the frame that `Frame.encode` writes
for a reply with that body. Each stage of the handshake is read backwards: what it lets through fixes the bytes it has read.
The bytes of the stages put together are an acknowledgement and one whole frame, since a head with a closed length byte, the
controller's marker and a body of the length it announces is the head of that frame.
-/

namespace NfcHost.Link

open ByteStream Act

variable {σ : Type}

/-- No access of a link falls outside the data. -/
def InRange (fault : Fault) : Prop := fault ≠ .outOfRange

/-! ## Judgements of a strict link -/

section Judgements

variable {P : Link σ → Prop}

/-- A strict link looks at its strictness. -/
theorem strict_isStrict (hP : ∀ l, P l → l.strictness = .strict) :
    (look isStrict : Act (Link σ) Bool).Meets P (fun strict l => strict = true ∧ P l) (fun fault _ => InRange fault) := by
  intro l hl
  exact ⟨by rw [isStrict, hP l hl]; rfl, hl⟩

theorem strict_tell (event : Event) : (tell event : Act (Link σ) Unit).Meets P (fun _ => P) (fun fault _ => InRange fault) :=
  fun _ hl => hl

/-- A strict link goes on only if all is well. -/
theorem strict_expect (hP : ∀ l, P l → l.strictness = .strict) (well : Bool) (otherwise : Anomaly) :
    (expect well otherwise : Act (Link σ) Unit).Meets P (fun _ l => well = true ∧ P l) (fun fault _ => InRange fault) := by
  unfold expect
  split
  · rename_i hwell
    exact Meets.done fun l hl => ⟨hwell, hl⟩
  · refine (strict_isStrict hP).bind fun strict => Meets.assume fun hstrict => ?_
    rw [if_pos hstrict]
    exact Meets.fail fun _ _ => nofun

/-- A strict link goes on only with a head it can trust. -/
theorem strict_trustHead (hP : ∀ l, P l → l.strictness = .strict) (head : Frame.Head) :
    (trustHead head : Act (Link σ) Bool).Meets P
      (fun trusted l => (trusted = true ∧ head.lengthOk = true ∧ head.marker = Frame.deviceMarker) ∧ P l)
      (fun fault _ => InRange fault) := by
  refine (strict_isStrict hP).bind fun strict => Meets.assume fun hstrict => ?_
  rw [hstrict]
  split
  · exact Meets.fail fun _ _ => nofun
  · rename_i hlen
    split
    · exact Meets.fail fun _ _ => nofun
    · rename_i hm
      exact Meets.done fun l hl => ⟨⟨rfl, by simpa using hlen, by simpa using hm⟩, hl⟩

/-- Nothing is put off only if the data checksum closes. -/
theorem strict_judgeChecksum (hP : ∀ l, P l → l.strictness = .strict) (head : Frame.Head) (body : Bytes) (check : UInt8) :
    (judgeChecksum head body check : Act (Link σ) (Option Fault)).Meets P
      (fun pending l => ((∀ fault ∈ pending, InRange fault) ∧
        (pending = none → Checksum.closesData head.marker body check = true)) ∧ P l)
      (fun fault _ => InRange fault) := by
  unfold judgeChecksum
  split
  · rename_i hcloses
    exact Meets.done fun l hl => ⟨⟨nofun, fun _ => hcloses⟩, hl⟩
  · refine (strict_isStrict hP).bind fun strict => Meets.assume fun hstrict => ?_
    rw [if_pos hstrict]
    refine Meets.done fun l hl => ⟨⟨?_, nofun⟩, hl⟩
    rintro fault ⟨⟩
    exact nofun

/-- Nothing is put off only if nothing was before and the postamble is there. -/
theorem strict_judgePostamble (hP : ∀ l, P l → l.strictness = .strict) (got : Bytes) {pending : Option Fault}
    (hpending : ∀ fault ∈ pending, InRange fault) :
    (judgePostamble got pending : Act (Link σ) (Option Fault)).Meets P
      (fun pending' l => ((∀ fault ∈ pending', InRange fault) ∧
        (pending' = none → pending = none ∧ got.head? = some Frame.postamble)) ∧ P l)
      (fun fault _ => InRange fault) := by
  unfold judgePostamble
  split
  · rename_i hgot
    exact Meets.done fun l hl => ⟨⟨hpending, fun h => ⟨h, hgot⟩⟩, hl⟩
  · refine (strict_isStrict hP).bind fun strict => Meets.assume fun hstrict => ?_
    rw [if_pos hstrict]
    refine Meets.done fun l hl => ⟨⟨?_, nofun⟩, hl⟩
    rintro fault ⟨⟩
    cases pending with
    | none => exact nofun
    | some fault => exact hpending fault rfl

end Judgements

/-! ## Stages of a strict link -/

variable [Channel σ] [ByteStream σ]

/-- A strict link with `w` to be read. -/
def Reading (w : Bytes) (l : Link σ) : Prop := l.strictness = .strict ∧ incoming l.channel = w

theorem Reading.strict (w : Bytes) (l : Link σ) (h : Reading w l) : l.strictness = .strict := h.1

theorem strict_receive (len : Nat) (timeout : Duration) (w : Bytes) :
    (onChannel (Channel.receive len timeout) : Act (Link σ) Bytes).Meets (Reading w)
      (fun got l => got = w.take len ∧ Reading (w.drop len) l) (fun fault _ => InRange fault) := by
  rintro l ⟨hs, rfl⟩
  unfold onChannel
  rw [run_onPart, run_receive]
  exact ⟨rfl, hs, incoming_afterReceive _ _ _⟩

theorem strict_sendAck (w : Bytes) :
    (onChannel (Channel.send Frame.ack) : Act (Link σ) Unit).Meets (Reading w) (fun _ => Reading w)
      (fun fault _ => InRange fault) := by
  rintro l ⟨hs, rfl⟩
  unfold onChannel
  rw [run_onPart, run_send]
  exact ⟨hs, incoming_afterSend_ack _⟩

theorem strict_enter (next : Stage) (w : Bytes) :
    (enter next : Act (Link σ) Unit).Meets (Reading w) (fun _ => Reading w) (fun fault _ => InRange fault) :=
  fun _ hl => hl

/-- A strict link goes on only from silence or from an acknowledgement. -/
theorem strict_sendAndAwaitAck (frame : Bytes) (timeout : Duration) (w : Bytes) :
    (sendAndAwaitAck frame timeout : Act (Link σ) Bool).Meets
      (fun l => l.strictness = .strict ∧ incoming (afterSend frame l.channel) = w)
      (fun came l => came = false ∧ w = [] ∨ came = true ∧ ∃ rest, w = Frame.ack ++ rest ∧ Reading rest l)
      (fun fault _ => InRange fault) := by
  have hsend : (onChannel (Channel.send frame) : Act (Link σ) Unit).Meets
      (fun l => l.strictness = .strict ∧ incoming (afterSend frame l.channel) = w) (fun _ => Reading w)
      (fun fault _ => InRange fault) := by
    rintro l ⟨hs, rfl⟩
    unfold onChannel
    rw [run_onPart, run_send]
    exact ⟨hs, rfl⟩
  refine (strict_tell _).bind fun _ => hsend.bind fun _ => ?_
  refine (strict_enter _ w).bind fun _ => (strict_enter _ w).bind fun _ => ?_
  refine (strict_receive _ _ w).bind fun ack => Meets.assume fun hack => ?_
  split
  · rename_i hempty
    have hw : w = [] := by simpa [hack, Frame.ack] using hempty
    exact (strict_tell _).bind fun _ => Meets.done fun l _ => Or.inl ⟨rfl, hw⟩
  · refine (strict_expect (Reading.strict _) _ _).bind fun _ => Meets.assume fun hwell => ?_
    refine (strict_enter _ _).bind fun _ => Meets.done fun l hl => Or.inr ⟨rfl, _, ?_, hl⟩
    have heq : w.take Frame.ack.length = Frame.ack := by simpa [hack] using hwell
    have hw := List.take_append_drop Frame.ack.length w
    rw [heq] at hw
    exact hw.symm

/-- A strict link goes on only from silence or from a head it can trust. -/
theorem strict_awaitHead (timeout : Duration) (w : Bytes) :
    (awaitHead timeout : Act (Link σ) (Option Frame.Head)).Meets (Reading w)
      (fun head? l => head? = none ∧ w = [] ∨ ∃ head rest, head? = some head ∧ head.startOk = true ∧ head.lengthOk = true ∧
        head.marker = Frame.deviceMarker ∧ w = head.bytes ++ rest ∧ Reading rest l)
      (fun fault _ => InRange fault) := by
  refine (strict_enter _ w).bind fun _ => (strict_receive _ _ w).bind fun bytes => Meets.assume fun hbytes => ?_
  split
  · rename_i hempty
    have hw : w = [] := by simpa [hbytes, Frame.headLength] using hempty
    exact (strict_tell _).bind fun _ => Meets.done fun l _ => Or.inl ⟨rfl, hw⟩
  · refine Meets.bind (Meets.lift (fun head hp l hl => And.intro hp hl) fun fault hp _ _ => ?_) fun head =>
      Meets.assume fun hp => ?_
    · rw [Frame.Head.fault_parse hp]
      exact nofun
    · refine (strict_expect (Reading.strict _) _ _).bind fun _ => Meets.assume fun hstart => ?_
      refine (strict_trustHead (Reading.strict _) _).bind fun trusted => Meets.assume fun htrust => ?_
      obtain ⟨rfl, hlen, hm⟩ := htrust
      rw [if_pos rfl]
      refine Meets.done fun l hl => Or.inr ⟨head, _, rfl, hstart, hlen, hm, ?_, hl⟩
      have hw := List.take_append_drop Frame.headLength w
      rw [← hbytes, Frame.Head.eq_bytes_of_parse hp] at hw
      exact hw.symm

/-- A strict link reads exactly as many bytes as it asks for. -/
theorem strict_readExactly (len : Nat) (timeout : Duration) (w : Bytes) :
    (readExactly len timeout : Act (Link σ) Bytes).Meets (Reading w)
      (fun got l => ∃ rest, (got.length = len ∧ w = got ++ rest) ∧ Reading rest l) (fun fault _ => InRange fault) := by
  refine (strict_receive _ _ w).bind fun got => Meets.assume fun hgot => ?_
  split
  · exact Meets.fail fun _ _ => nofun
  · rename_i hlen
    refine Meets.done fun l hl => ⟨_, ⟨by simpa using hlen, ?_⟩, hl⟩
    rw [hgot, List.take_append_drop]

/-- A strict link answers a body only if it has the announced length and its checksum and the postamble follow. -/
theorem strict_finish (head : Frame.Head) (timeout : Duration) (w : Bytes) :
    (finish head timeout : Act (Link σ) Bytes).Meets (Reading w)
      (fun body _ => head.bodyLength = .ok body.length ∧
        ∃ rest, w = body ++ Checksum.ofData head.marker body :: Frame.postamble :: rest)
      (fun fault _ => InRange fault) := by
  refine Meets.bind (Meets.lift (fun len hlen l hl => And.intro hlen hl) fun fault hf _ _ => ?_) fun len =>
    Meets.assume fun hlen => ?_
  · rw [Frame.Head.fault_bodyLength hf]
    exact nofun
  refine (strict_readExactly _ _ w).bind fun body => Meets.exists fun afterBody => Meets.assume fun hbody => ?_
  refine (strict_readExactly _ _ afterBody).bind fun one => Meets.exists fun afterCheck => Meets.assume fun hone => ?_
  obtain ⟨check, rfl⟩ := List.length_eq_one_iff.1 hone.1
  have hfetch : (liftM (Bytes.fetch [check] 0) : Act (Link σ) UInt8).Meets (Reading afterCheck)
      (fun v l => v = check ∧ Reading afterCheck l) (fun fault _ => InRange fault) := Meets.done fun l hl => ⟨rfl, hl⟩
  refine hfetch.bind fun v => Meets.assume fun hv => ?_
  subst hv
  refine (strict_judgeChecksum (Reading.strict _) _ _ _).bind fun pending => Meets.assume fun hpending => ?_
  refine (strict_receive _ _ _).bind fun got => Meets.assume fun hgot => ?_
  refine (strict_judgePostamble (Reading.strict _) got hpending.1).bind fun pending' => Meets.assume fun hpending' => ?_
  refine (strict_sendAck _).bind fun _ => (strict_enter _ _).bind fun _ => (strict_tell _).bind fun _ => ?_
  split
  · exact Meets.fail fun l _ => hpending'.1 _ rfl
  · obtain ⟨hnone, hhead⟩ := hpending'.2 rfl
    refine Meets.done fun l _ => ⟨hlen.trans (congrArg Except.ok hbody.1.symm), afterCheck.drop 1, ?_⟩
    have hcheck := (Checksum.closesData_iff _ _ _).1 (hpending.2 hnone)
    have hpost : afterCheck = Frame.postamble :: afterCheck.drop 1 := by
      rcases afterCheck with _ | ⟨b, rest⟩
      · simp [hgot] at hhead
      · simpa [hgot] using hhead
    rw [hbody.2, hone.2, ← hcheck, List.singleton_append, ← hpost]

/-- The handshake of a strict link, read backwards. -/
theorem strict_handshake (frame : Bytes) (timeout : Duration) (w : Bytes) :
    (handshake frame timeout : Act (Link σ) (Option Bytes)).Meets
      (fun l => l.strictness = .strict ∧ incoming (afterSend frame l.channel) = w)
      (fun body? _ => body? = none ∧ (w = [] ∨ w = Frame.ack) ∨ ∃ body rest, body? = some body ∧
        body.length ≤ Frame.maxBody ∧ w = Frame.ack ++ (Frame.reply body).wire ++ rest)
      (fun fault _ => InRange fault) := by
  refine (strict_sendAndAwaitAck frame timeout w).bind fun came => Meets.or (Meets.assume fun hcame => ?_)
    (Meets.assume fun hcame => Meets.exists fun rest => Meets.assume fun hw => ?_)
  · rw [hcame]
    exact Meets.done fun l hw => Or.inl ⟨rfl, Or.inl hw⟩
  · rw [hcame, if_pos rfl]
    refine (strict_awaitHead timeout rest).bind fun head? => Meets.or (Meets.assume fun hhead => ?_)
      (Meets.exists fun head => Meets.exists fun rest' => Meets.assume fun hhead => Meets.assume fun hstart =>
        Meets.assume fun hlen => Meets.assume fun hm => Meets.assume fun hrest => ?_)
    · rw [hhead]
      exact Meets.done fun l hnil => Or.inl ⟨rfl, Or.inr (by rw [hw, hnil, List.append_nil])⟩
    · rw [hhead]
      refine (strict_finish head timeout rest').bind fun body => Meets.assume fun hbody => ?_
      refine Meets.done fun l hrest' => Or.inr ?_
      obtain ⟨rest'', hrest'⟩ := hrest'
      obtain ⟨hfits, hreply⟩ := Frame.Head.eq_head (.reply body) hstart hlen hm hbody
      refine ⟨body, rest'', rfl, hfits, ?_⟩
      rw [hw, hrest, hrest', hm, hreply]
      simp [Frame.wire, Frame.reply]

/-! ## The replies a strict link accepts -/

/-- The queue starts with an acknowledgement and the frame of a reply with body `b`, and goes on with `rest`. -/
def StartsWithReply (queue b rest : Bytes) : Prop :=
  b.length ≤ 254 ∧ ∃ reply, (Frame.reply b).encode = .ok reply ∧ queue = Frame.ack ++ reply ++ rest

/-- Such a queue is an acknowledgement, the bytes of the frame, and the rest. -/
theorem startsWithReply_iff {queue b rest : Bytes} :
    StartsWithReply queue b rest ↔ b.length ≤ Frame.maxBody ∧ queue = Frame.ack ++ (Frame.reply b).wire ++ rest := by
  constructor
  · rintro ⟨hb, reply, hreply, rfl⟩
    exact ⟨hb, by rw [(Frame.encode_eq_ok_iff.1 hreply).2]⟩
  · rintro ⟨hb, rfl⟩
    exact ⟨hb, _, Frame.encode_eq_wire hb, rfl⟩

/-- The exchange of a strict link, read backwards. -/
theorem strict_exchange (frame : Bytes) (timeout : Duration) {l : Link σ} (hl : l.strictness = .strict) :
    ((exchange frame timeout).run l).Meets
      (fun body? _ => body? = none ∧
          (incoming (afterSend frame l.channel) = [] ∨ incoming (afterSend frame l.channel) = Frame.ack) ∨
        ∃ body rest, body? = some body ∧ StartsWithReply (incoming (afterSend frame l.channel)) body rest)
      (fun fault _ => InRange fault) := by
  have h := strict_handshake frame timeout _ l ⟨hl, rfl⟩
  unfold Outcome.Meets at h ⊢
  rw [(ends_exchange (show (handshake frame timeout).Ends l _ _ from ⟨rfl, rfl⟩)).1]
  split at h
  · refine h.imp id ?_
    rintro ⟨body, rest, hbody, hfits, hqueue⟩
    exact ⟨body, rest, hbody, startsWithReply_iff.2 ⟨hfits, hqueue⟩⟩
  · exact h

/-- The exchange of a link of either strictness, read forwards. -/
theorem ends_exchange_startsWithReply {frame b rest : Bytes} (timeout : Duration) {l : Link σ}
    (h : StartsWithReply (incoming (afterSend frame l.channel)) b rest) :
    (exchange frame timeout).Ends l (.ok (some b))
      { l with channel := channelAfterReply frame b.length timeout l.channel, stage := .idle } := by
  obtain ⟨hb, hqueue⟩ := startsWithReply_iff.1 h
  exact ends_exchange_reply frame timeout hb hqueue

/-- What is left of a queue that starts with a reply is what follows the reply. -/
theorem incoming_startsWithReply {frame b rest : Bytes} (timeout : Duration) {s : σ}
    (h : StartsWithReply (incoming (afterSend frame s)) b rest) :
    incoming (channelAfterReply frame b.length timeout s) = rest := by
  obtain ⟨-, hqueue⟩ := startsWithReply_iff.1 h
  exact incoming_channelAfterReply hqueue

/-- An exchange of a strict link over any queue of bytes. It answers the body `b` exactly when the queue starts with an
acknowledgement and the frame of a reply with body `b`, and then what follows stays queued, and the frame and an
acknowledgement were written. It answers nothing exactly when the queue is empty or an acknowledgement. In every other case
it ends in a fault, and never because an access fell outside the data. -/
theorem strict_accepts_exactly_replies (l : Link MemoryChannel) (frame : Bytes) (timeout : Duration) :
    let o := (exchange frame timeout).run (l.taking .strict)
    let queue := l.channel.incoming
    (∀ b, o.result = .ok (some b) ↔ ∃ rest, StartsWithReply queue b rest) ∧
    (∀ b rest, StartsWithReply queue b rest →
      o.state.channel.incoming = rest ∧ o.state.channel.sent = l.channel.sent ++ [frame, Frame.ack]) ∧
    (o.result = .ok none ↔ queue = [] ∨ queue = Frame.ack) ∧
    ((¬∃ b rest, StartsWithReply queue b rest) → queue ≠ [] → queue ≠ Frame.ack →
      ∃ fault, o.result = .error fault ∧ fault ≠ .outOfRange) := by
  intro o queue
  have hnone : queue = [] ∨ queue = Frame.ack → o.result = .ok none := by
    rintro (h | h)
    · exact (ends_exchange_silence (l := l.taking .strict) frame timeout h).1
    · exact (ends_exchange_ack (l := l.taking .strict) frame timeout h).1
  have hreply (b rest : Bytes) (h : StartsWithReply queue b rest) : (exchange frame timeout).Ends (l.taking .strict)
      (.ok (some b)) { l with channel := channelAfterReply frame b.length timeout l.channel, strictness := .strict,
                              stage := .idle } :=
    ends_exchange_startsWithReply (l := l.taking .strict) timeout h
  have hback : o.Meets (fun body? _ => body? = none ∧ (queue = [] ∨ queue = Frame.ack) ∨
      ∃ body rest, body? = some body ∧ StartsWithReply queue body rest) (fun fault _ => InRange fault) :=
    strict_exchange frame timeout rfl
  unfold Outcome.Meets at hback
  refine ⟨fun b => ⟨fun h => ?_, fun ⟨rest, h⟩ => (hreply b rest h).1⟩, fun b rest h => ?_, ⟨fun h => ?_, hnone⟩,
    fun hno hnil hack => ?_⟩
  · rw [h] at hback
    obtain ⟨hb, -⟩ | ⟨body, rest, hb, hstarts⟩ := hback
    · nomatch hb
    · rw [Option.some.inj hb]
      exact ⟨rest, hstarts⟩
  · rw [(hreply b rest h).2]
    have hrest : incoming (channelAfterReply frame b.length timeout l.channel) = rest := incoming_startsWithReply timeout h
    exact ⟨hrest, List.append_assoc _ _ _⟩
  · rw [h] at hback
    obtain ⟨-, hqueue⟩ | ⟨body, rest, hb, -⟩ := hback
    · exact hqueue
    · nomatch hb
  · rcases hr : o.result with fault | body?
    · rw [hr] at hback
      exact ⟨fault, rfl, hback⟩
    · rw [hr] at hback
      obtain ⟨-, h | h⟩ | ⟨body, rest, -, hstarts⟩ := hback
      · exact absurd h hnil
      · exact absurd h hack
      · exact absurd ⟨body, rest, hstarts⟩ hno

end NfcHost.Link
