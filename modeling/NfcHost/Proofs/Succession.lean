import NfcHost.Proofs.Handshake

/-!
# Exchanges one after the other

A tolerant link that meets replies queued back to back (`BackToBack`) answers each with its body and stays in step with the
controller as long as every reply carries the controller's marker. A reply with another marker is no reply, and the link
reads no further than its head. So the rest of that frame stands in front of the replies to come, and what is read next as
an acknowledgement is none: that the link is in step whatever the markers are is false (`in_step_false`).
-/

namespace NfcHost.Link

open ByteStream

/-! ## A reply that is refused for its marker -/

section Refused

variable {σ : Type}

/-- A tolerant link does not trust a head that is not the controller's. -/
theorem ends_trustHead_refused {l : Link σ} {head : Frame.Head} (htolerant : l.strictness = .tolerant)
    (hlen : head.lengthOk = true) (hm : head.marker ≠ Frame.deviceMarker) : (trustHead head).Ends l (.ok false) l := by
  have hstrict : l.isStrict = false := by
    rw [isStrict, htolerant]
    rfl
  refine (Act.Ends.look _ l).bind ?_
  rw [hstrict, hlen, if_neg (by decide), if_pos hm, if_neg (by decide)]
  exact (Act.Ends.tell _ _ l).bind (Act.Ends.done _ l)

variable [Channel σ] [ByteStream σ]

/-- The head of a frame that is not the controller's. -/
theorem ends_awaitHead_refused (f : Frame) (timeout : Duration) {l : Link σ} {rest : Bytes}
    (htolerant : l.strictness = .tolerant) (hm : f.marker ≠ Frame.deviceMarker)
    (h : incoming l.channel = f.head.bytes ++ rest) :
    (awaitHead timeout).Ends l (.ok none)
      { l with channel := afterReceive Frame.headLength timeout l.channel, stage := .responseAwaited } := by
  have htake : (f.head.bytes ++ rest).take Frame.headLength = f.head.bytes := List.take_left' (Frame.length_head_bytes f)
  refine (ends_enter _ l).bind ((ends_receive _ _ _).bind ?_)
  rw [h, htake, if_neg (show ¬f.head.bytes.isEmpty = true from nofun), Frame.parse_head_bytes]
  refine (Act.Ends.lift _ _).bind ((ends_expect (Frame.startOk_head f) _ _).bind ?_)
  refine Act.Ends.bind (ends_trustHead_refused ?_ (Frame.lengthOk_head f) hm) (Act.Ends.done _ _)
  exact htolerant

/-- The channel when the acknowledgement and the head of a reply are read. -/
def channelAfterHead (frame : Bytes) (timeout : Duration) (s : σ) : σ :=
  afterReceive Frame.headLength timeout (channelAfterAck frame timeout s)

/-- Everything behind the head is left. -/
theorem incoming_channelAfterHead {frame : Bytes} {timeout : Duration} {s : σ} {f : Frame} {rest : Bytes}
    (h : incoming (afterSend frame s) = Frame.ack ++ f.wire ++ rest) :
    incoming (channelAfterHead frame timeout s) =
      f.body ++ [Checksum.ofData f.marker f.body, Frame.postamble] ++ rest := by
  have hlen : Frame.headLength ≤ f.wire.length := by
    rw [Frame.length_wire]
    omega
  rw [channelAfterHead, incoming_afterReceive, incoming_channelAfterAck, h, List.append_assoc, List.drop_left,
    List.drop_append_of_le_length hlen, Frame.drop_head_wire]

/-- To a tolerant link an acknowledgement and a frame that is not the controller's are no reply. -/
theorem ends_exchange_refused (frame : Bytes) (timeout : Duration) {l : Link σ} {f : Frame} {rest : Bytes}
    (htolerant : l.strictness = .tolerant) (hm : f.marker ≠ Frame.deviceMarker)
    (h : incoming (afterSend frame l.channel) = Frame.ack ++ f.wire ++ rest) :
    (exchange frame timeout).Ends l (.ok none)
      { l with channel := channelAfterHead frame timeout l.channel, stage := .idle } := by
  rw [List.append_assoc] at h
  have hhead : incoming (channelAfterAck frame timeout l.channel) = f.head.bytes ++
      (f.body ++ [Checksum.ofData f.marker f.body, Frame.postamble] ++ rest) := by
    rw [incoming_channelAfterAck, h, List.drop_left]
    simp [Frame.wire]
  have hack := ends_sendAndAwaitAck_ack frame timeout h
  have hrefused := ends_awaitHead_refused f timeout
    (l := { l with channel := channelAfterAck frame timeout l.channel, stage := .ackVerified }) htolerant hm hhead
  exact ends_exchange (hack.bind (hrefused.bind (Act.Ends.done _ _)))

end Refused

/-! ## Replies back to back -/

/-- The queue holds the replies one behind the other, each an acknowledgement and the frame as it is written. -/
def BackToBack : List Frame → Bytes → Prop
  | [], queue => queue = []
  | f :: rest, queue => ∃ reply after, f.encode = .ok reply ∧ queue = Frame.ack ++ reply ++ after ∧ BackToBack rest after

/-- The first of the replies. -/
theorem BackToBack.first {f : Frame} {rest : List Frame} {queue : Bytes} (h : BackToBack (f :: rest) queue) :
    f.body.length ≤ Frame.maxBody ∧ ∃ after, queue = Frame.ack ++ f.wire ++ after ∧ BackToBack rest after := by
  obtain ⟨reply, after, hreply, hqueue, hrest⟩ := h
  obtain ⟨hb, rfl⟩ := Frame.encode_eq_ok_iff.1 hreply
  exact ⟨hb, after, hqueue, hrest⟩

section Exchanges

variable {σ : Type} [Channel σ]

/-- Exchanges one after the other, each of a frame under a timeout. Answers how each ended. -/
def exchanges : List (Bytes × Duration) → Act (Link σ) (List (Except Fault (Option Bytes)))
  | [] => return []
  | (frame, timeout) :: rest => do
    let ended ← (exchange frame timeout).attempt
    return ended :: (← exchanges rest)

/-- The first exchange, then the others. -/
theorem ends_exchanges_cons {frame : Bytes} {timeout : Duration} {rest : List (Bytes × Duration)} {l l' l'' : Link σ}
    {r : Except Fault (Option Bytes)} {others : List (Except Fault (Option Bytes))}
    (h : (exchange frame timeout).Ends l r l') (hrest : (exchanges rest).Ends l' (.ok others) l'') :
    (exchanges ((frame, timeout) :: rest)).Ends l (.ok (r :: others)) l'' := by
  obtain ⟨rfl, rfl⟩ := h
  have hfirst : (exchange frame timeout).attempt.Ends l (.ok ((exchange frame timeout).run l).result)
      ((exchange frame timeout).run l).state := ⟨rfl, rfl⟩
  exact hfirst.bind (hrest.bind (Act.Ends.done _ _))

end Exchanges

/-- An exchange that meets a reply of the controller answers its body and takes it off the queue. -/
theorem ends_exchange_first (frame : Bytes) (timeout : Duration) {l : Link MemoryChannel} {f : Frame} {rest : List Frame}
    (hm : f.marker = Frame.deviceMarker) (hqueue : BackToBack (f :: rest) l.channel.incoming) :
    ∃ l', (exchange frame timeout).Ends l (.ok (some f.body)) l' ∧ l'.strictness = l.strictness ∧
      BackToBack rest l'.channel.incoming := by
  obtain ⟨hb, after, hafter, hrest⟩ := hqueue.first
  obtain ⟨marker, body⟩ := f
  obtain rfl : marker = Frame.deviceMarker := hm
  have hin : incoming (afterSend frame l.channel) = Frame.ack ++ (Frame.reply body).wire ++ after := hafter
  refine ⟨_, ends_exchange_reply frame timeout hb hin, rfl, ?_⟩
  rw [show MemoryChannel.incoming (channelAfterReply frame body.length timeout l.channel) = after from
    incoming_channelAfterReply hin]
  exact hrest

/-- As many exchanges as there are replies of the controller in front answer the bodies of these, one each, and take them off
the queue. -/
theorem ends_exchanges_accepted {accepted later : List Frame} {requests : List (Bytes × Duration)} {l : Link MemoryChannel}
    (hmarked : ∀ f ∈ accepted, f.marker = Frame.deviceMarker) (hlen : requests.length = accepted.length)
    (hqueue : BackToBack (accepted ++ later) l.channel.incoming) :
    ∃ l', (exchanges requests).Ends l (.ok (accepted.map fun f => .ok (some f.body))) l' ∧ l'.strictness = l.strictness ∧
      BackToBack later l'.channel.incoming := by
  induction accepted generalizing requests l with
  | nil =>
    obtain rfl := List.length_eq_zero_iff.1 hlen
    exact ⟨l, Act.Ends.done _ _, rfl, hqueue⟩
  | cons f rest ih =>
    obtain _ | ⟨⟨frame, timeout⟩, others⟩ := requests
    · nomatch hlen
    · obtain ⟨l₁, hfirst, hs₁, hq₁⟩ := ends_exchange_first frame timeout (hmarked f List.mem_cons_self) hqueue
      obtain ⟨l₂, hothers, hs₂, hq₂⟩ := ih (fun g hg => hmarked g (List.mem_cons_of_mem _ hg)) (Nat.succ.inj hlen) hq₁
      exact ⟨l₂, ends_exchanges_cons hfirst hothers, hs₂.trans hs₁, hq₂⟩

/-! ## In step as long as no reply is refused -/

/-- A tolerant link over any replies queued back to back, and any exchanges. As many exchanges as there are replies of the
controller in front answer the bodies of these in their order, and exactly the later replies stay queued, so nothing if there
are none. If the next reply is refused for its marker, the next exchange answers nothing and reads no further than the head:
the rest of that frame stays queued, in front of the replies to come. -/
theorem exchanges_in_step (l : Link MemoryChannel) (htolerant : l.strictness = .tolerant) (accepted later : List Frame)
    (requests : List (Bytes × Duration)) (hmarked : ∀ f ∈ accepted, f.marker = Frame.deviceMarker)
    (hlen : requests.length = accepted.length) (hqueue : BackToBack (accepted ++ later) l.channel.incoming) :
    let o := (exchanges requests).run l
    o.result = .ok (accepted.map fun f => .ok (some f.body)) ∧ BackToBack later o.state.channel.incoming ∧
    ∀ (refused : Frame) (more : List Frame) (frame : Bytes) (timeout : Duration), later = refused :: more →
      refused.marker ≠ Frame.deviceMarker →
      let o' := (exchange frame timeout).run o.state
      o'.result = .ok none ∧ ∃ queue, BackToBack more queue ∧ o'.state.channel.incoming =
        refused.body ++ [Checksum.ofData refused.marker refused.body, Frame.postamble] ++ queue := by
  obtain ⟨l', ⟨hresult, rfl⟩, hs, hq⟩ := ends_exchanges_accepted hmarked hlen hqueue
  refine ⟨hresult, hq, ?_⟩
  rintro refused more frame timeout rfl hm o'
  obtain ⟨-, queue, hqueue', hmore⟩ := hq.first
  have hin : incoming (afterSend frame ((exchanges requests).run l).state.channel) =
      Frame.ack ++ refused.wire ++ queue := hqueue'
  obtain ⟨hr, hstate⟩ := ends_exchange_refused frame timeout (hs.trans htolerant) hm hin
  refine ⟨hr, queue, hmore, ?_⟩
  rw [hstate]
  exact incoming_channelAfterHead hin

/-- Two replies of the controller in front of its error frame and one reply more. -/
theorem exchanges_in_step_error_frame :
    let replies : List Frame := [.reply [0x03, 0x32, 0x01, 0x06, 0x07], .reply [0x15], ⟨0x7F, []⟩, .reply [0x09]]
    let queue := replies.flatMap fun f => Frame.ack ++ f.wire
    let l : Link MemoryChannel := .over { incoming := queue } .tolerant
    let o := (exchanges [((Frame.command 0x02 []).wire, .zero), ((Frame.command 0x14 [0x01, 0x00]).wire, .zero)]).run l
    let o' := (exchange (Frame.command 0x08 [0x63, 0x02, 0x80]).wire .zero).run o.state
    o.result = .ok [.ok (some [0x03, 0x32, 0x01, 0x06, 0x07]), .ok (some [0x15])] ∧ o'.result = .ok none := by
  intro replies queue l o o'
  have hqueue : BackToBack replies queue :=
    ⟨_, _, rfl, rfl, _, _, rfl, rfl, _, _, rfl, rfl, _, _, rfl, rfl, rfl⟩
  have h := exchanges_in_step l rfl (replies.take 2) (replies.drop 2)
    [((Frame.command 0x02 []).wire, .zero), ((Frame.command 0x14 [0x01, 0x00]).wire, .zero)] (by decide) rfl hqueue
  exact ⟨h.1, (h.2.2 _ _ _ _ rfl (by decide)).1⟩

/-- That the link stays in step whatever the markers are is false: the controller's error frame is refused, and what it
leaves unread is taken for the next acknowledgement, so the reply behind it is not answered. -/
theorem in_step_false :
    ¬∀ (l : Link MemoryChannel) (replies : List Frame) (requests : List (Bytes × Duration)), l.strictness = .tolerant →
      BackToBack replies l.channel.incoming → requests.length = replies.length →
      ((exchanges requests).run l).result =
        .ok (replies.map fun f => .ok (if f.marker = Frame.deviceMarker then some f.body else none)) ∧
      ((exchanges requests).run l).state.channel.incoming = [] := by
  intro h
  have hqueue : BackToBack [⟨0x7F, []⟩, .reply [0x03, 0x32, 0x01, 0x06, 0x07]]
      (Frame.ack ++ (⟨0x7F, []⟩ : Frame).wire ++ (Frame.ack ++ (Frame.reply [0x03, 0x32, 0x01, 0x06, 0x07]).wire)) :=
    ⟨_, _, rfl, rfl, _, _, rfl, rfl, rfl⟩
  have hstep := (h (.over { incoming := _ } .tolerant) _
    [((Frame.command 0x02 []).wire, .zero), ((Frame.command 0x02 []).wire, .zero)] rfl hqueue rfl).1
  nomatch hstep

end NfcHost.Link
