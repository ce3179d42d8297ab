import NfcHost.Proofs.LinkInvariant

/-!
# Answers that break off

An exchange over a stream that serves an acknowledgement and a reply frame, but only the first bytes of them
(`Link.exchange_truncated`). However many these are, a link of either strictness reads them all and is idle again, and if it
answers a body it is that of the reply. Every stage is described by what it leaves of the bytes to come (`Link.Left`); the
stages that judge what was read leave them alone.
-/

namespace NfcHost

open ByteStream

/-- The channel is read from and acknowledgements are written to it, nothing else. -/
inductive Handled {σ : Type} [Channel σ] [ByteStream σ] : σ → σ → Prop where
  | refl (s : σ) : Handled s s
  | receive {s t : σ} (len : Nat) (timeout : Duration) : Handled s t → Handled s (afterReceive len timeout t)
  | ack {s t : σ} : Handled s t → Handled s (afterSend Frame.ack t)

namespace Link

open Act

variable {σ α : Type}

/-! ## What the stages leave -/

variable [Channel σ] [ByteStream σ]

/-- The link `l` is what `l₀` has become, and has `w` to be read. -/
structure Left (l₀ : Link σ) (w : Bytes) (l : Link σ) : Prop where
  channel : Handled l₀.channel l.channel
  incoming : incoming l.channel = w
  strictness : l.strictness = l₀.strictness
  label : l.label = l₀.label

/-- Once it is idle the link differs by its channel only. -/
theorem Left.idle {l₀ l : Link σ} {w : Bytes} (h : Left l₀ w l) :
    { l with stage := .idle } = { l₀ with channel := l.channel, stage := .idle } := by
  rw [h.strictness, h.label]

variable {l₀ : Link σ} {w : Bytes}

theorem meets_enter_left (next : Stage) (bad : Fault → Link σ → Prop) :
    (enter next : Act (Link σ) Unit).Meets (Left l₀ w) (fun _ => Left l₀ w) bad :=
  fun _ h => ⟨h.channel, h.incoming, h.strictness, h.label⟩

theorem keeps_sendAck_left : (onChannel (Channel.send Frame.ack) : Act (Link σ) Unit).Keeps (Left l₀ w) := by
  intro l h
  unfold onChannel
  rw [run_onPart, run_send]
  exact ⟨h.channel.ack, (incoming_afterSend_ack _).trans h.incoming, h.strictness, h.label⟩

/-- A read takes its bytes off. -/
theorem meets_receive_left (len : Nat) (timeout : Duration) (bad : Fault → Link σ → Prop) :
    (onChannel (Channel.receive len timeout) : Act (Link σ) Bytes).Meets (Left l₀ w)
      (fun got l => got = w.take len ∧ Left l₀ (w.drop len) l) bad := by
  rintro l h
  unfold onChannel
  rw [run_onPart, run_receive, h.incoming]
  refine ⟨rfl, h.channel.receive len timeout, ?_, h.strictness, h.label⟩
  rw [incoming_afterReceive, h.incoming]

/-- Exactly as many bytes as asked for, or all that there is. -/
theorem meets_readExactly_left (len : Nat) (timeout : Duration) :
    (readExactly len timeout : Act (Link σ) Bytes).Meets (Left l₀ w)
      (fun got l => (got = w.take len ∧ len ≤ w.length) ∧ Left l₀ (w.drop len) l) (fun _ => Left l₀ []) := by
  refine (meets_receive_left len timeout _).bind fun got => Meets.assume fun hgot => ?_
  split
  · rename_i hne
    have hshort : w.drop len = [] := by
      rw [hgot, List.length_take] at hne
      exact List.drop_eq_nil_of_le (by omega)
    rw [hshort]
    exact Meets.fail fun _ h => h
  · rename_i hlen
    have hle : len ≤ w.length := by
      rw [hgot, List.length_take] at hlen
      omega
    exact Meets.done fun l h => ⟨⟨hgot, hle⟩, h⟩

/-- Of fewer bytes than an acknowledgement has, nothing is left when one was waited for. -/
theorem meets_sendAndAwaitAck_short (frame : Bytes) (timeout : Duration) (hw : w.length ≤ Frame.ack.length) :
    (sendAndAwaitAck frame timeout : Act (Link σ) Bool).Meets
      (fun l => Left l₀ w { l with channel := afterSend frame l.channel }) (fun _ => Left l₀ []) (fun _ => Left l₀ []) := by
  have hsend : (onChannel (Channel.send frame) : Act (Link σ) Unit).Meets
      (fun l => Left l₀ w { l with channel := afterSend frame l.channel }) (fun _ => Left l₀ w)
      (fun _ => Left l₀ []) := by
    intro l h
    unfold onChannel
    rw [run_onPart, run_send]
    exact h
  have hempty : w.drop Frame.ack.length = [] := List.drop_eq_nil_of_le hw
  refine (meets_tell _ _).bind fun _ => hsend.bind fun _ => ?_
  refine (meets_enter_left _ _).bind fun _ => (meets_enter_left _ _).bind fun _ => ?_
  refine (meets_receive_left _ timeout _).bind fun ack => Meets.assume fun _ => ?_
  rw [hempty]
  split
  · exact ((Keeps.tell _ _).bind fun _ => Keeps.done _).meets
  · exact (keeps_expect _ _).meets.bind fun _ => (meets_enter_left _ _).bind fun _ => Meets.done fun _ h => h

/-- Of fewer bytes than a head has, nothing is left when one was waited for. -/
theorem meets_awaitHead_short (timeout : Duration) (hw : w.length ≤ Frame.headLength) :
    (awaitHead timeout : Act (Link σ) (Option Frame.Head)).Meets (Left l₀ w) (fun _ => Left l₀ [])
      (fun _ => Left l₀ []) := by
  have hempty : w.drop Frame.headLength = [] := List.drop_eq_nil_of_le hw
  refine (meets_enter_left _ _).bind fun _ => (meets_receive_left _ timeout _).bind fun bytes => Meets.assume fun _ => ?_
  rw [hempty]
  split
  · exact ((Keeps.tell _ _).bind fun _ => Keeps.done _).meets
  · refine ((Keeps.lift _).bind fun head => (keeps_expect _ _).bind fun _ => (keeps_trustHead _).bind fun trusted => ?_).meets
    split
    · exact Keeps.done _
    · exact Keeps.done _

/-- What follows a head that announces `len` bytes: the body is the first `len` bytes, and nothing is left of what is no
longer than a body, its checksum and the postamble. -/
theorem meets_finish_left {head : Frame.Head} {len : Nat} (hlen : head.bodyLength = .ok len) (timeout : Duration)
    (hw : w.length ≤ len + 2) :
    (finish head timeout : Act (Link σ) Bytes).Meets (Left l₀ w)
      (fun body l => (body = w.take len ∧ len < w.length) ∧ Left l₀ [] l) (fun _ => Left l₀ []) := by
  unfold finish
  rw [hlen]
  refine (meets_readExactly_left len timeout).bind fun body => Meets.assume fun hbody => ?_
  refine (meets_readExactly_left 1 timeout).bind fun one => Meets.assume fun hone => ?_
  have hlt : len < w.length := by
    have := hone.2
    rw [List.length_drop] at this
    omega
  have hrest : ((w.drop len).drop 1).drop 1 = [] := by
    rw [List.drop_drop, List.drop_drop]
    exact List.drop_eq_nil_of_le (by omega)
  obtain ⟨check, hcheck⟩ : ∃ check, one = [check] := by
    rw [← List.length_eq_one_iff, hone.1, List.length_take]
    have := hone.2
    omega
  have hfetch : (liftM (Bytes.fetch one 0) : Act (Link σ) UInt8).Meets (Left l₀ ((w.drop len).drop 1))
      (fun _ => Left l₀ ((w.drop len).drop 1)) (fun _ => Left l₀ []) := by
    rw [hcheck]
    exact Meets.done fun _ h => h
  refine hfetch.bind fun check => (meets_judgeChecksum head body check _).bind fun pending => ?_
  refine (meets_receive_left 1 timeout _).bind fun got => Meets.assume fun _ => ?_
  rw [hrest]
  refine (meets_judgePostamble got pending _).bind fun pending' => ?_
  refine keeps_sendAck_left.meets.bind fun _ => (meets_enter_left _ _).bind fun _ => (meets_tell _ _).bind fun _ => ?_
  split
  · exact Meets.fail fun _ h => h
  · exact Meets.done fun _ h => ⟨⟨hbody.1, hlt⟩, h⟩

/-- When there is nothing left to read, a head that was trusted is not followed by a body. -/
theorem meets_finish_nothing (head : Frame.Head) (timeout : Duration) :
    (finish head timeout : Act (Link σ) Bytes).Meets (Left l₀ []) (fun _ _ => False) (fun _ => Left l₀ []) := by
  rcases hlen : head.bodyLength with fault | len
  · unfold finish
    rw [hlen]
    intro l h
    exact h
  · exact (meets_finish_left hlen timeout (Nat.zero_le _)).imp fun _ _ h => absurd h.1.2 (Nat.not_lt_zero _)

/-- Waiting for a reply of which less than a head comes. -/
theorem meets_reply_short (timeout : Duration) (hw : w.length ≤ Frame.headLength) :
    (awaitHead timeout >>= fun head? => match head? with
      | some head => finish head timeout >>= fun body => pure (some body)
      | none => pure none : Act (Link σ) (Option Bytes)).Meets (Left l₀ w) (fun body? l => body? = none ∧ Left l₀ [] l)
      (fun _ => Left l₀ []) := by
  refine (meets_awaitHead_short timeout hw).bind fun head? => ?_
  cases head? with
  | none => exact Meets.done fun _ h => ⟨rfl, h⟩
  | some head => exact (meets_finish_nothing head timeout).bind fun _ => Meets.done fun _ h => h.elim

/-! ## The exchange -/

/-- What of a reply follows its head, as far as it comes. -/
theorem meets_reply_headed (timeout : Duration) {f : Frame} (hm : f.marker = Frame.deviceMarker)
    (hb : f.body.length ≤ Frame.maxBody) {k : Nat} {l : Link σ} (h : Left l₀ (f.wire.take (Frame.headLength + k)) l) :
    ((awaitHead timeout >>= fun head? => match head? with
      | some head => finish head timeout >>= fun body => pure (some body)
      | none => pure none : Act (Link σ) (Option Bytes)).run l).Meets
      (fun body? l' => (∀ answer ∈ body?, answer = f.body) ∧ Left l₀ [] l') (fun _ => Left l₀ []) := by
  have hwire : f.wire.take (Frame.headLength + k) =
      f.head.bytes ++ (f.body ++ [Checksum.ofData f.marker f.body, Frame.postamble]).take k := by
    rw [Frame.wire, List.append_assoc, ← Frame.length_head_bytes f]
    exact List.take_length_add_append k
  generalize hw : (f.body ++ [Checksum.ofData f.marker f.body, Frame.postamble]).take k = w at hwire
  have hlen : w.length ≤ f.body.length + 2 := by
    rw [← hw, List.length_take, List.length_append]
    exact Nat.min_le_right _ _
  have hin : incoming l.channel = f.head.bytes ++ w := h.incoming.trans hwire
  have hleft : Left l₀ w
      { l with channel := afterReceive Frame.headLength timeout l.channel, stage := .responseAwaited } := by
    refine ⟨h.channel.receive _ timeout, ?_, h.strictness, h.label⟩
    rw [incoming_afterReceive, hin]
    exact List.drop_left' (Frame.length_head_bytes f)
  refine (ends_awaitHead_head f timeout hm hin).bind_meets ?_
  refine ((meets_finish_left (Frame.bodyLength_head hb) timeout hlen).bind fun body => Meets.assume fun hbody =>
    Meets.done fun l' h' => ?_) _ hleft
  refine ⟨?_, h'⟩
  have hprefix : w.take f.body.length = f.body := by
    rw [← hw, List.length_take] at hbody
    rw [← hw, List.take_take, Nat.min_eq_left (by omega), List.take_left]
  rintro _ ⟨⟩
  exact hbody.1.trans hprefix

/-- The handshake, when of an acknowledgement and a reply only the first `n` bytes come. -/
theorem meets_handshake_truncated (frame : Bytes) (timeout : Duration) {l : Link σ} {f : Frame}
    (hm : f.marker = Frame.deviceMarker) (hb : f.body.length ≤ Frame.maxBody) (n : Nat)
    (h : incoming (afterSend frame l.channel) = (Frame.ack ++ f.wire).take n) :
    ((handshake frame timeout).run l).Meets
      (fun body? l' => (∀ answer ∈ body?, answer = f.body) ∧ Left { l with channel := afterSend frame l.channel } [] l')
      (fun _ => Left { l with channel := afterSend frame l.channel } []) := by
  have hstart : Left { l with channel := afterSend frame l.channel } ((Frame.ack ++ f.wire).take n)
      { l with channel := afterSend frame l.channel } := ⟨.refl _, h, rfl, rfl⟩
  have hnone {l₀ : Link σ} {a : Act (Link σ) (Option Bytes)} {w : Bytes}
      (ha : a.Meets (Left l₀ w) (fun body? l => body? = none ∧ Left l₀ [] l) (fun _ => Left l₀ [])) :
      a.Meets (Left l₀ w) (fun body? l => (∀ answer ∈ body?, answer = f.body) ∧ Left l₀ [] l) (fun _ => Left l₀ []) := by
    refine ha.imp ?_
    rintro _ l ⟨rfl, hl⟩
    exact ⟨fun _ h => absurd h (Option.not_mem_none _), hl⟩
  by_cases hack : n ≤ Frame.ack.length
  · -- Nothing follows the acknowledgement, if that is whole.
    have hshort : ((Frame.ack ++ f.wire).take n).length ≤ Frame.ack.length := by
      rw [List.length_take]
      omega
    refine ((meets_sendAndAwaitAck_short frame timeout hshort).bind fun came => ?_) l hstart
    split
    · exact hnone (meets_reply_short timeout (Nat.zero_le _))
    · exact hnone (Meets.done fun _ hl => ⟨rfl, hl⟩)
  · obtain ⟨m, rfl⟩ : ∃ m, n = Frame.ack.length + m := ⟨n - Frame.ack.length, by omega⟩
    rw [List.take_length_add_append] at h
    have hleft : Left { l with channel := afterSend frame l.channel } (f.wire.take m)
        { l with channel := channelAfterAck frame timeout l.channel, stage := .ackVerified } := by
      refine ⟨(Handled.refl _).receive _ timeout, ?_, rfl, rfl⟩
      rw [incoming_channelAfterAck, h, List.drop_left]
    refine (ends_sendAndAwaitAck_ack frame timeout h).bind_meets ?_
    by_cases hhead : m ≤ Frame.headLength
    · have hshort : (f.wire.take m).length ≤ Frame.headLength := by
        rw [List.length_take]
        omega
      exact hnone (meets_reply_short timeout hshort) _ hleft
    · obtain ⟨k, rfl⟩ : ∃ k, m = Frame.headLength + k := ⟨m - Frame.headLength, by omega⟩
      exact meets_reply_headed timeout hm hb hleft

/-- An exchange, when of an acknowledgement and a reply only the first `n` bytes come: everything that came is read and the
link is idle, and a body that is answered is that of the reply. -/
theorem exchange_truncated (frame : Bytes) (timeout : Duration) (l : Link σ) {body : Bytes}
    (hb : body.length ≤ Frame.maxBody) (n : Nat)
    (h : incoming (afterSend frame l.channel) = (Frame.ack ++ (Frame.reply body).wire).take n) :
    ∃ r s, (exchange frame timeout).Ends l r { l with channel := s, stage := .idle } ∧
      Handled (afterSend frame l.channel) s ∧ incoming s = [] ∧ ∀ answer, r = .ok (some answer) → answer = body := by
  have hmeets := meets_handshake_truncated frame timeout (f := .reply body) rfl hb n h
  have hends : (handshake frame timeout).Ends l ((handshake frame timeout).run l).result
      ((handshake frame timeout).run l).state := ⟨rfl, rfl⟩
  have hleft : Left { l with channel := afterSend frame l.channel } [] ((handshake frame timeout).run l).state ∧
      ∀ answer, ((handshake frame timeout).run l).result = .ok (some answer) → answer = body := by
    unfold Outcome.Meets at hmeets
    split at hmeets
    · rename_i body? hr
      refine ⟨hmeets.2, fun answer ha => hmeets.1 answer ?_⟩
      exact Except.ok.inj (hr.symm.trans ha)
    · rename_i fault hr
      exact ⟨hmeets, fun answer ha => nomatch hr.symm.trans ha⟩
  refine ⟨_, ((handshake frame timeout).run l).state.channel, ?_, hleft.1.channel, hleft.1.incoming, hleft.2⟩
  have hidle := ends_exchange hends
  rw [hleft.1.idle] at hidle
  exact hidle

end Link

end NfcHost
