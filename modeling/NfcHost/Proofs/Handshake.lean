import NfcHost.Channel.Memory
import NfcHost.Link
import NfcHost.Proofs.Contract
import NfcHost.Proofs.Wire

/-!
# The handshake over a stream

Statements about `Link.exchange` over a channel that serves its bytes as one stream (`ByteStream`): silence, and an
acknowledgement followed by a reply frame, which a link of either strictness answers with the reply's body. What the exchange
leaves behind is said in full: the channel after its reads and writes, and the link idle again.
-/

namespace NfcHost

/-- A channel that serves what comes in as one stream: a read takes what it asks for, or what there is, off the front, and
neither a read nor a write fails. Nothing comes in because of an acknowledgement. -/
class ByteStream (σ : Type) [Channel σ] where
  /-- The bytes that came in and were not read. -/
  incoming : σ → Bytes
  /-- The channel after a write. -/
  afterSend : Bytes → σ → σ
  /-- The channel after a read. -/
  afterReceive : Nat → Duration → σ → σ
  run_send : ∀ bytes s, (Channel.send bytes).run s = ⟨.ok (), afterSend bytes s, []⟩
  run_receive : ∀ len timeout s,
    (Channel.receive len timeout).run s = ⟨.ok ((incoming s).take len), afterReceive len timeout s, []⟩
  incoming_afterReceive : ∀ len timeout s, incoming (afterReceive len timeout s) = (incoming s).drop len
  incoming_afterSend_ack : ∀ s, incoming (afterSend Frame.ack s) = incoming s

attribute [simp] ByteStream.run_send ByteStream.run_receive ByteStream.incoming_afterReceive
  ByteStream.incoming_afterSend_ack

/-- A channel in memory serves its queue. -/
instance : ByteStream MemoryChannel where
  incoming := MemoryChannel.incoming
  afterSend bytes c := { c with sent := c.sent ++ [bytes] }
  afterReceive len timeout c := { c with reads := c.reads ++ [(len, timeout)], incoming := c.incoming.drop len }
  run_send _ _ := rfl
  run_receive _ _ _ := rfl
  incoming_afterReceive _ _ _ := rfl
  incoming_afterSend_ack _ := rfl

namespace Link

open ByteStream

variable {σ α : Type}

/-- The same link, taking anomalies in another way. -/
def taking (strictness : Strictness) (l : Link σ) : Link σ := { l with strictness }

/-! ## Single steps -/

/-- Entering a stage. -/
theorem ends_enter (next : Stage) (l : Link σ) : (enter next).Ends l (.ok ()) { l with stage := next } := ⟨rfl, rfl⟩

/-- What is expected and well. -/
theorem ends_expect {well : Bool} (h : well = true) (otherwise : Anomaly) (l : Link σ) :
    (expect well otherwise).Ends l (.ok ()) l := by
  rw [h]
  exact Act.Ends.done _ l

variable [Channel σ]

/-- A read from a stream. -/
theorem ends_receive [ByteStream σ] (len : Nat) (timeout : Duration) (l : Link σ) :
    (onChannel (Channel.receive len timeout)).Ends l (.ok ((incoming l.channel).take len))
      { l with channel := afterReceive len timeout l.channel } := by
  refine Act.Ends.onPart ?_
  rw [Act.Ends, run_receive]
  exact ⟨rfl, rfl⟩

/-! ## An exchange is a handshake and the way back to idle -/

/-- An exchange ends as its handshake, but idle. -/
theorem ends_exchange {frame : Bytes} {timeout : Duration} {l l' : Link σ} {r : Except Fault (Option Bytes)}
    (h : (handshake frame timeout).Ends l r l') : (exchange frame timeout).Ends l r { l' with stage := .idle } := by
  obtain ⟨rfl, rfl⟩ := h
  simp [Act.Ends, exchange, enter, tell]

/-! ## The stages over a stream -/

section Stream

variable [ByteStream σ]

/-- The channel when the frame is out and the acknowledgement is read. -/
def channelAfterAck (frame : Bytes) (timeout : Duration) (s : σ) : σ :=
  afterReceive Frame.ack.length timeout (afterSend frame s)

/-- Silence after the frame. -/
theorem ends_sendAndAwaitAck_silence (frame : Bytes) (timeout : Duration) {l : Link σ}
    (h : incoming (afterSend frame l.channel) = []) :
    (sendAndAwaitAck frame timeout).Ends l (.ok false)
      { l with channel := channelAfterAck frame timeout l.channel, stage := .ackAwaited } := by
  simp [Act.Ends, sendAndAwaitAck, onChannel, enter, tell, h, channelAfterAck]

/-- An acknowledgement after the frame. -/
theorem ends_sendAndAwaitAck_ack (frame : Bytes) (timeout : Duration) {l : Link σ} {rest : Bytes}
    (h : incoming (afterSend frame l.channel) = Frame.ack ++ rest) :
    (sendAndAwaitAck frame timeout).Ends l (.ok true)
      { l with channel := channelAfterAck frame timeout l.channel, stage := .ackVerified } := by
  have hne : Frame.ack ≠ [] := nofun
  simp [Act.Ends, sendAndAwaitAck, onChannel, enter, tell, expect, h, channelAfterAck, hne]

/-- Silence after the acknowledgement. -/
theorem ends_awaitHead_silence (timeout : Duration) {l : Link σ} (h : incoming l.channel = []) :
    (awaitHead timeout).Ends l (.ok none)
      { l with channel := afterReceive Frame.headLength timeout l.channel, stage := .responseAwaited } := by
  simp [Act.Ends, awaitHead, onChannel, enter, tell, h]

/-- The head of a reply. -/
theorem ends_awaitHead_head (f : Frame) (timeout : Duration) {l : Link σ} {rest : Bytes}
    (hm : f.marker = Frame.deviceMarker) (h : incoming l.channel = f.head.bytes ++ rest) :
    (awaitHead timeout).Ends l (.ok (some f.head))
      { l with channel := afterReceive Frame.headLength timeout l.channel, stage := .responseAwaited } := by
  have htake : (f.head.bytes ++ rest).take Frame.headLength = f.head.bytes := List.take_left' (Frame.length_head_bytes f)
  have hne : f.head.bytes ≠ [] := nofun
  have hpos : Frame.headLength ≠ 0 := by decide
  simp [Act.Ends, awaitHead, onChannel, enter, tell, expect, trustHead, h, htake, hne, hpos, hm]

/-- The channel when the body, its checksum and the postamble are read and the reply is acknowledged. -/
def channelAfterFinish (len : Nat) (timeout : Duration) (s : σ) : σ :=
  afterSend Frame.ack (afterReceive 1 timeout (afterReceive 1 timeout (afterReceive len timeout s)))

/-- What follows the head of a reply. -/
theorem ends_finish_wire (f : Frame) (timeout : Duration) (l : Link σ) {rest : Bytes}
    (hb : f.body.length ≤ Frame.maxBody)
    (h : incoming l.channel = f.body ++ Checksum.ofData f.marker f.body :: Frame.postamble :: rest) :
    (finish f.head timeout).Ends l (.ok f.body)
      { l with channel := channelAfterFinish f.body.length timeout l.channel, stage := .responseParsed } := by
  simp [Act.Ends, finish, readExactly, judgeChecksum, judgePostamble, onChannel, enter, tell, h, Frame.bodyLength_head hb,
    Bytes.fetch, channelAfterFinish]

/-- The channel when a whole reply with a body of `len` bytes is read and acknowledged. -/
def channelAfterReply (frame : Bytes) (len : Nat) (timeout : Duration) (s : σ) : σ :=
  channelAfterFinish len timeout (afterReceive Frame.headLength timeout (channelAfterAck frame timeout s))

theorem incoming_channelAfterAck (frame : Bytes) (timeout : Duration) (s : σ) :
    incoming (channelAfterAck frame timeout s) = (incoming (afterSend frame s)).drop Frame.ack.length := by
  simp [channelAfterAck]

/-- Nothing of a reply is left, and nothing behind it is touched. -/
theorem incoming_channelAfterReply {frame : Bytes} {timeout : Duration} {s : σ} {f : Frame} {rest : Bytes}
    (h : incoming (afterSend frame s) = Frame.ack ++ f.wire ++ rest) :
    incoming (channelAfterReply frame f.body.length timeout s) = rest := by
  have hlen : (Frame.ack ++ f.wire).length = Frame.ack.length + Frame.headLength + f.body.length + 1 + 1 := by
    rw [List.length_append, Frame.length_wire]
    omega
  simp only [channelAfterReply, channelAfterFinish, incoming_channelAfterAck, incoming_afterSend_ack, incoming_afterReceive,
    List.drop_drop, h]
  exact List.drop_left' hlen

/-- Silence after the frame is no reply. -/
theorem ends_exchange_silence (frame : Bytes) (timeout : Duration) {l : Link σ}
    (h : incoming (afterSend frame l.channel) = []) :
    (exchange frame timeout).Ends l (.ok none)
      { l with channel := channelAfterAck frame timeout l.channel, stage := .idle } :=
  ends_exchange ((ends_sendAndAwaitAck_silence frame timeout h).bind (Act.Ends.done _ _))

/-- An acknowledgement alone is no reply either. -/
theorem ends_exchange_ack (frame : Bytes) (timeout : Duration) {l : Link σ}
    (h : incoming (afterSend frame l.channel) = Frame.ack) :
    (exchange frame timeout).Ends l (.ok none)
      { l with channel := afterReceive Frame.headLength timeout (channelAfterAck frame timeout l.channel),
               stage := .idle } := by
  have hrest : incoming (channelAfterAck frame timeout l.channel) = [] := by
    rw [incoming_channelAfterAck, h, List.drop_length]
  have hack := ends_sendAndAwaitAck_ack frame timeout (h.trans (List.append_nil _).symm)
  exact ends_exchange (hack.bind ((ends_awaitHead_silence timeout hrest).bind (Act.Ends.done _ _)))

/-- An acknowledgement and a reply frame, whose body is answered. -/
theorem ends_exchange_reply (frame : Bytes) (timeout : Duration) {l : Link σ} {body rest : Bytes}
    (hb : body.length ≤ Frame.maxBody)
    (h : incoming (afterSend frame l.channel) = Frame.ack ++ (Frame.reply body).wire ++ rest) :
    (exchange frame timeout).Ends l (.ok (some body))
      { l with channel := channelAfterReply frame body.length timeout l.channel, stage := .idle } := by
  rw [List.append_assoc] at h
  have hhead : incoming (channelAfterAck frame timeout l.channel) = (Frame.reply body).head.bytes ++
      (body ++ Checksum.ofData Frame.deviceMarker body :: Frame.postamble :: rest) := by
    rw [incoming_channelAfterAck, h, List.drop_left]
    simp [Frame.wire, Frame.reply]
  have hbody : incoming (afterReceive Frame.headLength timeout (channelAfterAck frame timeout l.channel)) =
      body ++ Checksum.ofData Frame.deviceMarker body :: Frame.postamble :: rest := by
    rw [incoming_afterReceive, hhead]
    exact List.drop_left' (Frame.length_head_bytes _)
  have hfinish := ends_finish_wire (Frame.reply body) timeout
    { l with channel := afterReceive Frame.headLength timeout (channelAfterAck frame timeout l.channel),
             stage := .responseAwaited } hb hbody
  have hshake : (handshake frame timeout).Ends l (.ok (some body))
      { l with channel := channelAfterReply frame body.length timeout l.channel, stage := .responseParsed } :=
    (ends_sendAndAwaitAck_ack frame timeout h).bind
      ((ends_awaitHead_head (Frame.reply body) timeout rfl hhead).bind (hfinish.bind (Act.Ends.done _ _)))
  exact ends_exchange hshake

end Stream

end Link

end NfcHost
