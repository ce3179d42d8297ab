import NfcHost.Bench
import NfcHost.Proofs.BringUpCourse
import NfcHost.Proofs.SideBySide

/-!
# The driver that the bench hands over

Over a channel in memory a bring-up takes one queued reply for each of its exchanges, and leaves what is queued behind them
(`bringUp_served`). The bench queues three replies whatever the settings, and the third is for the exchange that sets the retries.
So a driver that is to leave the retries alone is handed over with that reply still queued, and the first exchange on the bench
is answered with it (`readyDriver_hands_over`); that the driver is always handed over with nothing queued is false
(`readyDriver_clean_false`).
-/

namespace NfcHost

open Act

/-! ## Moves that are served from a queue -/

namespace Bench

/-- Replies as they stand in a queue, each behind an acknowledgement. -/
def queued (bodies : List Bytes) : Bytes := bodies.flatMap fun body => Frame.ack ++ (Frame.reply body).wire

theorem queued_cons (body : Bytes) (bodies : List Bytes) (rest : Bytes) :
    queued (body :: bodies) ++ rest = Frame.ack ++ (Frame.reply body).wire ++ (queued bodies ++ rest) := by
  simp [queued]

/-- What moves make of a channel in memory, the record of its traffic apart, and how they are replied to: an exchange takes the
reply off the front of the queue. -/
inductive Served : List Move → MemoryChannel → List Reply → MemoryChannel → Prop where
  | nil (c : MemoryChannel) : Served [] c [] c
  | flush {moves : List Move} {c c' : MemoryChannel} {rs : List Reply} :
    Served moves { c with flushes := c.flushes + 1 } rs c' → Served (.flush :: moves) c (.ok none :: rs) c'
  | resetInput {moves : List Move} {c c' : MemoryChannel} {rs : List Reply} :
    Served moves { c with inputResets := c.inputResets + 1 } rs c' → Served (.resetInput :: moves) c (.ok none :: rs) c'
  | write {bytes : Bytes} {moves : List Move} {c c' : MemoryChannel} {rs : List Reply} :
    Served moves c rs c' → Served (.write bytes :: moves) c (.ok none :: rs) c'
  | exchange {frame : Bytes} {timeout : Duration} {body rest : Bytes} {moves : List Move} {c c' : MemoryChannel}
    {rs : List Reply} : body.length ≤ Frame.maxBody → c.incoming = Frame.ack ++ (Frame.reply body).wire ++ rest →
    Served moves { c with incoming := rest } rs c' →
    Served (.exchange frame timeout :: moves) c (.ok (some body) :: rs) c'

/-- Moves that are served are heard. But for its channel the link stays as it was. -/
theorem Served.heard {moves : List Move} {l : Link MemoryChannel} {c' : MemoryChannel} {rs : List Reply}
    (h : Served moves (forgetTraffic l.channel) rs c') (hidle : l.stage = .idle) :
    ∃ channel, Heard moves l rs { l with channel } ∧ forgetTraffic channel = c' := by
  generalize hc : forgetTraffic l.channel = c at h
  -- on the moves, for any link: the moves behind the first one are served to the link that this one leaves
  induction h generalizing l with
  | nil c => exact ⟨l.channel, .nil l, hc⟩
  | flush _ ih =>
    obtain ⟨channel, hheard, hleft⟩ := ih (l := { l with channel := { l.channel with flushes := l.channel.flushes + 1 } }) hidle
      (by subst hc; rfl)
    exact ⟨channel, .cons ⟨rfl, rfl⟩ hheard, hleft⟩
  | resetInput _ ih =>
    obtain ⟨channel, hheard, hleft⟩ :=
      ih (l := { l with channel := { l.channel with inputResets := l.channel.inputResets + 1 } }) hidle (by subst hc; rfl)
    exact ⟨channel, .cons ⟨rfl, rfl⟩ hheard, hleft⟩
  | @write bytes _ _ _ _ _ ih =>
    obtain ⟨channel, hheard, hleft⟩ := ih (l := { l with channel := { l.channel with sent := l.channel.sent ++ [bytes] } })
      hidle hc
    exact ⟨channel, .cons ⟨rfl, rfl⟩ hheard, hleft⟩
  | @exchange frame timeout body rest _ _ _ _ hb hqueue _ ih =>
    have hin : ByteStream.incoming (ByteStream.afterSend frame l.channel) = Frame.ack ++ (Frame.reply body).wire ++ rest := by
      rw [← hqueue, ← hc]
      rfl
    have hrest : (Link.channelAfterReply frame body.length timeout l.channel).incoming = rest :=
      Link.incoming_channelAfterReply hin
    have hends := Link.ends_exchange_reply frame timeout hb hin
    rw [← hidle] at hends
    obtain ⟨channel, hheard, hleft⟩ :=
      ih (l := { l with channel := Link.channelAfterReply frame body.length timeout l.channel }) hidle (by
        rw [← hc, ← hrest]
        rfl)
    exact ⟨channel, .cons hends hheard, hleft⟩

end Bench

/-! ## A bring-up that is served -/

namespace Driver

open Bench

/-- The bodies of the replies to a bring-up. -/
def bringUpBodies (settings : Settings) (firmware normal retries : Bytes) : List Bytes :=
  [firmware, Command.samConfiguration.responseCode :: normal] ++
    if settings.disableRetries then [Command.rfConfiguration.responseCode :: retries] else []

/-- A channel behind a bring-up, the record of its traffic apart, with these bytes still queued. -/
def behindBringUp (settings : Settings) (c : MemoryChannel) (rest : Bytes) : MemoryChannel :=
  { forgetTraffic c with
    incoming := rest
    inputResets := c.inputResets + if settings.disableRetries then 2 else 1
    flushes := c.flushes + 1 }

section Bodies

variable {settings : Settings} {firmware normal retries rest : Bytes}

/-- A bring-up whose replies are queued is served with them, and what is queued behind them is left. -/
theorem served_bringUp {c : MemoryChannel}
    (hbodies : ∀ body ∈ bringUpBodies settings firmware normal retries, body.length ≤ Frame.maxBody)
    (hqueue : c.incoming = queued (bringUpBodies settings firmware normal retries) ++ rest) :
    Served (bringUpMoves settings) (forgetTraffic c) (bringUpAnswers settings firmware normal retries)
      (behindBringUp settings c rest) := by
  unfold bringUpBodies at hbodies hqueue
  unfold bringUpMoves bringUpAnswers behindBringUp
  split
  · rename_i hdisable
    rw [if_pos hdisable] at hbodies hqueue
    simp only [List.cons_append, List.nil_append, queued_cons, List.forall_mem_cons] at hbodies hqueue
    obtain ⟨hfirmware, hnormal, hretries, -⟩ := hbodies
    refine .flush (.write (.resetInput (.exchange hfirmware hqueue (.exchange hnormal rfl ?_))))
    exact .resetInput (.exchange hretries rfl (.nil _))
  · rename_i hdisable
    rw [if_neg hdisable] at hbodies hqueue
    simp only [List.cons_append, List.nil_append, queued_cons, List.forall_mem_cons] at hbodies hqueue
    obtain ⟨hfirmware, hnormal, -⟩ := hbodies
    exact .flush (.write (.resetInput (.exchange hfirmware hqueue (.exchange hnormal rfl (.nil _)))))

/-- The steps of a bring-up judge its answers well. -/
theorem judge_bringUpAnswers (hfirmware : Verified firmware) :
    ∀ p ∈ (bringUpScript settings).zip (bringUpAnswers settings firmware normal retries), p.2 >>= p.1.judge = .ok () := by
  have hecho (command : Command) (payload : Bytes) :
      (.ok (some (command.responseCode :: payload)) : Reply) >>= echoed command = .ok () :=
    judge_of_read (executed_eq_ok_iff.2 rfl)
  have hverified : (.ok (some firmware) : Reply) >>= verified = .ok () := by
    obtain ⟨ok, hmatches, hok⟩ := replyMatches_eq firmware
    exact (verified_reply ok hmatches).trans (if_pos (hok.2 hfirmware))
  unfold bringUpScript bringUpAnswers
  split
  · simp only [Link.wakingSteps, List.cons_append, List.nil_append, List.zip_cons_cons, List.forall_mem_cons]
    exact ⟨rfl, rfl, rfl, hverified, hecho _ _, rfl, hecho _ _, nofun⟩
  · simp only [Link.wakingSteps, List.cons_append, List.nil_append, List.zip_cons_cons, List.forall_mem_cons]
    exact ⟨rfl, rfl, rfl, hverified, hecho _ _, nofun⟩

end Bodies

/-- A bring-up whose replies are queued succeeds. It takes one reply off the queue for each of its exchanges, and leaves what is
queued behind them. -/
theorem bringUp_served {d : Driver .asleep MemoryChannel} {firmware normal retries rest : Bytes} (hidle : d.link.stage = .idle)
    (hfirmware : Verified firmware)
    (hbodies : ∀ body ∈ bringUpBodies d.settings firmware normal retries, body.length ≤ Frame.maxBody)
    (hqueue : d.link.channel.incoming = queued (bringUpBodies d.settings firmware normal retries) ++ rest) :
    ∃ channel, d.bringUp.result = .ok { d.notingBringUp.asReady with link := { d.link with channel } } ∧
      d.bringUp.state = channel ∧ forgetTraffic channel = behindBringUp d.settings d.link.channel rest := by
  obtain ⟨channel, hheard, hleft⟩ := (served_bringUp hbodies hqueue).heard hidle
  rw [← map_bringUpScript] at hheard
  have haccepted := Interview.of_heard hheard (judge_bringUpAnswers hfirmware)
  -- a bring-up takes these steps in some way, and there is only one
  obtain ⟨firmware', normal', retries', l, -, htaken, hresult, hstate⟩ | ⟨replies, fault, l, hrefused, -, -⟩ :=
    bringUp_interview d
  · obtain ⟨-, -, rfl⟩ := haccepted.unique htaken
    exact ⟨channel, hresult, hstate, hleft⟩
  · nomatch (haccepted.unique hrefused).2.1

end Driver

/-! ## Links over the same queue -/

namespace Link

/-- Links that are equally strict and have the same to read. -/
structure SameQueue (l l' : Link MemoryChannel) : Prop where
  strictness : l.strictness = l'.strictness
  incoming : l.channel.incoming = l'.channel.incoming

/-- Over the same queue exchanges end alike, whatever is on record. -/
theorem sameQueue_abreast : Abreast SameQueue (fun _ => False) Eq := by
  refine abreast_of_strictness (fun _ _ h => h.strictness) (fun _ _ _ h => ⟨h.strictness, h.incoming⟩) (fun bytes => ?send)
    fun len timeout => ?receive
  case send =>
    intro l l' h
    exact (Ends.of_run _ l).alike ⟨rfl, rfl⟩ ⟨h.strictness, h.incoming⟩
  case receive =>
    intro l l' h
    have hends : (onChannel (Channel.receive len timeout)).Ends l' (.ok (l'.channel.incoming.take len)) _ :=
      ends_receive len timeout l'
    rw [← h.incoming] at hends
    exact (ends_receive len timeout l).alike hends ⟨h.strictness, congrArg (List.drop len) h.incoming⟩

/-- An exchange answers the same over the same queue, and leaves the same of it. -/
theorem SameQueue.exchange {l l' : Link MemoryChannel} (h : SameQueue l l') (frame : Bytes) (timeout : Duration) :
    ((exchange frame timeout).run l).result = ((exchange frame timeout).run l').result ∧
      SameQueue ((exchange frame timeout).run l).state ((exchange frame timeout).run l').state :=
  (sameQueue_abreast.exchange frame timeout l l' h).same

end Link

/-! ## What the bench hands over -/

namespace Bench

open Driver

/-- The replies that the bench queues and a bring-up does not ask for. -/
def unasked (settings : Settings) : List Bytes := if settings.disableRetries then [] else [[0x33]]

/-- The driver that the bench hands over: idle, without a record of traffic, and with the replies queued that were not asked
for. -/
def handedOver (settings : Settings) : Driver .ready MemoryChannel where
  link := .over { incoming := queued (unasked settings), inputResets := if settings.disableRetries then 2 else 1, flushes := 1 }
    settings.strictness
  settings
  rfItems := if settings.disableRetries then Cache.empty.insert .maxRetries noRetries else .empty

/-- The replies to a bring-up stand in front of those that it does not ask for. -/
theorem incoming_seed (settings : Settings) :
    (seed {}).incoming = queued (bringUpBodies settings [0x03, 0x32, 0x01, 0x06, 0x07] [] []) ++ queued (unasked settings) := by
  unfold bringUpBodies unasked
  split
  · rfl
  · rfl

/-- The bench hands over this driver. -/
theorem ends_readyDriver (settings : Settings) :
    (readyDriver settings).Ends {} (.ok (handedOver settings)) (handedOver settings).link.channel := by
  have hbodies : ∀ body ∈ bringUpBodies settings [0x03, 0x32, 0x01, 0x06, 0x07] [] [], body.length ≤ Frame.maxBody := by
    unfold bringUpBodies
    split
    · decide
    · decide
  obtain ⟨channel, hresult, hstate, hleft⟩ := bringUp_served (d := Driver.over (seed {}) settings) rfl ⟨rfl, rfl, rfl⟩ hbodies
    (incoming_seed settings)
  have hchannel : forgetTraffic channel = (handedOver settings).link.channel := by
    rw [hleft]
    obtain ⟨_, _, _, _, _, _ | _⟩ := settings
    · rfl
    · rfl
  unfold Ends Act.run readyDriver
  simp only [hresult, hstate, hchannel, and_true]
  obtain ⟨_, _, _, _, _, _ | _⟩ := settings
  · rfl
  · rfl

/-- The first exchange with the driver that the bench hands over, when these bytes are queued for it. -/
def firstExchange (settings : Settings) (bytes frame : Bytes) (timeout : Duration) :
    Outcome (Link MemoryChannel) (Option Bytes) :=
  (Link.exchange frame timeout).run
    { (handedOver settings).link with channel := (handedOver settings).link.channel.queue bytes }

/-- The bench hands a driver over whatever the settings, and no traffic is on record. If the settings have the retries set,
nothing is queued, and the first exchange answers as over a new channel with the bytes that were queued for it, and leaves the
same of them. Otherwise one reply of the bring-up is still queued; it is what the first exchange answers, whatever was queued
for that, and all of that is left. -/
theorem readyDriver_hands_over (settings : Settings) :
    (readyDriver settings).Ends {} (.ok (handedOver settings)) (handedOver settings).link.channel ∧
    ∀ (bytes frame : Bytes) (timeout : Duration),
      let first := firstExchange settings bytes frame timeout
      let fresh := (Link.exchange frame timeout).run (.over ({ incoming := bytes } : MemoryChannel) settings.strictness)
      if settings.disableRetries then
        first.result = fresh.result ∧ first.state.channel.incoming = fresh.state.channel.incoming
      else first.result = .ok (some [0x33]) ∧ first.state.channel.incoming = bytes := by
  refine ⟨ends_readyDriver settings, fun bytes frame timeout => ?_⟩
  have hqueue : ((handedOver settings).link.channel.queue bytes).incoming = queued (unasked settings) ++ bytes := rfl
  split
  · rename_i hdisable
    rw [unasked, if_pos hdisable] at hqueue
    have hsame : Link.SameQueue
        { (handedOver settings).link with channel := (handedOver settings).link.channel.queue bytes }
        (.over { incoming := bytes } settings.strictness) := ⟨rfl, hqueue⟩
    obtain ⟨hresult, hleft⟩ := hsame.exchange frame timeout
    exact ⟨hresult, hleft.incoming⟩
  · rename_i hdisable
    rw [unasked, if_neg hdisable, queued_cons] at hqueue
    have hin : ByteStream.incoming (ByteStream.afterSend frame ((handedOver settings).link.channel.queue bytes)) =
        Frame.ack ++ (Frame.reply [0x33]).wire ++ bytes := hqueue
    have hends : (Link.exchange frame timeout).Ends
        { (handedOver settings).link with channel := (handedOver settings).link.channel.queue bytes } _ _ :=
      Link.ends_exchange_reply frame timeout (by decide) hin
    refine ⟨hends.1, ?_⟩
    rw [firstExchange, hends.2]
    exact Link.incoming_channelAfterReply hin

/-- That the driver is always handed over with nothing queued is false. -/
theorem readyDriver_clean_false :
    ¬∀ settings, ∃ d : Driver .ready MemoryChannel, (readyDriver settings).Ends {} (.ok d) d.link.channel ∧
      d.link.channel.sent = [] ∧ d.link.channel.reads = [] ∧ d.link.channel.incoming = [] := by
  intro h
  obtain ⟨d, hends, -, -, hclean⟩ := h { disableRetries := false }
  obtain rfl := Except.ok.inj ((ends_readyDriver _).1.symm.trans hends.1)
  nomatch hclean

end Bench

end NfcHost
