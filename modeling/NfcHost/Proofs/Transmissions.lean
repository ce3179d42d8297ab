import NfcHost.Proofs.Operations
import NfcHost.Proofs.Tap

/-!
# What goes over the wire

Every write of a driver is a transmission: an acknowledgement or the frame of a command, as it is or behind the zeros that wake
the controller. The bytes of a write say which transmission it is, and the frame that is looked for in a write is the one of
the command that was written, or none. So a channel in memory reads the commands of a whole run back from its writes, in their
order (`commands_read_back`): whatever bytes are queued and when, whether the bring-up succeeds or not, and whatever is asked
of the driver with whatever arguments. What was sent is told by a tap in front of the channel, for which nothing is planned and
which writes the calls down on its own; the record of the channel is compared with that.
-/

namespace NfcHost

namespace Command

/-- The command of a code, if there is one. -/
def ofCode? (code : UInt8) : Option Command := all.find? fun command => command.code = code

theorem ofCode?_code (command : Command) : ofCode? command.code = some command := by cases command <;> rfl

/-- A code names one command. -/
theorem code_inj {a b : Command} : a.code = b.code ↔ a = b := by
  refine ⟨fun h => ?_, congrArg code⟩
  exact Option.some.inj ((ofCode?_code a).symm.trans ((congrArg ofCode? h).trans (ofCode?_code b)))

end Command

/-! ## Transmissions -/

/-- What a driver puts on the wire in one write. -/
structure Transmission where
  /-- Zeros that wake the controller stand in front. -/
  waking : Bool
  /-- The command and its arguments; where there is none, an acknowledgement is written. -/
  content : Option (Command × Bytes)
  deriving DecidableEq

namespace Transmission

/-- How many zeros stand in front. -/
def zeros (t : Transmission) : Nat := if t.waking then 20 else 0

/-- The command that is written. -/
def command? (t : Transmission) : Option Command := t.content.map Prod.fst

/-- The frame of the command that is written. -/
def frame? (t : Transmission) : Option Frame :=
  t.content.map fun (command, args) => ⟨Frame.hostMarker, command.code :: args⟩

/-- The bytes that are written. A command whose arguments do not fit is not written. -/
def encode (t : Transmission) : Except Fault Bytes :=
  match t.frame? with
  | none => .ok (List.replicate t.zeros 0 ++ Frame.ack)
  | some frame => frame.encode.map (List.replicate t.zeros 0 ++ ·)

/-- What stands behind the zeros. -/
def core (t : Transmission) : Bytes := t.frame?.elim Frame.ack Frame.wire

/-- A transmission is written exactly if the body of its frame fits. -/
theorem encode_eq_ok_iff {t : Transmission} {bytes : Bytes} :
    t.encode = .ok bytes ↔
      (∀ frame, t.frame? = some frame → frame.body.length ≤ Frame.maxBody) ∧
        bytes = List.replicate t.zeros 0 ++ t.core := by
  unfold encode core
  cases t.frame? with
  | none => simp [eq_comm]
  | some frame =>
    by_cases hfits : frame.body.length ≤ Frame.maxBody
    · simp [Frame.encode_eq_wire hfits, Except.map, hfits, eq_comm]
    · simp [Frame.encode, Nat.not_le.1 hfits, hfits, Except.map]

/-- A command whose arguments fit is written in its frame. -/
theorem encode_command {command : Command} {args : Bytes} (hl : args.length < Frame.maxBody) :
    encode ⟨false, some (command, args)⟩ = .ok (Frame.command command.code args).wire := by
  refine encode_eq_ok_iff.2 ⟨?_, rfl⟩
  rintro frame ⟨⟩
  exact hl

/-- If it is to wake the controller, zeros stand in front. -/
theorem encode_waking {command : Command} {args : Bytes} (hl : args.length < Frame.maxBody) :
    encode ⟨true, some (command, args)⟩ = .ok (Link.withWakeUp (Frame.command command.code args).wire) := by
  refine encode_eq_ok_iff.2 ⟨?_, rfl⟩
  rintro frame ⟨⟩
  exact hl

/-- The frame found in a write is the one that was written. -/
theorem frameIn_of_encode {t : Transmission} {bytes : Bytes} (h : t.encode = .ok bytes) :
    MemoryChannel.frameIn bytes = t.frame? := by
  obtain ⟨hfits, rfl⟩ := encode_eq_ok_iff.1 h
  unfold core
  cases hframe : t.frame? with
  | none =>
    rcases t with ⟨_ | _, content⟩
    · exact MemoryChannel.frameIn_ack
    · exact MemoryChannel.frameIn_withWakeUp_ack
  | some frame => exact MemoryChannel.frameIn_zeros_wire t.zeros (hfits frame hframe)

/-- The frame that is written says which command it is, and with which arguments. -/
theorem content_of_frame? {t t' : Transmission} (h : t.frame? = t'.frame?) : t.content = t'.content := by
  refine Option.map_injective ?_ h
  rintro ⟨command, args⟩ ⟨command', args'⟩ heq
  obtain ⟨hcode, rfl⟩ := List.cons.inj (Frame.mk.inj heq).2
  rw [Command.code_inj.1 hcode]

/-- What was written can be told from the bytes. -/
theorem encode_inj {t t' : Transmission} {bytes : Bytes} (h : t.encode = .ok bytes) (h' : t'.encode = .ok bytes) : t = t' := by
  have hframe : t.frame? = t'.frame? := (frameIn_of_encode h).symm.trans (frameIn_of_encode h')
  have hzeros : t.zeros = t'.zeros := by
    have hbytes := (encode_eq_ok_iff.1 h).2.symm.trans (encode_eq_ok_iff.1 h').2
    have hlength := congrArg List.length hbytes
    rw [List.length_append, List.length_append, List.length_replicate, List.length_replicate, core, core, hframe] at hlength
    exact Nat.add_right_cancel hlength
  obtain ⟨waking, content⟩ := t
  obtain ⟨waking', content'⟩ := t'
  obtain rfl : content = content' := content_of_frame? hframe
  cases waking <;> cases waking' <;> first | rfl | nomatch hzeros

end Transmission

/-! ## Writes and transmissions -/

namespace MemoryChannel

/-- The writes of the channel are these transmissions. -/
def Wrote (c : MemoryChannel) (ts : List Transmission) : Prop := c.sent.map Except.ok = ts.map Transmission.encode

theorem Wrote.append {c : MemoryChannel} {ts : List Transmission} (h : c.Wrote ts) {t : Transmission} {bytes : Bytes}
    (ht : t.encode = .ok bytes) : Wrote { c with sent := c.sent ++ [bytes] } (ts ++ [t]) := by
  unfold Wrote at h ⊢
  rw [List.map_append, List.map_append, h, List.map_singleton, List.map_singleton, ht]

/-- The writes are the transmissions of one list only. -/
theorem Wrote.unique {c : MemoryChannel} {ts ts' : List Transmission} (h : c.Wrote ts) (h' : c.Wrote ts') : ts = ts' := by
  unfold Wrote at h h'
  generalize c.sent = sent at h h'
  induction sent generalizing ts ts' with
  | nil => rw [List.map_eq_nil_iff.1 h.symm, List.map_eq_nil_iff.1 h'.symm]
  | cons bytes sent ih =>
    obtain ⟨t, rest, rfl, ht, hrest⟩ := List.map_eq_cons_iff.1 h.symm
    obtain ⟨t', rest', rfl, ht', hrest'⟩ := List.map_eq_cons_iff.1 h'.symm
    rw [Transmission.encode_inj ht ht', ih hrest.symm hrest'.symm]

/-- The frames found in the writes are those of the transmissions. -/
theorem Wrote.sentFrames {c : MemoryChannel} {ts : List Transmission} (h : c.Wrote ts) :
    c.sentFrames = ts.filterMap Transmission.frame? := by
  unfold Wrote at h
  unfold MemoryChannel.sentFrames
  generalize c.sent = sent at h
  induction sent generalizing ts with
  | nil => rw [List.map_eq_nil_iff.1 h.symm]; rfl
  | cons bytes sent ih =>
    obtain ⟨t, rest, rfl, ht, hrest⟩ := List.map_eq_cons_iff.1 h.symm
    rw [List.filterMap_cons, List.filterMap_cons, Transmission.frameIn_of_encode ht, ih hrest.symm]

/-- Counting the frames that carry a code counts the commands of that code. -/
theorem Wrote.commandCount {c : MemoryChannel} {ts : List Transmission} (h : c.Wrote ts) (code : UInt8) :
    c.commandCount code = (ts.filterMap Transmission.command?).countP fun command => command.code == code := by
  rw [MemoryChannel.commandCount, h.sentFrames, List.countP_filterMap, List.countP_filterMap]
  refine congrArg (List.countP · ts) (funext fun t => ?_)
  rcases t with ⟨_, _ | ⟨command, args⟩⟩
  · rfl
  · simp [Transmission.frame?, Transmission.command?]

/-- Arguments that were written fit into a frame. -/
theorem Wrote.length_args {c : MemoryChannel} {ts : List Transmission} (h : c.Wrote ts) {t : Transmission} (ht : t ∈ ts)
    {command : Command} {args : Bytes} (hcontent : t.content = some (command, args)) : args.length ≤ 253 := by
  have hmem : t.encode ∈ c.sent.map Except.ok := h ▸ List.mem_map_of_mem ht
  obtain ⟨bytes, -, hbytes⟩ := List.mem_map.1 hmem
  have hframe : t.frame? = some ⟨Frame.hostMarker, command.code :: args⟩ := by rw [Transmission.frame?, hcontent]; rfl
  exact Nat.le_of_succ_le_succ ((Transmission.encode_eq_ok_iff.1 hbytes.symm).1 _ hframe)

end MemoryChannel

/-! ## The record and the calls -/

namespace Tapped

open Act

/-- Nothing is planned for the tap, the channel in memory behind it has on record what the calls wrote, and what they wrote are
transmissions. -/
structure Transmits (t : Tapped MemoryChannel) : Prop where
  plans : t.plans = []
  sent : t.inner.sent = writes t.calls
  wrote : ∃ ts, t.inner.Wrote ts

/-- The frames on record are those that the calls sent. -/
theorem Transmits.sentFrames {t : Tapped MemoryChannel} (h : t.Transmits) : t.inner.sentFrames = framesSent t.calls := by
  rw [framesSent_eq_filterMap_writes, MemoryChannel.sentFrames, h.sent]

/-- A code is counted as often as a call sent a command of that code. -/
theorem Transmits.commandCount {t : Tapped MemoryChannel} (h : t.Transmits) (code : UInt8) :
    t.inner.commandCount code = t.calls.countP fun entry => entry.1.code? == some code := by
  rw [MemoryChannel.commandCount, h.sentFrames, countP_framesSent]

/-- A call that writes nothing is passed on and leaves no trace in the record. -/
theorem transmits_pass {α : Type} {call : Call} (hcall : call.write? = none) {onward : Act MemoryChannel α}
    (hsent : ∀ c, (onward.run c).state.sent = c.sent) : (pass call onward).Keeps Transmits := by
  rintro t ⟨hplans, hrecord, ts, hwrote⟩
  have hnone : writes [(call, false)] = [] := List.filterMap_cons_none hcall
  rw [run_pass call onward hplans]
  refine ⟨hplans, ?_, ts, ?_⟩
  · rw [writes_append, hnone, List.append_nil, hsent, hrecord]
  · unfold MemoryChannel.Wrote
    rw [hsent]
    exact hwrote

/-- The write of a transmission is one more on record. -/
theorem transmits_send {t : Transmission} {bytes : Bytes} (ht : t.encode = .ok bytes) :
    (Channel.send bytes : Act (Tapped MemoryChannel) Unit).Keeps Transmits := by
  rintro tap ⟨hplans, hrecord, ts, hwrote⟩
  have hpass := run_pass (.send bytes) (Channel.send bytes : Act MemoryChannel Unit) hplans
  rw [MemoryChannel.run_send] at hpass
  refine hpass ▸ ⟨hplans, ?_, ts ++ [t], hwrote.append ht⟩
  show tap.inner.sent ++ [bytes] = writes (tap.calls ++ [(.send bytes, false)])
  rw [writes_append, hrecord]
  rfl

/-- Queues bytes of the controller behind the tap. -/
def queue (bytes : Bytes) (t : Tapped MemoryChannel) : Tapped MemoryChannel := { t with inner := t.inner.queue bytes }

/-- To queue bytes is no call. -/
theorem Transmits.queue {t : Tapped MemoryChannel} (h : t.Transmits) (bytes : Bytes) : (t.queue bytes).Transmits :=
  ⟨h.plans, h.sent, h.wrote⟩

end Tapped

/-! ## Exchanges and commands -/

namespace Link

open Act

/-- What was written over the link's channel are transmissions, and the channel behind the tap has them on record. -/
def Transmits (l : Link (Tapped MemoryChannel)) : Prop := l.channel.Transmits

/-- What keeps so much of the channel keeps it of the link. -/
theorem transmits_onChannel {α : Type} {a : Act (Tapped MemoryChannel) α} (h : a.Keeps Tapped.Transmits) :
    (onChannel a).Keeps Transmits := fun l hl => h l.channel hl

/-- Behind its first write an exchange writes acknowledgements only. -/
theorem outlasts_transmits (timeout : Duration) : Outlasts Transmits timeout where
  stage _ _ hl := hl
  receive _ := transmits_onChannel (Tapped.transmits_pass rfl fun _ => rfl)
  ack := transmits_onChannel (Tapped.transmits_send (t := ⟨false, none⟩) rfl)

/-- An exchange that starts with a transmission writes transmissions only. -/
theorem transmits_exchange {t : Transmission} {bytes : Bytes} (ht : t.encode = .ok bytes) (timeout : Duration) :
    (exchange bytes timeout).Keeps Transmits := fun l hl =>
  (outlasts_transmits timeout).exchange (transmits_onChannel (Tapped.transmits_send ht) l hl)

/-- The reset of the input is no write. -/
theorem transmits_resetInput : (onChannel Channel.resetInput : Act (Link (Tapped MemoryChannel)) Unit).Keeps Transmits :=
  transmits_onChannel (Tapped.transmits_pass rfl fun _ => rfl)

/-- The wake-up writes an acknowledgement behind zeros. -/
theorem transmits_wakeUp : (wakeUp : Act (Link (Tapped MemoryChannel)) Unit).Keeps Transmits := by
  have hflush : (onChannel Channel.flush).Keeps Transmits := transmits_onChannel (Tapped.transmits_pass rfl fun _ => rfl)
  have hack : (onChannel (Channel.send (withWakeUp Frame.ack))).Keeps Transmits :=
    transmits_onChannel (Tapped.transmits_send (t := ⟨true, none⟩) rfl)
  exact hflush.bind fun _ => hack.bind fun _ => transmits_resetInput

/-- Resetting the buffers is no write. -/
theorem transmits_resetBuffers : (resetBuffers : Act (Link (Tapped MemoryChannel)) Unit).Keeps Transmits := by
  have hinput : (Channel.resetInput : Act (Tapped MemoryChannel) Unit).Keeps Tapped.Transmits :=
    Tapped.transmits_pass rfl fun _ => rfl
  exact transmits_onChannel (hinput.bind fun _ => Tapped.transmits_pass rfl fun _ => rfl)

end Link

namespace Driver

open Act

variable {phase : Phase}

/-- What was written over the driver's channel are transmissions, and the channel behind the tap has them on record. -/
def Transmits (d : Driver phase (Tapped MemoryChannel)) : Prop := d.link.Transmits

/-- And what keeps it of the link keeps it of the driver. -/
theorem transmits_onLink {α : Type} {a : Act (Link (Tapped MemoryChannel)) α} (h : a.Keeps Link.Transmits) :
    (onLink a : Act (Driver phase (Tapped MemoryChannel)) α).Keeps Transmits := fun d hd => h d.link hd

/-- What is known does not count. -/
theorem uncached_transmits : Uncached (@Transmits phase) := ⟨fun _ _ hd => hd, fun _ _ hd => hd⟩

/-- A command is a transmission, or not written at all. -/
theorem transmits_sendCommand (command : Command) (args : Bytes) (timeout : Duration) :
    (sendCommand command args timeout : Act (Driver phase (Tapped MemoryChannel)) (Option Bytes)).Keeps Transmits := by
  refine keeps_sendCommand_of_exchange fun hl d hd => ?_
  exact (Link.transmits_exchange (Transmission.encode_command hl) timeout).ends hd

/-- A waking command is a transmission. -/
theorem transmits_sendWaking (command : Command) {args : Bytes} (timeout : Duration) (hl : args.length < Frame.maxBody) :
    (sendWaking command args timeout : Act (Driver phase (Tapped MemoryChannel)) Bytes).Keeps Transmits := by
  refine keeps_sendWaking_of_exchange hl fun d hd => ?_
  exact (Link.transmits_exchange (Transmission.encode_waking hl) timeout).ends hd

/-- The firmware query is a transmission. -/
theorem transmits_sendWaking_firmware (timeout : Duration) :
    (sendWaking .getFirmwareVersion [] timeout : Act (Driver phase (Tapped MemoryChannel)) Bytes).Keeps Transmits :=
  transmits_sendWaking .getFirmwareVersion timeout (by decide)

/-- Resetting the buffers is no write. -/
theorem transmits_resetBuffers : (resetBuffers : Act (Driver phase (Tapped MemoryChannel)) Unit).Keeps Transmits :=
  transmits_onLink Link.transmits_resetBuffers

/-- A bring-up writes transmissions, however far it gets. -/
theorem transmits_bringUpSteps : (bringUpSteps : Act (Driver .asleep (Tapped MemoryChannel)) Unit).Keeps Transmits :=
  congr_bringUpSteps (keeps_congruence Transmits) (transmits_onLink Link.transmits_wakeUp)
    (transmits_onLink Link.transmits_resetInput) (fun command _ timeout _ hl => transmits_sendWaking command timeout hl)
    fun item value timeout => uncached_transmits.applyItem (transmits_sendCommand _) item value false timeout

end Driver

/-! ## Runs -/

namespace Request

open Driver

/-- What a driver that was not brought up does for a request: it sends commands, asks for the firmware, and drops and forgets.
The other operations it does not have. -/
def early {σ : Type} [Channel σ] : Request → Act (Driver .asleep σ) Answer
  | verifyFirmware => do return .verdict (← Driver.verifyFirmware)
  | firmware => do return .firmware (← Driver.firmware)
  | resetBuffers => do
    Driver.resetBuffers
    return .nothing
  | forget => do
    Driver.forget
    return .nothing
  | execute command args timeout => do return .bytes (← Driver.execute command args timeout)
  | _ => return .nothing

/-- A request writes transmissions before the bring-up, whatever its arguments. -/
theorem transmits_early (request : Request) : (request.early (σ := Tapped MemoryChannel)).Keeps Transmits := by
  have hP := keeps_congruence (@Transmits .asleep)
  cases request with
  | verifyFirmware => exact (congr_verifyFirmware hP transmits_sendWaking_firmware).bind fun _ => hP.done _
  | firmware => exact (congr_firmware hP transmits_sendWaking_firmware).bind fun _ => hP.done _
  | resetBuffers => exact transmits_resetBuffers.bind fun _ => hP.done _
  | execute command args timeout =>
    exact (congr_execute hP (transmits_sendCommand command args timeout)).bind fun _ => hP.done _
  -- forgetting, and what is not there, leaves the channel alone
  | _ => exact fun _ hd => hd

/-- So it does afterwards. -/
theorem transmits_run (request : Request) : (request.run (σ := Tapped MemoryChannel)).Keeps Transmits :=
  uncached_transmits.request transmits_sendCommand transmits_sendWaking_firmware transmits_resetBuffers request

end Request

namespace Bench

/-- A driver as its host holds it. The channel in memory stands behind a tap. -/
inductive Held where
  | asleep (d : Driver .asleep (Tapped MemoryChannel))
  | ready (d : Driver .ready (Tapped MemoryChannel))
  /-- The bring-up failed, and only the channel is left. -/
  | gone (t : Tapped MemoryChannel)

/-- What is done on the bench. -/
inductive Doing where
  /-- Bytes of the controller are queued. -/
  | queue (bytes : Bytes)
  /-- The controller is brought up, if it was not yet. -/
  | bringUp
  /-- The driver, if there is one, is asked for something. -/
  | ask (request : Request)

namespace Held

/-- The tap and the channel in memory behind it. -/
def channel : Held → Tapped MemoryChannel
  | asleep d => d.link.channel
  | ready d => d.link.channel
  | gone t => t

/-- What a bring-up leaves in the host's hands. -/
def ofBringUp (o : Outcome (Tapped MemoryChannel) (Driver .ready (Tapped MemoryChannel))) : Held :=
  match o.result with
  | .ok d => ready d
  | .error _ => gone o.state

/-- What is held when something was done. -/
def after : Held → Doing → Held
  | asleep d, .queue bytes => asleep { d with link := { d.link with channel := d.link.channel.queue bytes } }
  | ready d, .queue bytes => ready { d with link := { d.link with channel := d.link.channel.queue bytes } }
  | gone t, .queue bytes => gone (t.queue bytes)
  | asleep d, .bringUp => ofBringUp d.bringUp
  | asleep d, .ask request => asleep (request.early.run d).state
  | ready d, .ask request => ready (request.run.run d).state
  | held, _ => held

/-- A bring-up writes transmissions, whether it succeeds or not. -/
theorem transmits_ofBringUp {d : Driver .asleep (Tapped MemoryChannel)} (h : d.Transmits) :
    (ofBringUp d.bringUp).channel.Transmits := by
  have hsteps : (Driver.bringUpSteps.run d).state.Transmits := Driver.transmits_bringUpSteps d h
  unfold ofBringUp
  split
  · rename_i d' hd'
    rw [eq_of_bringUp hd']
    exact hsteps
  · exact hsteps

/-- Whatever is done, all that is written are transmissions, and they are on record. -/
theorem transmits_after {held : Held} (h : held.channel.Transmits) (doing : Doing) :
    (held.after doing).channel.Transmits := by
  cases held with
  | asleep d =>
    cases doing with
    | queue bytes => exact h.queue bytes
    | bringUp => exact transmits_ofBringUp h
    | ask request => exact request.transmits_early d h
  | ready d =>
    cases doing with
    | queue bytes => exact h.queue bytes
    | bringUp => exact h
    | ask request => exact request.transmits_run d h
  | gone t =>
    cases doing with
    | queue bytes => exact h.queue bytes
    | bringUp => exact h
    | ask request => exact h

end Held

/-- A fresh channel in memory behind a tap that goes by its name. Nothing is planned for the tap, so every call is passed on. -/
def fresh : Tapped MemoryChannel := { inner := {}, name := Channel.name ({} : MemoryChannel) }

/-- What is held after a run over a fresh channel. -/
def run (settings : Settings) (doings : List Doing) : Held := doings.foldl Held.after (.asleep (Driver.over fresh settings))

/-- All that a run writes are transmissions, and they are on record. -/
theorem transmits_run (settings : Settings) (doings : List Doing) : (run settings doings).channel.Transmits := by
  have hrun {held : Held} (h : held.channel.Transmits) : (doings.foldl Held.after held).channel.Transmits := by
    induction doings generalizing held with
    | nil => exact h
    | cons doing doings ih => exact ih (held.transmits_after h doing)
  exact hrun ⟨rfl, rfl, [], rfl⟩

/-- What a run over a fresh channel in memory writes is well formed, and is read back as it was sent. The record holds what the
calls wrote, in order, and its frames are those that the calls sent; a code is counted as often as a call sent a command of
that code. What the calls wrote are transmissions, which are uniquely determined: each is an acknowledgement or a command with
at most 253 bytes of arguments, behind twenty zeros or none. The frames read back are those of the commands, in order, and the
count is that of the commands. -/
theorem commands_read_back (settings : Settings) (doings : List Doing) :
    let c := (run settings doings).channel.inner
    let made := (run settings doings).channel.calls
    c.sent = writes made ∧ c.sentFrames = framesSent made ∧
      (∀ code, c.commandCount code = made.countP fun entry => entry.1.code? == some code) ∧
      ∃ ts : List Transmission, (writes made).map Except.ok = ts.map Transmission.encode ∧
        (∀ ts' : List Transmission, (writes made).map Except.ok = ts'.map Transmission.encode → ts' = ts) ∧
        (∀ t ∈ ts, ∀ command args, t.content = some (command, args) → args.length ≤ 253) ∧
        c.sentFrames = ts.filterMap Transmission.frame? ∧
        ∀ code, c.commandCount code = (ts.filterMap Transmission.command?).countP fun command => command.code == code := by
  intro c made
  have htransmits := transmits_run settings doings
  have hsent : c.sent = writes made := htransmits.sent
  obtain ⟨ts, hwrote⟩ := htransmits.wrote
  refine ⟨hsent, htransmits.sentFrames, htransmits.commandCount, ts, ?_, ?_, ?_, hwrote.sentFrames, hwrote.commandCount⟩
  · rw [← hsent]
    exact hwrote
  · intro ts' hwrote'
    rw [← hsent] at hwrote'
    exact MemoryChannel.Wrote.unique hwrote' hwrote
  · intro t ht command args hcontent
    exact hwrote.length_args ht hcontent

/-- Where the controller is silent, the wake-up and the firmware query are all that is written. -/
example : (run {} [.bringUp, .ask .pollA]).channel.inner.sentFrames = [⟨0xD4, [0x02]⟩] := by decide

end Bench

end NfcHost
