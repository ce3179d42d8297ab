import NfcHost.Proofs.Access
import NfcHost.Proofs.Handshake

/-!
# A chip behind the channel

A chip that decodes each write of the host, obeys the command in it and answers with an acknowledgement and one reply frame,
or does not receive the command and stays silent (`Chip`). What the command does to the tables is fixed; everything else
about the chip is a parameter (`Behaviour`): which commands it receives, what it replies, what it makes of its tables when it
sets up its own radio, and how its inner state goes on. The statements give the exact end of every command that a driver
sends to such a chip: the answer, and a driver that differs by the chip having obeyed.
-/

namespace NfcHost

variable {ι : Type}

/-- What a reply carries behind the response code: as many bytes as a frame has room for. -/
abbrev Payload := { bytes : Bytes // bytes.length < Frame.maxBody }

/-- How a chip takes the commands it gets, as functions of its inner state, its tables, and the code and the arguments of the
command. The inner state may hold anything, such as what happens on the contactless side, or which commands are going to be
lost. -/
structure Behaviour (ι : Type) where
  /-- The command is received. -/
  hears : ι → Tables → UInt8 → Bytes → Bool
  /-- What the chip replies, but to a reading of registers. -/
  payload : ι → Tables → UInt8 → Bytes → Payload
  /-- The tables after the chip has set up its own radio. -/
  rewrite : ι → Tables → UInt8 → Bytes → Tables
  /-- The inner state after the command. -/
  next : ι → Tables → UInt8 → Bytes → ι

/-- The chip receives every command, and so answers it. -/
def Behaviour.Answering (b : Behaviour ι) : Prop := ∀ i t code args, b.hears i t code args = true

/-- A chip that receives every command and counts the listings. It names itself to the firmware query; anything else it
answers with one zero. -/
def Behaviour.prompt : Behaviour Nat where
  hears _ _ _ _ := true
  payload _ _ code _ :=
    if code = Command.getFirmwareVersion.code then ⟨[0x32, 0x01, 0x06, 0x07], by decide⟩ else ⟨[0x00], by decide⟩
  rewrite _ _ _ _ := ⟨fun _ => 0x00, fun _ => []⟩
  next count _ code _ := if code = Command.inListPassiveTarget.code then count + 1 else count

/-- A chip of some behaviour. -/
@[ext] structure Chip (b : Behaviour ι) where
  /-- The registers and the items of the RF configuration. -/
  tables : Tables
  /-- Everything else the chip remembers. -/
  inner : ι
  /-- What the chip has said and the host has not read. -/
  outgoing : Bytes := []

namespace Chip

variable {b : Behaviour ι}

/-! ## Obeying a command -/

/-- What the chip replies to a command that it receives. -/
def payload (c : Chip b) (code : UInt8) (args : Bytes) : Bytes :=
  if code = Command.readRegister.code then c.tables.read args else (b.payload c.inner c.tables code args).val

/-- What the chip replies to a command, if it receives it. -/
def answer? (c : Chip b) (code : UInt8) (args : Bytes) : Option Bytes :=
  if b.hears c.inner c.tables code args then some (c.payload code args) else none

theorem answer?_answering (hb : b.Answering) (c : Chip b) (code : UInt8) (args : Bytes) :
    c.answer? code args = some (c.payload code args) := if_pos (hb _ _ _ _)

/-- The tables after a command that the chip receives. -/
def tablesAfter (c : Chip b) (code : UInt8) (args : Bytes) : Tables :=
  if code = Command.writeRegister.code then c.tables.write args
  else if code = Command.rfConfiguration.code then c.tables.configure args
  else if code = Command.inListPassiveTarget.code ∨ code = Command.tgInitAsTarget.code then
    b.rewrite c.inner c.tables code args
  else c.tables

/-- The chip after a command, what it says left aside. A command that was not received leaves the tables alone. -/
def obey (c : Chip b) (code : UInt8) (args : Bytes) : Chip b :=
  { c with tables := if b.hears c.inner c.tables code args then c.tablesAfter code args else c.tables
           inner := b.next c.inner c.tables code args }

/-- The chip after a command, with what it says: an acknowledgement and a reply frame, or nothing. -/
def hear (c : Chip b) (code : UInt8) (args : Bytes) : Chip b :=
  { c.obey code args with
    outgoing := match c.answer? code args with
      | some payload => c.outgoing ++ (Frame.ack ++ (Frame.reply ((code + 1) :: payload)).wire)
      | none => c.outgoing }

/-- The chip after a write of the host. Only frames from the host that hold a command count. -/
def receiveBytes (write : Bytes) (c : Chip b) : Chip b :=
  match MemoryChannel.frameIn write with
  | some ⟨marker, code :: args⟩ => if marker = Frame.hostMarker then c.hear code args else c
  | _ => c

instance : Channel (Chip b) where
  name _ := "chip"
  send bytes := Act.change (receiveBytes bytes)
  receive len _ := fun c => ⟨.ok (c.outgoing.take len), { c with outgoing := c.outgoing.drop len }, []⟩
  resetInput := Act.change fun c => { c with outgoing := [] }

/-- An acknowledgement holds no command. -/
@[simp] theorem receiveBytes_ack (c : Chip b) : c.receiveBytes Frame.ack = c := by
  rw [receiveBytes, MemoryChannel.frameIn_ack]

/-- The wake-up holds no command either. -/
@[simp] theorem receiveBytes_wakeUp (c : Chip b) : c.receiveBytes (Link.withWakeUp Frame.ack) = c := by
  rw [receiveBytes, MemoryChannel.frameIn_withWakeUp_ack]

/-- A write with a command in it is heard. -/
theorem receiveBytes_command {write : Bytes} {code : UInt8} {args : Bytes}
    (h : MemoryChannel.frameIn write = some (Frame.command code args)) (c : Chip b) :
    c.receiveBytes write = c.hear code args := by
  rw [receiveBytes, h]
  exact if_pos rfl

/-- A chip says what it has to say as one stream. -/
instance : ByteStream (Chip b) where
  incoming := outgoing
  afterSend := receiveBytes
  afterReceive len _ c := { c with outgoing := c.outgoing.drop len }
  run_send _ _ := rfl
  run_receive _ _ _ := rfl
  incoming_afterReceive _ _ _ := rfl
  incoming_afterSend_ack c := congrArg outgoing (receiveBytes_ack c)

/-- To the host's acknowledgement the chip says nothing. -/
theorem afterSend_ack (c : Chip b) : ByteStream.afterSend Frame.ack c = c := receiveBytes_ack c

/-! ## The tables after a command -/

@[simp] theorem obey_outgoing (c : Chip b) (code : UInt8) (args : Bytes) : (c.obey code args).outgoing = c.outgoing := rfl

/-- A harmless command leaves the tables alone, received or not. -/
theorem tables_obey_harmless {command : Command} (h : command.Harmless) (c : Chip b) (args : Bytes) :
    (c.obey command.code args).tables = c.tables := by
  have hafter : c.tablesAfter command.code args = c.tables := by
    cases command <;> first | rfl | exact absurd h (by decide)
  simp only [obey, hafter, ite_self]

/-- A command that was not received leaves the tables alone. -/
theorem tables_obey_unheard {c : Chip b} {code : UInt8} {args : Bytes} (h : c.answer? code args = none) :
    (c.obey code args).tables = c.tables := by
  unfold answer? at h
  split at h
  · nomatch h
  · rename_i hno
    simp only [obey, if_neg hno]

/-- A command that was received does what it says. -/
theorem tables_obey_heard {c : Chip b} {code : UInt8} {args payload : Bytes} (h : c.answer? code args = some payload) :
    (c.obey code args).tables = c.tablesAfter code args := by
  unfold answer? at h
  split at h
  · rename_i hyes
    simp only [obey, if_pos hyes]
  · nomatch h

/-- The reply to a reading is what the registers hold. -/
theorem answer?_readRegister {c : Chip b} {args payload : Bytes}
    (h : c.answer? Command.readRegister.code args = some payload) : payload = c.tables.read args := by
  unfold answer? at h
  split at h
  · exact (Option.some.inj h).symm
  · nomatch h

/-- Every reply fits into a frame, if the command did. -/
theorem length_answer? {c : Chip b} {code : UInt8} {args payload : Bytes} (hl : args.length < Frame.maxBody)
    (h : c.answer? code args = some payload) : payload.length < Frame.maxBody := by
  unfold answer? at h
  split at h
  · rw [← Option.some.inj h, Chip.payload]
    split
    · rw [Tables.length_read]
      omega
    · exact (b.payload c.inner c.tables code args).property
  · nomatch h

end Chip

/-! ## An exchange with a quiet chip -/

namespace Link

open ByteStream

variable {b : Behaviour ι}

/-- An exchange that carries a command to a chip with nothing left to say: the chip obeys, and its answer comes back. -/
theorem ends_exchange_obey {write : Bytes} (timeout : Duration) {l : Link (Chip b)} {code : UInt8} {args : Bytes}
    (hw : MemoryChannel.frameIn write = some (Frame.command code args)) (hl : args.length < Frame.maxBody)
    (hq : l.channel.outgoing = []) :
    (exchange write timeout).Ends l (.ok ((l.channel.answer? code args).map fun payload => (code + 1) :: payload))
      { l with channel := l.channel.obey code args, stage := .idle } := by
  have hsent : afterSend write l.channel = l.channel.hear code args := Chip.receiveBytes_command hw l.channel
  rcases hanswer : l.channel.answer? code args with _ | payload
  · have hin : incoming (afterSend write l.channel) = [] := by
      rw [hsent]
      simp only [incoming, Chip.hear, hanswer, hq]
    have hstate : channelAfterAck write timeout l.channel = l.channel.obey code args := by
      ext1
      · rw [channelAfterAck, hsent]
        rfl
      · rw [channelAfterAck, hsent]
        rfl
      · exact (incoming_channelAfterAck write timeout l.channel).trans (by rw [hin, Chip.obey_outgoing, hq]; rfl)
    rw [← hstate]
    exact ends_exchange_silence write timeout hin
  · have hin : incoming (afterSend write l.channel) = Frame.ack ++ (Frame.reply ((code + 1) :: payload)).wire ++ [] := by
      rw [hsent]
      simp only [incoming, Chip.hear, hanswer, hq, List.nil_append, List.append_nil]
    have hstate : channelAfterReply write ((code + 1) :: payload).length timeout l.channel = l.channel.obey code args := by
      ext1
      · rw [channelAfterReply, channelAfterFinish, Chip.afterSend_ack, channelAfterAck, hsent]
        rfl
      · rw [channelAfterReply, channelAfterFinish, Chip.afterSend_ack, channelAfterAck, hsent]
        rfl
      · exact (incoming_channelAfterReply hin).trans hq.symm
    rw [← hstate]
    exact ends_exchange_reply write timeout (Chip.length_answer? hl hanswer) hin

/-- From a quiet chip there is nothing to drop. -/
theorem ends_resetInput {l : Link (Chip b)} (hq : l.channel.outgoing = []) :
    (onChannel Channel.resetInput).Ends l (.ok ()) l := by
  have hchip : (Channel.resetInput : Act (Chip b) Unit).Ends l.channel (.ok ()) l.channel := by
    refine ⟨rfl, ?_⟩
    ext1
    · rfl
    · rfl
    · exact hq.symm
  exact hchip.onPart

/-- Nor in both directions. -/
theorem ends_resetBuffers {l : Link (Chip b)} (hq : l.channel.outgoing = []) : resetBuffers.Ends l (.ok ()) l := by
  obtain ⟨-, hs⟩ := ends_resetInput hq
  exact ⟨rfl, hs⟩

/-- The wake-up leaves a quiet chip as it is. -/
theorem ends_wakeUp {l : Link (Chip b)} (hq : l.channel.outgoing = []) : wakeUp.Ends l (.ok ()) l := by
  have hflush : (onChannel Channel.flush).Ends l (.ok ()) l := ⟨rfl, rfl⟩
  have hsend : (onChannel (Channel.send (withWakeUp Frame.ack))).Ends l (.ok ()) l :=
    ⟨rfl, congrArg (fun channel => { l with channel }) (Chip.receiveBytes_wakeUp l.channel)⟩
  exact hflush.bind (hsend.bind (ends_resetInput hq))

end Link

/-! ## Commands of a driver -/

namespace Driver

variable {b : Behaviour ι} {phase : Phase}

/-- The chip that the driver drives. -/
abbrev chip (d : Driver phase (Chip b)) : Chip b := d.link.channel

/-- The driver when its chip has obeyed a command. -/
def afterCommand (d : Driver phase (Chip b)) (command : Command) (args : Bytes) : Driver phase (Chip b) :=
  { d with link := { d.link with channel := d.chip.obey command.code args, stage := .idle } }

/-- A command whose arguments fit goes out, and the answer comes back. -/
theorem ends_sendCommand {d : Driver phase (Chip b)} (hq : d.chip.outgoing = []) (command : Command) {args : Bytes}
    (timeout : Duration) (hl : args.length < Frame.maxBody) :
    (sendCommand command args timeout).Ends d
      (.ok ((d.chip.answer? command.code args).map fun payload => command.responseCode :: payload))
      (d.afterCommand command args) :=
  ends_sendCommand_exchange hl (Link.ends_exchange_obey timeout (l := d.link) (MemoryChannel.frameIn_wire hl) hl hq)

/-- A command is executed: its answer without the response code, or a fault if none came. -/
theorem ends_execute {d : Driver phase (Chip b)} (hq : d.chip.outgoing = []) (command : Command) {args : Bytes}
    (timeout : Duration) (hl : args.length < Frame.maxBody) :
    (execute command args timeout).Ends d (answered command (d.chip.answer? command.code args))
      (d.afterCommand command args) := by
  have hexec := ends_execute_sendCommand (ends_sendCommand hq command timeout hl)
  rcases hanswer : d.chip.answer? command.code args with _ | payload
  · rw [hanswer] at hexec
    exact hexec
  · rw [hanswer] at hexec
    rw [show answered command (some payload) = stripCode command (command.responseCode :: payload) from
      (stripCode_reply command payload).symm]
    exact hexec

/-- To a chip that answers, every command that fits is executed. -/
theorem ends_execute_answering (hb : b.Answering) {d : Driver phase (Chip b)} (hq : d.chip.outgoing = []) (command : Command)
    {args : Bytes} (timeout : Duration) (hl : args.length < Frame.maxBody) :
    (execute command args timeout).Ends d (.ok (d.chip.payload command.code args)) (d.afterCommand command args) := by
  have hends := ends_execute hq command timeout hl
  rw [Chip.answer?_answering hb] at hends
  exact hends

/-- A waking command goes out, and its answer comes back; silence is a fault. -/
theorem ends_sendWaking {d : Driver phase (Chip b)} (hq : d.chip.outgoing = []) (command : Command) {args : Bytes}
    (timeout : Duration) (hl : args.length < Frame.maxBody) :
    (sendWaking command args timeout).Ends d
      (answered command ((d.chip.answer? command.code args).map fun payload => command.responseCode :: payload))
      (d.afterCommand command args) :=
  ends_sendWaking_exchange hl
    (Link.ends_exchange_obey timeout (l := d.link) (MemoryChannel.frameIn_withWakeUp_wire hl) hl hq)

end Driver

end NfcHost
