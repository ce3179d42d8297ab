import NfcHost.Proofs.Chip
import NfcHost.Proofs.Truncation

/-!
# A chip whose answers break off

A chip as in `Chip`, behind a line that loses the end of some of its answers, or all of them (`LossyChip`): the command was
received and obeyed, but the host does not learn of it. Beside the chip stands what came of that, the registers and items of
which the last writing that was obeyed had its answer cut (`Doubts`). The main statement gives the end of an exchange: the
chip has obeyed, and a reply that is answered is the chip's.
-/

namespace NfcHost

variable {ι : Type}

/-- How many bytes are lost off the end of an answer, as a function of the chip before the command, the command's code and
its arguments. -/
abbrev Losses (ι : Type) := ι → Tables → UInt8 → Bytes → Nat

/-- The registers and items of which the last writing that was obeyed had its answer cut. -/
structure Doubts where
  /-- By address. -/
  registers : UInt16 → Bool := fun _ => false
  /-- By code. -/
  items : UInt8 → Bool := fun _ => false

namespace Doubts

/-- The doubts after a command that was obeyed, and whose answer was cut or not. -/
def after (doubts : Doubts) (code : UInt8) (args : Bytes) (cut : Bool) : Doubts :=
  if code = Command.writeRegister.code then
    { doubts with registers := fun a => if a ∈ Tables.named args then cut else doubts.registers a }
  else if code = Command.rfConfiguration.code then
    { doubts with items := fun i => if args.head? = some i then cut else doubts.items i }
  else doubts

/-- A harmless command raises no doubt and settles none. -/
theorem after_harmless (doubts : Doubts) {command : Command} (h : command.Harmless) (args : Bytes) (cut : Bool) :
    doubts.after command.code args cut = doubts := by
  cases command <;> first | rfl | exact absurd h (by decide)

/-- The register holds the value, or is in doubt. -/
def Allows (doubts : Doubts) (t : Tables) (r : Register) (v : UInt8) : Prop :=
  t.registers r.address = v ∨ doubts.registers r.address = true

/-- The item has the value, or is in doubt. -/
def AllowsItem (doubts : Doubts) (t : Tables) (i : RfItem) (v : Bytes) : Prop :=
  t.items i.code = v ∨ doubts.items i.code = true

section Allows

variable {doubts : Doubts} {t : Tables} {r : Register} {v : UInt8} {i item : RfItem} {value value' args : Bytes}

/-- A writing does not matter to registers that it does not name. -/
theorem Allows.write (h : doubts.Allows t r v) (hr : r.address ∉ Tables.named args) (cut : Bool) :
    (doubts.after Command.writeRegister.code args cut).Allows (t.write args) r v := by
  have hdoubt : (doubts.after Command.writeRegister.code args cut).registers r.address = doubts.registers r.address :=
    if_neg hr
  rw [Allows, Tables.registers_write_other t hr, hdoubt]
  exact h

/-- A writing whose answer is cut raises doubts about the registers that it names. -/
theorem allows_write_cut (t : Tables) (v : UInt8) (hr : r.address ∈ Tables.named args) :
    (doubts.after Command.writeRegister.code args true).Allows t r v := Or.inr (if_pos hr)

/-- Nor does a writing matter to items. -/
theorem AllowsItem.write (h : doubts.AllowsItem t i value) (args : Bytes) (cut : Bool) :
    (doubts.after Command.writeRegister.code args cut).AllowsItem (t.write args) i value := by
  rw [AllowsItem, Tables.items_write]
  exact h

/-- A configuration does not matter to registers. -/
theorem Allows.configure (h : doubts.Allows t r v) (args : Bytes) (cut : Bool) :
    (doubts.after Command.rfConfiguration.code args cut).Allows (t.configure args) r v := by
  cases args <;> exact h

/-- A configuration does not matter to other items. -/
theorem AllowsItem.configure (h : doubts.AllowsItem t i value) (hi : item ≠ i) (cut : Bool) :
    (doubts.after Command.rfConfiguration.code (item.code :: value') cut).AllowsItem (t.configure (item.code :: value'))
      i value := by
  have hcode : i.code ≠ item.code := fun hcode => hi (RfItem.code_inj.1 hcode).symm
  have hdoubt : (doubts.after Command.rfConfiguration.code (item.code :: value') cut).items i.code = doubts.items i.code :=
    if_neg fun hhead => hcode (Option.some.inj hhead).symm
  rw [AllowsItem, Tables.configure, Tables.items_setItem, if_neg hcode, hdoubt]
  exact h

/-- A configuration whose answer is cut raises a doubt about its item. -/
theorem allowsItem_configure_cut (t : Tables) (value value' : Bytes) :
    (doubts.after Command.rfConfiguration.code (i.code :: value') true).AllowsItem t i value := Or.inr (if_pos rfl)

end Allows

end Doubts

/-- A chip of some behaviour, behind a line that loses the end of some of its answers. -/
structure LossyChip (b : Behaviour ι) (losses : Losses ι) where
  /-- The chip, with what it has said and was not lost. -/
  chip : Chip b
  /-- What may differ from what the host knows. -/
  doubts : Doubts := {}

namespace LossyChip

variable {b : Behaviour ι} {losses : Losses ι}

/-! ## Obeying a command -/

/-- How many bytes of the answer to a command are lost. -/
def lost (c : LossyChip b losses) (code : UInt8) (args : Bytes) : Nat := losses c.chip.inner c.chip.tables code args

/-- The chip with other bytes on their way to the host. -/
def saying (c : LossyChip b losses) (bytes : Bytes) : LossyChip b losses :=
  { c with chip := { c.chip with outgoing := bytes } }

/-- The chip after a command, what it says left aside. -/
def obey (c : LossyChip b losses) (code : UInt8) (args : Bytes) : LossyChip b losses where
  chip := c.chip.obey code args
  doubts :=
    if (c.chip.answer? code args).isSome then c.doubts.after code args (decide (c.lost code args ≠ 0)) else c.doubts

/-- The chip after a command, with what comes of what it says. -/
def hear (c : LossyChip b losses) (code : UInt8) (args : Bytes) : LossyChip b losses :=
  (c.obey code args).saying
    ((c.chip.hear code args).outgoing.take ((c.chip.hear code args).outgoing.length - c.lost code args))

/-- The chip after a write of the host. -/
def receiveBytes (write : Bytes) (c : LossyChip b losses) : LossyChip b losses :=
  match MemoryChannel.frameIn write with
  | some ⟨marker, code :: args⟩ => if marker = Frame.hostMarker then c.hear code args else c
  | _ => c

instance : Channel (LossyChip b losses) where
  name _ := "lossy chip"
  send bytes := Act.change (receiveBytes bytes)
  receive len _ := fun c => ⟨.ok (c.chip.outgoing.take len), c.saying (c.chip.outgoing.drop len), []⟩
  resetInput := Act.change fun c => c.saying []

/-- An acknowledgement holds no command. -/
theorem receiveBytes_ack (c : LossyChip b losses) : c.receiveBytes Frame.ack = c := by
  rw [receiveBytes, MemoryChannel.frameIn_ack]

/-- The wake-up holds no command either. -/
theorem receiveBytes_wakeUp (c : LossyChip b losses) : c.receiveBytes (Link.withWakeUp Frame.ack) = c := by
  rw [receiveBytes, MemoryChannel.frameIn_withWakeUp_ack]

/-- A write with a command in it is heard. -/
theorem receiveBytes_command {write : Bytes} {code : UInt8} {args : Bytes}
    (h : MemoryChannel.frameIn write = some (Frame.command code args)) (c : LossyChip b losses) :
    c.receiveBytes write = c.hear code args := by
  rw [receiveBytes, h]
  exact if_pos rfl

instance : ByteStream (LossyChip b losses) where
  incoming c := c.chip.outgoing
  afterSend := receiveBytes
  afterReceive len _ c := c.saying (c.chip.outgoing.drop len)
  run_send _ _ := rfl
  run_receive _ _ _ := rfl
  incoming_afterReceive _ _ _ := rfl
  incoming_afterSend_ack c := by rw [receiveBytes_ack]

/-- Reading from the chip and acknowledging changes nothing but what is on its way. -/
theorem eq_saying_of_handled {c c' : LossyChip b losses} (h : Handled c c') : c' = c.saying c'.chip.outgoing := by
  induction h with
  | refl => rfl
  | receive len timeout _ ih =>
    rw [ih]
    rfl
  | ack _ ih =>
    rw [show ByteStream.afterSend Frame.ack _ = _ from receiveBytes_ack _]
    exact ih

/-- When everything on its way was read, the chip has obeyed. -/
theorem eq_obey_of_handled {c c' : LossyChip b losses} {write : Bytes} {code : UInt8} {args : Bytes}
    (hw : MemoryChannel.frameIn write = some (Frame.command code args)) (hq : c.chip.outgoing = [])
    (h : Handled (ByteStream.afterSend write c) c') (hread : ByteStream.incoming c' = []) : c' = c.obey code args := by
  have hsent : ByteStream.afterSend write c = c.hear code args := receiveBytes_command hw c
  have hread : c'.chip.outgoing = [] := hread
  have hquiet : (c.obey code args).chip.outgoing = [] := hq
  rw [eq_saying_of_handled h, hsent, hread, ← hquiet]
  rfl

/-- What an exchange that carries a command brings: no reply but the chip's, and that one if all of the answer comes. -/
structure Brings (c : LossyChip b losses) (code : UInt8) (args : Bytes) (r : Except Fault (Option Bytes)) : Prop where
  sound : ∀ reply, r = .ok (some reply) → ∃ payload, c.chip.answer? code args = some payload ∧ reply = (code + 1) :: payload
  whole : ∀ payload, c.chip.answer? code args = some payload → c.lost code args = 0 →
    r = .ok (some ((code + 1) :: payload))

/-! ## The tables and the doubts after a command -/

/-- What holds of the tables and the doubts holds after a command, if it holds once the command was received. -/
theorem obey_preserves {c : LossyChip b losses} {code : UInt8} {args : Bytes} {P : Tables → Doubts → Prop}
    (h : P c.chip.tables c.doubts)
    (hheard : ∀ payload, c.chip.answer? code args = some payload →
      P (c.chip.tablesAfter code args) (c.doubts.after code args (decide (c.lost code args ≠ 0)))) :
    P (c.obey code args).chip.tables (c.obey code args).doubts := by
  rcases hanswer : c.chip.answer? code args with _ | payload
  · have hdoubts : (c.obey code args).doubts = c.doubts := by
      rw [obey, hanswer]
      rfl
    rw [hdoubts, show (c.obey code args).chip.tables = c.chip.tables from Chip.tables_obey_unheard hanswer]
    exact h
  · have hdoubts : (c.obey code args).doubts = c.doubts.after code args (decide (c.lost code args ≠ 0)) := by
      rw [obey, hanswer]
      rfl
    rw [hdoubts, show (c.obey code args).chip.tables = c.chip.tablesAfter code args from Chip.tables_obey_heard hanswer]
    exact hheard payload hanswer

theorem obey_allows (c : LossyChip b losses) (code : UInt8) (args : Bytes) {r : Register} {v : UInt8}
    (h : c.doubts.Allows c.chip.tables r v)
    (hheard : ∀ payload, c.chip.answer? code args = some payload →
      (c.doubts.after code args (decide (c.lost code args ≠ 0))).Allows (c.chip.tablesAfter code args) r v) :
    (c.obey code args).doubts.Allows (c.obey code args).chip.tables r v :=
  obey_preserves (P := fun t doubts => doubts.Allows t r v) h hheard

theorem obey_allowsItem (c : LossyChip b losses) (code : UInt8) (args : Bytes) {i : RfItem} {v : Bytes}
    (h : c.doubts.AllowsItem c.chip.tables i v)
    (hheard : ∀ payload, c.chip.answer? code args = some payload →
      (c.doubts.after code args (decide (c.lost code args ≠ 0))).AllowsItem (c.chip.tablesAfter code args) i v) :
    (c.obey code args).doubts.AllowsItem (c.obey code args).chip.tables i v :=
  obey_preserves (P := fun t doubts => doubts.AllowsItem t i v) h hheard

/-- A harmless command changes nothing. -/
theorem obey_harmless {command : Command} (h : command.Harmless) (c : LossyChip b losses) (args : Bytes) :
    (c.obey command.code args).chip.tables = c.chip.tables ∧ (c.obey command.code args).doubts = c.doubts := by
  refine ⟨Chip.tables_obey_harmless h c.chip args, ?_⟩
  rw [obey, Doubts.after_harmless _ h, ite_self]

end LossyChip

/-! ## An exchange with a quiet chip -/

namespace Link

open ByteStream

variable {b : Behaviour ι} {losses : Losses ι}

/-- An exchange that carries a command to a chip with nothing left to say: the chip obeys, and what comes of its answer is
read. -/
theorem ends_exchange_lossy {write : Bytes} (timeout : Duration) {l : Link (LossyChip b losses)} {code : UInt8} {args : Bytes}
    (hw : MemoryChannel.frameIn write = some (Frame.command code args)) (hl : args.length < Frame.maxBody)
    (hq : l.channel.chip.outgoing = []) :
    ∃ r, (exchange write timeout).Ends l r { l with channel := l.channel.obey code args, stage := .idle } ∧
      l.channel.Brings code args r := by
  have hsent : afterSend write l.channel = l.channel.hear code args := LossyChip.receiveBytes_command hw l.channel
  have hin : incoming (afterSend write l.channel) = (l.channel.chip.hear code args).outgoing.take
      ((l.channel.chip.hear code args).outgoing.length - l.channel.lost code args) := by
    rw [hsent]
    rfl
  rcases hanswer : l.channel.chip.answer? code args with _ | payload
  · have hsilent : (l.channel.chip.hear code args).outgoing = [] := by
      simp only [Chip.hear, hanswer, hq]
    rw [hsilent, List.take_nil] at hin
    have hread : incoming (channelAfterAck write timeout l.channel) = [] := by
      rw [incoming_channelAfterAck, hin]
      rfl
    have hstate := LossyChip.eq_obey_of_handled hw hq ((Handled.refl _).receive Frame.ack.length timeout) hread
    refine ⟨.ok none, ?_, fun reply hr => absurd (Except.ok.inj hr).symm (Option.some_ne_none reply), fun payload hp =>
      absurd (hanswer.symm.trans hp).symm (Option.some_ne_none payload)⟩
    rw [← hstate]
    exact ends_exchange_silence write timeout hin
  · have hb : ((code + 1) :: payload).length ≤ Frame.maxBody := Chip.length_answer? hl hanswer
    have hsaid : (l.channel.chip.hear code args).outgoing = Frame.ack ++ (Frame.reply ((code + 1) :: payload)).wire := by
      simp only [Chip.hear, hanswer, hq, List.nil_append]
    rw [hsaid] at hin
    obtain ⟨r, s, hends, hhandled, hread, hsound⟩ := exchange_truncated write timeout l hb _ hin
    rw [LossyChip.eq_obey_of_handled hw hq hhandled hread] at hends
    refine ⟨r, hends, fun reply hr => ⟨payload, hanswer, hsound reply hr⟩, fun payload' hp hlost => ?_⟩
    obtain rfl : payload = payload' := Option.some.inj (hanswer.symm.trans hp)
    have hwhole : incoming (afterSend write l.channel) =
        Frame.ack ++ (Frame.reply ((code + 1) :: payload)).wire ++ [] := by
      rw [hin, hlost, Nat.sub_zero, List.take_length, List.append_nil]
    exact hends.1.symm.trans (ends_exchange_reply write timeout hb hwhole).1

end Link

end NfcHost
