import NfcHost.Driver.BringUp
import NfcHost.Proofs.Calls
import NfcHost.Proofs.Chip
import NfcHost.Proofs.Operations
import NfcHost.Proofs.SideBySide

/-!
# A tap with nothing planned

A tap that no failure is planned for passes every call on, and changes nothing but its own record. So an exchange over a tapped
channel ends as it would over the channel behind the tap (`Link.Tapping.ends_exchange`), and what is known of a driver of a chip
that answers holds of one that drives the chip through a tap: every command that fits is executed.
-/

namespace NfcHost

/-- Without a plan a call is passed on. -/
theorem Tapped.run_pass {σ α : Type} (call : Call) (onward : Act σ α) {t : Tapped σ} (h : t.plans = []) :
    (pass call onward).run t = ⟨(onward.run t.inner).result,
      { t with inner := (onward.run t.inner).state, calls := t.calls ++ [(call, false)] }, (onward.run t.inner).log⟩ := by
  obtain ⟨inner, name, plans, calls⟩ := t
  obtain rfl : plans = [] := h
  rfl

namespace Link

open Act

variable {σ : Type}

/-! ## A link and a link with a tap -/

/-- The second link has what the first has, behind a tap with nothing planned. -/
structure Tapping (l : Link σ) (l' : Link (Tapped σ)) : Prop where
  inner : l'.channel.inner = l.channel
  plans : l'.channel.plans = []
  strictness : l.strictness = l'.strictness

/-- A call and the call passed on by the tap end alike. -/
theorem tapping_pass {α : Type} (call : Call) (onward : Act σ α) :
    Joined Tapping (fun _ => False) Eq (onChannel onward) (onChannel (Tapped.pass call onward)) := by
  intro l l' h
  have hpass := Tapped.run_pass call onward h.plans
  rw [h.inner] at hpass
  have hends : (onChannel (Tapped.pass call onward)).Ends l' (onward.run l.channel).result _ :=
    Ends.onPart ⟨congrArg Outcome.result hpass, congrArg Outcome.state hpass⟩
  exact Ends.alike (Ends.of_run (onChannel onward) l) hends ⟨rfl, h.plans, h.strictness⟩

variable [Channel σ]

/-- Both links go through an exchange side by side. -/
theorem tapping_abreast : Abreast (σ := σ) Tapping (fun _ => False) Eq :=
  abreast_of_strictness (fun _ _ h => h.strictness) (fun _ _ _ h => ⟨h.inner, h.plans, h.strictness⟩)
    (fun _ => tapping_pass _ _) fun _ _ => tapping_pass _ _

/-- An exchange through a tap ends as without it. -/
theorem Tapping.ends_exchange {l m : Link σ} {l' : Link (Tapped σ)} (h : Tapping l l') {frame : Bytes} {timeout : Duration}
    {r : Except Fault (Option Bytes)} (hends : (exchange frame timeout).Ends l r m) :
    ∃ m', (exchange frame timeout).Ends l' r m' ∧ Tapping m m' := by
  obtain ⟨hresult, htapping⟩ := (tapping_abreast.exchange frame timeout l l' h).same
  rw [hends.1] at hresult
  rw [hends.2] at htapping
  exact ⟨_, ⟨hresult.symm, rfl⟩, htapping⟩

end Link

/-! ## A chip behind a tap -/

variable {ι : Type} {b : Behaviour ι}

namespace Link

open Act

/-- Nothing is planned for the tap, and the chip behind it has nothing left to say. -/
structure Quiet (l : Link (Tapped (Chip b))) : Prop where
  plans : l.channel.plans = []
  outgoing : l.channel.inner.outgoing = []

/-- An exchange that carries a command is answered by a chip that answers. -/
theorem Quiet.ends_exchange (hb : b.Answering) {l : Link (Tapped (Chip b))} (h : l.Quiet) {write : Bytes}
    (command : Command) {args : Bytes} (timeout : Duration)
    (hw : MemoryChannel.frameIn write = some (Frame.command command.code args)) (hl : args.length < Frame.maxBody) :
    ∃ payload l', (exchange write timeout).Ends l (.ok (some (command.responseCode :: payload))) l' ∧ l'.Quiet := by
  have htapping : Tapping ⟨l.channel.inner, l.strictness, l.label, l.stage⟩ l := ⟨rfl, h.plans, rfl⟩
  have hobey := ends_exchange_obey timeout (l := ⟨l.channel.inner, l.strictness, l.label, l.stage⟩) hw hl h.outgoing
  rw [Chip.answer?_answering hb] at hobey
  obtain ⟨l', hends, htapping'⟩ := htapping.ends_exchange hobey
  exact ⟨_, l', hends, htapping'.plans, (congrArg Chip.outgoing htapping'.inner).trans h.outgoing⟩

/-- A call that leaves a quiet chip quiet does so through the tap. -/
theorem keeps_pass_quiet {α : Type} (call : Call) {onward : Act (Chip b) α} (h : onward.Keeps fun c => c.outgoing = []) :
    (onChannel (Tapped.pass call onward)).Keeps Quiet := by
  intro l hl
  have hpass := Tapped.run_pass call onward hl.plans
  refine ⟨?_, ?_⟩
  · exact (congrArg (fun o => o.state.plans) hpass).trans hl.plans
  · exact (congrArg (fun o => o.state.inner.outgoing) hpass).trans (h _ hl.outgoing)

theorem keeps_resetInput_quiet : (onChannel Channel.resetInput : Act (Link (Tapped (Chip b))) Unit).Keeps Quiet :=
  keeps_pass_quiet .resetInput fun _ _ => rfl

/-- To the wake-up the chip says nothing. -/
theorem keeps_wakeUp_quiet : (wakeUp : Act (Link (Tapped (Chip b))) Unit).Keeps Quiet := by
  have hsend : (Channel.send (withWakeUp Frame.ack) : Act (Chip b) Unit).Keeps fun c => c.outgoing = [] :=
    fun c hc => (congrArg Chip.outgoing (Chip.receiveBytes_wakeUp c)).trans hc
  exact (keeps_pass_quiet .flush (Keeps.done _)).bind fun _ => (keeps_pass_quiet (.send _) hsend).bind fun _ =>
    keeps_resetInput_quiet

end Link

namespace Driver

open Act

variable {phase : Phase} (hb : b.Answering)
include hb

/-- Through a tap with nothing planned, a command that fits is executed by a chip that answers. -/
theorem ends_execute_tapped {d : Driver phase (Tapped (Chip b))} (hd : d.link.Quiet) (command : Command) {args : Bytes}
    (timeout : Duration) (hl : args.length < Frame.maxBody) :
    ∃ payload l, (execute command args timeout).Ends d (.ok payload) { d with link := l } ∧ l.Quiet := by
  obtain ⟨payload, l, hends, hquiet⟩ := hd.ends_exchange hb command timeout (MemoryChannel.frameIn_wire hl) hl
  have hexec := ends_execute_sendCommand (ends_sendCommand_exchange hl hends)
  rw [show (.ok (some (command.responseCode :: payload)) >>= answered command >>= stripCode command : Except Fault Bytes) =
    .ok payload from stripCode_reply command payload] at hexec
  exact ⟨payload, l, hexec, hquiet⟩

theorem keeps_sendCommand_quiet (command : Command) (args : Bytes) (timeout : Duration) :
    (sendCommand command args timeout : Act (Driver phase (Tapped (Chip b))) _).Keeps fun d => d.link.Quiet := by
  refine keeps_sendCommand_of_exchange fun hl d hd => ?_
  obtain ⟨payload, l, hends, hquiet⟩ := hd.ends_exchange hb command timeout (MemoryChannel.frameIn_wire hl) hl
  exact ⟨_, l, hends, hquiet⟩

/-- A bring-up leaves a quiet chip quiet. -/
theorem quiet_bringUp {channel : Tapped (Chip b)} (hplans : channel.plans = []) (hquiet : channel.inner.outgoing = [])
    {settings : Settings} {d : Driver .ready (Tapped (Chip b))}
    (h : (Driver.over channel settings).bringUp.result = .ok d) : d.link.Quiet := by
  have huncached : Uncached fun d : Driver .asleep (Tapped (Chip b)) => d.link.Quiet := ⟨fun _ _ h => h, fun _ _ h => h⟩
  have hwaking (command : Command) (args : Bytes) (timeout : Duration) (hl : args.length < Frame.maxBody) :
      (sendWaking command args timeout : Act (Driver .asleep (Tapped (Chip b))) _).Keeps fun d => d.link.Quiet := by
    refine keeps_sendWaking_of_exchange hl fun d hd => ?_
    obtain ⟨payload, l, hends, hquiet⟩ := hd.ends_exchange hb command timeout (MemoryChannel.frameIn_withWakeUp_wire hl) hl
    exact ⟨_, l, hends, hquiet⟩
  have hsteps : (bringUpSteps : Act (Driver .asleep (Tapped (Chip b))) Unit).Keeps fun d => d.link.Quiet :=
    congr_bringUpSteps (keeps_congruence _) (fun d hd => Link.keeps_wakeUp_quiet d.link hd)
      (fun d hd => Link.keeps_resetInput_quiet d.link hd) (fun command args timeout _ hl => hwaking command args timeout hl)
      fun item value timeout => huncached.applyItem (keeps_sendCommand_quiet hb _) item value false timeout
  rw [eq_of_bringUp h]
  exact hsteps _ ⟨hplans, hquiet⟩

end Driver

end NfcHost
