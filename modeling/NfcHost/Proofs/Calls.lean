import NfcHost.Channel.Tapped
import NfcHost.Proofs.Access
import NfcHost.Proofs.LinkInvariant

/-!
# The calls of an exchange

What can be seen of an exchange on a tapped channel: its frame goes out first, and what follows are acknowledgements and reads
that wait for one timeout (`ExchangeCalls`), whatever comes in and whichever calls fail. So the calls of a command write one
frame, that of the command (`framesSent`).
-/

namespace NfcHost

/-- The call is one that an exchange makes behind its first write: an acknowledgement goes out, or bytes are awaited. -/
def Call.Follows (timeout : Duration) (call : Call) : Prop := call = .send Frame.ack ∨ ∃ len, call = .receive len timeout

/-- The calls of an exchange: the frame goes out, and what follows waits for one timeout. -/
def ExchangeCalls (frame : Bytes) (timeout : Duration) (made : List (Call × Bool)) : Prop :=
  ∃ failed rest, made = (.send frame, failed) :: rest ∧ ∀ entry ∈ rest, entry.1.Follows timeout

/-- Every read among the calls of an exchange waits for the one timeout. -/
theorem ExchangeCalls.receive {frame : Bytes} {timeout : Duration} {made : List (Call × Bool)}
    (h : ExchangeCalls frame timeout made) {len : Nat} {span : Duration} {failed : Bool}
    (hmem : (.receive len span, failed) ∈ made) : span = timeout := by
  obtain ⟨sent, rest, rfl, hrest⟩ := h
  obtain heq | hmem := List.mem_cons.1 hmem
  · nomatch heq
  · obtain hack | ⟨len', hreceive⟩ := hrest _ hmem
    · nomatch hack
    · exact (Call.receive.inj hreceive).2

/-! ## Frames among calls -/

/-- The frame that a call writes, if it writes one. -/
def Call.frame? : Call → Option Frame
  | .send bytes => MemoryChannel.frameIn bytes
  | _ => none

/-- The frames that calls write, oldest first, also where a call did not go through. An acknowledgement holds none. -/
def framesSent (made : List (Call × Bool)) : List Frame := made.filterMap fun entry => entry.1.frame?

theorem framesSent_append (first second : List (Call × Bool)) :
    framesSent (first ++ second) = framesSent first ++ framesSent second := List.filterMap_append

/-- The bytes that a call writes, if it writes any. -/
def Call.write? : Call → Option Bytes
  | .send bytes => some bytes
  | _ => none

/-- What calls write, oldest first, also where a call did not go through. -/
def writes (made : List (Call × Bool)) : List Bytes := made.filterMap fun entry => entry.1.write?

theorem writes_append (first second : List (Call × Bool)) : writes (first ++ second) = writes first ++ writes second :=
  List.filterMap_append

/-- The frames that calls write are those found in what they write. -/
theorem framesSent_eq_filterMap_writes (made : List (Call × Bool)) :
    framesSent made = (writes made).filterMap MemoryChannel.frameIn := by
  rw [framesSent, writes, List.filterMap_filterMap]
  refine congrArg (List.filterMap · made) (funext fun ⟨call, failed⟩ => ?_)
  cases call <;> rfl

/-- The code of the command that a call writes, if it writes one. -/
def Call.code? (call : Call) : Option UInt8 := call.frame?.bind fun frame => frame.body.head?

/-- The frames that carry a code are as many as the calls that write one. -/
theorem countP_framesSent (made : List (Call × Bool)) (code : UInt8) :
    (framesSent made).countP (fun frame => frame.body.head? == some code) =
      made.countP fun entry => entry.1.code? == some code := by
  rw [framesSent, List.countP_filterMap]
  refine congrArg (List.countP · made) (funext fun ⟨call, failed⟩ => ?_)
  cases h : call.frame? <;> simp [Call.code?, h]

/-- Behind the first write of an exchange no frame is written. -/
theorem Call.Follows.frame? {timeout : Duration} {call : Call} (h : call.Follows timeout) : call.frame? = none := by
  obtain rfl | ⟨len, rfl⟩ := h
  · exact MemoryChannel.frameIn_ack
  · rfl

/-- The calls of an exchange write one frame. -/
theorem ExchangeCalls.framesSent {frame : Frame} {timeout : Duration} {made : List (Call × Bool)}
    (h : ExchangeCalls frame.wire timeout made) (hfits : frame.body.length ≤ Frame.maxBody) : framesSent made = [frame] := by
  obtain ⟨failed, rest, rfl, hrest⟩ := h
  have hnone : NfcHost.framesSent rest = [] := List.filterMap_eq_nil_iff.2 fun entry hmem => (hrest entry hmem).frame?
  have hsent : (Call.send frame.wire).frame? = some frame := MemoryChannel.frameIn_wire hfits
  calc NfcHost.framesSent ((.send frame.wire, failed) :: rest)
      = frame :: NfcHost.framesSent rest := List.filterMap_cons_some hsent
    _ = [frame] := by rw [hnone]

/-! ## What an exchange calls -/

/-- A call is written down, whether it goes through or not. -/
theorem Tapped.calls_pass {σ α : Type} (call : Call) (onward : Act σ α) (t : Tapped σ) :
    ∃ failed, ((pass call onward).run t).state.calls = t.calls ++ [(call, failed)] := by
  unfold Act.run pass
  split
  · exact ⟨true, rfl⟩
  · exact ⟨false, rfl⟩

variable {σ : Type} [Channel σ]

namespace Link

/-- The calls of an exchange have been made behind others. -/
def Called (before : List (Call × Bool)) (frame : Bytes) (timeout : Duration) (l : Link (Tapped σ)) : Prop :=
  ∃ made, l.channel.calls = before ++ made ∧ ExchangeCalls frame timeout made

variable {before : List (Call × Bool)} {frame : Bytes} {timeout : Duration}

omit [Channel σ] in
/-- One more call of an exchange is a call of the exchange. -/
theorem keeps_called_pass {α : Type} {call : Call} (hcall : call.Follows timeout) (onward : Act σ α) :
    (onChannel (Tapped.pass call onward)).Keeps (Called before frame timeout) := by
  rintro l ⟨made, hcalls, sent, rest, rfl, hrest⟩
  obtain ⟨failed, hpass⟩ := Tapped.calls_pass call onward l.channel
  refine ⟨(.send frame, sent) :: (rest ++ [(call, failed)]), ?_, sent, _, rfl, fun entry hmem => ?_⟩
  · refine hpass.trans ?_
    rw [hcalls, List.append_assoc, List.cons_append]
  · obtain hmem | hmem := List.mem_append.1 hmem
    · exact hrest entry hmem
    · rw [List.mem_singleton.1 hmem]
      exact hcall

theorem outlasts_called : Outlasts (Called (σ := σ) before frame timeout) timeout where
  stage _ _ h := h
  receive len := keeps_called_pass (Or.inr ⟨len, rfl⟩) _
  ack := keeps_called_pass (Or.inl rfl) _

/-- An exchange makes the calls of an exchange, and no others. -/
theorem called_exchange (frame : Bytes) (timeout : Duration) (l : Link (Tapped σ)) :
    Called l.channel.calls frame timeout ((exchange frame timeout).run l).state := by
  refine outlasts_called.exchange ?_
  obtain ⟨failed, hsend⟩ := Tapped.calls_pass (.send frame) (Channel.send frame) l.channel
  exact ⟨_, hsend, failed, [], rfl, fun _ h => nomatch h⟩

end Link

namespace Driver

open Act

/-- A command that fits makes the calls of its exchange, and one that does not fit makes none. -/
theorem calls_execute {phase : Phase} (d : Driver phase (Tapped σ)) (command : Command) (args : Bytes) (timeout : Duration) :
    ∃ made, ((execute command args timeout).run d).state.link.channel.calls = d.link.channel.calls ++ made ∧
      if args.length < Frame.maxBody then ExchangeCalls (Frame.command command.code args).wire timeout made else made = [] := by
  rw [state_execute]
  split
  · exact Link.called_exchange (Frame.command command.code args).wire timeout d.link
  · exact ⟨[], (List.append_nil _).symm, rfl⟩

end Driver

end NfcHost
