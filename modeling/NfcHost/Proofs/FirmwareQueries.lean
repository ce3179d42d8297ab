import NfcHost.Proofs.BringUpCourse

/-!
# The two firmware queries

A driver asks for the firmware in two ways: `verifyFirmware` only says whether the chip is the expected one, `firmware` reads
what it says about itself. Both make the same exchange and nothing else, so that they leave the same state over every channel,
one that writes down its calls included. They part only in how they read the reply: one wants it to be of an exact length and
says no to any other, the other wants the response code and ignores what stands behind the four bytes it reads. Where the first
says yes the second reads the expected chip, and the other way round for a reply of that length.
-/

namespace NfcHost

namespace Firmware

/-- What a firmware says about itself, as it stands behind the response code. -/
def bytes (f : Firmware) : Bytes := [f.ic, f.version, f.revision, f.support]

/-- The four bytes that are read may have others behind them. -/
theorem parse_append (f : Firmware) (rest : Bytes) : parse (f.bytes ++ rest) = .ok f := by
  have hslice : Bytes.slice (f.bytes ++ rest) 0 4 = .ok f.bytes := Bytes.slice_append [] f.bytes rest (by simp [bytes])
  rw [parse, hslice]
  rfl

/-- A payload that is too short to be read, or what it is read as with the rest. -/
theorem parse_cases (payload : Bytes) :
    parse payload = .error (.invalidLength 4 payload.length) ∨ ∃ f rest, payload = bytes f ++ rest := by
  match payload with
  | [] | [_] | [_, _] | [_, _, _] => exact Or.inl rfl
  | ic :: version :: revision :: support :: rest => exact Or.inr ⟨⟨ic, version, revision, support⟩, rest, rfl⟩

end Firmware

namespace Driver

/-- Two faults are the same whatever values there might have been in their place. -/
theorem error_eq_iff {α β : Type} {fault fault' : Fault} :
    (.error fault : Except Fault α) = .error fault' ↔ (.error fault : Except Fault β) = .error fault' := by
  simp only [Except.error.injEq]

section Readings

/-- What the first query makes of what came in. -/
def readVerdict (reply : Option Bytes) : Except Fault Bool := answered .getFirmwareVersion reply >>= Firmware.replyMatches

/-- What the second query makes of what came in. -/
def readFirmware (reply : Option Bytes) : Except Fault Firmware := executed .getFirmwareVersion reply >>= Firmware.parse

/-- The first reading says yes to the response code with what an expected firmware says behind it, and nothing more. -/
theorem readVerdict_eq_true_iff {reply : Option Bytes} :
    readVerdict reply = .ok true ↔
      ∃ f : Firmware, f.isExpected = true ∧ reply = some (Command.getFirmwareVersion.responseCode :: f.bytes) := by
  constructor
  · intro h
    rcases reply with _ | reply
    · nomatch h
    obtain ⟨verdict, hmatches, hverdict⟩ := replyMatches_eq reply
    obtain rfl : verdict = true := Except.ok.inj (hmatches.symm.trans h)
    obtain ⟨hlength, hcode, hchip⟩ := hverdict.1 rfl
    match reply, hlength with
    | [code, ic, version, revision, support], _ =>
      obtain rfl := Option.some.inj hcode
      obtain rfl := Option.some.inj hchip
      exact ⟨⟨0x32, version, revision, support⟩, rfl, rfl⟩
  · rintro ⟨f, hchip, rfl⟩
    exact congrArg Except.ok hchip

/-- The second reading takes the four bytes behind the response code, whatever stands behind those. -/
theorem readFirmware_eq_ok_iff {reply : Option Bytes} {f : Firmware} :
    readFirmware reply = .ok f ↔ ∃ rest, reply = some (Command.getFirmwareVersion.responseCode :: (f.bytes ++ rest)) := by
  constructor
  · intro h
    obtain ⟨payload, hexecuted, hparse⟩ := ok_of_bind h
    have hreply : (.ok reply : Reply) = .ok (some (Command.getFirmwareVersion.responseCode :: payload)) :=
      executed_eq_ok_iff.1 hexecuted
    rcases Firmware.parse_cases payload with hshort | ⟨g, rest, rfl⟩
    · rw [hshort] at hparse
      nomatch hparse
    · obtain rfl : g = f := Except.ok.inj ((Firmware.parse_append g rest).symm.trans hparse)
      exact ⟨rest, Except.ok.inj hreply⟩
  · rintro ⟨rest, rfl⟩
    have hexecuted : executed .getFirmwareVersion (some (Command.getFirmwareVersion.responseCode :: (f.bytes ++ rest))) =
        .ok (f.bytes ++ rest) := stripCode_reply .getFirmwareVersion (f.bytes ++ rest)
    rw [readFirmware, hexecuted]
    exact Firmware.parse_append f rest

/-- A reply that came in is no missing response to the first reading. -/
theorem readVerdict_some_ne (reply : Bytes) (code : UInt8) : readVerdict (some reply) ≠ .error (.noResponse code) := by
  intro h
  obtain ⟨verdict, hmatches, -⟩ := replyMatches_eq reply
  nomatch hmatches.symm.trans h

/-- A reply that came in is no missing response to the second reading. -/
theorem readFirmware_some_ne (reply : Bytes) (code : UInt8) : readFirmware (some reply) ≠ .error (.noResponse code) := by
  intro h
  rcases error_of_bind h with hexecuted | ⟨payload, -, hparse⟩
  · have hfault : (.ok (some reply) : Reply) >>= executed .getFirmwareVersion = .error (.noResponse code) := hexecuted
    rcases fault_executed hfault with h | ⟨h, -⟩ | ⟨-, h⟩ | ⟨_, _, -, -, h⟩ <;> nomatch h
  · rcases Firmware.parse_cases payload with hshort | ⟨f, rest, rfl⟩
    · nomatch hshort.symm.trans hparse
    · nomatch (Firmware.parse_append f rest).symm.trans hparse

/-- A missing response is one to both readings. -/
theorem noResponse_iff (reply : Option Bytes) (code : UInt8) :
    readVerdict reply = .error (.noResponse code) ↔ readFirmware reply = .error (.noResponse code) := by
  cases reply with
  | none => exact error_eq_iff
  | some reply => exact iff_of_false (readVerdict_some_ne reply code) (readFirmware_some_ne reply code)

end Readings

variable {phase : Phase} {σ : Type} [Channel σ]

/-- The exchange that both queries make: the query behind the zeros that wake the controller. -/
def firmwareExchange (d : Driver phase σ) : Outcome (Link σ) (Option Bytes) :=
  (Link.exchange (Link.withWakeUp (Frame.command Command.getFirmwareVersion.code []).wire) d.settings.commandTimeout).run d.link

theorem ends_verifyFirmware (d : Driver phase σ) :
    verifyFirmware.Ends d (d.firmwareExchange.result >>= readVerdict) { d with link := d.firmwareExchange.state } := by
  have hsend : (sendWaking .getFirmwareVersion [] d.settings.commandTimeout).Ends d
      (d.firmwareExchange.result >>= answered .getFirmwareVersion) { d with link := d.firmwareExchange.state } :=
    ends_sendWaking_exchange (by decide) (Act.Ends.of_run _ d.link)
  have hquery : queryFirmware.Ends d (d.firmwareExchange.result >>= answered .getFirmwareVersion)
      { d with link := d.firmwareExchange.state } := by
    refine (Act.Ends.tell _ _ d).bind ((Act.Ends.look _ d).bind ?_)
    cases hread : d.firmwareExchange.result >>= answered .getFirmwareVersion with
    | error fault => exact (hread ▸ hsend).bind_error
    | ok reply => exact (hread ▸ hsend).bind ((Act.Ends.tellIf _ _ _ _).bind (Act.Ends.done reply _))
  have hverify := hquery.bind_lift Firmware.replyMatches
  rwa [bind_assoc] at hverify

theorem ends_firmware (d : Driver phase σ) :
    firmware.Ends d (d.firmwareExchange.result >>= readFirmware) { d with link := d.firmwareExchange.state } := by
  have hexec : (executeWaking .getFirmwareVersion [] d.settings.commandTimeout).Ends d
      (d.firmwareExchange.result >>= executed .getFirmwareVersion) { d with link := d.firmwareExchange.state } :=
    ends_executeWaking_executed (by decide) (Act.Ends.of_run _ d.link)
  have hfirmware := hexec.bind_lift Firmware.parse
  rw [bind_assoc] at hfirmware
  exact (Act.Ends.look _ d).bind hfirmware

/-- The two firmware queries agree. From the same state both make one exchange, the same one, and change nothing else; one ends
without a response exactly if the other does. If the first says yes, the second reads the expected chip, and the reply is the
response code with the four bytes that it reads; if the second reads the expected chip in a reply of five bytes, the first
says yes. -/
theorem firmware_queries_agree (d : Driver phase σ) :
    (verifyFirmware.run d).state = { d with link := d.firmwareExchange.state } ∧
      (firmware.run d).state = { d with link := d.firmwareExchange.state } ∧
      (∀ code, (verifyFirmware.run d).result = .error (.noResponse code) ↔
        (firmware.run d).result = .error (.noResponse code)) ∧
      ((verifyFirmware.run d).result = .ok true →
        ∃ fw : Firmware, (firmware.run d).result = .ok fw ∧ fw.isExpected = true ∧
          d.firmwareExchange.result = .ok (some (Command.getFirmwareVersion.responseCode :: fw.bytes))) ∧
      ∀ (fw : Firmware) (reply : Bytes), d.firmwareExchange.result = .ok (some reply) → reply.length = 5 →
        (firmware.run d).result = .ok fw → fw.isExpected = true → (verifyFirmware.run d).result = .ok true := by
  refine ⟨(ends_verifyFirmware d).2, (ends_firmware d).2, ?_⟩
  rw [(ends_verifyFirmware d).1, (ends_firmware d).1]
  cases d.firmwareExchange.result with
  | error fault => exact ⟨fun _ => error_eq_iff, nofun, nofun⟩
  | ok reply =>
    refine ⟨noResponse_iff reply, ?_, ?_⟩
    · intro hverdict
      obtain ⟨fw, hchip, rfl⟩ := readVerdict_eq_true_iff.1 hverdict
      exact ⟨fw, readFirmware_eq_ok_iff.2 ⟨[], rfl⟩, hchip, rfl⟩
    · intro fw bytes hbytes hlength hread hchip
      obtain rfl := Except.ok.inj hbytes
      obtain ⟨rest, hreply⟩ := readFirmware_eq_ok_iff.1 hread
      obtain rfl : bytes = _ := Option.some.inj hreply
      obtain rfl : rest = [] := by simpa [Firmware.bytes] using hlength
      exact readVerdict_eq_true_iff.2 ⟨fw, hchip, rfl⟩

end Driver

end NfcHost
