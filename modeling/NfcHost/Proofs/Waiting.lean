import NfcHost.Proofs.Calls
import NfcHost.Proofs.Provenance
import NfcHost.Proofs.TimeoutTable

/-!
# How long a raw exchange waits

The controller is told how long it may try, as an index of the table of timeouts; the host has a timeout of its own for every
read of the exchange. The two are computed apart from each other: the index is the first that covers the retry timeout, and
the host waits for the retry timeout or the timeout of general commands, whichever is longer. The statements read both off a
run over a tapped channel (`raw_exchange_waits`), whatever comes in and whichever calls fail. Where the table had to round up
the host can give up first, but not before half of the controller's time (`waits_out_controller_false`).
-/

namespace NfcHost

variable {σ : Type} [Channel σ]

namespace Driver

open Act

/-! ## Setting up the radio -/

/-- What setting up the radio completes, if it does: the timings are configured, the radio registers read, and registers
written. -/
theorem completes_setUpRadio {d : Driver .ready σ} {settings : RawSettings} {timeout : Duration}
    (hok : ((setUpRadio settings timeout).run d).result = .ok ()) :
    ∃ values pairs, Completes (setUpRadio settings timeout) d
      [.configuring .variousTimings [0x00, activationTimeoutIndex, timeout.timeoutIndex],
        .reading RadioRegisters.order values, .writing pairs] := by
  obtain ⟨index, hretry, hok⟩ := results_of_bind_ok hok
  obtain ⟨⟨⟩, hconfigure, -⟩ := results_of_bind_ok hretry
  obtain ⟨span, hspan, hitem⟩ := results_of_bind_ok hconfigure
  obtain ⟨values, hread, hok⟩ := results_of_bind_ok hok
  obtain ⟨registers, hregisters, hwrite⟩ := results_of_bind_ok hok
  have hset : Completes (setRetryTimeout timeout settings.useCache) d
      [.configuring .variousTimings [0x00, activationTimeoutIndex, timeout.timeoutIndex]] :=
    .bind (.bind (.setting _ d) hspan (.configuring hitem)) hconfigure (.done _ _)
  exact ⟨values, _, hset.bind hretry (.bind (.reading hread) hread (.bind (.lift _ _) hregisters (.writing hwrite)))⟩

/-- Afterwards the index is known that the controller was told, now or before. -/
theorem timings_setUpRadio {d d' : Driver .ready σ} {settings : RawSettings} {timeout : Duration}
    (h : (setUpRadio settings timeout).Ends d (.ok ()) d') :
    d'.rfItems.get? .variousTimings = some [0x00, activationTimeoutIndex, timeout.timeoutIndex] := by
  obtain ⟨hok, rfl⟩ := h
  obtain ⟨values, pairs, hcompletes⟩ := completes_setUpRadio hok
  rw [hcompletes.accounts.items]
  rfl

/-- Setting up the radio leaves the settings alone. -/
theorem settings_setUpRadio {d d' : Driver .ready σ} {settings : RawSettings} {timeout : Duration}
    {r : Except Fault Unit} (h : (setUpRadio settings timeout).Ends d r d') : d'.settings = d.settings := by
  have huncached : Uncached fun e : Driver .ready σ => e.settings = d.settings := ⟨fun _ _ h => h, fun _ _ h => h⟩
  have hkeeps := huncached.setUpRadio
    (fun _ _ _ _ => (Keeps.tell _ _).bind fun _ => (Keeps.lift _).bind fun _ => fun _ h => h) settings timeout
  rw [← h.2]
  exact hkeeps d rfl

end Driver

/-! ## Raw exchanges -/

open Driver in
/-- How long a raw exchange waits, over any channel. It ends where the radio cannot be set up. When the radio is set up, the
controller was told the index of the retry timeout, and the exchange makes the calls of one command, every read of which
waits for the retry timeout or the timeout of general commands, whichever is longer; data that does not fit makes none. So
the host waits for the retry timeout itself, and for what the index stands for exactly if one of the two covers that. It
always waits for more than half of it, unless it is the shortest there is. -/
theorem raw_exchange_waits (d : Driver .ready (Tapped σ)) (data : Bytes) (settings : RawSettings) :
    let timeout := settings.timeout.getD d.settings.rawTimeout
    let wait := Duration.max d.settings.commandTimeout timeout
    let allowed := Duration.table timeout.timeoutIndex.toNat
    (∀ fault d', (setUpRadio settings timeout).Ends d (.error fault) d' →
      (exchangeRaw data settings).Ends d (.error fault) d') ∧
    (∀ d', (setUpRadio settings timeout).Ends d (.ok ()) d' →
      d'.rfItems.get? .variousTimings = some [0x00, activationTimeoutIndex, timeout.timeoutIndex] ∧
      ∃ made, ((exchangeRaw data settings).run d).state.link.channel.calls = d'.link.channel.calls ++ made ∧
        (∀ len span failed, (.receive len span, failed) ∈ made → span = wait) ∧
        if (rawPayload settings.modulation data).length < Frame.maxBody then
          ExchangeCalls (Frame.command Command.inCommunicateThru.code (rawPayload settings.modulation data)).wire wait made
        else made = []) ∧
    timeout.nanos ≤ wait.nanos ∧
    (allowed.nanos ≤ wait.nanos ↔ allowed.nanos ≤ d.settings.commandTimeout.nanos ∨ allowed.nanos ≤ timeout.nanos) ∧
    (1 < timeout.timeoutIndex.toNat → allowed.nanos < 2 * wait.nanos) := by
  intro timeout wait allowed
  have hwait : wait.nanos = max d.settings.commandTimeout.nanos timeout.nanos := rfl
  have hlonger : timeout.nanos ≤ wait.nanos := by omega
  refine ⟨fun fault d' => ends_exchangeRaw_error data, fun d' hsetup => ?_, hlonger, by omega, fun hindex => ?_⟩
  · obtain ⟨made, hcalls, hmade⟩ := calls_execute d' .inCommunicateThru (rawPayload settings.modulation data) wait
    have hexec := Act.Ends.of_run (execute .inCommunicateThru (rawPayload settings.modulation data) wait) d'
    obtain ⟨r, -, hstate⟩ := ends_exchangeRaw_execute hsetup (by rw [settings_setUpRadio hsetup]; exact hexec)
    refine ⟨timings_setUpRadio hsetup, made, by rw [hstate]; exact hcalls, fun len span failed hmem => ?_, hmade⟩
    split at hmade
    · exact hmade.receive hmem
    · rw [hmade] at hmem
      nomatch hmem
  · exact Nat.lt_of_lt_of_le (Duration.table_lt_double hindex) (Nat.mul_le_mul_left 2 hlonger)

/-- Replies to a raw exchange: the timings, the reading, the writing, and the exchange itself, which brought nothing. -/
def Bench.rawReplies : List Bytes := [[0x33], [0x07, 0x80, 0x80, 0x83, 0x00], [0x09], [0x43, 0x00]]

open Driver in
/-- That the host waits for as long as the controller may try is false: for a second, the controller is allowed the fifteenth
entry of the table, 1.6384 seconds, and the host waits for the second. -/
theorem waits_out_controller_false :
    ¬∀ (d d' : Driver .ready (Tapped MemoryChannel)) (data : Bytes) (settings : RawSettings) (made : List (Call × Bool)),
      (settings.timeout.getD d.settings.rawTimeout).nanos ≤ (Duration.table Duration.maxTimeoutIndex).nanos →
      (setUpRadio settings (settings.timeout.getD d.settings.rawTimeout)).Ends d (.ok ()) d' →
      ((exchangeRaw data settings).run d).state.link.channel.calls = d'.link.channel.calls ++ made →
      ∀ len span failed, (.receive len span, failed) ∈ made →
        (Duration.table (settings.timeout.getD d.settings.rawTimeout).timeoutIndex.toNat).nanos ≤ span.nanos := by
  intro h
  have hcovered := h (Driver.over ⟨Bench.rawReplies.foldl (fun c reply => c.queueExchange reply) {}, "tap", [], []⟩).asReady
    _ [0x52] {} _ (by decide) ⟨rfl, rfl⟩ rfl
  -- the calls start with the write and the read of the acknowledgement
  exact absurd (hcovered 6 (.ofMillis 1000) false (.tail _ (.head _))) (by decide)

end NfcHost
