import NfcHost.Driver.RegisterAccess
import NfcHost.Driver.RfConfiguration
import NfcHost.Radio.Preset
import NfcHost.Radio.RawSettings

/-!
# Raw exchanges

An exchange whose framing the host controls: the radio registers and the analog part are set up for it, and the data goes
out as it stands. A Type F frame carries its own length in front.
-/

namespace NfcHost.Driver

variable {σ : Type} [Channel σ]

/-- What goes out for some data: a Type F frame starts with its length, which counts itself. -/
def rawPayload : Modulation → Bytes → Bytes
  | .typeF, data => UInt8.ofNat (data.length + 1) :: data
  | .typeA, data | .typeB, data => data

/-- Sets up the radio for a raw exchange: the retry timeout, the four radio registers, and the analog part. -/
def setUpRadio (settings : RawSettings) (timeout : Duration) : Act (Driver .ready σ) Unit := do
  let _ ← setRetryTimeout timeout settings.useCache
  let values ← readRegisters RadioRegisters.order settings.useCache
  let registers ← RadioRegisters.ofValues values
  writeRegisters ((registers.apply settings).settings ++ settings.modulation.preset) settings.useCache

/-- Sets up the radio and sends data. A status other than zero, such as a timeout or a collision, answers nothing. -/
def exchangeRaw (data : Bytes) (settings : RawSettings) : Act (Driver .ready σ) (Option Bytes) := do
  let timeout := settings.timeout.getD (← setting Settings.rawTimeout)
  setUpRadio settings timeout
  let longest := Duration.max (← setting Settings.commandTimeout) timeout
  let reply ← execute .inCommunicateThru (rawPayload settings.modulation data) longest
  let (status, body) ← Bytes.splitStatus reply
  if status ≠ 0 then
    tell (.rawEnded status)
    return none
  else
    tell (.rawReceived body)
    return some body

end NfcHost.Driver
