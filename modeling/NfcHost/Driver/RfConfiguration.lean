import NfcHost.Driver

/-!
# RF configuration

Items of the RF configuration are written one at a time. A caller may ask to leave out an item that is known to hold the
value already.
-/

namespace NfcHost.Driver

variable {phase : Phase} {σ : Type} [Channel σ]

/-- Writes an item with a given timeout, unless it may be left out and is known to hold the value. -/
def applyItem (item : RfItem) (value : Bytes) (useCache : Bool) (timeout : Duration) : Act (Driver phase σ) Unit := do
  let known ← Act.look fun d => d.rfItems.get? item
  if useCache ∧ known = some value then tell (.itemUnchanged item)
  else
    let _ ← execute .rfConfiguration (item.code :: value) timeout
    Act.change fun d => { d with rfItems := d.rfItems.insert item value }

/-- Writes an item, unless it may be left out and is known to hold the value. -/
def configure (item : RfItem) (value : Bytes) (useCache : Bool) : Act (Driver .ready σ) Unit := do
  applyItem item value useCache (← setting Settings.commandTimeout)

/-- The timeout of an activation that stands beside every retry timeout. -/
def activationTimeoutIndex : UInt8 := 0x0B

/-- Sets the retry timeout to the table's timeout for a span and answers its index. -/
def setRetryTimeout (timeout : Duration) (useCache : Bool) : Act (Driver .ready σ) UInt8 := do
  configure .variousTimings [0x00, activationTimeoutIndex, timeout.timeoutIndex] useCache
  return timeout.timeoutIndex

/-- Sets the retries of the activation commands; the highest number retries for ever. -/
def setActivationRetries (attributes selection passive : UInt8) (useCache : Bool) : Act (Driver .ready σ) Unit :=
  configure .maxRetries [attributes, selection, passive] useCache

/-- Sets the retries of a data exchange. -/
def setExchangeRetries (retries : UInt8) (useCache : Bool) : Act (Driver .ready σ) Unit :=
  configure .maxRtyCom [retries] useCache

/-- Switches the field and the automatic collision avoidance. -/
def setField (on avoidCollisions : Bool) (useCache : Bool) : Act (Driver .ready σ) Unit :=
  configure .rfField [(avoidCollisions.toUInt8 <<< 1) ||| on.toUInt8] useCache

/-- Switches the antenna off. -/
def antennaOff : Act (Driver .ready σ) Unit := do
  tell .antennaOff
  setField false true false

/-- Switches the antenna on. -/
def antennaOn : Act (Driver .ready σ) Unit := do
  tell .antennaOn
  setField true true false

end NfcHost.Driver
