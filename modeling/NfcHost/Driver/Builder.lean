import NfcHost.Driver

/-!
# Building a driver

A driver is put together from a channel and settings; without a channel there is no device.
-/

namespace NfcHost.Driver

variable {σ : Type} [Channel σ]

/-- The parts of a driver to be. -/
structure Builder (σ : Type) where
  /-- The channel, once there is one. -/
  channel : Option σ := none
  /-- The settings. -/
  settings : Settings := {}

namespace Builder

/-- Provides the channel. -/
def withChannel (b : Builder σ) (channel : σ) : Builder σ := { b with channel := some channel }

/-- Replaces all settings. -/
def withSettings (b : Builder σ) (settings : Settings) : Builder σ := { b with settings }

/-- Says how anomalies of the link are taken. -/
def withStrictness (b : Builder σ) (strictness : Strictness) : Builder σ :=
  { b with settings := { b.settings with strictness } }

/-- Sets the timeout of general commands. -/
def withCommandTimeout (b : Builder σ) (commandTimeout : Duration) : Builder σ :=
  { b with settings := { b.settings with commandTimeout } }

/-- Sets the timeout of exchanges with a card. -/
def withExchangeTimeout (b : Builder σ) (exchangeTimeout : Duration) : Builder σ :=
  { b with settings := { b.settings with exchangeTimeout } }

/-- Says whether bring-up sets the retries of the activation commands to zero. -/
def withDisableRetries (b : Builder σ) (disableRetries : Bool) : Builder σ :=
  { b with settings := { b.settings with disableRetries } }

/-- The driver, if there is a channel. -/
def build (b : Builder σ) : Except Fault (Driver .asleep σ) :=
  match b.channel with
  | some channel => .ok (Driver.over channel b.settings)
  | none => .error .deviceNotFound

end Builder

end NfcHost.Driver
