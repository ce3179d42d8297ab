import NfcHost.Duration

/-!
# Settings

The timeouts and the link behaviour of one driver, and the parameters of a serial line.
-/

namespace NfcHost

/-- How the link takes anomalies that the controller is known to produce on noisy lines. -/
inductive Strictness where
  /-- Record an anomaly and go on. -/
  | tolerant
  /-- Make every anomaly a fault. -/
  | strict
  deriving DecidableEq

namespace Strictness

/-- Both ways. -/
def all : List Strictness := [tolerant, strict]

/-- The name of a way. -/
def name : Strictness → String
  | tolerant => "tolerant"
  | strict => "strict"

end Strictness

/-- The timeout of general commands unless set otherwise. -/
def defaultCommandTimeout : Duration := .ofMillis 500

/-- The timeout of exchanges with a card unless set otherwise. -/
def defaultExchangeTimeout : Duration := .ofMillis 5000

/-- The settings of one driver. -/
structure Settings where
  /-- The timeout of general commands. -/
  commandTimeout : Duration := defaultCommandTimeout
  /-- The timeout of exchanges with a card. -/
  exchangeTimeout : Duration := defaultExchangeTimeout
  /-- The timeout of the configuration commands during bring-up. -/
  setupTimeout : Duration := .ofMillis 1000
  /-- The radio timeout of raw exchanges that do not set their own. -/
  rawTimeout : Duration := .ofMillis 1000
  /-- How anomalies of the link are taken. -/
  strictness : Strictness := .tolerant
  /-- Set the retries of the activation commands to zero during bring-up. -/
  disableRetries : Bool := true
  deriving DecidableEq

/-- The parameters of a serial line. -/
structure LineSettings where
  /-- Where the line is; the first one available without a path. -/
  path : Option String := none
  /-- The bit rate of the line. -/
  baudRate : Nat := 115200
  /-- The timeout of a read. -/
  readTimeout : Duration := defaultCommandTimeout
  deriving DecidableEq

end NfcHost
