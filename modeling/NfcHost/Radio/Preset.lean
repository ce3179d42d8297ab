import NfcHost.Register
import NfcHost.Radio

/-!
# Analog presets

The settings of the analog part that each modulation needs. They are written before every raw exchange.
-/

namespace NfcHost

open Register in
/-- The analog settings of a modulation, in the order they are written. -/
def Modulation.preset : Modulation → List Setting
  | .typeA =>
    [(control, 0x10), (txControl, 0x83), (rxThreshold, 0x85), (demod, 0x4D), (gsNOff, 0x6F), (txBitPhase, 0x87),
      (rfCfg, 0x59), (gsNOn, 0xF4), (cwGsP, 0x3F), (modGsP, 0x11)]
  | .typeB =>
    [(control, 0x10), (txControl, 0x83), (rxThreshold, 0x85), (demod, 0x4D), (gsNOff, 0x6F), (rfCfg, 0x59), (gsNOn, 0xFF),
      (cwGsP, 0x3F), (modGsP, 0x17)]
  | .typeF =>
    [(control, 0x10), (txControl, 0x83), (rxThreshold, 0x85), (demod, 0x41), (gsNOff, 0x6F), (txBitPhase, 0x8F),
      (rfCfg, 0x69), (gsNOn, 0xFF), (cwGsP, 0x3F), (modGsP, 0x11)]

end NfcHost
