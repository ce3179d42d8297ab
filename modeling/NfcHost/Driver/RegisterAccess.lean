import NfcHost.Driver

/-!
# Reading and writing registers

A caller may ask to be served from what is known: a reading needs no command if every value is known, and a writing sends
only the pairs that differ from what is known, or nothing if none does.
-/

namespace NfcHost.Driver

variable {σ : Type} [Channel σ]

/-- Enters the values of a reading, telling of each. -/
def noteReadings : List Setting → Act (Driver .ready σ) Unit
  | [] => pure ()
  | (register, value) :: rest => do
    tell (.registerRead register value)
    Act.change fun d => { d with registers := d.registers.insert register value }
    noteReadings rest

/-- Reads registers from the chip, in order. -/
def fetchRegisters (registers : List Register) : Act (Driver .ready σ) Bytes := do
  let reply ← execute .readRegister (registers.flatMap Register.addressBytes) (← setting Settings.commandTimeout)
  let values ← Bytes.slice reply 0 registers.length
  noteReadings (registers.zip values)
  return values

/-- Reads registers, in order. -/
def readRegisters (registers : List Register) (useCache : Bool) : Act (Driver .ready σ) Bytes := do
  let known ← Act.look fun d => if useCache then d.registers.getAll? registers else none
  match known with
  | some values =>
    tell .readFromCache
    return values
  | none => fetchRegisters registers

/-- Tells of each pair that is to be written. -/
def tellWrites : List Setting → Act (Driver .ready σ) Unit
  | [] => pure ()
  | (register, value) :: rest => do
    tell (.registerWrite register value)
    tellWrites rest

/-- A pair as it stands in arguments: the address, high byte first, and the value. -/
def settingBytes (s : Setting) : Bytes := s.1.addressBytes ++ [s.2]

/-- Writes pairs of a register and a value, in order. Afterwards every pair of the input is known. -/
def writeRegisters (values : List Setting) (useCache : Bool) : Act (Driver .ready σ) Unit := do
  let pending ← Act.look fun d => if useCache then d.registers.changed values else values
  if pending.isEmpty then tell .writeLeftOut
  else
    tellWrites pending
    let _ ← execute .writeRegister (pending.flatMap settingBytes) (← setting Settings.commandTimeout)
    Act.change fun d => { d with registers := d.registers.insertAll values }

end NfcHost.Driver
