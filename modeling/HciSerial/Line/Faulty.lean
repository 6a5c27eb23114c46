import HciSerial.Line.Memory

/-!
# A line in memory that can fail

A line in memory whose next closing or speed change can be made to fail and to do
nothing else.
-/

namespace HciSerial

/-- A line in memory with failures set up for closing and for changing the speed. -/
structure FaultyLine where
  line : MemoryLine := {}
  failNextClose : Option LineError := none
  failNextSpeed : Option LineError := none
deriving DecidableEq

namespace FaultyLine

/-- Carries an operation of the inner line over. -/
def lift {α : Type} (faulty : FaultyLine) (step : Step MemoryLine α) : Step FaultyLine α where
  state := { faulty with line := step.state }
  value := step.value
  records := step.records

/-- Closes the line unless a failure was set up. -/
def close (faulty : FaultyLine) : Step FaultyLine (Except LineError Unit) :=
  match faulty.failNextClose with
  | some error => { state := { faulty with failNextClose := none }, value := .error error }
  | none => faulty.lift faulty.line.close

/-- Changes the speed unless a failure was set up. -/
def setBaudrate (rate : Nat) (faulty : FaultyLine) : Step FaultyLine (Except LineError Unit) :=
  match faulty.failNextSpeed with
  | some error => { state := { faulty with failNextSpeed := none }, value := .error error }
  | none => faulty.lift (faulty.line.setBaudrate rate)

instance : SerialLine FaultyLine where
  init config faulty := { faulty with line := faulty.line.init config }
  openLine faulty := faulty.lift faulty.line.openLine
  close := close
  setBaudrate := setBaudrate
  receive length faulty := faulty.lift (faulty.line.receive length)
  send block faulty := faulty.lift (faulty.line.send block)
  poll faulty := faulty.lift faulty.line.poll

end FaultyLine

end HciSerial
