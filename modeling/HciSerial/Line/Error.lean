import HciSerial.Host.IoError

/-!
# Line errors

What can go wrong on a serial line, with the wording of each error.
-/

namespace HciSerial

/-- Why an operation on a serial line failed. -/
inductive LineError where
  /-- The device could not be opened. -/
  | openFailed (device : String) (cause : IoError)
  /-- The configuration names no device. -/
  | missingDevice
  /-- The line is not open. -/
  | notOpen
  /-- The line cannot run at this rate. -/
  | unsupportedBaudrate (rate : Nat)
  /-- An operation on the open device failed. -/
  | io (cause : IoError)
  /-- The far end went away. -/
  | closed
deriving DecidableEq

namespace LineError

/-- The wording of an error. -/
def message : LineError → String
  | openFailed device cause => "failed to open " ++ device ++ ": " ++ cause.message
  | missingDevice => "no serial device configured"
  | notOpen => "serial device is not open"
  | unsupportedBaudrate rate => s!"unsupported baud rate {rate}"
  | io cause => "serial I/O error: " ++ cause.message
  | closed => "serial line closed"

/-- The failure of the host behind an error, if there is one. -/
def cause? : LineError → Option IoError
  | openFailed _ cause => some cause
  | io cause => some cause
  | _ => none

/-- The system error number behind an error, or -1. -/
def code (error : LineError) : Int :=
  match error.cause?.bind IoError.number? with
  | some number => number
  | none => -1

/-- The record form of an error. -/
def inspect : LineError → String
  | openFailed device cause =>
    "Open \x7b device: " ++ Quoted.render device ++ ", source: " ++ cause.inspect ++ " \x7d"
  | missingDevice => "MissingDevice"
  | notOpen => "NotOpen"
  | unsupportedBaudrate rate => s!"UnsupportedBaudrate({rate})"
  | io cause => "Io(" ++ cause.inspect ++ ")"
  | closed => "Closed"

end LineError

end HciSerial
