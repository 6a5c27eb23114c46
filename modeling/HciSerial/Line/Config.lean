import HciSerial.Text.Quoted

/-!
# Line configuration

The settings of a serial line, and the speed constants that a terminal knows.

## Main Definitions

* `FlowControl`, `LineConfig`: what a driver is configured with.
* `speedConstant?`: the terminal constant of a baud rate.
-/

namespace HciSerial

/-- Hardware flow control of a line. -/
inductive FlowControl where
  | none
  | rtsCts
deriving DecidableEq

namespace FlowControl

/-- Flow control from a switch. -/
def ofEnabled (enabled : Bool) : FlowControl :=
  if enabled then rtsCts else none

/-- Whether the line uses handshaking. -/
def isEnabled : FlowControl → Bool
  | none => false
  | rtsCts => true

/-- The name used in log records. -/
def name : FlowControl → String
  | none => "None"
  | rtsCts => "RtsCts"

end FlowControl

/-- The baud rate of a line that is told no other. -/
def defaultBaudrate : Nat := 115200

/-- The settings of a serial line, used when it is opened. -/
structure LineConfig where
  /-- The device, such as `/dev/ttyUSB0`; a line in memory needs none. -/
  device : Option String := none
  baudrate : Nat := defaultBaudrate
  flowControl : FlowControl := .none
deriving DecidableEq

/-- The terminal speed constant of a baud rate, `none` for a rate that has none. -/
def speedConstant? : Nat → Option Nat
  | 1200 => some 9
  | 2400 => some 11
  | 4800 => some 12
  | 9600 => some 13
  | 19200 => some 14
  | 38400 => some 15
  | 57600 => some 4097
  | 115200 => some 4098
  | 230400 => some 4099
  | 460800 => some 4100
  | 500000 => some 4101
  | 921600 => some 4103
  | 1000000 => some 4104
  | 1500000 => some 4106
  | 2000000 => some 4107
  | 3000000 => some 4109
  | 4000000 => some 4111
  | _ => none

end HciSerial
