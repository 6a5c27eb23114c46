import HciSerial.Line.Config

/-!
# Transport configuration

A transport is configured with a serial line or, where the hardware has one, with
a USB connection, which a serial transport cannot use.

## Main Definitions

* `SerialSetup`: the serial side, with the rate after controller setup.
* `TransportConfig`: either kind.
-/

namespace HciSerial

/-- The configuration of a transport over a serial line. -/
structure SerialSetup where
  /-- The baud rate used when the line is opened. -/
  initialBaudrate : Nat := defaultBaudrate
  /-- The baud rate to change to after controller setup, if any. -/
  mainBaudrate : Option Nat := none
  flowControl : FlowControl := .none
  device : Option String := none
deriving DecidableEq

namespace SerialSetup

/-- A device with the default rate and no flow control. -/
def ofDevice (device : String) : SerialSetup :=
  { device := some device }

/-- The configuration of the line itself. -/
def lineConfig (setup : SerialSetup) : LineConfig where
  device := setup.device
  baudrate := setup.initialBaudrate
  flowControl := setup.flowControl

end SerialSetup

/-- The configuration of a transport. -/
inductive TransportConfig where
  | serial (setup : SerialSetup)
  | usb
deriving DecidableEq

/-- The name of a kind of configuration in messages. -/
def TransportConfig.kindName : TransportConfig → String
  | serial _ => "uart"
  | usb => "usb"

end HciSerial
