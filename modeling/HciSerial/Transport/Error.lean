import HciSerial.Line.Error

/-!
# Transport errors

What can go wrong in a transport, with the wording of each error.
-/

namespace HciSerial

/-- Why an operation of a transport failed. -/
inductive TransportError where
  /-- The line reported an error. -/
  | line (error : LineError)
  /-- The configuration is not one of a serial line. -/
  | invalidConfig (text : String)
  /-- The transport has not been configured. -/
  | notInitialized
  /-- The transport is not open. -/
  | notOpen
  /-- A packet is still being sent. -/
  | writeInFlight
deriving DecidableEq

namespace TransportError

/-- The wording of an error. -/
def message : TransportError → String
  | line error => "driver error: " ++ error.message
  | invalidConfig text => "invalid transport config: " ++ text
  | notInitialized => "transport not initialized"
  | notOpen => "transport not open"
  | writeInFlight => "write already in flight"

/-- The record form of an error. -/
def inspect : TransportError → String
  | line error => "Driver(" ++ error.inspect ++ ")"
  | invalidConfig text => "InvalidConfig(" ++ Quoted.render text ++ ")"
  | notInitialized => "NotInitialized"
  | notOpen => "NotOpen"
  | writeInFlight => "WriteInFlight"

end TransportError

end HciSerial
