import HciSerial.Host.TerminalSystem
import HciSerial.Log.Record

/-!
# Hosts

Everything that a command needs from the machine it runs on: terminal devices, files, a
clock, an output, a log, and the user's wish to stop.

## Main Definitions

* `Host`: the operations of a host.
* `clockLimit`: the end of the monotonic clock.
-/

namespace HciSerial

/-- What a command needs from the machine it runs on. -/
class Host (W : Type) extends TerminalSystem W where
  /-- The contents of a file. -/
  readFile : String → SystemCall W (List UInt8)
  /-- The monotonic clock, in nanoseconds. -/
  now : W → Nat × W
  /-- Writes text to the output. -/
  print : String → W → W
  /-- Writes a log record. -/
  report : Log.Record → W → W
  /-- Whether the user has asked to stop. -/
  interrupted : W → Bool × W

/-- The first instant that the clock cannot represent: its seconds have 63 bits. -/
def clockLimit : Nat := Nat.pow 2 63 * 1000000000

end HciSerial
