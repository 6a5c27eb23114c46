import HciSerial.Line.Faulty
import HciSerial.Transport.Basic

/-!
# Draining a line in memory

A line in memory holds finitely many bytes, so polling it comes to an end.  Every
completion takes a byte, reports a send, or fills an empty block, and an empty block
is followed by one of a byte.

## Main Definitions

* `FiniteLine`: lines with a bound on the polls that find something.
* `Transport.drain`: polls until nothing is ready.
-/

namespace HciSerial

/-- A line that can serve only so many polls without new input. -/
class FiniteLine (L : Type) extends SerialLine L where
  /-- More polls than the line has completions for. -/
  pollBound : L → Nat

instance : FiniteLine MemoryLine where
  pollBound line := 2 * line.incoming.length + 3

instance : FiniteLine FaultyLine where
  pollBound faulty := 2 * faulty.line.incoming.length + 3

namespace Transport

variable {L : Type} [FiniteLine L]

/-- Processes completions until none is ready and tells how many there were. -/
def drain (transport : Transport L) : Report L (Except TransportError Nat) :=
  let bound := FiniteLine.pollBound transport.line
  let report := transport.drainWithin bound 0
  { report with value := report.value.getD (.ok bound) }

end Transport

end HciSerial
