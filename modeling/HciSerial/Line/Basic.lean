import HciSerial.Line.Config
import HciSerial.Line.Error
import HciSerial.Log.Record

/-!
# Serial lines

What a transport needs from a serial line: requests to receive and to send a block
of bytes, and a way to ask which of them has completed.

## Main Definitions

* `Completion`: a finished request.
* `Step`: the state, the value and the log records that an operation leaves.
* `SerialLine`: the operations of a line.

## Design Notes

A line is a pure state machine.  Whatever it talks to is part of its state, so a
line in memory and a terminal under an operating system have the same interface.
Requests return at once; `poll` reports at most one completion.
-/

namespace HciSerial

/-- A request that a line has finished. -/
inductive Completion where
  /-- The requested block has been received. -/
  | received (block : List UInt8)
  /-- The block to be sent has been written. -/
  | sent
deriving DecidableEq

/-- What an operation leaves behind. -/
structure Step (σ α : Type) where
  state : σ
  value : α
  records : List Log.Record := []

/-- The operations of a serial line `L`. -/
class SerialLine (L : Type) where
  /-- Stores the configuration for the next opening. -/
  init : LineConfig → L → L
  /-- Opens the line. -/
  openLine : L → Step L (Except LineError Unit)
  /-- Closes the line and drops its pending requests. -/
  close : L → Step L (Except LineError Unit)
  /-- Changes the speed. -/
  setBaudrate : Nat → L → Step L (Except LineError Unit)
  /-- Asks for a block of the given length; may be zero. -/
  receive : Nat → L → Step L Unit
  /-- Hands over a block to be sent. -/
  send : List UInt8 → L → Step L Unit
  /-- Reports at most one completion. -/
  poll : L → Step L (Except LineError (Option Completion))

end HciSerial
