import HciSerial.Transport.Drain
import HciSerial.Transport.Mailbox

/-!
# Runs of a transport

Everything a host can do with a transport over a line that can be drained, as data,
together with what can be done to the line from outside.

## Main Definitions

* `Operation`: what a host does.
* `Answer`: the result of an operation.
* `Station`: a transport with the mailbox of its handlers.
* `Station.run`, `Station.runAll`: one operation, and operations in order.

## Design Notes

`complete` hands a completion to the transport that its line has not reported; every
other operation goes through the line.
-/

namespace HciSerial

/-- What a host does with a transport. -/
inductive Operation where
  | init (config : TransportConfig)
  | openLine
  | close
  | setBaudrate (rate : Nat)
  | register (handler : Handler)
  | send (kind : PacketKind) (packet : OutgoingPacket)
  | poll
  | drain
  | complete (completion : Completion)

/-- The result of an operation. -/
inductive Answer where
  /-- Nothing to report. -/
  | done
  /-- Whether a poll found a completion. -/
  | handled (found : Bool)
  /-- How many completions there were. -/
  | drained (count : Nat)
  /-- The operation failed. -/
  | failed (error : TransportError)
deriving DecidableEq

/-- A failure, or nothing to report. -/
def Answer.ofExcept : Except TransportError Unit → Answer
  | .ok () => done
  | .error error => failed error

namespace Transport

variable {L : Type} [FiniteLine L]

/-- Applies an operation. -/
def apply (transport : Transport L) : Operation → Report L Answer
  | .init config =>
    let report := transport.init config
    { report with value := .ofExcept report.value }
  | .openLine =>
    let report := transport.openLine
    { report with value := .ofExcept report.value }
  | .close =>
    let report := transport.close
    { report with value := .ofExcept report.value }
  | .setBaudrate rate =>
    let report := transport.setBaudrate rate
    { report with value := .ofExcept report.value }
  | .register handler => { state := transport.register handler, value := .done }
  | .send kind packet =>
    let report := transport.send kind packet
    { report with value := .ofExcept report.value }
  | .poll =>
    let report := transport.poll
    { report with
      value := match report.value with
        | .ok found => .handled found
        | .error error => .failed error }
  | .drain =>
    let report := transport.drain
    { report with
      value := match report.value with
        | .ok count => .drained count
        | .error error => .failed error }
  | .complete completion =>
    let report := transport.complete completion
    { report with value := .done }

end Transport

/-- A transport with the mailbox of its handlers. -/
structure Station (L : Type) where
  transport : Transport L
  mailbox : Mailbox := {}

namespace Station

variable {L : Type}

/-- Applies an operation and lets the handler collect what it delivers. -/
def run [FiniteLine L] (station : Station L) (operation : Operation) :
    Station L × Answer × List Transport.Event :=
  let report := station.transport.apply operation
  ({ transport := report.state
     mailbox := station.mailbox.collect station.transport.handler report.events },
    report.value, report.events)

/-- Applies operations in order, with the answer to each and all events. -/
def runAll [FiniteLine L] (station : Station L) :
    List Operation → Station L × List Answer × List Transport.Event
  | [] => (station, [], [])
  | operation :: rest =>
    let (next, answer, events) := station.run operation
    let (final, answers, more) := next.runAll rest
    (final, answer :: answers, events ++ more)

/-- Changes the line from outside. -/
def mapLine (change : L → L) (station : Station L) : Station L :=
  { station with transport := { station.transport with line := change station.transport.line } }

/-- Takes every queued packet. -/
def takeQueue (station : Station L) : List Packet × Station L :=
  (station.mailbox.queue, { station with mailbox := { station.mailbox with queue := [] } })

end Station

end HciSerial
