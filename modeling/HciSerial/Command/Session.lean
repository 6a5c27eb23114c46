import HciSerial.Command.Failure
import HciSerial.Command.Invocation
import HciSerial.Host.Basic
import HciSerial.Line.Terminal
import HciSerial.Transport.Basic

/-!
# Sessions on a terminal line

A transport on a terminal line of a host, with the queue of the packets that it has
delivered.

## Main Definitions

* `Session`: transport and queue; the host is the system that the line runs on.
* `Session.start`: configures and opens a line.
* `Session.poll`, `Session.send`, `Session.close`: operations of the transport, whose log
  records go to the host and whose packets go to the queue.
-/

namespace HciSerial

/-- A transport on a terminal line of a host `W`, and the packets it has delivered. -/
structure Session (W : Type) where
  transport : Transport (TerminalLine W)
  queue : List Packet := []

namespace Session

variable {W : Type}

/-- A session that has done nothing yet. -/
def new (world : W) : Session W where
  transport := .new { system := world }

/-- The state of the host. -/
def world (session : Session W) : W :=
  session.transport.line.system

/-- Changes the state of the host. -/
def withWorld (session : Session W) (world : W) : Session W :=
  { session with
    transport := { session.transport with
      line := { session.transport.line with system := world } } }

variable [Host W]

/-- Prints text on the host. -/
def print (text : String) (session : Session W) : Session W :=
  session.withWorld (Host.print text session.world)

/-- Writes a log record on the host. -/
def report (session : Session W) (record : Log.Record) : Session W :=
  session.withWorld (Host.report record session.world)

/-- Reads the host's clock. -/
def now (session : Session W) : Nat × Session W :=
  let (instant, world) := Host.now session.world
  (instant, session.withWorld world)

/-- Asks the host whether the user wants to stop. -/
def interrupted (session : Session W) : Bool × Session W :=
  let (stop, world) := Host.interrupted session.world
  (stop, session.withWorld world)

/-- Goes on with what an operation of the transport left behind. -/
def absorb {α : Type} (session : Session W) (report : Transport.Report (TerminalLine W) α) :
    α × Session W :=
  let next : Session W :=
    { transport := report.state, queue := session.queue ++ report.packets }
  (report.value, report.records.foldl Session.report next)

/-- Takes every packet out of the queue. -/
def takeQueue (session : Session W) : List Packet × Session W :=
  (session.queue, { session with queue := [] })

/-- Processes at most one completion. -/
def poll (session : Session W) : Except TransportError Bool × Session W :=
  session.absorb session.transport.poll

/-- Hands a packet to the line. -/
def send (kind : PacketKind) (packet : OutgoingPacket) (session : Session W) :
    Except TransportError Unit × Session W :=
  session.absorb (session.transport.send kind packet)

/-- Closes the line. -/
def close (session : Session W) : Except TransportError Unit × Session W :=
  session.absorb session.transport.close

/-- Closes the line at the end of a command that had nothing else to report. -/
def finish (session : Session W) : Except CommandFailure Unit × W :=
  let (result, session) := session.close
  (result.mapError (.ofTransport "close failed"), session.world)

/-- Configures a transport with a queue as its handler. -/
def configure (setup : SerialSetup) (session : Session W) :
    Except TransportError Unit × Session W :=
  let (result, session) := session.absorb (session.transport.init (.serial setup))
  (result, { session with transport := session.transport.register .queue })

/-- Opens the line. -/
def openLine (session : Session W) : Except TransportError Unit × Session W :=
  session.absorb session.transport.openLine

/-- Configures and opens a line on a host. -/
def start (setup : SerialSetup) (world : W) : Except CommandFailure Unit × Session W :=
  match (new world).configure setup with
  | (.error error, session) => (.error (.ofTransport "init failed" error), session)
  | (.ok (), session) =>
    let (result, session) := session.openLine
    (result.mapError (.ofTransport "open failed"), session)

end Session

end HciSerial
