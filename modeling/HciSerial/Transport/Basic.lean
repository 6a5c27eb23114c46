import HciSerial.Framing.Framer
import HciSerial.Line.Basic
import HciSerial.Packet.Outgoing
import HciSerial.Transport.Config
import HciSerial.Transport.Error

/-!
# The transport

A transport joins a serial line and a framer.  Blocks that the line has received
become packets for the registered handler, and outgoing packets get their tag and
go out one at a time.

## Main Definitions

* `Transport`: line, framer, send gate and lifecycle flags.
* `Transport.Event`: what an operation reports besides its result.
* `Transport.init`, `openLine`, `close`, `setBaudrate`, `register`, `send`: what a
  host does.
* `Transport.poll`, `Transport.drainWithin`: how completions are processed.

## Design Notes

The handler cannot act on the transport, so the packets given to it are part of the
answer of an operation.  A `framed` packet comes from the line; `confirmed` stands
for the notice that a packet has been sent.  The send gate is closed
(`sendActive`) from an accepted packet until its completion, an error of a poll, a
closing or an opening.
-/

namespace HciSerial

/-- Where the packets of a transport go. -/
inductive Handler where
  /-- Packets are dropped. -/
  | ignore
  /-- Packets are queued. -/
  | queue
  /-- Packets and their bytes are counted. -/
  | count
deriving DecidableEq

/-- A transport over a serial line `L`. -/
structure Transport (L : Type) where
  line : L
  framer : Framer
  /-- The configuration of the line by the last successful `init`. -/
  config : Option LineConfig := none
  mainBaudrate : Option Nat := none
  handler : Handler := .ignore
  /-- Whether a packet is being sent, which closes the gate for others. -/
  sendActive : Bool := false
  isOpen : Bool := false

namespace Transport

/-- What an operation reports besides its result, in order. -/
inductive Event where
  /-- A packet from the line was given to the handler. -/
  | framed (packet : Packet)
  /-- The notice that a packet has been sent was given to the handler. -/
  | confirmed
  /-- Something was logged. -/
  | logged (record : Log.Record)
deriving DecidableEq

/-- The packet that an event gives to the handler. -/
def Event.packet? : Event → Option Packet
  | framed packet => some packet
  | confirmed => some Packet.sentNotice
  | logged _ => none

/-- The log record of an event. -/
def Event.record? : Event → Option Log.Record
  | logged record => some record
  | _ => none

/-- What an operation leaves behind. -/
structure Report (L α : Type) where
  state : Transport L
  value : α
  events : List Event := []

namespace Report

variable {L α : Type}

/-- The packets given to the handler, in order. -/
def packets (report : Report L α) : List Packet :=
  report.events.filterMap Event.packet?

/-- What was logged, in order. -/
def records (report : Report L α) : List Log.Record :=
  report.events.filterMap Event.record?

end Report

/-- A log record of the transport, as an event. -/
def entry (level : Log.Level) (message : String)
    (fields : List (String × Log.Value) := []) : Event :=
  .logged ⟨level, .transport, message, fields⟩

/-- What is logged when the framer gives up a packet. -/
def faultMessage : String := "h4 framing error, waiting for next packet type"

/-- The log record of a framing error. -/
def faultRecord (error : FramingError) : Log.Record :=
  ⟨.error, .transport, faultMessage, [("err", .text error.message)]⟩

variable {L : Type}

/-- A closed, unconfigured transport that receives into `buffer`. -/
def new (line : L) (buffer : ReceiveBuffer := .default) : Transport L where
  line := line
  framer := Framer.new buffer

/-- Whether a packet may be sent now, whatever its kind. -/
def canSend (transport : Transport L) (_kind : PacketKind) : Bool :=
  !transport.sendActive

/-- Replaces the handler. -/
def register (handler : Handler) (transport : Transport L) : Transport L :=
  { transport with handler }

/-- The diagnostic text of a transport. -/
def inspect (transport : Transport L) : String :=
  "H4Transport \x7b open: " ++ toString transport.isOpen ++
    ", write_active: " ++ toString transport.sendActive ++
    ", state: " ++ transport.framer.state.name ++ " \x7d"

variable [SerialLine L]

/-- Asks the line for the block that the framer wants next. -/
def requestNext (transport : Transport L) : Report L Unit :=
  let step := SerialLine.receive transport.framer.wanted transport.line
  { state := { transport with line := step.state }
    value := ()
    events := step.records.map .logged }

/-- Configures the line; any configuration but a serial one is refused. -/
def init (config : TransportConfig) (transport : Transport L) :
    Report L (Except TransportError Unit) :=
  match config with
  | .usb => {
      state := transport
      value := .error (.invalidConfig ("expected uart config, got " ++ config.kindName))
      events := [entry .error "h4 transport: config is not a UART config"
        [("kind", .string config.kindName)]] }
  | .serial setup =>
    let lineConfig := setup.lineConfig
    { state := { transport with
        line := SerialLine.init lineConfig transport.line
        config := some lineConfig
        mainBaudrate := setup.mainBaudrate }
      value := .ok ()
      events := [entry .debug "h4 transport initialized" [
        ("device", .text (Quoted.renderOption lineConfig.device)),
        ("baudrate", .number lineConfig.baudrate),
        ("flow_control", .text lineConfig.flowControl.name)]] }

/-- Opens the line and starts to read the first packet.

An error of the line leaves the receive state and the gate as they were. -/
def openLine (transport : Transport L) : Report L (Except TransportError Unit) :=
  if transport.config.isNone then
    { state := transport
      value := .error .notInitialized
      events := [entry .error "h4 transport: open before init"] }
  else
    let step := SerialLine.openLine transport.line
    match step.value with
    | .error error =>
      { state := { transport with line := step.state }
        value := .error (.line error)
        events := step.records.map .logged }
    | .ok () =>
      let started := requestNext { transport with
        line := step.state
        framer := transport.framer.reset
        sendActive := false
        isOpen := true }
      { state := started.state
        value := .ok ()
        events := step.records.map .logged ++ entry .info "h4 transport open" :: started.events }

/-- Closes the line.  The transport counts as closed even if the line reports an error. -/
def close (transport : Transport L) : Report L (Except TransportError Unit) :=
  let step := SerialLine.close transport.line
  { state := { transport with line := step.state, sendActive := false, isOpen := false }
    value := step.value.mapError .line
    events := step.records.map .logged ++ [entry .info "h4 transport closed"] }

/-- Hands a packet to the line; a closed transport refuses it first, then a closed gate. -/
def send (kind : PacketKind) (packet : OutgoingPacket) (transport : Transport L) :
    Report L (Except TransportError Unit) :=
  if !transport.isOpen then { state := transport, value := .error .notOpen }
  else if transport.sendActive then
    { state := transport
      value := .error .writeInFlight
      events := [entry .warn "send while previous packet still in flight"
        [("packet_type", .text kind.name)]] }
  else
    let wire := packet.wire kind
    let step := SerialLine.send wire transport.line
    { state := { transport with line := step.state, sendActive := true }
      value := .ok ()
      events := entry .debug "sending packet"
        [("packet_type", .text kind.name), ("len", .number wire.length)] ::
          step.records.map .logged }

/-- Changes the speed of the line. -/
def setBaudrate (rate : Nat) (transport : Transport L) : Report L (Except TransportError Unit) :=
  let step := SerialLine.setBaudrate rate transport.line
  { state := { transport with line := step.state }
    value := step.value.mapError .line
    events := entry .info "h4 transport set baud rate" [("baudrate", .number rate)] ::
      step.records.map .logged }

/-- Takes a received block: the framer sees it, and the next block is asked for.

A framing error is logged and not returned. -/
def blockReceived (block : List UInt8) (transport : Transport L) : Report L Unit :=
  let (verdict, framer) := transport.framer.receive block
  let events := match verdict with
    | .error error => [.logged (faultRecord error)]
    | .ok none => []
    | .ok (some packet) => [.framed packet]
  let next := requestNext { transport with framer }
  { next with events := (Framer.records verdict).map .logged ++ events ++ next.events }

/-- Takes the completion of a send: the gate opens and the handler is told. -/
def blockSent (transport : Transport L) : Report L Unit where
  state := { transport with sendActive := false }
  value := ()
  events := [.confirmed]

/-- Takes a completion of the line. -/
def complete : Completion → Transport L → Report L Unit
  | .received block, transport => transport.blockReceived block
  | .sent, transport => transport.blockSent

/-- Processes at most one completion and tells whether there was one.

An error of the line ends a send in flight: the gate opens without a notice. -/
def poll (transport : Transport L) : Report L (Except TransportError Bool) :=
  let step := SerialLine.poll transport.line
  let polled := { transport with line := step.state }
  let logs := step.records.map Event.logged
  match step.value with
  | .error error =>
    let dropped :=
      if transport.sendActive then
        [entry .warn "driver error, dropping packet in flight" [("err", .text error.message)]]
      else []
    { state := { polled with sendActive := false }
      value := .error (.line error)
      events := logs ++ dropped }
  | .ok none => { state := polled, value := .ok false, events := logs }
  | .ok (some completion) =>
    let done := polled.complete completion
    { state := done.state, value := .ok true, events := logs ++ done.events }

/-- Polls until nothing is ready, at most `fuel` times; `done` completions came before.

The value is `none` if the last of these polls still had a completion. -/
def drainWithin : Nat → Nat → Transport L → Report L (Option (Except TransportError Nat))
  | 0, _, transport => { state := transport, value := none }
  | fuel + 1, done, transport =>
    let step := transport.poll
    match step.value with
    | .error error => { step with value := some (.error error) }
    | .ok false => { step with value := some (.ok done) }
    | .ok true =>
      let rest := drainWithin fuel (done + 1) step.state
      { rest with events := step.events ++ rest.events }

end Transport

end HciSerial
