import HciSerial.Command.Outcome
import HciSerial.Host.Basic
import HciSerial.Packet.Listing
import HciSerial.Transport.Operation

/-!
# Decoding captured bytes

A captured stream is replayed on a line in memory, and the packets that the transport
delivers are shown.

## Main Definitions

* `replay`: a stream replayed on a line in memory.
* `decodeStream`: the packets of a stream, and the number of bytes of the last,
  unfinished one.
* `decode`: the command.
-/

namespace HciSerial

/-- What a stream decodes to. -/
structure Decoded where
  packets : List Packet
  /-- The bytes of a packet that the stream does not finish. -/
  trailing : Nat
  records : List Log.Record

/-- What replaying a stream does: configure, listen, open, drain. -/
def replayOperations : List Operation :=
  [.init (.serial {}), .register .queue, .openLine, .drain]

/-- Replays a stream as if it had arrived on a line: the station, the answers, the events. -/
def replay (bytes : List UInt8) :
    Station MemoryLine × List Answer × List Transport.Event :=
  let start : Station MemoryLine := { transport := .new { incoming := bytes } }
  start.runAll replayOperations

/-- What a stream decodes to. -/
def decodeStream (bytes : List UInt8) : Decoded :=
  let (station, answers, events) := replay bytes
  let count := match answers.getLast? with
    | some (.drained count) => count
    | _ => 0
  let trailing :=
    station.transport.framer.position + station.transport.line.incoming.length
  let state := station.transport.framer.state.name
  { packets := station.mailbox.queue
    trailing
    records := events.filterMap Transport.Event.record? ++
      [⟨.debug, .decode, "decode drained", [("completions", .number count)]⟩] ++
      (if trailing > 0 then
        [⟨.warn, .decode, "incomplete packet at end of stream",
          [("trailing", .number trailing), ("state", .text state)]⟩]
      else []) }

/-- The verdict on a decoded stream. -/
def Decoded.outcome (decoded : Decoded) : Outcome :=
  if decoded.trailing > 0 then
    .failed ⟨.dataInvalid, s!"stream ends inside a packet ({decoded.trailing} trailing bytes)"⟩
  else .success

variable {W : Type} [Host W]

/-- The bytes to decode: a text has precedence over a file, and neither means none. -/
def decodeInput (hex file : Option String) : W → Except CommandFailure (List UInt8) × W :=
  fun world =>
    match hex, file with
    | some text, _ =>
      match Hex.parse text with
      | .ok bytes => (.ok bytes, world)
      | .error error => (.error ⟨.usage, error.message⟩, world)
    | none, some path =>
      match Host.readFile path world with
      | (.ok bytes, world) => (.ok bytes, world)
      | (.error error, world) => (.error (.ofIo ("failed reading " ++ path) error), world)
    | none, none => (.ok [], world)

/-- Shows the packets of a text or a file, then tells whether the stream was complete. -/
def decode (hex file : Option String) (format : ListingFormat) (world : W) : Outcome × W :=
  match decodeInput hex file world with
  | (.error failure, world) => (.failed failure, world)
  | (.ok bytes, world) =>
    let decoded := decodeStream bytes
    let world := decoded.records.foldl (fun world record => Host.report record world) world
    (decoded.outcome, Host.print (listing format decoded.packets) world)

end HciSerial
