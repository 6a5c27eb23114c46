import HciSerial.Framing.ReceiveBuffer
import HciSerial.Log.Record
import HciSerial.Packet.Basic
import HciSerial.Packet.Block

/-!
# The framer

The framer recovers packet boundaries from a byte stream without delimiters.  It
always asks for exactly the bytes that tell how many come next (the tag, then
the header, then the declared payload), so it never reads past a packet and holds
at most one.

## Main Definitions

* `FrameState`: what the framer is waiting for.
* `Framer.nextRead`: position and number of the bytes it wants.
* `Framer.receive`: takes one block and gives the packet that it completes.
* `Framer.records`: what is logged with it.
* `Framer.feed`: serves the framer from a byte list for as long as it lasts.

## Design Notes

A block of any length may be handed in; a wrong length is an error.  Every error
sends the framer back to the tag, but bytes that were already copied stay in the
buffer.
-/

namespace HciSerial

/-- What the framer is waiting for. -/
inductive FrameState where
  | awaitingKind
  | awaitingEventHeader
  | awaitingAclHeader
  | awaitingScoHeader
  | awaitingPayload
deriving DecidableEq

/-- The name used in log records. -/
def FrameState.name : FrameState → String
  | awaitingKind => "AwaitingType"
  | awaitingEventHeader => "AwaitingEventHeader"
  | awaitingAclHeader => "AwaitingAclHeader"
  | awaitingScoHeader => "AwaitingScoHeader"
  | awaitingPayload => "AwaitingPayload"

/-- What the framer waits for after the tag of a kind. -/
def FrameState.header : PacketKind → FrameState
  | .acl => awaitingAclHeader
  | .sco => awaitingScoHeader
  | _ => awaitingEventHeader

/-- A packet assembler. -/
structure Framer where
  buffer : ReceiveBuffer
  state : FrameState
  /-- Where the next block goes in the logical view. -/
  position : Nat
  /-- How many bytes the next block must have; may be zero. -/
  wanted : Nat
deriving DecidableEq

namespace Framer

/-- A framer at a packet boundary that receives into `buffer`. -/
def new (buffer : ReceiveBuffer) : Framer where
  buffer := buffer
  state := .awaitingKind
  position := 0
  wanted := 1

/-- Back to the packet boundary; the bytes in the buffer stay. -/
def reset (framer : Framer) : Framer :=
  new framer.buffer

/-- Position and length of the block that the framer wants next. -/
def nextRead (framer : Framer) : Nat × Nat :=
  (framer.position, framer.wanted)

/-- The verdict on one block: an error, or the packet that it completed, if any. -/
abbrev Verdict := Except FramingError (Option Packet)

/-- What the framer logs with a verdict: only a completed packet. -/
def records : Verdict → List Log.Record
  | .ok (some packet) => [⟨.trace, .framer, "packet complete",
      [("packet_type", .text packet.kind.name), ("len", .number packet.data.length)]⟩]
  | _ => []

/-- Goes on to the payload, of which `length` bytes are wanted. -/
def awaitPayload (framer : Framer) (length : Nat) : Framer :=
  { framer with state := .awaitingPayload, wanted := length }

/-- Looks at the buffer after a block of the right length has been copied.

The tag decides the header, the header decides the payload, and the payload
completes the packet. -/
def advance (framer : Framer) : Verdict × Framer :=
  match framer.state with
  | .awaitingKind =>
    match PacketKind.ofReceivableTag? (framer.buffer.byteAt 0) with
    | none => (.error (.invalidKind (framer.buffer.byteAt 0)), framer.reset)
    | some kind => (.ok none, { framer with state := .header kind, wanted := kind.headerSize })
  | .awaitingEventHeader =>
    (.ok none, framer.awaitPayload (framer.buffer.byteAt 2).toNat)
  | .awaitingAclHeader =>
    let length := (framer.buffer.byteAt 3).toNat + 256 * (framer.buffer.byteAt 4).toNat
    if PacketKind.acl.headerSize + length > framer.buffer.maxPacket then
      (.error (.aclTooLarge length (framer.buffer.maxPacket - PacketKind.acl.headerSize)),
        framer.reset)
    else (.ok none, framer.awaitPayload length)
  | .awaitingScoHeader =>
    (.ok none, framer.awaitPayload (framer.buffer.byteAt 3).toNat)
  | .awaitingPayload =>
    match PacketKind.ofTag? (framer.buffer.byteAt 0) with
    | none => (.error (.invalidKind (framer.buffer.byteAt 0)), framer.reset)
    | some kind =>
      let data := (framer.buffer.logical.drop 1).take (framer.position - 1)
      (.ok (some ⟨kind, data⟩), framer.reset)

/-- Takes one block.

A wrong length is refused first, then a block that does not fit the buffer; any
error leads back to the packet boundary. -/
def receive (framer : Framer) (block : List UInt8) : Verdict × Framer :=
  if block.length ≠ framer.wanted then
    (.error (.unexpectedLength framer.wanted block.length), framer.reset)
  else
    match framer.buffer.write framer.position block with
    | .error e => (.error e, framer.reset)
    | .ok buffer =>
      advance { framer with buffer, position := framer.position + framer.wanted }

/-- Serves the framer from `bytes`, block by block, until fewer remain than it wants.

The verdicts come in order, with the bytes that are left.  A block that leaves
nothing to wait for is served as an empty one; `fuel` bounds the number of blocks. -/
def feedWithin : Nat → Framer → List UInt8 → List Verdict × Framer × List UInt8
  | 0, framer, bytes => ([], framer, bytes)
  | fuel + 1, framer, bytes =>
    match splitBlock? framer.wanted bytes with
    | none => ([], framer, bytes)
    | some (block, rest) =>
      let (verdict, next) := framer.receive block
      let (verdicts, final, left) := feedWithin fuel next rest
      (verdict :: verdicts, final, left)

/-- Serves the framer from `bytes` for as long as they last.

An empty block is always followed by a non-empty one, so twice the number of
bytes and one block more are enough. -/
def feed (framer : Framer) (bytes : List UInt8) : List Verdict × Framer × List UInt8 :=
  feedWithin (2 * bytes.length + 2) framer bytes

end Framer

end HciSerial
