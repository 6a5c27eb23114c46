import HciSerial.Framing.Error

/-!
# The receive buffer

A fixed region of memory in which one packet is assembled.  A few bytes are
reserved in front (the pre-buffer); the *logical view* begins after them, with
the tag at position 0.

## Main Definitions

* `ReceiveBuffer.new`: a zeroed buffer for a pre-buffer size and a packet size.
* `ReceiveBuffer.logical`: the bytes after the pre-buffer.
* `ReceiveBuffer.write`: copies a block into the logical view.
* `ReceiveBuffer.set?`: changes one byte of the logical view.

## Design Notes

Sizes are machine words of 64 bits, and no sum of them wraps around.  The constructor
refuses sizes only for their lower bounds; if the size of the storage is no word, or more
than one allocation can have, the program ends.  Within that limit memory is taken to
suffice.  `write` adds offset and length with a check, so an offset near the end of the
word range is refused like any other that lies outside.
-/

namespace HciSerial

/-- The number of values of a machine word. -/
def wordCount : Nat := Nat.pow 2 64

/-- The number of bytes that no allocation reaches: sizes of objects are signed words. -/
def allocationLimit : Nat := Nat.pow 2 63

/-- The smallest packet size that holds every event and synchronous packet. -/
def minPacketSize : Nat := 258

/-- The pre-buffer size used unless another is asked for: room for the tag. -/
def defaultPreBuffer : Nat := 1

/-- The packet size used unless another is asked for: an asynchronous header and
1021 bytes. -/
def defaultPacketSize : Nat := 1025

/-- A fixed region in which a packet is assembled. -/
structure ReceiveBuffer where
  /-- The whole region, pre-buffer included. -/
  storage : List UInt8
  /-- The number of bytes in front of the logical view. -/
  preBuffer : Nat
  /-- The largest number of header and payload bytes. -/
  maxPacket : Nat
deriving DecidableEq

namespace ReceiveBuffer

/-- A zeroed buffer.

A missing pre-buffer is refused first, then a packet size that cannot hold the
largest event.  After that the size of the storage is computed, then allocated. -/
def new (preBuffer maxPacket : UInt64) : Except ConstructionFault ReceiveBuffer :=
  if preBuffer = 0 then .error (.refused .noPreBuffer)
  else if maxPacket.toNat < minPacketSize then
    .error (.refused (.bufferTooSmall maxPacket.toNat minPacketSize))
  else
    let size := preBuffer.toNat + 1 + maxPacket.toNat
    if wordCount ≤ size then .error .sumOverflow
    else if allocationLimit ≤ size then .error .allocationOverflow
    else .ok {
      storage := List.replicate size 0
      preBuffer := preBuffer.toNat
      maxPacket := maxPacket.toNat }

/-- The buffer used unless another is asked for. -/
def default : ReceiveBuffer where
  storage := List.replicate (defaultPreBuffer + 1 + defaultPacketSize) 0
  preBuffer := defaultPreBuffer
  maxPacket := defaultPacketSize

/-- The length of the logical view: tag and packet. -/
def capacity (buffer : ReceiveBuffer) : Nat :=
  1 + buffer.maxPacket

/-- The bytes after the pre-buffer. -/
def logical (buffer : ReceiveBuffer) : List UInt8 :=
  buffer.storage.drop buffer.preBuffer

/-- The byte at a position of the logical view. -/
def byteAt (buffer : ReceiveBuffer) (position : Nat) : UInt8 :=
  buffer.logical.getD position 0

/-- The bytes of the logical view from `offset` on, `none` where it has too few. -/
def read? (buffer : ReceiveBuffer) (offset length : Nat) : Option (List UInt8) :=
  if offset + length ≤ buffer.logical.length then
    some ((buffer.logical.drop offset).take length)
  else none

/-- Where a block of `length` bytes at `offset` ends, if that is a word. -/
def blockEnd? (offset length : Nat) : Option Nat :=
  if offset + length < wordCount then some (offset + length) else none

/-- Copies a block into the logical view at `offset`.

A block that would end past the capacity changes nothing. -/
def write (buffer : ReceiveBuffer) (offset : Nat) (block : List UInt8) :
    Except FramingError ReceiveBuffer :=
  match (blockEnd? offset block.length).filter (· ≤ buffer.capacity) with
  | none => .error (.overflow offset block.length buffer.capacity)
  | some _ =>
    let start := buffer.preBuffer + offset
    .ok { buffer with
      storage := buffer.storage.take start ++ block ++
        buffer.storage.drop (start + block.length) }

/-- Changes one byte of the logical view, `none` outside it. -/
def set? (buffer : ReceiveBuffer) (position : Nat) (value : UInt8) : Option ReceiveBuffer :=
  if position < buffer.logical.length then
    some { buffer with storage := buffer.storage.set (buffer.preBuffer + position) value }
  else none

end ReceiveBuffer

end HciSerial
