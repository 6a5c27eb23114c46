import HciSerial.Text.Hex

/-!
# Framing errors

What can go wrong between bytes and packets, with the wording of each error.

## Main Definitions

* `FramingError`: an error that is handed to the caller.
* `ConstructionFault`: why there is no buffer, which may also be that the program has ended.
-/

namespace HciSerial

/-- Why bytes do not form a packet, or a buffer cannot hold one. -/
inductive FramingError where
  /-- The byte at a packet boundary is no receivable tag. -/
  | invalidKind (byte : UInt8)
  /-- A header declares more asynchronous data than the buffer can hold. -/
  | aclTooLarge (length room : Nat)
  /-- A block does not have the requested length. -/
  | unexpectedLength (expected actual : Nat)
  /-- A write would run past the end of the buffer. -/
  | overflow (offset length capacity : Nat)
  /-- The packet size cannot hold the largest event or synchronous packet. -/
  | bufferTooSmall (size least : Nat)
  /-- There is no room for the tag in front of the packet. -/
  | noPreBuffer
deriving DecidableEq

namespace FramingError

/-- The wording of an error. -/
def message : FramingError → String
  | invalidKind byte => "invalid packet type 0x" ++ Hex.render [byte]
  | aclTooLarge length room =>
    s!"invalid ACL payload len {length} - only space for {room}"
  | unexpectedLength expected actual =>
    s!"unexpected block length {actual} (requested {expected})"
  | overflow offset length capacity =>
    s!"buffer overflow: {length} bytes at offset {offset} exceed capacity {capacity}"
  | bufferTooSmall size least => s!"packet buffer too small ({size} bytes, min {least})"
  | noPreBuffer => "pre-buffer must be at least 1 byte"

end FramingError

/-- Why no buffer is made.  Sizes that are refused are an error like any other; the other two
faults are met while the storage is sized and allocated, and end the program. -/
inductive ConstructionFault where
  /-- The sizes are refused. -/
  | refused (error : FramingError)
  /-- The size of the storage is no machine word. -/
  | sumOverflow
  /-- The size of the storage is more than one allocation can have. -/
  | allocationOverflow
deriving DecidableEq

namespace ConstructionFault

/-- Whether a fault ends the program. -/
def endsProgram : ConstructionFault → Bool
  | refused _ => false
  | sumOverflow | allocationOverflow => true

/-- The wording of a fault. -/
def message : ConstructionFault → String
  | refused error => error.message
  | sumOverflow => "attempt to add with overflow"
  | allocationOverflow => "capacity overflow"

end ConstructionFault

end HciSerial
