import HciSerial.Packet.Basic
import HciSerial.Framing.Error

/-!
# The grammar of a received stream

The stream that a controller sends, read directly: at a boundary stands a tag,
then the header of its kind, then the payload that the header declares.

## Main Definitions

* `Grammar.Item`: a packet, or the error that a rejected stretch of bytes causes.
* `Grammar.next?`: the first item of a stream and the bytes after it.
* `Grammar.parse`: all items of a stream, and the unfinished rest.

## Design Notes

This is a recursive reading of the whole stream at once.  It knows nothing of
blocks, buffers or positions, and is the standard that `Framer` is held to.  A
byte that is no receivable tag is rejected alone; asynchronous data that a packet
of `maxPacket` bytes cannot hold is rejected with its tag and header only.
-/

namespace HciSerial.Grammar

/-- What a completed or rejected stretch of the stream amounts to. -/
inductive Item where
  | packet (packet : Packet)
  | fault (error : FramingError)
deriving DecidableEq

/-- The first item of a stream and the bytes after it, `none` while it is unfinished. -/
def next? (maxPacket : Nat) : List UInt8 → Option (Item × List UInt8)
  | [] => none
  | tag :: rest =>
    match PacketKind.ofReceivableTag? tag with
    | none => some (.fault (.invalidKind tag), rest)
    | some kind =>
      match kind.payloadLength? rest with
      | none => none
      | some length =>
        let size := kind.headerSize + length
        if kind = .acl ∧ size > maxPacket then
          some (.fault (.aclTooLarge length (maxPacket - kind.headerSize)),
            rest.drop kind.headerSize)
        else if rest.length < size then none
        else some (.packet ⟨kind, rest.take size⟩, rest.drop size)

/-- An item takes at least one byte. -/
theorem length_lt_of_next? {maxPacket : Nat} {bytes rest : List UInt8} {item : Item}
    (found : next? maxPacket bytes = some (item, rest)) : rest.length < bytes.length := by
  cases bytes with
  | nil => simp [next?] at found
  | cons tag tail =>
    simp only [next?] at found
    split at found
    · simp only [Option.some.injEq, Prod.mk.injEq] at found
      obtain ⟨_, rfl⟩ := found
      simp
    · split at found
      · simp at found
      · split at found
        · simp only [Option.some.injEq, Prod.mk.injEq] at found
          obtain ⟨_, rfl⟩ := found
          simp only [List.length_drop, List.length_cons]
          omega
        · split at found
          · simp at found
          · simp only [Option.some.injEq, Prod.mk.injEq] at found
            obtain ⟨_, rfl⟩ := found
            simp only [List.length_drop, List.length_cons]
            omega

/-- All items of a stream in order, and the bytes of the unfinished one at its end. -/
def parse (maxPacket : Nat) (bytes : List UInt8) : List Item × List UInt8 :=
  match _found : next? maxPacket bytes with
  | none => ([], bytes)
  | some (item, rest) =>
    let (items, left) := parse maxPacket rest
    (item :: items, left)
termination_by bytes.length
decreasing_by exact length_lt_of_next? _found

end HciSerial.Grammar
