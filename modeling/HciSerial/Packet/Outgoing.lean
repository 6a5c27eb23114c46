import HciSerial.Packet.Basic
import HciSerial.Framing.Error

/-!
# Outgoing packets

A packet under construction keeps at least one free byte in front of its payload,
so that the tag can be written in place when the packet is handed to the line.

## Main Definitions

* `OutgoingPacket`: storage with headroom.
* `OutgoingPacket.ofPayload`, `OutgoingPacket.command`: packets with contents.
* `OutgoingPacket.wire`: tag and payload.

## Main Results

* `OutgoingPacket.wire_eq`: writing the tag in place puts it in front of the payload.

## Design Notes

That the headroom is positive and lies inside the storage is part of the type.  Memory is taken
to suffice for a packet, whatever its headroom is.
-/

namespace HciSerial

/-- A payload with free bytes in front of it. -/
structure OutgoingPacket where
  /-- Headroom and payload. -/
  storage : List UInt8
  /-- The number of free bytes in front of the payload. -/
  headroom : Nat
  headroom_pos : 0 < headroom
  headroom_le : headroom ≤ storage.length

namespace OutgoingPacket

/-- The bytes after the headroom. -/
def payload (packet : OutgoingPacket) : List UInt8 :=
  packet.storage.drop packet.headroom

/-- A payload behind `headroom` free bytes. -/
def build (headroom : Nat) (headroom_pos : 0 < headroom) (payload : List UInt8) :
    OutgoingPacket where
  storage := List.replicate headroom 0 ++ payload
  headroom := headroom
  headroom_pos := headroom_pos
  headroom_le := by simp

/-- An empty packet with room for the tag. -/
def empty : OutgoingPacket :=
  build 1 Nat.one_pos []

/-- An empty packet with the given headroom, which must not be zero. -/
def withHeadroom (headroom : Nat) : Except FramingError OutgoingPacket :=
  if positive : 0 < headroom then .ok (build headroom positive [])
  else .error .noPreBuffer

/-- A packet that holds header and payload bytes. -/
def ofPayload (payload : List UInt8) : OutgoingPacket :=
  build 1 Nat.one_pos payload

/-- A command: operation code with its low byte first, parameter count, parameters. -/
def command (opcode : UInt16) (parameters : List UInt8) : Except FramingError OutgoingPacket :=
  if parameters.length > 255 then
    .error (.overflow PacketKind.command.headerSize parameters.length 255)
  else
    .ok (ofPayload (
      UInt8.ofNat (opcode.toNat % 256) :: UInt8.ofNat (opcode.toNat / 256) ::
        UInt8.ofNat parameters.length :: parameters))

/-- Appends payload bytes. -/
def extend (packet : OutgoingPacket) (bytes : List UInt8) : OutgoingPacket where
  storage := packet.storage ++ bytes
  headroom := packet.headroom
  headroom_pos := packet.headroom_pos
  headroom_le := by
    have := packet.headroom_le
    simp only [List.length_append]
    omega

/-- Changes one payload byte, `none` outside the payload. -/
def set? (packet : OutgoingPacket) (position : Nat) (value : UInt8) : Option OutgoingPacket :=
  if position < packet.payload.length then
    some {
      storage := packet.storage.set (packet.headroom + position) value
      headroom := packet.headroom
      headroom_pos := packet.headroom_pos
      headroom_le := by simpa using packet.headroom_le }
  else none

/-- Writes the tag into the byte in front of the payload and gives both. -/
def wire (packet : OutgoingPacket) (kind : PacketKind) : List UInt8 :=
  (packet.storage.set (packet.headroom - 1) kind.tag).drop (packet.headroom - 1)

/-- What goes to the line is the tag followed by the payload. -/
theorem wire_eq (packet : OutgoingPacket) (kind : PacketKind) :
    packet.wire kind = kind.tag :: packet.payload := by
  have positive := packet.headroom_pos
  have before : packet.headroom - 1 < packet.headroom := Nat.sub_one_lt (Nat.ne_of_gt positive)
  have inside : packet.headroom - 1 <
      (packet.storage.set (packet.headroom - 1) kind.tag).length := by
    rw [List.length_set]
    exact Nat.lt_of_lt_of_le before packet.headroom_le
  rw [wire, List.drop_eq_getElem_cons inside, List.getElem_set_self, Nat.sub_add_cancel positive,
    List.drop_set_of_lt before, payload]

end OutgoingPacket

end HciSerial
