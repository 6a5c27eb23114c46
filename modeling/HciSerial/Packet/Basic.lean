/-!
# HCI packets on a serial link

Every packet on the link is a one-byte tag, a header whose size depends on the
tag, and a payload whose length the header declares.

## Main Definitions

* `PacketKind`: the four kinds, with their tags, header sizes and names.
* `PacketKind.payloadLength?`: the payload length that a header declares.
* `Packet`: a kind together with the bytes after the tag.

## Design Notes

Bytes are `List UInt8` throughout, and sizes are natural numbers.  A controller
never sends commands, so `PacketKind.receivable` excludes exactly that kind.
-/

namespace HciSerial

/-- The kinds of packet that a serial link carries. -/
inductive PacketKind where
  /-- Host to controller command. -/
  | command
  /-- Asynchronous connection-oriented data. -/
  | acl
  /-- Synchronous connection-oriented data. -/
  | sco
  /-- Controller to host event. -/
  | event
deriving DecidableEq

namespace PacketKind

/-- The tag byte in front of a packet of this kind. -/
def tag : PacketKind → UInt8
  | command => 1
  | acl => 2
  | sco => 3
  | event => 4

/-- The kind that a tag byte stands for. -/
def ofTag? : UInt8 → Option PacketKind
  | 1 => some command
  | 2 => some acl
  | 3 => some sco
  | 4 => some event
  | _ => none

/-- The number of header bytes that follow the tag. -/
def headerSize : PacketKind → Nat
  | command => 3
  | acl => 4
  | sco => 3
  | event => 2

/-- The payload length declared by a header, or `none` if the header is incomplete.

Commands, events and synchronous data declare one byte; asynchronous data
declares two, least significant first. -/
def payloadLength? : PacketKind → List UInt8 → Option Nat
  | command, _ :: _ :: len :: _ => some len.toNat
  | acl, _ :: _ :: low :: high :: _ => some (low.toNat + 256 * high.toNat)
  | sco, _ :: _ :: len :: _ => some len.toNat
  | event, _ :: len :: _ => some len.toNat
  | _, _ => none

/-- Whether a controller may send this kind to the host. -/
def receivable : PacketKind → Bool
  | command => false
  | _ => true

/-- The name used in reports and messages. -/
def name : PacketKind → String
  | command => "COMMAND"
  | acl => "ACL"
  | sco => "SCO"
  | event => "EVENT"

/-- The receivable kind that a tag byte stands for. -/
def ofReceivableTag? (byte : UInt8) : Option PacketKind :=
  (ofTag? byte).filter receivable

@[simp] theorem ofTag?_tag (kind : PacketKind) : ofTag? kind.tag = some kind := by
  cases kind <;> rfl

theorem tag_injective {left right : PacketKind} (same : left.tag = right.tag) :
    left = right := by
  simpa using congrArg ofTag? same

end PacketKind

/-- A complete packet: its kind and the header and payload bytes after the tag. -/
structure Packet where
  /-- The kind, known on the link by its tag. -/
  kind : PacketKind
  /-- Header and payload. -/
  data : List UInt8
deriving DecidableEq

namespace Packet

/-- The number of bytes the packet takes on the link, tag included. -/
def wireSize (packet : Packet) : Nat :=
  1 + packet.data.length

/-- The payload length declared by the packet's own header. -/
def declaredLength? (packet : Packet) : Option Nat :=
  packet.kind.payloadLength? packet.data

/-- The event code that reports a finished transmission. -/
def sentCode : UInt8 := 0x6E

/-- The event that the transport itself delivers when a packet has been sent. -/
def sentNotice : Packet := ⟨.event, [sentCode, 0]⟩

/-- Whether the packet is taken for the report of a finished transmission. -/
def isSentNotice (packet : Packet) : Bool :=
  packet.kind == .event && packet.data.head? == some sentCode

end Packet

end HciSerial
