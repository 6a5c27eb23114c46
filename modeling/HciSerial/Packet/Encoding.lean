import HciSerial.Packet.Basic
import HciSerial.Framing.Error

/-!
# Encoding packets for the link

A packet is written as its tag followed by its header and payload.  The header
must be complete and must declare exactly the payload that follows it.

## Main Definitions

* `Packet.encode`: the bytes of one packet.
* `Packet.appendTo`: one packet written after the bytes already in a buffer.
* `Packet.appendAll`: packets written one after the other, with each verdict.
-/

namespace HciSerial.Packet

/-- Checks that the header is complete and agrees with the payload.

An incomplete header is answered with the header size as the expected length,
a disagreeing one with the length that header and declaration add up to. -/
def check (packet : Packet) : Except FramingError Unit :=
  match packet.declaredLength? with
  | none => .error (.unexpectedLength packet.kind.headerSize packet.data.length)
  | some declared =>
    if packet.kind.headerSize + declared = packet.data.length then .ok ()
    else .error (.unexpectedLength (packet.kind.headerSize + declared) packet.data.length)

/-- The bytes of a packet on the link. -/
def encode (packet : Packet) : Except FramingError (List UInt8) :=
  match packet.check with
  | .ok () => .ok (packet.kind.tag :: packet.data)
  | .error e => .error e

/-- Writes a packet after `wire`; a refused packet leaves `wire` as it is. -/
def appendTo (wire : List UInt8) (packet : Packet) : Except FramingError Unit × List UInt8 :=
  match packet.encode with
  | .ok bytes => (.ok (), wire ++ bytes)
  | .error e => (.error e, wire)

/-- Writes packets in order, with the verdict on each and the length after it. -/
def appendAll (wire : List UInt8) :
    List Packet → List (Except FramingError Unit × Nat) × List UInt8
  | [] => ([], wire)
  | packet :: rest =>
    let (verdict, written) := appendTo wire packet
    let (verdicts, final) := appendAll written rest
    ((verdict, written.length) :: verdicts, final)

end HciSerial.Packet
