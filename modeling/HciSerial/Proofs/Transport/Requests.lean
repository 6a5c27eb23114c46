import HciSerial.Proofs.Line.Memory
import HciSerial.Transport.Basic

/-!
# Opening and sending on a line in memory

What an opening and a request to send can do, each with the state that it requires.

## Main Definitions

* `Transport.Opened`: the three outcomes of an opening.
* `Transport.Sent`: the three outcomes of a request to send.

## Main Results

* `Transport.opened`, `Transport.sent`: there are no others.
-/

namespace HciSerial.Transport

/-- What an opening of a transport on a line in memory can do. -/
inductive Opened (transport : Transport MemoryLine) :
    Report MemoryLine (Except TransportError Unit) → Prop where
  | unconfigured (unset : transport.config = none) :
      Opened transport {
        state := transport
        value := .error .notInitialized
        events := [entry .error "h4 transport: open before init"] }
  | refused {error : LineError} (configured : transport.config ≠ none)
      (armed : transport.line.failNextOpen = some error) :
      Opened transport {
        state := { transport with line := { transport.line with failNextOpen := none } }
        value := .error (.line error) }
  | opened (configured : transport.config ≠ none)
      (unarmed : transport.line.failNextOpen = none) :
      Opened transport {
        state := { transport with
          line := { transport.line with
            isOpen := true
            pendingRead := some 1
            readLog := 1 :: transport.line.readLog }
          framer := transport.framer.reset
          sendActive := false
          isOpen := true }
        value := .ok ()
        events :=
          .logged (MemoryLine.record .debug "mock uart opened"
            [("baudrate", .number transport.line.config.baudrate)]) ::
          entry .info "h4 transport open" :: (transport.line.receive 1).records.map .logged }

/-- Every opening has one of the three outcomes. -/
theorem opened (transport : Transport MemoryLine) : Opened transport transport.openLine := by
  unfold openLine
  split
  case isTrue unset => exact .unconfigured (Option.isNone_iff_eq_none.mp unset)
  case isFalse set =>
    have configured : transport.config ≠ none :=
      fun unset => set (Option.isNone_iff_eq_none.mpr unset)
    have line : MemoryLine.Opened transport.line (SerialLine.openLine transport.line) :=
      transport.line.opened
    generalize SerialLine.openLine transport.line = step at line ⊢
    cases line with
    | refused armed => exact .refused configured armed
    | opened unarmed => exact .opened configured unarmed

/-- What a request to send can do on a line in memory. -/
inductive Sent (kind : PacketKind) (packet : OutgoingPacket) (transport : Transport MemoryLine) :
    Report MemoryLine (Except TransportError Unit) → Prop where
  | closed (isClosed : transport.isOpen = false) :
      Sent kind packet transport { state := transport, value := .error .notOpen }
  | busy (isOpen : transport.isOpen = true) (active : transport.sendActive = true) :
      Sent kind packet transport {
        state := transport
        value := .error .writeInFlight
        events := [entry .warn "send while previous packet still in flight"
          [("packet_type", .text kind.name)]] }
  | accepted (isOpen : transport.isOpen = true) (inactive : transport.sendActive = false) :
      Sent kind packet transport {
        state := { transport with
          line := { transport.line with
            sentBlocks := transport.line.sentBlocks ++ [packet.wire kind]
            sending := if transport.line.completesSends then .ready else .held }
          sendActive := true }
        value := .ok ()
        events :=
          entry .debug "sending packet"
            [("packet_type", .text kind.name), ("len", .number (packet.wire kind).length)] ::
          (transport.line.send (packet.wire kind)).records.map .logged }

/-- Every request to send has one of the three outcomes. -/
theorem sent (kind : PacketKind) (packet : OutgoingPacket) (transport : Transport MemoryLine) :
    Sent kind packet transport (transport.send kind packet) := by
  unfold send
  split
  case isTrue isClosed => exact .closed (by simpa using isClosed)
  case isFalse isOpen =>
    have isOpen : transport.isOpen = true := by simpa using isOpen
    split
    case isTrue active => exact .busy isOpen active
    case isFalse inactive => exact .accepted isOpen (Bool.eq_false_iff.mpr inactive)

end HciSerial.Transport
