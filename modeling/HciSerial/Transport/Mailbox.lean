import HciSerial.Transport.Basic

/-!
# Mailboxes

What the handlers of one transport have collected: a queue of packets, and a count
of packets and bytes.

## Main Definitions

* `Mailbox`: queue and counts.
* `Mailbox.take`: what a handler does with packets.
* `Mailbox.collect`: what a handler does with the events of an operation.
-/

namespace HciSerial

/-- What the handlers of a transport have collected. -/
structure Mailbox where
  /-- Queued packets, oldest first. -/
  queue : List Packet := []
  /-- The number of counted packets. -/
  calls : Nat := 0
  /-- The number of bytes in counted packets. -/
  bytes : Nat := 0
deriving DecidableEq

namespace Mailbox

/-- What a handler does with packets that are given to it in order. -/
def take (handler : Handler) (mailbox : Mailbox) (packets : List Packet) : Mailbox :=
  match handler with
  | .ignore => mailbox
  | .queue => { mailbox with queue := mailbox.queue ++ packets }
  | .count => { mailbox with
      calls := mailbox.calls + packets.length
      bytes := packets.foldl (fun bytes packet => bytes + packet.data.length) mailbox.bytes }

/-- What a handler does with the events of an operation. -/
def collect (handler : Handler) (mailbox : Mailbox) (events : List Transport.Event) : Mailbox :=
  take handler mailbox (events.filterMap Transport.Event.packet?)

end Mailbox

end HciSerial
