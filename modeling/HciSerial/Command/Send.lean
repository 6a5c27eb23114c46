import HciSerial.Command.Outcome
import HciSerial.Command.Session
import HciSerial.Packet.Encoding

/-!
# Sending a packet

One packet is sent and its completion awaited; on request the first packet that comes back
is awaited too, and printed.

## Main Definitions

* `Waiter`: what is still awaited.
* `Waiter.accept`: what a delivered packet means for it.
* `send`: the command.

## Design Notes

Timeout, bytes and header are checked in this order before the line is touched.  The time
to wait until is computed after the packet has been handed over; a sum beyond the end of the
clock aborts the program.
-/

namespace HciSerial

/-- What a sender still waits for. -/
structure Waiter where
  /-- Whether a response is wanted. -/
  waits : Bool
  /-- Whether the packet has been sent. -/
  sent : Bool := false
  /-- Whether a response has come. -/
  responded : Bool := false
deriving DecidableEq

namespace Waiter

/-- What a delivered packet means: the response to print, if it is one, and what is
logged otherwise. -/
def accept (waiter : Waiter) (packet : Packet) : Option Packet × List Log.Record × Waiter :=
  if packet.isSentNotice then
    (none, [⟨.debug, .send, "packet sent", []⟩], { waiter with sent := true })
  else if waiter.waits && !waiter.responded then
    (some packet, [], { waiter with responded := true })
  else
    (none, [⟨.debug, .send, "ignoring unsolicited packet",
      [("packet_type", .text packet.kind.name)]⟩], waiter)

/-- Whether nothing is awaited any more. -/
def isDone (waiter : Waiter) : Bool :=
  waiter.sent && (!waiter.waits || waiter.responded)

/-- The failure of a sender that has waited long enough. -/
def timeoutFailure (waiter : Waiter) (timeout : Duration) : CommandFailure :=
  let awaited := if waiter.sent then "response" else "send completion"
  ⟨.timeout, "timed out after " ++ timeout.inspect ++ " waiting for " ++ awaited⟩

end Waiter

/-- Refuses a packet whose header disagrees with its length. -/
def checkHeader (packet : Packet) : Except CommandFailure Unit :=
  packet.check.mapError (.ofFraming ("invalid " ++ packet.kind.name ++ " packet"))

namespace Send

/-- Reads timeout and packet, and checks the header. -/
def prepare (choice : SendChoice) : Except CommandFailure (Duration × Packet) :=
  match Duration.parse choice.timeout with
  | .error error => .error ⟨.usage, error.message⟩
  | .ok timeout =>
    match Hex.parse choice.hex with
    | .error error => .error ⟨.usage, error.message⟩
    | .ok data =>
      let packet : Packet := ⟨choice.kind, data⟩
      (checkHeader packet).map fun () => (timeout, packet)

variable {W : Type} [Host W]

/-- Shows the waiter packets one by one and prints the response. -/
def acceptAll (format : ListingFormat) (packets : List Packet) (waiter : Waiter)
    (session : Session W) : Waiter × Session W :=
  packets.foldl (fun (waiter, session) packet =>
    let (response, records, waiter) := waiter.accept packet
    let session := records.foldl Session.report session
    (waiter, match response with
      | some packet => session.print (listing format [packet])
      | none => session)) (waiter, session)

/-- Polls until nothing is awaited or the time is over, at most `fuel` times. -/
def loop (format : ListingFormat) (timeout : Duration) (deadline : Nat) :
    Nat → Waiter → Session W → Outcome × W
  | 0, _, session => (.unfinished, session.world)
  | fuel + 1, waiter, session =>
    match session.poll with
    | (.error error, session) => (.failed (.ofTransport "receive failed" error), session.world)
    | (.ok _, session) =>
      let (packets, session) := session.takeQueue
      let (waiter, session) := acceptAll format packets waiter session
      if waiter.isDone then
        match session.finish with
        | (.ok (), world) => (.success, world)
        | (.error failure, world) => (.failed failure, world)
      else
        let (instant, session) := session.now
        if deadline ≤ instant then
          (.failed (waiter.timeoutFailure timeout), session.close.2.world)
        else loop format timeout deadline fuel waiter session

/-- Hands the packet over and waits. -/
def transmit (fuel : Nat) (waits : Bool) (format : ListingFormat) (timeout : Duration)
    (packet : Packet) (session : Session W) : Outcome × W :=
  match session.send packet.kind (.ofPayload packet.data) with
  | (.error error, session) => (.failed (.ofTransport "send failed" error), session.world)
  | (.ok (), session) =>
    let (instant, session) := session.now
    let deadline := instant + timeout.total
    if clockLimit ≤ deadline then (.clockOverflow, session.world)
    else loop format timeout deadline fuel { waits } session

end Send

/-- Sends one packet on a line. -/
def send {W : Type} [Host W] (fuel : Nat) (choice : SendChoice) (format : ListingFormat)
    (world : W) : Outcome × W :=
  match Send.prepare choice with
  | .error failure => (.failed failure, world)
  | .ok (timeout, packet) =>
    match Session.start choice.line.setup world with
    | (.error failure, session) => (.failed failure, session.world)
    | (.ok (), session) => Send.transmit fuel choice.waits format timeout packet session

end HciSerial
