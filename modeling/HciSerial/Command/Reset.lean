import HciSerial.Command.Session

/-!
# Resetting a controller

A small program of its own: it sends the reset command to a controller and prints what
comes back, until the command has been completed or two seconds have passed.

## Main Definitions

* `Reset.Failure`: why the program fails.
* `Reset.lineFor`: what a delivered packet is told as.
* `reset`: the program.
-/

namespace HciSerial

namespace Reset

/-- Why the program fails. -/
inductive Failure where
  /-- No device was named. -/
  | usage
  /-- The baud rate is no number. -/
  | badBaudrate (error : Decimal.Error)
  /-- The transport failed. -/
  | transport (error : TransportError)
  /-- The command was not completed in time. -/
  | noReply
deriving DecidableEq

/-- The record form of a failure. -/
def Failure.inspect : Failure → String
  | usage => Quoted.render "usage: hci-reset DEVICE [BAUD]"
  | badBaudrate error => "ParseIntError \x7b kind: " ++ error.name ++ " \x7d"
  | transport error => error.inspect
  | noReply => Quoted.render "no command complete within 2s"

/-- The operation code of the reset command. -/
def resetOpcode : UInt16 := 0x0C03

/-- The event code of a completed command. -/
def commandComplete : UInt8 := 0x0E

/-- The time to wait, in nanoseconds. -/
def patience : Nat := 2000000000

/-- Bytes in brackets. -/
def bracketed (bytes : List UInt8) : String :=
  "[" ++ String.intercalate ", " (bytes.map fun byte => Hex.render [byte]) ++ "]"

/-- What a delivered packet is told as, and whether it ends the program. -/
def lineFor (packet : Packet) : String × Bool :=
  match packet.data.head? with
  | some code =>
    if code = Packet.sentCode then ("reset sent", false)
    else if code = commandComplete then ("command complete: " ++ bracketed packet.data, true)
    else (packet.kind.name ++ ": " ++ bracketed packet.data, false)
  | none => (packet.kind.name ++ ": " ++ bracketed packet.data, false)

/-- Device and baud rate. -/
def arguments : List String → Except Failure (String × Nat)
  | [] => .error .usage
  | [device] => .ok (device, defaultBaudrate)
  | device :: rate :: _ =>
    match Decimal.natural (Nat.pow 2 32) rate.toList with
    | .ok rate => .ok (device, rate)
    | .error error => .error (.badBaudrate error)

variable {W : Type} [Host W]

/-- Prints packets until one ends the program. -/
def tell : List Packet → Session W → Bool × Session W
  | [], session => (false, session)
  | packet :: rest, session =>
    let (line, ends) := lineFor packet
    let session := session.print (line ++ "\n")
    if ends then (true, session) else tell rest session

/-- Closes the line with a verdict of its own, unless closing fails. -/
def finish (verdict : Option Failure) (session : Session W) : Option Failure × W :=
  match session.close with
  | (.error error, session) => (some (.transport error), session.world)
  | (.ok (), session) => (verdict, session.world)

/-- Polls and prints until the deadline, at most `fuel` times. -/
def loop (deadline : Nat) : Nat → Session W → Option Failure × W
  | 0, session => (none, session.world)
  | fuel + 1, session =>
    let (instant, session) := session.now
    if deadline ≤ instant then finish (some .noReply) session
    else
      match session.poll with
      | (.error error, session) => (some (.transport error), session.world)
      | (.ok _, session) =>
        let (packets, session) := session.takeQueue
        match tell packets session with
        | (true, session) => finish none session
        | (false, session) => loop deadline fuel session

/-- Sends the reset command and waits. -/
def transmit (fuel : Nat) (session : Session W) : Option Failure × W :=
  match OutgoingPacket.command resetOpcode [] with
  | .error _ => (none, session.world)
  | .ok packet =>
    match session.send .command packet with
    | (.error error, session) => (some (.transport error), session.world)
    | (.ok (), session) =>
      let (instant, session) := session.now
      loop (instant + patience) fuel session

end Reset

/-- Resets the controller at a device and prints what comes back; no failure is success. -/
def reset {W : Type} [Host W] (fuel : Nat) (arguments : List String) (world : W) :
    Option Reset.Failure × W :=
  match Reset.arguments arguments with
  | .error failure => (some failure, world)
  | .ok (device, rate) =>
    match (Session.new world).configure
        { SerialSetup.ofDevice device with initialBaudrate := rate } with
    | (.error error, session) => (some (.transport error), session.world)
    | (.ok (), session) =>
      match session.openLine with
      | (.error error, session) => (some (.transport error), session.world)
      | (.ok (), session) => Reset.transmit fuel session

end HciSerial
