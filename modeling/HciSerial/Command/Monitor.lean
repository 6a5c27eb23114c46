import HciSerial.Command.Outcome
import HciSerial.Command.Session
import HciSerial.Framing.ReceiveBuffer

/-!
# Monitoring a line

Packets are printed as they arrive, until so many have been printed, an error occurs, or
the user stops the program.

## Main Definitions

* `Monitor.take`: which of the queued packets are printed, and whether they are enough.
* `Monitor.watch`: the verdict on a list of poll results.
* `monitor`: the command.

## Design Notes

Whether enough packets have been printed is asked after each of them, so a count of zero
lets one through.  The number of printed packets is a machine word, and stays at the largest
one.
-/

namespace HciSerial

namespace Monitor

/-- The number of printed packets after one more. -/
def advance (printed : Nat) : Nat :=
  min (printed + 1) (wordCount - 1)

/-- Prints packets until there are enough: the printed ones, how many there are by then,
and whether they are enough. -/
def take (count : Option Nat) : Nat → List Packet → List Packet × Nat × Bool
  | printed, [] => ([], printed, false)
  | printed, packet :: rest =>
    if count.any (· ≤ advance printed) then ([packet], advance printed, true)
    else
      let (more, total, enough) := take count (advance printed) rest
      (packet :: more, total, enough)

/-- How watching a list of poll results ends. -/
inductive Verdict where
  /-- Enough packets have been printed. -/
  | enough
  /-- A poll failed. -/
  | failed (error : TransportError)
  /-- The results are used up. -/
  | watching
deriving DecidableEq

/-- What is printed for a list of poll results, each with the packets it delivered, when
`printed` packets came before. -/
def watch (count : Option Nat) :
    Nat → List (Except TransportError (List Packet)) → List Packet × Verdict
  | _, [] => ([], .watching)
  | _, .error error :: _ => ([], .failed error)
  | printed, .ok packets :: rest =>
    match take count printed packets with
    | (shown, _, true) => (shown, .enough)
    | (shown, total, false) =>
      let (more, verdict) := watch count total rest
      (shown ++ more, verdict)

variable {W : Type} [Host W]

/-- Prints packets one by one. -/
def printAll (format : ListingFormat) (packets : List Packet) (session : Session W) : Session W :=
  packets.foldl (fun session packet => session.print (listing format [packet])) session

/-- Closes the line after the user has stopped the program. -/
def stop (printed : Nat) (session : Session W) : Outcome × W :=
  let session := session.report
    ⟨.info, .monitor, "monitor interrupted", [("printed", .number printed)]⟩
  match session.finish with
  | (.ok (), world) => (.success, world)
  | (.error failure, world) => (.failed failure, world)

/-- Polls and prints, at most `fuel` times; `printed` packets came before. -/
def loop (count : Option Nat) (format : ListingFormat) :
    Nat → Nat → Session W → Outcome × W
  | 0, _, session => (.unfinished, session.world)
  | fuel + 1, printed, session =>
    let (stopRequested, session) := session.interrupted
    if stopRequested then stop printed session
    else
      match session.poll with
      | (.error error, session) =>
        (.failed (.ofTransport "receive failed" error), session.world)
      | (.ok _, session) =>
        let (packets, session) := session.takeQueue
        let (shown, total, enough) := take count printed packets
        let session := printAll format shown session
        if enough then (.success, session.close.2.world)
        else loop count format fuel total session

end Monitor

/-- Prints the packets that arrive on a line. -/
def monitor {W : Type} [Host W] (fuel : Nat) (line : LineChoice) (count : Option Nat)
    (format : ListingFormat) (world : W) : Outcome × W :=
  match Session.start line.setup world with
  | (.error failure, session) => (.failed failure, session.world)
  | (.ok (), session) => Monitor.loop count format fuel 0 session

end HciSerial
