import HciSerial.Line.Basic
import HciSerial.Packet.Block

/-!
# A serial line in memory

Bytes to be received wait in a queue, and every block that is sent is kept, so a
transport can run without hardware and a captured stream can be replayed.

## Main Definitions

* `MemoryLine`: the line.
* `MemoryLine.Control`: what can be done to it from outside.
* The instance `SerialLine MemoryLine`.

## Design Notes

A send is `idle`, `held` (waiting for `completeSend`) or `ready` to be reported.
Opening keeps pending requests and closing drops them.  A failure that was set up
for an opening or a poll is used up by the next one; a failing poll also drops the
send, as a failed write on a real line does.
-/

namespace HciSerial

/-- How far a send has come. -/
inductive SendProgress where
  | idle
  | held
  | ready
deriving DecidableEq

/-- A serial line in memory. -/
structure MemoryLine where
  config : LineConfig := {}
  isOpen : Bool := false
  /-- Bytes that have arrived and have not been handed out. -/
  incoming : List UInt8 := []
  /-- The length asked for by the outstanding receive request. -/
  pendingRead : Option Nat := none
  /-- The lengths of all receive requests, latest first. -/
  readLog : List Nat := []
  sending : SendProgress := .idle
  /-- Whether sends complete on their own. -/
  completesSends : Bool := true
  /-- Every block handed over for sending, oldest first. -/
  sentBlocks : List (List UInt8) := []
  /-- The speeds set while running, oldest first. -/
  speedChanges : List Nat := []
  failNextOpen : Option LineError := none
  failNextPoll : Option LineError := none
deriving DecidableEq

namespace MemoryLine

/-- Everything that has been sent. -/
def sentBytes (line : MemoryLine) : List UInt8 :=
  line.sentBlocks.flatten

/-- The lengths of all receive requests, oldest first. -/
def readRequests (line : MemoryLine) : List Nat :=
  line.readLog.reverse

/-- A log record of the line. -/
def record (level : Log.Level) (message : String)
    (fields : List (String × Log.Value) := []) : Log.Record :=
  ⟨level, .memoryLine, message, fields⟩

/-! ### Control from outside -/

/-- What can be done to the line from outside. -/
inductive Control where
  /-- Bytes arrive. -/
  | inject (bytes : List UInt8)
  /-- Sends complete on their own, or wait for `completeSend`. -/
  | completeSends (enabled : Bool)
  /-- Lets the outstanding send complete. -/
  | completeSend
  /-- The next opening fails. -/
  | failOpen (error : LineError)
  /-- The next poll of the open line fails. -/
  | failPoll (error : LineError)

/-- Applies a control. -/
def control (line : MemoryLine) : Control → MemoryLine
  | .inject bytes => { line with incoming := line.incoming ++ bytes }
  | .completeSends enabled => { line with completesSends := enabled }
  | .completeSend =>
    match line.sending with
    | .idle => line
    | _ => { line with sending := .ready }
  | .failOpen error => { line with failNextOpen := some error }
  | .failPoll error => { line with failNextPoll := some error }

/-! ### Operations of a line -/

/-- Stores the configuration. -/
def init (config : LineConfig) (line : MemoryLine) : MemoryLine :=
  { line with config }

/-- Opens the line unless a failure was set up. -/
def openLine (line : MemoryLine) : Step MemoryLine (Except LineError Unit) :=
  match line.failNextOpen with
  | some error => { state := { line with failNextOpen := none }, value := .error error }
  | none => {
      state := { line with isOpen := true }
      value := .ok ()
      records := [record .debug "mock uart opened" [("baudrate", .number line.config.baudrate)]] }

/-- Closes the line and drops what is pending. -/
def close (line : MemoryLine) : Step MemoryLine (Except LineError Unit) where
  state := { line with isOpen := false, pendingRead := none, sending := .idle }
  value := .ok ()
  records := [record .debug "mock uart closed"]

/-- Changes the speed and remembers the change. -/
def setBaudrate (rate : Nat) (line : MemoryLine) : Step MemoryLine (Except LineError Unit) where
  state := { line with
    config := { line.config with baudrate := rate }
    speedChanges := line.speedChanges ++ [rate] }
  value := .ok ()

/-- Replaces the receive request; a request that is still outstanding is reported. -/
def receive (length : Nat) (line : MemoryLine) : Step MemoryLine Unit where
  state := { line with
    pendingRead := some length
    readLog := length :: line.readLog }
  value := ()
  records :=
    if line.pendingRead.isSome then
      [record .warn "receive requested while another receive is pending" [("len", .number length)]]
    else []

/-- Takes a block to be sent; a send that is still outstanding is reported. -/
def send (block : List UInt8) (line : MemoryLine) : Step MemoryLine Unit where
  state := { line with
    sentBlocks := line.sentBlocks ++ [block]
    sending := if line.completesSends then .ready else .held }
  value := ()
  records :=
    if line.sending ≠ .idle then
      [record .warn "send requested while another send is pending" [("len", .number block.length)]]
    else []

/-- Reports a completion: a failure that was set up, else a finished send, else a
full block. -/
def poll (line : MemoryLine) : Step MemoryLine (Except LineError (Option Completion)) :=
  if !line.isOpen then { state := line, value := .ok none }
  else
    match line.failNextPoll with
    | some error =>
      { state := { line with failNextPoll := none, sending := .idle }, value := .error error }
    | none =>
      if line.sending = .ready then
        { state := { line with sending := .idle }, value := .ok (some .sent) }
      else
        match line.pendingRead with
        | none => { state := line, value := .ok none }
        | some length =>
          match splitBlock? length line.incoming with
          | none => { state := line, value := .ok none }
          | some (block, rest) =>
            { state := { line with pendingRead := none, incoming := rest }
              value := .ok (some (.received block)) }

instance : SerialLine MemoryLine where
  init := init
  openLine := openLine
  close := close
  setBaudrate := setBaudrate
  receive := receive
  send := send
  poll := poll

end MemoryLine

end HciSerial
