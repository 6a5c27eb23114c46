import HciSerial.Host.Basic
import HciSerial.Host.FileTree

/-!
# A simulated host

A host with a few files and one pseudo terminal, at whose far end someone reads, writes
and hangs up by a script.

## Main Definitions

* `PseudoTerminal`: a line between a program and its far end.
* `PeerAction`: what the far end does.
* `SimulatedHost`: files, terminal, clock, output and log.
* The instance `Host SimulatedHost`.

## Design Notes

The far end acts as soon as it can: each of its actions waits only for what it names.
Time passes only while the program waits for input in vain.  Bytes on the line survive
a closing of the device; after a hang-up nothing can be read, written or set, and the
device is gone.
-/

namespace HciSerial

/-- A pseudo terminal, seen from both ends. -/
structure PseudoTerminal where
  settings : TerminalSettings := {
    inputSpeed := 15
    outputSpeed := 15
    rtsCts := false
    cooked := false
    minBytes := 1
    readTimeout := 0 }
  /-- Bytes on their way to the program. -/
  toProgram : List UInt8 := []
  /-- Bytes on their way to the far end. -/
  toPeer : List UInt8 := []
  hungUp : Bool := false
deriving DecidableEq

/-- What the far end does. -/
inductive PeerAction where
  /-- Writes bytes. -/
  | write (bytes : List UInt8)
  /-- Reads exactly so many bytes. -/
  | read (count : Nat)
  /-- Waits until the program has printed so many lines. -/
  | awaitLines (count : Nat)
  /-- Asks the program to stop. -/
  | interrupt
  /-- Hangs up. -/
  | hangUp
deriving DecidableEq

/-- A host with a few files and at most one pseudo terminal. -/
structure SimulatedHost where
  terminal : Option PseudoTerminal := none
  /-- The contents of the one file besides the directories and devices that every host has. -/
  file : Option (List UInt8) := none
  /-- Texts that stand for the paths to places, wherever they occur in a path. -/
  aliases : List (String × FileTree.Place) := []
  /-- What the far end has still to do. -/
  script : List PeerAction := []
  /-- Whether the far end has begun to act. -/
  peerActive : Bool := false
  /-- What the far end has read. -/
  peerRead : List UInt8 := []
  clock : Nat := 0
  /-- What has been printed, latest text first. -/
  printed : List String := []
  /-- The number of printed lines. -/
  printedLines : Nat := 0
  /-- What has been logged, latest record first. -/
  logged : List Log.Record := []
  stopRequested : Bool := false

namespace SimulatedHost

/-- Everything that has been printed. -/
def output (host : SimulatedHost) : String :=
  String.join host.printed.reverse

/-- Everything that has been logged, oldest first. -/
def log (host : SimulatedHost) : List Log.Record :=
  host.logged.reverse

/-! ### The far end -/

/-- One action of the far end, `none` while it has to wait. -/
def act? (host : SimulatedHost) (terminal : PseudoTerminal) : PeerAction → Option SimulatedHost
  | .write bytes =>
    some { host with
      terminal := some { terminal with toProgram := terminal.toProgram ++ bytes } }
  | .read count =>
    if terminal.toPeer.length < count then none
    else some { host with
      terminal := some { terminal with toPeer := terminal.toPeer.drop count }
      peerRead := host.peerRead ++ terminal.toPeer.take count }
  | .awaitLines count => if host.printedLines < count then none else some host
  | .interrupt => some { host with stopRequested := true }
  | .hangUp => some { host with terminal := some { terminal with hungUp := true } }

/-- Lets the far end follow a script for as long as it can. -/
def follow (host : SimulatedHost) : List PeerAction → SimulatedHost
  | [] => { host with script := [] }
  | action :: rest =>
    match host.terminal with
    | none => { host with script := action :: rest }
    | some terminal =>
      match host.act? terminal action with
      | none => { host with script := action :: rest }
      | some next => follow next rest

/-- Lets the far end act if it has begun. -/
def settle (host : SimulatedHost) : SimulatedHost :=
  if host.peerActive then host.follow host.script else host

/-! ### Files -/

/-- Where a path without a slash in front starts. -/
def currentPlace : FileTree.Place := ["work", "root"]

/-- The directories that every host has. -/
def directories : List FileTree.Place :=
  [[], ["bin"], ["dev"], ["pts", "dev"], ["shm", "dev"], ["etc"], ["home"], ["lib"], ["opt"],
    ["proc"], ["root"], ["run"], ["sys"], ["tmp"], ["usr"], ["var"], currentPlace]

/-- The devices that every host has. -/
def devices : List FileTree.Place := [["null", "dev"], ["zero", "dev"], ["full", "dev"]]

/-- Where the terminal is. -/
def terminalPlace : FileTree.Place := ["0", "pts", "dev"]

/-- Where the file is. -/
def filePlace : FileTree.Place := ["input", "tmp"]

/-- The path that leads to a place from the top. -/
def pathTo (place : FileTree.Place) : String :=
  String.join (place.reverse.map ("/" ++ ·))

/-- What is at a place; a terminal that hung up is gone. -/
def node? (host : SimulatedHost) : FileTree.Files := fun place =>
  if directories.contains place then some .directory
  else if devices.contains place then some .device
  else if place = terminalPlace ∧ host.terminal.any (!·.hungUp) then some .terminal
  else if place = filePlace then host.file.map .regular
  else none

/-- A path with its aliases replaced. -/
def expand (host : SimulatedHost) (path : String) : String :=
  host.aliases.foldl (fun path entry => path.replace entry.1 (pathTo entry.2)) path

/-- Follows a path. -/
def lookup (host : SimulatedHost) (path : String) : Except IoError FileNode :=
  FileTree.lookup host.node? currentPlace (host.expand path)

/-! ### Calls -/

/-- The number under which the terminal is open. -/
def terminalDevice : Nat := 3

/-- The number under which anything else is open. -/
def otherDevice : Nat := 4

/-- A call on the terminal: other devices are no terminals, and a hung up one fails. -/
def onTerminal {α : Type} (device : Nat)
    (call : PseudoTerminal → SystemCall SimulatedHost α) : SystemCall SimulatedHost α :=
  fun host =>
    match host.terminal with
    | none => (.error (.system 25), host)
    | some terminal =>
      if device ≠ terminalDevice then (.error (.system 25), host)
      else if terminal.hungUp then (.error (.system 5), host)
      else call terminal host

/-- A call on the terminal is made, or there is no such terminal and all such calls fail. -/
theorem onTerminal_cases (device : Nat) (host : SimulatedHost) :
    (∃ terminal, (host.terminal = some terminal ∧ device = terminalDevice ∧
        terminal.hungUp = false) ∧
      ∀ {α : Type} (call : PseudoTerminal → SystemCall SimulatedHost α),
        onTerminal device call host = call terminal host) ∨
    ∃ cause, ∀ {α : Type} (call : PseudoTerminal → SystemCall SimulatedHost α),
      onTerminal device call host = (.error cause, host) := by
  unfold onTerminal
  cases present : host.terminal with
  | none => exact .inr ⟨_, fun _ => rfl⟩
  | some terminal =>
    by_cases same : device = terminalDevice
    · cases hungUp : terminal.hungUp with
      | true => exact .inr ⟨_, fun _ => by simp only [same, hungUp]; rfl⟩
      | false => exact .inl ⟨terminal, ⟨rfl, same, hungUp⟩, fun _ => by simp [same, hungUp]⟩
    · exact .inr ⟨_, fun _ => if_pos same⟩

/-- Opens a path. -/
def openDevice (path : String) : SystemCall SimulatedHost Nat := fun host =>
  match host.lookup path with
  | .error error => (.error error, host)
  | .ok .directory => (.error (.system 21), host)
  | .ok .terminal => (.ok terminalDevice, host)
  | .ok _ => (.ok otherDevice, host)

/-- Waits for input: time passes when there is none. -/
def waitReadable (milliseconds : Nat) : SystemCall SimulatedHost Readiness := fun host =>
  let host := host.settle
  match host.terminal with
  | none => (.ok .hungUp, host)
  | some terminal =>
    if terminal.hungUp then (.ok .hungUp, host)
    else if host.stopRequested then (.error (.system 4), host)
    else if terminal.toProgram.isEmpty then
      (.ok .timedOut, { host with clock := host.clock + milliseconds * 1000000 })
    else (.ok .readable, host)

/-- Begins the far end's script when the log tells that the transport is open. -/
def report (record : Log.Record) (host : SimulatedHost) : SimulatedHost :=
  settle { host with
    logged := record :: host.logged
    peerActive := host.peerActive ||
      (record.source = .transport && record.message = "h4 transport open") }

instance : Host SimulatedHost where
  openDevice := openDevice
  readSettings device := onTerminal device fun terminal host => (.ok terminal.settings, host)
  writeSettings device settings := onTerminal device fun terminal host =>
    (.ok (), { host with terminal := some { terminal with settings } })
  discardQueued device := onTerminal device fun terminal host =>
    (.ok (), { host with terminal := some { terminal with toProgram := [], toPeer := [] } })
  makeBlocking _ host := (.ok (), host)
  waitReadable _ milliseconds := waitReadable milliseconds
  read device count := onTerminal device fun terminal host =>
    (.ok (terminal.toProgram.take count),
      { host with terminal := some { terminal with toProgram := terminal.toProgram.drop count } })
  write device bytes := onTerminal device fun terminal host =>
    (.ok (), settle { host with
      terminal := some { terminal with toPeer := terminal.toPeer ++ bytes } })
  closeDevice _ host := host
  readFile path host :=
    match host.lookup path with
    | .error error => (.error error, host)
    | .ok .directory => (.error (.system 21), host)
    | .ok (.regular contents) => (.ok contents, host)
    | .ok _ => (.ok [], host)
  now host := (host.clock, host)
  print text host := settle { host with
    printed := text :: host.printed
    printedLines := host.printedLines + text.toList.count '\n' }
  report := report
  interrupted host := (host.stopRequested, host)

end SimulatedHost

end HciSerial
