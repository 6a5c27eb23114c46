import HciSerial.Command.Usage
import HciSerial.Log.Filter
import HciSerial.Log.Line
import HciSerial.Packet.Listing
import HciSerial.Transport.Config

/-!
# Invocations

What a command line asks for.

## Main Definitions

* `Invocation`: output and log settings, and the command.
* `Invocation.parse`: the invocation of a command line.
-/

namespace HciSerial

/-- The serial line that a command works on. -/
structure LineChoice where
  device : String
  baudrate : Nat := defaultBaudrate
  flowControl : Bool := false
deriving DecidableEq

/-- The transport configuration of a line. -/
def LineChoice.setup (line : LineChoice) : SerialSetup :=
  { SerialSetup.ofDevice line.device with
    initialBaudrate := line.baudrate
    flowControl := .ofEnabled line.flowControl }

/-- What is to be sent, and how long to wait. -/
structure SendChoice where
  line : LineChoice
  kind : PacketKind
  /-- Header and payload as hexadecimal text. -/
  hex : String
  /-- Whether to wait for a packet and print it. -/
  waits : Bool := false
  timeout : String := "5s"
deriving DecidableEq

/-- The commands of the program. -/
inductive Command where
  | decode (hex file : Option String)
  | monitor (line : LineChoice) (count : Option Nat)
  | send (choice : SendChoice)
  | version (extended : Bool)
deriving DecidableEq

/-- What a command line asks for. -/
structure Invocation where
  /-- How packets are shown; the output decides if nothing is said. -/
  format : Option ListingFormat := none
  logFormat : Log.LineFormat := .text
  logLevel : Log.Level := .warn
  command : Command
deriving DecidableEq

namespace Invocation

/-- The packet kinds that a host may send, by their names. -/
def sendKinds : List (String × PacketKind) :=
  [("command", .command), ("acl", .acl), ("sco", .sco)]

/-- The log levels by their names. -/
def logLevels : List (String × Log.Level) :=
  Log.Level.all.map fun level => (level.name, level)

/-- The options that may stand in front of a command or after it. -/
def globalOptions : List Usage.Argument := [
  ⟨"format", some (.choice (ListingFormat.names.map (·.1)))⟩,
  ⟨"log-format", some (.choice (Log.LineFormat.names.map (·.1)))⟩,
  ⟨"log-level", some (.choice (logLevels.map (·.1)))⟩]

/-- The options of commands that work on a line. -/
def lineOptions : List Usage.Argument := [
  ⟨"baud", some (.ranged (Nat.pow 2 32))⟩,
  ⟨"flow-control", none⟩]

/-- The commands and the options in front of them. -/
def rootGrammar : Usage.Grammar where
  options := globalOptions
  subcommands := ["decode", "monitor", "send", "version", "help"]
  hasVersion := true

/-- The arguments of `decode`. -/
def decodeGrammar : Usage.Grammar where
  options := globalOptions ++ [⟨"hex", some .text⟩, ⟨"file", some .path⟩]

/-- The arguments of `monitor`. -/
def monitorGrammar : Usage.Grammar where
  options := globalOptions ++ lineOptions ++ [⟨"count", some (.natural wordCount)⟩]
  positionals := ["device"]

/-- The arguments of `send`. -/
def sendGrammar : Usage.Grammar where
  options := globalOptions ++ lineOptions ++ [
    ⟨"type", some (.choice (sendKinds.map (·.1)))⟩, ⟨"hex", some .text⟩, ⟨"wait", none⟩,
    ⟨"timeout", some .text⟩]
  positionals := ["device"]

/-- The arguments of `version`. -/
def versionGrammar : Usage.Grammar where
  options := globalOptions ++ [⟨"extended", none⟩]

/-- The number in a checked value. -/
def number (text : String) : Nat :=
  match Decimal.integer (Nat.pow 2 64) text.toList with
  | .ok value => value.toNat
  | .error _ => 0

/-- The line that arguments name. -/
def lineOf (reading : Usage.Reading) : Except Usage.Error LineChoice :=
  match reading.value? "device" with
  | none => .error .missingArgument
  | some device => .ok {
      device
      baudrate := (reading.value? "baud").elim defaultBaudrate number
      flowControl := reading.has "flow-control" }

/-- The command `decode`: a text or a file, and not both. -/
def decodeOf (reading : Usage.Reading) : Except Usage.Error Command :=
  if reading.has "hex" && reading.has "file" then .error .argumentConflict
  else if !reading.has "hex" && !reading.has "file" then .error .missingArgument
  else .ok (.decode (reading.value? "hex") (reading.value? "file"))

/-- The command `monitor`. -/
def monitorOf (reading : Usage.Reading) : Except Usage.Error Command :=
  (lineOf reading).map fun line => .monitor line ((reading.value? "count").map number)

/-- The command `send`: device, kind and bytes must be given. -/
def sendOf (reading : Usage.Reading) : Except Usage.Error Command :=
  let kind := (reading.value? "type").bind (Usage.meaning? sendKinds)
  match lineOf reading, kind, reading.value? "hex" with
  | .ok line, some kind, some hex => .ok (.send {
      line, kind, hex
      waits := reading.has "wait"
      timeout := (reading.value? "timeout").getD "5s" })
  | _, _, _ => .error .missingArgument

/-- The command `version`. -/
def versionOf (reading : Usage.Reading) : Except Usage.Error Command :=
  .ok (.version (reading.has "extended"))

/-- Reads a command from its name and arguments. -/
def commandOf (name : String) (arguments : List String) :
    Except Usage.Error (Usage.Reading × Command) :=
  let (grammar, build) := match name with
    | "decode" => (decodeGrammar, decodeOf)
    | "monitor" => (monitorGrammar, monitorOf)
    | "send" => (sendGrammar, sendOf)
    | _ => (versionGrammar, versionOf)
  (Usage.readAll grammar arguments).bind fun reading =>
    (build reading).map fun command => (reading, command)

/-- A help command: it may name one command. -/
def help : List String → Usage.Error
  | [] => .displayHelp
  | [name] => if rootGrammar.subcommands.contains name then .displayHelp else .invalidSubcommand
  | _ => .invalidSubcommand

/-- The value of an option that may stand on either side of the command: the one after it
counts. -/
def globalValue? (after before : Usage.Reading) (name : String) : Option String :=
  (after.value? name).or (before.value? name)

/-- The invocation of a command line, without the name of the program. -/
def parse (arguments : List String) : Except Usage.Error Invocation :=
  match Usage.scan rootGrammar {} arguments with
  | .error error => .error error
  | .ok (before, none) =>
    match before.resolve with
    | .error error => .error error
    | .ok before => .error (if before.found.isEmpty then .helpOnMissing else .missingSubcommand)
  | .ok (_, some ("help", rest)) => .error (help rest)
  | .ok (before, some (name, rest)) =>
    match commandOf name rest with
    | .error error => .error error
    | .ok (after, command) =>
      match before.resolve with
      | .error error => .error error
      | .ok before =>
        let global := globalValue? after before
        .ok {
          format := (global "format").bind (Usage.meaning? ListingFormat.names)
          logFormat := ((global "log-format").bind (Usage.meaning? Log.LineFormat.names)).getD .text
          logLevel := ((global "log-level").bind (Usage.meaning? logLevels)).getD .warn
          command }

end Invocation

end HciSerial
