import HciSerial.Command.Run
import HciSerial.Host.Offline

/-!
# The program

Reads the file that a command names, carries the command out, and writes what it prints and
logs.
-/

namespace HciSerial

/-- The code of an error that the host reports, if it has one. -/
def errorCode? : IO.Error → Option UInt32
  | .alreadyExists _ code _ => code
  | .otherError code _ => code
  | .resourceBusy code _ => code
  | .resourceVanished code _ => code
  | .unsupportedOperation code _ => code
  | .hardwareFault code _ => code
  | .unsatisfiedConstraints code _ => code
  | .illegalOperation code _ => code
  | .protocolError code _ => code
  | .timeExpired code _ => code
  | .interrupted _ code _ => code
  | .noFileOrDirectory _ code _ => code
  | .invalidArgument _ code _ => code
  | .permissionDenied _ code _ => code
  | .resourceExhausted _ code _ => code
  | .inappropriateType _ code _ => code
  | .noSuchThing _ code _ => code
  | _ => none

/-- The error that the host reports.

Some calls report the negative of the error number, which a code shows as a number of
the upper half. -/
def ioError (error : IO.Error) : IoError :=
  match errorCode? error with
  | some code =>
    let number := code.toNat
    .system (if number < Nat.pow 2 31 then number else Nat.pow 2 32 - number)
  | none => .custom .other (toString error)

/-- What reading a file gives. -/
def readWhole (path : String) : IO (Except IoError (List UInt8)) := do
  try
    return .ok (← IO.FS.readBinFile path).toList
  catch error =>
    return .error (ioError error)

/-- What opening a device gives. -/
def tryDevice (path : String) : IO (Except IoError Unit) := do
  try
    let _ ← IO.FS.Handle.mk path .readWrite
    return .ok ()
  catch error =>
    return .error (ioError error)

/-- The host that a command needs. -/
def prepareHost : Command → IO OfflineHost
  | .decode none (some path) => return { files := [(path, ← readWhole path)] }
  | .monitor line _ => return { devices := [(line.device, ← tryDevice line.device)] }
  | .send choice =>
    return { devices := [(choice.line.device, ← tryDevice choice.line.device)] }
  | _ => return {}

/-- Carries out an invocation and gives the exit code. -/
def carryOut (invocation : Invocation) : IO UInt32 := do
  let terminal ← (← IO.getStdout).isTty
  let some filter := Log.Filter.choose? invocation.logLevel (← IO.getEnv "H4LINK_LOG")
    | return UInt32.ofNat abortNumber
  let (outcome, host) := invocation.run 1 terminal (← prepareHost invocation.command)
  for record in host.log do
    if filter.admits record then IO.eprintln (record.line invocation.logFormat)
  IO.print host.output
  match outcome.message? with
  | some message => IO.eprintln ("error: " ++ message)
  | none => pure ()
  return UInt32.ofNat outcome.exitNumber

/-- How the program is called. -/
def usageLine : String :=
  "usage: " ++ programName ++ " [OPTIONS] decode|monitor|send|version ...\n"

/-- Answers a command line and gives the exit code. -/
def respond (arguments : List String) : IO UInt32 := do
  match Invocation.parse arguments with
  | .ok invocation => carryOut invocation
  | .error error => do
    match error with
    | .displayVersion => IO.print versionLine
    | .displayHelp => IO.print usageLine
    | _ => IO.eprint usageLine
    return UInt32.ofNat error.exitNumber

end HciSerial

/-- The program. -/
def main (arguments : List String) : IO UInt32 :=
  HciSerial.respond arguments
