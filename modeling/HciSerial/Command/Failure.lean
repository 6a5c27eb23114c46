import HciSerial.Framing.Error
import HciSerial.Transport.Error

/-!
# Command failures

How errors end a command: with an exit code and a message.

## Main Definitions

* `ExitCode`: the codes a command can end with.
* `CommandFailure`: a code and a message.
* `CommandFailure.ofIo`, `ofLine`, `ofTransport`, `ofFraming`: what an error in a given
  context amounts to.
-/

namespace HciSerial

/-- The codes a command can end with. -/
inductive ExitCode where
  | success
  | failure
  | transportError
  | dataInvalid
  | usage
  | timeout
  | internal
deriving DecidableEq

/-- The number of an exit code. -/
def ExitCode.number : ExitCode → Nat
  | success => 0
  | failure => 1
  | transportError => 3
  | dataInvalid => 60
  | usage => 64
  | timeout => 124
  | internal => 125

/-- A command that failed. -/
structure CommandFailure where
  code : ExitCode
  message : String
deriving DecidableEq

/-- The exit code of a file or device error: missing or forbidden, too late, or anything else. -/
def IoError.exitCode (error : IoError) : ExitCode :=
  match error.kind with
  | .notFound | .permissionDenied => .failure
  | .timedOut | .wouldBlock => .timeout
  | _ => .transportError

/-- The exit code of a line error: that of its cause, if it has one. -/
def LineError.exitCode : LineError → ExitCode
  | openFailed _ cause => cause.exitCode
  | io cause => cause.exitCode
  | missingDevice => .usage
  | unsupportedBaudrate _ => .usage
  | notOpen => .transportError
  | closed => .transportError

/-- The exit code of a framing error: a bad buffer is the program's own fault. -/
def FramingError.exitCode : FramingError → ExitCode
  | bufferTooSmall _ _ => .internal
  | noPreBuffer => .internal
  | _ => .dataInvalid

namespace CommandFailure

/-- A failure told together with what was being done. -/
def inContext (context : String) (code : ExitCode) (message : String) : CommandFailure :=
  ⟨code, context ++ ": " ++ message⟩

/-- What a file or device error amounts to. -/
def ofIo (context : String) (error : IoError) : CommandFailure :=
  inContext context error.exitCode error.message

/-- What a line error amounts to. -/
def ofLine (context : String) (error : LineError) : CommandFailure :=
  inContext context error.exitCode error.message

/-- What a transport error amounts to; a line error is told in its own words. -/
def ofTransport (context : String) (error : TransportError) : CommandFailure :=
  match error with
  | .line error => ofLine context error
  | .invalidConfig _ => inContext context .usage error.message
  | .notInitialized => inContext context .internal error.message
  | _ => inContext context .transportError error.message

/-- What a framing error amounts to. -/
def ofFraming (context : String) (error : FramingError) : CommandFailure :=
  inContext context error.exitCode error.message

end CommandFailure

end HciSerial
