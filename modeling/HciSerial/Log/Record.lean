/-!
# Log records

What the parts of the program report while they work.

## Main Definitions

* `Log.Level`: how severe a record is.
* `Log.Source`: the part of the program that made it, with the path filters match.
* `Log.Record`: level, source, message and fields.
-/

namespace HciSerial.Log

/-- How severe a record is, most severe first. -/
inductive Level where
  | error
  | warn
  | info
  | debug
  | trace
deriving DecidableEq

namespace Level

/-- The levels from the most severe to the most detailed. -/
def all : List Level := [error, warn, info, debug, trace]

/-- One for the most severe level, five for the most detailed. -/
def rank : Level → Nat
  | error => 1
  | warn => 2
  | info => 3
  | debug => 4
  | trace => 5

/-- The name of a level on the command line and in filters. -/
def name : Level → String
  | error => "error"
  | warn => "warn"
  | info => "info"
  | debug => "debug"
  | trace => "trace"

/-- The name of a level in log lines. -/
def label : Level → String
  | error => "ERROR"
  | warn => "WARN"
  | info => "INFO"
  | debug => "DEBUG"
  | trace => "TRACE"

end Level

/-- The part of the program that makes a record. -/
inductive Source where
  | framer
  | memoryLine
  | terminalLine
  | transport
  | decode
  | send
  | monitor
deriving DecidableEq

/-- The path that log filters are matched against. -/
def Source.path : Source → String
  | framer => "h4link_frame::framer"
  | memoryLine => "h4link_uart::mock"
  | terminalLine => "h4link_uart::posix"
  | transport => "h4link_transport::transport"
  | decode => "h4link::cmd::decode"
  | send => "h4link::cmd::send"
  | monitor => "h4link::cmd::monitor"

/-- The value of a field. -/
inductive Value where
  /-- A number. -/
  | number (value : Nat)
  /-- A rendered text, written as it is. -/
  | text (value : String)
  /-- A string, written between quotes in log lines. -/
  | string (value : String)
deriving DecidableEq

/-- One report. -/
structure Record where
  level : Level
  source : Source
  message : String
  fields : List (String × Value)
deriving DecidableEq

/-- Whether a record is at least as severe as `limit`. -/
def Record.within (limit : Level) (record : Record) : Bool :=
  record.level.rank ≤ limit.rank

end HciSerial.Log
