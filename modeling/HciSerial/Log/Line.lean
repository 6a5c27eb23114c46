import HciSerial.Log.Record
import HciSerial.Text.JsonString
import HciSerial.Text.Quoted

/-!
# Log lines

A record as a line of text or as a JSON object.
-/

namespace HciSerial.Log

/-- How log lines are written. -/
inductive LineFormat where
  | text
  | json
deriving DecidableEq

/-- The line formats by the names they have on the command line. -/
def LineFormat.names : List (String × LineFormat) :=
  [("text", .text), ("json", .json)]

/-- A value in a line of text. -/
def Value.plain : Value → String
  | number value => toString value
  | text value => value
  | string value => Quoted.render value

/-- A value in a JSON object. -/
def Value.json : Value → String
  | number value => toString value
  | text value => JsonString.render value
  | string value => JsonString.render value

namespace Record

/-- A record as a line of text: level, message, fields. -/
def plainLine (record : Record) : String :=
  record.level.label ++ " " ++ record.message ++
    String.join (record.fields.map fun field => " " ++ field.1 ++ "=" ++ field.2.plain)

/-- A record as a JSON object; the message is the first of the fields. -/
def jsonLine (record : Record) : String :=
  let fields := ("message", JsonString.render record.message) ::
    record.fields.map fun field => (field.1, field.2.json)
  "\x7b\"level\":" ++ JsonString.render record.level.label ++ ",\"fields\":\x7b" ++
    String.intercalate "," (fields.map fun field =>
      JsonString.render field.1 ++ ":" ++ field.2) ++
    "\x7d\x7d"

/-- A record as a line. -/
def line : LineFormat → Record → String
  | .text, record => record.plainLine
  | .json, record => record.jsonLine

end Record

end HciSerial.Log
