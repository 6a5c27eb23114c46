import HciSerial.Framing.ReceiveBuffer
import HciSerial.Text.Decimal

/-!
# Reading command lines

Options, flags and positional arguments of a command, read from left to right.

## Main Definitions

* `Usage.Shape`: what the value of an option must look like.
* `Usage.Grammar`: the arguments and subcommands of a command.
* `Usage.scan`: reads arguments up to a subcommand or the end.
* `Usage.Error`: why a command line is refused, or answered with a text.

## Design Notes

The value of an option is checked when the next argument needs the place, or at the end.
Until then it is *pending*.  An argument that is not known is reported before a pending
value that is wrong.  An option may be given once.
-/

namespace HciSerial.Usage

/-- Why a command line is not carried out. -/
inductive Error where
  /-- The help text was asked for. -/
  | displayHelp
  /-- The version was asked for. -/
  | displayVersion
  /-- There are no arguments at all. -/
  | helpOnMissing
  /-- There are options but no subcommand. -/
  | missingSubcommand
  | invalidSubcommand
  | unknownArgument
  /-- A value is missing, empty, or none of the possible ones. -/
  | invalidValue
  /-- A value cannot be read. -/
  | valueValidation
  /-- A flag was given a value. -/
  | tooManyValues
  /-- An argument was repeated, or excludes another. -/
  | argumentConflict
  | missingArgument
deriving DecidableEq

/-- The exit code of a program that ends with an error. -/
def Error.exitNumber : Error → Nat
  | displayHelp => 0
  | displayVersion => 0
  | _ => 2

/-- What the value of an option must look like. -/
inductive Shape where
  /-- Any text. -/
  | text
  /-- Any text but the empty one. -/
  | path
  /-- One of a list of names. -/
  | choice (names : List String)
  /-- A number without a minus sign, below a bound. -/
  | natural (bound : Nat)
  /-- A number that is not negative and below a bound; a signed zero counts. -/
  | ranged (bound : Nat)

/-- Checks the value of an option. -/
def Shape.check (shape : Shape) (value : String) : Except Error Unit :=
  match shape with
  | text => .ok ()
  | path => if value.isEmpty then .error .invalidValue else .ok ()
  | choice names => if names.contains value then .ok () else .error .invalidValue
  | natural bound =>
    match Decimal.natural bound value.toList with
    | .ok _ => .ok ()
    | .error _ => .error .valueValidation
  | ranged bound =>
    match Decimal.integer (Nat.pow 2 63) value.toList with
    | .ok number => if 0 ≤ number ∧ number < bound then .ok () else .error .valueValidation
    | .error _ => .error .valueValidation

/-- What a name stands for in a table of choices. -/
def meaning? {α : Type} (table : List (String × α)) (name : String) : Option α :=
  table.lookup name

/-- An argument: a flag has no shape. -/
structure Argument where
  name : String
  shape : Option Shape

/-- The arguments and subcommands of a command. -/
structure Grammar where
  options : List Argument
  /-- Names of positional arguments, in order. -/
  positionals : List String := []
  subcommands : List String := []
  /-- Whether the version can be asked for. -/
  hasVersion : Bool := false

/-- How far a command line has been read. -/
structure Reading where
  /-- Checked values by argument; a flag has the empty value. -/
  found : List (String × String) := []
  /-- The last argument, with its value once there is one. -/
  pending : Option (Argument × Option String) := none
  /-- The number of positional arguments so far. -/
  positionalCount : Nat := 0
  /-- Whether only positional arguments follow. -/
  trailing : Bool := false

namespace Reading

/-- Whether the last option waits for its value. -/
def awaitsValue (reading : Reading) : Bool :=
  match reading.pending with
  | some (_, none) => true
  | _ => false

/-- The value of an argument. -/
def value? (reading : Reading) (name : String) : Option String :=
  reading.found.lookup name

/-- Whether an argument was given. -/
def has (reading : Reading) (name : String) : Bool :=
  (reading.value? name).isSome

/-- Adds an argument that was not given before. -/
def add (reading : Reading) (name value : String) : Except Error Reading :=
  if reading.has name then .error .argumentConflict
  else .ok { reading with found := reading.found ++ [(name, value)] }

/-- Checks the last argument: its value must be there, be the only one, and fit. -/
def resolve (reading : Reading) : Except Error Reading :=
  match reading.pending with
  | none => .ok reading
  | some (_, none) => .error .invalidValue
  | some (argument, some value) =>
    if reading.has argument.name then .error .argumentConflict
    else
      match argument.shape.elim (.ok ()) (·.check value) with
      | .error error => .error error
      | .ok () =>
        ({ reading with pending := none } : Reading).add argument.name value

/-- Puts an argument in the place of the last one, which is checked first. -/
def push (reading : Reading) (argument : Argument) (value : Option String) :
    Except Error Reading :=
  (reading.resolve).map fun resolved => { resolved with pending := some (argument, value) }

end Reading

/-- Splits a long option at its first equals sign. -/
def splitOption (text : List Char) : String × Option String :=
  match text.span (· ≠ '=') with
  | (name, _ :: value) => (String.ofList name, some (String.ofList value))
  | (name, []) => (String.ofList name, none)

/-- A long option, without its dashes. -/
def readLong (grammar : Grammar) (reading : Reading) (text : List Char) :
    Except Error Reading :=
  let (name, value) := splitOption text
  let ask (error : Error) : Except Error Reading :=
    if value.isSome then .error .tooManyValues
    else
      match reading.resolve with
      | .ok _ => .error error
      | .error earlier => .error earlier
  if name = "help" then ask .displayHelp
  else if name = "version" ∧ grammar.hasVersion then ask .displayVersion
  else
    match grammar.options.find? (·.name = name) with
    | none => .error .unknownArgument
    | some argument =>
      match argument.shape, value with
      | none, some _ => .error .tooManyValues
      | none, none => (reading.resolve).bind (·.add name "")
      | some _, none => reading.push argument none
      | some _, some value => (reading.push argument (some value)).bind (·.resolve)

/-- A short option, given by its first letter. -/
def readShort (grammar : Grammar) (reading : Reading) (letter : Char) : Error :=
  let asked :=
    if letter = 'h' then some Error.displayHelp
    else if letter = 'V' ∧ grammar.hasVersion then some Error.displayVersion
    else none
  match asked with
  | none => .unknownArgument
  | some error =>
    match reading.resolve with
    | .ok _ => error
    | .error earlier => earlier

/-- A positional argument. -/
def readPositional (grammar : Grammar) (reading : Reading) (text : String) :
    Except Error Reading :=
  match grammar.positionals[reading.positionalCount]? with
  | some name =>
    (reading.push ⟨name, some .text⟩ (some text)).map fun pushed =>
      { pushed with positionalCount := pushed.positionalCount + 1 }
  | none =>
    if grammar.subcommands.isEmpty then .error .unknownArgument
    else if reading.trailing ∧ grammar.subcommands.contains text then .error .unknownArgument
    else .error .invalidSubcommand

/-- One argument that is no subcommand. -/
def readArgument (grammar : Grammar) (reading : Reading) (text : String) :
    Except Error Reading :=
  if reading.trailing then readPositional grammar reading text
  else
    match text.toList with
    | ['-', '-'] => .ok { reading with trailing := true }
    | '-' :: '-' :: long => readLong grammar reading long
    | '-' :: letter :: _ => .error (readShort grammar reading letter)
    | _ =>
      match reading.pending with
      | some (argument, none) => .ok { reading with pending := some (argument, some text) }
      | _ => readPositional grammar reading text

/-- Reads arguments up to a subcommand, which is given with what follows it. -/
def scan (grammar : Grammar) (reading : Reading) :
    List String → Except Error (Reading × Option (String × List String))
  | [] => .ok (reading, none)
  | text :: rest =>
    if !reading.trailing && !reading.awaitsValue && grammar.subcommands.contains text then
      .ok (reading, some (text, rest))
    else
      match readArgument grammar reading text with
      | .error error => .error error
      | .ok next => scan grammar next rest

/-- Reads all arguments of a command without subcommands. -/
def readAll (grammar : Grammar) (arguments : List String) : Except Error Reading :=
  (scan grammar {} arguments).bind fun result => result.1.resolve

end HciSerial.Usage
