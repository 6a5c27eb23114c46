import HciSerial.Log.Directive

/-!
# Log filters

Which records are written.  A filter is a list of directives such as
`warn,h4link_uart=trace`: a level, a target, or a target with a level.

## Main Definitions

* `Filter`: directives in the order in which they are tried.
* `Filter.parse`, `Filter.text`: a filter from its text, and back.
* `Filter.choose?`: the filter of a level or of a text that overrides it.
* `Filter.admits`: whether a record is written.

## Design Notes

More specific directives are tried first: those with a longer target, then those with
more fields, then the later ones in the order of texts.  The first directive whose
target the record's source begins with decides.  Of two directives for the same
target the later counts.  A directive for spans (`[name]`) concerns no record, since
no part of the program opens a span; it is kept and shown after the others.
-/

namespace HciSerial.Log

/-- The directives of a filter in the order in which they are tried. -/
structure Filter where
  /-- Directives that decide about records. -/
  records : List Directive
  /-- Directives that concern spans. -/
  spans : List Directive
deriving DecidableEq

namespace Filter

/-- A filter of the given directives. -/
def ofDirectives (directives : List Directive) : Filter :=
  let (dynamic, static) := directives.partition Directive.isDynamic
  { records := (static ++ dynamic.filter Directive.isStatic).foldl
      (fun placed directive => directive.insert placed) []
    spans := dynamic.foldl (fun placed directive => directive.insert placed) [] }

/-- A filter that admits everything up to a level. -/
def ofLevel (level : Level) : Filter :=
  ofDirectives [{ level := some level }]

/-- The stretches between commas, empty ones included. -/
def splitAtCommas : List Char → List (List Char)
  | [] => [[]]
  | c :: rest =>
    if c = ',' then [] :: splitAtCommas rest
    else
      match splitAtCommas rest with
      | [] => [[c]]
      | part :: more => (c :: part) :: more

/-- The parts of a filter text between commas, empty ones left out. -/
def parts (text : List Char) : List (List Char) :=
  (splitAtCommas text).filter (!·.isEmpty)

/-- The filter that a text stands for; the first bad directive spoils all of it. -/
def parse (text : String) : Except Directive.Error Filter :=
  ((parts text.toList).mapM Directive.parse).map ofDirectives

/-- The text of a filter. -/
def text (filter : Filter) : String :=
  String.intercalate "," ((filter.records ++ filter.spans).map Directive.text)

/-- The filter of a level, unless a text that can be read overrides it.

A text with a part that begins or ends inside a character gives no filter. -/
def choose? (level : Level) (override : Option String) : Option Filter :=
  match override.map parse with
  | some (.ok filter) => some filter
  | some (.error .splitCharacter) => none
  | some (.error .malformed) | none => some (ofLevel level)

/-- Whether a record is written. -/
def admits (filter : Filter) (record : Record) : Bool :=
  match filter.records.find? (·.concerns record) with
  | none => false
  | some directive =>
    match directive.level with
    | none => false
    | some level => record.within level

end Filter

/-- The level of a name on the command line. -/
def Level.ofName? (name : String) (ignoreCase : Bool) : Option Level :=
  let wanted := if ignoreCase then String.ofList (name.toList.map Char.toLower) else name
  Level.all.find? (·.name = wanted)

end HciSerial.Log
