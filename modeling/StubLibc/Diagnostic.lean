import StubLibc.Capability
import StubLibc.Json.Document
import StubLibc.Knob

/-!
# Diagnostic records

What the library says on the hosted program's behalf.  A record is one line of a log: in text form
what a developer expects on a console, in JSON form the record itself, with its absent fields left
out.

The text form shows a symbol or detail as it is, so a label with a line feed in it spreads over
several lines there; the JSON form never does.
-/

namespace StubLibc.Diagnostic

/-- How serious a record is. -/
inductive Level where
  | info
  | warn
  | fatal
  deriving DecidableEq, Repr

namespace Level

def all : List Level := [info, warn, fatal]

def name : Level → String
  | info => "info"
  | warn => "warn"
  | fatal => "fatal"

end Level

/-- What happened. -/
inductive Event where
  /-- A trapped function was called. -/
  | unimplemented
  /-- A function skipped its real effect. -/
  | skipped
  /-- The program asked to exit. -/
  | exitRequested
  /-- The program asked for a command to be run. -/
  | commandRequested
  /-- A conversion was read over. -/
  | unknownFormatSpecifier
  deriving DecidableEq, Repr

namespace Event

def all : List Event :=
  [unimplemented, skipped, exitRequested, commandRequested, unknownFormatSpecifier]

def name : Event → String
  | unimplemented => "unimplemented"
  | skipped => "skipped"
  | exitRequested => "exit_requested"
  | commandRequested => "command_requested"
  | unknownFormatSpecifier => "unknown_format_specifier"

end Event

/-- One diagnostic. -/
structure Record where
  level : Level
  event : Event
  symbol : Option String := none
  family : Option Family := none
  detail : Option String := none
  deriving DecidableEq, Repr

namespace Record

/-- The record of a trap.  The family is absent when the table does not know the label. -/
def unimplemented (label : String) : Record where
  level := .fatal
  event := .unimplemented
  symbol := some label
  family := (Capability.ofSymbol? label).map Capability.family

/-- The record of an effect that a function skipped. -/
def skipped (capability : Capability) (detail : String) : Record where
  level := .warn
  event := .skipped
  symbol := some capability.symbol
  family := some capability.family
  detail := some detail

/-- The record of a conversion that was read over.  The detail is the character with the code of
the byte. -/
def unknownSpecifier (byte : UInt8) : Record where
  level := .warn
  event := .unknownFormatSpecifier
  family := some .stdio
  detail := some (String.singleton (Char.ofUInt8 byte))

/-- The record of a request that is not honoured. -/
def request (capability : Capability) (event : Event) (detail : String) : Record where
  level := .info
  event := event
  symbol := some capability.symbol
  family := some .process
  detail := some detail

/-- The text form, without the line end. -/
def text (record : Record) : String :=
  let symbol := record.symbol.getD "?"
  let detail := record.detail.getD ""
  match record.event with
  | .unimplemented => "unimplemented: " ++ symbol
  | .skipped => if detail = "" then "TODO: " ++ symbol else "TODO: " ++ symbol ++ " " ++ detail
  | .exitRequested => "exit: " ++ detail
  | .commandRequested => "system: " ++ detail
  | .unknownFormatSpecifier => "unknown format specifier: " ++ detail

/-- A member for a field that is present. -/
def member (key : String) (value : Option String) : List (String × Json.Document) :=
  match value with
  | some value => [(key, .text value)]
  | none => []

def document (record : Record) : Json.Document :=
  .object
    (member "level" (some record.level.name) ++ member "event" (some record.event.name) ++
      member "symbol" record.symbol ++ member "api_family" (record.family.map Family.name) ++
      member "detail" record.detail)

def line (format : LogFormat) (record : Record) : String :=
  match format with
  | .text => record.text ++ "\n"
  | .jsonl => String.ofList (record.document.compact ++ ['\n'])

/-- The line as it is written to a descriptor. -/
def bytes (format : LogFormat) (record : Record) : Bytes :=
  Bytes.ofText (record.line format)

end Record

end StubLibc.Diagnostic
