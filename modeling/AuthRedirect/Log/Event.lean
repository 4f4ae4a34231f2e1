import AuthRedirect.Json.Printer

/-!
Structured log records: a named event with named fields, written as one line of
ASCII. Fields that have no value are left out.
-/

namespace AuthRedirect.Log

open AuthRedirect.Text

/-- The value of a field. -/
inductive Field where
  | text (value : String)
  | number (value : Int)
  | emptyList
deriving DecidableEq, Repr

/-- A named event with its fields, in the order in which they are written. -/
structure Event where
  name : String
  fields : List (String × Option Field)
deriving DecidableEq, Repr

/-- The value of a field in JSON. -/
def Field.toJson : Field → Json
  | .text value => .str value
  | .number value => .int value
  | .emptyList => .arr []

/-- The members with one field more, if the field has a value. -/
def addField (members : Json.Members) (field : String × Option Field) : Json.Members :=
  match field.2 with
  | some value => Json.put members field.1 value.toJson
  | none => members

/-- The members that an event makes up: its name comes first. A field called
`event` takes the place of the name. -/
def Event.members (event : Event) : Json.Members :=
  event.fields.foldl addField [("event", .str event.name)]

/-- The event as a JSON object. -/
def Event.toJson (event : Event) : Json :=
  .obj event.members

/-- The line that is logged. -/
def Event.message (event : Event) : String :=
  event.toJson.asciiText

/-! ## Long numbers -/

/-- Whether a field can be written where the digits of a number are limited. -/
def Field.fits (limit : Option Nat) : Field → Bool
  | .number value => fitsDigits limit value.natAbs
  | .text _ => true
  | .emptyList => true

/-- The line that is logged where the digits of a number are limited. A runtime
may refuse to write longer ones, and then nothing is logged. The counts that the
library itself reports come near no limit. -/
def Event.message? (limit : Option Nat) (event : Event) : Option String :=
  if event.fields.all fun field => field.2.all (Field.fits limit) then some event.message
  else none

end AuthRedirect.Log
