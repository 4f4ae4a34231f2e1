import AuthRedirect.Json.Basic

/-!
Checking that a JSON value has the shape that a type asks for. Nothing is
converted: a number is no truth value, and a text that shows one is none either.
A mismatch says what was expected, what was found, and where.
-/

namespace AuthRedirect.Json

open AuthRedirect.Text

/-! ## Mismatches -/

/-- One step into a value. -/
inductive Step where
  | member (name : String)
  | item (index : Nat)
deriving DecidableEq, Repr

/-- What a place of a value may hold. -/
inductive Expected where
  | str
  | strOrNull
  | bool
  | arr
  | obj
deriving DecidableEq, Repr

/-- What is wrong at the end of a path. -/
inductive Fault where
  | kind (expected : Expected) (found : Kind)
  /-- A number is out of the range of double precision. -/
  | outOfRange
  | missing (field : String)
deriving DecidableEq, Repr

/-- The first thing about a value that does not fit, and the way to it. -/
structure Mismatch where
  fault : Fault
  path : List Step
deriving DecidableEq, Repr

/-- The words for an expected shape. -/
def Expected.name : Expected → String
  | .str => "str"
  | .strOrNull => "str | null"
  | .bool => "bool"
  | .arr => "array"
  | .obj => "object"

/-- A step as it is written in a path. -/
def Step.text : Step → String
  | .member name => "." ++ name
  | .item index => "[" ++ toString index ++ "]"

/-- A name between back quotes. -/
def marked (name : String) : String :=
  "\x60" ++ name ++ "\x60"

/-- The message of a mismatch. The path of the value itself is left out. -/
def Mismatch.message (mismatch : Mismatch) : String :=
  let fault := match mismatch.fault with
    | .kind expected found =>
        "Expected " ++ marked expected.name ++ ", got " ++ marked found.name
    | .outOfRange => "Number out of range"
    | .missing field => "Object missing required field " ++ marked field
  if mismatch.path.isEmpty then fault
  else fault ++ " - at " ++ marked ("$" ++ String.join (mismatch.path.map Step.text))

/-- The outcome of a check. -/
abbrev Checked := Except Mismatch

/-- What is found inside a part of a value is reported with the way to that part. -/
def within (step : Step) : Checked α → Checked α
  | .ok value => .ok value
  | .error mismatch => .error { mismatch with path := step :: mismatch.path }

/-! ## Single values -/

def wrongKind (expected : Expected) (found : Json) : Checked α :=
  .error ⟨.kind expected found.kind, []⟩

def asStr : Json → Checked String
  | .str text => .ok text
  | other => wrongKind .str other

def asStrOrNull : Json → Checked (Option String)
  | .str text => .ok (some text)
  | .null => .ok none
  | other => wrongKind .strOrNull other

def asBool : Json → Checked Bool
  | .bool value => .ok value
  | other => wrongKind .bool other

/-! ## Containers -/

/-- The items from the given index on, checked in order. -/
def itemsFrom (check : Json → Checked α) (index : Nat) : List Json → Checked (List α)
  | [] => .ok []
  | item :: rest => do
      let first ← within (.item index) (check item)
      let others ← itemsFrom check (index + 1) rest
      return first :: others

/-- An array whose items all pass the check. -/
def asList (check : Json → Checked α) : Json → Checked (List α)
  | .arr items => itemsFrom check 0 items
  | other => wrongKind .arr other

/-- The members of an object are taken in order, each with a chance to change
the record that is being filled in. -/
def fill (assign : α → String → Json → Checked α) (record : α) : Members → Checked α
  | [] => .ok record
  | (name, value) :: rest => do
      let filled ← within (.member name) (assign record name value)
      fill assign filled rest

end AuthRedirect.Json
