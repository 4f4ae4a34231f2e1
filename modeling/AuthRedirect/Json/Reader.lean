import AuthRedirect.Json.Token

/-!
Reading a JSON value from its tokens, one token at a time. The reader keeps the
containers that are still open, innermost first, and what may come next. It
stops at the first token that does not fit. A string is refused when its text
has gaps; this is told apart from a malformed text, because it says that the
bytes were not UTF-8.
-/

namespace AuthRedirect.Json

open AuthRedirect.Text

/-- Why a text is no JSON value. -/
inductive Problem where
  | malformed
  | undecodable
deriving DecidableEq, Repr

/-- A container that waits for a value: an array with its items so far, the last
one first, or an object with its members so far and the name of the next one. -/
inductive Frame where
  | array (items : List Json)
  | object (members : Members) (name : String)

/-- What may come next. -/
inductive State where
  /-- A value. -/
  | awaitValue (frames : List Frame)
  /-- The first item of an array, or its end. -/
  | awaitFirstItem (frames : List Frame)
  /-- The first name of an object, or its end. -/
  | awaitFirstName (frames : List Frame)
  /-- The name of another member. -/
  | awaitName (members : Members) (frames : List Frame)
  /-- The colon after a name. -/
  | awaitColon (members : Members) (name : String) (frames : List Frame)
  /-- A comma, or the end of an array. -/
  | afterItem (items : List Json) (frames : List Frame)
  /-- A comma, or the end of an object. -/
  | afterMember (members : Members) (frames : List Frame)
  /-- Nothing. -/
  | complete (value : Json)

/-- A value that has been read goes into the innermost container. -/
def deliver (value : Json) : List Frame → State
  | [] => .complete value
  | .array items :: frames => .afterItem (value :: items) frames
  | .object members name :: frames => .afterMember (put members name value) frames

/-- The string that a token stands for. -/
def wholeText (read : RawText) : Except Problem String :=
  match read.whole? with
  | some characters => .ok (String.ofList characters)
  | none => .error .undecodable

/-- The first token of a value that goes into the given containers. -/
def readValue (frames : List Frame) : Token → Except Problem State
  | .openArray => .ok (.awaitFirstItem frames)
  | .openObject => .ok (.awaitFirstName frames)
  | .atom value => .ok (deliver value frames)
  | .number n =>
      match n.value? with
      | some value => .ok (deliver value frames)
      | none => .error .malformed
  | .text read => do
      let text ← wholeText read
      return deliver (.str text) frames
  | _ => .error .malformed

/-- One token. -/
def State.read : State → Token → Except Problem State
  | .awaitValue frames, token => readValue frames token
  | .awaitFirstItem frames, .closeArray => .ok (deliver (.arr []) frames)
  | .awaitFirstItem frames, token => readValue (.array [] :: frames) token
  | .awaitFirstName frames, .closeObject => .ok (deliver (.obj []) frames)
  | .awaitFirstName frames, .text read => do
      let name ← wholeText read
      return .awaitColon [] name frames
  | .awaitName members frames, .text read => do
      let name ← wholeText read
      return .awaitColon members name frames
  | .awaitColon members name frames, .colon => .ok (.awaitValue (.object members name :: frames))
  | .afterItem items frames, .comma => .ok (.awaitValue (.array items :: frames))
  | .afterItem items frames, .closeArray => .ok (deliver (.arr items.reverse) frames)
  | .afterMember members frames, .comma => .ok (.awaitName members frames)
  | .afterMember members frames, .closeObject => .ok (deliver (.obj members) frames)
  | _, _ => .error .malformed

/-- The value of a text that has ended. -/
def State.value? : State → Except Problem Json
  | .complete value => .ok value
  | _ => .error .malformed

/-- The value that a text stands for. -/
def parse (s : RawText) : Except Problem Json := do
  let last ← (tokens s).foldlM State.read (.awaitValue [])
  last.value?

end AuthRedirect.Json
