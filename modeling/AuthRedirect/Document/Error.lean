import AuthRedirect.Json.Reader
import AuthRedirect.Json.Shape

/-!
Why a stored document is not read.
-/

namespace AuthRedirect.Document

/-- What a document holds. -/
inductive Subject where
  | rules
  | organization
deriving DecidableEq, Repr

/-- Why a document is not read. -/
inductive DecodeError where
  /-- It is no JSON. -/
  | malformed (subject : Subject)
  /-- A string in it is not UTF-8. -/
  | undecodable
  /-- The rules are not in an array. -/
  | notAnArray
  /-- A value in it does not fit. -/
  | unfit (subject : Subject) (mismatch : Json.Mismatch)
deriving DecidableEq, Repr

/-- The message of a failure. -/
def DecodeError.message : DecodeError → String
  | .malformed .rules => "Malformed rule JSON"
  | .malformed .organization => "Malformed organization JSON"
  | .undecodable => "Text is not UTF-8"
  | .notAnArray => "Persisted redirection rules must be a JSON array"
  | .unfit .rules mismatch => "Invalid redirection rule: " ++ mismatch.message
  | .unfit .organization mismatch => "Invalid organization: " ++ mismatch.message

/-- A problem of reading JSON, as a failure to read a document. -/
def DecodeError.ofProblem (subject : Subject) : Json.Problem → DecodeError
  | .malformed => .malformed subject
  | .undecodable => .undecodable

/-- The JSON value of a document. -/
def parse (subject : Subject) (s : Text.RawText) : Except DecodeError Json :=
  (Json.parse s).mapError (DecodeError.ofProblem subject)

/-- The outcome of a check, as the outcome of reading a document. -/
def ofChecked (subject : Subject) (checked : Json.Checked α) : Except DecodeError α :=
  checked.mapError (DecodeError.unfit subject)

end AuthRedirect.Document
