import AuthRedirect.Proofs.JsonRoundTrip
import AuthRedirect.Proofs.Outcomes
import AuthRedirect.Settings.Document

/-!
Documents of settings are objects. The reader of settings takes no other first token, and
what begins like an object is never read as another value: the container that was opened
first is the last one to be closed. So no text can be read both as settings and as an array.
-/

namespace AuthRedirect

open AuthRedirect.Json AuthRedirect.Text

/-! ## What begins like an object -/

namespace Json

/-- Whether the outermost container is an object. -/
def InObject (frames : List Frame) : Prop :=
  ∃ members name, frames.getLast? = some (.object members name)

/-- Whether the text that is being read is that of an object. -/
def State.IsObject : State → Prop
  | .awaitValue frames | .awaitFirstItem frames | .afterItem _ frames => InObject frames
  | .awaitFirstName frames | .awaitName _ frames | .awaitColon _ _ frames
  | .afterMember _ frames => frames = [] ∨ InObject frames
  | .complete value => ∃ members, value = .obj members

variable {frames : List Frame} {state next : State} {token : Token} {value : Json}

theorem InObject.cons (inside : InObject frames) (frame : Frame) : InObject (frame :: frames) := by
  obtain ⟨members, name, last⟩ := inside
  refine ⟨members, name, ?_⟩
  rw [List.getLast?_cons, last]
  rfl

theorem inObject_object (outer : frames = [] ∨ InObject frames) (members : Members)
    (name : String) : InObject (.object members name :: frames) := by
  rcases outer with rfl | inside
  · exact ⟨members, name, rfl⟩
  · exact inside.cons _

/-- A value inside an object leaves it open. -/
theorem isObject_deliver (inside : InObject frames) (value : Json) :
    (deliver value frames).IsObject := by
  obtain ⟨members, name, last⟩ := inside
  cases frames with
  | nil => cases last
  | cons frame rest =>
      have outer : rest = [] ∧ frame = .object members name ∨ InObject rest := by
        rw [List.getLast?_cons] at last
        cases outermost : rest.getLast? with
        | none =>
            rw [outermost] at last
            exact .inl ⟨List.getLast?_eq_none_iff.mp outermost, Option.some.inj last⟩
        | some frame =>
            rw [outermost] at last
            exact .inr ⟨members, name, outermost.trans last⟩
      cases frame with
      | array items =>
          rcases outer with ⟨-, wrong⟩ | inside
          · cases wrong
          · exact inside
      | object members name =>
          exact outer.imp_left And.left

/-- An object that ends is the whole value or stands inside one. -/
theorem isObject_deliver_obj (outer : frames = [] ∨ InObject frames) (members : Members) :
    (deliver (.obj members) frames).IsObject := by
  rcases outer with rfl | inside
  · exact ⟨members, rfl⟩
  · exact isObject_deliver inside _

theorem isObject_readValue (inside : InObject frames) (read : readValue frames token = .ok next) :
    next.IsObject := by
  cases token with
  | openArray => cases read; exact inside
  | openObject => cases read; exact .inr inside
  | atom value => cases read; exact isObject_deliver inside value
  | number n =>
      rw [readValue] at read
      cases value : n.value? with
      | none => rw [value] at read; cases read
      | some found => rw [value] at read; cases read; exact isObject_deliver inside found
  | text characters =>
      obtain ⟨text, -, delivered⟩ := bind_eq_ok_iff.mp read
      cases delivered
      exact isObject_deliver inside _
  | _ => cases read

/-- The text of an object stays one. -/
theorem State.IsObject.read (isObject : state.IsObject) (read : state.read token = .ok next) :
    next.IsObject := by
  cases state with
  | awaitValue frames => exact isObject_readValue isObject read
  | awaitFirstItem frames =>
      by_cases close : token = .closeArray
      · subst close
        cases read
        exact isObject_deliver isObject _
      · rw [opens_awaitFirstItem frames token close] at read
        exact isObject_readValue (isObject.cons _) read
  | awaitFirstName frames =>
      cases token with
      | closeObject => cases read; exact isObject_deliver_obj isObject _
      | text characters =>
          obtain ⟨name, -, named⟩ := bind_eq_ok_iff.mp read
          cases named
          exact isObject
      | _ => cases read
  | awaitName members frames =>
      cases token with
      | text characters =>
          obtain ⟨name, -, named⟩ := bind_eq_ok_iff.mp read
          cases named
          exact isObject
      | _ => cases read
  | awaitColon members name frames =>
      cases token with
      | colon => cases read; exact inObject_object isObject members name
      | _ => cases read
  | afterItem items frames =>
      cases token with
      | comma => cases read; exact isObject.cons _
      | closeArray => cases read; exact isObject_deliver isObject _
      | _ => cases read
  | afterMember members frames =>
      cases token with
      | comma => cases read; exact isObject
      | closeObject => cases read; exact isObject_deliver_obj isObject _
      | _ => cases read
  | complete value => cases token <;> cases read

/-- A text whose first token opens an object is read as an object. -/
theorem exists_obj_of_openObject {s : RawText} {rest : List Token}
    (opened : tokens s = .openObject :: rest) (read : parse s = .ok value) :
    ∃ members, value = .obj members := by
  obtain ⟨last, run, ended⟩ := bind_eq_ok_iff.mp read
  rw [opened, List.foldlM_cons] at run
  obtain ⟨first, entered, later⟩ := bind_eq_ok_iff.mp run
  cases entered
  have begun : State.IsObject (.awaitFirstName []) := .inl rfl
  have isObject : last.IsObject :=
    foldlM_preserves (fun _ _ _ => State.IsObject.read) begun later
  cases last with
  | complete found =>
      cases ended
      exact isObject
  | _ => cases ended

end Json

/-! ## Settings -/

namespace Settings

/-- Settings are read from a text whose first token opens an object. -/
theorem exists_tokens_of_ofDocument {s : RawText} {settings : Settings}
    (read : ofDocument s = .ok settings) : ∃ rest, tokens s = .openObject :: rest := by
  obtain ⟨last, run, ended⟩ := bind_eq_ok_iff.mp read
  cases shown : tokens s with
  | nil =>
      rw [shown] at run
      cases run
      cases ended
  | cons token rest =>
      rw [shown, List.foldlM_cons] at run
      obtain ⟨first, entered, -⟩ := bind_eq_ok_iff.mp run
      cases token with
      | openObject => exact ⟨rest, rfl⟩
      | number n =>
          change refuse .obj [] (.number n) = _ at entered
          rw [refuse] at entered
          split at entered <;> cases entered
      | _ => cases entered

/-- No text is read both as settings and as an array. -/
theorem parse_ne_arr_of_ofDocument {s : RawText} {settings : Settings}
    (read : ofDocument s = .ok settings) (items : List Json) : Json.parse s ≠ .ok (.arr items) := by
  intro array
  obtain ⟨rest, opened⟩ := exists_tokens_of_ofDocument read
  obtain ⟨members, same⟩ := exists_obj_of_openObject opened array
  cases same

end Settings

end AuthRedirect
