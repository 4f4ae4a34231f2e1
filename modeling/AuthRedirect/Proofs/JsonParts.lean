import AuthRedirect.Proofs.JsonRoundTrip
import AuthRedirect.Proofs.Outcomes

/-!
An array as a part of a longer text. The reader never looks below the containers that it has
opened itself, and an array ends with a token that nothing behind it can lengthen. So a text
that stands for an array on its own stands for the same array wherever a value may begin,
with anything behind it: `readFrom_array`.
-/

namespace AuthRedirect.Json

open AuthRedirect.Text

/-! ## Containers around a value -/

/-- A state with more containers around those that are open. A value that was complete goes
into the innermost of them. -/
def State.inside (outer : List Frame) : State → State
  | .awaitValue frames => .awaitValue (frames ++ outer)
  | .awaitFirstItem frames => .awaitFirstItem (frames ++ outer)
  | .awaitFirstName frames => .awaitFirstName (frames ++ outer)
  | .awaitName members frames => .awaitName members (frames ++ outer)
  | .awaitColon members name frames => .awaitColon members name (frames ++ outer)
  | .afterItem items frames => .afterItem items (frames ++ outer)
  | .afterMember members frames => .afterMember members (frames ++ outer)
  | .complete value => deliver value outer

variable {state next : State} {token : Token}

theorem deliver_append (value : Json) (frames outer : List Frame) :
    deliver value (frames ++ outer) = (deliver value frames).inside outer := by
  cases frames with
  | nil => rfl
  | cons frame rest => cases frame <;> rfl

theorem readValue_append {frames : List Frame} (outer : List Frame)
    (read : readValue frames token = .ok next) :
    readValue (frames ++ outer) token = .ok (next.inside outer) := by
  cases token with
  | openArray => cases read; rfl
  | openObject => cases read; rfl
  | atom value =>
      cases read
      exact congrArg Except.ok (deliver_append value frames outer)
  | number n =>
      rw [readValue] at read ⊢
      cases value : n.value? with
      | none =>
          rw [value] at read
          cases read
      | some found =>
          rw [value] at read
          cases read
          exact congrArg Except.ok (deliver_append found frames outer)
  | text characters =>
      obtain ⟨text, whole, delivered⟩ := bind_eq_ok_iff.mp read
      cases delivered
      rw [← deliver_append]
      exact bind_eq_ok_iff.mpr ⟨text, whole, rfl⟩
  | closeArray => cases read
  | closeObject => cases read
  | comma => cases read
  | colon => cases read
  | invalid => cases read

/-- A token is read alike with more containers around. -/
theorem State.read_inside (outer : List Frame) (read : state.read token = .ok next) :
    (state.inside outer).read token = .ok (next.inside outer) := by
  cases state with
  | awaitValue frames => exact readValue_append outer read
  | awaitFirstItem frames =>
      by_cases close : token = .closeArray
      · subst close
        cases read
        exact congrArg Except.ok (deliver_append _ frames outer)
      · rw [opens_awaitFirstItem frames token close] at read
        rw [State.inside, opens_awaitFirstItem _ token close]
        exact readValue_append outer read
  | awaitFirstName frames =>
      cases token with
      | closeObject =>
          cases read
          exact congrArg Except.ok (deliver_append _ frames outer)
      | text characters =>
          obtain ⟨name, whole, named⟩ := bind_eq_ok_iff.mp read
          cases named
          exact bind_eq_ok_iff.mpr ⟨name, whole, rfl⟩
      | _ => cases read
  | awaitName members frames =>
      cases token with
      | text characters =>
          obtain ⟨name, whole, named⟩ := bind_eq_ok_iff.mp read
          cases named
          exact bind_eq_ok_iff.mpr ⟨name, whole, rfl⟩
      | _ => cases read
  | awaitColon members name frames =>
      cases token with
      | colon => cases read; rfl
      | _ => cases read
  | afterItem items frames =>
      cases token with
      | comma => cases read; rfl
      | closeArray =>
          cases read
          exact congrArg Except.ok (deliver_append _ frames outer)
      | _ => cases read
  | afterMember members frames =>
      cases token with
      | comma => cases read; rfl
      | closeObject =>
          cases read
          exact congrArg Except.ok (deliver_append _ frames outer)
      | _ => cases read
  | complete value => cases token <;> cases read

theorem foldlM_read_inside (outer : List Frame) {tokens : List Token}
    (read : tokens.foldlM State.read state = .ok next) :
    tokens.foldlM State.read (state.inside outer) = .ok (next.inside outer) := by
  induction tokens generalizing state with
  | nil =>
      cases read
      rfl
  | cons token rest ih =>
      rw [List.foldlM_cons] at read ⊢
      obtain ⟨middle, first, later⟩ := bind_eq_ok_iff.mp read
      exact bind_eq_ok_iff.mpr ⟨_, State.read_inside outer first, ih later⟩

/-! ## The end of a text -/

/-- The tokens of a text, but for the one that its end adds, do not depend on what stands
behind it. -/
theorem exists_tokensAfter_append (mode : Mode) (s : RawText) :
    ∃ front last, tokensAfter mode s = front ++ finish last ∧
      ∀ rest, tokensAfter mode (s ++ rest) = front ++ tokensAfter last rest := by
  induction s generalizing mode with
  | nil => exact ⟨[], mode, rfl, fun _ => rfl⟩
  | cons symbol s ih =>
      obtain ⟨front, last, whole, more⟩ := ih (step mode symbol).2
      refine ⟨(step mode symbol).1 ++ front, last, ?_, fun rest => ?_⟩
      · rw [tokensAfter, whole, List.append_assoc]
      · rw [List.cons_append, tokensAfter, more, List.append_assoc]

theorem State.read_invalid (state : State) : state.read .invalid = .error .malformed := by
  cases state <;> rfl

/-- No number completes an array. -/
theorem State.read_number_ne {n : Numeral} {items : List Json} :
    state.read (.number n) ≠ .ok (.complete (.arr items)) := by
  intro read
  have delivered {frames : List Frame}
      (read : readValue frames (.number n) = .ok (.complete (.arr items))) : False := by
    rw [readValue] at read
    unfold Numeral.value? at read
    cases frames with
    | nil => split_ifs at read <;> cases read
    | cons frame rest => cases frame <;> split_ifs at read <;> cases read
  cases state with
  | awaitValue frames => exact delivered read
  | awaitFirstItem frames => exact delivered read
  | _ => cases read

/-- A text that stands for an array ends where a token does. -/
theorem tokensAfter_append_of_array {s : RawText} {items : List Json}
    (array : parse s = .ok (.arr items)) :
    (tokens s).foldlM State.read (.awaitValue []) = .ok (.complete (.arr items)) ∧
      ∀ rest, tokensAfter .between (s ++ rest) = tokens s ++ tokensAfter .between rest := by
  obtain ⟨state, read, value⟩ := bind_eq_ok_iff.mp array
  obtain rfl : state = .complete (.arr items) := by
    cases state with
    | complete value' =>
        cases value
        rfl
    | _ => cases value
  refine ⟨read, fun rest => ?_⟩
  obtain ⟨front, last, whole, more⟩ := exists_tokensAfter_append .between s
  rw [more rest, tokens, whole]
  rw [tokens, whole, List.foldlM_append] at read
  obtain ⟨middle, -, ended⟩ := bind_eq_ok_iff.mp read
  -- The end of the text would add a token to anything but a whole one.
  have unfinished : [Token.invalid].foldlM State.read middle ≠ .ok (.complete (.arr items)) := by
    rw [List.foldlM_cons, State.read_invalid]
    exact nofun
  cases last with
  | between => rw [finish, List.append_nil]
  | word _ _ _ => exact absurd ended unfinished
  | string _ _ => exact absurd ended unfinished
  | number n =>
      rw [finish, Numeral.token] at ended
      split at ended
      · rw [List.foldlM_cons] at ended
        obtain ⟨after, number, same⟩ := bind_eq_ok_iff.mp ended
        cases same
        exact absurd number State.read_number_ne
      · exact absurd ended unfinished

/-- An array is read wherever a value may begin, with anything behind it. -/
theorem readFrom_array {s : RawText} {items : List Json} (array : parse s = .ok (.arr items))
    (frames : List Frame) (rest : RawText) :
    readFrom (.awaitValue frames) .between (s ++ rest) =
      readFrom (deliver (.arr items) frames) .between rest := by
  obtain ⟨alone, append⟩ := tokensAfter_append_of_array array
  have inside := foldlM_read_inside frames alone
  rw [readFrom, append, List.foldlM_append]
  replace inside : (tokens s).foldlM State.read (.awaitValue frames) =
      .ok (deliver (.arr items) frames) := inside
  rw [inside]
  rfl

end AuthRedirect.Json
