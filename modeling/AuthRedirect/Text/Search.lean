/-!
Finding a text inside another, and cutting a text at a character.
-/

namespace AuthRedirect.Text

/-! ## Containment -/

/-- Whether `part` stands somewhere in the text, at any offset. -/
def occursIn (part : List Char) : List Char → Bool
  | [] => part.isEmpty
  | c :: rest => part.isPrefixOf (c :: rest) || occursIn part rest

theorem occursIn_iff {part whole : List Char} : occursIn part whole = true ↔ part <:+: whole := by
  induction whole with
  | nil => simp [occursIn]
  | cons c rest ih =>
      rw [occursIn, Bool.or_eq_true, List.isPrefixOf_iff_prefix, ih, List.infix_cons_iff]

/-- Whether one of two texts stands somewhere in the other. -/
def overlapping (left right : List Char) : Bool :=
  occursIn left right || occursIn right left

theorem overlapping_comm (left right : List Char) :
    overlapping left right = overlapping right left := by
  simp [overlapping, Bool.or_comm]

/-! ## Cutting at a character -/

/-- The text before the first `sep`, and the text after it if there is one. -/
def cutFirst (sep : Char) (s : List Char) : List Char × Option (List Char) :=
  (s.takeWhile (· != sep), (s.dropWhile (· != sep)).tail?)

/-- The text after the last `sep`, or all of it when there is none. -/
def afterLast (sep : Char) (s : List Char) : List Char :=
  (s.reverse.takeWhile (· != sep)).reverse

/-- The text after the first occurrence of `mark`, if there is one. -/
def after? (mark : List Char) : List Char → Option (List Char)
  | [] => if mark.isEmpty then some [] else none
  | c :: rest =>
      if mark.isPrefixOf (c :: rest) then some ((c :: rest).drop mark.length) else after? mark rest

/-- The text with the first occurrence of `old` replaced by `new`. -/
def replaceFirst (old new : List Char) : List Char → List Char
  | [] => if old.isEmpty then new else []
  | c :: rest =>
      if old.isPrefixOf (c :: rest) then new ++ (c :: rest).drop old.length
      else c :: replaceFirst old new rest

theorem bne_of_not_mem {sep : Char} {s : List Char} (absent : sep ∉ s) :
    ∀ c ∈ s, (c != sep) = true :=
  fun _ among => bne_iff_ne.2 fun same => absent (same ▸ among)

theorem cutFirst_append {sep : Char} {front : List Char} (absent : sep ∉ front) (rest : List Char) :
    cutFirst sep (front ++ sep :: rest) = (front, some rest) := by
  have passes := bne_of_not_mem absent
  rw [cutFirst, List.takeWhile_append_of_pos passes, List.dropWhile_append_of_pos passes]
  simp

theorem cutFirst_of_not_mem {sep : Char} {s : List Char} (absent : sep ∉ s) :
    cutFirst sep s = (s, none) := by
  have passes := bne_of_not_mem absent
  have all : (s ++ []).takeWhile (· != sep) = s ++ [] := List.takeWhile_append_of_pos passes
  have rest : (s ++ []).dropWhile (· != sep) = [] := List.dropWhile_append_of_pos passes
  rw [List.append_nil] at all rest
  rw [cutFirst, all, rest]
  rfl

end AuthRedirect.Text
