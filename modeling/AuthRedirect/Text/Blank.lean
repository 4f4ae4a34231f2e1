import AuthRedirect.Text.CodeRange

/-!
Blank characters: what is dropped at both ends of a text before it is read, and
what makes a field count as empty. The set is wider than ASCII white space (it
has the no-break and the ideographic space and the separators U+001C to U+001F)
but holds neither the zero width space nor the byte order mark.

A text is a list of characters throughout this folder.
-/

namespace AuthRedirect.Text

/-- The blank characters. -/
def blanks : List CodeRange := [
  ⟨0x09, 0x0D⟩, ⟨0x1C, 0x20⟩, ⟨0x85, 0x85⟩, ⟨0xA0, 0xA0⟩, ⟨0x1680, 0x1680⟩, ⟨0x2000, 0x200A⟩,
  ⟨0x2028, 0x2029⟩, ⟨0x202F, 0x202F⟩, ⟨0x205F, 0x205F⟩, ⟨0x3000, 0x3000⟩]

def isBlank (c : Char) : Bool :=
  inRanges blanks c

/-! ## Cutting at the ends -/

/-- The text without its longest tail of characters that satisfy the test. -/
def dropTrailing (test : Char → Bool) (s : List Char) : List Char :=
  (s.reverse.dropWhile test).reverse

/-- The text without the blanks at both ends. -/
def trim (s : List Char) : List Char :=
  dropTrailing isBlank (s.dropWhile isBlank)

/-- Whether a text has no character other than blanks. -/
def allBlank (s : List Char) : Bool :=
  s.all isBlank

/-- Whether a field holds nothing but blanks. -/
def blank (s : String) : Bool :=
  allBlank s.toList

@[simp] theorem dropTrailing_nil (test : Char → Bool) : dropTrailing test [] = [] := rfl

theorem dropTrailing_concat (test : Char → Bool) (s : List Char) (c : Char) :
    dropTrailing test (s ++ [c]) = if test c then dropTrailing test s else s ++ [c] := by
  unfold dropTrailing
  rw [List.reverse_append, List.reverse_singleton, List.singleton_append, List.dropWhile_cons]
  split <;> simp

/-- A tail is dropped down to a character that stays, at most. -/
theorem dropTrailing_append_cons {test : Char → Bool} {c : Char} (stays : test c = false)
    (front s : List Char) :
    dropTrailing test (front ++ c :: s) = front ++ c :: dropTrailing test s := by
  have behind : (s.reverse ++ c :: front.reverse).dropWhile test =
      s.reverse.dropWhile test ++ c :: front.reverse := by
    rw [List.dropWhile_append]
    split
    · next all =>
        rw [List.isEmpty_iff.mp all, List.dropWhile_cons_of_neg (by simp [stays])]
        rfl
    · rfl
  unfold dropTrailing
  simp only [List.reverse_append, List.reverse_cons, List.append_assoc, List.cons_append,
    List.nil_append, behind, List.reverse_reverse]

/-- The dropped tail and the kept part make up the text. -/
theorem dropTrailing_append_tail (test : Char → Bool) (s : List Char) :
    dropTrailing test s ++ (s.reverse.takeWhile test).reverse = s := by
  unfold dropTrailing
  rw [← List.reverse_append, List.takeWhile_append_dropWhile, List.reverse_reverse]

end AuthRedirect.Text
