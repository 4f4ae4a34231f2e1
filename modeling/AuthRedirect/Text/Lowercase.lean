import AuthRedirect.Text.CaseTable

/-!
Writing a text in lower case. Each letter is replaced by its small form on its
own, with two exceptions: the dotted capital I becomes two characters, and a
capital sigma at the end of a word becomes the final form of the small letter.
-/

namespace AuthRedirect.Text

/-! ## One letter -/

/-- The small form of a character beyond ASCII. -/
def smallLetter (c : Char) : Char :=
  match caseRuns.find? fun run => run.holds c.toNat with
  | some run => Char.ofNat (run.small + (c.toNat - run.first))
  | none => c

/-- What a character other than a capital sigma becomes. -/
def lowercaseChar (c : Char) : List Char :=
  if c.toNat < 0x80 then [c.toLower]
  else if c = '\u0130' then ['i', '\u0307']
  else [smallLetter c]

theorem lowercaseChar_ascii {c : Char} (ascii : c.toNat < 0x80) :
    lowercaseChar c = [c.toLower] := by
  simp [lowercaseChar, ascii]

/-! ## The form of a sigma -/

/-- Whether the first character of the text that counts is a letter with case. -/
def startsWithLetter (s : List Char) : Bool :=
  match s.find? fun c => !inRanges caseIgnorable c with
  | some c => inRanges cased c
  | none => false

/-- The small form of a sigma after `before`, which is given backwards, and in
front of `after`: the final form when a letter precedes it and none follows. -/
def smallSigma (before after : List Char) : Char :=
  if startsWithLetter before && !startsWithLetter after then 'ς' else 'σ'

/-! ## A whole text -/

/-- The lower-case form of a text that follows `before`, given backwards. -/
def lowercaseAfter (before : List Char) : List Char → List Char
  | [] => []
  | c :: rest =>
      (if c = 'Σ' then [smallSigma before rest] else lowercaseChar c) ++
        lowercaseAfter (c :: before) rest

/-- The text in lower case. -/
def lowercase (s : List Char) : List Char :=
  lowercaseAfter [] s

theorem lowercaseAfter_ascii {s : List Char} (before : List Char)
    (ascii : ∀ c ∈ s, c.toNat < 0x80) :
    lowercaseAfter before s = s.map Char.toLower := by
  induction s generalizing before with
  | nil => rfl
  | cons c rest ih =>
      have head : c.toNat < 0x80 := ascii c List.mem_cons_self
      have notSigma : c ≠ 'Σ' := by
        rintro rfl
        exact absurd head (by decide)
      rw [lowercaseAfter, if_neg notSigma, lowercaseChar_ascii head,
        ih _ fun d member => ascii d (List.mem_cons_of_mem _ member)]
      rfl

/-- An ASCII text is written in lower case letter by letter. -/
theorem lowercase_ascii {s : List Char} (ascii : ∀ c ∈ s, c.toNat < 0x80) :
    lowercase s = s.map Char.toLower :=
  lowercaseAfter_ascii [] ascii

/-- The string in lower case. -/
def lower (s : String) : String :=
  String.ofList (lowercase s.toList)

@[simp] theorem toList_lower (s : String) : (lower s).toList = lowercase s.toList := by
  simp [lower]

end AuthRedirect.Text
