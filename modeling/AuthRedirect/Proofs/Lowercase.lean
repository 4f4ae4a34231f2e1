import AuthRedirect.Text.Blank
import AuthRedirect.Text.Lowercase
import AuthRedirect.Text.Search
import Mathlib.Data.List.Basic
import Mathlib.Data.List.TakeWhile

/-!
What lower case makes of the characters of a text, and of a part of it. Lower case
brings in no characters but small letters and the dot above, and leaves what it has
written as it is. A capital sigma looks at the letters around it, so the lower-case
form of a part is not, in general, a part of the lower-case form of the whole. It is
one behind a character such as a slash, which shuts off what stands before
(`suffix_lowercase_of_after?`), and between blanks (`lowercase_trim_infix`).
-/

namespace AuthRedirect.Text

/-! ## Letter by letter -/

variable {c d : Char}

/-- What holds of every character of ASCII can be checked code by code. -/
theorem forall_ascii (test : Char → Prop) (table : ∀ code < 0x80, test (Char.ofNat code)) :
    ∀ c : Char, c.toNat < 0x80 → test c := by
  intro c ascii
  have entry := table c.toNat ascii
  rwa [Char.ofNat_toNat] at entry

theorem ascii_of_isAlphanum (name : c.isAlphanum = true) : c.toNat < 0x80 := by
  rcases (Bool.or_eq_true _ _).mp name with letter | digit
  · rcases (Bool.or_eq_true _ _).mp letter with capital | small
    · have range : c.val ≥ 'A'.val ∧ c.val ≤ 'Z'.val := of_decide_eq_true capital
      exact Nat.lt_of_le_of_lt (UInt32.le_iff_toNat_le.mp range.2) (by decide)
    · have bound : c.val ≤ 'z'.val := of_decide_eq_true ((Bool.and_eq_true _ _).mp small).2
      exact Nat.lt_of_le_of_lt (UInt32.le_iff_toNat_le.mp bound) (by decide)
  · exact Nat.lt_of_le_of_lt (Char.isDigit_iff_toNat.mp digit).2 (by decide)

theorem toLower_of_not_ascii (beyond : ¬ c.toNat < 0x80) : c.toLower = c := by
  unfold Char.toLower
  rw [dif_neg]
  intro ⟨_, capital⟩
  exact beyond (Nat.lt_of_le_of_lt capital (by decide))

/-- Only a small letter is the small form of another character. -/
theorem eq_of_toLower_eq (small : d.toNat < 0x61) (same : c.toLower = d) : c = d := by
  by_cases ascii : c.toNat < 0x80
  · have entry := forall_ascii (fun c => c.toLower.toNat < 0x61 → c.toLower = c) (by decide) c
      ascii
    rw [same] at entry
    exact (entry small).symm
  · rw [← same, toLower_of_not_ascii ascii]

/-- Where the small letters of a run lie: on one side of the surrogates, beyond the capitals of
ASCII, on one side of the dotted capital, and beyond ASCII but for the Kelvin sign. -/
theorem small_bounds : ∀ run ∈ caseRuns,
    (run.small + (run.last - run.first) < 0xD800 ∨
        0xDFFF < run.small ∧ run.small + (run.last - run.first) < 0x110000) ∧
      0x61 ≤ run.small ∧
      (run.small + (run.last - run.first) < 0x130 ∨ 0x130 < run.small) ∧
      (0x80 ≤ run.small ∨ run.first = 0x212A ∧ run.last = 0x212A) := by
  decide +kernel

/-- The code point of a small letter that a run stands for. -/
theorem toNat_of_run {run : CaseRun} (listed : run ∈ caseRuns) (holds : run.holds c.toNat = true) :
    (Char.ofNat (run.small + (c.toNat - run.first))).toNat =
      run.small + (c.toNat - run.first) := by
  obtain ⟨surrogates, -⟩ := small_bounds _ listed
  simp only [CaseRun.holds, Bool.and_eq_true, decide_eq_true_eq] at holds
  have valid : (run.small + (c.toNat - run.first)).isValidChar := by
    unfold Nat.isValidChar
    omega
  rw [Char.ofNat, dif_pos valid]
  rfl

/-- A run of capitals beyond ASCII stands for small letters, of ASCII or beyond. -/
theorem le_toNat_of_run {run : CaseRun} (listed : run ∈ caseRuns)
    (holds : run.holds c.toNat = true) :
    0x61 ≤ (Char.ofNat (run.small + (c.toNat - run.first))).toNat := by
  obtain ⟨-, large, -⟩ := small_bounds _ listed
  rw [toNat_of_run listed holds]
  exact Nat.le_add_right_of_le large

theorem smallLetter_cases (c : Char) : smallLetter c = c ∨ 0x61 ≤ (smallLetter c).toNat := by
  unfold smallLetter
  split
  · next run found =>
      have holds := List.find?_some found
      exact .inr (le_toNat_of_run (List.mem_of_find?_eq_some found) holds)
  · exact .inl rfl

theorem eq_of_mem_lowercaseChar (small : d.toNat < 0x61) (among : d ∈ lowercaseChar c) : c = d := by
  unfold lowercaseChar at among
  split at among
  · exact eq_of_toLower_eq small (List.mem_singleton.mp among).symm
  · split at among
    · rcases List.mem_pair.mp among with rfl | rfl
      · exact absurd small (by decide)
      · exact absurd small (by decide)
    · rw [List.mem_singleton] at among
      rcases smallLetter_cases c with same | large
      · rw [among, same]
      · rw [← among] at large
        omega

/-- Lower case brings in no characters but small letters. -/
theorem mem_of_mem_lowercaseAfter {before s : List Char} (small : d.toNat < 0x61)
    (among : d ∈ lowercaseAfter before s) : d ∈ s := by
  induction s generalizing before with
  | nil => exact among
  | cons c s ih =>
      rw [lowercaseAfter, List.mem_append] at among
      rcases among with first | rest
      · split at first
        · rw [List.mem_singleton, smallSigma] at first
          split at first
          all_goals
            rw [first] at small
            exact absurd small (by decide)
        · rw [eq_of_mem_lowercaseChar small first]
          exact List.mem_cons_self
      · exact List.mem_cons_of_mem _ (ih rest)

theorem mem_of_mem_lowercase {s : List Char} (small : d.toNat < 0x61) (among : d ∈ lowercase s) :
    d ∈ s :=
  mem_of_mem_lowercaseAfter small among

theorem lowercaseChar_ne_nil (c : Char) : lowercaseChar c ≠ [] := by
  unfold lowercaseChar
  split
  · exact List.cons_ne_nil _ _
  · split <;> exact List.cons_ne_nil _ _

theorem lowercase_ne_nil {s : List Char} (some : s ≠ []) : lowercase s ≠ [] := by
  cases s with
  | nil => exact absurd rfl some
  | cons c s =>
      rw [lowercase, lowercaseAfter]
      intro empty
      have first := (List.append_eq_nil_iff.mp empty).1
      split at first
      · cases first
      · exact lowercaseChar_ne_nil c first

/-! ## Lower case over again -/

/-- The small letters of a run are capitals of none: they lie outside the other run, or
between its capitals. -/
theorem holds_small_eq_false {run other : CaseRun} (listed : run ∈ caseRuns)
    (holds : run.holds c.toNat = true) (among : other ∈ caseRuns) :
    other.holds (run.small + (c.toNat - run.first)) = false := by
  have table : caseRuns.all (fun run => caseRuns.all fun other =>
      Nat.blt (run.small + (run.last - run.first)) other.first ||
        Nat.blt other.last run.small ||
        (run.step == 2 || run.first == run.last) && other.step == 2 &&
          (run.small + other.first) % 2 == 1) = true := by
    decide +kernel
  have entry := List.all_eq_true.mp (List.all_eq_true.mp table run listed) other among
  simp only [CaseRun.holds, Bool.and_eq_true, Bool.or_eq_true, decide_eq_true_eq, beq_iff_eq,
    Nat.blt_eq] at entry holds
  obtain ⟨⟨first, last⟩, stride⟩ := holds
  rw [Bool.eq_false_iff]
  intro capital
  simp only [CaseRun.holds, Bool.and_eq_true, decide_eq_true_eq, beq_iff_eq] at capital
  obtain ⟨⟨above, below⟩, stride'⟩ := capital
  rcases entry with (before | behind) | ⟨⟨even | single, two⟩, odd⟩
  · omega
  · omega
  · rw [even] at stride
    rw [two] at stride'
    omega
  · rw [two] at stride'
    omega

/-- The small letter of a capital is its own small form. -/
theorem lowercaseChar_of_run {run : CaseRun} (listed : run ∈ caseRuns)
    (holds : run.holds c.toNat = true) :
    lowercaseChar (Char.ofNat (run.small + (c.toNat - run.first))) =
      [Char.ofNat (run.small + (c.toNat - run.first))] := by
  have code := toNat_of_run listed holds
  have none : ∀ other ∈ caseRuns, ¬ other.holds (run.small + (c.toNat - run.first)) = true := by
    intro other among
    rw [holds_small_eq_false listed holds among]
    exact Bool.false_ne_true
  obtain ⟨-, -, notDotted, -⟩ := small_bounds _ listed
  have large := le_toNat_of_run listed holds
  simp only [CaseRun.holds, Bool.and_eq_true, decide_eq_true_eq] at holds
  generalize Char.ofNat (run.small + (c.toNat - run.first)) = d at code large
  rw [← code] at none
  unfold lowercaseChar
  split
  · next ascii =>
      have entry := forall_ascii (fun c => 0x61 ≤ c.toNat → c.toLower = c) (by decide) d ascii
      rw [entry large]
  · split
    · next same =>
        rw [same] at code
        have value : '\u0130'.toNat = 0x130 := by decide
        omega
    · rw [smallLetter, List.find?_eq_none.mpr none]

/-- What lower case makes of a character is left as it is by lower case. -/
theorem lowercaseChar_of_mem (among : d ∈ lowercaseChar c) : lowercaseChar d = [d] := by
  unfold lowercaseChar at among
  split at among
  · next ascii =>
      rw [List.mem_singleton.mp among]
      exact forall_ascii (fun c => lowercaseChar c.toLower = [c.toLower]) (by decide) c ascii
  · next beyond =>
      split at among
      · rcases List.mem_pair.mp among with rfl | rfl
        · decide
        · decide
      · next notDotted =>
          rw [List.mem_singleton.mp among, smallLetter]
          cases found : caseRuns.find? fun run => run.holds c.toNat with
          | some run =>
              have holds := List.find?_some found
              exact lowercaseChar_of_run (List.mem_of_find?_eq_some found) holds
          | none => rw [lowercaseChar, if_neg beyond, if_neg notDotted, smallLetter, found]

/-- What lower case has written is left as it is by lower case. -/
theorem lowercaseChar_of_mem_lowercaseAfter {before s : List Char}
    (among : d ∈ lowercaseAfter before s) : lowercaseChar d = [d] := by
  induction s generalizing before with
  | nil => cases among
  | cons c s ih =>
      rw [lowercaseAfter, List.mem_append] at among
      rcases among with first | rest
      · split at first
        · have sigmas : lowercaseChar 'ς' = ['ς'] ∧ lowercaseChar 'σ' = ['σ'] := by decide
          rw [List.mem_singleton, smallSigma] at first
          split at first
          · rw [first, sigmas.1]
          · rw [first, sigmas.2]
        · exact lowercaseChar_of_mem first
      · exact ih rest

theorem lowercaseAfter_of_small {s : List Char} (small : ∀ c ∈ s, lowercaseChar c = [c])
    (before : List Char) : lowercaseAfter before s = s := by
  induction s generalizing before with
  | nil => rfl
  | cons c s ih =>
      obtain ⟨first, rest⟩ := List.forall_mem_cons.mp small
      have notSigma : c ≠ 'Σ' := by
        rintro rfl
        exact absurd first (by decide)
      rw [lowercaseAfter, if_neg notSigma, first, ih rest]
      rfl

/-- Any characters of a text in lower case are in lower case. -/
theorem lowercase_of_subset {s t : List Char} (part : t ⊆ lowercase s) : lowercase t = t :=
  lowercaseAfter_of_small (fun _ among => lowercaseChar_of_mem_lowercaseAfter (part among)) []

/-! ## Small forms in ASCII -/

/-- Whether a character has a small form in ASCII: it is in ASCII itself, or the Kelvin sign. -/
def HasAsciiForm (c : Char) : Prop :=
  c.toNat < 0x80 ∨ c = '\u212A'

/-- The small form of a character that has one in ASCII. -/
def asciiForm (c : Char) : Char :=
  if c = '\u212A' then 'k' else c.toLower

theorem lowercaseChar_of_hasAsciiForm (form : HasAsciiForm c) :
    lowercaseChar c = [asciiForm c] := by
  rcases form with ascii | rfl
  · have other : c ≠ '\u212A' := by
      rintro rfl
      exact absurd ascii (by decide)
    rw [lowercaseChar_ascii ascii, asciiForm, if_neg other]
  · decide

theorem hasAsciiForm_of_lowercaseChar (ascii : ∀ d ∈ lowercaseChar c, d.toNat < 0x80) :
    HasAsciiForm c := by
  by_cases given : c.toNat < 0x80
  · exact .inl given
  · refine .inr ?_
    unfold lowercaseChar at ascii
    rw [if_neg given] at ascii
    split at ascii
    · exact absurd (ascii '\u0307' (by decide)) (by decide)
    · rw [List.forall_mem_singleton, smallLetter] at ascii
      split at ascii
      · next run found =>
          have listed := List.mem_of_find?_eq_some found
          have holds := List.find?_some found
          obtain ⟨-, -, -, kelvin⟩ := small_bounds _ listed
          rw [toNat_of_run listed holds] at ascii
          simp only [CaseRun.holds, Bool.and_eq_true, decide_eq_true_eq] at holds
          have code : c.toNat = 0x212A := by omega
          rw [← Char.ofNat_toNat c, code]
      · exact absurd ascii given

/-- Where lower case is all in ASCII, each character has a small form in ASCII. -/
theorem hasAsciiForm_of_lowercaseAfter {before s : List Char}
    (ascii : ∀ d ∈ lowercaseAfter before s, d.toNat < 0x80) : ∀ c ∈ s, HasAsciiForm c := by
  induction s generalizing before with
  | nil => exact List.forall_mem_nil _
  | cons c s ih =>
      rw [lowercaseAfter, List.forall_mem_append] at ascii
      refine List.forall_mem_cons.mpr ⟨?_, ih ascii.2⟩
      have first := ascii.1
      split at first
      · rw [List.forall_mem_singleton, smallSigma] at first
        split at first
        all_goals exact absurd first (by decide)
      · exact hasAsciiForm_of_lowercaseChar first

theorem hasAsciiForm_of_lowercase {s : List Char} (ascii : ∀ d ∈ lowercase s, d.toNat < 0x80) :
    ∀ c ∈ s, HasAsciiForm c :=
  hasAsciiForm_of_lowercaseAfter ascii

/-- Where each character has a small form in ASCII, lower case goes letter by letter. -/
theorem lowercaseAfter_eq_map {s : List Char} (forms : ∀ c ∈ s, HasAsciiForm c)
    (before : List Char) : lowercaseAfter before s = s.map asciiForm := by
  induction s generalizing before with
  | nil => rfl
  | cons c s ih =>
      obtain ⟨first, rest⟩ := List.forall_mem_cons.mp forms
      have notSigma : c ≠ 'Σ' := by
        rintro rfl
        rcases first with ascii | kelvin
        · exact absurd ascii (by decide)
        · exact absurd kelvin (by decide)
      rw [lowercaseAfter, if_neg notSigma, lowercaseChar_of_hasAsciiForm first, ih rest]
      rfl

theorem lowercase_eq_map {s : List Char} (forms : ∀ c ∈ s, HasAsciiForm c) :
    lowercase s = s.map asciiForm :=
  lowercaseAfter_eq_map forms []

/-- Only a small letter is the small form of another character. -/
theorem eq_of_asciiForm_eq (small : d.toNat < 0x61) (same : asciiForm c = d) : c = d := by
  unfold asciiForm at same
  split at same
  · rw [← same] at small
    exact absurd small (by decide)
  · exact eq_of_toLower_eq small same

theorem eq_of_map_asciiForm_eq {s t : List Char} (small : ∀ d ∈ t, d.toNat < 0x61)
    (same : s.map asciiForm = t) : s = t := by
  induction s generalizing t with
  | nil => exact same
  | cons c s ih =>
      subst same
      obtain ⟨first, rest⟩ := List.forall_mem_cons.mp small
      rw [List.map_cons, List.cons.injEq]
      exact ⟨eq_of_asciiForm_eq first rfl, ih rest rfl⟩

/-! ## What stands before -/

/-- What stands before a part decides nothing but the form of its sigmas. -/
theorem lowercaseAfter_append (before s t : List Char) :
    ∃ front, lowercaseAfter before (s ++ t) =
      front ++ lowercaseAfter (s.reverse ++ before) t := by
  induction s generalizing before with
  | nil => exact ⟨[], rfl⟩
  | cons c s ih =>
      obtain ⟨front, split⟩ := ih (c :: before)
      rw [List.cons_append, lowercaseAfter, split, List.reverse_cons, List.append_assoc,
        List.singleton_append, ← List.append_assoc]
      exact ⟨_, rfl⟩

/-- A text that does not end with a letter before its last ignorable characters
is the same to a sigma as no text. -/
theorem startsWithLetter_append {before : List Char} (noLetter : startsWithLetter before = false)
    (done : List Char) : startsWithLetter (done ++ before) = startsWithLetter done := by
  unfold startsWithLetter at *
  rw [List.find?_append]
  cases done.find? fun c => !inRanges caseIgnorable c with
  | none => exact noLetter
  | some c => rfl

theorem lowercaseAfter_of_noLetter {before : List Char}
    (noLetter : startsWithLetter before = false) (done s : List Char) :
    lowercaseAfter (done ++ before) s = lowercaseAfter done s := by
  induction s generalizing done with
  | nil => rfl
  | cons c s ih =>
      have rest := ih (c :: done)
      rw [List.cons_append] at rest
      rw [lowercaseAfter, lowercaseAfter, rest, smallSigma, smallSigma,
        startsWithLetter_append noLetter]

/-- Behind a character that is neither a letter nor ignorable, a part is written
in lower case as if it stood alone. -/
theorem suffix_lowercase {bar : Char} (counts : inRanges caseIgnorable bar = false)
    (noCase : inRanges cased bar = false) (front rest : List Char) :
    lowercase rest <:+ lowercase (front ++ bar :: rest) := by
  have shut : startsWithLetter (bar :: front.reverse) = false := by
    simp [startsWithLetter, counts, noCase]
  obtain ⟨written, split⟩ := lowercaseAfter_append [] (front ++ [bar]) rest
  rw [List.append_nil, List.reverse_append, List.reverse_singleton, List.singleton_append] at split
  have alone : lowercaseAfter (bar :: front.reverse) rest = lowercase rest :=
    lowercaseAfter_of_noLetter shut [] rest
  have whole : lowercase (front ++ bar :: rest) = written ++ lowercase rest := by
    rw [← alone, ← split, lowercase, List.append_assoc, List.singleton_append]
  exact ⟨written, whole.symm⟩

/-! ## What stands behind -/

theorem lowercaseAfter_append_of_noLetter {t : List Char} (noLetter : startsWithLetter t = false)
    (before s : List Char) :
    lowercaseAfter before (s ++ t) =
      lowercaseAfter before s ++ lowercaseAfter (s.reverse ++ before) t := by
  induction s generalizing before with
  | nil => rfl
  | cons c s ih =>
      rw [List.cons_append, lowercaseAfter, lowercaseAfter, ih, smallSigma, smallSigma,
        startsWithLetter_append noLetter, List.reverse_cons, List.append_assoc,
        List.append_assoc, List.singleton_append]

theorem startsWithLetter_of_blank {s : List Char} (blank : ∀ c ∈ s, isBlank c = true) :
    startsWithLetter s = false := by
  have table : blanks.all (fun blank => cased.all fun letters =>
      decide (blank.last < letters.first) || decide (letters.last < blank.first)) = true := by
    decide +kernel
  unfold startsWithLetter
  split
  · next c found =>
      obtain ⟨gap, listed, first, last⟩ :=
        inRanges_iff.mp (blank c (List.mem_of_find?_eq_some found))
      rw [Bool.eq_false_iff]
      intro letter
      obtain ⟨letters, among, first', last'⟩ := inRanges_iff.mp letter
      have entry := List.all_eq_true.mp (List.all_eq_true.mp table gap listed) letters among
      simp only [Bool.or_eq_true, decide_eq_true_eq] at entry
      omega
  · rfl

/-- Blanks at the ends make no difference to the text between them. -/
theorem lowercase_trim_infix (s : List Char) : lowercase (trim s) <:+: lowercase s := by
  have front : startsWithLetter (s.takeWhile isBlank).reverse = false :=
    startsWithLetter_of_blank fun c among => List.mem_takeWhile_imp (List.mem_reverse.mp among)
  have behind : startsWithLetter ((s.dropWhile isBlank).reverse.takeWhile isBlank).reverse = false :=
    startsWithLetter_of_blank fun c among => List.mem_takeWhile_imp (List.mem_reverse.mp among)
  have cut := dropTrailing_append_tail isBlank (s.dropWhile isBlank)
  obtain ⟨before, whole⟩ := lowercaseAfter_append [] (s.takeWhile isBlank) (s.dropWhile isBlank)
  have alone := lowercaseAfter_of_noLetter front [] (s.dropWhile isBlank)
  rw [List.takeWhile_append_dropWhile, List.append_nil] at whole
  rw [List.nil_append] at alone
  rw [alone, ← cut, lowercaseAfter_append_of_noLetter behind] at whole
  rw [lowercase, lowercase, whole, trim, ← List.append_assoc]
  exact List.infix_append _ _ _

/-! ## Behind a mark -/

/-- What follows the first occurrence of a mark stands behind it. -/
theorem append_of_after? {mark s rest : List Char} (found : after? mark s = some rest) :
    ∃ front, s = front ++ mark ++ rest := by
  induction s with
  | nil =>
      unfold after? at found
      split at found
      · next empty =>
          cases found
          rw [List.isEmpty_iff.mp empty]
          exact ⟨[], rfl⟩
      · cases found
  | cons c s ih =>
      unfold after? at found
      split at found
      · next atFront =>
          cases found
          refine ⟨[], ?_⟩
          rw [List.nil_append]
          exact List.prefix_iff_eq_append.mp (List.isPrefixOf_iff_prefix.mp atFront) |>.symm
      · obtain ⟨front, split⟩ := ih found
        exact ⟨c :: front, by rw [split]; rfl⟩

/-- The lower-case form of what follows a mark that ends with a slash ends the
lower-case form of the whole. -/
theorem suffix_lowercase_of_after? (mark : List Char) {s rest : List Char}
    (found : after? (mark ++ ['/']) s = some rest) : lowercase rest <:+ lowercase s := by
  obtain ⟨front, split⟩ := append_of_after? found
  rw [split, show front ++ (mark ++ ['/']) ++ rest = (front ++ mark) ++ '/' :: rest by simp]
  exact suffix_lowercase (by decide +kernel) (by decide +kernel) _ _

end AuthRedirect.Text
