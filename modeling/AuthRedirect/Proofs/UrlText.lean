import AuthRedirect.Proofs.NormalForm

/-!
The text of a URL and its parts. In the text of a URL that was taken apart, the query stands
between the first question mark and the next number sign: `shownQuery_text`. With a scheme
of the web and an authority, all of the parts stand where they are found again, so that
putting them together and taking them apart leaves them as they are:
`Placed.parse?_text`. Where the authority is left out this fails, since a path that starts
with two slashes then reads as one.
-/

namespace AuthRedirect

open AuthRedirect.Text

namespace Url

variable {url : Url} {scheme front part rest s : List Char} {mark c : Char}

/-! ## Parts behind a mark -/

/-- A part behind the mark that introduces it is found there, unless the mark stands in
front of it too. -/
theorem cutFirst_introduced (absent : mark ∉ front) (part : List Char) :
    (cutFirst mark (front ++ introduced mark part)).1 = front ∧
      (cutFirst mark (front ++ introduced mark part)).2.getD [] = part := by
  unfold introduced
  split
  · next empty =>
      rw [List.append_nil, cutFirst_of_not_mem absent]
      exact ⟨rfl, (List.isEmpty_iff.mp empty).symm⟩
  · rw [cutFirst_append absent]
    exact ⟨rfl, rfl⟩

theorem mem_introduced (among : c ∈ introduced mark part) : c = mark ∨ c ∈ part := by
  unfold introduced at among
  split at among
  · cases among
  · exact List.mem_cons.mp among

theorem mem_rooted {path : List Char} (among : c ∈ rooted path) : c = '/' ∨ c ∈ path := by
  unfold rooted at among
  split at among
  · exact .inr among
  · exact .inr among
  · exact List.mem_cons.mp among

/-! ## The query in a text -/

/-- The query that a text shows: what stands between the first question mark and the next
number sign, or the end. -/
def shownQuery (s : List Char) : List Char :=
  (cutFirst '#' ((cutFirst '?' s).2.getD [])).1

theorem mem_place (among : c ∈ url.place) : c = '/' ∨ c ∈ url.authority ∨ c ∈ url.path := by
  unfold place at among
  split at among
  · rcases List.mem_append.mp among with front | inPath
    · rcases List.mem_cons.mp front with slash | front
      · exact .inl slash
      · rcases List.mem_cons.mp front with slash | inAuthority
        · exact .inl slash
        · exact .inr (.inl inAuthority)
    · rcases mem_rooted inPath with slash | inPath
      · exact .inl slash
      · exact .inr (.inr inPath)
  · exact .inr (.inr among)

/-- A query is shown where no question mark stands before it, and no number sign in it. -/
theorem shownQuery_text (noScheme : '?' ∉ url.scheme) (noAuthority : '?' ∉ url.authority)
    (noPath : '?' ∉ url.path) (asked : url.query ≠ []) (noSign : '#' ∉ url.query) :
    shownQuery url.text = url.query := by
  have front : '?' ∉ (if url.scheme.isEmpty then [] else url.scheme ++ [':']) ++ url.place := by
    intro among
    rcases List.mem_append.mp among with inScheme | inPlace
    · split at inScheme
      · cases inScheme
      · rcases List.mem_append.mp inScheme with inScheme | colon
        · exact noScheme inScheme
        · exact absurd (List.mem_singleton.mp colon) (by decide)
    · rcases mem_place inPlace with slash | inAuthority | inPath
      · exact absurd slash (by decide)
      · exact noAuthority inAuthority
      · exact noPath inPath
  have mark : introduced '?' url.query = '?' :: url.query :=
    if_neg (by rw [List.isEmpty_iff]; exact asked)
  rw [shownQuery, text, List.append_assoc, mark, List.cons_append, cutFirst_append front]
  exact (cutFirst_introduced noSign url.fragment).1

theorem isSchemeChar_of_mem (sound : isScheme s = true) (among : c ∈ s) :
    isSchemeChar c = true := by
  cases s with
  | nil => cases among
  | cons first rest =>
      rw [isScheme, Bool.and_eq_true, List.all_eq_true] at sound
      exact sound.2 c among

theorem question_not_mem_splitScheme (s : List Char) : '?' ∉ (splitScheme s).1 := by
  unfold splitScheme
  rcases cutFirst_cases ':' s with ⟨-, uncut⟩ | ⟨name, rest, -, cut⟩
  · rw [uncut]
    exact List.not_mem_nil
  · rw [cut]
    dsimp only
    split
    · next sound =>
        intro among
        obtain ⟨c, inName, lower⟩ := List.mem_map.mp among
        rw [eq_of_toLower_eq (by decide) lower] at inName
        exact absurd (isSchemeChar_of_mem sound inName) (by decide)
    · exact List.not_mem_nil

/-- In a URL that was taken apart no question mark stands before the query. -/
theorem question_not_mem (parsed : parse? s = some url) :
    '?' ∉ url.scheme ∧ '?' ∉ url.authority ∧ '?' ∉ url.path := by
  refine ⟨?_, not_mem_authority (by decide) parsed, ?_⟩
  all_goals
    simp only [parse?, Option.ite_none_right_eq_some, Option.some.injEq] at parsed
    obtain ⟨-, rfl⟩ := parsed
  · exact question_not_mem_splitScheme _
  · exact not_mem_cutFirst '?' _

/-! ## What stands where it is found again -/

theorem Follows.append {t : List Char} (first : Follows s) (next : Follows t) : Follows (s ++ t) := by
  cases s with
  | nil => exact next
  | cons c s => exact first

theorem Follows.of_prefix (start : part <+: s) (follows : Follows s) : Follows part := by
  cases part with
  | nil => exact follows_nil
  | cons c part =>
      obtain ⟨rest, rfl⟩ := start
      exact follows

theorem follows_introduced (ends : staysInAuthority mark = false) (part : List Char) :
    Follows (introduced mark part) := by
  unfold introduced
  split
  · exact follows_nil
  · exact follows_cons ends part

theorem follows_dropWhile (s : List Char) : Follows (s.dropWhile staysInAuthority) := by
  intro c first
  have ends := List.head?_dropWhile_not staysInAuthority s
  rw [first] at ends
  simpa using ends

theorem Follows.dropWhile_eq (follows : Follows s) : s.dropWhile staysInAuthority = s := by
  cases s with
  | nil => rfl
  | cons c s =>
      have ends : staysInAuthority c = false := follows c rfl
      rw [List.dropWhile_cons_of_neg (by simp [ends])]

/-- What follows the authority in the text of a URL whose path has its slash. -/
def tail (url : Url) : List Char :=
  url.path ++ introduced '?' url.query ++ introduced '#' url.fragment

/-- A URL of the web whose parts stand in its text where they are found again. -/
structure Placed (url : Url) : Prop where
  web : isWebScheme url.scheme = true
  named : url.authority ≠ []
  stands : Stands url.authority
  sound : isAuthority url.authority = true
  /-- The path is empty, or it starts with its slash. -/
  follows : Follows url.path
  noQuestion : '?' ∉ url.path
  noSign : '#' ∉ url.path ∧ '#' ∉ url.query
  kept : ∀ c, c ∈ url.path ∨ c ∈ url.query ∨ c ∈ url.fragment → isKept c = true

namespace Placed

theorem rooted_path (placed : Placed url) : rooted url.path = url.path := by
  cases path : url.path with
  | nil => rfl
  | cons c rest =>
      have ends : staysInAuthority c = false := placed.follows c (by rw [path]; rfl)
      have among : c ∈ url.path := by
        rw [path]
        exact List.mem_cons_self
      rcases cases_of_ends ends with rfl | rfl | rfl
      · rfl
      · exact absurd among placed.noQuestion
      · exact absurd among placed.noSign.1

theorem text_eq (placed : Placed url) :
    url.text = url.scheme ++ ':' :: '/' :: '/' :: (url.authority ++ url.tail) := by
  have scheme : url.scheme.isEmpty = false := by
    rcases isWebScheme_iff.mp placed.web with name | name
    · rw [name]
      rfl
    · rw [name]
      rfl
  have shown : url.authority.isEmpty = false := List.isEmpty_eq_false_iff.mpr placed.named
  simp [text, place, tail, scheme, shown, placed.rooted_path]

theorem follows_tail (placed : Placed url) : Follows url.tail :=
  (placed.follows.append (follows_introduced (by decide) _)).append
    (follows_introduced (by decide) _)

theorem filter_tail (placed : Placed url) : url.tail.filter isKept = url.tail := by
  refine List.filter_eq_self.mpr fun c among => ?_
  rcases List.mem_append.mp among with front | inFragment
  · rcases List.mem_append.mp front with inPath | inQuery
    · exact placed.kept c (.inl inPath)
    · rcases mem_introduced inQuery with mark | inQuery
      · rw [mark]
        decide
      · exact placed.kept c (.inr (.inl inQuery))
  · rcases mem_introduced inFragment with mark | inFragment
    · rw [mark]
      decide
    · exact placed.kept c (.inr (.inr inFragment))

/-- The tail is cut at its number sign first and then at its question mark. -/
theorem ofParts_tail (placed : Placed url) : ofParts url.scheme url.authority url.tail = url := by
  have noSign : '#' ∉ url.path ++ introduced '?' url.query := by
    intro among
    rcases List.mem_append.mp among with inPath | inQuery
    · exact placed.noSign.1 inPath
    · rcases mem_introduced inQuery with mark | inQuery
      · exact absurd mark (by decide)
      · exact placed.noSign.2 inQuery
  obtain ⟨place, fragment⟩ := cutFirst_introduced noSign url.fragment
  obtain ⟨path, query⟩ := cutFirst_introduced placed.noQuestion url.query
  rw [ofParts, tail]
  dsimp only
  rw [place, fragment, path, query]

/-- Taking its text apart gives the URL again. -/
theorem parse?_text (placed : Placed url) : parse? url.text = some url := by
  have lower := map_toLower_of_isWebScheme placed.web
  have written := isWebScheme_map_toLower placed.web
  have shown := shownAuthority_append placed.stands placed.follows_tail
  have behind : ((url.authority ++ url.tail).filter isKept).dropWhile staysInAuthority =
      url.tail := by
    have passes := fun c among => (placed.stands c among).1
    rw [filter_append_of_stands placed.stands, placed.filter_tail,
      List.dropWhile_append_of_pos passes, placed.follows_tail.dropWhile_eq]
  rw [placed.text_eq, parse?_of_web written, lower, ofRest?, shown, if_pos placed.sound, behind,
    placed.ofParts_tail]

end Placed

theorem mem_of_mem_cutFirst_getD (among : c ∈ (cutFirst mark s).2.getD []) : c ∈ s := by
  cases found : (cutFirst mark s).2 with
  | none =>
      rw [found] at among
      cases among
  | some rest =>
      rw [found] at among
      exact mem_of_mem_cutFirst_rest found among

/-- The parts of what follows an authority stand where they are found again. -/
theorem placed_ofParts {authority behind : List Char} (web : isWebScheme scheme = true)
    (named : authority ≠ []) (stands : Stands authority) (sound : isAuthority authority = true)
    (follows : Follows behind) (kept : ∀ c ∈ behind, isKept c = true) :
    Placed (ofParts scheme authority behind) where
  web := web
  named := named
  stands := stands
  sound := sound
  follows := by
    have front := follows.of_prefix (List.takeWhile_prefix (· != '#'))
    exact front.of_prefix (List.takeWhile_prefix _)
  noQuestion := not_mem_cutFirst '?' _
  noSign := by
    have noSign := not_mem_cutFirst '#' behind
    exact ⟨fun among => noSign (mem_of_mem_cutFirst among),
      fun among => noSign (mem_of_mem_cutFirst_getD among)⟩
  kept c among := by
    rcases among with inPath | inQuery | inFragment
    · exact kept c (mem_of_mem_cutFirst (mem_of_mem_cutFirst inPath))
    · exact kept c (mem_of_mem_cutFirst (mem_of_mem_cutFirst_getD inQuery))
    · exact kept c (mem_of_mem_cutFirst_getD inFragment)

/-- So do the parts of what is taken apart behind the two slashes, unless the authority is
left out. -/
theorem placed_of_ofRest? (web : isWebScheme scheme = true) (parsed : ofRest? scheme rest = some url)
    (named : url.authority ≠ []) : Placed url := by
  simp only [ofRest?, Option.ite_none_right_eq_some, Option.some.injEq] at parsed
  obtain ⟨sound, rfl⟩ := parsed
  have kept : ∀ c ∈ (rest.filter isKept).dropWhile staysInAuthority, isKept c = true :=
    fun c among => (List.mem_filter.mp (List.dropWhile_subset _ among)).2
  exact placed_ofParts web named (stands_shownAuthority rest) sound (follows_dropWhile _) kept

/-- So do those of a text that is completed with a scheme of the web. -/
theorem placed_of_parse? (web : isWebScheme scheme = true)
    (parsed : parse? (complete scheme s) = some url) (named : url.authority ≠ []) : Placed url := by
  obtain ⟨written, rest, whole, given⟩ := complete_cases web s
  rw [whole, parse?_of_web given] at parsed
  exact placed_of_ofRest? given parsed named

/-! ## A scheme behind controls -/

theorem exists_of_splitAuthority_ne_nil (named : (splitAuthority s).1 ≠ []) :
    ∃ rest, s = '/' :: '/' :: rest := by
  unfold splitAuthority at named
  split at named
  · exact ⟨_, rfl⟩
  · exact absurd rfl named

/-- A text that is taken apart with a scheme of the web and an authority has nothing but
controls and spaces before its scheme. -/
theorem filter_of_parse? (parsed : parse? s = some url) (web : isWebScheme url.scheme = true)
    (named : url.authority ≠ []) :
    ∃ controls written rest, (∀ c ∈ controls, c.toNat ≤ 0x20) ∧
      isWebScheme (written.map Char.toLower) = true ∧
      s.filter isKept = (controls ++ written ++ [':']) ++ '/' :: '/' :: rest := by
  have whole : s.filter isKept =
      (s.takeWhile fun c => c.toNat ≤ 0x20).filter isKept ++ clean s := by
    have split := List.takeWhile_append_dropWhile (p := fun c : Char => decide (c.toNat ≤ 0x20))
      (l := s)
    conv_lhs => rw [← split, List.filter_append]
    rfl
  have controls : ∀ c ∈ (s.takeWhile fun c => c.toNat ≤ 0x20).filter isKept, c.toNat ≤ 0x20 := by
    intro c among
    simpa using List.mem_takeWhile_imp (List.mem_filter.mp among).1
  simp only [parse?, Option.ite_none_right_eq_some, Option.some.injEq] at parsed
  obtain ⟨-, rfl⟩ := parsed
  dsimp only at web named
  rcases cutFirst_cases ':' (clean s) with ⟨-, uncut⟩ | ⟨written, rest, split, cut⟩
  · rw [splitScheme, uncut] at web
    cases web
  · rw [splitScheme, cut] at web named
    dsimp only at web named
    split at web
    · next sound =>
        rw [if_pos sound] at named
        obtain ⟨behind, rfl⟩ := exists_of_splitAuthority_ne_nil named
        refine ⟨_, written, behind, controls, web, ?_⟩
        rw [whole, split]
        simp
    · cases web

/-- Completed with another scheme of the web, such a text has its own scheme for an
authority. -/
theorem shownAuthority_of_parse? (parsed : parse? s = some url)
    (web : isWebScheme url.scheme = true) (named : url.authority ≠ []) :
    s.head? ≠ some '/' ∧ isAuthority (shownAuthority s) = true ∧ shownAuthority s ≠ [] := by
  obtain ⟨controls, written, rest, small, web, whole⟩ := filter_of_parse? parsed web named
  have plain : ∀ c : Char, c.toNat < 0x80 → c.toNat ≤ 0x20 ∨ c.isAlpha = true →
      staysInAuthority c = true ∧ c ≠ '[' ∧ c ≠ ']' := forall_ascii _ (by decide)
  have char : ∀ c ∈ controls ++ written ++ [':'],
      c.toNat < 0x80 ∧ staysInAuthority c = true ∧ c ≠ '[' ∧ c ≠ ']' := by
    intro c among
    rcases List.mem_append.mp among with front | colon
    · rcases List.mem_append.mp front with inControls | inScheme
      · have control := small c inControls
        have ascii : c.toNat < 0x80 := by omega
        exact ⟨ascii, plain c ascii (.inl control)⟩
      · have letter := (letter_of_web web inScheme).1
        have ascii : c.toNat < 0x80 := ascii_of_isAlphanum (by simp [Char.isAlphanum, letter])
        exact ⟨ascii, plain c ascii (.inr letter)⟩
    · rw [List.mem_singleton.mp colon]
      decide
  have shown : shownAuthority s = controls ++ written ++ [':'] := by
    have passes := fun c among => (char c among).2.1
    rw [shownAuthority, whole, List.takeWhile_append_of_pos passes,
      List.takeWhile_cons_of_neg (by decide), List.append_nil]
  refine ⟨?_, ?_, ?_⟩
  · intro slash
    obtain ⟨tail, rfl⟩ := List.head?_eq_some_iff.mp slash
    have none : shownAuthority ('/' :: tail) = [] := by
      rw [shownAuthority, List.filter_cons_of_pos (by decide), List.takeWhile_cons_of_neg (by decide)]
    rw [shown] at none
    simp at none
  · rw [shown]
    exact isAuthority_of_ascii (fun c among => (char c among).1)
      (fun among => (char _ among).2.2.1 rfl) (fun among => (char _ among).2.2.2 rfl)
  · rw [shown]
    simp

end Url

end AuthRedirect
