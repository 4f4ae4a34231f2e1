import AuthRedirect.Proofs.OriginText

/-!
URLs of the web: how a text with a scheme of the web is taken apart. What follows the
two slashes is cleaned of tabs and line breaks, the authority ends at the first slash,
question mark or number sign, and the rest decides nothing about the authority. So a
text that shows the same authority again is read with the same authority again.
-/

namespace AuthRedirect.Url

open AuthRedirect.Text

variable {scheme written authority rest s : List Char} {url : Url}

/-! ## The scheme -/

theorem isWebScheme_iff : isWebScheme scheme = true ↔
    scheme = ['h', 't', 't', 'p'] ∨ scheme = ['h', 't', 't', 'p', 's'] := by
  have plain : "http".toList = ['h', 't', 't', 'p'] := by decide
  have secure : "https".toList = ['h', 't', 't', 'p', 's'] := by decide
  rw [isWebScheme, plain, secure, Bool.or_eq_true, beq_iff_eq, beq_iff_eq]

theorem map_toLower_of_isWebScheme (web : isWebScheme scheme = true) :
    scheme.map Char.toLower = scheme := by
  rcases isWebScheme_iff.mp web with rfl | rfl <;> rfl

theorem isWebScheme_map_toLower (web : isWebScheme scheme = true) :
    isWebScheme (scheme.map Char.toLower) = true := by
  rw [map_toLower_of_isWebScheme web]
  exact web

/-- Only a colon and two slashes become a colon and two slashes in lower case. -/
theorem eq_of_map_toLower_eq (lower : s.map Char.toLower = ':' :: '/' :: '/' :: rest) :
    ∃ tail, s = ':' :: '/' :: '/' :: tail := by
  obtain ⟨colon, s, rfl, isColon, lower⟩ := List.map_eq_cons_iff.mp lower
  obtain ⟨one, s, rfl, isOne, lower⟩ := List.map_eq_cons_iff.mp lower
  obtain ⟨other, s, rfl, isOther, lower⟩ := List.map_eq_cons_iff.mp lower
  rw [eq_of_toLower_eq (by decide) isColon, eq_of_toLower_eq (by decide) isOne,
    eq_of_toLower_eq (by decide) isOther]
  exact ⟨s, rfl⟩

/-- A text has a scheme of the web where it starts with one, in any letter case, and with
what follows a scheme. -/
theorem hasWebScheme_iff : hasWebScheme s = true ↔
    ∃ written rest, s = written ++ ':' :: '/' :: '/' :: rest ∧
      isWebScheme (written.map Char.toLower) = true := by
  have plain : "http://".toList = ['h', 't', 't', 'p'] ++ [':', '/', '/'] := by decide
  have secure : "https://".toList = ['h', 't', 't', 'p', 's'] ++ [':', '/', '/'] := by decide
  rw [hasWebScheme, plain, secure, Bool.or_eq_true, List.isPrefixOf_iff_prefix,
    List.isPrefixOf_iff_prefix]
  constructor
  · intro start
    have split : ∃ scheme tail, s.map Char.toLower = scheme ++ ':' :: '/' :: '/' :: tail ∧
        isWebScheme scheme = true := by
      rcases start with ⟨tail, whole⟩ | ⟨tail, whole⟩
      · exact ⟨_, tail, by rw [← whole]; simp, isWebScheme_iff.mpr (.inl rfl)⟩
      · exact ⟨_, tail, by rw [← whole]; simp, isWebScheme_iff.mpr (.inr rfl)⟩
    obtain ⟨scheme, tail, lower, web⟩ := split
    obtain ⟨written, marked, rfl, same, lower⟩ := List.map_eq_append_iff.mp lower
    obtain ⟨rest, rfl⟩ := eq_of_map_toLower_eq lower
    exact ⟨written, rest, rfl, by rw [same]; exact web⟩
  · rintro ⟨written, rest, rfl, web⟩
    have lower : (written ++ ':' :: '/' :: '/' :: rest).map Char.toLower =
        written.map Char.toLower ++ [':', '/', '/'] ++ rest.map Char.toLower := by
      simp
    rw [lower]
    rcases isWebScheme_iff.mp web with same | same
    · rw [same]
      exact .inl (List.prefix_append _ _)
    · rw [same]
      exact .inr (List.prefix_append _ _)

/-- A completed text starts with a scheme of the web. -/
theorem complete_cases (web : isWebScheme scheme = true) (s : List Char) :
    ∃ written rest, complete scheme s = written ++ ':' :: '/' :: '/' :: rest ∧
      isWebScheme (written.map Char.toLower) = true := by
  unfold complete
  split
  · next given => exact hasWebScheme_iff.mp given
  · exact ⟨scheme, s, by simp, isWebScheme_map_toLower web⟩

theorem complete_of_web (web : isWebScheme (written.map Char.toLower) = true) :
    complete scheme (written ++ ':' :: '/' :: '/' :: rest) = written ++ ':' :: '/' :: '/' :: rest :=
  if_pos (hasWebScheme_iff.mpr ⟨written, rest, rfl, web⟩)

/-! ## Behind the two slashes -/

/-- Whether a character is kept when a text is cleaned. -/
def isKept (c : Char) : Bool :=
  c != '\t' && c != '\n' && c != '\r'

/-- The parts of a URL from its scheme and its authority and what follows them. -/
def ofParts (scheme authority tail : List Char) : Url :=
  let (place, fragment) := cutFirst '#' tail
  let (path, query) := cutFirst '?' place
  ⟨scheme, authority, path, query.getD [], fragment.getD []⟩

/-- The authority that a text behind the two slashes starts with. -/
def shownAuthority (rest : List Char) : List Char :=
  (rest.filter isKept).takeWhile staysInAuthority

/-- The parts of a URL from its scheme and what follows the two slashes. -/
def ofRest? (scheme rest : List Char) : Option Url :=
  if isAuthority (shownAuthority rest) then
    some (ofParts scheme (shownAuthority rest) ((rest.filter isKept).dropWhile staysInAuthority))
  else none

/-- The host of what follows the two slashes. -/
def hostBehind? (rest : List Char) : Option (List Char) :=
  if isAuthority (shownAuthority rest) then host? (shownAuthority rest) else none

/-- A scheme of the web is written in letters, which are no blanks and no controls. -/
theorem letter_of_web (web : isWebScheme (written.map Char.toLower) = true) {c : Char}
    (among : c ∈ written) :
    c.isAlpha = true ∧ isKept c = true ∧ 0x20 < c.toNat ∧ isBlank c = false := by
  have lower : c.toLower ∈ ['h', 't', 't', 'p', 's'] := by
    have member : c.toLower ∈ written.map Char.toLower := List.mem_map_of_mem among
    rcases isWebScheme_iff.mp web with same | same
    · rw [same] at member
      exact (show ['h', 't', 't', 'p'] ⊆ ['h', 't', 't', 'p', 's'] by decide) member
    · rwa [same] at member
  have ascii : c.toNat < 0x80 := by
    by_contra beyond
    rw [toLower_of_not_ascii beyond] at lower
    have small : ['h', 't', 't', 'p', 's'].all (fun d => decide (d.toNat < 0x80)) = true := by
      decide
    exact beyond (of_decide_eq_true (List.all_eq_true.mp small c lower))
  exact forall_ascii (fun c => c.toLower ∈ ['h', 't', 't', 'p', 's'] →
    c.isAlpha = true ∧ isKept c = true ∧ 0x20 < c.toNat ∧ isBlank c = false) (by decide) c
    ascii lower

theorem clean_of_web (web : isWebScheme (written.map Char.toLower) = true) (rest : List Char) :
    clean (written ++ ':' :: '/' :: '/' :: rest) =
      written ++ ':' :: '/' :: '/' :: rest.filter isKept := by
  have keeps : written.filter isKept = written :=
    List.filter_eq_self.mpr fun c among => (letter_of_web web among).2.1
  have whole : (written ++ ':' :: '/' :: '/' :: rest).dropWhile (fun c => c.toNat ≤ 0x20) =
      written ++ ':' :: '/' :: '/' :: rest := by
    cases written with
    | nil => cases web
    | cons c written =>
        have visible := (letter_of_web web List.mem_cons_self).2.2.1
        rw [List.cons_append, List.dropWhile_cons_of_neg]
        simpa using visible
  unfold clean
  rw [whole]
  change (written ++ ':' :: '/' :: '/' :: rest).filter isKept = _
  rw [List.filter_append, keeps]
  rfl

/-- Blanks at the ends of a text with a scheme of the web are blanks at its end. -/
theorem trim_of_web (web : isWebScheme (written.map Char.toLower) = true) (rest : List Char) :
    trim (written ++ ':' :: '/' :: '/' :: rest) =
      written ++ ':' :: '/' :: '/' :: dropTrailing isBlank rest := by
  have start : (written ++ ':' :: '/' :: '/' :: rest).dropWhile isBlank =
      written ++ ':' :: '/' :: '/' :: rest := by
    cases written with
    | nil => cases web
    | cons c written =>
        have visible := (letter_of_web web List.mem_cons_self).2.2.2
        rw [List.cons_append, List.dropWhile_cons_of_neg]
        simpa using visible
  have whole (rest : List Char) : written ++ ':' :: '/' :: '/' :: rest =
      (written ++ [':', '/']) ++ '/' :: rest := by
    simp
  rw [trim, start, whole, whole, dropTrailing_append_cons (by decide)]

theorem splitScheme_of_web (web : isWebScheme (written.map Char.toLower) = true)
    (rest : List Char) :
    splitScheme (written ++ ':' :: rest) = (written.map Char.toLower, rest) := by
  have absent : ':' ∉ written := fun among =>
    absurd (letter_of_web web among).1 (by decide)
  have scheme : isScheme written = true := by
    cases written with
    | nil => cases web
    | cons c written =>
        have first := (letter_of_web web List.mem_cons_self).1
        rw [isScheme, Bool.and_eq_true, List.all_eq_true]
        refine ⟨first, fun d among => ?_⟩
        have letter := (letter_of_web web among).1
        simp [isSchemeChar, Char.isAlphanum, letter]
  unfold splitScheme
  rw [cutFirst_append absent]
  exact if_pos scheme

theorem parse?_of_web (web : isWebScheme (written.map Char.toLower) = true) (rest : List Char) :
    parse? (written ++ ':' :: '/' :: '/' :: rest) =
      ofRest? (written.map Char.toLower) rest := by
  unfold parse?
  rw [clean_of_web web, splitScheme_of_web web]
  rfl

/-! ## The authority -/

/-- Whether an authority could stand between the two slashes and what follows. -/
def Stands (authority : List Char) : Prop :=
  ∀ c ∈ authority, staysInAuthority c = true ∧ isKept c = true

/-- Whether a text could follow an authority. -/
def Follows (rest : List Char) : Prop :=
  ∀ c, rest.head? = some c → staysInAuthority c = false

theorem follows_nil : Follows [] := by
  intro c head
  cases head

theorem follows_cons {c : Char} (ends : staysInAuthority c = false) (rest : List Char) :
    Follows (c :: rest) := by
  intro d head
  cases head
  exact ends

theorem cases_of_ends {c : Char} (ends : staysInAuthority c = false) :
    c = '/' ∨ c = '?' ∨ c = '#' := by
  simpa [staysInAuthority, or_assoc, Decidable.or_iff_not_imp_left] using ends

theorem isKept_of_ends {c : Char} (ends : staysInAuthority c = false) : isKept c = true := by
  rcases cases_of_ends ends with rfl | rfl | rfl <;> decide

theorem Follows.filter (follows : Follows rest) : Follows (rest.filter isKept) := by
  cases rest with
  | nil => exact follows_nil
  | cons c rest =>
      have ends : staysInAuthority c = false := follows c rfl
      rw [List.filter_cons_of_pos (isKept_of_ends ends)]
      exact follows_cons ends _

theorem filter_append_of_stands (stands : Stands authority) (rest : List Char) :
    (authority ++ rest).filter isKept = authority ++ rest.filter isKept := by
  have keeps : authority.filter isKept = authority :=
    List.filter_eq_self.mpr fun c among => (stands c among).2
  rw [List.filter_append, keeps]

/-- A text that goes on with what ends an authority shows that authority. -/
theorem shownAuthority_append (stands : Stands authority) (follows : Follows rest) :
    shownAuthority (authority ++ rest) = authority := by
  have passes := fun c among => (stands c among).1
  have ends := follows.filter
  rw [shownAuthority, filter_append_of_stands stands, List.takeWhile_append_of_pos passes]
  cases kept : rest.filter isKept with
  | nil => simp
  | cons c tail =>
      rw [kept] at ends
      have mark : staysInAuthority c = false := ends c rfl
      simp [mark]

theorem ofRest?_eq_some (parsed : ofRest? scheme rest = some url) :
    url.scheme = scheme ∧ url.authority = shownAuthority rest ∧
      isAuthority (shownAuthority rest) = true := by
  simp only [ofRest?, Option.ite_none_right_eq_some, Option.some.injEq] at parsed
  obtain ⟨sound, rfl⟩ := parsed
  exact ⟨rfl, rfl, sound⟩

theorem stands_shownAuthority (rest : List Char) : Stands (shownAuthority rest) := by
  intro c among
  have kept : c ∈ rest.filter isKept := List.takeWhile_subset _ among
  exact ⟨List.mem_takeWhile_imp among, (List.mem_filter.mp kept).2⟩

/-! ## The host -/

theorem bind_ofRest? (scheme rest : List Char) :
    (ofRest? scheme rest).bind (fun url => host? url.authority) = hostBehind? rest := by
  unfold ofRest? hostBehind?
  split
  · rfl
  · rfl

/-- The host of a text that has a scheme of the web once it is completed. -/
theorem hostIn?_eq_hostBehind? {raw : List Char}
    (web : isWebScheme (written.map Char.toLower) = true) (some : trim raw ≠ [])
    (whole : complete "https".toList (trim raw) = written ++ ':' :: '/' :: '/' :: rest) :
    Origin.hostIn? raw = hostBehind? rest := by
  have shown : (trim raw).isEmpty = false := List.isEmpty_eq_false_iff.mpr some
  unfold Origin.hostIn?
  dsimp only
  rw [shown, whole, parse?_of_web web]
  exact bind_ofRest? _ _

end AuthRedirect.Url
