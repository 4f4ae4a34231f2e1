import AuthRedirect.Proofs.PlainUrls

/-!
Texts that are a plain origin but for letter case. Their host is the host of that origin. It
need not be written in ASCII: the Kelvin sign becomes a `k` in lower case. But all that a URL
is taken apart by stands where it stands in the origin, since no other character becomes a
colon, a slash or a digit.
-/

namespace AuthRedirect

open AuthRedirect.Text

theorem Text.dropTrailing_eq_self {test : Char → Bool} {s : List Char}
    (stays : ∀ c ∈ s, test c = false) : dropTrailing test s = s := by
  rcases List.eq_nil_or_concat s with rfl | ⟨init, c, rfl⟩
  · rfl
  · rw [List.concat_eq_append] at stays ⊢
    rw [dropTrailing_concat, stays c (by simp)]
    rfl

/-! ## Characters -/

/-- Whether a character becomes one of a plain host in lower case. -/
def IsHostLike (c : Char) : Prop :=
  isHostChar c = true ∨ c = '\u212A'

instance : DecidablePred IsHostLike :=
  fun c => inferInstanceAs (Decidable (isHostChar c = true ∨ c = '\u212A'))

section Chars

variable {c : Char}

theorem IsHostLike.visible (like : IsHostLike c) : isBlank c = false := by
  rcases like with host | rfl
  · exact (plain_of_isUserChar (isUserChar_of_isHostChar host)).1
  · decide

theorem IsHostLike.not_mem_marks (like : IsHostLike c) : c ∉ Url.marks := by
  rcases like with host | rfl
  · exact (plain_of_isUserChar (isUserChar_of_isHostChar host)).2.1
  · decide

theorem IsHostLike.not_mem_lookalikes (like : IsHostLike c) : c ∉ Url.lookalikes := by
  rcases like with host | rfl
  · exact Url.not_mem_lookalikes_of_ascii (ascii_of_isHostChar host)
  · decide

theorem isHostLike_of_asciiForm (form : HasAsciiForm c) (host : isHostChar (asciiForm c) = true) :
    IsHostLike c := by
  rcases form with ascii | kelvin
  · refine .inl ?_
    have other : c ≠ '\u212A' := by
      rintro rfl
      exact absurd ascii (by decide)
    rw [asciiForm, if_neg other] at host
    exact forall_ascii (fun c => isHostChar c.toLower = true → isHostChar c = true)
      (by decide) c ascii host
  · exact .inr kelvin

end Chars

/-! ## Reading -/

namespace Origin

variable {written host a : List Char} {port : Option Nat} {value : Origin}

section Place

variable (like : ∀ c ∈ host, IsHostLike c)
include like

theorem mem_place_cases {c : Char} (among : c ∈ host ++ portText port) :
    IsHostLike c ∨ c = ':' := by
  rcases List.mem_append.mp among with inHost | inPort
  · exact .inl (like c inHost)
  · rcases portText_cases inPort with colon | digit
    · exact .inr colon
    · exact .inl (.inl (isHostChar_of_isDigit digit))

theorem not_mem_place {mark : Char} (unlike : ¬ IsHostLike mark) (noColon : mark ≠ ':') :
    mark ∉ host ++ portText port := by
  intro among
  rcases mem_place_cases like among with like | colon
  · exact unlike like
  · exact noColon colon

theorem stands_place : Url.Stands (host ++ portText port) := by
  intro c among
  apply Url.stands_iff.mpr
  rcases mem_place_cases like among with like | rfl
  · exact like.not_mem_marks
  · decide

theorem isAuthority_place : Url.isAuthority (host ++ portText port) = true := by
  refine Url.isAuthority_of_plain ?_ (not_mem_place like (by decide) (by decide))
    (not_mem_place like (by decide) (by decide))
  intro c among
  rcases mem_place_cases like among with like | rfl
  · exact like.not_mem_lookalikes
  · decide

theorem dropTrailing_place :
    dropTrailing isBlank (host ++ portText port) = host ++ portText port := by
  apply dropTrailing_eq_self
  intro c among
  rcases mem_place_cases like among with like | rfl
  · exact like.visible
  · decide

theorem host?_place (named : host ≠ []) :
    Url.host? (host ++ portText port) = some (lowercase host) := by
  have noUser : '@' ∉ host ++ portText port := not_mem_place like (by decide) (by decide)
  have noOpening : '[' ∉ host ++ portText port := not_mem_place like (by decide) (by decide)
  have noColon : ':' ∉ host := fun among => absurd (like ':' among) (by decide)
  have noZone : '%' ∉ host := fun among => absurd (like '%' among) (by decide)
  have split : (Url.hostAndPort (host ++ portText port)).1 = host := by
    rw [portText_eq] at noUser noOpening ⊢
    rw [Url.hostAndPort_of_place (afterLast_of_not_mem noUser) noOpening noColon]
  exact Url.host?_of_hostAndPort split named noZone

/-- The host between a scheme of the web and a port. -/
theorem hostIn?_of_isHostLike (web : Url.isWebScheme (written.map Char.toLower) = true)
    (named : host ≠ []) (port : Option Nat) :
    hostIn? (written ++ ':' :: '/' :: '/' :: (host ++ portText port)) = some (lowercase host) := by
  have trimmed : trim (written ++ ':' :: '/' :: '/' :: (host ++ portText port)) =
      written ++ ':' :: '/' :: '/' :: (host ++ portText port) := by
    rw [Url.trim_of_web web, dropTrailing_place like]
  have whole : Url.complete "https".toList
      (trim (written ++ ':' :: '/' :: '/' :: (host ++ portText port))) =
        written ++ ':' :: '/' :: '/' :: (host ++ portText port) := by
    rw [trimmed]
    exact Url.complete_of_web web
  have shown : Url.hostBehind? (host ++ portText port) = Url.host? (host ++ portText port) := by
    have stands : Url.Stands (host ++ portText port) := stands_place like
    have behind := Url.hostBehind?_append stands (isAuthority_place like) Url.follows_nil
    rwa [List.append_nil] at behind
  rw [Url.hostIn?_eq_hostBehind? web (by rw [trimmed]; simp) whole, shown, host?_place like named]

end Place

theorem map_toLower_portText (port : Option Nat) :
    (portText port).map Char.toLower = portText port := by
  have settled : ∀ c ∈ portText port, c.toLower = c := by
    intro c among
    rcases portText_cases among with rfl | digit
    · decide
    · exact forall_ascii (fun c => c.isDigit = true → c.toLower = c) (by decide) c
        (ascii_of_isHostChar (isHostChar_of_isDigit digit)) digit
  rw [List.map_congr_left settled, List.map_id']

/-- No scheme of the web has a letter that the Kelvin sign becomes. -/
theorem map_toLower_of_map_asciiForm {scheme : List Char} (web : Url.isWebScheme scheme = true)
    (same : written.map asciiForm = scheme) : written.map Char.toLower = scheme := by
  have noKelvin : 'k' ∉ scheme := by
    rcases Url.isWebScheme_iff.mp web with name | name
    all_goals
      rw [name]
      decide
  rw [← same]
  refine List.map_congr_left fun c among => ?_
  have other : c ≠ '\u212A' := by
    rintro rfl
    apply noKelvin
    rw [← same]
    exact List.mem_map_of_mem among
  rw [asciiForm, if_neg other]

/-- An origin on a plain host. -/
structure IsPlain (value : Origin) : Prop where
  web : Url.isWebScheme value.scheme = true
  named : value.host ≠ []
  plainHost : ∀ c ∈ value.host, isHostChar c = true

theorem IsPlain.text_eq (plain : IsPlain value) :
    value.text = value.scheme ++ ':' :: '/' :: '/' :: (value.host ++ portText value.port) := by
  have noColon : ':' ∉ value.host := fun among => absurd (plain.plainHost ':' among) (by decide)
  rw [Origin.text_eq, shownHost_of_not_mem noColon]

theorem IsPlain.ascii (plain : IsPlain value) : ∀ c ∈ value.text, c.toNat < 0x80 := by
  intro c among
  rw [plain.text_eq] at among
  simp only [List.mem_append, List.mem_cons] at among
  rcases among with inScheme | rfl | rfl | rfl | inHost | inPort
  · have web := Url.isWebScheme_map_toLower plain.web
    exact ascii_of_isHostChar (isHostChar_of_isAlpha (Url.letter_of_web web inScheme).1)
  · decide
  · decide
  · decide
  · exact ascii_of_isHostChar (plain.plainHost c inHost)
  · rcases portText_cases inPort with rfl | digit
    · decide
    · exact ascii_of_isHostChar (isHostChar_of_isDigit digit)

theorem IsPlain.lowercase_text (plain : IsPlain value) :
    lowercase value.text =
      value.scheme ++ ':' :: '/' :: '/' ::
        (value.host.map Char.toLower ++ portText value.port) := by
  have scheme := Url.map_toLower_of_isWebScheme plain.web
  have marks : [':', '/', '/'].map Char.toLower = [':', '/', '/'] := by decide
  rw [lowercase_ascii plain.ascii, plain.text_eq]
  simp only [List.map_append, List.map_cons, scheme, map_toLower_portText]
  rfl

/-- A text that is written as an origin with a plain host, but for letter case, has the host
of that origin. -/
theorem IsPlain.hostIn?_of_lowercase_eq (plain : IsPlain value)
    (same : lowercase a = lowercase value.text) :
    hostIn? a = some (value.host.map Char.toLower) := by
  have forms : ∀ c ∈ a, HasAsciiForm c := by
    apply hasAsciiForm_of_lowercase
    rw [same, lowercase_ascii plain.ascii, List.forall_mem_map]
    exact fun c among => forall_ascii (fun c => c.toLower.toNat < 0x80) (by decide) c
      (plain.ascii c among)
  rw [lowercase_eq_map forms, plain.lowercase_text] at same
  have whole : value.scheme ++ ':' :: '/' :: '/' ::
      (value.host.map Char.toLower ++ portText value.port) =
        value.scheme ++ ([':', '/', '/'] ++
          (value.host.map Char.toLower ++ portText value.port)) := rfl
  rw [whole] at same
  obtain ⟨written, more, rfl, sameScheme, same⟩ := List.map_eq_append_iff.mp same
  obtain ⟨mark, more, rfl, sameMark, same⟩ := List.map_eq_append_iff.mp same
  obtain ⟨host, port, rfl, sameHost, samePort⟩ := List.map_eq_append_iff.mp same
  have small : ∀ c ∈ portText value.port, c.toNat < 0x61 := by
    intro c among
    rcases portText_cases among with rfl | digit
    · decide
    · exact Nat.lt_of_le_of_lt (Char.isDigit_iff_toNat.mp digit).2 (by decide)
  rw [eq_of_map_asciiForm_eq (by simp) sameMark, eq_of_map_asciiForm_eq small samePort]
  have web : Url.isWebScheme (written.map Char.toLower) = true := by
    rw [map_toLower_of_map_asciiForm plain.web sameScheme]
    exact plain.web
  have hostForms : ∀ c ∈ host, HasAsciiForm c := fun c among => forms c (by simp [among])
  have named : host ≠ [] := by
    rintro rfl
    exact plain.named (List.map_eq_nil_iff.mp sameHost.symm)
  have like : ∀ c ∈ host, IsHostLike c := by
    intro c among
    refine isHostLike_of_asciiForm (hostForms c among) ?_
    have lower : asciiForm c ∈ value.host.map Char.toLower := by
      rw [← sameHost]
      exact List.mem_map_of_mem among
    obtain ⟨d, inHost, small⟩ := List.mem_map.mp lower
    rw [← small]
    exact isHostChar_toLower (plain.plainHost d inHost)
  exact (hostIn?_of_isHostLike like web named value.port).trans
    (congrArg some ((lowercase_eq_map hostForms).trans sameHost))

end Origin

end AuthRedirect
