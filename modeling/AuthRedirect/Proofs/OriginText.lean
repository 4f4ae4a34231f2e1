import AuthRedirect.Proofs.Lowercase
import AuthRedirect.Origin

/-!
Which texts come out of reading an origin. What is read is written without a slash
at the end: an authority holds no slash, and lower case brings none in. So an
origin that ends with a slash was not read. It was passed over for its port, which
the host is read without.
-/

namespace AuthRedirect

open AuthRedirect.Text

/-! ## Parts of a text -/

namespace Text

variable {sep c : Char} {s rest : List Char}

/-- A text is cut at a separator that stands in it, or else not cut. -/
theorem cutFirst_cases (sep : Char) (s : List Char) :
    (sep ∉ s ∧ cutFirst sep s = (s, none)) ∨
      ∃ front rest, s = front ++ sep :: rest ∧ cutFirst sep s = (front, some rest) := by
  by_cases present : sep ∈ s
  · obtain ⟨front, rest, split, absent⟩ := List.eq_append_cons_of_mem present
    exact .inr ⟨front, rest, split, by rw [split, cutFirst_append absent]⟩
  · exact .inl ⟨present, cutFirst_of_not_mem present⟩

theorem mem_of_mem_cutFirst (among : c ∈ (cutFirst sep s).1) : c ∈ s :=
  List.takeWhile_subset _ among

theorem mem_of_mem_cutFirst_rest (found : (cutFirst sep s).2 = some rest) (among : c ∈ rest) :
    c ∈ s := by
  rcases cutFirst_cases sep s with ⟨-, uncut⟩ | ⟨front, rest', split, cut⟩
  · rw [uncut] at found
    cases found
  · rw [cut] at found
    cases found
    rw [split]
    exact List.mem_append_right _ (List.mem_cons_of_mem _ among)

theorem isDigit_of_mem_decimalDigits {n : Nat} (among : c ∈ decimalDigits n) :
    c.isDigit = true :=
  Nat.isDigit_of_mem_toDigits (by decide) (by decide) among

theorem mem_of_mem_afterLast (among : c ∈ afterLast sep s) : c ∈ s :=
  List.mem_reverse.mp (List.takeWhile_subset _ (List.mem_reverse.mp among))

end Text

/-! ## Authorities and hosts -/

namespace Url

variable {c : Char} {s authority host : List Char} {url : Url}

theorem not_mem_splitAuthority {mark : Char} (ends : staysInAuthority mark = false)
    (s : List Char) : mark ∉ (splitAuthority s).1 := by
  unfold splitAuthority
  split
  · intro among
    have stays := List.mem_takeWhile_imp among
    rw [ends] at stays
    cases stays
  · exact List.not_mem_nil

/-- The authority of a URL ends where the path, the query or the fragment starts. -/
theorem not_mem_authority {mark : Char} (ends : staysInAuthority mark = false)
    (parsed : parse? s = some url) : mark ∉ url.authority := by
  simp only [parse?, Option.ite_none_right_eq_some, Option.some.injEq] at parsed
  obtain ⟨-, rfl⟩ := parsed
  exact not_mem_splitAuthority ends _

theorem mem_afterLast_of_mem_hostAndPort (among : c ∈ (hostAndPort authority).1) :
    c ∈ afterLast '@' authority := by
  unfold hostAndPort at among
  dsimp only at among
  split at among
  · next bracketed cut =>
      have found : (cutFirst '[' (afterLast '@' authority)).2 = some bracketed := by rw [cut]
      exact mem_of_mem_cutFirst_rest found (mem_of_mem_cutFirst among)
  · exact mem_of_mem_cutFirst among

/-- The host holds no mark that is not written in it. -/
theorem mem_written_of_mem_host? (found : host? authority = some host) (mark : c.toNat < 0x61)
    (among : c ∈ host) : c ∈ (hostAndPort authority).1 := by
  unfold host? at found
  dsimp only at found
  split at found
  · cases found
  · rcases cutFirst_cases '%' (hostAndPort authority).1 with ⟨-, uncut⟩ | ⟨name, zone, split, cut⟩
    · rw [uncut] at found
      cases found
      exact mem_of_mem_lowercase mark among
    · rw [cut] at found
      cases found
      rw [split]
      rcases List.mem_append.mp among with inName | inZone
      · exact List.mem_append_left _ (mem_of_mem_lowercase mark inName)
      · exact List.mem_append_right _ inZone

theorem mem_of_mem_host? (found : host? authority = some host) (mark : c.toNat < 0x61)
    (among : c ∈ host) : c ∈ authority :=
  mem_of_mem_afterLast (mem_afterLast_of_mem_hostAndPort (mem_written_of_mem_host? found mark among))

theorem ne_nil_of_host? (found : host? authority = some host) : host ≠ [] := by
  unfold host? at found
  dsimp only at found
  split at found
  · cases found
  · next written =>
      rcases cutFirst_cases '%' (hostAndPort authority).1 with ⟨-, uncut⟩ | ⟨name, zone, -, cut⟩
      · rw [uncut] at found
        cases found
        apply lowercase_ne_nil
        intro empty
        exact written (List.isEmpty_iff.mpr empty)
      · rw [cut] at found
        cases found
        simp

end Url

/-! ## Reading an origin -/

namespace Origin

variable {defaultScheme raw : List Char} {value : Origin}

/-- An origin is read from a text that is a URL with a host and without a broken
port. -/
theorem read_eq_origin_iff :
    read defaultScheme raw = .origin value ↔
      trim raw ≠ [] ∧ ∃ url host,
        Url.parse? (Url.complete defaultScheme (trim raw)) = some url ∧
        Url.port url.authority ≠ .malformed ∧ Url.host? url.authority = some host ∧
        value = ⟨url.scheme, host, shownPort url.scheme (Url.port url.authority)⟩ := by
  unfold read
  dsimp only
  cases written : (trim raw).isEmpty with
  | true => simp [List.isEmpty_iff.mp written]
  | false =>
      have some : trim raw ≠ [] := List.isEmpty_eq_false_iff.mp written
      cases parsed : Url.parse? (Url.complete defaultScheme (trim raw)) with
      | none => simp
      | some url =>
          cases port : Url.port url.authority with
          | malformed => simp [port]
          | unspecified =>
              cases host : Url.host? url.authority with
              | none => simp [port, host]
              | some host => simp [port, host, some, eq_comm]
          | number value =>
              cases host : Url.host? url.authority with
              | none => simp [port, host]
              | some host => simp [port, host, some, eq_comm]

/-- The host of a text is that of the URL, whatever its port. -/
theorem hostIn?_eq_some_iff {host : List Char} :
    hostIn? raw = some host ↔
      trim raw ≠ [] ∧ ∃ url, Url.parse? (Url.complete "https".toList (trim raw)) = some url ∧
        Url.host? url.authority = some host := by
  unfold hostIn?
  dsimp only
  cases written : (trim raw).isEmpty with
  | true => simp [List.isEmpty_iff.mp written]
  | false =>
      have some : trim raw ≠ [] := List.isEmpty_eq_false_iff.mp written
      simp [some, Option.bind_eq_some_iff]

/-! ## A slash at the end -/

theorem slash_not_mem_shownHost {host : List Char} (absent : '/' ∉ host) :
    '/' ∉ shownHost host := by
  unfold shownHost
  split
  · simpa using absent
  · exact absent

theorem shownHost_ne_nil {host : List Char} (some : host ≠ []) : shownHost host ≠ [] := by
  unfold shownHost
  split
  · simp
  · exact some

theorem slash_not_mem_decimalDigits (port : Nat) : '/' ∉ decimalDigits port := by
  intro among
  have digit := isDigit_of_mem_decimalDigits among
  exact absurd digit (by decide)

/-- A text does not end with a character that its last part does not hold. -/
theorem getLast?_append_ne {front part : List Char} {c : Char} (some : part ≠ [])
    (absent : c ∉ part) : (front ++ part).getLast? ≠ Option.some c := by
  intro last
  rw [List.getLast?_append_of_ne_nil _ some] at last
  exact absent (List.mem_of_getLast? last)

/-- An origin that was read is not written with a slash at the end. -/
theorem getLast?_text_ne_slash (origin : read defaultScheme raw = .origin value) :
    value.text.getLast? ≠ some '/' := by
  obtain ⟨-, url, host, parsed, -, found, rfl⟩ := read_eq_origin_iff.mp origin
  have absent : '/' ∉ host := by
    intro among
    exact Url.not_mem_authority (by decide) parsed (Url.mem_of_mem_host? found (by decide) among)
  unfold text
  dsimp only
  cases shownPort url.scheme (Url.port url.authority) with
  | none =>
      rw [List.append_nil]
      exact getLast?_append_ne (shownHost_ne_nil (Url.ne_nil_of_host? found))
        (slash_not_mem_shownHost absent)
  | some port =>
      refine getLast?_append_ne (List.cons_ne_nil _ _) ?_
      simpa using slash_not_mem_decimalDigits port

/-! ## Usable origins -/

section Usable

variable {scheme raw origin : String}

/-- A URL of the web has slashes, which are not blank. -/
theorem not_blank_of_hasWebScheme (web : hasWebScheme raw = true) : blank raw = false := by
  have written : '/' ∈ raw.toList.map Char.toLower := by
    rw [hasWebScheme, Url.hasWebScheme, Bool.or_eq_true, List.isPrefixOf_iff_prefix,
      List.isPrefixOf_iff_prefix] at web
    rcases web with start | start
    · exact start.subset (by decide)
    · exact start.subset (by decide)
  obtain ⟨c, among, slash⟩ := List.mem_map.mp written
  have notBlank : ¬ isBlank c = true := by
    rw [eq_of_toLower_eq (by decide) slash]
    decide
  rw [blank, allBlank, List.all_eq_false]
  exact ⟨c, among, notBlank⟩

theorem usable?_eq_some_iff :
    usable? scheme raw = some origin ↔
      normalize scheme raw = origin ∧ (hostOf? origin).isSome = true ∧
        hasWebScheme origin = true := by
  simp only [usable?, Option.ite_none_right_eq_some, Bool.and_eq_true, Option.some.injEq]
  constructor
  · intro ⟨fit, same⟩
    rw [same] at fit
    exact ⟨same, fit⟩
  · intro ⟨same, fit⟩
    rw [same]
    exact ⟨fit, rfl⟩

theorem normalize_of_read (found : read scheme.toList raw.toList = .origin value) :
    (normalize scheme raw).toList = value.text := by
  rw [normalize, normalForm, found, String.toList_ofList]

theorem normalize_of_not_read
    (missing : ∀ value, read scheme.toList raw.toList ≠ .origin value) :
    normalize scheme raw = raw := by
  have stays : normalForm scheme.toList raw.toList = raw.toList := by
    unfold normalForm
    split
    · next value found => exact absurd found (missing value)
    · rfl
  rw [normalize, stays, String.ofList_toList]

/-- Whether a text is a URL of the web with a host and with a port that is none. -/
def HasBrokenPort (raw : String) : Prop :=
  hasWebScheme raw = true ∧
    ∃ url, Url.parse? (Url.complete "https".toList (trim raw.toList)) = some url ∧
      (Url.host? url.authority).isSome = true ∧ Url.port url.authority = .malformed

/-- A text with a broken port is not read. -/
theorem HasBrokenPort.not_read (broken : HasBrokenPort raw) (value : Origin) :
    read "https".toList raw.toList ≠ .origin value := by
  intro found
  obtain ⟨-, url, parsed, -, malformed⟩ := broken
  obtain ⟨-, other, -, parsed', sound, -⟩ := read_eq_origin_iff.mp found
  rw [parsed] at parsed'
  cases parsed'
  exact sound malformed

/-- The host of a text with a broken port is found all the same. -/
theorem HasBrokenPort.isSome_hostOf? (broken : HasBrokenPort raw) :
    (hostOf? raw).isSome = true := by
  obtain ⟨-, url, parsed, hasHost, -⟩ := broken
  have nonempty : trim raw.toList ≠ [] := by
    intro empty
    rw [empty] at parsed
    have hostless : (Url.parse? (Url.complete "https".toList [])).any
        (fun url => (Url.host? url.authority).isSome) = false := by decide
    rw [parsed, Option.any_some, hasHost] at hostless
    cases hostless
  obtain ⟨host, found⟩ := Option.isSome_iff_exists.mp hasHost
  rw [hostOf?, hostIn?_eq_some_iff.mpr ⟨nonempty, url, parsed, found⟩]
  rfl

/-- Where a text has a host and is not read, its port is broken. -/
theorem hasBrokenPort_of_not_read (web : hasWebScheme raw = true)
    (hasHost : (hostOf? raw).isSome = true)
    (missing : ∀ value, read "https".toList raw.toList ≠ .origin value) : HasBrokenPort raw := by
  rw [hostOf?, Option.isSome_map, Option.isSome_iff_exists] at hasHost
  obtain ⟨host, found⟩ := hasHost
  obtain ⟨nonempty, url, parsed, found⟩ := hostIn?_eq_some_iff.mp found
  refine ⟨web, url, parsed, by rw [found]; rfl, ?_⟩
  by_contra sound
  exact missing _ (read_eq_origin_iff.mpr ⟨nonempty, url, host, parsed, sound, found, rfl⟩)

/-- A usable origin ends with a slash where it is the text as it was given, because
of a broken port, and in no other case. -/
theorem usable?_slash_iff :
    usable? "https" raw = some origin ∧ origin.toList.getLast? = some '/' ↔
      raw = origin ∧ HasBrokenPort origin ∧ origin.toList.getLast? = some '/' := by
  rw [usable?_eq_some_iff]
  constructor
  · intro ⟨⟨same, hasHost, web⟩, slash⟩
    -- What is read has no slash at its end, so the origin is the text as it was given.
    have missing : ∀ value, read "https".toList raw.toList ≠ .origin value := by
      intro value found
      rw [← same, normalize_of_read found] at slash
      exact getLast?_text_ne_slash found slash
    rw [normalize_of_not_read missing] at same
    rw [same] at missing
    exact ⟨same, hasBrokenPort_of_not_read web hasHost missing, slash⟩
  · intro ⟨same, broken, slash⟩
    rw [same]
    exact ⟨⟨normalize_of_not_read broken.not_read, broken.isSome_hostOf?, broken.1⟩, slash⟩

end Usable

end Origin

end AuthRedirect
