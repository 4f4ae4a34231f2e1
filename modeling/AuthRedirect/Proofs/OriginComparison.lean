import AuthRedirect.Proofs.CaseVariants

/-!
Comparing URLs in plain characters, as people enter them: with blanks around them, in any
letter case, with a user, a port and a tail or without. Two of them stand for one origin
exactly when their schemes, their hosts and the ports that they come to are the same
(`compared_by_parts`). Two origins overlap only at their fronts: the slashes behind the scheme
stand in an origin once, so they are the same in both, and no scheme of the web ends with the
other one (`overlap_iff_starts`).
-/

namespace AuthRedirect

open AuthRedirect.Text

/-! ## Blanks around a text -/

namespace Text

variable {test : Char → Bool} {front behind : List Char}

theorem dropTrailing_append_of_all (all : behind.all test = true) (s : List Char) :
    dropTrailing test (s ++ behind) = dropTrailing test s := by
  have passes : ∀ c ∈ behind.reverse, test c = true := fun c among =>
    List.all_eq_true.mp all c (List.mem_reverse.mp among)
  rw [dropTrailing, List.reverse_append, List.dropWhile_append_of_pos passes]
  rfl

/-- Blanks around a text make no difference to what is left of it without blanks. -/
theorem trim_append_blanks (before : allBlank front = true) (after : allBlank behind = true)
    (s : List Char) : trim (front ++ (s ++ behind)) = trim s := by
  have blank := List.all_eq_true.mp after
  rw [trim, trim, List.dropWhile_append_of_pos (List.all_eq_true.mp before), List.dropWhile_append]
  split
  · next all =>
      rw [List.isEmpty_iff.mp all, List.dropWhile_eq_nil_iff.mpr blank]
  · exact dropTrailing_append_of_all after _

end Text

/-! ## Texts of plain origins -/

namespace Origin

variable {value other : Origin}

/-- The host and the port behind the slashes. -/
def place (value : Origin) : List Char :=
  value.host ++ portText value.port

theorem IsPlain.slash_not_mem_place (plain : IsPlain value) : '/' ∉ value.place :=
  not_mem_place (fun c among => .inl (plain.plainHost c among)) (by decide) (by decide)

theorem IsPlain.slash_not_mem_scheme (plain : IsPlain value) : '/' ∉ value.scheme := by
  rcases Url.isWebScheme_iff.mp plain.web with name | name
  all_goals
    rw [name]
    decide

theorem IsPlain.text_eq_place (plain : IsPlain value) :
    value.text = (value.scheme ++ [':', '/']) ++ '/' :: value.place := by
  rw [plain.text_eq, place]
  simp

theorem IsPlain.count_slash (plain : IsPlain value) : value.text.count '/' = 2 := by
  rw [plain.text_eq_place]
  simp [List.count_eq_zero_of_not_mem plain.slash_not_mem_scheme,
    List.count_eq_zero_of_not_mem plain.slash_not_mem_place]

/-- No scheme of the web ends with another one. -/
theorem eq_nil_of_append_web {front scheme : List Char} (web : Url.isWebScheme scheme = true)
    (whole : Url.isWebScheme (front ++ scheme) = true) : front = [] := by
  rcases Url.isWebScheme_iff.mp web with rfl | rfl
  · rcases Url.isWebScheme_iff.mp whole with same | same
    · exact List.append_left_eq_self.mp same
    · have last := congrArg List.getLast? same
      simp at last
  · rcases Url.isWebScheme_iff.mp whole with same | same
    · have last := congrArg List.getLast? same
      simp at last
    · exact List.append_left_eq_self.mp same

/-- A plain origin stands in another one at its front. -/
theorem IsPlain.prefix_of_infix (plain : IsPlain value) (plain' : IsPlain other)
    (stands : value.text <:+: other.text) :
    value.scheme = other.scheme ∧ value.place <+: other.place := by
  obtain ⟨front, behind, whole⟩ := stands
  have noSlash : '/' ∉ behind := by
    have slashes := congrArg (List.count '/') whole
    rw [List.count_append, List.count_append, plain.count_slash, plain'.count_slash] at slashes
    exact List.count_eq_zero.mp (by omega)
  have split : (front ++ value.scheme ++ [':', '/']) ++ '/' :: (value.place ++ behind) =
      (other.scheme ++ [':', '/']) ++ '/' :: other.place := by
    rw [← plain'.text_eq_place, ← whole, plain.text_eq_place]
    simp
  have places : value.place ++ behind = other.place := by
    have last := congrArg (afterLast '/') split
    rwa [afterLast_append (by simp [plain.slash_not_mem_place, noSlash]),
      afterLast_append plain'.slash_not_mem_place] at last
  rw [places] at split
  have schemes : front ++ value.scheme = other.scheme :=
    List.append_cancel_right (List.append_cancel_right split)
  have atFront : front = [] := eq_nil_of_append_web plain.web (by rw [schemes]; exact plain'.web)
  rw [atFront] at schemes
  exact ⟨schemes, behind, places⟩

theorem IsPlain.text_prefix_iff (plain : IsPlain value) (plain' : IsPlain other) :
    value.text <+: other.text ↔ value.scheme = other.scheme ∧ value.place <+: other.place := by
  constructor
  · exact fun start => plain.prefix_of_infix plain' start.isInfix
  · rintro ⟨scheme, behind, place⟩
    refine ⟨behind, ?_⟩
    rw [plain.text_eq_place, plain'.text_eq_place, scheme, ← place]
    simp

/-- The colon of the port is the first one behind the slashes. -/
theorem IsPlain.cutFirst_place (plain : IsPlain value) :
    cutFirst ':' value.place = (value.host, value.port.map decimalDigits) := by
  have noColon : ':' ∉ value.host := fun among => absurd (plain.plainHost ':' among) (by decide)
  rw [place]
  cases value.port with
  | none =>
      rw [portText, Option.map_none, Option.getD_none, List.append_nil, cutFirst_of_not_mem noColon]
      rfl
  | some number =>
      rw [portText, Option.map_some, Option.getD_some, cutFirst_append noColon]
      rfl

/-- Of two plain origins at the front of one another, so are the hosts. -/
theorem IsPlain.host_prefix (plain : IsPlain value) (plain' : IsPlain other)
    (start : value.place <+: other.place) : value.host <+: other.host := by
  have hosts := takeWhile_prefix_takeWhile start (· != ':')
  have host : value.place.takeWhile (· != ':') = value.host :=
    congrArg Prod.fst plain.cutFirst_place
  have host' : other.place.takeWhile (· != ':') = other.host :=
    congrArg Prod.fst plain'.cutFirst_place
  rwa [host, host'] at hosts

/-- A plain origin can be told from its text. -/
theorem IsPlain.text_inj (plain : IsPlain value) (plain' : IsPlain other) :
    value.text = other.text ↔ value = other := by
  refine ⟨fun same => ?_, fun same => by rw [same]⟩
  have infixed : value.text <:+: other.text := ⟨[], [], by simp [same]⟩
  obtain ⟨scheme, -⟩ := plain.prefix_of_infix plain' infixed
  rw [plain.text_eq_place, plain'.text_eq_place, scheme] at same
  have places : value.place = other.place :=
    (List.cons.inj (List.append_cancel_left same)).2
  have cuts := congrArg (cutFirst ':') places
  rw [plain.cutFirst_place, plain'.cutFirst_place, Prod.mk.injEq] at cuts
  have ports : value.port = other.port := by
    have numbers := congrArg (Option.map decimalValue) cuts.2
    simpa [Function.comp_def, decimalValue_decimalDigits] using numbers
  obtain ⟨_, _, _⟩ := value
  cases other
  simp_all

end Origin

/-! ## What a plain URL comes to -/

namespace PlainUrl

variable (url other : PlainUrl)

/-- The number of the port, if one is written. -/
def givenPort : Option Nat :=
  url.port.map decimalValue

/-- The port that the scheme stands for. -/
def usualPort : Nat :=
  if url.schemeName = "http".toList then 80 else 443

/-- The port that is meant: the one that is written, or else the usual one of the scheme. -/
def effectivePort : Nat :=
  url.givenPort.getD url.usualPort

/-- The port in decimal behind its colon, where one is written that is not the usual one of
the scheme. -/
def portSuffix : List Char :=
  match url.givenPort with
  | some number => if number = url.usualPort then [] else ':' :: decimalDigits number
  | none => []

theorem isPlain_origin : Origin.IsPlain url.origin :=
  ⟨url.isWebScheme_schemeName, url.hostName_ne_nil, url.isHostChar_of_mem_hostName⟩

theorem usualPort?_schemeName : Origin.usualPort? url.schemeName = some url.usualPort := by
  unfold usualPort
  rcases Url.isWebScheme_iff.mp url.isWebScheme_schemeName with name | name
  all_goals
    rw [name]
    decide

theorem shownPort_eq :
    url.shownPort = if url.effectivePort = url.usualPort then none else some url.effectivePort := by
  unfold shownPort portGiven effectivePort givenPort
  cases url.port with
  | none => simp [Origin.shownPort]
  | some digits => simp [Origin.shownPort, usualPort?_schemeName, eq_comm]

theorem portText_shownPort : Origin.portText url.shownPort = url.portSuffix := by
  rw [shownPort_eq]
  unfold effectivePort portSuffix
  cases url.givenPort with
  | none => simp [Origin.portText]
  | some number =>
      rw [Option.getD_some]
      split
      · next usual => simp [usual, Origin.portText]
      · next unusual => simp [unusual, Origin.portText]

/-- The text of the origin, part by part. -/
theorem text_origin :
    url.origin.text = url.schemeName ++ "://".toList ++ url.hostName ++ url.portSuffix := by
  have mark : "://".toList = [':', '/', '/'] := by decide
  rw [url.isPlain_origin.text_eq, ← portText_shownPort, mark, origin]
  simp

theorem lowercase_text_origin : lowercase url.origin.text = url.origin.text := by
  have lower : url.hostName.map Char.toLower = url.hostName :=
    map_toLower_of_subset (List.Subset.refl _)
  rw [url.isPlain_origin.lowercase_text, url.isPlain_origin.text_eq, origin, lower]

/-- Under one scheme, ports that come to the same are shown alike. -/
theorem shownPort_eq_iff (scheme : url.schemeName = other.schemeName) :
    url.shownPort = other.shownPort ↔ url.effectivePort = other.effectivePort := by
  have usual : url.usualPort = other.usualPort := by rw [usualPort, usualPort, scheme]
  rw [shownPort_eq, shownPort_eq, usual]
  constructor
  · intro same
    split at same
    · next meant =>
        split at same
        · next meant' => rw [meant, meant']
        · cases same
    · split at same
      · cases same
      · exact Option.some.inj same
  · intro same
    rw [same]

theorem origin_eq_iff :
    url.origin = other.origin ↔ url.schemeName = other.schemeName ∧
      url.hostName = other.hostName ∧ url.effectivePort = other.effectivePort := by
  rw [origin, origin, Origin.mk.injEq]
  refine and_congr_right fun scheme => and_congr_right fun _ => ?_
  exact url.shownPort_eq_iff other scheme

end PlainUrl

/-! ## URLs as they are entered -/

/-- A plain URL with blanks around it. -/
structure EnteredUrl where
  before : List Char := []
  url : PlainUrl
  behind : List Char := []
  blankBefore : allBlank before = true := by decide
  blankBehind : allBlank behind = true := by decide

namespace EnteredUrl

variable (entered left right : EnteredUrl)

def text : List Char :=
  entered.before ++ (entered.url.text ++ entered.behind)

def string : String :=
  String.ofList entered.text

theorem toList_string : entered.string.toList = entered.text :=
  String.toList_ofList

theorem read_text : Origin.read "https".toList entered.text = .origin entered.url.origin := by
  have trimmed : trim entered.text = trim entered.url.text :=
    trim_append_blanks entered.blankBefore entered.blankBehind entered.url.text
  rw [← Origin.read_trim, trimmed, Origin.read_trim, entered.url.read_text]

theorem normalForm_string :
    Origin.normalForm "https".toList entered.string.toList = entered.url.origin.text := by
  rw [toList_string, Origin.normalForm, read_text]

theorem toList_normalize_string :
    (Origin.normalize "https" entered.string).toList = entered.url.origin.text := by
  rw [Origin.normalize, String.toList_ofList, normalForm_string]

theorem comparable_string : Origin.comparable entered.string = entered.url.origin.text := by
  rw [Origin.comparable, normalForm_string, PlainUrl.lowercase_text_origin]

theorem isEmpty_string : entered.string.isEmpty = false := by
  have some : entered.url.text ≠ [] := by
    intro empty
    have trimmed := entered.url.trim_text_ne_nil
    rw [empty] at trimmed
    exact trimmed rfl
  have written : entered.string ≠ "" := by
    intro empty
    have characters := entered.toList_string
    rw [empty, text] at characters
    simp [some] at characters
  simpa using written

theorem same_string_iff :
    Origin.same left.string right.string = true ↔ left.url.origin = right.url.origin := by
  rw [Origin.same, left.isEmpty_string, right.isEmpty_string, comparable_string, comparable_string,
    ← left.url.isPlain_origin.text_inj right.url.isPlain_origin]
  simp

theorem overlap_string_iff :
    Origin.overlap left.string right.string = true ↔
      left.url.origin.text <:+: right.url.origin.text ∨
        right.url.origin.text <:+: left.url.origin.text := by
  rw [Origin.overlap, left.isEmpty_string, right.isEmpty_string, comparable_string,
    comparable_string, overlapping]
  simp [occursIn_iff]

/-- The origin of a plain URL is its scheme in lower case, or `https`, and its host in lower
case, with the port in decimal behind it where one is given that is not the usual one of the
scheme. So two of them are the same origin exactly when the scheme, the host and the port that
is meant are the same, whatever user, tail and blanks they have and however they are spelt. -/
theorem compared_by_parts :
    (∀ entered : EnteredUrl, (Origin.normalize "https" entered.string).toList =
      entered.url.schemeName ++ "://".toList ++ entered.url.hostName ++ entered.url.portSuffix) ∧
    ∀ left right : EnteredUrl, Origin.same left.string right.string = true ↔
      left.url.schemeName = right.url.schemeName ∧ left.url.hostName = right.url.hostName ∧
        left.url.effectivePort = right.url.effectivePort := by
  constructor
  · intro entered
    rw [toList_normalize_string, PlainUrl.text_origin]
  · intro left right
    rw [same_string_iff, PlainUrl.origin_eq_iff]

example : Origin.normalize "https" "\tHTTP://me@Acme.io:00080/x://y@z:1\n" = "http://acme.io" := by
  decide +kernel

/-- An origin stands in another one exactly where it starts it. -/
theorem infix_origin_iff :
    left.url.origin.text <:+: right.url.origin.text ↔
      left.url.origin.text <+: right.url.origin.text := by
  have plain := left.url.isPlain_origin
  have plain' := right.url.isPlain_origin
  rw [plain.text_prefix_iff plain']
  exact ⟨plain.prefix_of_infix plain', fun parts =>
    ((plain.text_prefix_iff plain').mpr parts).isInfix⟩

theorem hosts_of_prefix (start : left.url.origin.text <+: right.url.origin.text) :
    left.url.schemeName = right.url.schemeName ∧ left.url.hostName <+: right.url.hostName := by
  have plain := left.url.isPlain_origin
  have plain' := right.url.isPlain_origin
  obtain ⟨scheme, place⟩ := (plain.text_prefix_iff plain').mp start
  exact ⟨scheme, plain.host_prefix plain' place⟩

/-- Two origins overlap exactly when one of them starts with the other. So they have one
scheme, and the host of one starts with that of the other: a host overlaps a host below it
only if it stands at the front of that one too. -/
theorem overlap_iff_starts (left right : EnteredUrl) :
    (Origin.overlap left.string right.string = true ↔
      (Origin.normalize "https" left.string).toList <+:
          (Origin.normalize "https" right.string).toList ∨
        (Origin.normalize "https" right.string).toList <+:
          (Origin.normalize "https" left.string).toList) ∧
    (Origin.overlap left.string right.string = true →
      left.url.schemeName = right.url.schemeName ∧
        (left.url.hostName <+: right.url.hostName ∨ right.url.hostName <+: left.url.hostName)) ∧
    ∀ label, right.url.hostName = label ++ '.' :: left.url.hostName →
      ¬ left.url.hostName <+: right.url.hostName →
      Origin.overlap left.string right.string = false := by
  have overlaps : Origin.overlap left.string right.string = true ↔
      left.url.origin.text <+: right.url.origin.text ∨
        right.url.origin.text <+: left.url.origin.text := by
    rw [overlap_string_iff, infix_origin_iff, infix_origin_iff]
  have parts : Origin.overlap left.string right.string = true →
      left.url.schemeName = right.url.schemeName ∧
        (left.url.hostName <+: right.url.hostName ∨
          right.url.hostName <+: left.url.hostName) := by
    intro overlap
    rcases overlaps.mp overlap with start | start
    · obtain ⟨scheme, host⟩ := hosts_of_prefix left right start
      exact ⟨scheme, .inl host⟩
    · obtain ⟨scheme, host⟩ := hosts_of_prefix right left start
      exact ⟨scheme.symm, .inr host⟩
  refine ⟨?_, parts, ?_⟩
  · rw [toList_normalize_string, toList_normalize_string]
    exact overlaps
  · intro label below apart
    rw [Bool.eq_false_iff]
    intro overlap
    rcases (parts overlap).2 with start | start
    · exact apart start
    · -- A host is shorter than one below it.
      have length := start.length_le
      rw [below, List.length_append, List.length_cons] at length
      omega

/-- A domain does not overlap a host below it, or one that it starts under another scheme. -/
theorem not_overlap_acme :
    Origin.overlap "https://acme.io" " HTTPS://me@auth.Acme.io:0443/login " = false ∧
      Origin.overlap "https://acme.io" "http://acme.io.evil.com" = false ∧
      Origin.overlap "https://acme.io" "acme.io.evil.com" = true := by
  let acme : EnteredUrl := { url := { scheme := some "https".toList, host := "acme.io".toList } }
  let auth : EnteredUrl :=
    { before := [' ']
      url :=
        { scheme := some "HTTPS".toList, user := some "me".toList, host := "auth.Acme.io".toList,
          port := some "0443".toList, tail := "/login".toList }
      behind := [' '] }
  let evil : EnteredUrl :=
    { url := { scheme := some "http".toList, host := "acme.io.evil.com".toList } }
  let other : EnteredUrl := { url := { host := "acme.io.evil.com".toList } }
  refine ⟨?_, ?_, ?_⟩
  · exact (overlap_iff_starts acme auth).2.2 "auth".toList (by decide) (by decide)
  · rw [Bool.eq_false_iff]
    intro overlap
    obtain ⟨scheme, -⟩ := (overlap_iff_starts acme evil).2.1 overlap
    exact absurd scheme (by decide)
  · exact (overlap_iff_starts acme other).1.mpr (.inl (by decide +kernel))

end EnteredUrl

end AuthRedirect
