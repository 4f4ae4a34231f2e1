import AuthRedirect.Proofs.WebUrls
import Mathlib.Data.List.DropRight

/-!
The normal form of a normal form. An origin that was read is written down, and what was
written is read again: it has the same scheme, host and port, but for blanks at the end
of the host, which reading drops. Where the host is not fit to be read again the text
stays as it is. So one more pass takes away nothing but blanks at the end, and the pass
after it nothing at all: `normalize_settles`.
-/

namespace AuthRedirect

open AuthRedirect.Text

/-! ## Parts of a text -/

namespace Text

variable {test : Char → Bool} {c sep : Char} {s : List Char}

theorem decimalAfter_eq (front : Nat) (s : List Char) :
    decimalAfter front s = Nat.ofDigitChars 10 s front := by
  induction s generalizing front with
  | nil => exact Nat.ofDigitChars_nil.symm
  | cons c rest ih =>
      refine (ih _).trans ?_
      rw [Nat.ofDigitChars_cons, Nat.mul_comm]

theorem decimalValue_decimalDigits (n : Nat) : decimalValue (decimalDigits n) = n := by
  rw [decimalValue, decimalAfter_eq, decimalDigits, Nat.ofDigitChars_ten_toDigits]

theorem isBlank_of_isDigit (digit : c.isDigit = true) : isBlank c = false := by
  have ascii : c.toNat < 0x80 :=
    Nat.lt_of_le_of_lt (Char.isDigit_iff_toNat.mp digit).2 (by decide)
  exact forall_ascii (fun c => c.isDigit = true → isBlank c = false) (by decide) c ascii digit

theorem afterLast_of_not_mem (absent : sep ∉ s) : afterLast sep s = s := by
  have passes := bne_of_not_mem fun among : sep ∈ s.reverse => absent (List.mem_reverse.mp among)
  rw [afterLast, List.takeWhile_eq_self_iff.mpr passes, List.reverse_reverse]

theorem not_mem_takeWhile (sep : Char) (s : List Char) : sep ∉ s.takeWhile (· != sep) := by
  intro among
  have stays := List.mem_takeWhile_imp among
  exact bne_iff_ne.mp stays rfl

theorem not_mem_cutFirst (sep : Char) (s : List Char) : sep ∉ (cutFirst sep s).1 :=
  not_mem_takeWhile sep s

theorem not_mem_afterLast (sep : Char) (s : List Char) : sep ∉ afterLast sep s :=
  fun among => not_mem_takeWhile sep s.reverse (List.mem_reverse.mp among)

theorem dropTrailing_append_of_getLast? {part : List Char} (last : part.getLast? = some c)
    (stays : test c = false) (front : List Char) :
    dropTrailing test (front ++ part) = front ++ part := by
  obtain ⟨init, rfl⟩ := List.getLast?_eq_some_iff.mp last
  rw [← List.append_assoc, dropTrailing_concat, stays]
  rfl

theorem dropTrailing_isPrefix (test : Char → Bool) (s : List Char) : dropTrailing test s <+: s :=
  ⟨_, dropTrailing_append_tail test s⟩

/-- Blanks at the ends go all at once. -/
theorem trim_trim (s : List Char) : trim (trim s) = trim s := by
  unfold trim
  cases shown : s.dropWhile isBlank with
  | nil => rfl
  | cons c rest =>
      have seen : isBlank c = false := by
        have head := List.head?_dropWhile_not isBlank s
        rw [shown] at head
        simpa using head
      have start := dropTrailing_append_cons seen [] rest
      rw [List.nil_append, List.nil_append] at start
      have settled : dropTrailing isBlank (dropTrailing isBlank (c :: rest)) =
          dropTrailing isBlank (c :: rest) := List.rdropWhile_idempotent isBlank (c :: rest)
      rw [start] at settled ⊢
      rw [List.dropWhile_cons_of_neg (by simp [seen]), settled]

theorem takeWhile_prefix_takeWhile {t : List Char} (start : s <+: t) (test : Char → Bool) :
    s.takeWhile test <+: t.takeWhile test := by
  obtain ⟨more, rfl⟩ := start
  rw [List.takeWhile_append]
  split
  · exact (List.takeWhile_prefix test).trans (List.prefix_append _ _)
  · exact List.prefix_refl _

end Text

/-! ## Hosts that are read -/

namespace Url

variable {authority written host front : List Char} {c : Char}

/-- A written host in lower case up to its zone. -/
def lowerHost (written : List Char) : List Char :=
  lowercase (written.takeWhile (· != '%')) ++ written.dropWhile (· != '%')

theorem host?_eq (authority : List Char) :
    host? authority = if (hostAndPort authority).1 = [] then none
      else some (lowerHost (hostAndPort authority).1) := by
  unfold host? lowerHost
  dsimp only
  generalize (hostAndPort authority).1 = written
  rcases cutFirst_cases '%' written with ⟨absent, uncut⟩ | ⟨name, zone, rfl, cut⟩
  · have passes := bne_of_not_mem absent
    rw [uncut, List.takeWhile_eq_self_iff.mpr passes, List.dropWhile_eq_nil_iff.mpr passes]
    simp
  · have ends := cut
    rw [cutFirst, Prod.mk.injEq] at ends
    have whole : (name ++ '%' :: zone).takeWhile (· != '%') ++
        (name ++ '%' :: zone).dropWhile (· != '%') = name ++ '%' :: zone :=
      List.takeWhile_append_dropWhile
    have tail : (name ++ '%' :: zone).dropWhile (· != '%') = '%' :: zone := by
      rw [ends.1] at whole
      exact List.append_cancel_left whole
    rw [cut, ends.1, tail]
    simp

/-- The front of a host in lower case is in lower case. -/
theorem lowerHost_of_prefix (start : front <+: lowerHost written) : lowerHost front = front := by
  have absent : '%' ∉ lowercase (written.takeWhile (· != '%')) := fun among =>
    not_mem_takeWhile '%' written (mem_of_mem_lowercase (by decide) among)
  have zone : (written.dropWhile (· != '%')).takeWhile (· != '%') = [] :=
    List.takeWhile_eq_nil_iff.mpr (List.dropWhile_get_zero_not _ _)
  have taken : front.takeWhile (· != '%') ⊆ lowercase (written.takeWhile (· != '%')) := by
    have part := takeWhile_prefix_takeWhile start (· != '%')
    rw [lowerHost, List.takeWhile_append_of_pos (bne_of_not_mem absent), zone, List.append_nil] at part
    exact part.subset
  rw [lowerHost, lowercase_of_subset taken, List.takeWhile_append_dropWhile]

/-- A port behind its colon, or nothing. -/
def behindColon (port : Option (List Char)) : List Char :=
  (port.map (':' :: ·)).getD []

/-- What stands behind the user is taken apart at its colon. -/
theorem hostAndPort_of_place {port : Option (List Char)}
    (place : afterLast '@' authority = host ++ behindColon port)
    (noOpening : '[' ∉ host ++ behindColon port) (noColon : ':' ∉ host) :
    hostAndPort authority = (host, port.getD []) := by
  unfold hostAndPort
  rw [place]
  dsimp only
  rw [cutFirst_of_not_mem noOpening]
  cases port with
  | none =>
      rw [behindColon, Option.map_none, Option.getD_none, List.append_nil,
        cutFirst_of_not_mem noColon]
      rfl
  | some digits =>
      rw [behindColon, Option.map_some, Option.getD_some, cutFirst_append noColon]

/-- What a host that was read is like. It goes on being so when its end is cut off. -/
structure Readable (host : List Char) : Prop where
  stands : Stands host
  noUser : '@' ∉ host
  /-- Only a host in brackets has colons or an opening bracket, and it ends at the
  closing one. -/
  brackets : ']' ∉ host ∨ '[' ∉ host ∧ ':' ∉ host
  /-- The name is in lower case. -/
  lower : ∀ front, front <+: host → lowerHost front = front

theorem Readable.of_prefix (readable : Readable host) (start : front <+: host) :
    Readable front where
  stands c among := readable.stands c (start.subset among)
  noUser among := readable.noUser (start.subset among)
  brackets := by
    rcases readable.brackets with close | ⟨opening, colon⟩
    · exact .inl fun among => close (start.subset among)
    · exact .inr ⟨fun among => opening (start.subset among),
        fun among => colon (start.subset among)⟩
  lower shorter cut := readable.lower shorter (cut.trans start)

theorem brackets_hostAndPort (authority : List Char) :
    ']' ∉ (hostAndPort authority).1 ∨
      '[' ∉ (hostAndPort authority).1 ∧ ':' ∉ (hostAndPort authority).1 := by
  unfold hostAndPort
  dsimp only
  rcases cutFirst_cases '[' (afterLast '@' authority) with ⟨absent, uncut⟩ | ⟨_, _, -, found⟩
  · rw [uncut]
    exact .inr ⟨fun among => absent (mem_of_mem_cutFirst among), not_mem_cutFirst _ _⟩
  · rw [found]
    exact .inl (not_mem_cutFirst _ _)

/-- The characters that end an authority, and those that a URL is cleaned of. -/
def marks : List Char :=
  ['/', '?', '#', '\t', '\n', '\r']

theorem stands_iff : staysInAuthority c = true ∧ isKept c = true ↔ c ∉ marks := by
  simp [staysInAuthority, isKept, marks, and_assoc]

theorem stands_of_large (large : 0x61 ≤ c.toNat) :
    staysInAuthority c = true ∧ isKept c = true := by
  have small : marks.all (fun mark => decide (mark.toNat < 0x61)) = true := by decide
  refine stands_iff.mpr fun among => ?_
  have code := of_decide_eq_true (List.all_eq_true.mp small c among)
  omega

theorem stands_of_isDigit (digit : c.isDigit = true) :
    staysInAuthority c = true ∧ isKept c = true := by
  have noDigit : marks.all (fun mark => !mark.isDigit) = true := by decide
  refine stands_iff.mpr fun among => ?_
  have other := List.all_eq_true.mp noDigit c among
  rw [digit] at other
  cases other

theorem readable_of_host? (stands : Stands authority) (found : host? authority = some host) :
    Readable host where
  stands c among := by
    by_cases small : c.toNat < 0x61
    · exact stands c (mem_of_mem_host? found small among)
    · exact stands_of_large (Nat.le_of_not_lt small)
  noUser among := by
    have written := mem_written_of_mem_host? found (by decide) among
    exact not_mem_afterLast _ _ (mem_afterLast_of_mem_hostAndPort written)
  brackets := by
    have written {mark : Char} (small : mark.toNat < 0x61) (among : mark ∈ host) :=
      mem_written_of_mem_host? found small among
    rcases brackets_hostAndPort authority with close | ⟨opening, colon⟩
    · exact .inl fun among => close (written (by decide) among)
    · exact .inr ⟨fun among => opening (written (by decide) among),
        fun among => colon (written (by decide) among)⟩
  lower front start := by
    rw [host?_eq, Option.ite_none_left_eq_some, Option.some.injEq] at found
    exact lowerHost_of_prefix (found.2 ▸ start)

end Url

/-! ## Writing and reading again -/

namespace Origin

open Url (Readable Stands host? hostAndPort isAuthority isWebScheme)

variable {defaultScheme again raw scheme host : List Char} {port : Option Nat} {value : Origin}

/-- The digits of a port that is shown. -/
def portDigits (port : Option Nat) : List Char :=
  (port.map decimalDigits).getD []

/-- A port that is shown, behind its colon. -/
def portText (port : Option Nat) : List Char :=
  (port.map fun port => ':' :: decimalDigits port).getD []

theorem text_eq (value : Origin) :
    value.text =
      value.scheme ++ ':' :: '/' :: '/' :: (shownHost value.host ++ portText value.port) := by
  have mark : "://".toList = [':', '/', '/'] := by decide
  unfold text
  rw [mark]
  cases value.port <;> simp [portText]

theorem portText_eq (port : Option Nat) :
    portText port = Url.behindColon (port.map decimalDigits) := by
  cases port <;> rfl

theorem cutFirst_portText (port : Option Nat) :
    (cutFirst ':' (portText port)).2.getD [] = portDigits port := by
  cases port <;> rfl

theorem portText_cases {c : Char} (among : c ∈ portText port) : c = ':' ∨ c.isDigit = true := by
  cases port with
  | none => cases among
  | some port =>
      rcases List.mem_cons.mp among with colon | digit
      · exact .inl colon
      · exact .inr (isDigit_of_mem_decimalDigits digit)

theorem not_mem_portText {mark : Char} (noColon : mark ≠ ':') (noDigit : mark.isDigit = false) :
    mark ∉ portText port := by
  intro among
  rcases portText_cases among with colon | digit
  · exact noColon colon
  · rw [noDigit] at digit
    cases digit

theorem shownHost_of_mem (colon : ':' ∈ host) : shownHost host = '[' :: (host ++ [']']) :=
  if_pos (List.contains_iff_mem.mpr colon)

theorem shownHost_of_not_mem (colon : ':' ∉ host) : shownHost host = host :=
  if_neg fun among => colon (List.contains_iff_mem.mp among)

/-- An authority that shows a host that was read, and a port, has that host and that
port. -/
theorem hostAndPort_shown (readable : Readable host)
    (sound : isAuthority (shownHost host ++ portText port) = true) :
    hostAndPort (shownHost host ++ portText port) = (host, portDigits port) := by
  have noUser : '@' ∉ shownHost host ++ portText port := by
    have ending : '@' ∉ portText port := not_mem_portText (by decide) (by decide)
    unfold shownHost
    split
    · simpa [ending] using readable.noUser
    · simpa [ending] using readable.noUser
  by_cases colon : ':' ∈ host
  · have close : ']' ∉ host := by
      rcases readable.brackets with close | ⟨-, noColon⟩
      · exact close
      · exact absurd colon noColon
    have opened : cutFirst '[' (shownHost host ++ portText port) =
        ([], some (host ++ ']' :: portText port)) := by
      have cut := cutFirst_append (List.not_mem_nil (a := '[')) (host ++ ']' :: portText port)
      rw [← cut, shownHost_of_mem colon]
      simp
    unfold hostAndPort
    rw [afterLast_of_not_mem noUser]
    dsimp only
    rw [opened]
    dsimp only
    rw [cutFirst_append close]
    simp [cutFirst_portText]
  · rw [shownHost_of_not_mem colon] at sound noUser ⊢
    have opening : '[' ∉ host ++ portText port := by
      intro among
      have close : ']' ∉ host ++ portText port := by
        have ending : ']' ∉ portText port := not_mem_portText (by decide) (by decide)
        rcases readable.brackets with close | ⟨noOpening, -⟩
        · simpa [ending] using close
        · rcases List.mem_append.mp among with inHost | inPort
          · exact absurd inHost noOpening
          · exact absurd inPort (not_mem_portText (by decide) (by decide))
      simp [isAuthority, Url.hasSoundBrackets, List.contains_eq_mem, among, close] at sound
    rw [portText_eq] at opening noUser ⊢
    exact Url.hostAndPort_of_place (afterLast_of_not_mem noUser) opening colon

/-- A port that is shown is read again, or it is too large. -/
theorem shownPort_shown {authority : List Char}
    (written : (hostAndPort authority).2 = portDigits port)
    (unusual : ∀ number, port = some number → usualPort? scheme ≠ some number)
    (sound : Url.port authority ≠ .malformed) : shownPort scheme (Url.port authority) = port := by
  unfold Url.port at sound ⊢
  rw [written] at sound ⊢
  cases port with
  | none => rfl
  | some number =>
      have digits : (portDigits (some number)).isEmpty = false :=
        List.isEmpty_eq_false_iff.mpr Nat.toDigits_ne_nil
      have value : decimalValue (portDigits (some number)) = number :=
        decimalValue_decimalDigits number
      simp only [digits, value, Bool.false_eq_true, if_false] at sound ⊢
      split at sound
      · next fits =>
          rw [if_pos fits]
          exact if_neg (unusual number rfl)
      · exact absurd rfl sound

theorem unusual_shownPort {written : Url.Port} {number : Nat}
    (shown : shownPort scheme written = some number) : usualPort? scheme ≠ some number := by
  cases written with
  | number value =>
      rw [shownPort, Option.ite_none_left_eq_some, Option.some.injEq] at shown
      rw [← shown.2]
      exact shown.1
  | unspecified => cases shown
  | malformed => cases shown

theorem stands_shown (stands : Stands host) (port : Option Nat) :
    Stands (shownHost host ++ portText port) := by
  intro c among
  rcases List.mem_append.mp among with inHost | inPort
  · unfold shownHost at inHost
    split at inHost
    · rcases List.mem_append.mp inHost with opened | close
      · rcases List.mem_cons.mp opened with rfl | inHost
        · decide
        · exact stands c inHost
      · rw [List.mem_singleton.mp close]
        decide
    · exact stands c inHost
  · rcases portText_cases inPort with rfl | digit
    · decide
    · exact Url.stands_of_isDigit digit

/-- What is read where an origin is written. -/
theorem eq_of_parse?_text {url : Url} (web : isWebScheme scheme = true) (readable : Readable host)
    (parsed : Url.parse? (Url.complete defaultScheme (text ⟨scheme, host, port⟩)) = some url) :
    url.scheme = scheme ∧ hostAndPort url.authority = (host, portDigits port) := by
  have lower := Url.map_toLower_of_isWebScheme web
  have written := Url.isWebScheme_map_toLower web
  have shown := Url.shownAuthority_append (stands_shown readable.stands port) Url.follows_nil
  rw [text_eq, Url.complete_of_web written, Url.parse?_of_web written, lower] at parsed
  obtain ⟨sameScheme, authority, sound⟩ := Url.ofRest?_eq_some parsed
  rw [List.append_nil] at shown
  rw [shown] at authority sound
  rw [authority]
  exact ⟨sameScheme, hostAndPort_shown readable sound⟩

/-- What an origin that was read is like. -/
structure Proper (value : Origin) : Prop where
  web : isWebScheme value.scheme = true
  readable : Readable value.host
  unusual : ∀ number, value.port = some number → usualPort? value.scheme ≠ some number

theorem proper_of_read (web : isWebScheme defaultScheme = true)
    (found : read defaultScheme raw = .origin value) : Proper value := by
  obtain ⟨-, url, host, parsed, -, hasHost, rfl⟩ := read_eq_origin_iff.mp found
  obtain ⟨written, rest, completed, given⟩ := Url.complete_cases web (trim raw)
  rw [completed, Url.parse?_of_web given] at parsed
  obtain ⟨scheme, authority, -⟩ := Url.ofRest?_eq_some parsed
  have stands : Stands url.authority := by
    rw [authority]
    exact Url.stands_shownAuthority rest
  exact ⟨by rw [scheme]; exact given, Url.readable_of_host? stands hasHost,
    fun number => unusual_shownPort⟩

/-- Without the blanks at its end, what shows a host and a port shows the same port, and
a host that may be shorter. -/
theorem dropTrailing_shown (host : List Char) (port : Option Nat) :
    ∃ front, front <+: host ∧
      dropTrailing isBlank (shownHost host ++ portText port) = shownHost front ++ portText port := by
  cases port with
  | some port =>
      refine ⟨host, List.prefix_refl _, ?_⟩
      have some : decimalDigits port ≠ [] := Nat.toDigits_ne_nil
      have last := List.getLast?_eq_some_getLast some
      have digit := isDigit_of_mem_decimalDigits (List.getLast_mem some)
      have whole : shownHost host ++ portText (.some port) =
          (shownHost host ++ [':']) ++ decimalDigits port := by
        simp [portText]
      rw [whole, dropTrailing_append_of_getLast? last (isBlank_of_isDigit digit)]
  | none =>
      have ending : portText none = [] := rfl
      rw [ending]
      by_cases colon : ':' ∈ host
      · refine ⟨host, List.prefix_refl _, ?_⟩
        rw [shownHost_of_mem colon, List.append_nil, ← List.cons_append,
          dropTrailing_append_of_getLast? List.getLast?_singleton (by decide)]
      · have start := dropTrailing_isPrefix isBlank host
        have noColon : ':' ∉ dropTrailing isBlank host := fun among => colon (start.subset among)
        refine ⟨dropTrailing isBlank host, start, ?_⟩
        rw [shownHost_of_not_mem colon, shownHost_of_not_mem noColon, List.append_nil,
          List.append_nil]

/-- The text of an origin without the blanks at its end is the text of an origin whose
host may be shorter. -/
theorem Proper.trim_text (proper : Proper value) :
    ∃ host, host <+: value.host ∧ trim value.text = text ⟨value.scheme, host, value.port⟩ := by
  obtain ⟨host, start, dropped⟩ := dropTrailing_shown value.host value.port
  have written := Url.isWebScheme_map_toLower proper.web
  refine ⟨host, start, ?_⟩
  rw [text_eq, text_eq, Url.trim_of_web written, dropped]

/-- An origin that is written and read again has lost nothing but blanks at its end. -/
theorem Proper.text_of_read {other : Origin} (proper : Proper value)
    (found : read again value.text = .origin other) : other.text = trim value.text := by
  obtain ⟨host, start, trimmed⟩ := proper.trim_text
  obtain ⟨-, url, found, parsed, sound, hasHost, rfl⟩ := read_eq_origin_iff.mp found
  have readable := proper.readable.of_prefix start
  rw [trimmed] at parsed
  obtain ⟨scheme, written⟩ := eq_of_parse?_text proper.web readable parsed
  rw [Url.host?_eq, written, Option.ite_none_left_eq_some, Option.some.injEq,
    readable.lower _ (List.prefix_refl _)] at hasHost
  have port := shownPort_shown (by rw [written]) proper.unusual sound
  rw [trimmed, scheme, port, ← hasHost.2]

/-- The normal form of a normal form is that form, or it is without its blanks. -/
theorem Proper.normalForm_text (proper : Proper value) (again : List Char) :
    normalForm again value.text = value.text ∨ normalForm again value.text = trim value.text := by
  unfold normalForm
  split
  · next other found => exact .inr (proper.text_of_read found)
  · exact .inl rfl

/-! ## Settling -/

theorem read_trim (scheme raw : List Char) : read scheme (trim raw) = read scheme raw := by
  unfold read
  rw [trim_trim]

/-- The characters that end an authority, and the one that ends a user. -/
def endings : List Char :=
  ['/', '?', '#', '@']

theorem not_mem_shown_of_ending {mark : Char} (ending : mark ∈ endings)
    (readable : Readable value.host) : mark ∉ shownHost value.host ++ portText value.port := by
  have apart : ∀ mark ∈ endings, (mark ∈ Url.marks ∨ mark = '@') ∧ mark ≠ '[' ∧ mark ≠ ']' ∧
      mark ≠ ':' ∧ mark.isDigit = false := by
    simp only [endings, List.forall_mem_cons]
    refine ⟨by decide, by decide, by decide, by decide, List.forall_mem_nil _⟩
  obtain ⟨ends, noOpening, noClose, noColon, noDigit⟩ := apart mark ending
  have inHost : mark ∉ value.host := by
    intro among
    rcases ends with listed | user
    · exact Url.stands_iff.mp (readable.stands mark among) listed
    · rw [user] at among
      exact readable.noUser among
  have inPort : mark ∉ portText value.port := not_mem_portText noColon noDigit
  unfold shownHost
  split
  · simp [inHost, inPort, noOpening, noClose]
  · simp [inHost, inPort]

/-- Where nothing is read a text stays, and an origin that is read is written. -/
theorem normalForm_cases (web : isWebScheme defaultScheme = true) (raw : List Char) :
    normalForm defaultScheme raw = raw ∨
      ∃ value, Proper value ∧ value.host ≠ [] ∧ normalForm defaultScheme raw = value.text := by
  cases found : read defaultScheme raw with
  | origin value =>
      obtain ⟨-, url, host, -, -, hasHost, rfl⟩ := read_eq_origin_iff.mp found
      exact .inr ⟨_, proper_of_read web found, Url.ne_nil_of_host? hasHost,
        by rw [normalForm, found]⟩
  | blank => exact .inl (by rw [normalForm, found])
  | unparseable => exact .inl (by rw [normalForm, found])
  | hostless => exact .inl (by rw [normalForm, found])

/-- An origin is written with a scheme of the web, and with a host behind the slashes that
is not ended there. -/
theorem Proper.text_eq_append (proper : Proper value) (named : value.host ≠ []) :
    ∃ front rest, front ∈ ["http://", "https://"] ∧ value.text = front.toList ++ rest ∧
      rest ≠ [] ∧ ∀ mark ∈ endings, mark ∉ rest := by
  have plain : "http://".toList = ['h', 't', 't', 'p'] ++ [':', '/', '/'] := by decide
  have secure : "https://".toList = ['h', 't', 't', 'p', 's'] ++ [':', '/', '/'] := by decide
  have some : shownHost value.host ++ portText value.port ≠ [] :=
    List.append_ne_nil_of_left_ne_nil (shownHost_ne_nil named) _
  have free : ∀ mark ∈ endings, mark ∉ shownHost value.host ++ portText value.port :=
    fun mark ending => not_mem_shown_of_ending ending proper.readable
  rcases Url.isWebScheme_iff.mp proper.web with scheme | scheme
  · refine ⟨"http://", _, by simp, ?_, some, free⟩
    rw [text_eq, scheme, plain]
    simp
  · refine ⟨"https://", _, by simp, ?_, some, free⟩
    rw [text_eq, scheme, secure]
    simp

/-- What was written and read once is read alike from then on. -/
theorem Proper.normalForm_normalForm_text (proper : Proper value) (again : List Char) :
    normalForm again (normalForm again value.text) = normalForm again value.text := by
  by_cases found : ∃ other, read again value.text = .origin other
  · obtain ⟨other, found⟩ := found
    have trimmed := proper.text_of_read found
    have once : normalForm again value.text = trim value.text := by
      rw [normalForm, found]
      exact trimmed
    rw [once, normalForm, read_trim, found]
    exact trimmed
  · have stays : normalForm again value.text = value.text := by
      unfold normalForm
      split
      · next other read => exact absurd ⟨other, read⟩ found
      · rfl
    rw [stays, stays]

/-- An origin that is written without a blank at its end is its own normal form. -/
theorem Proper.normalForm_text_eq_self (proper : Proper value) (named : value.host ≠ [])
    (visible : ∀ c, value.text.getLast? = some c → isBlank c = false) (again : List Char) :
    normalForm again value.text = value.text := by
  have some : shownHost value.host ++ portText value.port ≠ [] :=
    List.append_ne_nil_of_left_ne_nil (shownHost_ne_nil named) _
  have last := List.getLast?_eq_some_getLast some
  have written := Url.isWebScheme_map_toLower proper.web
  have whole : value.text = (value.scheme ++ [':', '/', '/']) ++
      (shownHost value.host ++ portText value.port) := by
    rw [text_eq]
    simp
  have ends := visible _ (by rw [whole, List.getLast?_append_of_ne_nil _ some, last])
  have kept := dropTrailing_append_of_getLast? last ends []
  rw [List.nil_append] at kept
  rcases proper.normalForm_text again with stays | trimmed
  · exact stays
  · rw [trimmed, text_eq, Url.trim_of_web written, kept]

/-- The normal form of a text is the text itself, or a scheme of the web with its mark and
something behind it that is not ended there. Normal forms settle with the second one, and
with the first one unless blanks stand at its end. -/
theorem normalize_settles {scheme : String} (web : scheme = "http" ∨ scheme = "https")
    (raw : String) :
    (normalize scheme raw = raw ∨
      ∃ front rest, front ∈ ["http://", "https://"] ∧
        (normalize scheme raw).toList = front.toList ++ rest ∧ rest ≠ [] ∧
        ∀ mark ∈ endings, mark ∉ rest) ∧
    normalize scheme (normalize scheme (normalize scheme raw)) =
      normalize scheme (normalize scheme raw) ∧
    ((∀ c, (normalize scheme raw).toList.getLast? = some c → isBlank c = false) →
      normalize scheme (normalize scheme raw) = normalize scheme raw) := by
  have isWeb : isWebScheme scheme.toList = true := by
    rcases web with rfl | rfl
    · decide
    · decide
  have again (text : List Char) :
      normalize scheme (String.ofList text) = String.ofList (normalForm scheme.toList text) := by
    rw [normalize, String.toList_ofList]
  rcases normalForm_cases isWeb raw.toList with same | ⟨value, proper, named, written⟩
  · have stays : normalize scheme raw = raw := by
      rw [normalize, same, String.ofList_toList]
    exact ⟨.inl stays, by simp only [stays], fun _ => by simp only [stays]⟩
  · have once : normalize scheme raw = String.ofList value.text := by
      rw [normalize, written]
    obtain ⟨front, rest, listed, split, some, free⟩ := proper.text_eq_append named
    refine ⟨.inr ⟨front, rest, listed, ?_, some, free⟩, ?_, ?_⟩
    · rw [once, String.toList_ofList, split]
    · rw [once, again, again, proper.normalForm_normalForm_text]
    · intro visible
      rw [once, String.toList_ofList] at visible
      rw [once, again, proper.normalForm_text_eq_self named visible]

/-- A host that ends with a blank loses it the second time. A host in brackets ends with
none. -/
theorem normalize_settles_of_blank_behind_host :
    (normalize "https" "HTTP://me@Acme.io\u00a0:080/login" = "http://acme.io\u00a0" ∧
      normalize "https" "http://acme.io\u00a0" = "http://acme.io" ∧
      normalize "https" "http://acme.io" = "http://acme.io") ∧
    normalize "http" " HTTPS://me@[2001:DB8::1]:0443/" = "https://[2001:db8::1]" ∧
      normalize "http" "https://[2001:db8::1]" = "https://[2001:db8::1]" := by
  have shown : normalize "https" "HTTP://me@Acme.io\u00a0:080/login" = "http://acme.io\u00a0" ∧
      normalize "https" "http://acme.io\u00a0" = "http://acme.io" ∧
      normalize "http" " HTTPS://me@[2001:DB8::1]:0443/" = "https://[2001:db8::1]" := by
    decide +kernel
  obtain ⟨first, second, bracketed⟩ := shown
  have third := (normalize_settles (.inr rfl) "HTTP://me@Acme.io\u00a0:080/login").2.1
  rw [first, second] at third
  have settled := (normalize_settles (.inl rfl) " HTTPS://me@[2001:DB8::1]:0443/").2.2
  rw [bracketed] at settled
  have last : "https://[2001:db8::1]".toList.getLast? = some ']' := by decide
  refine ⟨⟨first, second, third⟩, bracketed, settled fun c ends => ?_⟩
  cases last.symm.trans ends
  decide

end Origin

end AuthRedirect
