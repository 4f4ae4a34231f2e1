import AuthRedirect.Proofs.NormalForm

/-!
URLs in plain characters, as people write them: a scheme of the web or none, a user name or
none, a host of letters, digits, hyphens, points and underscores, a port or none, and any
path, query and fragment. Reading such a URL takes it apart where it was put together, so
its origin and its host can be told from its parts.
-/

namespace AuthRedirect

open AuthRedirect.Text

/-! ## Parts of a text -/

namespace Text

variable {sep c : Char} {front rest : List Char}

theorem afterLast_append (absent : sep ∉ rest) (front : List Char) :
    afterLast sep (front ++ sep :: rest) = rest := by
  have passes := bne_of_not_mem fun among : sep ∈ rest.reverse => absent (List.mem_reverse.mp among)
  have backwards : (front ++ sep :: rest).reverse = rest.reverse ++ sep :: front.reverse := by simp
  rw [afterLast, backwards, List.takeWhile_append_of_pos passes,
    List.takeWhile_cons_of_neg (by simp), List.append_nil, List.reverse_reverse]

/-- Nothing is dropped in front of a character that stays. -/
theorem dropTrailing_append_of_last {test : Char → Bool} (last : front.getLast? = some c)
    (stays : test c = false) (rest : List Char) :
    dropTrailing test (front ++ rest) = front ++ dropTrailing test rest := by
  obtain ⟨init, rfl⟩ := List.getLast?_eq_some_iff.mp last
  have whole (rest : List Char) : init ++ [c] ++ rest = init ++ c :: rest := by simp
  rw [whole, whole, dropTrailing_append_cons stays]

end Text

/-! ## Characters -/

/-- Whether a character may stand in a user name: it is visible, in ASCII, does not end an
authority and is no bracket. -/
def isUserChar (c : Char) : Bool :=
  0x21 ≤ c.toNat && c.toNat ≤ 0x7E && !(['/', '?', '#', '[', ']'].contains c)

/-- Whether a character may stand in the name of a host. -/
def isHostChar (c : Char) : Bool :=
  c.isAlphanum || c == '-' || c == '.' || c == '_'

/-- The characters that a host and its port are told apart by, and where a user name ends. -/
def delimiters : List Char :=
  ['@', ':', '%']

section Chars

variable {c : Char}

theorem ascii_of_isUserChar (user : isUserChar c = true) : c.toNat < 0x80 := by
  simp only [isUserChar, Bool.and_eq_true, decide_eq_true_eq] at user
  omega

theorem ascii_of_isHostChar (host : isHostChar c = true) : c.toNat < 0x80 := by
  simp only [isHostChar, Bool.or_eq_true, beq_iff_eq] at host
  rcases host with ((name | rfl) | rfl) | rfl
  · exact ascii_of_isAlphanum name
  · decide
  · decide
  · decide

/-- Users are named in characters that are not blank, leave an authority whole and are no
brackets. -/
theorem plain_of_isUserChar (user : isUserChar c = true) :
    isBlank c = false ∧ c ∉ Url.marks ∧ c ≠ '[' ∧ c ≠ ']' :=
  forall_ascii (fun c => isUserChar c = true →
    isBlank c = false ∧ c ∉ Url.marks ∧ c ≠ '[' ∧ c ≠ ']') (by decide) c
    (ascii_of_isUserChar user) user

/-- A user can have the name of a host. -/
theorem isUserChar_of_isHostChar (host : isHostChar c = true) : isUserChar c = true :=
  forall_ascii (fun c => isHostChar c = true → isUserChar c = true) (by decide) c
    (ascii_of_isHostChar host) host

theorem not_delimiter_of_isHostChar (host : isHostChar c = true) : c ∉ delimiters :=
  forall_ascii (fun c => isHostChar c = true → c ∉ delimiters) (by decide) c
    (ascii_of_isHostChar host) host

theorem isHostChar_toLower (host : isHostChar c = true) : isHostChar c.toLower = true :=
  forall_ascii (fun c => isHostChar c = true → isHostChar c.toLower = true) (by decide) c
    (ascii_of_isHostChar host) host

theorem isHostChar_of_isAlpha (letter : c.isAlpha = true) : isHostChar c = true := by
  simp [isHostChar, Char.isAlphanum, letter]

theorem isHostChar_of_isDigit (digit : c.isDigit = true) : isHostChar c = true := by
  simp [isHostChar, Char.isAlphanum, digit]

end Chars

/-! ## Behind the user -/

namespace Url

variable {authority host rest : List Char}

theorem host?_of_hostAndPort (split : (hostAndPort authority).1 = host)
    (named : host ≠ []) (noZone : '%' ∉ host) : host? authority = some (lowercase host) := by
  have passes := bne_of_not_mem noZone
  rw [host?_eq, split, if_neg named, lowerHost, List.takeWhile_eq_self_iff.mpr passes,
    List.dropWhile_eq_nil_iff.mpr passes, List.append_nil]

/-- The host behind the two slashes is that of the authority that stands there. -/
theorem hostBehind?_append (stands : Stands authority) (sound : isAuthority authority = true)
    (follows : Follows rest) : hostBehind? (authority ++ rest) = host? authority := by
  rw [hostBehind?, shownAuthority_append stands follows, if_pos sound]

end Url

/-! ## Plain URLs -/

/-- A URL in plain characters, part by part. -/
structure PlainUrl where
  /-- The scheme as written, without the colon and the slashes. -/
  scheme : Option (List Char) := none
  /-- The user as written, without the `@`. -/
  user : Option (List Char) := none
  host : List Char
  /-- The digits of the port, without the colon. -/
  port : Option (List Char) := none
  /-- The path, the query and the fragment. -/
  tail : List Char := []
  soundScheme : scheme.all (fun written => Url.isWebScheme (written.map Char.toLower)) = true := by
    decide
  soundUser : user.all (fun name => name.all isUserChar) = true := by decide
  named : host ≠ [] := by decide
  soundHost : host.all isHostChar = true := by decide
  soundPort : port.all (fun digits =>
    isDecimal digits && digits.length ≤ 5 && decimalValue digits ≤ 65535) = true := by decide
  soundTail : tail.head?.all (fun mark => !Url.staysInAuthority mark) = true := by decide

namespace PlainUrl

variable (url : PlainUrl)

/-! ### Its text -/

/-- The scheme with its colon and its slashes, or nothing. -/
def schemeText : List Char :=
  (url.scheme.map (· ++ "://".toList)).getD []

/-- The user with the `@` behind it, or nothing. -/
def userText : List Char :=
  (url.user.map (· ++ ['@'])).getD []

/-- The host and the port behind it. -/
def place : List Char :=
  url.host ++ Url.behindColon url.port

def authority : List Char :=
  url.userText ++ url.place

def text : List Char :=
  url.schemeText ++ (url.authority ++ url.tail)

def string : String :=
  String.ofList url.text

/-! ### What it stands for -/

/-- The scheme in lower case, which is `https` where none is written. -/
def schemeName : List Char :=
  (url.scheme.map (·.map Char.toLower)).getD "https".toList

def hostName : List Char :=
  url.host.map Char.toLower

/-- What is written about the port. -/
def portGiven : Url.Port :=
  (url.port.map fun digits => .number (decimalValue digits)).getD .unspecified

/-- The port, unless it is the usual one of the scheme. -/
def shownPort : Option Nat :=
  Origin.shownPort url.schemeName url.portGiven

def origin : Origin :=
  ⟨url.schemeName, url.hostName, url.shownPort⟩

/-! ### The characters of its authority -/

variable {c : Char}

theorem web (written : List Char) (given : written ∈ url.scheme) :
    Url.isWebScheme (written.map Char.toLower) = true :=
  (Option.all_eq_true _ _).mp url.soundScheme written given

theorem plainUser (name : List Char) (given : name ∈ url.user) : ∀ c ∈ name, isUserChar c = true :=
  List.all_eq_true.mp ((Option.all_eq_true _ _).mp url.soundUser name given)

theorem plainHost : ∀ c ∈ url.host, isHostChar c = true :=
  List.all_eq_true.mp url.soundHost

theorem validPort (digits : List Char) (given : digits ∈ url.port) :
    isDecimal digits = true ∧ digits.length ≤ 5 ∧ decimalValue digits ≤ 65535 := by
  have sound := (Option.all_eq_true _ _).mp url.soundPort digits given
  simpa [and_assoc] using sound

theorem follows_tail : Url.Follows url.tail := by
  intro mark first
  simpa using (Option.all_eq_true _ _).mp url.soundTail mark first

variable {url}

theorem isHostChar_of_mem_port {digits : List Char} (given : digits ∈ url.port)
    (among : c ∈ digits) : isHostChar c = true := by
  have decimal := (url.validPort digits given).1
  rw [isDecimal, Bool.and_eq_true, List.all_eq_true] at decimal
  exact isHostChar_of_isDigit (decimal.2 c among)

theorem mem_place (among : c ∈ url.place) : isHostChar c = true ∨ c = ':' := by
  rcases List.mem_append.mp among with inHost | inPort
  · exact .inl (url.plainHost c inHost)
  · cases given : url.port with
    | none =>
        rw [given] at inPort
        cases inPort
    | some digits =>
        rw [given] at inPort
        rcases List.mem_cons.mp inPort with colon | inDigits
        · exact .inr colon
        · exact .inl (isHostChar_of_mem_port given inDigits)

theorem isUserChar_of_mem_authority (among : c ∈ url.authority) : isUserChar c = true := by
  rcases List.mem_append.mp among with inUser | inPlace
  · cases given : url.user with
    | none =>
        rw [userText, given] at inUser
        cases inUser
    | some name =>
        rw [userText, given] at inUser
        rcases List.mem_append.mp inUser with inName | sign
        · exact url.plainUser name given c inName
        · rw [List.mem_singleton.mp sign]
          decide
  · rcases mem_place inPlace with host | rfl
    · exact isUserChar_of_isHostChar host
    · decide

theorem stands_authority (url : PlainUrl) : Url.Stands url.authority :=
  fun _ among => Url.stands_iff.mpr (plain_of_isUserChar (isUserChar_of_mem_authority among)).2.1

theorem isAuthority_authority (url : PlainUrl) : Url.isAuthority url.authority = true := by
  have char {c : Char} (among : c ∈ url.authority) :=
    isUserChar_of_mem_authority among
  apply Url.isAuthority_of_ascii
  · exact fun c among => ascii_of_isUserChar (char among)
  · exact fun among => (plain_of_isUserChar (char among)).2.2.1 rfl
  · exact fun among => (plain_of_isUserChar (char among)).2.2.2 rfl

/-- The authority ends with a character of the host or with a digit of the port. -/
theorem getLast?_authority (url : PlainUrl) :
    ∃ c, url.authority.getLast? = some c ∧ isHostChar c = true := by
  have last {front part : List Char} (some : part ≠ []) (plain : ∀ c ∈ part, isHostChar c = true) :
      ∃ c, (front ++ part).getLast? = Option.some c ∧ isHostChar c = true := by
    refine ⟨part.getLast some, ?_, plain _ (List.getLast_mem some)⟩
    rw [List.getLast?_append_of_ne_nil _ some, List.getLast?_eq_some_getLast some]
  rw [authority, place]
  cases given : url.port with
  | none =>
      rw [Url.behindColon, Option.map_none, Option.getD_none, List.append_nil]
      exact last url.named url.plainHost
  | some digits =>
      have decimal := (url.validPort digits given).1
      have some : digits ≠ [] := by
        rintro rfl
        cases decimal
      have whole : url.userText ++ (url.host ++ Url.behindColon (.some digits)) =
          (url.userText ++ url.host ++ [':']) ++ digits := by
        simp [Url.behindColon]
      rw [whole]
      exact last some fun c => isHostChar_of_mem_port given

/-! ### Its host and its port -/

theorem not_mem_host {mark : Char} (delimiter : mark ∈ delimiters) (url : PlainUrl) :
    mark ∉ url.host :=
  fun among => not_delimiter_of_isHostChar (url.plainHost mark among) delimiter

theorem afterLast_authority (url : PlainUrl) : afterLast '@' url.authority = url.place := by
  have absent : '@' ∉ url.place := by
    intro among
    rcases mem_place among with host | colon
    · exact absurd host (by decide)
    · exact absurd colon (by decide)
  rw [authority, userText]
  cases url.user with
  | none => exact afterLast_of_not_mem absent
  | some name =>
      have whole : (name ++ ['@']) ++ url.place = name ++ '@' :: url.place := by simp
      rw [Option.map_some, Option.getD_some, whole, afterLast_append absent]

theorem hostAndPort_authority (url : PlainUrl) :
    Url.hostAndPort url.authority = (url.host, url.port.getD []) := by
  refine Url.hostAndPort_of_place url.afterLast_authority ?_ (url.not_mem_host (by decide))
  intro among
  rcases mem_place among with host | colon
  · exact absurd host (by decide)
  · exact absurd colon (by decide)

theorem lowercase_host (url : PlainUrl) : lowercase url.host = url.hostName :=
  lowercase_ascii fun c among => ascii_of_isHostChar (url.plainHost c among)

theorem host?_authority (url : PlainUrl) : Url.host? url.authority = some url.hostName := by
  have split : (Url.hostAndPort url.authority).1 = url.host := by rw [hostAndPort_authority]
  rw [Url.host?_of_hostAndPort split url.named (url.not_mem_host (by decide)), lowercase_host]

theorem port_authority (url : PlainUrl) : Url.port url.authority = url.portGiven := by
  unfold Url.port portGiven
  rw [hostAndPort_authority]
  cases given : url.port with
  | none => rfl
  | some digits =>
      obtain ⟨decimal, short, small⟩ := url.validPort digits given
      have some : digits.isEmpty = false := by
        rw [isDecimal, Bool.and_eq_true, Bool.not_eq_true'] at decimal
        exact decimal.1
      have fits : digits.length ≤ Url.maxPortDigits := Nat.le_trans short (by decide)
      simp [some, decimal, small, fits]

/-! ### Reading it -/

/-- Without the blanks at its ends, a plain URL has its scheme and its authority, and
something behind them. -/
theorem trim_text (url : PlainUrl) :
    ∃ rest, Url.Follows rest ∧ trim url.text = url.schemeText ++ (url.authority ++ rest) := by
  obtain ⟨c, last, host⟩ := url.getLast?_authority
  have visible {c : Char} (user : isUserChar c = true) := (plain_of_isUserChar user).1
  have ends : isBlank c = false := visible (isUserChar_of_isHostChar host)
  have dropped := dropTrailing_append_of_last last ends url.tail
  have follows : Url.Follows (dropTrailing isBlank url.tail) := by
    cases tail : url.tail with
    | nil => exact Url.follows_nil
    | cons mark rest =>
        have ends : Url.staysInAuthority mark = false := url.follows_tail mark (by rw [tail]; rfl)
        have seen : isBlank mark = false := by
          rcases Url.cases_of_ends ends with rfl | rfl | rfl <;> decide
        rw [← List.nil_append (mark :: rest), dropTrailing_append_cons seen]
        exact Url.follows_cons ends _
  refine ⟨dropTrailing isBlank url.tail, follows, ?_⟩
  rw [text, schemeText]
  cases given : url.scheme with
  | some written =>
      have mark : "://".toList = [':', '/', '/'] := by decide
      have whole (rest : List Char) : (written ++ [':', '/', '/']) ++ rest =
          written ++ ':' :: '/' :: '/' :: rest := by simp
      rw [Option.map_some, Option.getD_some, mark, whole, whole,
        Url.trim_of_web (url.web written given), dropped]
  | none =>
      rw [Option.map_none, Option.getD_none, List.nil_append, List.nil_append, trim]
      cases start : url.authority with
      | nil =>
          rw [start] at last
          cases last
      | cons first more =>
          have seen : isBlank first = false :=
            visible (isUserChar_of_mem_authority (by rw [start]; exact List.mem_cons_self))
          rw [start] at dropped
          rw [List.cons_append, List.dropWhile_cons_of_neg (by simp [seen]), ← List.cons_append,
            dropped]

/-- A plain URL without a scheme does not look as if it had one of the web: what stands in
front of two slashes is its authority, which does not end with a colon. -/
theorem hasWebScheme_authority (url : PlainUrl) {rest : List Char} (follows : Url.Follows rest) :
    Url.hasWebScheme (url.authority ++ rest) = false := by
  rw [Bool.eq_false_iff]
  intro web
  obtain ⟨written, behind, split, web⟩ := Url.hasWebScheme_iff.mp web
  have stands : Url.Stands (written ++ [':']) := by
    intro c among
    rcases List.mem_append.mp among with letter | colon
    · exact Url.stands_iff.mpr (plain_of_isUserChar (isUserChar_of_isHostChar
        (isHostChar_of_isAlpha (Url.letter_of_web web letter).1))).2.1
    · rw [List.mem_singleton.mp colon]
      decide
  have authority : written ++ [':'] = url.authority := by
    have slashes : Url.Follows ('/' :: '/' :: behind) := Url.follows_cons (by decide) _
    rw [← Url.shownAuthority_append url.stands_authority follows, split,
      ← Url.shownAuthority_append stands slashes]
    simp
  obtain ⟨c, last, host⟩ := url.getLast?_authority
  rw [← authority, List.getLast?_concat, Option.some.injEq] at last
  rw [← last] at host
  exact absurd host (by decide)

/-- What a plain URL is read as, once it is completed. -/
theorem complete_trim (url : PlainUrl) :
    ∃ written rest, written.map Char.toLower = url.schemeName ∧ Url.Follows rest ∧
      Url.isWebScheme url.schemeName = true ∧
      Url.complete "https".toList (trim url.text) =
        written ++ ':' :: '/' :: '/' :: (url.authority ++ rest) := by
  obtain ⟨rest, follows, trimmed⟩ := url.trim_text
  have mark : "://".toList = [':', '/', '/'] := by decide
  rw [trimmed, schemeText, schemeName, mark]
  cases given : url.scheme with
  | some written =>
      have web := url.web written given
      refine ⟨written, rest, rfl, follows, web, ?_⟩
      rw [Option.map_some, Option.getD_some, List.append_assoc]
      exact Url.complete_of_web web
  | none =>
      refine ⟨"https".toList, rest, by decide, follows, by decide, ?_⟩
      rw [Option.map_none, Option.getD_none, List.nil_append, Url.complete,
        if_neg (by rw [url.hasWebScheme_authority follows]; decide), mark]
      simp

theorem trim_text_ne_nil (url : PlainUrl) : trim url.text ≠ [] := by
  obtain ⟨rest, -, trimmed⟩ := url.trim_text
  obtain ⟨c, last, -⟩ := url.getLast?_authority
  rw [trimmed]
  intro empty
  have noAuthority := (List.append_eq_nil_iff.mp (List.append_eq_nil_iff.mp empty).2).1
  rw [noAuthority] at last
  cases last

/-- A plain URL is taken apart into its scheme, its authority and what follows them. -/
theorem parse?_complete (url : PlainUrl) :
    ∃ parsed, Url.parse? (Url.complete "https".toList (trim url.text)) = some parsed ∧
      parsed.scheme = url.schemeName ∧ parsed.authority = url.authority := by
  obtain ⟨written, rest, lower, follows, web, whole⟩ := url.complete_trim
  have shown := Url.shownAuthority_append url.stands_authority follows
  rw [whole, Url.parse?_of_web (by rw [lower]; exact web), lower, Url.ofRest?, shown,
    if_pos url.isAuthority_authority]
  exact ⟨_, rfl, rfl, rfl⟩

/-- A plain URL is read as the origin that its parts make up. -/
theorem read_text (url : PlainUrl) : Origin.read "https".toList url.text = .origin url.origin := by
  obtain ⟨parsed, found, scheme, authority⟩ := url.parse?_complete
  refine Origin.read_eq_origin_iff.mpr
    ⟨url.trim_text_ne_nil, parsed, url.hostName, found, ?_, ?_, ?_⟩
  · rw [authority, port_authority, portGiven]
    cases url.port <;> exact Url.Port.noConfusion
  · rw [authority, host?_authority]
  · rw [scheme, authority, port_authority]
    rfl

theorem hostIn?_text (url : PlainUrl) : Origin.hostIn? url.text = some url.hostName := by
  obtain ⟨parsed, found, -, authority⟩ := url.parse?_complete
  refine Origin.hostIn?_eq_some_iff.mpr ⟨url.trim_text_ne_nil, parsed, found, ?_⟩
  rw [authority, host?_authority]

theorem toList_string (url : PlainUrl) : url.string.toList = url.text :=
  String.toList_ofList

theorem hostOf?_string (url : PlainUrl) :
    Origin.hostOf? url.string = some (String.ofList url.hostName) := by
  rw [Origin.hostOf?, toList_string, hostIn?_text]
  rfl

theorem normalize_string (url : PlainUrl) :
    Origin.normalize "https" url.string = String.ofList url.origin.text := by
  rw [Origin.normalize, toList_string, Origin.normalForm, read_text]

theorem blank_string (url : PlainUrl) : blank url.string = false := by
  obtain ⟨c, last, host⟩ := url.getLast?_authority
  have among : c ∈ url.text :=
    List.mem_append_right _ (List.mem_append_left _ (List.mem_of_getLast? last))
  have visible := (plain_of_isUserChar (isUserChar_of_isHostChar host)).1
  rw [blank, toList_string, allBlank, List.all_eq_false]
  exact ⟨c, among, by simp [visible]⟩

/-! ### Its origin as a plain URL -/

theorem isWebScheme_schemeName (url : PlainUrl) : Url.isWebScheme url.schemeName = true := by
  obtain ⟨-, -, -, -, web, -⟩ := url.complete_trim
  exact web

theorem shownPort_le {number : Nat} (url : PlainUrl) (shown : number ∈ url.shownPort) :
    number ≤ 65535 := by
  rw [shownPort, portGiven] at shown
  cases given : url.port with
  | none =>
      rw [given] at shown
      cases shown
  | some digits =>
      rw [given] at shown
      have small := (url.validPort digits given).2.2
      simp only [Option.map_some, Option.getD_some, Origin.shownPort, Option.mem_def,
        Option.ite_none_left_eq_some, Option.some.injEq] at shown
      rw [← shown.2]
      exact small

theorem validPort_decimalDigits {number : Nat} (small : number ≤ 65535) :
    isDecimal (decimalDigits number) = true ∧ (decimalDigits number).length ≤ 5 ∧
      decimalValue (decimalDigits number) ≤ 65535 := by
  have some : decimalDigits number ≠ [] := Nat.toDigits_ne_nil
  refine ⟨?_, ?_, by rwa [decimalValue_decimalDigits]⟩
  · rw [isDecimal, Bool.and_eq_true, Bool.not_eq_true', List.isEmpty_eq_false_iff, List.all_eq_true]
    exact ⟨some, fun c => isDigit_of_mem_decimalDigits⟩
  · exact (Nat.length_toDigits_le_iff (by decide) (by decide)).mpr (by omega)

theorem hostName_ne_nil (url : PlainUrl) : url.hostName ≠ [] := by
  rw [hostName, ne_eq, List.map_eq_nil_iff]
  exact url.named

theorem isHostChar_of_mem_hostName (url : PlainUrl) : ∀ c ∈ url.hostName, isHostChar c = true := by
  intro c among
  obtain ⟨d, inHost, rfl⟩ := List.mem_map.mp among
  exact isHostChar_toLower (url.plainHost d inHost)

/-- Any part of the host is in lower case. -/
theorem map_toLower_of_subset {part : List Char} (within : part ⊆ url.hostName) :
    part.map Char.toLower = part := by
  have settled : ∀ c ∈ part, c.toLower = c := by
    intro c among
    obtain ⟨d, inHost, rfl⟩ := List.mem_map.mp (within among)
    exact forall_ascii (fun d => d.toLower.toLower = d.toLower) (by decide) d
      (ascii_of_isHostChar (url.plainHost d inHost))
  rw [List.map_congr_left settled, List.map_id']

/-- The URL with the scheme and the port of a plain URL on a host, and with nothing else. -/
def onHost (url : PlainUrl) (host : List Char) (named : host ≠ [])
    (plainHost : ∀ c ∈ host, isHostChar c = true) : PlainUrl where
  scheme := some url.schemeName
  host := host
  port := url.shownPort.map decimalDigits
  soundScheme := by
    rw [Option.all_some]
    exact Url.isWebScheme_map_toLower url.isWebScheme_schemeName
  named := named
  soundHost := List.all_eq_true.mpr plainHost
  soundPort := by
    rw [Option.all_eq_true]
    intro digits given
    obtain ⟨number, shown, rfl⟩ := Option.map_eq_some_iff.mp given
    simpa [and_assoc] using validPort_decimalDigits (url.shownPort_le shown)

/-- It is written as an origin is. -/
theorem text_onHost (url : PlainUrl) {host : List Char} (named : host ≠ [])
    (plainHost : ∀ c ∈ host, isHostChar c = true) :
    (url.onHost host named plainHost).text = Origin.text ⟨url.schemeName, host, url.shownPort⟩ := by
  have mark : "://".toList = [':', '/', '/'] := by decide
  have noColon : ':' ∉ host := fun among => absurd (plainHost ':' among) (by decide)
  rw [Origin.text_eq, Origin.shownHost_of_not_mem noColon, Origin.portText_eq, text, schemeText,
    authority, userText, place, onHost, mark]
  simp

/-- The origin of a plain URL, as a plain URL. -/
def shown (url : PlainUrl) : PlainUrl :=
  url.onHost url.hostName url.hostName_ne_nil url.isHostChar_of_mem_hostName

theorem text_shown (url : PlainUrl) : url.shown.text = url.origin.text :=
  url.text_onHost _ _

theorem hostName_shown (url : PlainUrl) : url.shown.hostName = url.hostName :=
  map_toLower_of_subset (List.Subset.refl _)

end PlainUrl

end AuthRedirect
