import AuthRedirect.Handoff
import AuthRedirect.Proofs.QueryText
import AuthRedirect.Proofs.UrlText

/-!
The parameters of a URL with a token. The query of the result holds the parameters that the
URL had, decoded and in their order, without those that hand over a token, and then the ones
that hand over the new token: `parameters_appendToken`. So an old token does not stay beside
the new one, however its name was written. With an authority, handing over one token after
another is handing over the last one: `appendToken_appendToken`.
-/

namespace AuthRedirect.Handoff

open AuthRedirect.Text
open Url (Parameter Placed)

variable {url token fresh stale : String} {expiresAt freshExpiry staleExpiry : Option Int}
  {given : List Char} {parts : Url} {handed later : List Parameter}

/-! ## Parameters that hand over a token -/

theorem isHandoff_iff {parameter : Parameter} :
    isHandoff parameter = true ↔ parameter.1 = tokenName ∨ parameter.1 = expiryName := by
  rw [isHandoff, Bool.or_eq_true, beq_iff_eq, beq_iff_eq]

theorem isHandoff_of_mem {parameter : Parameter} {token : List Char}
    (among : parameter ∈ tokenParameters token expiresAt) : isHandoff parameter = true := by
  rw [isHandoff_iff]
  rcases List.mem_cons.mp among with rfl | expiry
  · exact .inl rfl
  · cases expiresAt with
    | none => cases expiry
    | some time =>
        dsimp only at expiry
        split at expiry
        · cases expiry
        · rw [List.mem_singleton.mp expiry]
          exact .inr rfl

/-- There is one token among them. -/
theorem countP_tokenParameters (token : List Char) (expiresAt : Option Int) :
    (tokenParameters token expiresAt).countP (fun parameter => parameter.1 = tokenName) = 1 := by
  have other : expiryName ≠ tokenName := by decide
  cases expiresAt with
  | none => simp [tokenParameters]
  | some time =>
      by_cases never : time = 0
      · simp [tokenParameters, never]
      · simp [tokenParameters, never, other]

/-- The parameters of a URL that do not hand over a token. -/
def ownParameters (parts : Url) : List Parameter :=
  (Url.parameters parts.query).filter fun parameter => !isHandoff parameter

theorem withParameters_eq (handed : List Parameter) (parts : Url) :
    withParameters handed parts =
      { parts with query := Url.queryText (ownParameters parts ++ handed) } :=
  rfl

/-- Parameters that hand over a token are no more the URL's own than those before them. -/
theorem ownParameters_withParameters (hands : ∀ parameter ∈ handed, isHandoff parameter = true)
    (parts : Url) : ownParameters (withParameters handed parts) = ownParameters parts := by
  have dropped : handed.filter (fun parameter => !isHandoff parameter) = [] :=
    List.filter_eq_nil_iff.mpr fun parameter among => by simp [hands parameter among]
  rw [withParameters_eq, ownParameters, Url.parameters_queryText, List.filter_append, dropped,
    List.append_nil, ownParameters, List.filter_filter]
  simp only [Bool.and_self]

/-- The parameters that hand over the later token take the place of those before them. -/
theorem withParameters_withParameters (hands : ∀ parameter ∈ handed, isHandoff parameter = true)
    (later : List Parameter) (parts : Url) :
    withParameters later (withParameters handed parts) = withParameters later parts := by
  rw [withParameters_eq later, ownParameters_withParameters hands, withParameters_eq,
    withParameters_eq]

/-! ## The query that is shown -/

theorem plain_of_mem_queryText {parameters : List Parameter} {c : Char}
    (among : c ∈ Url.queryText parameters) : c ≠ '#' ∧ Url.isKept c = true := by
  rcases Url.mem_queryText among with rfl | rfl | rfl | plain
  · decide
  · decide
  · decide
  · exact forall_ascii (fun c => Url.isUnreserved c = true → c ≠ '#' ∧ Url.isKept c = true)
      (by decide) c (Url.ascii_of_isUnreserved plain) plain

theorem sign_not_mem_queryText (parameters : List Parameter) : '#' ∉ Url.queryText parameters :=
  fun among => (plain_of_mem_queryText among).1 rfl

/-- The text with the token shows the query that was written. -/
theorem shownQuery_attach (parsed : Url.parse? (completed given) = some parts) (some : handed ≠ []) :
    Url.shownQuery (attach handed given) = Url.queryText (ownParameters parts ++ handed) := by
  obtain ⟨noScheme, noAuthority, noPath⟩ := Url.question_not_mem parsed
  have asked : (withParameters handed parts).query ≠ [] :=
    Url.queryText_ne_nil (List.append_ne_nil_of_right_ne_nil _ some)
  rw [attach, parsed]
  exact Url.shownQuery_text noScheme noAuthority noPath asked (sign_not_mem_queryText _)

theorem toList_appendToken (written : url ≠ "") (named : token ≠ "") :
    (appendToken url token expiresAt).toList =
      attach (tokenParameters token.toList expiresAt) url.toList := by
  have both : (url.isEmpty || token.isEmpty) = false := by
    simpa using ⟨written, named⟩
  rw [appendToken, if_neg (by rw [both]; decide), String.toList_ofList]

/-- The query of a URL with a token is read as the parameters that the URL had, but for those
named as a token or as an expiry, and then the token, and the time of expiry unless it is
zero. So there is one token, whatever the characters are. -/
theorem parameters_appendToken (written : url ≠ "") (named : token ≠ "")
    (parsed : Url.parse? (completed url.toList) = some parts) :
    Url.parameters (Url.shownQuery (appendToken url token expiresAt).toList) =
        (Url.parameters parts.query).filter (fun parameter =>
          parameter.1 ≠ "token".toList ∧ parameter.1 ≠ "exp".toList) ++
        ("token".toList, token.toList) ::
          (match expiresAt with
          | none => []
          | some time => if time = 0 then [] else [("exp".toList, decimalInt time)]) ∧
      (Url.parameters (Url.shownQuery (appendToken url token expiresAt).toList)).countP
        (fun parameter => parameter.1 = "token".toList) = 1 := by
  have read : Url.parameters (Url.shownQuery (appendToken url token expiresAt).toList) =
      ownParameters parts ++ tokenParameters token.toList expiresAt := by
    have some : tokenParameters token.toList expiresAt ≠ [] := List.cons_ne_nil _ _
    rw [toList_appendToken written named, shownQuery_attach parsed some, Url.parameters_queryText]
  have own : ownParameters parts = (Url.parameters parts.query).filter fun parameter =>
      parameter.1 ≠ "token".toList ∧ parameter.1 ≠ "exp".toList := by
    refine List.filter_congr fun parameter _ => ?_
    rw [Bool.eq_iff_iff, Bool.not_eq_true', Bool.eq_false_iff, ne_eq, isHandoff_iff, not_or,
      decide_eq_true_eq]
    exact Iff.rfl
  have noneOwn : (ownParameters parts).countP (fun parameter => parameter.1 = "token".toList) = 0 := by
    refine List.countP_eq_zero.mpr fun parameter among isToken => ?_
    rw [own, List.mem_filter, decide_eq_true_eq] at among
    exact among.2.1 (of_decide_eq_true isToken)
  rw [read]
  refine ⟨?_, ?_⟩
  · rw [own]
    rfl
  · rw [List.countP_append, noneOwn, Nat.zero_add]
    exact countP_tokenParameters _ _

/-- The name of the old token is written in percent encoding, and the last parameter is in
the fragment. -/
theorem parameters_appendToken_of_encoded_name :
    (Url.parameters (Url.shownQuery (appendToken
        "app.acme.io/home?lang=de&%74oken=old&&=&q=%zz+%C3%BC&exp=9#top?token=x" "a&token=b #ü"
        (some 1700)).toList)).map (fun parameter =>
          (String.ofList parameter.1, String.ofList parameter.2)) =
      [("lang", "de"), ("", ""), ("q", "%zz ü"), ("token", "a&token=b #ü"), ("exp", "1700")] := by
  have parsed : Url.parse? (completed
      "app.acme.io/home?lang=de&%74oken=old&&=&q=%zz+%C3%BC&exp=9#top?token=x".toList) =
      some ⟨"https".toList, "app.acme.io".toList, "/home".toList,
        "lang=de&%74oken=old&&=&q=%zz+%C3%BC&exp=9".toList, "top?token=x".toList⟩ := by
    decide +kernel
  rw [(parameters_appendToken (by decide) (by decide) parsed).1]
  decide +kernel

/-! ## One token after another -/

/-- The parameters of a URL can be replaced without moving the rest of it. -/
theorem placed_withParameters (placed : Placed parts) (handed : List Parameter) :
    Placed (withParameters handed parts) where
  web := placed.web
  named := placed.named
  stands := placed.stands
  sound := placed.sound
  follows := placed.follows
  noQuestion := placed.noQuestion
  noSign := ⟨placed.noSign.1, sign_not_mem_queryText _⟩
  kept c among := by
    rcases among with inPath | inQuery | inFragment
    · exact placed.kept c (.inl inPath)
    · exact (plain_of_mem_queryText inQuery).2
    · exact placed.kept c (.inr (.inr inFragment))

theorem completed_of_hasWebScheme (web : Url.hasWebScheme given = true) : completed given = given := by
  have noSlash : given.head? ≠ some '/' := by
    intro slash
    obtain ⟨rest, rfl⟩ := List.head?_eq_some_iff.mp slash
    cases web
  rw [completed, if_neg noSlash, Url.complete, if_pos web]

theorem completed_text (placed : Placed parts) : completed parts.text = parts.text := by
  have written := Url.isWebScheme_map_toLower placed.web
  exact completed_of_hasWebScheme (Url.hasWebScheme_iff.mpr ⟨_, _, placed.text_eq, written⟩)

/-- Handing over once more puts the later parameters in place of the ones before. -/
theorem attach_attach (placed : Placed parts) (parsed : Url.parse? (completed given) = some parts)
    (hands : ∀ parameter ∈ handed, isHandoff parameter = true) (later : List Parameter) :
    attach later (attach handed given) = attach later given := by
  have moved := placed_withParameters placed handed
  have again : Url.parse? (completed (withParameters handed parts).text) =
      some (withParameters handed parts) := by
    rw [completed_text moved, moved.parse?_text]
  have first : attach handed given = (withParameters handed parts).text := by
    rw [attach, parsed]
  rw [first, attach, again, attach, parsed]
  dsimp only
  rw [withParameters_withParameters hands]

/-- A URL of the web with an authority is taken apart for its token so that its parts stand
where they are found again. -/
theorem exists_placed (parsed : Url.parse? given = some parts)
    (web : Url.isWebScheme parts.scheme = true) (named : parts.authority ≠ []) :
    ∃ taken, Url.parse? (completed given) = some taken ∧ Placed taken := by
  by_cases given' : Url.hasWebScheme given = true
  · have whole : Url.complete "https".toList given = given := if_pos given'
    have secure : Url.isWebScheme "https".toList = true := by decide
    have placed : Placed parts :=
      Url.placed_of_parse? secure (by rw [whole]; exact parsed) named
    exact ⟨parts, by rw [completed_of_hasWebScheme given', parsed], placed⟩
  · have secure : Url.isWebScheme ("https".toList.map Char.toLower) = true := by decide
    obtain ⟨noSlash, sound, shown⟩ := Url.shownAuthority_of_parse? parsed web named
    have whole : completed given = "https".toList ++ ':' :: '/' :: '/' :: given := by
      rw [completed, if_neg noSlash, Url.complete, if_neg given']
      rfl
    have taken : ∃ taken, Url.ofRest? ("https".toList.map Char.toLower) given = some taken := by
      rw [Url.ofRest?, if_pos sound]
      exact ⟨_, rfl⟩
    obtain ⟨taken, found⟩ := taken
    have authority : taken.authority ≠ [] := by
      rw [(Url.ofRest?_eq_some found).2.1]
      exact shown
    refine ⟨taken, ?_, Url.placed_of_ofRest? secure found authority⟩
    rw [whole, Url.parse?_of_web secure, found]

/-- Where a URL of the web has an authority, a fresh token takes the place of the stale one:
nothing of that one, its time of expiry included, is left. -/
theorem appendToken_appendToken (parsed : Url.parse? url.toList = some parts)
    (web : Url.isWebScheme parts.scheme = true) (named : parts.authority ≠ [])
    (someStale : stale ≠ "") (someFresh : fresh ≠ "") :
    appendToken (appendToken url stale staleExpiry) fresh freshExpiry =
      appendToken url fresh freshExpiry := by
  obtain ⟨taken, found, placed⟩ := exists_placed parsed web named
  have written : url ≠ "" := by
    rintro rfl
    cases parsed
    cases web
  have attached : (appendToken url stale staleExpiry).toList =
      attach (tokenParameters stale.toList staleExpiry) url.toList :=
    toList_appendToken written someStale
  have text : attach (tokenParameters stale.toList staleExpiry) url.toList =
      (withParameters (tokenParameters stale.toList staleExpiry) taken).text := by
    rw [attach, found]
  have writtenAgain : appendToken url stale staleExpiry ≠ "" := by
    intro empty
    rw [empty, text, (placed_withParameters placed _).text_eq] at attached
    simp at attached
  rw [← String.toList_inj, toList_appendToken writtenAgain someFresh, attached,
    toList_appendToken written someFresh]
  exact attach_attach placed found (fun parameter => isHandoff_of_mem) _

/-- The scheme, the empty path and the fragment are written in another way the first time,
and the scheme behind a tab is taken for a host. -/
theorem appendToken_appendToken_of_tab :
    appendToken (appendToken "HTTPS://me@[::1]:80?q=%zz&exp=1#" "t 1" (some 9)) "t2" none =
        "https://me@[::1]:80?q=%25zz&token=t2" ∧
      appendToken (appendToken "\thttp://app.acme.io/home" "t 1" (some 9)) "t2" (some 0) =
        "https://http://app.acme.io/home?token=t2" := by
  have bracketed : Url.parse? "HTTPS://me@[::1]:80?q=%zz&exp=1#".toList =
      some ⟨"https".toList, "me@[::1]:80".toList, [], "q=%zz&exp=1".toList, []⟩ := by
    decide +kernel
  have tabbed : Url.parse? "\thttp://app.acme.io/home".toList =
      some ⟨"http".toList, "app.acme.io".toList, "/home".toList, [], []⟩ := by
    decide +kernel
  constructor
  · rw [appendToken_appendToken bracketed (by decide) (by decide) (by decide) (by decide)]
    decide +kernel
  · rw [appendToken_appendToken tabbed (by decide) (by decide) (by decide) (by decide)]
    decide +kernel

end AuthRedirect.Handoff
