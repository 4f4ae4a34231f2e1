import AuthRedirect.Proofs.TokenParameters

/-!
Where a token goes. The URL is taken apart, the token is put into its query, and the
parts are put together again: what is read there has the authority that was taken out,
whatever the path, the other parameters and the fragment are. A URL that cannot be taken
apart gets the token at its end, behind its authority. But the URL is taken apart as it
stands, while its host is read without the blanks at its ends. So the token goes to the
host of the URL where no blanks stand there, and may go to another one where some do.
-/

namespace AuthRedirect

open AuthRedirect.Text

/-! ## Texts with a mark behind them -/

namespace Text

variable {mark : Char} {part s : List Char}

/-- A part without the mark starts a text with the mark behind it as it starts the text. -/
theorem prefix_append_cons_iff (absent : mark ∉ part) (t : List Char) :
    part <+: s ++ mark :: t ↔ part <+: s := by
  constructor
  · intro start
    rcases Nat.lt_or_ge s.length part.length with longer | shorter
    · have whole : s ++ [mark] <+: s ++ mark :: t := ⟨t, by simp⟩
      have bound : (s ++ [mark]).length ≤ part.length := by
        rw [List.length_append, List.length_singleton]
        exact longer
      have marked := List.prefix_of_prefix_length_le whole start bound
      exact absurd (marked.subset (by simp)) absent
    · exact List.prefix_of_prefix_length_le start (List.prefix_append _ _) shorter
  · intro start
    exact start.trans (List.prefix_append _ _)

theorem trim_append_cons (visible : isBlank mark = false) (s t : List Char) :
    trim (s ++ mark :: t) = s.dropWhile isBlank ++ mark :: dropTrailing isBlank t := by
  rw [trim, List.dropWhile_append]
  split
  · next all =>
      rw [List.isEmpty_iff.mp all, List.dropWhile_cons_of_neg (by simp [visible])]
      exact dropTrailing_append_cons visible [] t
  · exact dropTrailing_append_cons visible _ t

end Text

namespace Url

variable {url : Url} {scheme written rest raw s : List Char} {mark : Char}

theorem hasWebScheme_append_mark (plain : mark = '?' ∨ mark = '&') (s t : List Char) :
    hasWebScheme (s ++ mark :: t) = hasWebScheme s := by
  have absent : mark.toLower ∉ "http://".toList ∧ mark.toLower ∉ "https://".toList := by
    rcases plain with rfl | rfl
    · decide
    · decide
  rw [Bool.eq_iff_iff, hasWebScheme, hasWebScheme, List.map_append, List.map_cons]
  simp only [Bool.or_eq_true, List.isPrefixOf_iff_prefix, prefix_append_cons_iff absent.1,
    prefix_append_cons_iff absent.2]

theorem complete_append_mark (plain : mark = '?' ∨ mark = '&') (scheme s t : List Char) :
    complete scheme (s ++ mark :: t) = complete scheme s ++ mark :: t := by
  unfold complete
  rw [hasWebScheme_append_mark plain]
  split
  · rfl
  · simp only [List.append_assoc]

/-- A question mark stands behind the two slashes. -/
theorem question_mem_of_complete (web : isWebScheme (written.map Char.toLower) = true)
    (whole : complete scheme s = written ++ ':' :: '/' :: '/' :: rest) (among : '?' ∈ s) :
    '?' ∈ rest := by
  have completed : '?' ∈ complete scheme s := by
    unfold complete
    split
    · exact among
    · exact List.mem_append_right _ among
  rw [whole] at completed
  rcases List.mem_append.mp completed with inScheme | behind
  · exact absurd (letter_of_web web inScheme).1 (by decide)
  · simpa using behind

/-- The authority ends at the mark, or before it. -/
theorem shownAuthority_append_mark (kept : isKept mark = true)
    (ends : staysInAuthority mark = false ∨ ∃ c ∈ rest, staysInAuthority c = false)
    (t : List Char) : shownAuthority (rest ++ mark :: t) = shownAuthority rest := by
  unfold shownAuthority
  rw [List.filter_append, List.filter_cons_of_pos kept, List.takeWhile_append]
  split
  · next all =>
      have same := (List.takeWhile_prefix staysInAuthority).eq_of_length all
      rcases ends with mark | ⟨c, among, ends⟩
      · rw [List.takeWhile_cons_of_neg (by simp [mark]), List.append_nil, same]
      · have kept : c ∈ rest.filter isKept := List.mem_filter.mpr ⟨among, isKept_of_ends ends⟩
        rw [← same] at kept
        rw [List.mem_takeWhile_imp kept] at ends
        cases ends
  · rfl

/-! ## URLs put together -/

/-- The text of a URL with a query shows its authority, and blanks at the end of the text
stand behind the question mark. -/
theorem Placed.trim_text (placed : Placed url) (query : url.query ≠ []) :
    ∃ rest, Follows rest ∧
      trim url.text = url.scheme ++ ':' :: '/' :: '/' :: (url.authority ++ rest) := by
  have written := isWebScheme_map_toLower placed.web
  have asked : introduced '?' url.query = '?' :: url.query :=
    if_neg (by rw [List.isEmpty_iff]; exact query)
  have whole : url.authority ++ url.tail =
      (url.authority ++ url.path) ++ '?' :: (url.query ++ introduced '#' url.fragment) := by
    simp [tail, asked]
  refine ⟨url.path ++ '?' :: dropTrailing isBlank (url.query ++ introduced '#' url.fragment),
    placed.follows.append (follows_cons (by decide) _), ?_⟩
  rw [placed.text_eq, trim_of_web written, whole, dropTrailing_append_cons (by decide),
    List.append_assoc]

/-- A URL of the web that is put together with a query has the host that its authority
shows. -/
theorem Placed.hostIn?_text (placed : Placed url) (query : url.query ≠ []) :
    Origin.hostIn? url.text = host? url.authority := by
  obtain ⟨rest, follows, trimmed⟩ := placed.trim_text query
  have written := isWebScheme_map_toLower placed.web
  have shown : trim url.text ≠ [] := by
    rw [trimmed]
    simp
  have whole : complete "https".toList (trim url.text) =
      url.scheme ++ ':' :: '/' :: '/' :: (url.authority ++ rest) := by
    rw [trimmed, complete_of_web written]
  rw [hostIn?_eq_hostBehind? written shown whole, hostBehind?,
    shownAuthority_append placed.stands follows, if_pos placed.sound]

/-! ## Texts without an authority -/

theorem hostBehind?_nil (none : shownAuthority rest = []) : hostBehind? rest = .none := by
  rw [hostBehind?, none]
  rfl

/-- A text that starts with the end of an authority shows no host. -/
theorem hostIn?_of_ends {c : Char} (trimmed : trim raw = c :: s)
    (ends : staysInAuthority c = false) : Origin.hostIn? raw = none := by
  have bare : hasWebScheme (c :: s) = false := by
    rcases cases_of_ends ends with rfl | rfl | rfl <;> rfl
  have secure : isWebScheme ("https".toList.map Char.toLower) = true := by decide
  have shown : trim raw ≠ [] := by
    rw [trimmed]
    exact List.cons_ne_nil _ _
  have whole : complete "https".toList (trim raw) = "https".toList ++ ':' :: '/' :: '/' :: c :: s := by
    rw [trimmed, complete, bare]
    rfl
  have stands : Stands [] := fun _ among => absurd among List.not_mem_nil
  rw [hostIn?_eq_hostBehind? secure shown whole]
  exact hostBehind?_nil (shownAuthority_append stands (follows_cons ends s))

/-- Where a text shows no authority, nothing but blanks stands before what ends one. -/
theorem trim_of_shownAuthority_nil (none : shownAuthority s = []) :
    trim s = [] ∨ ∃ c rest, trim s = c :: rest ∧ staysInAuthority c = false := by
  induction s with
  | nil => exact .inl rfl
  | cons c s ih =>
      by_cases kept : isKept c = true
      · rw [shownAuthority, List.filter_cons_of_pos kept] at none
        have ends : staysInAuthority c = false := by
          by_contra stays
          rw [List.takeWhile_cons_of_pos (by simpa using stays)] at none
          cases none
        have visible : isBlank c = false := by
          rcases cases_of_ends ends with rfl | rfl | rfl <;> decide
        exact .inr ⟨c, dropTrailing isBlank s, trim_append_cons visible [] s, ends⟩
      · have blank : isBlank c = true := by
          have mark : c = '\t' ∨ c = '\n' ∨ c = '\r' := by
            simpa [isKept, or_assoc, Decidable.or_iff_not_imp_left] using kept
          rcases mark with rfl | rfl | rfl <;> decide
        have trimmed : trim (c :: s) = trim s := by
          rw [trim, List.dropWhile_cons_of_pos blank]
          rfl
        rw [shownAuthority, List.filter_cons_of_neg kept] at none
        rw [trimmed]
        exact ih none

/-- A URL with a host shows an authority as it stands. -/
theorem authority_ne_nil_of_shows (shows : (Origin.hostIn? raw).isSome = true)
    (parsed : parse? (complete "https".toList raw) = some url) : url.authority ≠ [] := by
  intro none
  obtain ⟨host, found⟩ := Option.isSome_iff_exists.mp shows
  have shown := (Origin.hostIn?_eq_some_iff.mp found).1
  by_cases given : hasWebScheme raw = true
  · obtain ⟨written, rest, rfl, web⟩ := hasWebScheme_iff.mp given
    have whole : complete "https".toList (trim (written ++ ':' :: '/' :: '/' :: rest)) =
        written ++ ':' :: '/' :: '/' :: dropTrailing isBlank rest := by
      rw [trim_of_web web, complete_of_web web]
    rw [complete_of_web web, parse?_of_web web] at parsed
    obtain ⟨-, authority, -⟩ := ofRest?_eq_some parsed
    have shorter : shownAuthority (dropTrailing isBlank rest) <+: shownAuthority rest :=
      takeWhile_prefix_takeWhile ((dropTrailing_isPrefix isBlank rest).filter isKept) _
    rw [← authority, none, List.prefix_nil] at shorter
    rw [hostIn?_eq_hostBehind? web shown whole, hostBehind?_nil shorter] at found
    cases found
  · have secure : isWebScheme ("https".toList.map Char.toLower) = true := by decide
    have whole : complete "https".toList raw = "https".toList ++ ':' :: '/' :: '/' :: raw := by
      rw [complete, if_neg given]
      rfl
    rw [whole, parse?_of_web secure] at parsed
    obtain ⟨-, authority, -⟩ := ofRest?_eq_some parsed
    rcases trim_of_shownAuthority_nil (authority.symm.trans none) with empty | ⟨c, rest, trimmed, ends⟩
    · exact shown empty
    · rw [hostIn?_of_ends trimmed ends] at found
      cases found

end Url

/-! ## The host of the URL with the token -/

namespace Handoff

variable {url : List Char} {parts : Url} {handed : List Url.Parameter}

theorem completed_of_shows (shows : (Origin.hostIn? url).isSome = true) :
    completed url = Url.complete "https".toList url := by
  refine if_neg fun slash => ?_
  obtain ⟨rest, rfl⟩ := List.head?_eq_some_iff.mp slash
  have trimmed : trim ('/' :: rest) = '/' :: dropTrailing isBlank rest :=
    trim_append_cons (by decide) [] rest
  rw [Url.hostIn?_of_ends trimmed (by decide)] at shows
  cases shows

theorem hostIn?_withParameters (shows : (Origin.hostIn? url).isSome = true)
    (parsed : Url.parse? (completed url) = some parts) (some : handed ≠ []) :
    Origin.hostIn? (withParameters handed parts).text = Url.host? parts.authority := by
  have query : (withParameters handed parts).query ≠ [] :=
    Url.queryText_ne_nil (List.append_ne_nil_of_right_ne_nil _ some)
  have secure : Url.isWebScheme "https".toList = true := by decide
  rw [completed_of_shows shows] at parsed
  have authority := Url.authority_ne_nil_of_shows shows parsed
  have placed := Url.placed_of_parse? secure parsed authority
  exact (placed_withParameters placed handed).hostIn?_text query

/-- The mark in front of a query that is put at the end of a URL ends its authority, or
the URL has a question mark that does. -/
theorem appended_cases (query url : List Char) :
    ∃ mark, appended query url = url ++ mark :: query ∧
      (mark = '?' ∨ mark = '&' ∧ '?' ∈ url.dropWhile isBlank) := by
  unfold appended
  split
  · next asked =>
      refine ⟨'&', rfl, .inr ⟨rfl, ?_⟩⟩
      have among : '?' ∈ url.takeWhile isBlank ++ url.dropWhile isBlank := by
        rw [List.takeWhile_append_dropWhile]
        exact List.contains_iff_mem.mp asked
      rcases List.mem_append.mp among with blank | behind
      · exact absurd (List.mem_takeWhile_imp blank) (by decide)
      · exact behind
  · exact ⟨'?', rfl, .inl rfl⟩

/-- A query that is put at the end of a URL leaves its host as it is, and so the blanks at
the end of the host. -/
theorem hostIn?_appended (query url : List Char) :
    Origin.hostIn? (appended query url) =
      (Url.parse? (Url.complete "https".toList (url.dropWhile isBlank))).bind
        fun parts => Url.host? parts.authority := by
  obtain ⟨mark, append, placed⟩ := appended_cases query url
  have plain : mark = '?' ∨ mark = '&' := by
    rcases placed with question | ⟨ampersand, -⟩
    · exact .inl question
    · exact .inr ampersand
  have visible : isBlank mark = false ∧ Url.isKept mark = true := by
    rcases plain with rfl | rfl <;> decide
  have trimmed := trim_append_cons visible.1 url query
  have secure : Url.isWebScheme "https".toList = true := by decide
  obtain ⟨written, rest, whole, web⟩ := Url.complete_cases secure (url.dropWhile isBlank)
  have shown : trim (appended query url) ≠ [] := by
    rw [append, trimmed]
    simp
  have ends : Url.staysInAuthority mark = false ∨
      ∃ c ∈ rest, Url.staysInAuthority c = false := by
    rcases placed with rfl | ⟨-, question⟩
    · exact .inl (by decide)
    · exact .inr ⟨'?', Url.question_mem_of_complete web whole question, by decide⟩
  have marked : Url.complete "https".toList (trim (appended query url)) =
      written ++ ':' :: '/' :: '/' :: (rest ++ mark :: dropTrailing isBlank query) := by
    rw [append, trimmed, Url.complete_append_mark plain, whole]
    simp
  rw [Url.hostIn?_eq_hostBehind? web shown marked, whole, Url.parse?_of_web web, Url.bind_ofRest?,
    Url.hostBehind?, Url.hostBehind?, Url.shownAuthority_append_mark visible.2 ends]

/-! ## Where a token goes -/

variable {settings : Settings} {roles : Option (List String)} {rules : List Rule} {login : Login}
  {token : String} {expiresAt : Option Int} {sent : Redirect}

/-- The host of a URL as the token is put into it. The URL is taken apart as it stands,
blanks at its ends among the rest; where that fails it is read without the blanks in
front of it. -/
def hostAsGiven? (url : String) : Option String :=
  ((Url.parse? (completed url.toList) <|>
    Url.parse? (Url.complete "https".toList (url.toList.dropWhile isBlank))).bind
      fun parts => Url.host? parts.authority).map String.ofList

theorem hostOf?_appendToken {url : String} (named : token ≠ "")
    (shows : (Origin.hostOf? url).isSome = true) :
    Origin.hostOf? (appendToken url token expiresAt) = hostAsGiven? url := by
  rw [Origin.hostOf?, Option.isSome_map] at shows
  have written : url ≠ "" := by
    rintro rfl
    cases shows
  have handed : tokenParameters token.toList expiresAt ≠ [] := List.cons_ne_nil _ _
  rw [Origin.hostOf?, toList_appendToken written named, attach, hostAsGiven?]
  cases parsed : Url.parse? (completed url.toList) with
  | none =>
      dsimp only
      rw [hostIn?_appended]
      rfl
  | some parts =>
      dsimp only
      rw [hostIn?_withParameters shows parsed handed]
      rfl

/-- Without blanks at the ends there is only one host. -/
theorem hostAsGiven?_of_trim {url : String} (shows : (Origin.hostOf? url).isSome = true)
    (noBlanks : trim url.toList = url.toList) : hostAsGiven? url = Origin.hostOf? url := by
  rw [Origin.hostOf?, Option.isSome_map] at shows
  obtain ⟨host, found⟩ := Option.isSome_iff_exists.mp shows
  obtain ⟨-, parts, parsed, shown⟩ := Origin.hostIn?_eq_some_iff.mp found
  rw [noBlanks, ← completed_of_shows shows] at parsed
  rw [Origin.hostOf?, found, hostAsGiven?, parsed, ← shown]
  rfl

/-- Where a login is sent to a URL with a host, the token goes to the host that the URL has
as the token is put into it. Without blanks at the ends of the URL that is its host. -/
theorem hostOf?_tokenUrl (sends : redirect settings roles rules login token expiresAt = sent)
    (named : token ≠ "") (shows : (Origin.hostOf? sent.resolution.url).isSome = true) :
    Origin.hostOf? sent.tokenUrl = hostAsGiven? sent.resolution.url ∧
      (trim sent.resolution.url.toList = sent.resolution.url.toList →
        Origin.hostOf? sent.tokenUrl = Origin.hostOf? sent.resolution.url) := by
  have attached : sent.tokenUrl = appendToken sent.resolution.url token expiresAt := by
    rw [← sends]
    rfl
  rw [attached, hostOf?_appendToken named shows]
  exact ⟨rfl, hostAsGiven?_of_trim shows⟩

/-- A rule that sends everyone who logs in to one URL. -/
def ruleTo (url : String) : Rule where
  environment := "production"
  authPageUrl := "https://auth.acme.io"
  targets := [⟨url, true⟩]

/-- With a tab before it, the scheme of a URL is taken for a host, and gets the token. -/
theorem hostOf?_tokenUrl_of_tab :
    (∃ sent, redirect {} none [ruleTo "app.acme.io/home?lang=de#top"]
        ⟨"https://auth.acme.io", anyRole, none⟩ "t" none = sent ∧
      Origin.hostOf? sent.tokenUrl = Origin.hostOf? sent.resolution.url) ∧
    ∃ sent, redirect {} none [ruleTo "\thttps://app.acme.io/home"]
        ⟨"https://auth.acme.io", anyRole, none⟩ "t" none = sent ∧
      Origin.hostOf? sent.resolution.url = some "app.acme.io" ∧
      Origin.hostOf? sent.tokenUrl = some "https" := by
  refine ⟨⟨_, rfl, ?_⟩, ⟨_, rfl, by decide +kernel, ?_⟩⟩
  · exact (hostOf?_tokenUrl rfl (by decide) (by decide +kernel)).2 (by decide +kernel)
  · exact (hostOf?_tokenUrl rfl (by decide) (by decide +kernel)).1.trans (by decide +kernel)

end Handoff

end AuthRedirect
