import AuthRedirect.Proofs.AuthServers
import AuthRedirect.Proofs.OriginComparison

/-!
Which auth server URL a website stands for. A website in plain characters stands for its
origin with the label before the host, and that URL stands for itself, so that the label is
never doubled: `derive_plain`. A website that is not read as an origin stands for none: it
is blank, no URL, without a host, or its port is broken. Then the text itself is used in
place of an origin, and whether it is fit for that is asked of its host and its scheme
alone. So it leaves the stored URL as it is, whatever the settings, except for a URL of the
web with a host and a broken port, which takes effect all the same: `derive_of_not_read`.
-/

namespace AuthRedirect

open AuthRedirect.Text

/-! ## Websites in plain characters -/

namespace PlainUrl

variable (site : PlainUrl)

/-- The host in lower case with the label of an auth server before it, once. -/
def serverHost : List Char :=
  if "auth.".toList.isPrefixOf site.hostName then site.hostName
  else "auth.".toList ++ site.hostName

theorem label_append_base : label ++ site.base = site.serverHost := by
  have written : label = "auth.".toList := by decide
  unfold base serverHost
  rw [← written]
  split
  · next start => exact AuthServer.label_append_withoutFront start
  · next free => rw [AuthServer.withoutFront, if_neg free]

theorem text_authServer : site.authServer.text =
    site.schemeName ++ "://".toList ++ site.serverHost ++ site.portSuffix := by
  have mark : "://".toList = [':', '/', '/'] := by decide
  have plain : Origin.IsPlain ⟨site.schemeName, label ++ site.base, site.shownPort⟩ :=
    ⟨site.isWebScheme_schemeName, site.labelled_ne_nil, site.isHostChar_of_mem_labelled⟩
  rw [authServer, text_onHost, plain.text_eq, portText_shownPort, label_append_base, mark]
  simp

theorem schemeName_authServer : site.authServer.schemeName = site.schemeName :=
  Url.map_toLower_of_isWebScheme site.isWebScheme_schemeName

/-- A port that is shown is not the usual one, so it is shown again. -/
theorem shownPort_authServer : site.authServer.shownPort = site.shownPort := by
  have port : site.authServer.port = site.shownPort.map decimalDigits := rfl
  rw [shownPort, portGiven, port, schemeName_authServer]
  cases shown : site.shownPort with
  | none => rfl
  | some number =>
      have unusual := Origin.unusual_shownPort shown
      rw [Option.map_some, Option.map_some, Option.getD_some, decimalValue_decimalDigits,
        Origin.shownPort, if_neg unusual]

/-- A derived URL is an origin as it stands. -/
theorem text_origin_authServer : site.authServer.origin.text = site.authServer.text := by
  rw [origin, schemeName_authServer, hostName_authServer, shownPort_authServer]
  exact (site.text_onHost site.labelled_ne_nil site.isHostChar_of_mem_labelled).symm

/-- The label is put before a host once. -/
theorem authServer_authServer : site.authServer.authServer.string = site.authServer.string := by
  have start : label.isPrefixOf site.authServer.hostName = true := by
    rw [hostName_authServer, List.isPrefixOf_iff_prefix]
    exact List.prefix_append _ _
  have text : site.authServer.authServer.text = site.authServer.text := by
    rw [← withLabel_text_origin, AuthServer.withLabel, if_pos start, text_origin_authServer]
  rw [string, string, text]

/-- Under the default settings, where no URL is stored, the auth server URL of a website in
plain characters has its scheme, its host with the label once, and its port unless that is
the usual one. Derived again, from itself and with itself stored or not, it stays as it is. -/
theorem derive_plain (previousWebsite : Option String) :
    ∃ derived, AuthServer.derive {} (some site.string) none previousWebsite = some derived ∧
      derived.toList = site.schemeName ++ "://".toList ++ site.serverHost ++ site.portSuffix ∧
      AuthServer.derive {} (some derived) none previousWebsite = some derived ∧
      AuthServer.derive {} (some derived) (some derived) previousWebsite = some derived := by
  have replaces (current : Option String)
      (room : current = none ∨ current = some site.authServer.string) :
      AuthServer.mayReplace {} current previousWebsite site.authServer.string = true := by
    rcases room with rfl | rfl
    · rfl
    · simp [AuthServer.mayReplace]
  refine ⟨site.authServer.string, ?_, ?_, ?_, ?_⟩
  · rw [derive_string, if_pos (replaces none (.inl rfl))]
  · rw [toList_string, text_authServer]
  · rw [derive_string, authServer_authServer, if_pos (replaces none (.inl rfl))]
  · rw [derive_string, authServer_authServer, if_pos (replaces _ (.inr rfl))]

example : AuthServer.derive {} (some "HTTP://me@Acme.io:00080//acme.io") none none =
    some "http://auth.acme.io" := by
  decide +kernel

end PlainUrl

/-! ## Websites that are not read -/

namespace Origin

variable {scheme raw : String}

/-- The scheme for texts without one has no say in a text with a scheme of the web. -/
theorem read_of_hasWebScheme (web : hasWebScheme raw = true) (scheme other : List Char) :
    read scheme raw.toList = read other raw.toList := by
  obtain ⟨written, rest, whole, given⟩ := Url.hasWebScheme_iff.mp web
  rw [whole, read, read, Url.trim_of_web given, Url.complete_of_web given,
    Url.complete_of_web given]

/-- What is not read is usable only where its port is broken, and then as it is given. -/
theorem usable?_of_not_read
    (missing : ∀ value, read scheme.toList raw.toList ≠ .origin value) :
    (HasBrokenPort raw → usable? scheme raw = some raw) ∧
      (¬ HasBrokenPort raw → usable? scheme raw = none) := by
  have stays := normalize_of_not_read missing
  constructor
  · intro broken
    exact usable?_eq_some_iff.mpr ⟨stays, broken.isSome_hostOf?, broken.1⟩
  · intro sound
    cases found : usable? scheme raw with
    | none => rfl
    | some origin =>
        obtain ⟨same, hasHost, web⟩ := usable?_eq_some_iff.mp found
        rw [stays] at same
        subst same
        refine absurd (hasBrokenPort_of_not_read web hasHost fun value => ?_) sound
        rw [read_of_hasWebScheme web _ scheme.toList]
        exact missing value

end Origin

namespace AuthServer

variable {settings : Settings} {website : String}

theorem ofWebsite?_eq_none (unusable : Origin.usable? settings.defaultScheme website = none) :
    ofWebsite? settings website = none := by
  rw [ofWebsite?, unusable]
  rfl

/-- The auth server URL of a website that is used as it is given. -/
theorem ofWebsite?_of_usable {host : String}
    (usable : Origin.usable? settings.defaultScheme website = some website)
    (hasHost : Origin.hostOf? website = some host) :
    ofWebsite? settings website =
      some (String.ofList (withLabel (hostLabel settings) host.toList website.toList)) := by
  rw [ofWebsite?, usable]
  simp only [Option.bind_eq_bind, Option.bind_some, hasHost]
  rfl

/-- A website with a broken port has its text with the label before the host for an auth
server URL, and that replaces what a derived URL may replace. -/
theorem exists_derive_of_brokenPort
    (missing : ∀ value,
      Origin.read settings.defaultScheme.toList website.toList ≠ .origin value)
    (broken : Origin.HasBrokenPort website) :
    ∃ host derived, Origin.hostOf? website = some host ∧
      derived = String.ofList (withLabel (hostLabel settings) host.toList website.toList) ∧
      ∀ current previousWebsite,
        derive settings (some website) current previousWebsite =
          if mayReplace settings current previousWebsite derived then some derived
          else current := by
  obtain ⟨host, hasHost⟩ := Option.isSome_iff_exists.mp broken.isSome_hostOf?
  have usable := (Origin.usable?_of_not_read missing).1 broken
  refine ⟨host, _, hasHost, rfl, fun current previousWebsite => ?_⟩
  rw [derive, Option.bind_some, ofWebsite?_of_usable usable hasHost]

/-- A website that is not read as an origin leaves the auth server URL as it is, except
where it is a URL of the web with a host and a broken port. Then its text with the label
before the host takes effect. -/
theorem derive_of_not_read (settings : Settings) (website : String)
    (missing : ∀ value,
      Origin.read settings.defaultScheme.toList website.toList ≠ .origin value) :
    ((∀ current previousWebsite,
        derive settings (some website) current previousWebsite = current) ↔
      ¬ Origin.HasBrokenPort website) ∧
    (Origin.HasBrokenPort website → ∃ host derived, Origin.hostOf? website = some host ∧
      derived = String.ofList (withLabel (hostLabel settings) host.toList website.toList) ∧
      ∀ current previousWebsite,
        derive settings (some website) current previousWebsite =
          if mayReplace settings current previousWebsite derived then some derived
          else current) := by
  refine ⟨⟨?_, ?_⟩, exists_derive_of_brokenPort missing⟩
  · intro stays broken
    -- Where no URL is stored the derived one is.
    obtain ⟨host, derived, -, -, takes⟩ := exists_derive_of_brokenPort missing broken
    have replaced : derive settings (some website) none none = some derived := takes none none
    rw [stays none none] at replaced
    cases replaced
  · intro sound current previousWebsite
    have unusable := (Origin.usable?_of_not_read missing).2 sound
    rw [derive, Option.bind_some, ofWebsite?_eq_none unusable]

/-- A port that is too large takes effect, brackets that are not closed do not. -/
theorem derive_of_not_read_of_broken_port :
    derive {} (some "https://acme.io:99999") none none = some "https://auth.acme.io:99999" ∧
      derive {} (some "https://[::1") (some "https://sso.acme.io") none =
        some "https://sso.acme.io" := by
  have broken : Origin.HasBrokenPort "https://acme.io:99999" :=
    ⟨by decide, ⟨"https".toList, "acme.io:99999".toList, [], [], []⟩, by decide +kernel,
      by decide +kernel, by decide +kernel⟩
  have unread : Origin.read "https".toList "https://[::1".toList = .unparseable := by
    decide +kernel
  have unparsed : ¬ Origin.HasBrokenPort "https://[::1" := by
    intro broken
    exact absurd broken.isSome_hostOf? (by decide +kernel)
  constructor
  · obtain ⟨host, derived, hasHost, text, takes⟩ :=
      (derive_of_not_read {} "https://acme.io:99999" broken.not_read).2 broken
    have acme : Origin.hostOf? "https://acme.io:99999" = some "acme.io" := by decide +kernel
    cases acme.symm.trans hasHost
    have shown : derived = "https://auth.acme.io:99999" := by
      rw [text]
      decide +kernel
    rw [takes, shown]
    rfl
  · have missing : ∀ value, Origin.read ({} : Settings).defaultScheme.toList
        "https://[::1".toList ≠ .origin value := by
      intro value origin
      cases unread.symm.trans origin
    exact (derive_of_not_read {} "https://[::1" missing).1.mpr unparsed _ _

end AuthServer

end AuthRedirect
