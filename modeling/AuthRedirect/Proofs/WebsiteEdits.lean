import AuthRedirect.OrganizationEdit
import AuthRedirect.Proofs.AuthServers
import AuthRedirect.Proofs.MetadataEdits

/-!
Websites that are set one after the other, under the default settings. A derived auth server
URL follows them: it is on the site that it was derived from, so it always makes room for the
next one. A URL on none of the sites stays through all of them. So the stored URL and the
website before are enough to tell a derived URL from one that was entered by hand.
-/

namespace AuthRedirect

open AuthRedirect.Text

namespace MetadataEdit

variable (settings : Settings) (organization : Organization)

/-- The auth server URL after an edit of the website alone. -/
theorem authServerUrl_setWebsite (website : Option String) :
    (({ website := .set website } : MetadataEdit).apply settings organization).authServerUrl =
      if website = organization.website then organization.authServerUrl
      else AuthServer.derive settings website organization.authServerUrl organization.website := by
  change (withWebsite settings { website := .set website } organization).authServerUrl = _
  unfold withWebsite newWebsite?
  dsimp only
  split
  · next kept =>
      split at kept
      · next same => rw [if_pos same]
      · cases kept
  · next other =>
      split at other
      · cases other
      · next changed =>
          cases other
          rw [if_neg changed]

end MetadataEdit

namespace OrganizationEdit

/-- The edit that sets a website. -/
def moveTo (site : PlainUrl) : OrganizationEdit :=
  .metadata { website := .set (some site.string) }

variable {organization : Organization} {site : PlainUrl} {home : Option PlainUrl} {url : String}

theorem website_moveTo (settings : Settings) (organization : Organization) (site : PlainUrl) :
    ((moveTo site).apply settings organization).website = some site.string :=
  MetadataEdit.website_apply settings { website := .set (some site.string) } organization

theorem authServerUrl_moveTo (organization : Organization) (site : PlainUrl) :
    ((moveTo site).apply {} organization).authServerUrl =
      if some site.string = organization.website then organization.authServerUrl
      else if AuthServer.mayReplace {} organization.authServerUrl organization.website
          site.authServer.string then some site.authServer.string
        else organization.authServerUrl := by
  rw [← site.derive_string]
  exact MetadataEdit.authServerUrl_setWebsite {} organization (some site.string)

/-! ## Derived URLs -/

/-- Whether the auth server URL is the one that was derived from the website, or neither is
there yet. -/
inductive FollowsWebsite (organization : Organization) : Prop where
  | unset (noWebsite : organization.website.all blank = true)
      (noUrl : organization.authServerUrl.all blank = true)
  | derived (site : PlainUrl) (website : organization.website = some site.string)
      (url : organization.authServerUrl = some site.authServer.string)

/-- A derived URL makes room for the next one. -/
theorem FollowsWebsite.authServerUrl_moveTo (follows : FollowsWebsite organization)
    (site : PlainUrl) :
    ((moveTo site).apply {} organization).authServerUrl = some site.authServer.string := by
  rw [OrganizationEdit.authServerUrl_moveTo]
  cases follows with
  | unset noWebsite noUrl =>
      have other : some site.string ≠ organization.website := by
        intro same
        rw [← same, Option.all_some, site.blank_string] at noWebsite
        cases noWebsite
      have replaced : AuthServer.mayReplace {} organization.authServerUrl organization.website
          site.authServer.string = true := by
        cases stored : organization.authServerUrl with
        | none => rfl
        | some url =>
            rw [stored, Option.all_some] at noUrl
            simp [AuthServer.mayReplace, noUrl]
      rw [if_neg other, if_pos replaced]
  | derived home website url =>
      rw [website, url]
      split
      · next same => rw [PlainUrl.authServer_congr (Option.some.inj same)]
      · have replaced : AuthServer.mayReplace {} (some home.authServer.string)
            (some home.string) site.authServer.string = true :=
          (site.mayReplace_iff _ (some home)).mpr (.inr (.inr ⟨home, rfl, home.hosts_authServer⟩))
        rw [if_pos replaced]

theorem FollowsWebsite.moveTo (follows : FollowsWebsite organization) (site : PlainUrl) :
    FollowsWebsite ((moveTo site).apply {} organization) :=
  .derived site (website_moveTo _ _ _) (follows.authServerUrl_moveTo site)

theorem FollowsWebsite.run (follows : FollowsWebsite organization) (sites : List PlainUrl) :
    FollowsWebsite (run {} organization (sites.map OrganizationEdit.moveTo)) := by
  induction sites generalizing organization with
  | nil => exact follows
  | cons site sites ih => exact ih (follows.moveTo site)

/-! ## URLs that were entered by hand -/

/-- A URL on neither of two sites stays when the website moves from one to the other. -/
theorem authServerUrl_moveTo_of_elsewhere
    (website : organization.website = home.map PlainUrl.string)
    (stored : organization.authServerUrl = some url) (notBlank : blank url = false)
    (away : ∀ place ∈ home, ¬ place.Hosts url) (elsewhere : ¬ site.Hosts url) :
    ((moveTo site).apply {} organization).authServerUrl = some url := by
  have stays : AuthServer.mayReplace {} (some url) (home.map PlainUrl.string)
      site.authServer.string = false := by
    rw [Bool.eq_false_iff]
    intro replaced
    rcases (site.mayReplace_iff url home).mp replaced with blank | same | ⟨place, among, hosts⟩
    · rw [notBlank] at blank
      cases blank
    · exact elsewhere (PlainUrl.hosts_of_lower_eq same)
    · exact away place among hosts
  rw [OrganizationEdit.authServerUrl_moveTo, website, stored, stays]
  simp

theorem authServerUrl_run_of_elsewhere (sites : List PlainUrl)
    (website : organization.website = home.map PlainUrl.string)
    (stored : organization.authServerUrl = some url) (notBlank : blank url = false)
    (away : ∀ place ∈ home, ¬ place.Hosts url) (elsewhere : ∀ site ∈ sites, ¬ site.Hosts url) :
    (run {} organization (sites.map moveTo)).authServerUrl = some url := by
  induction sites generalizing organization home with
  | nil => exact stored
  | cons site sites ih =>
      obtain ⟨first, rest⟩ := List.forall_mem_cons.mp elsewhere
      have moved : ((moveTo site).apply {} organization).website =
          (some site).map PlainUrl.string := website_moveTo {} organization site
      refine ih moved ?_ ?_ rest
      · exact authServerUrl_moveTo_of_elsewhere website stored notBlank away first
      · intro place among
        cases among
        exact first

/-! ## Both -/

/-- Websites are set one after the other. Where there was neither a website nor an auth server
URL, the URL is the one that is derived from the last website alone. Where there was a URL
that is on no site among them, with or without the label, and not on that of the website
before, it stays. -/
theorem authServerUrl_run (organization : Organization) (sites : List PlainUrl) :
    (organization.website.all blank = true → organization.authServerUrl.all blank = true →
      ∀ site, (run {} organization ((sites ++ [site]).map moveTo)).authServerUrl =
          AuthServer.derive {} (some site.string) none none ∧
        AuthServer.derive {} (some site.string) none none = some site.authServer.string) ∧
    ∀ (home : Option PlainUrl) (url : String),
      organization.website = home.map PlainUrl.string →
      organization.authServerUrl = some url → blank url = false →
      (∀ place ∈ home.toList ++ sites, ¬ place.Hosts url) →
      (run {} organization (sites.map moveTo)).authServerUrl = some url := by
  constructor
  · intro noWebsite noUrl site
    have derived : AuthServer.derive {} (some site.string) none none =
        some site.authServer.string := by
      have replaced : AuthServer.mayReplace {} none none site.authServer.string = true := rfl
      rw [site.derive_string, if_pos replaced]
    have last : run {} organization ((sites ++ [site]).map moveTo) =
        (moveTo site).apply {} (run {} organization (sites.map moveTo)) := by
      rw [run, List.map_append, List.foldl_append]
      rfl
    have follows := (FollowsWebsite.unset noWebsite noUrl).run sites
    rw [last, follows.authServerUrl_moveTo site, derived]
    exact ⟨rfl, rfl⟩
  · intro home url website stored notBlank elsewhere
    obtain ⟨away, among⟩ := List.forall_mem_append.mp elsewhere
    exact authServerUrl_run_of_elsewhere sites website stored notBlank
      (fun place inHome => away place (Option.mem_toList.mpr inHome)) among

/-- A derived URL follows its website to a host that has the label already, and a URL of
another host stays where it is. -/
theorem authServerUrl_run_acme :
    (run {} { id := "o1" }
        [.metadata { website := .set (some "acme.io") },
          .metadata { website := .set (some "HTTP://me@Auth.Acme.io:08080/#top") }]).authServerUrl =
      some "http://auth.acme.io:8080" ∧
    (run {} { id := "o1", website := some "acme.io", authServerUrl := some "https://sso.data.io" }
        [.metadata { website := .set (some "HTTP://me@Auth.Acme.io:08080/#top") }]).authServerUrl =
      some "https://sso.data.io" := by
  let acme : PlainUrl := { host := "acme.io".toList }
  let portal : PlainUrl :=
    { scheme := some "HTTP".toList, user := some "me".toList, host := "Auth.Acme.io".toList,
      port := some "08080".toList, tail := "/#top".toList }
  constructor
  · have derived := (authServerUrl_run { id := "o1" } [acme]).1 rfl rfl portal
    exact derived.1.trans derived.2
  · exact (authServerUrl_run _ [portal]).2 (some acme) "https://sso.data.io" rfl rfl (by decide)
      (by decide +kernel)

end OrganizationEdit

end AuthRedirect
