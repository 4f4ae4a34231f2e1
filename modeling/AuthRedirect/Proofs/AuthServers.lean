import AuthRedirect.AuthServer
import AuthRedirect.Proofs.CaseVariants

/-!
The auth server URL of a website in plain characters. It is the origin of the website with
the label before its host, once: the host of a website that has the label already stays as
it is. So the URL is on the site that it was derived from, and it makes room for the URL of
the next website. A URL on another host makes room for none.
-/

namespace AuthRedirect

open AuthRedirect.Text

/-! ## Replacing the first occurrence -/

namespace Text

variable {mark : Char} {front : List Char}

/-- A text that starts with a mark does not occur in front of the first such mark. -/
theorem replaceFirst_append (absent : mark ∉ front) (old new rest : List Char) :
    replaceFirst (mark :: old) new (front ++ (mark :: old ++ rest)) = front ++ (new ++ rest) := by
  induction front with
  | nil =>
      have start : (mark :: old).isPrefixOf (mark :: (old ++ rest)) = true :=
        List.isPrefixOf_iff_prefix.mpr (List.prefix_append (mark :: old) rest)
      rw [List.nil_append, List.cons_append, replaceFirst, if_pos start]
      simp
  | cons c front ih =>
      obtain ⟨other, absent⟩ := not_or.mp (List.mem_cons.not.mp absent)
      have noStart : ¬ (mark :: old).isPrefixOf (c :: (front ++ (mark :: old ++ rest))) = true := by
        simp [List.isPrefixOf, other]
      rw [List.cons_append, replaceFirst, if_neg noStart, ih absent]
      rfl

end Text

/-! ## The label of an auth server -/

namespace AuthServer

variable {label host : List Char}

theorem label_append_withoutFront (start : label.isPrefixOf host = true) :
    label ++ withoutFront label host = host := by
  rw [withoutFront, if_pos start]
  exact (List.prefix_iff_eq_append.mp (List.isPrefixOf_iff_prefix.mp start))

theorem withoutFront_subset (label host : List Char) : withoutFront label host ⊆ host := by
  unfold withoutFront
  split
  · exact List.drop_subset _ _
  · exact List.Subset.refl _

/-- An origin with the label before its host, once. -/
theorem withLabel_text {scheme : List Char} (noSlash : '/' ∉ scheme) (noColon : ':' ∉ label ++ host)
    (port : Option Nat) :
    withLabel label host (Origin.text ⟨scheme, host, port⟩) =
      Origin.text ⟨scheme, label ++ withoutFront label host, port⟩ := by
  unfold withLabel
  split
  · next start => rw [label_append_withoutFront start]
  · next free =>
      have hostAlone : ':' ∉ host := fun among => noColon (List.mem_append_right _ among)
      have inFront : '/' ∉ scheme ++ [':'] := by simpa using noSlash
      have whole (host : List Char) (rest : List Char) :
          scheme ++ ':' :: '/' :: '/' :: (host ++ rest) =
            (scheme ++ [':']) ++ (('/' :: '/' :: host) ++ rest) := by
        simp
      rw [withoutFront, if_neg free, Origin.text_eq, Origin.text_eq,
        Origin.shownHost_of_not_mem hostAlone, Origin.shownHost_of_not_mem noColon, whole, whole,
        replaceFirst_append inFront]
      rfl

end AuthServer

/-! ## The auth server of a plain website -/

namespace PlainUrl

/-- The label of an auth server host under the default settings. -/
def label : List Char :=
  AuthServer.hostLabel {}

/-- The host of a website without the label. -/
def base (url : PlainUrl) : List Char :=
  AuthServer.withoutFront label url.hostName

theorem isHostChar_of_mem_labelled (url : PlainUrl) :
    ∀ c ∈ label ++ url.base, isHostChar c = true := by
  intro c among
  rcases List.mem_append.mp among with inLabel | inBase
  · have plain : label.all isHostChar = true := by decide
    exact List.all_eq_true.mp plain c inLabel
  · exact url.isHostChar_of_mem_hostName c (AuthServer.withoutFront_subset _ _ inBase)

theorem labelled_ne_nil (url : PlainUrl) : label ++ url.base ≠ [] :=
  List.append_ne_nil_of_left_ne_nil (by decide) _

/-- The auth server URL of a website: its origin with the label before the host. -/
def authServer (url : PlainUrl) : PlainUrl :=
  url.onHost (label ++ url.base) url.labelled_ne_nil url.isHostChar_of_mem_labelled

theorem hostName_authServer (url : PlainUrl) : url.authServer.hostName = label ++ url.base := by
  have lower : label.map Char.toLower = label := by decide
  have rest : url.base.map Char.toLower = url.base :=
    map_toLower_of_subset (AuthServer.withoutFront_subset _ _)
  change (label ++ url.base).map Char.toLower = _
  rw [List.map_append, lower, rest]

theorem slash_not_mem_schemeName (url : PlainUrl) : '/' ∉ url.schemeName := by
  rcases Url.isWebScheme_iff.mp url.isWebScheme_schemeName with name | name
  all_goals
    rw [name]
    decide

theorem withLabel_text_origin (url : PlainUrl) :
    AuthServer.withLabel label url.hostName url.origin.text = url.authServer.text := by
  have noColon : ':' ∉ label ++ url.hostName := by
    intro among
    rcases List.mem_append.mp among with inLabel | inHost
    · exact absurd inLabel (by decide)
    · exact absurd (url.isHostChar_of_mem_hostName ':' inHost) (by decide)
  rw [origin, AuthServer.withLabel_text url.slash_not_mem_schemeName noColon]
  exact (url.text_onHost url.labelled_ne_nil url.isHostChar_of_mem_labelled).symm

/-! ### Deriving -/

theorem hasWebScheme_shown (url : PlainUrl) : Origin.hasWebScheme url.shown.string = true := by
  rw [Origin.hasWebScheme, toList_string, text_shown, Origin.text_eq]
  exact Url.hasWebScheme_iff.mpr
    ⟨url.schemeName, _, rfl, Url.isWebScheme_map_toLower url.isWebScheme_schemeName⟩

theorem usable?_string (url : PlainUrl) :
    Origin.usable? "https" url.string = some url.shown.string := by
  refine Origin.usable?_eq_some_iff.mpr ⟨?_, ?_, url.hasWebScheme_shown⟩
  · rw [normalize_string, ← text_shown]
    rfl
  · rw [hostOf?_string]
    rfl

/-- Under the default settings, the auth server URL that is derived from a website. -/
theorem ofWebsite?_string (url : PlainUrl) :
    AuthServer.ofWebsite? {} url.string = some url.authServer.string := by
  have usable : Origin.usable? ({} : Settings).defaultScheme url.string = some url.shown.string :=
    url.usable?_string
  have labelled := url.withLabel_text_origin
  rw [AuthServer.ofWebsite?, usable]
  simp only [Option.bind_eq_bind, Option.bind_some, hostOf?_string, hostName_shown,
    String.toList_ofList, toList_string, text_shown]
  exact congrArg some (congrArg String.ofList labelled)

/-- Websites with one text have one auth server URL. -/
theorem authServer_congr {site other : PlainUrl} (same : site.string = other.string) :
    site.authServer.string = other.authServer.string := by
  have derived := site.ofWebsite?_string
  rw [same, other.ofWebsite?_string] at derived
  exact (Option.some.inj derived).symm

theorem derive_string (url : PlainUrl) (current previousWebsite : Option String) :
    AuthServer.derive {} (some url.string) current previousWebsite =
      if AuthServer.mayReplace {} current previousWebsite url.authServer.string then
        some url.authServer.string
      else current := by
  rw [AuthServer.derive, Option.bind_some, ofWebsite?_string]

/-! ### On the site of a website -/

/-- Whether a text is on the host of a website, with or without the label. -/
def Hosts (site : PlainUrl) (text : String) : Prop :=
  Origin.hostOf? text = some (String.ofList site.base) ∨
    Origin.hostOf? text = some (String.ofList (label ++ site.base))

instance (site : PlainUrl) (text : String) : Decidable (site.Hosts text) :=
  inferInstanceAs (Decidable (_ ∨ _))

theorem isOnSiteOf_string_iff (site : PlainUrl) (text : String) :
    AuthServer.isOnSiteOf {} site.string text = true ↔ site.Hosts text := by
  have same (host : List Char) : (Origin.hostOf? text).map String.toList = some host ↔
      Origin.hostOf? text = some (String.ofList host) := by
    rw [Origin.hostOf?]
    cases Origin.hostIn? text.toList with
    | none => simp
    | some found => simp [String.ofList_inj]
  unfold AuthServer.isOnSiteOf Hosts
  rw [hostOf?_string]
  dsimp only
  rw [Bool.or_eq_true, beq_iff_eq, beq_iff_eq, String.toList_ofList]
  exact or_congr (same _) (same _)

/-- A derived URL is on the site that it was derived from. -/
theorem hosts_authServer (site : PlainUrl) : site.Hosts site.authServer.string := by
  right
  rw [hostOf?_string, hostName_authServer]

/-- So is a text that is the derived URL but for letter case. -/
theorem hosts_of_lower_eq {site : PlainUrl} {text : String}
    (same : lower text = lower site.authServer.string) : site.Hosts text := by
  have plain : Origin.IsPlain ⟨site.schemeName, label ++ site.base, site.shownPort⟩ :=
    ⟨site.isWebScheme_schemeName, site.labelled_ne_nil, site.isHostChar_of_mem_labelled⟩
  have written : site.authServer.text =
      Origin.text ⟨site.schemeName, label ++ site.base, site.shownPort⟩ := site.text_onHost _ _
  have settled : (label ++ site.base).map Char.toLower = label ++ site.base :=
    site.hostName_authServer
  have letters := congrArg String.toList same
  rw [toList_lower, toList_lower, toList_string, written] at letters
  right
  rw [Origin.hostOf?, plain.hostIn?_of_lowercase_eq letters, settled]
  rfl

/-! ### What a derived URL replaces -/

/-- The stored URL makes room where it is blank, and where it is on the site of the website
before or, but for letter case, the derived URL already. -/
theorem mayReplace_iff (site : PlainUrl) (current : String) (home : Option PlainUrl) :
    AuthServer.mayReplace {} (some current) (home.map string) site.authServer.string = true ↔
      blank current = true ∨ lower current = lower site.authServer.string ∨
        ∃ place ∈ home, place.Hosts current := by
  unfold AuthServer.mayReplace
  dsimp only
  rw [Bool.or_eq_true, Bool.or_eq_true, beq_iff_eq, or_assoc]
  refine or_congr_right (or_congr_right ?_)
  cases home with
  | none => simp
  | some place =>
      rw [Option.map_some, Option.any_some, isOnSiteOf_string_iff]
      simp

end PlainUrl

end AuthRedirect
