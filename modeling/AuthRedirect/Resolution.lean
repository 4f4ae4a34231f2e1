import AuthRedirect.Origin
import AuthRedirect.Rule
import AuthRedirect.Settings

/-!
Where a user goes after logging in. The rules are searched tier by tier: those
for the role of the login before those for every role, and within both the
default targets before the first ones. In a tier the first rule in order wins.
Where no tier has a usable target the user goes to the fallback of the origin.
-/

namespace AuthRedirect

open AuthRedirect.Text

/-- Where a user logged in, and as whom. -/
structure Login where
  authOrigin : String
  roleSlug : String := anyRole
  environment : Option String := none
deriving DecidableEq, Repr

/-- The tiers of rules. -/
inductive Tier where
  | specificRoleDefault
  | specificRoleFirst
  | anyRoleDefault
  | anyRoleFirst
deriving DecidableEq, Repr

/-- The tiers, the one that goes first in front. -/
def Tier.all : List Tier :=
  [.specificRoleDefault, .specificRoleFirst, .anyRoleDefault, .anyRoleFirst]

/-- The outcome of a search: a URL, and the tier and the place of the rule that
gave it. The fallback comes from no rule. -/
structure Resolution where
  url : String
  hit : Option (Tier × Nat)
deriving DecidableEq, Repr

namespace Resolution

/-- The word for a tier. -/
def tierName : Tier → String
  | .specificRoleDefault => "specific-role-default"
  | .specificRoleFirst => "specific-role-first"
  | .anyRoleDefault => "any-role-default"
  | .anyRoleFirst => "any-role-first"

/-- The word for how a URL was found. -/
def matchType (resolution : Resolution) : String :=
  match resolution.hit with
  | some (tier, _) => tierName tier
  | none => "fallback"

/-- The place of the rule that gave the URL. -/
def ruleIndex? (resolution : Resolution) : Option Nat :=
  resolution.hit.map (·.2)

/-- Whether no rule gave the URL. -/
def isFallback (resolution : Resolution) : Bool :=
  resolution.hit.isNone

end Resolution

/-! ## Eligible rules -/

/-- Whether the auth page of a rule is where the login happened. -/
def Rule.matchesOrigin (settings : Settings) (login : Login) (rule : Rule) : Bool :=
  if settings.strictOriginMatching then Origin.same rule.authPageUrl login.authOrigin
  else Origin.overlap rule.authPageUrl login.authOrigin

/-- Whether a rule is for the environment of the login. This matters only where
the settings ask for it and the login names an environment. -/
def Rule.matchesEnvironment (settings : Settings) (login : Login) (rule : Rule) : Bool :=
  let wanted := login.environment.getD ""
  !settings.matchEnvironment || wanted.isEmpty || lower rule.environment == lower wanted

/-- Whether the role of a rule is known. Without a list of roles all are. -/
def Rule.hasKnownRole (roles : Option (List String)) (rule : Rule) : Bool :=
  rule.appliesToAnyRole || roles.all fun known => known.contains rule.roleSlug

/-- Whether a rule may give the URL for a login. -/
def Rule.isEligible (settings : Settings) (roles : Option (List String)) (login : Login)
    (rule : Rule) : Bool :=
  rule.matchesOrigin settings login && rule.matchesEnvironment settings login &&
    rule.hasKnownRole roles

/-! ## The search -/

namespace Tier

/-- Whether a tier is about rules of the given role. -/
def holds (tier : Tier) (login : Login) (rule : Rule) : Bool :=
  match tier with
  | .specificRoleDefault | .specificRoleFirst =>
      login.roleSlug != anyRole && rule.roleSlug == login.roleSlug
  | .anyRoleDefault | .anyRoleFirst => rule.appliesToAnyRole

/-- The target that a tier takes from a rule. -/
def target? (tier : Tier) (rule : Rule) : Option Target :=
  match tier with
  | .specificRoleDefault | .anyRoleDefault => rule.defaultTarget?
  | .specificRoleFirst | .anyRoleFirst => rule.firstTarget?

/-- The URL that a tier takes from a rule, unless it is blank. -/
def url? (tier : Tier) (rule : Rule) : Option String :=
  (tier.target? rule).bind fun target => if blank target.url then none else some target.url

/-- The first rule of a tier that gives a URL, with the URL and its place. -/
def search (tier : Tier) (eligible : Rule → Bool) (login : Login) (rules : List Rule) :
    Option Resolution :=
  rules.zipIdx.findSome? fun (rule, index) =>
    if eligible rule && tier.holds login rule then
      (tier.url? rule).map fun url => ⟨url, some (tier, index)⟩
    else none

end Tier

/-- The URL where no rule gives one. -/
def Resolution.fallback (settings : Settings) (login : Login) : Resolution :=
  ⟨settings.fallbackFor (String.ofList (trim login.authOrigin.toList)), none⟩

/-- Where a login is sent. -/
def resolve (settings : Settings) (roles : Option (List String)) (rules : List Rule)
    (login : Login) : Resolution :=
  let eligible := Rule.isEligible settings roles login
  (Tier.all.findSome? fun tier => tier.search eligible login rules).getD
    (Resolution.fallback settings login)

/-! ## What is reported -/

/-- The notice of a resolution. -/
def Resolution.notice (login : Login) (resolution : Resolution) : Log.Notice :=
  .redirectResolved login.authOrigin (some login.roleSlug) resolution.matchType
    resolution.ruleIndex? resolution.url

/-- What is reported about a resolution: the origins that were compared, and the
outcome. -/
def Resolution.notices (settings : Settings) (roles : Option (List String)) (rules : List Rule)
    (login : Login) : List Log.Notice :=
  rules.flatMap (fun rule => Origin.comparisonNotices rule.authPageUrl login.authOrigin) ++
    [(resolve settings roles rules login).notice login]

end AuthRedirect
