import AuthRedirect.Log.Event
import AuthRedirect.Text.Quoted

/-!
What the library reports while it works. A notice says what happened; its level,
the channel that it goes to and its message follow from that.
-/

namespace AuthRedirect.Log

open AuthRedirect.Text

/-- Levels, the least important first. -/
inductive Level where
  | debug
  | info
  | warning
  | error
deriving DecidableEq, Repr

/-- The importance of a level. -/
def Level.rank : Level → Nat
  | .debug => 0
  | .info => 1
  | .warning => 2
  | .error => 3

/-- The word for a level in records. -/
def Level.name : Level → String
  | .debug => "DEBUG"
  | .info => "INFO"
  | .warning => "WARNING"
  | .error => "ERROR"

/-- Something worth reporting. -/
inductive Notice where
  /-- An origin could not be read as a URL and is used as it stands. -/
  | unparseableOrigin (raw : String)
  /-- An origin names no host and is used as it stands. -/
  | hostlessOrigin (raw : String)
  /-- No rules were added, because the auth server URL has no usable origin. -/
  | provisionSkipped (authServerUrl : String)
  /-- A rule was added. -/
  | ruleProvisioned (environment authPageUrl : String)
  /-- A login was sent to a URL, by a rule or as the fallback. A role that was
  given without a text is reported as an empty list. -/
  | redirectResolved (authOrigin : String) (role : Option String) (matchType : String)
      (ruleIndex : Option Nat) (url : String)
  /-- A rule set was stored. -/
  | rulesSaved (organization : String) (rules warnings : Nat)
  /-- The command line derived an auth server URL from a website. -/
  | authServerDerived (url : String)
deriving DecidableEq, Repr

namespace Notice

/-- The level of a notice. -/
def level : Notice → Level
  | .unparseableOrigin _ => .debug
  | .hostlessOrigin _ => .debug
  | .provisionSkipped _ => .debug
  | .ruleProvisioned .. => .info
  | .redirectResolved .. => .info
  | .rulesSaved .. => .info
  | .authServerDerived _ => .info

/-- The channel of a notice. -/
def channel : Notice → String
  | .unparseableOrigin _ => "waypoint.normalization"
  | .hostlessOrigin _ => "waypoint.normalization"
  | .provisionSkipped _ => "waypoint.provisioning"
  | .ruleProvisioned .. => "waypoint.provisioning"
  | .redirectResolved .. => "waypoint.resolution"
  | .rulesSaved .. => "waypoint.repository"
  | .authServerDerived _ => "waypoint.cli"

/-- The text of a notice. A count of zero warnings is left out. -/
def message : Notice → String
  | .unparseableOrigin raw => "Leaving unparseable origin " ++ quoted raw ++ " untouched"
  | .hostlessOrigin raw => "Leaving origin without a host " ++ quoted raw ++ " untouched"
  | .provisionSkipped authServerUrl =>
      Event.message ⟨"redirection.provision_skipped",
        [("auth_server_url", some (.text authServerUrl))]⟩
  | .ruleProvisioned environment authPageUrl =>
      Event.message ⟨"redirection.rule_provisioned",
        [("environment", some (.text environment)), ("auth_page_url", some (.text authPageUrl))]⟩
  | .redirectResolved authOrigin role matchType ruleIndex url =>
      Event.message ⟨"redirection.resolved",
        [("auth_origin", some (.text authOrigin)),
          ("role", some (role.elim .emptyList .text)),
          ("match_type", some (.text matchType)),
          ("rule_index", ruleIndex.map fun index => .number index), ("url", some (.text url))]⟩
  | .rulesSaved organization rules warnings =>
      Event.message ⟨"redirection.rules_saved",
        [("org_id", some (.text organization)), ("rules", some (.number rules)),
          ("warnings", if warnings = 0 then none else some (.number warnings))]⟩
  | .authServerDerived url => "Derived auth server URL " ++ url

/-- A notice of a login whose role was given without a text. -/
def withoutRole : Notice → Notice
  | .redirectResolved authOrigin _ matchType ruleIndex url =>
      .redirectResolved authOrigin none matchType ruleIndex url
  | notice => notice

end Notice

/-- The notices of at least the given level. -/
def atLeast (level : Level) (notices : List Notice) : List Notice :=
  notices.filter fun notice => level.rank ≤ notice.level.rank

end AuthRedirect.Log
