import AuthRedirect.Rule

/-!
Where rule sets are kept: one for each organization that has been stored, and a
count of the writes. A repository is such a store, or one that is out of reach
and answers every request with its failure.
-/

namespace AuthRedirect

/-- The rule sets of organizations, and how often one was written. -/
structure Store where
  sets : List (String × List Rule)
  writes : Nat := 0
deriving DecidableEq, Repr

namespace Store

/-- The rule set of an organization. -/
def get? (store : Store) (organization : String) : Option (List Rule) :=
  store.sets.lookup organization

/-- Whether a rule set is kept for an organization. -/
def contains (store : Store) (organization : String) : Bool :=
  (store.get? organization).isSome

/-- The rule sets with one replaced, or added at the end. -/
def putSet (organization : String) (rules : List Rule) :
    List (String × List Rule) → List (String × List Rule)
  | [] => [(organization, rules)]
  | (other, old) :: rest =>
      if other = organization then (organization, rules) :: rest
      else (other, old) :: putSet organization rules rest

/-- The store after a rule set has been written. -/
def put (store : Store) (organization : String) (rules : List Rule) : Store where
  sets := putSet organization rules store.sets
  writes := store.writes + 1

theorem lookup_putSet (organization other : String) (rules : List Rule)
    (sets : List (String × List Rule)) :
    (putSet organization rules sets).lookup other =
      if other = organization then some rules else sets.lookup other := by
  induction sets with
  | nil => grind [putSet]
  | cons entry rest ih => grind [putSet]

/-- A written rule set is read back, and those of other organizations stay. -/
theorem get?_put (store : Store) (organization other : String) (rules : List Rule) :
    (store.put organization rules).get? other =
      if other = organization then some rules else store.get? other :=
  lookup_putSet organization other rules store.sets

end Store

/-- What rule sets are asked of. -/
inductive Repository where
  | ready (store : Store)
  | unreachable (failure : String)
deriving DecidableEq, Repr

/-- Why a repository does not answer. -/
inductive RepositoryError where
  | notFound (organization : String)
  | unreachable (failure : String)
deriving DecidableEq, Repr

/-- The message of a failure. -/
def RepositoryError.message : RepositoryError → String
  | .notFound organization =>
      "No redirection rules stored for organization '" ++ organization ++ "'"
  | .unreachable failure => failure

namespace Repository

/-- The rule set of an organization. -/
def get (repository : Repository) (organization : String) : Except RepositoryError (List Rule) :=
  match repository with
  | .unreachable failure => .error (.unreachable failure)
  | .ready store =>
      match store.get? organization with
      | some rules => .ok rules
      | none => .error (.notFound organization)

/-- The repository after a rule set has been written. -/
def put (repository : Repository) (organization : String) (rules : List Rule) :
    Except RepositoryError Repository :=
  match repository with
  | .unreachable failure => .error (.unreachable failure)
  | .ready store => .ok (.ready (store.put organization rules))

/-- Whether a rule set is known to be kept for an organization. -/
def contains (repository : Repository) (organization : String) : Bool :=
  match repository with
  | .unreachable _ => false
  | .ready store => store.contains organization

end Repository

end AuthRedirect
