import AuthRedirect.Text.Decimal

/-!
JSON values. Members of an object keep their order and have distinct names:
`Json.put` gives a repeated name its last value at the place of its first.
-/

namespace AuthRedirect

/-- A JSON value. A number is whole, or `mantissa · 10 ^ exponent`; which of the
two is decided by how it was written. -/
inductive Json where
  | null
  | bool (value : Bool)
  | int (value : Int)
  | decimal (mantissa exponent : Int)
  | str (text : String)
  | arr (items : List Json)
  | obj (members : List (String × Json))

namespace Json

/-- The members of an object. -/
abbrev Members := List (String × Json)

/-- The members with a value under a name: in the place of the value that the
name had, or at the end. -/
def put (members : Members) (name : String) (value : Json) : Members :=
  match members with
  | [] => [(name, value)]
  | (other, old) :: rest =>
      if other = name then (name, value) :: rest else (other, old) :: put rest name value

/-- The value of a member. -/
def find? (name : String) (members : Members) : Option Json :=
  (members.find? fun member => member.1 == name).map (·.2)

/-- Whether a value is `null`. -/
def isNull : Json → Bool
  | .null => true
  | _ => false

/-- The kinds of values that messages tell apart. -/
inductive Kind where
  | null
  | bool
  | int
  | decimal
  | str
  | arr
  | obj
deriving DecidableEq, Repr

/-- The kind of a value. -/
def kind : Json → Kind
  | .null => .null
  | .bool _ => .bool
  | .int _ => .int
  | .decimal _ _ => .decimal
  | .str _ => .str
  | .arr _ => .arr
  | .obj _ => .obj

/-- The word for a kind in messages. -/
def Kind.name : Kind → String
  | .null => "null"
  | .bool => "bool"
  | .int => "int"
  | .decimal => "float"
  | .str => "str"
  | .arr => "array"
  | .obj => "object"

theorem put_of_not_mem {members : Members} {name : String} (value : Json)
    (absent : name ∉ members.map (·.1)) : put members name value = members ++ [(name, value)] := by
  induction members with
  | nil => rfl
  | cons member rest ih =>
      simp only [List.map_cons, List.mem_cons, not_or] at absent
      rw [put, if_neg (Ne.symm absent.1), ih absent.2]
      rfl

end Json

end AuthRedirect
