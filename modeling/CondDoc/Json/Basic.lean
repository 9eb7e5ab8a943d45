import CondDoc.Number.Basic
import CondDoc.Ordered

namespace CondDoc

/-- An integer, of any size, is apart from a number with a fraction or an exponent. The entries of
an object are ordered. -/
inductive Json where
  | null
  | boolean (b : Bool)
  | integer (n : Int)
  | number (x : Number)
  | text (s : String)
  | array (items : List Json)
  | object (entries : List (String × Json))
  deriving Inhabited

namespace Json

/-- The object that a list of members denotes: a repeated name stands where it came first, with its
last value. -/
def ofMembers (members : List (String × Json)) : Json :=
  .object (Ordered.ofPairs (· == ·) members)

/-- The entry of an object at a name. -/
def field? (name : String) : Json → Option Json
  | .object entries => Ordered.find? (· == name) entries
  | _ => none

end Json

end CondDoc
