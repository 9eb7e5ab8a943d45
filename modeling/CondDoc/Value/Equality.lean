import CondDoc.Failure
import CondDoc.Options

namespace CondDoc.Value

/-- The form in which texts are compared. -/
def fold (caseSensitive : Bool) (text : String) : String :=
  if caseSensitive then text else Text.lower text

/-- Equality of two values of one kind. Numbers are equal when they are near enough, and two
infinities never are. Objects and arrays equal nothing. -/
def alike (caseSensitive : Bool) : Value → Value → Bool
  | .string s, .string t => fold caseSensitive s == fold caseSensitive t
  | .number x, .number y => (x.gap y).absLt tolerance
  | .boolean b, .boolean c => b == c
  | _, _ => false

/-- Values of different kinds are unequal, or cannot be compared in strict mode. -/
def equal (strict caseSensitive : Bool) (left right : Value) : Except Cause Bool :=
  if left.kind = right.kind then .ok (alike caseSensitive left right)
  else if strict then .error (.kindMismatch left.kind right.kind)
  else .ok false

end CondDoc.Value
