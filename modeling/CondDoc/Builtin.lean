import CondDoc.Text.Occurs
import CondDoc.Value.Equality
import CondDoc.Value.Text

namespace CondDoc

inductive Builtin where
  | contains | startsWith | endsWith | membership | presence
  deriving DecidableEq

namespace Builtin

def name : Builtin → String
  | .contains => "contains"
  | .startsWith => "startsWith"
  | .endsWith => "endsWith"
  | .membership => "in"
  | .presence => "exists"

def arity : Builtin → Nat
  | .contains | .startsWith | .endsWith | .membership => 2
  | .presence => 1

def all : List Builtin := [.contains, .startsWith, .endsWith, .membership, .presence]

/-- The function of a name, whatever the case of its letters. -/
def named? (name : String) : Option Builtin :=
  all.find? fun builtin => Text.lower builtin.name == Text.lower name

/-- The characters of a value's text, in the form in which texts are compared. -/
def folded (options : Options) (value : Value) : List Char :=
  (Value.fold options.caseSensitive value.asText).toList

/-- Does an item equal the value? The items behind the first such one are not looked at. -/
def anyEqual (options : Options) (value : Value) : List Value → Except Cause Bool
  | [] => .ok false
  | item :: items => do
    if ← Value.equal options.strict options.caseSensitive value item then return true
    else anyEqual options value items

/-- Everything is present but a plain `false`, which is also what an unknown variable gives. -/
def isPresent : Value → Bool
  | .boolean b => b
  | _ => true

/-- The answer to a call with as many values as the function takes. -/
def apply (options : Options) : Builtin → List Value → Except Cause Bool
  | .contains, [text, part] => .ok (Text.occursIn (folded options part) (folded options text))
  | .startsWith, [text, part] => .ok ((folded options part).isPrefixOf (folded options text))
  | .endsWith, [text, part] => .ok ((folded options part).isSuffixOf (folded options text))
  | .membership, [value, .array items] => anyEqual options value items
  | .membership, [_, _] => .error .membershipOfNoArray
  | .presence, [value] => .ok (isPresent value)
  | builtin, values => .error (.wrongArity builtin.name builtin.arity values.length)

/-- Calls the function of a name. -/
def call (options : Options) (name : String) (values : List Value) : Except Cause Bool :=
  match named? name with
  | some builtin => builtin.apply options values
  | none => .error (.unknownFunction name)

end Builtin

end CondDoc
