import CondDoc.Json.Basic
import CondDoc.Number.Shortest
import CondDoc.Text.Quoted
import CondDoc.Value.Basic

namespace CondDoc

/-- The key of an entry in plain data. -/
inductive Key where
  | text (s : String)
  | null
  | boolean (b : Bool)
  | integer (n : Int)
  | number (x : Number)
  deriving DecidableEq

namespace Key

/-- The count of units of a key that is a finite number; truth counts as one. -/
def units? : Key → Option Int
  | .boolean b => some (if b then Number.one else 0)
  | .integer n => some (n * Number.one)
  | .number (.finite negative size) => some (Number.signedUnits negative size)
  | .number _ | .text _ | .null => none

/-- Keys that denote one number are the same key, however they are written. -/
def same (a b : Key) : Bool :=
  match a.units?, b.units? with
  | some m, some n => m == n
  | none, none => a == b && a != .number .nan
  | _, _ => false

/-- The name under which the entry can be looked up. -/
def name : Key → String
  | .text s => s
  | .null => "None"
  | .boolean true => "True"
  | .boolean false => "False"
  | .integer n => Number.integerText n
  | .number x => x.text

end Key

/-- Plain data. A value that is made already may stand in it, and so may data of a foreign type,
which nothing can be made of. -/
inductive Datum where
  | null
  | boolean (b : Bool)
  | integer (n : Int)
  | number (x : Number)
  | text (s : String)
  | list (items : List Datum)
  | tuple (items : List Datum)
  | mapping (entries : List (Key × Datum))
  | value (v : Value)
  | foreign (typeName : String)
  deriving Inhabited

/-- What is wrong with data from outside. -/
inductive DataError where
  | notConvertible (typeName : String)
  | outOfRange (n : Int)
  | unusableArguments (typeName : String)
  | notAnObject (typeName : String)
  | malformedJson
  | unknownTokenKind (name : String)
  | notAMapping (typeName : String)
  deriving DecidableEq

def DataError.message : DataError → String
  | .notConvertible typeName => "Cannot convert " ++ typeName ++ " to a template value"
  | .outOfRange n => "Number " ++ Number.integerText n ++ " is out of range"
  | .unusableArguments typeName =>
    "ValueResolver expects a mapping or ObjectValue, got " ++ typeName
  | .notAnObject typeName => "Arguments must be a JSON object, got " ++ typeName
  | .malformedJson => "malformed JSON"
  | .unknownTokenKind name => Text.quoted name ++ " is not a valid TokenKind"
  | .notAMapping typeName => "'" ++ typeName ++ "' object is not iterable"

namespace Datum

/-- The mapping that a list of entries makes. -/
def ofEntries (entries : List (Key × Datum)) : Datum := .mapping (Ordered.ofPairs Key.same entries)

/-- The names of types that messages use. -/
def typeName : Datum → String
  | .null => "NoneType"
  | .boolean _ => "bool"
  | .integer _ => "int"
  | .number _ => "float"
  | .text _ => "str"
  | .list _ => "list"
  | .tuple _ => "tuple"
  | .mapping _ => "dict"
  | .value (.string _) => "StringValue"
  | .value (.number _) => "NumberValue"
  | .value (.boolean _) => "BooleanValue"
  | .value (.object _) => "ObjectValue"
  | .value (.array _) => "ArrayValue"
  | .foreign name => name

/-- The value of an integer, which must have a nearest number. -/
def ofInteger (n : Int) : Except DataError Value :=
  (Number.ofInt? n).elim (.error (.outOfRange n)) fun x => .ok (.number x)

mutual

/-- The value of plain data. Null is the empty string, and the first node in reading order that
cannot be converted decides the error. -/
def toValue : Datum → Except DataError Value
  | .value v => .ok v
  | .boolean b => .ok (.boolean b)
  | .integer n => ofInteger n
  | .number x => .ok (.number x)
  | .text s => .ok (.string s)
  | .null => .ok (.string "")
  | .mapping entries => do
    let fields ← toFields entries
    return .object (Ordered.ofPairs (· == ·) fields)
  | .list items => do return .array (← toItems items)
  | .tuple items => do return .array (← toItems items)
  | .foreign typeName => .error (.notConvertible typeName)

def toFields : List (Key × Datum) → Except DataError (List (String × Value))
  | [] => .ok []
  | (key, datum) :: entries => do
    let first ← toValue datum
    let others ← toFields entries
    return (key.name, first) :: others

def toItems : List Datum → Except DataError (List Value)
  | [] => .ok []
  | datum :: items => do
    let first ← toValue datum
    let others ← toItems items
    return first :: others

end

mutual

/-- The plain data of a value. -/
def ofValue : Value → Datum
  | .string s => .text s
  | .number x => .number x
  | .boolean b => .boolean b
  | .object fields => .mapping (ofFields fields)
  | .array items => .list (ofItems items)

def ofFields : List (String × Value) → List (Key × Datum)
  | [] => []
  | (name, v) :: fields => (.text name, ofValue v) :: ofFields fields

def ofItems : List Value → List Datum
  | [] => []
  | v :: items => ofValue v :: ofItems items

end

mutual

/-- The plain data of a JSON value. -/
def ofJson : Json → Datum
  | .null => .null
  | .boolean b => .boolean b
  | .integer n => .integer n
  | .number x => .number x
  | .text s => .text s
  | .array items => .list (ofJsonItems items)
  | .object entries => .mapping (ofJsonEntries entries)

def ofJsonItems : List Json → List Datum
  | [] => []
  | item :: items => ofJson item :: ofJsonItems items

def ofJsonEntries : List (String × Json) → List (Key × Datum)
  | [] => []
  | (name, json) :: entries => (.text name, ofJson json) :: ofJsonEntries entries

end

end Datum

end CondDoc
