import CondDoc.Number.Decimal
import CondDoc.Ordered
import CondDoc.Text.Lower

namespace CondDoc

inductive Value where
  | string (s : String)
  | number (x : Number)
  | boolean (b : Bool)
  | object (fields : List (String × Value))
  | array (items : List Value)
  deriving Inhabited

/-- The five kinds of value; values of different kinds are never equal. -/
inductive ValueKind where
  | string | number | boolean | object | array
  deriving DecidableEq

def ValueKind.name : ValueKind → String
  | .string => "string"
  | .number => "number"
  | .boolean => "boolean"
  | .object => "object"
  | .array => "array"

namespace Value

def kind : Value → ValueKind
  | .string _ => .string
  | .number _ => .number
  | .boolean _ => .boolean
  | .object _ => .object
  | .array _ => .array

mutual

/-- The keys of every object in the value are distinct. -/
def DistinctKeys : Value → Prop
  | .object fields => (fields.map (·.1)).Nodup ∧ DistinctKeysFields fields
  | .array items => DistinctKeysItems items
  | .string _ | .number _ | .boolean _ => True

def DistinctKeysFields : List (String × Value) → Prop
  | [] => True
  | (_, value) :: fields => DistinctKeys value ∧ DistinctKeysFields fields

def DistinctKeysItems : List Value → Prop
  | [] => True
  | value :: items => DistinctKeys value ∧ DistinctKeysItems items

end

theorem distinctKeysFields_iff {fields : List (String × Value)} :
    DistinctKeysFields fields ↔ ∀ field ∈ fields, field.2.DistinctKeys := by
  induction fields with
  | nil => simp [DistinctKeysFields]
  | cons field fields ih => rw [DistinctKeysFields, List.forall_mem_cons, ih]

/-- Numbers nearer to each other than this count as equal, and nearer to zero as false. -/
def tolerance : Number := Number.ofDecimal false 1 (-7)

/-- What a value counts for as a condition. -/
def truthy : Value → Bool
  | .boolean b => b
  | .string s => s != "" && Text.lower s != "false"
  | .number x => tolerance.absLt x
  | .object _ | .array _ => true

end Value

end CondDoc
