import CondDoc.Json.Layout
import CondDoc.Value.Basic

namespace CondDoc.Value

/-- A number in JSON is an integer where it can be. -/
def numberJson (x : Number) : Json :=
  match x.toInt? with
  | some n => .integer n
  | none => .number x

mutual

def toJson : Value → Json
  | .string s => .text s
  | .number x => numberJson x
  | .boolean b => .boolean b
  | .object fields => .object (fieldsJson fields)
  | .array items => .array (itemsJson items)

def fieldsJson : List (String × Value) → List (String × Json)
  | [] => []
  | (name, value) :: fields => (name, toJson value) :: fieldsJson fields

def itemsJson : List Value → List Json
  | [] => []
  | value :: items => toJson value :: itemsJson items

end

/-- Objects and arrays are JSON on one line, in ASCII. -/
def inlineLayout : Json.Layout := ⟨true, none⟩

def asText : Value → String
  | .string s => s
  | .number x => x.brief
  | .boolean b => if b then "true" else "false"
  | .object fields => Json.render inlineLayout (toJson (.object fields))
  | .array items => Json.render inlineLayout (toJson (.array items))

end CondDoc.Value
