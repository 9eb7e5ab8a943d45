import CondDoc.Schema.Field
import CondDoc.Value.Basic

namespace CondDoc.Schema

/-- The entry at a name, together with the fact that it is smaller than all entries. -/
def part? (name : String) : (entries : List (String × Json)) →
    Option { json : Json // sizeOf json < sizeOf entries }
  | [] => none
  | (key, json) :: entries =>
    if key = name then some ⟨json, by simp; omega⟩
    else (part? name entries).map fun part => ⟨part.1, by have := part.2; simp; omega⟩

def kindOf : Json → Option ValueKind
  | .text "string" => some .string
  | .text "number" => some .number
  | .text "boolean" => some .boolean
  | .text "object" => some .object
  | .text "array" => some .array
  | _ => none

mutual

def value (json : Json) : Checked Value :=
  match json with
  | .object entries =>
    match part? "kind" entries with
    | none => .fail .noTag
    | some ⟨tag, _⟩ =>
      match kindOf tag with
      | none => .fail .unknownTag
      | some kind => (valueOf kind entries).under (.field kind.name)
  | _ => .fail .noValue
termination_by (sizeOf json, 0)

/-- The value of a record whose kind is known. -/
def valueOf (kind : ValueKind) (entries : List (String × Json)) : Checked Value :=
  match kind with
  | .string => (field "value" [] string none entries).map .string
  | .number => (field "value" [] number none entries).map .number
  | .boolean => (field "value" [] boolean none entries).map .boolean
  | .object =>
    match part? "fields" entries with
    | none => .ok (.object [])
    | some ⟨.object parts, _⟩ => ((valueFields parts).under (.field "fields")).map .object
    | some _ => Checked.under (.field "fields") (.fail .noMapping)
  | .array =>
    match part? "items" entries with
    | none => .ok (.array [])
    | some ⟨.array items, _⟩ => ((valueItems 0 items).under (.field "items")).map .array
    | some _ => Checked.under (.field "items") (.fail .noList)
termination_by (sizeOf entries, 1)
decreasing_by all_goals simp_all; omega

def valueFields (entries : List (String × Json)) : Checked (List (String × Value)) :=
  match entries with
  | [] => .ok []
  | (name, json) :: others =>
    (((value json).under (.field name)).map fun v vs => (name, v) :: vs).and (valueFields others)
termination_by (sizeOf entries, 0)

def valueItems (index : Nat) (items : List Json) : Checked (List Value) :=
  match items with
  | [] => .ok []
  | json :: others =>
    (((value json).under (.item index)).map List.cons).and (valueItems (index + 1) others)
termination_by (sizeOf items, 0)

end

end CondDoc.Schema
