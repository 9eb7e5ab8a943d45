import CondDoc.Json.Basic

namespace CondDoc.Schema

/-- One step on the way to the part of the data that is at fault. -/
inductive Place where
  | field (name : String)
  | item (index : Nat)
  deriving DecidableEq

inductive Problem where
  | missing
  | noSuchKind
  | noString
  | noInteger | unreadableInteger | oversizedInteger | fractionalInteger | infiniteInteger
  | noBoolean | unreadableBoolean
  | noNumber | unreadableNumber
  | tooSmall
  | noList | noMapping | noRecord | noValue
  | noTag | unknownTag
  /-- A rule on the record as a whole is broken. -/
  | rule (message : String)
  deriving DecidableEq

/-- The name under which a problem is reported. -/
def Problem.name : Problem → String
  | .missing => "missing"
  | .noSuchKind => "enum"
  | .noString => "string_type"
  | .noInteger => "int_type"
  | .unreadableInteger => "int_parsing"
  | .oversizedInteger => "int_parsing_size"
  | .fractionalInteger => "int_from_float"
  | .infiniteInteger => "finite_number"
  | .noBoolean => "bool_type"
  | .unreadableBoolean => "bool_parsing"
  | .noNumber => "float_type"
  | .unreadableNumber => "float_parsing"
  | .tooSmall => "greater_than_equal"
  | .noList => "list_type"
  | .noMapping => "dict_type"
  | .noRecord => "model_type"
  | .noValue => "model_attributes_type"
  | .noTag => "union_tag_not_found"
  | .unknownTag => "union_tag_invalid"
  | .rule _ => "value_error"

def Problem.message? : Problem → Option String
  | .rule message => some ("Value error, " ++ message)
  | _ => none

structure Fault where
  place : List Place
  problem : Problem
  deriving DecidableEq

/-- Data that passed, or all of its faults. -/
abbrev Checked (α : Type) := Except (List Fault) α

namespace Checked

variable {α β : Type}

def fail (problem : Problem) : Checked α := .error [⟨[], problem⟩]

def map (f : α → β) (checked : Checked α) : Checked β := Except.map f checked

/-- The faults of a part, seen from the whole. -/
def under (place : Place) (checked : Checked α) : Checked α :=
  checked.mapError fun faults => faults.map fun fault => ⟨place :: fault.place, fault.problem⟩

/-- Puts two parts together; the faults of both are kept. -/
def and (first : Checked (α → β)) (second : Checked α) : Checked β :=
  match first, second with
  | .ok f, .ok a => .ok (f a)
  | .ok _, .error faults => .error faults
  | .error faults, .ok _ => .error faults
  | .error faults, .error others => .error (faults ++ others)

end Checked

end CondDoc.Schema
