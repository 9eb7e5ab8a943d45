import CondDoc.Schema.Field

namespace CondDoc.Schema

mutual

/-- How records of a type, and the parts of them, are declared. -/
inductive Shape : Type → Type 1 where
  | integer : Shape Int
  | boolean : Shape Bool
  | text : Shape String
  /-- One of some values, each of which has a name. -/
  | choice {α : Type} (name : α → String) (named? : String → Option α) : Shape α
  | optional {α : Type} (shape : Shape α) : Shape (Option α)
  | list {α : Type} (shape : Shape α) : Shape (List α)
  | record {α : Type} (fields : Fields α α) : Shape α

/-- The fields of records of type `α`, in their order; `β` is what their values make up. A field
that has a value for it may be missing. -/
inductive Fields : Type → Type → Type 1 where
  | start {α β : Type} (build : β) : Fields α β
  | field {α β γ : Type} (before : Fields α (γ → β)) (name : String) (shape : Shape γ)
      (ifMissing : Option γ) (part : α → γ) : Fields α β

end

variable {α β : Type}

section

variable (aliasOf : String → String)

mutual

/-- The data of a value, with every field under its alias. -/
def Shape.data {α : Type} : Shape α → α → Json
  | .integer, n => .integer n
  | .boolean, b => .boolean b
  | .text, s => .text s
  | .choice name _, value => .text (name value)
  | .optional _, none => .null
  | .optional shape, some value => shape.data value
  | .list shape, values => .array (values.map shape.data)
  | .record fields, value => .object (fields.data value)

def Fields.data {α β : Type} : Fields α β → α → List (String × Json)
  | .start _, _ => []
  | .field before name shape _ part, value =>
    before.data value ++ [(aliasOf name, shape.data (part value))]

end

mutual

/-- Reads data of a shape, each field under its alias or else under its name. -/
def Shape.read {α : Type} : Shape α → Json → Checked α
  | .integer => Schema.integer
  | .boolean => Schema.boolean
  | .text => string
  | .choice _ named? => Schema.choice named?
  | .optional shape => Schema.optional shape.read
  | .list shape => Schema.list shape.read
  | .record fields => Schema.record fields.read

def Fields.read {α β : Type} : Fields α β → List (String × Json) → Checked β
  | .start build, _ => .ok build
  | .field before name shape ifMissing _, entries =>
    (before.read entries).and (Schema.field (aliasOf name) [name] shape.read ifMissing entries)

end

end

end CondDoc.Schema
