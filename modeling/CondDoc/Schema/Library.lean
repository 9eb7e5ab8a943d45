import CondDoc.Json.Layout
import CondDoc.Schema.Shape
import CondDoc.Text.Pieces

namespace CondDoc.Schema

/-- A library that writes and checks records of declared shapes. It is not part of this program,
which hands it the declarations of its records. -/
structure Library where
  /-- The alias that a field goes by in data. -/
  aliasOf : String → String
  /-- The JSON text of a record by aliases, on one line or with so many spaces of indent. -/
  dump : {α : Type} → Shape α → Option Nat → α → String
  /-- The record that JSON data makes up. -/
  validate : {α : Type} → Shape α → Json → Checked α

def capitalized (word : String) : List Char :=
  match word.toList with
  | [] => []
  | c :: cs => c.toUpper :: cs

/-- The words in one, each but the first with a capital letter. -/
def camelCase : List String → String
  | [] => ""
  | first :: others => String.ofList (first.toList ++ others.flatMap capitalized)

/-- The camel case of a name that has underscores between its words. -/
def camelAlias (name : String) : String := camelCase (Text.splitAt '_' name)

/-- A library that does what is documented of such a one, so that the program runs. -/
def Library.described : Library where
  aliasOf := camelAlias
  dump shape indent value := Json.render ⟨false, indent⟩ (shape.data camelAlias value)
  validate shape := shape.read camelAlias

end CondDoc.Schema
