import CondDoc.Json.Reader
import CondDoc.Text.Pieces
import CondDoc.Value.Datum

namespace CondDoc

/-- The object in which paths are looked up. -/
structure Resolver where
  fields : List (String × Value)
  deriving Inhabited

/-- What the caller hands over as arguments: data, or a resolver whose object is shared. -/
inductive Arguments where
  | data (datum : Datum)
  | resolver (resolver : Resolver)
  deriving Inhabited

namespace Resolver

/-- A name without its underscores and in lower case. -/
def normalized (name : String) : String :=
  Text.lower (String.ofList (name.toList.filter (· != '_')))

/-- The field that a name means: the one spelled so, else the first that differs by case only, else
the first that differs by case and underscores only. -/
def field? (fields : List (String × Value)) (name : String) : Option Value :=
  (Ordered.find? (· == name) fields).or <|
    (Ordered.find? (fun key => Text.lower key == Text.lower name) fields).or <|
      Ordered.find? (fun key => normalized key == normalized name) fields

/-- Follows names from a value; only objects have fields, and no field has an empty name. -/
def follow? (value : Value) : List String → Option Value
  | [] => some value
  | name :: names =>
    match value with
    | .object fields =>
      if name = "" then none
      else (field? fields name).bind fun found => follow? found names
    | _ => none

/-- The value at a path of names with points between them. -/
def resolve? (resolver : Resolver) (path : String) : Option Value :=
  if path = "" then none else follow? (.object resolver.fields) (Text.splitAt '.' path)

def ofArguments : Arguments → Except DataError Resolver
  | .resolver resolver => .ok resolver
  | .data .null => .ok ⟨[]⟩
  | .data (.value (.object fields)) => .ok ⟨fields⟩
  | .data (.mapping entries) => do
    let fields ← Datum.toFields entries
    return ⟨Ordered.ofPairs (· == ·) fields⟩
  | .data datum => .error (.unusableArguments datum.typeName)

/-- The arguments of a JSON document, which must be an object. -/
def ofJson (text : String) : Except DataError Resolver :=
  match Json.ofText? text with
  | none => .error .malformedJson
  | some json =>
    match Datum.ofJson json with
    | .mapping entries => ofArguments (.data (.mapping entries))
    | datum => .error (.notAnObject datum.typeName)

end Resolver

/-- Adds the defaults to the arguments, except those whose name is there already in some spelling by
case. -/
def withDefaults (args defaults : List (String × Datum)) : List (String × Datum) :=
  defaults.foldl
    (fun entries entry =>
      if entries.any fun present => Text.lower present.1 == Text.lower entry.1 then entries
      else entries ++ [entry])
    args

/-- The entries of a mapping by name. -/
def Datum.namedEntries : Datum → Except DataError (List (String × Datum))
  | .mapping entries => .ok (entries.map fun entry => (entry.1.name, entry.2))
  | .list [] | .tuple [] | .text "" => .ok []
  | datum => .error (.notAMapping datum.typeName)

def Datum.ofNamedEntries (entries : List (String × Datum)) : Datum :=
  .mapping (entries.map fun entry => (.text entry.1, entry.2))

namespace Arguments

def namedEntries : Arguments → Except DataError (List (String × Datum))
  | .data datum => datum.namedEntries
  | .resolver _ => .error (.notAMapping "ValueResolver")

/-- The arguments together with the defaults that they leave room for. -/
def addDefaults (args : Arguments) (defaults : Datum) : Except DataError Datum := do
  let own ← args.namedEntries
  let others ← defaults.namedEntries
  return .ofNamedEntries (withDefaults own others)

end Arguments

end CondDoc
