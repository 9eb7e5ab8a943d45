import CondDoc.Json.Symbol

namespace CondDoc.Json

mutual

/-- The value that stands at the start of a list of symbols. -/
def value? (symbols : List Symbol) : Option (Step Symbol Json symbols.length) :=
  match symbols with
  | .null :: rest => some (.one .null rest)
  | .boolean b :: rest => some (.one (.boolean b) rest)
  | .integer n :: rest => some (.one (.integer n) rest)
  | .number x :: rest => some (.one (.number x) rest)
  | .text s :: rest => some (.one (.text s) rest)
  | .leftBracket :: .rightBracket :: rest => some (.two (.array []) rest)
  | .leftBracket :: rest => do
    let step ← items? rest
    return (step.map .array).widen (by simp)
  | .leftBrace :: .rightBrace :: rest => some (.two (.object []) rest)
  | .leftBrace :: rest => do
    let step ← members? rest
    return (step.map ofMembers).widen (by simp)
  | _ => none
termination_by (symbols.length, 0)

/-- The items of an array up to its closing bracket. -/
def items? (symbols : List Symbol) : Option (Step Symbol (List Json) symbols.length) := do
  let first ← value? symbols
  match h : first.rest with
  | .comma :: rest =>
    have := first.tail_lt h
    let others ← items? rest
    return (others.map (first.value :: ·)).widen (by omega)
  | .rightBracket :: rest =>
    have := first.tail_lt h
    return ⟨[first.value], rest, by omega⟩
  | _ => none
termination_by (symbols.length, 1)

/-- The members of an object up to its closing brace. -/
def members? (symbols : List Symbol) :
    Option (Step Symbol (List (String × Json)) symbols.length) :=
  match symbols with
  | .text name :: .colon :: start => do
    let first ← value? start
    match h : first.rest with
    | .comma :: rest =>
      have := first.tail_lt h
      let others ← members? rest
      return (others.map ((name, first.value) :: ·)).widen (by simp only [List.length_cons]; omega)
    | .rightBrace :: rest =>
      have := first.tail_lt h
      return ⟨[(name, first.value)], rest, by simp only [List.length_cons]; omega⟩
    | _ => none
  | _ => none
termination_by (symbols.length, 1)

end

/-- The value that a list of symbols denotes as a whole. -/
def ofSymbols? (symbols : List Symbol) : Option Json := do
  let step ← value? symbols
  if step.rest = [] then some step.value else none

/-- The value that a text denotes, if it is JSON. -/
def ofText? (text : String) : Option Json := do
  ofSymbols? (← Symbol.list? text.toList)

end CondDoc.Json
