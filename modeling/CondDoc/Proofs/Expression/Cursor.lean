import CondDoc.Expression

namespace CondDoc.Expression

/-- What can be read at a position. The readings with a value so far, and that of further names, go
on with what was begun before the position. -/
inductive Reading where
  | disjunction
  | disjunctionFrom (left : Bool)
  | conjunction
  | conjunctionFrom (left : Bool)
  | negation
  | comparison
  | primary
  | reference (name : String)
  | names
  | arguments
  | argumentsFrom
  | array
  | itemsFrom

namespace Reading

@[reducible]
def Result : Reading → Type
  | .disjunction | .disjunctionFrom _ | .conjunction | .conjunctionFrom _ | .negation
  | .comparison => Bool
  | .primary | .reference _ | .array => Value
  | .names => List String
  | .arguments | .argumentsFrom | .itemsFrom => List Value

/-- Does the reading begin with a token of its own? -/
def isWhole : Reading → Bool
  | .disjunctionFrom _ | .conjunctionFrom _ | .reference _ | .names => false
  | _ => true

end Reading

/-- A result, unless the bound on the open calls is reached. -/
abbrev Attempt (α : Type) : Type := ExceptT Cause Option α

namespace Attempt

def ofResult {α : Type} (result : Except Cause α) : Attempt α := ExceptT.mk (some result)

/-- The bound is reached. -/
def unfinished {α : Type} : Attempt α := ExceptT.mk none

end Attempt

/-- The kind of the token at a position. -/
def kindAt (tokens : List Token) (pos : Nat) : Option TokenKind := tokens[pos]?.map Token.kind

/-- The text of the token at a position, as messages show it. -/
def foundAt (tokens : List Token) (pos : Nat) : Option String := tokens[pos]?.map Token.text

/-- There is no list at the position, which would begin with the given token. -/
def noOpening (opening : String) (found : Option String) : Cause :=
  .stated .expression
    ("Expected " ++ opening ++ ", got " ++ (found.map Text.quoted).getD "end of expression")

section

variable (context : Context) (tokens : List Token)

/-- An argument of a call, the only place for an array. -/
def argumentAt (array primary : Nat → Attempt (Value × Nat)) (pos : Nat) :
    Attempt (Value × Nat) :=
  if kindAt tokens pos = some .leftBracket then array pos else primary pos

/-- What follows an element of a list: a comma and more elements, or the end of the list. -/
def elementsAt (close : TokenKind) (what : Expectation)
    (more : Nat → Attempt (List Value × Nat)) (first : Value) (pos : Nat) :
    Attempt (List Value × Nat) :=
  if kindAt tokens pos = some .comma then do
    let (others, pos) ← more (pos + 1)
    return (first :: others, pos)
  else if kindAt tokens pos = some close then return ([first], pos + 1)
  else throw (.expected what (foundAt tokens pos))

/-- What follows the left side of a comparison. -/
def comparisonAt (primary : Nat → Attempt (Value × Nat)) (left : Value) (pos : Nat) :
    Attempt (Bool × Nat) :=
  if kindAt tokens pos = some .equals ∨ kindAt tokens pos = some .notEquals then do
    let (right, next) ← primary (pos + 1)
    let same ← Attempt.ofResult (context.equal left right)
    return (if kindAt tokens pos = some .equals then same else !same, next)
  else return (left.truthy, pos)

/-- What follows the whole of a path: with a parenthesis behind it, its last name is a function. -/
def referenceAt (arguments : Nat → Attempt (List Value × Nat)) (name : String)
    (names : List String) (pos : Nat) : Attempt (Value × Nat) :=
  if names ≠ [] ∧ kindAt tokens pos = some .leftParen then do
    let receiver ← Attempt.ofResult (context.lookup (path (name :: names.dropLast)))
    let (values, pos) ← arguments pos
    let answer ← Attempt.ofResult (context.call (names.getLastD name) (receiver :: values))
    return (.boolean answer, pos)
  else do
    let value ← Attempt.ofResult (context.lookup (path (name :: names)))
    return (value, pos)

/-- One turn of a reading, in which all other readings are calls. -/
def turn (read : (reading : Reading) → Nat → Attempt (reading.Result × Nat)) :
    (reading : Reading) → Nat → Attempt (reading.Result × Nat)
  | .disjunction, pos => do
    let (left, pos) ← read .conjunction pos
    read (.disjunctionFrom left) pos
  | .disjunctionFrom left, pos =>
    if kindAt tokens pos = some .or then do
      let (right, pos) ← read .conjunction (pos + 1)
      read (.disjunctionFrom (left || right)) pos
    else return (left, pos)
  | .conjunction, pos => do
    let (left, pos) ← read .negation pos
    read (.conjunctionFrom left) pos
  | .conjunctionFrom left, pos =>
    if kindAt tokens pos = some .and then do
      let (right, pos) ← read .negation (pos + 1)
      read (.conjunctionFrom (left && right)) pos
    else return (left, pos)
  | .negation, pos =>
    if kindAt tokens pos = some .not then do
      let (inner, pos) ← read .negation (pos + 1)
      return (!inner, pos)
    else read .comparison pos
  | .comparison, pos => do
    let (left, pos) ← read .primary pos
    comparisonAt context tokens (read .primary) left pos
  | .primary, pos =>
    match tokens[pos]? with
    | none => throw .endOfExpression
    | some ⟨.leftParen, _⟩ => do
      let (inner, pos) ← read .disjunction (pos + 1)
      if kindAt tokens pos = some .rightParen then return (.boolean inner, pos + 1)
      else throw (.expected .closingParen (foundAt tokens pos))
    | some ⟨.identifier, name⟩ => read (.reference name) (pos + 1)
    | some ⟨.leftBracket, _⟩ => throw .arrayOutsideCall
    | some token =>
      match literal? token with
      | some value => do return (← Attempt.ofResult value, pos + 1)
      | none => throw (.unexpectedToken token.text)
  | .reference name, pos =>
    if kindAt tokens pos = some .leftParen then do
      let (values, pos) ← read .arguments pos
      let answer ← Attempt.ofResult (context.call name values)
      return (.boolean answer, pos)
    else do
      let (names, pos) ← read .names pos
      referenceAt context tokens (read .arguments) name names pos
  | .names, pos =>
    if kindAt tokens pos = some .dot then
      match tokens[pos + 1]? with
      | some ⟨.identifier, name⟩ => do
        let (others, pos) ← read .names (pos + 2)
        return (name :: others, pos)
      | _ => throw (.expected .name (foundAt tokens (pos + 1)))
    else return ([], pos)
  | .arguments, pos =>
    if kindAt tokens pos = some .leftParen then
      if kindAt tokens (pos + 1) = some .rightParen then return ([], pos + 2)
      else read .argumentsFrom (pos + 1)
    else throw (noOpening "'('" (foundAt tokens pos))
  | .argumentsFrom, pos => do
    let (first, pos) ← argumentAt tokens (read .array) (read .primary) pos
    elementsAt tokens .rightParen .commaOrParen (read .argumentsFrom) first pos
  | .array, pos =>
    if kindAt tokens pos = some .leftBracket then
      if kindAt tokens (pos + 1) = some .rightBracket then return (.array [], pos + 2)
      else do
        let (items, pos) ← read .itemsFrom (pos + 1)
        return (.array items, pos)
    else throw (noOpening "'['" (foundAt tokens pos))
  | .itemsFrom, pos => do
    let (first, pos) ← read .primary pos
    elementsAt tokens .rightBracket .commaOrBracket (read .itemsFrom) first pos

/-- A reading with at most so many calls open at once. The bound stands for a measure, since by
position alone nothing says that the readings end. -/
def readAt : (depth : Nat) → (reading : Reading) → Nat → Attempt (reading.Result × Nat)
  | 0, _, _ => .unfinished
  | depth + 1, reading, pos => turn context tokens (readAt depth) reading pos

end

/-- The truth of a reading that has left no token. -/
def endAt (tokens : List Token) (result : Bool × Nat) : Attempt Bool :=
  match tokens[result.2]? with
  | none => return result.1
  | some token => throw (.unexpectedToken token.text)

/-- The truth of an expression, which must be the whole of the tokens. -/
def evaluateAt (context : Context) (tokens : List Token) (depth : Nat) : Attempt Bool :=
  if tokens = [] then throw .emptyExpression
  else readAt context tokens depth .disjunction 0 >>= endAt tokens

end CondDoc.Expression
