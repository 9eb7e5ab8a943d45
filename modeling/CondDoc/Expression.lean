import CondDoc.Builtin
import CondDoc.Resolver
import CondDoc.Token.Lexer

namespace CondDoc.Expression

/-- What an expression is evaluated in. -/
structure Context where
  resolver : Resolver
  options : Options := .standard

namespace Context

/-- The value of a variable. One that is unknown is false, or a failure in strict mode. -/
def lookup (context : Context) (path : String) : Except Cause Value :=
  match context.resolver.resolve? path with
  | some value => .ok value
  | none => if context.options.strict then .error (.unknownVariable path) else .ok (.boolean false)

def equal (context : Context) (left right : Value) : Except Cause Bool :=
  Value.equal context.options.strict context.options.caseSensitive left right

def call (context : Context) (name : String) (values : List Value) : Except Cause Bool :=
  Builtin.call context.options name values

end Context

/-- The text of the next token, as messages show it. -/
def found (tokens : List Token) : Option String := tokens.head?.map Token.text

/-- The names after the first one of a path, each behind a point. -/
def moreNames : (tokens : List Token) →
    Except Cause (Step Token (List String) (tokens.length + 1))
  | ⟨.dot, _⟩ :: ⟨.identifier, name⟩ :: rest => do
    let others ← moreNames rest
    return (others.map (name :: ·)).widen (by simp)
  | ⟨.dot, _⟩ :: rest => .error (.expected .name (found rest))
  | tokens => .ok (.skip [] tokens)

def path (names : List String) : String := Text.joinWith '.' names

/-- A token that holds a value by itself. -/
def literal? : Token → Option (Except Cause Value)
  | ⟨.string, text⟩ => some (.ok (.string text))
  | ⟨.number, text⟩ => some <|
    match Number.ofText? text with
    | some x => .ok (.number x)
    | none => .error (.unreadableNumber text)
  | ⟨.boolean, text⟩ => some (.ok (.boolean (text == "true")))
  | _ => none

mutual

/-- An expression is evaluated while it is read, so both sides of every operator are evaluated:

    disjunction := conjunction ( '||' conjunction )*
    conjunction := negation ( '&&' negation )*
    negation    := '!' negation | comparison
    comparison  := primary ( ( '==' | '!=' ) primary )?
    primary     := '(' disjunction ')' | string | number | boolean | reference
    reference   := name ( '.' name )* ( '(' arguments ')' )?
    arguments   := ( argument ( ',' argument )* )?
    argument    := '[' ( primary ( ',' primary )* )? ']' | primary -/
def disjunction (context : Context) (tokens : List Token) :
    Except Cause (Step Token Bool tokens.length) := do
  let first ← conjunction context tokens
  have := first.shorter
  let whole ← disjunctionFrom context first.value first.rest
  return whole.widen (by omega)
termination_by (tokens.length, 4)

/-- The rest of a disjunction whose value so far is known. -/
def disjunctionFrom (context : Context) (left : Bool) (tokens : List Token) :
    Except Cause (Step Token Bool (tokens.length + 1)) :=
  match tokens with
  | ⟨.or, _⟩ :: rest => do
    let right ← conjunction context rest
    have := right.shorter
    let whole ← disjunctionFrom context (left || right.value) right.rest
    return whole.widen (by rw [List.length_cons]; omega)
  | tokens => return .skip left tokens
termination_by (tokens.length, 0)

def conjunction (context : Context) (tokens : List Token) :
    Except Cause (Step Token Bool tokens.length) := do
  let first ← negation context tokens
  have := first.shorter
  let whole ← conjunctionFrom context first.value first.rest
  return whole.widen (by omega)
termination_by (tokens.length, 3)

/-- The rest of a conjunction whose value so far is known. -/
def conjunctionFrom (context : Context) (left : Bool) (tokens : List Token) :
    Except Cause (Step Token Bool (tokens.length + 1)) :=
  match tokens with
  | ⟨.and, _⟩ :: rest => do
    let right ← negation context rest
    have := right.shorter
    let whole ← conjunctionFrom context (left && right.value) right.rest
    return whole.widen (by rw [List.length_cons]; omega)
  | tokens => return .skip left tokens
termination_by (tokens.length, 0)

def negation (context : Context) (tokens : List Token) :
    Except Cause (Step Token Bool tokens.length) :=
  match tokens with
  | ⟨.not, _⟩ :: rest => do
    let inner ← negation context rest
    return (inner.map (!·)).widen (by simp)
  | tokens => comparison context tokens
termination_by (tokens.length, 2)

def comparison (context : Context) (tokens : List Token) :
    Except Cause (Step Token Bool tokens.length) := do
  let left ← primary context tokens
  match h : left.rest with
  | ⟨.equals, _⟩ :: rest =>
    have := left.tail_lt h
    let right ← primary context rest
    let same ← context.equal left.value right.value
    return (right.map fun _ => same).widen (by omega)
  | ⟨.notEquals, _⟩ :: rest =>
    have := left.tail_lt h
    let right ← primary context rest
    let same ← context.equal left.value right.value
    return (right.map fun _ => !same).widen (by omega)
  | _ => return left.map Value.truthy
termination_by (tokens.length, 1)

def primary (context : Context) (tokens : List Token) :
    Except Cause (Step Token Value tokens.length) :=
  match tokens with
  | [] => .error .endOfExpression
  | ⟨.leftParen, _⟩ :: rest => do
    let inner ← disjunction context rest
    match h : inner.rest with
    | ⟨.rightParen, _⟩ :: after =>
      have := inner.tail_lt h
      return ⟨.boolean inner.value, after, by rw [List.length_cons]; omega⟩
    | other => throw (.expected .closingParen (found other))
  | ⟨.identifier, name⟩ :: rest => reference context name rest
  | ⟨.leftBracket, _⟩ :: _ => .error .arrayOutsideCall
  | token :: rest =>
    match literal? token with
    | some value => do return .one (← value) rest
    | none => .error (.unexpectedToken token.text)
termination_by (tokens.length, 0)

/-- A variable, a call, or a call with its first argument in front: `x.y.f(a)` is `f(x.y, a)`. -/
def reference (context : Context) (name : String) (tokens : List Token) :
    Except Cause (Step Token Value (tokens.length + 1)) :=
  match tokens with
  | ⟨.leftParen, _⟩ :: rest => do
    let values ← arguments context rest
    let answer ← context.call name values.value
    return (values.map fun _ => .boolean answer).widen (by rw [List.length_cons]; omega)
  | tokens => do
    let names ← moreNames tokens
    match names.value.getLast?, h : names.rest with
    | some method, ⟨.leftParen, _⟩ :: rest =>
      have := names.tail_lt h
      let receiver ← context.lookup (path (name :: names.value.dropLast))
      let values ← arguments context rest
      let answer ← context.call method (receiver :: values.value)
      return (values.map fun _ => .boolean answer).widen (by omega)
    | _, _ =>
      let value ← context.lookup (path (name :: names.value))
      return names.map fun _ => value
termination_by (tokens.length, 4)

/-- The arguments of a call, after its opening parenthesis. -/
def arguments (context : Context) (tokens : List Token) :
    Except Cause (Step Token (List Value) tokens.length) :=
  match tokens with
  | ⟨.rightParen, _⟩ :: rest => return .one [] rest
  | tokens => argumentsFrom context tokens
termination_by (tokens.length, 3)

/-- One argument and those after it. -/
def argumentsFrom (context : Context) (tokens : List Token) :
    Except Cause (Step Token (List Value) tokens.length) := do
  let first ← argument context tokens
  match h : first.rest with
  | ⟨.comma, _⟩ :: rest =>
    have := first.tail_lt h
    let others ← argumentsFrom context rest
    return (others.map (first.value :: ·)).widen (by omega)
  | ⟨.rightParen, _⟩ :: rest =>
    have := first.tail_lt h
    return ⟨[first.value], rest, by omega⟩
  | other => throw (.expected .commaOrParen (found other))
termination_by (tokens.length, 2)

def argument (context : Context) (tokens : List Token) :
    Except Cause (Step Token Value tokens.length) :=
  match tokens with
  | ⟨.leftBracket, _⟩ :: ⟨.rightBracket, _⟩ :: rest => return .two (.array []) rest
  | ⟨.leftBracket, _⟩ :: rest => do
    let items ← itemsFrom context rest
    return (items.map .array).widen (by simp)
  | tokens => primary context tokens
termination_by (tokens.length, 1)

/-- One item of an array and those after it. -/
def itemsFrom (context : Context) (tokens : List Token) :
    Except Cause (Step Token (List Value) tokens.length) := do
  let first ← primary context tokens
  match h : first.rest with
  | ⟨.comma, _⟩ :: rest =>
    have := first.tail_lt h
    let others ← itemsFrom context rest
    return (others.map (first.value :: ·)).widen (by omega)
  | ⟨.rightBracket, _⟩ :: rest =>
    have := first.tail_lt h
    return ⟨[first.value], rest, by omega⟩
  | other => throw (.expected .commaOrBracket (found other))
termination_by (tokens.length, 1)

end

/-- The truth of an expression, which must be the whole of the tokens. -/
def evaluate (context : Context) (tokens : List Token) : Except Cause Bool :=
  if tokens = [] then .error .emptyExpression
  else do
    let step ← disjunction context tokens
    match step.rest with
    | [] => return step.value
    | token :: _ => throw (.unexpectedToken token.text)

def evaluateText (context : Context) (text : String) : Except Cause Bool := do
  evaluate context (← Token.list text)

end CondDoc.Expression
