import CondDoc.Number.Shortest
import CondDoc.Text.Quoted
import CondDoc.Value.Basic

namespace CondDoc

/-- The classes of failure. A strict mode failure is also an expression failure. -/
inductive FailureClass where
  | conditional | directive | expression | strictMode
  /-- Text that should be a number and is not; no directive is to blame. -/
  | number
  deriving DecidableEq

/-- Does a failure of this class lie in the expression that is evaluated? -/
def FailureClass.isExpression : FailureClass → Bool
  | .expression | .strictMode => true
  | .conditional | .directive | .number => false

/-- The directives that belong to a block that is already open. -/
inductive Tag where
  | elseIf | otherwise | close
  deriving DecidableEq

def Tag.text : Tag → String
  | .elseIf => "\x7b\x7belse if\x7d\x7d"
  | .otherwise => "\x7b\x7belse\x7d\x7d"
  | .close => "\x7b\x7b/if\x7d\x7d"

/-- What the grammar asks for at a place where it leaves no choice. -/
inductive Expectation where
  | closingParen | name | commaOrParen | commaOrBracket
  deriving DecidableEq

def Expectation.text : Expectation → String
  | .closingParen => "')'"
  | .name => "name after '.'"
  | .commaOrParen => "',' or ')' in argument list"
  | .commaOrBracket => "',' or ']' in array literal"

inductive Cause where
  | unmatched (tag : Tag)
  | afterElse (tag : Tag) (blockStart : Nat)
  | nestingTooDeep (limit : Nat)
  | unclosed
  | emptyExpression
  | unexpectedCharacter (c : Char) (column : Nat)
  | unterminatedString (column : Nat)
  | unexpectedToken (text : String)
  | expected (what : Expectation) (found : Option String)
  | endOfExpression
  | arrayOutsideCall
  | unknownFunction (name : String)
  | wrongArity (function : String) (arity given : Nat)
  | membershipOfNoArray
  | unknownVariable (path : String)
  | kindMismatch (left right : ValueKind)
  | unreadableNumber (text : String)
  /-- A failure in the caller's own words. -/
  | stated (class_ : FailureClass) (text : String)
  deriving DecidableEq

namespace Cause

def failureClass : Cause → FailureClass
  | .unmatched _ | .afterElse _ _ | .nestingTooDeep _ | .unclosed => .directive
  | .emptyExpression | .unexpectedCharacter _ _ | .unterminatedString _ | .unexpectedToken _
  | .expected _ _ | .endOfExpression | .arrayOutsideCall | .unknownFunction _ | .wrongArity _ _ _
  | .membershipOfNoArray => .expression
  | .unknownVariable _ | .kindMismatch _ _ => .strictMode
  | .unreadableNumber _ => .number
  | .stated class_ _ => class_

/-- What went wrong, without the place. -/
def detail : Cause → String
  | .unmatched tag => tag.text ++ " without matching \x7b\x7b#if\x7d\x7d"
  | .afterElse tag blockStart =>
    tag.text ++ " after \x7b\x7belse\x7d\x7d in block starting at line " ++
      Number.integerText blockStart
  | .nestingTooDeep limit =>
    "Maximum nesting depth exceeded (" ++ Number.integerText limit ++ ")"
  | .unclosed => "Unclosed \x7b\x7b#if\x7d\x7d block"
  | .emptyExpression => "Empty expression"
  | .unexpectedCharacter c column =>
    "Unexpected character " ++ Text.quoted (String.ofList [c]) ++ " at column " ++
      Number.integerText column
  | .unterminatedString column =>
    "Unterminated string literal starting at column " ++ Number.integerText column
  | .unexpectedToken text => "Unexpected token " ++ Text.quoted text
  | .expected what found =>
    "Expected " ++ what.text ++ ", got " ++ (found.map Text.quoted).getD "end of expression"
  | .endOfExpression => "Unexpected end of expression"
  | .arrayOutsideCall => "Array literals are only allowed as function arguments"
  | .unknownFunction name => "Unknown function: " ++ name
  | .wrongArity function arity given =>
    function ++ "() requires " ++ Number.integerText arity ++
      (if arity = 1 then " argument" else " arguments") ++ ", got " ++ Number.integerText given
  | .membershipOfNoArray => "Second argument to in() must be an array"
  | .unknownVariable path => "Unknown variable: " ++ path
  | .kindMismatch left right =>
    "Type mismatch in comparison: " ++ left.name ++ " vs " ++ right.name
  | .unreadableNumber text => "could not convert string to float: " ++ Text.quoted text
  | .stated _ text => text

end Cause

/-- A cause with the line and the expression where it lies, as far as they are known. -/
structure Failure where
  cause : Cause
  line : Option Int := none
  expression : Option String := none
  deriving DecidableEq

namespace Failure

/-- The same failure at another place; what was known of its place before is dropped. -/
def locate (failure : Failure) (line : Int) (expression : Option String) : Failure :=
  ⟨failure.cause, some line, expression⟩

def failureClass (failure : Failure) : FailureClass := failure.cause.failureClass

/-- The place in parentheses, after a blank. -/
def place (failure : Failure) : String :=
  match failure.line, failure.expression with
  | some line, some expression =>
    " (line " ++ Number.integerText line ++ ": " ++ expression ++ ")"
  | some line, none => " (line " ++ Number.integerText line ++ ")"
  | none, some expression => " (in " ++ Text.quoted expression ++ ")"
  | none, none => ""

def message (failure : Failure) : String := failure.cause.detail ++ failure.place

end Failure

end CondDoc
