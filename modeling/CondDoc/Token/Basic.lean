import CondDoc.Text.Quoted
import CondDoc.Value.Datum

namespace CondDoc

inductive TokenKind where
  | identifier | string | number | boolean
  | equals | notEquals | and | or | not
  | leftParen | rightParen | comma | leftBracket | rightBracket | dot
  deriving DecidableEq

namespace TokenKind

/-- The name of a kind of token; an operator is its own name. -/
def name : TokenKind → String
  | .identifier => "identifier"
  | .string => "string"
  | .number => "number"
  | .boolean => "boolean"
  | .equals => "=="
  | .notEquals => "!="
  | .and => "&&"
  | .or => "||"
  | .not => "!"
  | .leftParen => "("
  | .rightParen => ")"
  | .comma => ","
  | .leftBracket => "["
  | .rightBracket => "]"
  | .dot => "."

def all : List TokenKind :=
  [.identifier, .string, .number, .boolean, .equals, .notEquals, .and, .or, .not, .leftParen,
    .rightParen, .comma, .leftBracket, .rightBracket, .dot]

def named? (text : String) : Option TokenKind := all.find? fun kind => kind.name == text

end TokenKind

structure Token where
  kind : TokenKind
  text : String
  deriving DecidableEq

namespace Token

/-- An operator; its text is its own name. -/
def operator (kind : TokenKind) : Token := ⟨kind, kind.name⟩

/-- Tokens from the names of their kinds and their texts. -/
def ofNames : List (String × String) → Except DataError (List Token)
  | [] => .ok []
  | (name, text) :: pairs => do
    let some kind := TokenKind.named? name | throw (.unknownTokenKind name)
    let others ← ofNames pairs
    return ⟨kind, text⟩ :: others

end Token

end CondDoc
