import CondDoc.Failure
import CondDoc.Number.Digits
import CondDoc.Text.Blank
import CondDoc.Text.Letter
import CondDoc.Text.Lower
import CondDoc.Text.Numeral
import CondDoc.Token.Basic

namespace CondDoc.Token

def isWordStart (c : Char) : Bool := Text.isLetter c || c == '_'

def isWordChar (c : Char) : Bool := Text.isLetter c || Text.isNumeral c || c == '_'

/-- The operator at the start of a text; one of two characters goes before one of one. -/
def operator? : (cs : List Char) → Option (Step Char Token cs.length)
  | '=' :: '=' :: rest => some (.two (operator .equals) rest)
  | '!' :: '=' :: rest => some (.two (operator .notEquals) rest)
  | '&' :: '&' :: rest => some (.two (operator .and) rest)
  | '|' :: '|' :: rest => some (.two (operator .or) rest)
  | '!' :: rest => some (.one (operator .not) rest)
  | '(' :: rest => some (.one (operator .leftParen) rest)
  | ')' :: rest => some (.one (operator .rightParen) rest)
  | ',' :: rest => some (.one (operator .comma) rest)
  | '[' :: rest => some (.one (operator .leftBracket) rest)
  | ']' :: rest => some (.one (operator .rightBracket) rest)
  | '.' :: rest => some (.one (operator .dot) rest)
  | _ => none

/-- A text up to the next quote of the same sort; nothing in it is escaped. -/
def quotedText? (quote : Char) (cs : List Char) : Option (Step Char Token cs.length) :=
  if h : quote ∈ cs then
    some ⟨⟨.string, String.ofList (cs.takeWhile (· != quote))⟩, (cs.dropWhile (· != quote)).tail, by
      have := (cs.dropWhile_sublist (· != quote)).length_le
      have := List.length_pos_of_mem h
      rw [List.length_tail]
      omega⟩
  else none

/-- A number after its first character: digits, and a fraction if one follows. -/
def numberAfter (first : Char) (cs : List Char) : Step Char Token (cs.length + 1) :=
  let whole := Number.digitRun cs
  let fraction := Number.fraction whole.rest
  let point := if fraction.value = [] then [] else '.' :: fraction.value
  ⟨⟨.number, String.ofList (first :: whole.value ++ point)⟩, fraction.rest, by
    have := whole.shorter
    have := fraction.shorter
    omega⟩

/-- A word is a boolean in any spelling by case, or a name. -/
def ofWord (word : String) : Token :=
  let lowered := Text.lower word
  if lowered = "true" ∨ lowered = "false" then ⟨.boolean, lowered⟩ else ⟨.identifier, word⟩

def wordAfter (first : Char) (cs : List Char) : Step Char Token (cs.length + 1) :=
  ⟨ofWord (String.ofList (first :: cs.takeWhile isWordChar)), cs.dropWhile isWordChar,
    Nat.lt_succ_of_le (List.dropWhile_sublist _).length_le⟩

/-- A digit begins a number, and so does a minus sign right before a digit. -/
def beginsNumber (c : Char) (rest : List Char) : Bool :=
  c.isDigit || (c == '-' && rest.head?.any Char.isDigit)

/-- The token that begins with a character that is not blank. -/
def next (column : Nat) (c : Char) (rest : List Char) :
    Except Cause (Step Char Token (rest.length + 1)) :=
  match operator? (c :: rest) with
  | some step => .ok step
  | none =>
    if c = '\x27' ∨ c = '\x22' then
      match quotedText? c rest with
      | some step => .ok (step.widen (by omega))
      | none => .error (.unterminatedString column)
    else if beginsNumber c rest then .ok (numberAfter c rest)
    else if isWordStart c then .ok (wordAfter c rest)
    else .error (.unexpectedCharacter c column)

/-- The tokens of a text that begins at a column; columns count characters from one. -/
def listFrom (column : Nat) (cs : List Char) : Except Cause (List Token) :=
  match cs with
  | [] => .ok []
  | c :: rest =>
    if Text.isBlank c then listFrom (column + 1) rest
    else do
      let step ← next column c rest
      have := step.shorter
      let others ← listFrom (column + (rest.length + 1 - step.rest.length)) step.rest
      return step.value :: others
termination_by cs.length

/-- The tokens of a text. -/
def list (text : String) : Except Cause (List Token) := listFrom 1 text.toList

end CondDoc.Token
