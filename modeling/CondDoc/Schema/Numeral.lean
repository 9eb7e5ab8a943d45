import CondDoc.Number.Decimal
import CondDoc.Schema.Fault
import CondDoc.Text.Blank
import CondDoc.Text.Occurs

namespace CondDoc.Schema

/-- The most digits that an integer may have. -/
def maxDigits : Nat := 4300

/-- A natural number without needless zeros. Too many digits are at fault whatever follows them. -/
def natural : List Char → Checked Nat
  | ['0'] => .ok 0
  | '0' :: _ => .fail .unreadableInteger
  | cs =>
    if maxDigits < (cs.takeWhile Char.isDigit).length then .fail .oversizedInteger
    else
      match Number.digitsValue? cs with
      | some n => .ok n
      | none => .fail .unreadableInteger

def canonicalInteger : List Char → Checked Int
  | '-' :: cs => (natural cs).map fun n => -n
  | cs => (natural cs).map fun n => n

/-- A text without the plus before its first digit. -/
def withoutPlus : List Char → List Char
  | '+' :: c :: cs => if c.isDigit then c :: cs else '+' :: c :: cs
  | cs => cs

/-- A text without the zeros, and underscores among them, before its first other digit. Where no
such digit follows, the last of them stays. -/
def withoutLeadingZeros (cs : List Char) : List Char :=
  if cs.head? = some '0' then
    let (zeros, rest) := cs.span fun c => c == '0' || c == '_'
    if rest.head?.any Char.isDigit then rest else zeros.getLast?.toList ++ rest
  else cs

/-- A text without its point and the zeros after it, of which there must be one. -/
def withoutFraction (cs : List Char) : List Char :=
  match cs.dropWhile (· ≠ '.') with
  | '.' :: '0' :: zeros => if zeros.all (· = '0') then cs.takeWhile (· ≠ '.') else cs
  | _ => cs

/-- A text without its underscores, none of which may stand at an end or beside another. -/
def ungrouped? (cs : List Char) : Option (List Char) :=
  if cs.head? = some '_' ∨ cs.getLast? = some '_' ∨ Text.occursIn ['_', '_'] cs then none
  else some (cs.filter (· ≠ '_'))

/-- The integer that a text denotes. White space may surround it. -/
def integerText (text : String) : Checked Int :=
  let cs := withoutPlus (Text.trimWhere Text.isWhite text.toList)
  let whole := withoutFraction (withoutLeadingZeros cs)
  canonicalInteger ((ungrouped? whole).getD whole)

/-- The number that a text denotes. Either white space surrounds it or underscores group it. -/
def numberText? (text : String) : Option Number :=
  (Number.signed? (Text.trimWhere Text.isWhite text.toList)).or
    ((ungrouped? text.toList).bind Number.signed?)

end CondDoc.Schema
