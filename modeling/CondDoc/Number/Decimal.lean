import CondDoc.Number.Basic
import CondDoc.Number.Digits
import CondDoc.Text.Blank
import CondDoc.Text.Numeral

namespace CondDoc

def Magnitude.zero : Magnitude := ⟨0, by decide +kernel, 0, 0, by decide, by decide⟩

namespace Number

/-- The number of decimal digits of an integer; zero has one. -/
def digitCount (n : Nat) : Nat := (Nat.toDigits 10 n).length

/-- The number nearest to `digits * 10 ^ exponent`. What has more than 310 places before the point
is infinite and what has 330 zeros behind it is zero, whatever the digits. -/
def ofDecimal (negative : Bool) (digits : Nat) (exponent : Int) : Number :=
  let places := digitCount digits + exponent
  if digits = 0 ∨ places < -330 then .finite negative .zero
  else if 310 < places then .infinite negative
  else if 0 ≤ exponent then ofUnits negative (digits * tenPow exponent.toNat * one) 1
  else ofUnits negative (digits * one) (tenPow (-exponent).toNat)

/-- White space of ASCII, which may surround a number. -/
def isSpace (c : Char) : Bool := c == ' ' || ('\t' ≤ c && c ≤ '\r')

/-- The text in ASCII. A text with other characters may have digits of any script and any blanks. -/
def plain? (cs : List Char) : Option (List Char) :=
  if cs.all (·.toNat < 128) then some cs
  else cs.mapM fun c =>
    if c.toNat < 127 then some c
    else if Text.isBlank c then some ' '
    else (Text.decimalDigit? c).map Nat.digitChar

/-- The text without underscores, each of which must stand between two digits. -/
def withoutUnderscores? (afterDigit : Bool) : List Char → Option (List Char)
  | [] => some []
  | c :: cs =>
    if c = '_' then
      if afterDigit && cs.head?.any Char.isDigit then withoutUnderscores? false cs else none
    else (withoutUnderscores? c.isDigit cs).map (c :: ·)

/-- The exponent part of a number; none written is zero. -/
def exponentPart? : List Char → Option Int
  | [] => some 0
  | c :: cs => if c = 'e' ∨ c = 'E' then signedValue? cs else none

/-- The fraction part, which a point introduces, and what follows it. -/
def fractionPart : List Char → List Char × List Char
  | '.' :: cs => (cs.takeWhile Char.isDigit, cs.dropWhile Char.isDigit)
  | cs => ([], cs)

/-- Digits, a fraction and an exponent, or the name of a number that is not finite. -/
def unsigned? (negative : Bool) (cs : List Char) : Option Number :=
  let word := cs.map Char.toLower
  if word = ['i', 'n', 'f'] ∨ word = ['i', 'n', 'f', 'i', 'n', 'i', 't', 'y'] then
    some (.infinite negative)
  else if word = ['n', 'a', 'n'] then some .nan
  else
    let whole := cs.takeWhile Char.isDigit
    let (fraction, after) := fractionPart (cs.dropWhile Char.isDigit)
    if whole = [] ∧ fraction = [] then none
    else (exponentPart? after).map fun exponent =>
      ofDecimal negative (Nat.ofDigitChars 10 (whole ++ fraction) 0) (exponent - fraction.length)

def signed? : List Char → Option Number
  | '-' :: cs => unsigned? true cs
  | '+' :: cs => unsigned? false cs
  | cs => unsigned? false cs

/-- The number that a text denotes, if it denotes one. -/
def ofChars? (cs : List Char) : Option Number := do
  let ascii ← plain? cs
  signed? (← withoutUnderscores? false (Text.trimWhere isSpace ascii))

def ofText? (text : String) : Option Number := ofChars? text.toList

end Number

end CondDoc
