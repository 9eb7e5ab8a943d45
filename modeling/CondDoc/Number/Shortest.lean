import CondDoc.Number.Decimal

namespace CondDoc

/-- The value `digits * 10 ^ exponent`. -/
structure Decimal where
  digits : Nat
  exponent : Int
  deriving DecidableEq

namespace Magnitude

/-- The power of ten above the value: the place of the point before its first digit. -/
def pointPlace (size : Magnitude) : Int :=
  if Number.one ≤ size.units then Number.digitCount (size.units / Number.one)
  else 1 - Number.digitCount ((Number.one - 1) / size.units)

/-- The value divided by a power of ten, as numerator and denominator. -/
def scaled (size : Magnitude) (exponent : Int) : Nat × Nat :=
  if 0 ≤ exponent then (size.units, Number.one * Number.tenPow exponent.toNat)
  else (size.units * Number.tenPow (-exponent).toNat, Number.one)

def readsBack (size : Magnitude) (d : Decimal) : Bool :=
  Number.ofDecimal false d.digits d.exponent = .finite false size

/-- The neighbour on the grid of `count` digits that reads back: the nearer one where both do, and
the even one where both are equally near. -/
def nearest? (size : Magnitude) (count : Nat) : Option Decimal :=
  let exponent := size.pointPlace - count
  let (num, den) := size.scaled exponent
  let below : Decimal := ⟨num / den, exponent⟩
  let above : Decimal := ⟨num / den + 1, exponent⟩
  match size.readsBack below, size.readsBack above with
  | true, true => some (if Number.roundQuotient num den = below.digits then below else above)
  | true, false => some below
  | false, true => some above
  | false, false => none

/-- All digits of the value: a unit is 5 ^ 1074 of the 1074th decimal place. -/
def exact (size : Magnitude) : Decimal := ⟨size.units * Nat.pow 5 1074, -1074⟩

/-- The fewest digits that read back. Seventeen are always enough. -/
def shortest (size : Magnitude) : Decimal :=
  ((List.range 17).findSome? fun i => size.nearest? (i + 1)).getD size.exact

end Magnitude

namespace Decimal

/-- The significant digits, without zeros at the end. -/
def significant (d : Decimal) : List Char :=
  ((Nat.toDigits 10 d.digits).reverse.dropWhile (· == '0')).reverse

/-- The power of ten above the value. -/
def pointPlace (d : Decimal) : Int := Number.digitCount d.digits + d.exponent

/-- Digits with a point among them and at least one digit on either side. -/
def positional (digits : List Char) (place : Int) : List Char :=
  if place ≤ 0 then '0' :: '.' :: List.replicate (-place).toNat '0' ++ digits
  else if digits.length ≤ place.toNat then
    digits ++ List.replicate (place.toNat - digits.length) '0' ++ ['.', '0']
  else digits.take place.toNat ++ '.' :: digits.drop place.toNat

/-- One digit before the point, and an exponent with its sign and at least two digits. -/
def scientific (digits : List Char) (place : Int) : List Char :=
  let power := place - 1
  let mantissa := match digits with
    | first :: second :: more => first :: '.' :: second :: more
    | short => short
  let places := Nat.toDigits 10 power.natAbs
  mantissa ++ 'e' :: (if power < 0 then '-' else '+') ::
    (if places.length < 2 then '0' :: places else places)

/-- Numbers from 10 ^ -4 up to 10 ^ 16 are written without an exponent. -/
def chars (d : Decimal) : List Char :=
  if -4 < d.pointPlace ∧ d.pointPlace ≤ 16 then positional d.significant d.pointPlace
  else scientific d.significant d.pointPlace

end Decimal

namespace Number

/-- The decimal digits of an integer after its sign. -/
def integerChars (n : Int) : List Char :=
  if n < 0 then '-' :: Nat.toDigits 10 n.natAbs else Nat.toDigits 10 n.natAbs

def integerText (n : Int) : String := String.ofList (integerChars n)

def sizeChars (size : Magnitude) : List Char :=
  if size.units = 0 then ['0', '.', '0'] else size.shortest.chars

def signChars (negative : Bool) : List Char := if negative then ['-'] else []

/-- A number with a point or an exponent. -/
def chars : Number → List Char
  | .nan => ['n', 'a', 'n']
  | .infinite negative => signChars negative ++ ['i', 'n', 'f']
  | .finite negative size => signChars negative ++ sizeChars size

def text (x : Number) : String := String.ofList x.chars

/-- A number with neither point nor exponent where it is an integer; no sign stands before zero. -/
def brief (x : Number) : String :=
  match x.toInt? with
  | some n => integerText n
  | none => x.text

end Number

end CondDoc
