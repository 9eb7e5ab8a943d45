import CondDoc.Step

namespace CondDoc.Number

/-- The digits at the start of a text; there may be none. -/
def digitRun (cs : List Char) : Step Char (List Char) (cs.length + 1) :=
  ⟨cs.takeWhile Char.isDigit, cs.dropWhile Char.isDigit,
    Nat.lt_succ_of_le (List.dropWhile_sublist _).length_le⟩

/-- The digits after a point, of which there must be one; else nothing is read. -/
def fraction : (cs : List Char) → Step Char (List Char) (cs.length + 1)
  | '.' :: c :: rest =>
    if c.isDigit then ((digitRun rest).map (c :: ·)).widen (by simp)
    else .skip [] ('.' :: c :: rest)
  | cs => .skip [] cs

/-- The value of a text of digits, of which there must be one. -/
def digitsValue? (cs : List Char) : Option Nat :=
  if cs ≠ [] ∧ cs.all Char.isDigit then some (Nat.ofDigitChars 10 cs 0) else none

/-- The value of digits with an optional sign. -/
def signedValue? : List Char → Option Int
  | '-' :: cs => (digitsValue? cs).map fun n => -n
  | '+' :: cs => (digitsValue? cs).map fun n => n
  | cs => (digitsValue? cs).map fun n => n

end CondDoc.Number
