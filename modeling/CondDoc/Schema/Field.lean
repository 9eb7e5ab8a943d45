import CondDoc.Schema.Numeral

namespace CondDoc.Schema

variable {α : Type}

def string : Json → Checked String
  | .text s => .ok s
  | _ => .fail .noString

/-- Null, or what is read without it. -/
def optional (read : Json → Checked α) : Json → Checked (Option α)
  | .null => .ok none
  | json => (read json).map some

def optionalString : Json → Checked (Option String) := optional string

/-- One of the values that have names. -/
def choice (named? : String → Option α) : Json → Checked α
  | .text s =>
    match named? s with
    | some value => .ok value
    | none => .fail .noSuchKind
  | _ => .fail .noSuchKind

/-- The integers from `-wordLimit` up to `wordLimit`, which is left out, fit into a word. -/
def wordLimit : Nat := Number.twoPow 63

/-- The integer that a number happens to be; it must lie between the limits of a word. -/
def integral (x : Number) : Checked Int :=
  match x, x.toInt? with
  | _, some n => if n.natAbs < wordLimit then .ok n else .fail .oversizedInteger
  | .finite _ _, none => .fail .fractionalInteger
  | _, none => .fail .infiniteInteger

/-- An integer; a number that happens to be one, a truth value and a text will do. -/
def integer : Json → Checked Int
  | .integer n => .ok n
  | .boolean b => .ok (if b then 1 else 0)
  | .number x => integral x
  | .text s => integerText s
  | _ => .fail .noInteger

/-- The texts that mean true, whatever the case of their letters. -/
def trueWords : List String := ["true", "t", "yes", "y", "on", "1"]

/-- The texts that mean false, whatever the case of their letters. -/
def falseWords : List String := ["false", "f", "no", "n", "off", "0"]

/-- The truth value that one or zero stands for. -/
def truth (n : Int) : Checked Bool :=
  if n = 1 then .ok true else if n = 0 then .ok false else .fail .unreadableBoolean

/-- A truth value; one and zero and some words will do. Any other integer is unreadable as one if
it fits into a word, and no truth value at all if it does not. -/
def boolean : Json → Checked Bool
  | .boolean b => .ok b
  | .integer n => if -wordLimit ≤ n ∧ n < wordLimit then truth n else .fail .noBoolean
  | .number x =>
    match integral x with
    | .ok n => truth n
    | .error _ => .fail .noBoolean
  | .text s =>
    let word := String.ofList (s.toList.map Char.toLower)
    if word ∈ trueWords then .ok true
    else if word ∈ falseWords then .ok false
    else .fail .unreadableBoolean
  | _ => .fail .noBoolean

/-- A number; an integer that has a nearest one, a truth value and a text will do. -/
def number : Json → Checked Number
  | .number x => .ok x
  | .integer n => (Number.ofInt? n).elim (.fail .noNumber) .ok
  | .boolean b => .ok (Number.ofDecimal false (if b then 1 else 0) 0)
  | .text s =>
    match numberText? s with
    | some x => .ok x
    | none => .fail .unreadableNumber
  | _ => .fail .noNumber

def listFrom (read : Json → Checked α) (index : Nat) : List Json → Checked (List α)
  | [] => .ok []
  | item :: items =>
    (((read item).under (.item index)).map List.cons).and (listFrom read (index + 1) items)

/-- A list, every item of which is read. -/
def list (read : Json → Checked α) : Json → Checked (List α)
  | .array items => listFrom read 0 items
  | _ => .fail .noList

/-- The entries of a record. -/
def record (read : List (String × Json) → Checked α) : Json → Checked α
  | .object entries => read entries
  | _ => .fail .noRecord

/-- A field under the first of its names that is there; faults are reported under the first. -/
def field (name : String) (otherNames : List String) (read : Json → Checked α)
    (ifMissing : Option α) (entries : List (String × Json)) : Checked α :=
  let found := (name :: otherNames).findSome? fun n => Ordered.find? (· == n) entries
  match found, ifMissing with
  | some json, _ => (read json).under (.field name)
  | none, some value => .ok value
  | none, none => Checked.under (.field name) (.fail .missing)

end CondDoc.Schema
