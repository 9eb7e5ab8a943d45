import CondDoc.Json.Basic
import CondDoc.Number.Decimal
import CondDoc.Number.Digits

namespace CondDoc.Json

inductive Symbol where
  | leftBrace | rightBrace | leftBracket | rightBracket | comma | colon
  | null
  | boolean (b : Bool)
  | integer (n : Int)
  | number (x : Number)
  | text (s : String)
  deriving DecidableEq

namespace Symbol

/-- White space between symbols: space, tab, line feed and carriage return, and nothing else. -/
def isSpace (c : Char) : Bool := c == ' ' || c == '\t' || c == '\n' || c == '\r'

def hexDigit? (c : Char) : Option Nat :=
  if c.isDigit then some (c.toNat - 48)
  else if 'a' ≤ c ∧ c ≤ 'f' then some (c.toNat - 87)
  else if 'A' ≤ c ∧ c ≤ 'F' then some (c.toNat - 55)
  else none

def hexValue? (cs : List Char) : Option Nat :=
  cs.foldlM (fun n c => (hexDigit? c).map (16 * n + ·)) 0

/-- The character that a one-letter escape stands for. -/
def escapedChar? (letter : Char) : Option Char :=
  if letter = '\x22' ∨ letter = '\\' ∨ letter = '/' then some letter
  else if letter = 'n' then some '\n'
  else if letter = 'r' then some '\r'
  else if letter = 't' then some '\t'
  else if letter = 'b' then some '\x08'
  else if letter = 'f' then some '\x0c'
  else none

/-- The code units up to the closing quote, and what follows it. Controls must be escaped. -/
def textUnits? : List Char → Option (List Nat × List Char)
  | [] => none
  | c :: rest =>
    if c = '\x22' then some ([], rest)
    else if c = '\\' then
      match rest with
      | 'u' :: d₁ :: d₂ :: d₃ :: d₄ :: more => do
        let unit ← hexValue? [d₁, d₂, d₃, d₄]
        let (units, after) ← textUnits? more
        some (unit :: units, after)
      | letter :: more => do
        let char ← escapedChar? letter
        let (units, after) ← textUnits? more
        some (char.toNat :: units, after)
      | [] => none
    else if c.toNat < 0x20 then none
    else do
      let (units, after) ← textUnits? rest
      some (c.toNat :: units, after)

theorem textUnits?_shorter {cs : List Char} {units : List Nat} {after : List Char}
    (h : textUnits? cs = some (units, after)) : after.length < cs.length := by
  fun_induction textUnits? cs generalizing units with
  | case1 => simp at h
  | case2 => simp at h; simp [h]
  | case3 =>
    rename_i ih
    simp only [Option.bind_eq_bind, Option.bind_eq_some_iff] at h
    obtain ⟨_, _, ⟨_, _⟩, hmore, h⟩ := h
    obtain ⟨rfl, rfl⟩ := Prod.mk.inj (Option.some.inj h)
    have := ih hmore
    simp only [List.length_cons] at this ⊢
    omega
  | case4 =>
    rename_i ih
    simp only [Option.bind_eq_bind, Option.bind_eq_some_iff] at h
    obtain ⟨_, _, ⟨_, _⟩, hmore, h⟩ := h
    obtain ⟨rfl, rfl⟩ := Prod.mk.inj (Option.some.inj h)
    have := ih hmore
    simp only [List.length_cons] at this ⊢
    omega
  | case5 => simp at h
  | case6 => simp at h
  | case7 =>
    rename_i ih
    simp only [Option.bind_eq_bind, Option.bind_eq_some_iff] at h
    obtain ⟨⟨_, _⟩, hrest, h⟩ := h
    obtain ⟨rfl, rfl⟩ := Prod.mk.inj (Option.some.inj h)
    have := ih hrest
    simp only [List.length_cons] at this ⊢
    omega

def isHighHalf (unit : Nat) : Bool := 0xD800 ≤ unit && unit < 0xDC00

def isLowHalf (unit : Nat) : Bool := 0xDC00 ≤ unit && unit < 0xE000

/-- A code unit by itself. Texts are sequences of Unicode scalar values, here as everywhere; half of a
surrogate pair is none, so the replacement character stands for one that has lost its other half. -/
def unitChar (unit : Nat) : Char :=
  if isHighHalf unit || isLowHalf unit then '\uFFFD' else Char.ofNat unit

/-- The characters of code units; two halves that meet make one character. -/
def unitChars : List Nat → List Char
  | [] => []
  | [unit] => [unitChar unit]
  | high :: low :: units =>
    if isHighHalf high && isLowHalf low then
      Char.ofNat (0x10000 + (high - 0xD800) * 0x400 + (low - 0xDC00)) :: unitChars units
    else unitChar high :: unitChars (low :: units)

def text? (cs : List Char) : Option (Step Char Symbol cs.length) :=
  match h : textUnits? cs with
  | some (units, after) =>
    some ⟨.text (String.ofList (unitChars units)), after, textUnits?_shorter h⟩
  | none => none

/-- The digits before the point: a single zero, or digits that do not begin with one. -/
def whole? : (cs : List Char) → Option (Step Char (List Char) cs.length)
  | [] => none
  | c :: rest =>
    if c = '0' then some (.one [c] rest)
    else if c.isDigit then
      some ((Number.digitRun rest).map (c :: ·))
    else none

/-- The digits of an exponent, of which there must be one. -/
def exponentDigits? (cs : List Char) : Option (Step Char Nat cs.length) :=
  match cs with
  | [] => none
  | c :: rest =>
    if c.isDigit then
      some ((Number.digitRun rest).map fun more => Nat.ofDigitChars 10 (c :: more) 0)
    else none

/-- The sign and digits of an exponent, after its mark. -/
def signedExponent? : (cs : List Char) → Option (Step Char Int cs.length)
  | '-' :: rest => do
    let step ← exponentDigits? rest
    return (step.map fun n : Nat => -(n : Int)).widen (by simp)
  | '+' :: rest => do
    let step ← exponentDigits? rest
    return (step.map Int.ofNat).widen (by simp)
  | cs => do
    let step ← exponentDigits? cs
    return step.map Int.ofNat

/-- An exponent, if one is written in full; else nothing is read. -/
def exponent (cs : List Char) : Step Char (Option Int) (cs.length + 1) :=
  match cs with
  | [] => .skip none []
  | c :: rest =>
    if c = 'e' ∨ c = 'E' then
      match signedExponent? rest with
      | some step => (step.map some).widen (by rw [List.length_cons]; omega)
      | none => .skip none (c :: rest)
    else .skip none (c :: rest)

/-- An integer without fraction and exponent, a binary64 number with one of them. -/
def numeral (negative : Bool) (whole fraction : List Char) (exponent : Option Int) : Symbol :=
  let digits := Nat.ofDigitChars 10 (whole ++ fraction) 0
  if fraction = [] ∧ exponent = none then
    .integer (if negative then -(digits : Int) else digits)
  else .number (Number.ofDecimal negative digits (exponent.getD 0 - fraction.length))

def unsigned? (negative : Bool) (cs : List Char) : Option (Step Char Symbol cs.length) := do
  let w ← whole? cs
  let f := Number.fraction w.rest
  let e := exponent f.rest
  return ⟨numeral negative w.value f.value e.value, e.rest, by
    have := w.shorter
    have := f.shorter
    have := e.shorter
    omega⟩

def number? : (cs : List Char) → Option (Step Char Symbol cs.length)
  | '-' :: rest => (unsigned? true rest).map fun step => step.widen (by simp)
  | cs => unsigned? false cs

/-- Marks and words, none of which begins another. -/
def fixed : List (List Char × Symbol) :=
  [(['\x7b'], .leftBrace), (['\x7d'], .rightBrace), (['['], .leftBracket), ([']'], .rightBracket),
    ([','], .comma), ([':'], .colon), (['n', 'u', 'l', 'l'], .null),
    (['t', 'r', 'u', 'e'], .boolean true), (['f', 'a', 'l', 's', 'e'], .boolean false),
    (['N', 'a', 'N'], .number .nan),
    (['I', 'n', 'f', 'i', 'n', 'i', 't', 'y'], .number (.infinite false)),
    (['-', 'I', 'n', 'f', 'i', 'n', 'i', 't', 'y'], .number (.infinite true))]

/-- The symbol that stands at the start of a text that is not empty. -/
def next? (c : Char) (rest : List Char) : Option (Step Char Symbol (rest.length + 1)) :=
  match fixed.find? fun entry => entry.1.isPrefixOf (c :: rest) with
  | some entry =>
    some ⟨entry.2, rest.drop (entry.1.length - 1), by rw [List.length_drop]; omega⟩
  | none =>
    if c = '\x22' then (text? rest).map fun step => step.widen (by simp)
    else number? (c :: rest)

/-- The symbols of a text, if it has nothing else but white space. -/
def list? (cs : List Char) : Option (List Symbol) :=
  match h : cs.dropWhile isSpace with
  | [] => some []
  | c :: rest => do
    let step ← next? c rest
    have := step.shorter
    have hle : (c :: rest).length ≤ cs.length := h ▸ (List.dropWhile_sublist _).length_le
    have : step.rest.length < cs.length := by simp at hle; omega
    let more ← list? step.rest
    return step.value :: more
termination_by cs.length

end Symbol

end CondDoc.Json
