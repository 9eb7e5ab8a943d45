import CondDoc.Json.Basic
import CondDoc.Number.Shortest
import CondDoc.Text.Quoted

namespace CondDoc.Json

/-- How JSON is laid out. -/
structure Layout where
  /-- Escape every character that is not a printable one of ASCII. -/
  ascii : Bool
  /-- Spaces of indent for each level; without one, all stands on one line and without spaces. -/
  indent : Option Nat
  deriving DecidableEq

/-- The letter of a two-character escape. -/
def shortEscape? (c : Char) : Option Char :=
  if c = '\x22' ∨ c = '\\' then some c
  else if c = '\n' then some 'n'
  else if c = '\r' then some 'r'
  else if c = '\t' then some 't'
  else if c = '\x08' then some 'b'
  else if c = '\x0c' then some 'f'
  else none

/-- A character by its code, beyond U+FFFF by the two halves of a surrogate pair. -/
def codeEscape (c : Char) : List Char :=
  if c.toNat < 0x10000 then '\\' :: 'u' :: Text.hex 4 c.toNat
  else
    let offset := c.toNat - 0x10000
    '\\' :: 'u' :: Text.hex 4 (0xD800 + offset / 0x400) ++
      '\\' :: 'u' :: Text.hex 4 (0xDC00 + offset % 0x400)

/-- Controls below U+0020 are always escaped. -/
def encodeChar (ascii : Bool) (c : Char) : List Char :=
  match shortEscape? c with
  | some letter => ['\\', letter]
  | none =>
    if c.toNat < 0x20 || (ascii && 0x7E < c.toNat) then codeEscape c else [c]

def encodeText (ascii : Bool) (s : String) : List Char :=
  '\x22' :: s.toList.flatMap (encodeChar ascii) ++ ['\x22']

/-- JSON has no numbers that are not finite; these names stand for them. -/
def encodeNumber : Number → List Char
  | .nan => ['N', 'a', 'N']
  | .infinite negative =>
    Number.signChars negative ++ ['I', 'n', 'f', 'i', 'n', 'i', 't', 'y']
  | x => x.chars

/-- The start of a line at a level. -/
def Layout.line (layout : Layout) (level : Nat) : List Char :=
  match layout.indent with
  | none => []
  | some width => '\n' :: List.replicate (width * level) ' '

def Layout.colon (layout : Layout) : List Char :=
  if layout.indent.isSome then [':', ' '] else [':']

mutual

/-- A value whose first line stands at the given level. -/
def encode (layout : Layout) (level : Nat) : Json → List Char
  | .null => ['n', 'u', 'l', 'l']
  | .boolean true => ['t', 'r', 'u', 'e']
  | .boolean false => ['f', 'a', 'l', 's', 'e']
  | .integer n => Number.integerChars n
  | .number x => encodeNumber x
  | .text s => encodeText layout.ascii s
  | .array [] => ['[', ']']
  | .array (item :: items) =>
    '[' :: layout.line (level + 1) ++ encode layout (level + 1) item ++
      encodeItems layout (level + 1) items ++ layout.line level ++ [']']
  | .object [] => ['\x7b', '\x7d']
  | .object ((name, value) :: entries) =>
    '\x7b' :: layout.line (level + 1) ++ encodeText layout.ascii name ++ layout.colon ++
      encode layout (level + 1) value ++ encodeEntries layout (level + 1) entries ++
      layout.line level ++ ['\x7d']

/-- The items after the first one. -/
def encodeItems (layout : Layout) (level : Nat) : List Json → List Char
  | [] => []
  | item :: items =>
    ',' :: layout.line level ++ encode layout level item ++ encodeItems layout level items

/-- The entries after the first one. -/
def encodeEntries (layout : Layout) (level : Nat) : List (String × Json) → List Char
  | [] => []
  | (name, value) :: entries =>
    ',' :: layout.line level ++ encodeText layout.ascii name ++ layout.colon ++
      encode layout level value ++ encodeEntries layout level entries

end

def render (layout : Layout) (json : Json) : String := String.ofList (encode layout 0 json)

end CondDoc.Json
