import CondDoc.Text.Blank
import CondDoc.Text.Pieces

namespace CondDoc

/-- A directive stands alone on its line in double braces; blanks may surround it and its words. -/
inductive Directive where
  /-- Opens a block; the expression is empty when only blanks are written. -/
  | ifStart (expression : String)
  | elseIf (expression : String)
  | otherwise
  | close
  deriving DecidableEq

namespace Directive

/-- Does a character spell a lower case letter of ASCII, whatever its case? Beyond ASCII, the two
Turkish letters spell an `i` and the long s spells an `s`. -/
def spells (letter c : Char) : Bool :=
  c.toLower == letter || (letter == 'i' && (c == 'İ' || c == 'ı')) || (letter == 's' && c == 'ſ')

/-- The text after a keyword, if the text begins with it. -/
def after? : (keyword : List Char) → List Char → Option (List Char)
  | [], cs => some cs
  | letter :: letters, c :: cs => if spells letter c then after? letters cs else none
  | _ :: _, [] => none

/-- The text after the opening braces and the blanks around them. -/
def opened? (line : List Char) : Option (List Char) :=
  match Text.trimLeft line with
  | '\x7b' :: '\x7b' :: rest => some (Text.trimLeft rest)
  | _ => none

/-- The texts before and after the first pair of closing braces. -/
def beforeClosing? : List Char → Option (List Char × List Char)
  | '\x7d' :: '\x7d' :: rest => some ([], rest)
  | c :: cs => (beforeClosing? cs).map fun parts => (c :: parts.1, parts.2)
  | [] => none

/-- The expression after the word `if`. A blank parts it from the word, and it has a character of
its own, though that may be blank too; nothing but blanks follows the closing braces. -/
def condition? (cs : List Char) : Option String :=
  match beforeClosing? cs with
  | some (first :: second :: more, rest) =>
    if Text.isBlank first && rest.all Text.isBlank then
      some (String.ofList (Text.trim (first :: second :: more)))
    else none
  | _ => none

/-- Closing braces with nothing but blanks around them. -/
def endsHere (cs : List Char) : Bool :=
  match Text.trimLeft cs with
  | '\x7d' :: '\x7d' :: rest => rest.all Text.isBlank
  | _ => false

/-- What follows the word `else`: the end, or the word `if` behind a blank, and an expression. -/
def afterElse? (cs : List Char) : Option Directive :=
  if endsHere cs then some .otherwise
  else if cs.head?.any Text.isBlank then
    (after? ['i', 'f'] (Text.trimLeft cs)).bind fun rest => (condition? rest).map .elseIf
  else none

/-- The directive that a line is, if it is one. -/
def ofChars? (line : List Char) : Option Directive := do
  let body ← opened? line
  match after? ['#', 'i', 'f'] body with
  | some rest => (condition? rest).map .ifStart
  | none =>
    match after? ['/', 'i', 'f'] body with
    | some rest => if endsHere rest then some .close else none
    | none => (after? ['e', 'l', 's', 'e'] body).bind afterElse?

def ofLine? (line : String) : Option Directive := ofChars? line.toList

end Directive

/-- Three backquotes or tildes, after any blanks, begin and end fenced code. -/
def isFence (line : String) : Bool :=
  let cs := Text.trimLeft line.toList
  ['\x60', '\x60', '\x60'].isPrefixOf cs || ['~', '~', '~'].isPrefixOf cs

/-- The directives of lines, of which the fenced ones are plain. -/
def unfenced (inFence : Bool) : List String → List (Option Directive)
  | [] => []
  | line :: lines =>
    if isFence line then none :: unfenced (!inFence) lines
    else (if inFence then none else Directive.ofLine? line) :: unfenced inFence lines

/-- The directive on each line of a document, or none. -/
def directives (parseFences : Bool) (lines : List String) : List (Option Directive) :=
  if parseFences then lines.map Directive.ofLine? else unfenced false lines

end CondDoc
