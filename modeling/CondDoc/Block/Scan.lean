import CondDoc.Block.Basic
import CondDoc.Directive
import CondDoc.Failure
import CondDoc.Options

namespace CondDoc

/-- A block that is not closed yet: its finished branches, and the guard and the line of the branch
that is being read. -/
structure OpenBlock where
  start : Nat
  finished : List Branch
  guard : Guard
  branchStart : Nat
  deriving DecidableEq

namespace OpenBlock

def opening (line : Nat) (expression : String) : OpenBlock :=
  ⟨line, [], .condition expression, line⟩

/-- The branches, when the last one ends before a line. -/
def branchesBefore (block : OpenBlock) (line : Nat) : List Branch :=
  block.finished ++ [⟨block.guard, block.branchStart, (line : Int) - 1⟩]

/-- Goes on with another branch, which nothing may do after an `else`. -/
def extend (block : OpenBlock) (tag : Tag) (guard : Guard) (line : Nat) :
    Except Failure OpenBlock :=
  if block.guard = .otherwise then .error ⟨.afterElse tag block.start, some line, none⟩
  else .ok ⟨block.start, block.branchesBefore line, guard, line⟩

def close (block : OpenBlock) (line : Nat) : Block :=
  ⟨block.start, line, block.branchesBefore line⟩

end OpenBlock

/-- How far a scan has come: the number of lines read, the open blocks, innermost first, and the
blocks found so far. -/
structure Scan where
  line : Nat
  opened : List OpenBlock
  found : List Block
  deriving DecidableEq

namespace Scan

def start : Scan := ⟨0, [], []⟩

/-- Reads one line. -/
def step (maxNesting : Nat) (scan : Scan) (directive : Option Directive) : Except Failure Scan :=
  let line := scan.line + 1
  match directive, scan.opened with
  | none, opened => .ok ⟨line, opened, scan.found⟩
  | some (.ifStart expression), opened =>
    if maxNesting ≤ opened.length then .error ⟨.nestingTooDeep maxNesting, some line, none⟩
    else if expression = "" then .error ⟨.emptyExpression, some line, some ""⟩
    else .ok ⟨line, .opening line expression :: opened, scan.found⟩
  | some (.elseIf _), [] => .error ⟨.unmatched .elseIf, some line, none⟩
  | some (.elseIf expression), block :: outer =>
    if expression = "" then .error ⟨.emptyExpression, some line, some ""⟩
    else do
      let block ← block.extend .elseIf (.elseIf expression) line
      return ⟨line, block :: outer, scan.found⟩
  | some .otherwise, [] => .error ⟨.unmatched .otherwise, some line, none⟩
  | some .otherwise, block :: outer => do
    let block ← block.extend .otherwise .otherwise line
    return ⟨line, block :: outer, scan.found⟩
  | some .close, [] => .error ⟨.unmatched .close, some line, none⟩
  | some .close, block :: outer => .ok ⟨line, outer, scan.found ++ [block.close line]⟩

/-- Reads lines one after the other. -/
def run (maxNesting : Nat) (scan : Scan) (lines : List (Option Directive)) : Except Failure Scan :=
  lines.foldlM (step maxNesting) scan

/-- The blocks found, if none is left open. -/
def finish (scan : Scan) : Except Failure (List Block) :=
  match scan.opened with
  | [] => .ok scan.found
  | block :: _ => .error ⟨.unclosed, some block.start, none⟩

end Scan

/-- The blocks of a document, in the order in which they are closed. -/
def blocks (options : Options) (text : String) : Except Failure (List Block) := do
  let scan ← Scan.run options.maxNesting .start (directives options.parseFences (Text.lines text))
  scan.finish

end CondDoc
