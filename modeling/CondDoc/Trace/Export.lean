import CondDoc.Schema.Trace

namespace CondDoc

/-- A branch on a line of its own, with a cross when it was taken. -/
def BranchTrace.summary (branch : BranchTrace) : String :=
  "  [" ++ (if branch.taken then "x" else " ") ++ "] " ++ branch.kind.name ++
    (match branch.expression with
      | some expression => " " ++ expression
      | none => "")

def BlockTrace.summary (block : BlockTrace) : List String :=
  ("lines " ++ Number.integerText block.start ++ "-" ++ Number.integerText block.stop) ::
    block.branches.map BranchTrace.summary

namespace Trace

/-- The JSON text of a trace, with an indent or on one line. -/
def jsonText (indent : Option Nat) (trace : Trace)
    (library : Schema.Library := .described) : String :=
  library.dump Trace.shape indent trace

/-- One line for each block and each branch. -/
def summary (trace : Trace) : String :=
  if trace.blocks = [] then "no conditional blocks"
  else Text.unlines (trace.blocks.flatMap BlockTrace.summary)

/-- The branch that was taken in each block. -/
def taken (trace : Trace) : List (Option BranchTrace) := trace.blocks.map BlockTrace.taken?

end Trace

end CondDoc
