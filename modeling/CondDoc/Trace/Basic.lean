import CondDoc.Block.Basic

namespace CondDoc

structure BranchTrace where
  kind : BranchKind
  expression : Option String := none
  taken : Bool := false
  deriving DecidableEq

structure BlockTrace where
  start : Int
  stop : Int
  branches : List BranchTrace := []
  deriving DecidableEq

/-- The first branch that was taken. -/
def BlockTrace.taken? (block : BlockTrace) : Option BranchTrace := block.branches.find? (·.taken)

/-- The blocks of a document in the order in which they were decided. -/
structure Trace where
  blocks : List BlockTrace := []
  deriving DecidableEq

def Branch.trace (branch : Branch) (taken : Bool) : BranchTrace :=
  ⟨branch.guard.kind, branch.guard.expression?, taken⟩

end CondDoc
