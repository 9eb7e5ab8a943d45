import CondDoc.Expression
import CondDoc.Trace.Basic

namespace CondDoc

/-- Is the branch to be taken? A failure of its expression is located at the branch. -/
def Branch.holds (branch : Branch) (context : Expression.Context) : Except Failure Bool :=
  match branch.guard with
  | .otherwise => .ok true
  | .condition expression | .elseIf expression =>
    match Expression.evaluateText context expression with
    | .ok answer => .ok answer
    | .error cause =>
      .error <| if cause.failureClass.isExpression then ⟨cause, some branch.start, some expression⟩
        else ⟨cause, none, none⟩

/-- The first branch that holds, and the record of all. The branches after it are not evaluated. -/
def choose (context : Expression.Context) :
    List Branch → Except Failure (Option Branch × List BranchTrace)
  | [] => .ok (none, [])
  | branch :: others => do
    if ← branch.holds context then
      return (some branch, branch.trace true :: others.map (·.trace false))
    else
      let (chosen, traces) ← choose context others
      return (chosen, branch.trace false :: traces)

/-- A block together with the branch that was taken. -/
structure Decision where
  block : Block
  chosen : Option Branch
  trace : BlockTrace
  deriving DecidableEq

def Block.select (block : Block) (context : Expression.Context) : Except Failure Decision := do
  let (chosen, traces) ← choose context block.branches
  return ⟨block, chosen, ⟨block.start, block.stop, traces⟩⟩

/-- Of the lines of a block, only the body of the chosen branch is kept. -/
def Decision.keeps (decision : Decision) (line : Int) : Bool :=
  !decision.block.covers line || decision.chosen.any (·.covers line)

end CondDoc
