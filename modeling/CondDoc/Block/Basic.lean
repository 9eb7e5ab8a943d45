namespace CondDoc

inductive BranchKind where
  | condition | elseIf | otherwise
  deriving DecidableEq

def BranchKind.name : BranchKind → String
  | .condition => "if"
  | .elseIf => "else-if"
  | .otherwise => "else"

def BranchKind.all : List BranchKind := [.condition, .elseIf, .otherwise]

def BranchKind.named? (text : String) : Option BranchKind := all.find? fun kind => kind.name == text

/-- What decides whether a branch is taken. -/
inductive Guard where
  | condition (expression : String)
  | elseIf (expression : String)
  | otherwise
  deriving DecidableEq

namespace Guard

def kind : Guard → BranchKind
  | .condition _ => .condition
  | .elseIf _ => .elseIf
  | .otherwise => .otherwise

def expression? : Guard → Option String
  | .condition expression | .elseIf expression => some expression
  | .otherwise => none

/-- A guard that is not `else` has an expression, and an `else` has none. -/
inductive Fault where
  | needless
  | missing (kind : BranchKind)
  deriving DecidableEq

def Fault.message : Fault → String
  | .needless => "else branches carry no expression"
  | .missing kind => kind.name ++ " branch requires an expression"

/-- The guard of a kind with an expression, of which only an `else` may and must do without. -/
def make (kind : BranchKind) (expression : Option String) : Except Fault Guard :=
  match kind, expression with
  | .otherwise, none => .ok .otherwise
  | .otherwise, some _ => .error .needless
  | kind, none => .error (.missing kind)
  | .condition, some text =>
    if text = "" then .error (.missing .condition) else .ok (.condition text)
  | .elseIf, some text => if text = "" then .error (.missing .elseIf) else .ok (.elseIf text)

end Guard

/-- One arm of a block. Its directive is on line `start`, and its body runs from the next line
through line `stop`; an empty body stops where it starts. Lines are counted from one. -/
structure Branch where
  guard : Guard
  start : Int
  stop : Int
  deriving DecidableEq

/-- A block from the line that opens it to the line that closes it. -/
structure Block where
  start : Int
  stop : Int
  branches : List Branch
  deriving DecidableEq

namespace Block

inductive Fault where
  | opening
  | misplacedElse
  deriving DecidableEq

def Fault.message : Fault → String
  | .opening => "a block must open with an if branch"
  | .misplacedElse => "else must be the last branch of a block"

/-- What is wrong with a list of branches: the first must be an `if` and only the last an `else`. -/
def fault? (branches : List Branch) : Option Fault :=
  if (branches.head?.map fun branch => branch.guard.kind) ≠ some .condition then some .opening
  else if branches.dropLast.any fun branch => branch.guard.kind = .otherwise then
    some .misplacedElse
  else none

end Block

/-- Is the line one of those from `start` through `stop`? -/
def Block.covers (block : Block) (line : Int) : Bool := block.start ≤ line && line ≤ block.stop

/-- Is the line one of the body? -/
def Branch.covers (branch : Branch) (line : Int) : Bool := branch.start < line && line ≤ branch.stop

end CondDoc
