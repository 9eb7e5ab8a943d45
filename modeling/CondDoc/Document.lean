import CondDoc.Block.Scan
import CondDoc.Block.Selection
import CondDoc.Error

namespace CondDoc

/-- A rendered text with the record of how it came about. -/
structure Rendering where
  text : String
  trace : Trace
  deriving DecidableEq

/-- The lines that every decision keeps, where the first one has the given number. -/
def keptLines (decisions : List Decision) : (number : Nat) → List String → List String
  | _, [] => []
  | number, line :: lines =>
    if decisions.all (·.keeps number) then line :: keptLines decisions (number + 1) lines
    else keptLines decisions (number + 1) lines

/-- Decides blocks one after the other; the first that fails makes the whole fail. -/
def decideAll (context : Expression.Context) : List Block → Except Failure (List Decision)
  | [] => .ok []
  | block :: others => do
    let decision ← block.select context
    let decisions ← decideAll context others
    return decision :: decisions

/-- Removes from a text what the given blocks do not keep. -/
def prune (context : Expression.Context) (text : String) (blocks : List Block) :
    Except Failure Rendering := do
  let decisions ← decideAll context blocks
  return ⟨Text.unlines (keptLines decisions 1 (Text.lines text)), ⟨decisions.map (·.trace)⟩⟩

/-- Renders a text with arguments that can be looked up. -/
def renderIn (context : Expression.Context) (text : String) : Except Failure Rendering := do
  prune context text (← blocks context.options text)

/-- Renders a text. An empty text needs no arguments, so unusable ones do no harm to it. -/
def render (text : String) (arguments : Arguments) (options : Options) :
    Except Error Rendering :=
  if text = "" then .ok ⟨"", ⟨[]⟩⟩
  else
    match Resolver.ofArguments arguments with
    | .error error => .error (.data error)
    | .ok resolver => (renderIn ⟨resolver, options⟩ text).mapError .template

end CondDoc
