import CondDoc.Proofs.Document.Marks

namespace CondDoc

/-- Directives that go on with a block or close it. -/
def Directive.continues : Directive → Bool
  | .ifStart _ => false
  | .elseIf _ | .otherwise | .close => true

/-- Does a condition hold? One that fails does not. -/
def Expression.Context.accepts (context : Expression.Context) (condition : String) : Bool :=
  match Expression.evaluateText context condition with
  | .ok answer => answer
  | .error _ => false

mutual

/-- Lines and blocks, one after the other. -/
inductive Tree where
  | empty
  | line (text : String) (rest : Tree)
  | block (opening condition : String) (body : Tree) (tail : Tail) (rest : Tree)

/-- A block from the end of its first body on; so an `else` can only come last. -/
inductive Tail where
  | close (closing : String)
  | elseIf (line condition : String) (body : Tree) (tail : Tail)
  | otherwise (line : String) (body : Tree) (closing : String)

end

mutual

/-- The lines that a tree is written in. -/
def Tree.marks : Tree → List Mark
  | .empty => []
  | .line text rest => ⟨text, none⟩ :: rest.marks
  | .block opening condition body tail rest =>
    ⟨opening, some (.ifStart condition)⟩ :: (body.marks ++ (tail.marks ++ rest.marks))

def Tail.marks : Tail → List Mark
  | .close closing => [⟨closing, some .close⟩]
  | .elseIf line condition body tail =>
    ⟨line, some (.elseIf condition)⟩ :: (body.marks ++ tail.marks)
  | .otherwise line body closing =>
    ⟨line, some .otherwise⟩ :: (body.marks ++ [⟨closing, some .close⟩])

end

mutual

/-- The lines that stay: all outside blocks, and of each block the body of its first branch that is
an `else` or whose condition holds. -/
def Tree.render (context : Expression.Context) : Tree → List String
  | .empty => []
  | .line text rest => text :: rest.render context
  | .block _ condition body tail rest =>
    (if context.accepts condition then body.render context else tail.render context) ++
      rest.render context

def Tail.render (context : Expression.Context) : Tail → List String
  | .close _ => []
  | .elseIf _ condition body tail =>
    if context.accepts condition then body.render context else tail.render context
  | .otherwise _ body _ => body.render context

end

/-- The branches after the first one, behind a number of lines. -/
def Tail.branches (before : Nat) : Tail → List Branch
  | .close _ => []
  | .elseIf _ condition body tail =>
    ⟨.elseIf condition, (before + 1 : Nat), (before + 1 + body.marks.length : Nat)⟩ ::
      tail.branches (before + 1 + body.marks.length)
  | .otherwise _ body _ => [⟨.otherwise, (before + 1 : Nat), (before + 1 + body.marks.length : Nat)⟩]

/-- The branches of a block, when the lines before it, its first condition and body and its tail are
known. -/
def Tail.allBranches (before : Nat) (condition : String) (body : Tree) (tail : Tail) :
    List Branch :=
  ⟨.condition condition, (before + 1 : Nat), (before + 1 + body.marks.length : Nat)⟩ ::
    tail.branches (before + 1 + body.marks.length)

mutual

/-- The blocks of a tree behind a number of lines, in the order in which they are closed. -/
def Tree.blocks (before : Nat) : Tree → List Block
  | .empty => []
  | .line _ rest => rest.blocks (before + 1)
  | .block _ condition body tail rest =>
    body.blocks (before + 1) ++ (tail.blocks (before + 1 + body.marks.length) ++
      ⟨(before + 1 : Nat), (before + 1 + body.marks.length + tail.marks.length : Nat),
        tail.allBranches before condition body⟩ ::
      rest.blocks (before + 1 + body.marks.length + tail.marks.length))

/-- The blocks inside the branches after the first one. -/
def Tail.blocks (before : Nat) : Tail → List Block
  | .close _ => []
  | .elseIf _ _ body tail =>
    body.blocks (before + 1) ++ tail.blocks (before + 1 + body.marks.length)
  | .otherwise _ body _ => body.blocks (before + 1)

end

mutual

/-- No condition is blank, and inside a number of open blocks no block is too deep. -/
def Tree.Fits (maxNesting depth : Nat) : Tree → Prop
  | .empty => True
  | .line _ rest => rest.Fits maxNesting depth
  | .block _ condition body tail rest =>
    depth < maxNesting ∧ condition ≠ "" ∧ body.Fits maxNesting (depth + 1) ∧
      tail.Fits maxNesting (depth + 1) ∧ rest.Fits maxNesting depth

def Tail.Fits (maxNesting depth : Nat) : Tail → Prop
  | .close _ => True
  | .elseIf _ condition body tail =>
    condition ≠ "" ∧ body.Fits maxNesting depth ∧ tail.Fits maxNesting depth
  | .otherwise _ body _ => body.Fits maxNesting depth

end

end CondDoc
