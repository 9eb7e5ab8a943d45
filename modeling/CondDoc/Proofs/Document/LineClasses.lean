import CondDoc.Proofs.Document.Blanks
import CondDoc.Proofs.Document.Marks
import CondDoc.Proofs.Document.Scan

namespace CondDoc

/-- What a scan makes of a line. Fenced lines are plain. -/
inductive LineClass where
  | fence
  | ifStart (blank : Bool)
  | elseIf (blank : Bool)
  | otherwise
  | close
  | plain
  deriving DecidableEq

/-- The class of a line outside fenced code. -/
def LineClass.ofDirective? : Option Directive → LineClass
  | some (.ifStart expression) => .ifStart (expression == "")
  | some (.elseIf expression) => .elseIf (expression == "")
  | some .otherwise => .otherwise
  | some .close => .close
  | none => .plain

/-- The classes of the lines that follow, inside fenced code or outside of it. -/
def lineClassesFrom (parseFences inFence : Bool) : List String → List LineClass
  | [] => []
  | line :: lines =>
    if toggles parseFences line then .fence :: lineClassesFrom parseFences (!inFence) lines
    else (if inFence then .plain else .ofDirective? (Directive.ofLine? line)) ::
      lineClassesFrom parseFences inFence lines

/-- The classes of the lines of a document. -/
def lineClasses (parseFences : Bool) (text : String) : List LineClass :=
  lineClassesFrom parseFences false (Text.lines text)

section

variable (f : String → String)

def Guard.mapExpression : Guard → Guard
  | .condition expression => .condition (f expression)
  | .elseIf expression => .elseIf (f expression)
  | .otherwise => .otherwise

def Branch.mapExpression (branch : Branch) : Branch :=
  ⟨branch.guard.mapExpression f, branch.start, branch.stop⟩

def Block.mapExpressions (block : Block) : Block :=
  ⟨block.start, block.stop, block.branches.map (·.mapExpression f)⟩

def OpenBlock.mapExpressions (block : OpenBlock) : OpenBlock :=
  ⟨block.start, block.finished.map (·.mapExpression f), block.guard.mapExpression f,
    block.branchStart⟩

def Scan.mapExpressions (scan : Scan) : Scan :=
  ⟨scan.line, scan.opened.map (·.mapExpressions f), scan.found.map (·.mapExpressions f)⟩

def Directive.mapExpression : Directive → Directive
  | .ifStart expression => .ifStart (f expression)
  | .elseIf expression => .elseIf (f expression)
  | .otherwise => .otherwise
  | .close => .close

theorem Guard.mapExpression_eq_otherwise_iff (guard : Guard) :
    guard.mapExpression f = .otherwise ↔ guard = .otherwise := by
  cases guard with
  | otherwise => exact .rfl
  | condition expression => exact ⟨nofun, nofun⟩
  | elseIf expression => exact ⟨nofun, nofun⟩

theorem OpenBlock.branchesBefore_mapExpressions (block : OpenBlock) (line : Nat) :
    (block.mapExpressions f).branchesBefore line =
      (block.branchesBefore line).map (·.mapExpression f) := by
  rw [branchesBefore, branchesBefore, List.map_append]
  rfl

theorem OpenBlock.close_mapExpressions (block : OpenBlock) (line : Nat) :
    (block.mapExpressions f).close line = (block.close line).mapExpressions f := by
  rw [close, branchesBefore_mapExpressions]
  rfl

theorem OpenBlock.extend_mapExpressions (block : OpenBlock) (tag : Tag) (guard : Guard)
    (line : Nat) :
    (block.mapExpressions f).extend tag (guard.mapExpression f) line =
      (block.extend tag guard line).map (·.mapExpressions f) := by
  rw [extend, extend, branchesBefore_mapExpressions]
  by_cases hotherwise : block.guard = .otherwise
  · have hmapped : (block.mapExpressions f).guard = .otherwise :=
      (block.guard.mapExpression_eq_otherwise_iff f).2 hotherwise
    rw [if_pos hotherwise, if_pos hmapped]
    rfl
  · have hmapped : (block.mapExpressions f).guard ≠ .otherwise :=
      mt (block.guard.mapExpression_eq_otherwise_iff f).1 hotherwise
    rw [if_neg hotherwise, if_neg hmapped]
    rfl

variable {f}

theorem map_bind_of_ok {α β : Type} {first : Except Failure α} {g : α → α} {h : β → β}
    {next next' : α → Except Failure β}
    (hnext : ∀ value, next' (g value) = (next value).map h) :
    first.map g >>= next' = (first >>= next).map h := by
  cases first with
  | error failure => rfl
  | ok value => exact hnext value

namespace Scan

/-- A step goes the same way with other expressions, as long as the same ones are empty. -/
theorem step_mapExpressions (hf : ∀ expression, f expression = "" ↔ expression = "")
    (maxNesting : Nat) (scan : Scan) (directive : Option Directive) :
    step maxNesting (scan.mapExpressions f) (directive.map (·.mapExpression f)) =
      (step maxNesting scan directive).map (·.mapExpressions f) := by
  obtain ⟨line, opened, found⟩ := scan
  cases directive with
  | none => rfl
  | some directive =>
    cases directive with
    | ifStart expression =>
      change (if maxNesting ≤ (opened.map _).length then _
        else if f expression = "" then _ else _) = _
      rw [List.length_map]
      dsimp only [step]
      split
      · rfl
      by_cases hempty : expression = ""
      · rw [if_pos hempty, if_pos ((hf expression).2 hempty)]
        rfl
      · rw [if_neg hempty, if_neg (mt (hf expression).1 hempty)]
        rfl
    | elseIf expression =>
      cases opened with
      | nil => rfl
      | cons block outer =>
        change (if f expression = "" then _
          else (block.mapExpressions f).extend .elseIf (Guard.mapExpression f (.elseIf expression))
            (line + 1) >>= _) = _
        dsimp only [step]
        by_cases hempty : expression = ""
        · rw [if_pos hempty, if_pos ((hf expression).2 hempty)]
          rfl
        · rw [if_neg hempty, if_neg (mt (hf expression).1 hempty), block.extend_mapExpressions]
          exact map_bind_of_ok fun _ => rfl
    | otherwise =>
      cases opened with
      | nil => rfl
      | cons block outer =>
        change (block.mapExpressions f).extend .otherwise (Guard.mapExpression f .otherwise)
          (line + 1) >>= _ = _
        rw [block.extend_mapExpressions]
        exact map_bind_of_ok fun _ => rfl
    | close =>
      cases opened with
      | nil => rfl
      | cons block outer =>
        change Except.ok (Scan.mk (line + 1) (outer.map _)
          (found.map _ ++ [(block.mapExpressions f).close (line + 1)])) = _
        rw [block.close_mapExpressions]
        change _ = Except.ok (mapExpressions f ⟨line + 1, outer, found ++ [block.close (line + 1)]⟩)
        rw [mapExpressions, List.map_append]
        rfl

theorem run_mapExpressions (hf : ∀ expression, f expression = "" ↔ expression = "")
    (maxNesting : Nat) (scan : Scan) (directives : List (Option Directive)) :
    run maxNesting (scan.mapExpressions f)
        (directives.map (Option.map (·.mapExpression f))) =
      (run maxNesting scan directives).map (·.mapExpressions f) := by
  induction directives generalizing scan with
  | nil => rfl
  | cons directive directives ih =>
    rw [List.map_cons, run_cons, run_cons, step_mapExpressions hf]
    exact map_bind_of_ok fun next => ih next

theorem finish_mapExpressions (scan : Scan) :
    (scan.mapExpressions f).finish = scan.finish.map (List.map (·.mapExpressions f)) := by
  obtain ⟨line, opened, found⟩ := scan
  cases opened <;> rfl

end Scan

end

/-- An expression of which nothing is left but whether it is empty. -/
def masked (blank : Bool) : String := if blank then "" else "-"

def mask (expression : String) : String := masked (expression == "")

theorem mask_eq_empty_iff (expression : String) : mask expression = "" ↔ expression = "" := by
  unfold mask masked
  split
  · next h => exact ⟨fun _ => eq_of_beq h, fun _ => rfl⟩
  · next h => exact ⟨fun heq => absurd heq (by decide), fun heq => absurd (beq_iff_eq.2 heq) h⟩

/-- The directive of a class, with its expression masked. -/
def LineClass.directive? : LineClass → Option Directive
  | .ifStart blank => some (.ifStart (masked blank))
  | .elseIf blank => some (.elseIf (masked blank))
  | .otherwise => some .otherwise
  | .close => some .close
  | .fence | .plain => none

theorem LineClass.directive?_ofDirective? (directive : Option Directive) :
    (ofDirective? directive).directive? = directive.map (·.mapExpression mask) := by
  match directive with
  | none => rfl
  | some (.ifStart _) => rfl
  | some (.elseIf _) => rfl
  | some .otherwise => rfl
  | some .close => rfl

theorem map_directive?_lineClassesFrom (parseFences inFence : Bool) (lines : List String) :
    (lineClassesFrom parseFences inFence lines).map LineClass.directive? =
      ((marksFrom parseFences inFence lines).map Mark.directive).map
        (Option.map (·.mapExpression mask)) := by
  induction lines generalizing inFence with
  | nil => rfl
  | cons line lines ih =>
    unfold lineClassesFrom marksFrom
    cases toggles parseFences line with
    | true =>
      rw [if_pos rfl, Bool.xor_true]
      exact congrArg (none :: ·) (ih (!inFence))
    | false =>
      rw [if_neg Bool.false_ne_true, Bool.xor_false]
      cases inFence with
      | true => exact congrArg (none :: ·) (ih true)
      | false => exact congrArg₂ List.cons (LineClass.directive?_ofDirective? _) (ih false)

theorem map_directive?_lineClasses (parseFences : Bool) (text : String) :
    (lineClasses parseFences text).map LineClass.directive? =
      (directives parseFences (Text.lines text)).map (Option.map (·.mapExpression mask)) := by
  rw [lineClasses, map_directive?_lineClassesFrom, map_directive_marksFrom]

/-- The blocks of a document, with expressions masked, follow from the classes of its lines. -/
theorem blocks_mask_eq (options : Options) (text : String) :
    (blocks options text).map (List.map (·.mapExpressions mask)) =
      Scan.run options.maxNesting .start
          ((lineClasses options.parseFences text).map LineClass.directive?) >>= Scan.finish := by
  rw [map_directive?_lineClasses, blocks]
  have hrun := Scan.run_mapExpressions mask_eq_empty_iff options.maxNesting .start
    (directives options.parseFences (Text.lines text))
  change Scan.run _ .start _ = _ at hrun
  rw [hrun]
  exact (map_bind_of_ok fun scan => scan.finish_mapExpressions).symm

/-- A block in which no expression is left. -/
def Block.withoutExpressions (block : Block) : Block := block.mapExpressions fun _ => ""

theorem Guard.mapExpression_mapExpression (f g : String → String) (guard : Guard) :
    (guard.mapExpression f).mapExpression g = guard.mapExpression (g ∘ f) := by
  cases guard <;> rfl

theorem Block.withoutExpressions_mapExpressions (f : String → String) (block : Block) :
    (block.mapExpressions f).withoutExpressions = block.withoutExpressions := by
  have hbranch (branch : Branch) :
      (branch.mapExpression f).mapExpression (fun _ => "") = branch.mapExpression fun _ => "" := by
    rw [Branch.mapExpression, Branch.mapExpression, Guard.mapExpression_mapExpression]
    rfl
  exact congrArg (Block.mk block.start block.stop)
    (List.map_map.trans (List.map_congr_left fun branch _ => hbranch branch))

theorem withoutExpressions_mask (options : Options) (text : String) :
    (blocks options text).map (List.map (·.withoutExpressions)) =
      ((blocks options text).map (List.map (·.mapExpressions mask))).map
        (List.map (·.withoutExpressions)) := by
  cases blocks options text with
  | error failure => rfl
  | ok found =>
    refine congrArg Except.ok ?_
    rw [List.map_map]
    exact (List.map_congr_left fun block _ => block.withoutExpressions_mapExpressions mask).symm

theorem toggles_eq_of_sameButBlanks {line line' : String} (h : SameButBlanks line line')
    (parseFences : Bool) : toggles parseFences line = toggles parseFences line' := by
  rw [toggles, toggles, h.isFence_eq]

theorem directives_eq_of_sameButBlanks {lines lines' : List String}
    (h : List.Forall₂ SameButBlanks lines lines') (parseFences : Bool) :
    directives parseFences lines = directives parseFences lines' := by
  rw [← map_directive_marksFrom, ← map_directive_marksFrom]
  generalize false = inFence
  induction h generalizing inFence with
  | nil => rfl
  | cons hline _ ih =>
    unfold marksFrom
    rw [List.map_cons, List.map_cons, ih, toggles_eq_of_sameButBlanks hline, hline.ofLine?_eq]

theorem lineClassesFrom_eq_of_sameButBlanks {lines lines' : List String}
    (h : List.Forall₂ SameButBlanks lines lines') (parseFences inFence : Bool) :
    lineClassesFrom parseFences inFence lines = lineClassesFrom parseFences inFence lines' := by
  induction h generalizing inFence with
  | nil => rfl
  | cons hline _ ih =>
    unfold lineClassesFrom
    rw [ih, ih, toggles_eq_of_sameButBlanks hline, hline.ofLine?_eq]

/-- A scan sees only the classes of lines. Where the classes are the same, it fails alike or finds
the same blocks, up to what the expressions say. Blanks at the ends of lines, such as carriage
returns, change neither the classes nor the directives nor the blocks. -/
theorem blocks_of_line_classes (options : Options) (text text' : String) :
    (lineClasses options.parseFences text = lineClasses options.parseFences text' →
      (blocks options text).map (List.map (·.withoutExpressions)) =
        (blocks options text').map (List.map (·.withoutExpressions))) ∧
    (List.Forall₂ SameButBlanks (Text.lines text) (Text.lines text') →
      lineClasses options.parseFences text = lineClasses options.parseFences text' ∧
      directives options.parseFences (Text.lines text) =
        directives options.parseFences (Text.lines text') ∧
      blocks options text = blocks options text') ∧
    blocks options (withReturns text) = blocks options text := by
  have hblanks {text text' : String}
      (h : List.Forall₂ SameButBlanks (Text.lines text) (Text.lines text')) :
      blocks options text = blocks options text' := by
    rw [blocks, blocks, directives_eq_of_sameButBlanks h]
  refine ⟨?_, ?_, ?_⟩
  · intro hclasses
    rw [withoutExpressions_mask, blocks_mask_eq, hclasses, ← blocks_mask_eq,
      ← withoutExpressions_mask]
  · intro h
    exact ⟨lineClassesFrom_eq_of_sameButBlanks h _ _, directives_eq_of_sameButBlanks h _,
      hblanks h⟩
  · exact (hblanks (sameButBlanks_lines_withReturns text)).symm

/-- A block with a fenced line in it that would close it. -/
def guardedText : String :=
  "\x7b\x7b#if X\x7d\x7d\n\x60\x60\x60\n\x7b\x7b/if\x7d\x7d\n\x60\x60\x60\n\x7b\x7b/if\x7d\x7d"

/-- Another text with lines of the same classes. -/
def guardedTwin : String :=
  "\t\x7b\x7b #IF user.age == 3\x7d\x7d\n ~~~ sh\nls\n~~~\n\x7b\x7b/if \x7d\x7d "

/-- One block is found in both texts, with an expression of its own in each. -/
theorem blocks_guardedTwin :
    blocks .standard guardedText = .ok [⟨1, 5, [⟨.condition "X", 1, 4⟩]⟩] ∧
    blocks .standard guardedTwin = .ok [⟨1, 5, [⟨.condition "user.age == 3", 1, 4⟩]⟩] ∧
    lineClasses false guardedText = lineClasses false guardedTwin ∧
    (blocks .standard guardedText).map (List.map (·.withoutExpressions)) =
      (blocks .standard guardedTwin).map (List.map (·.withoutExpressions)) ∧
    List.Forall₂ SameButBlanks (Text.lines guardedText) (Text.lines (withReturns guardedText)) ∧
    blocks .standard guardedText = blocks .standard (withReturns guardedText) := by
  have hfound : blocks .standard guardedText = .ok [⟨1, 5, [⟨.condition "X", 1, 4⟩]⟩] := by rfl
  have htwin : blocks .standard guardedTwin =
      .ok [⟨1, 5, [⟨.condition "user.age == 3", 1, 4⟩]⟩] := by rfl
  have hclasses : lineClasses false guardedText = lineClasses false guardedTwin := by
    decide +kernel
  have hsame := (blocks_of_line_classes .standard guardedText guardedTwin).1 hclasses
  have hlines := sameButBlanks_lines_withReturns guardedText
  have hpadded := (blocks_of_line_classes .standard guardedText (withReturns guardedText)).2.1 hlines
  exact ⟨hfound, htwin, hclasses, hsame, hlines, hpadded.2.2⟩

end CondDoc
