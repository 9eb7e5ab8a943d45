import CondDoc.Proofs.Document.Scan
import CondDoc.Proofs.Document.Selection
import CondDoc.Proofs.Expression.Failures

namespace CondDoc

def Branch.shift (n : Nat) (branch : Branch) : Branch :=
  ⟨branch.guard, branch.start + n, branch.stop + n⟩

def Block.shift (n : Nat) (block : Block) : Block :=
  ⟨block.start + n, block.stop + n, block.branches.map (·.shift n)⟩

def OpenBlock.shift (n : Nat) (block : OpenBlock) : OpenBlock :=
  ⟨block.start + n, block.finished.map (·.shift n), block.guard, block.branchStart + n⟩

def BlockTrace.shift (n : Nat) (record : BlockTrace) : BlockTrace :=
  ⟨record.start + n, record.stop + n, record.branches⟩

def Decision.shift (n : Nat) (decision : Decision) : Decision :=
  ⟨decision.block.shift n, decision.chosen.map (·.shift n), decision.trace.shift n⟩

/-- One cause names a line, that of an earlier directive. -/
def Cause.shift (n : Nat) : Cause → Cause
  | .afterElse tag blockStart => .afterElse tag (blockStart + n)
  | cause => cause

def Failure.shift (n : Nat) (failure : Failure) : Failure :=
  ⟨failure.cause.shift n, failure.line.map (· + (n : Int)), failure.expression⟩

/-- A scan of the same lines behind `n` others in which some blocks were found. -/
def Scan.shift (n : Nat) (before : List Block) (scan : Scan) : Scan :=
  ⟨scan.line + n, scan.opened.map (·.shift n), before ++ scan.found.map (·.shift n)⟩

theorem Failure.failureClass_shift (n : Nat) (failure : Failure) :
    (failure.shift n).failureClass = failure.failureClass := by
  obtain ⟨cause, line, expression⟩ := failure
  cases cause <;> rfl

theorem Cause.shift_of_inExpression {cause : Cause} (h : cause.InExpression) (n : Nat) :
    cause.shift n = cause := by
  cases cause with
  | afterElse tag blockStart => cases h
  | _ => rfl

/-- The same result further down. -/
def shifted {α β : Type} (n : Nat) (f : α → β) (result : Except Failure α) : Except Failure β :=
  (result.map f).mapError (·.shift n)

theorem shifted_bind {α β γ δ : Type} {n : Nat} {f : α → β} {g : γ → δ}
    {next : α → Except Failure γ} {next' : β → Except Failure δ}
    {first : Except Failure α}
    (h : ∀ value, first = .ok value → next' (f value) = shifted n g (next value)) :
    shifted n f first >>= next' = shifted n g (first >>= next) := by
  cases first with
  | error failure => rfl
  | ok value => exact h value rfl

theorem OpenBlock.branchesBefore_shift (n : Nat) (block : OpenBlock) (line : Nat) :
    (block.shift n).branchesBefore (line + n) =
      (block.branchesBefore line).map (·.shift n) := by
  have hstop : ((line + n : Nat) : Int) - 1 = (line : Int) - 1 + n := by omega
  rw [branchesBefore, branchesBefore, List.map_append, hstop]
  rfl

theorem OpenBlock.close_shift (n : Nat) (block : OpenBlock) (line : Nat) :
    (block.shift n).close (line + n) = (block.close line).shift n := by
  rw [close, branchesBefore_shift]
  rfl

theorem OpenBlock.extend_shift (n : Nat) (block : OpenBlock) (tag : Tag) (guard : Guard)
    (line : Nat) :
    (block.shift n).extend tag guard (line + n) =
      shifted n (OpenBlock.shift n) (block.extend tag guard line) := by
  rw [extend, extend, branchesBefore_shift]
  change (if block.guard = .otherwise then _ else _) = _
  split
  · rfl
  · rfl

namespace Scan

theorem step_shift (maxNesting n : Nat) (before : List Block) (scan : Scan)
    (directive : Option Directive) :
    step maxNesting (scan.shift n before) directive =
      shifted n (shift n before) (step maxNesting scan directive) := by
  obtain ⟨line, opened, found⟩ := scan
  have hline : line + n + 1 = line + 1 + n := Nat.add_right_comm line n 1
  rw [shift]
  cases directive with
  | none =>
    dsimp only [step]
    rw [hline]
    rfl
  | some directive =>
    cases directive with
    | ifStart condition =>
      dsimp only [step]
      rw [hline, List.length_map]
      split
      · rfl
      split
      · rfl
      · rfl
    | elseIf condition =>
      cases opened with
      | nil =>
        rw [List.map_nil]
        dsimp only [step]
        rw [hline]
        rfl
      | cons block outer =>
        rw [List.map_cons]
        dsimp only [step]
        rw [hline]
        split
        · rfl
        · rw [block.extend_shift]
          apply shifted_bind
          intro _ _
          rfl
    | otherwise =>
      cases opened with
      | nil =>
        rw [List.map_nil]
        dsimp only [step]
        rw [hline]
        rfl
      | cons block outer =>
        rw [List.map_cons]
        dsimp only [step]
        rw [hline, block.extend_shift]
        apply shifted_bind
        intro _ _
        rfl
    | close =>
      cases opened with
      | nil =>
        rw [List.map_nil]
        dsimp only [step]
        rw [hline]
        rfl
      | cons block outer =>
        rw [List.map_cons]
        dsimp only [step]
        rw [hline, block.close_shift, List.append_assoc]
        change _ = Except.ok (shift n before ⟨line + 1, outer, found ++ [block.close (line + 1)]⟩)
        rw [shift, List.map_append]
        rfl

theorem run_shift (maxNesting n : Nat) (before : List Block) (scan : Scan)
    (directives : List (Option Directive)) :
    run maxNesting (scan.shift n before) directives =
      shifted n (shift n before) (run maxNesting scan directives) := by
  induction directives generalizing scan with
  | nil => rfl
  | cons directive directives ih =>
    rw [run_cons, run_cons, step_shift]
    apply shifted_bind
    intro next _
    exact ih next

theorem finish_shift (n : Nat) (before : List Block) (scan : Scan) :
    (scan.shift n before).finish =
      shifted n (fun found => before ++ found.map (·.shift n)) scan.finish := by
  obtain ⟨line, opened, found⟩ := scan
  cases opened <;> rfl

end Scan

section

variable (context : Expression.Context) (n : Nat)

theorem holds_shift (branch : Branch) :
    (branch.shift n).holds context = shifted n id (branch.holds context) := by
  cases hexpression : branch.guard.expression? with
  | none =>
    have hexpression' : (branch.shift n).guard.expression? = none := hexpression
    rw [holds_of_no_expression hexpression, holds_of_no_expression hexpression']
    rfl
  | some expression =>
    have hexpression' : (branch.shift n).guard.expression? = some expression := hexpression
    rw [holds_of_expression hexpression, holds_of_expression hexpression']
    cases hvalue : Expression.evaluateText context expression with
    | ok answer => rfl
    | error cause =>
      -- What fails is the expression, which knows nothing of lines.
      have hcause := (Expression.yields_evaluateText context expression).failed_of_eq hvalue
      have hplaced (branch : Branch) : branch.failure expression cause =
          ⟨cause, some branch.start, some expression⟩ := if_pos hcause
      change Except.error ((branch.shift n).failure expression cause) =
        Except.error ((branch.failure expression cause).shift n)
      rw [hplaced, hplaced, Failure.shift, Cause.shift_of_inExpression hcause]
      rfl

theorem choose_shift (branches : List Branch) :
    choose context (branches.map (·.shift n)) =
      shifted n (fun result => (result.1.map (·.shift n), result.2)) (choose context branches) := by
  induction branches with
  | nil => rfl
  | cons branch others ih =>
    rw [List.map_cons, choose, choose, holds_shift]
    apply shifted_bind
    intro answer _
    cases answer with
    | true =>
      change Except.ok (some (branch.shift n), _) = Except.ok (some (branch.shift n), _)
      rw [List.map_map]
      rfl
    | false =>
      change (choose context (others.map (·.shift n)) >>= _) = shifted n _ (choose context others >>= _)
      rw [ih]
      apply shifted_bind
      intro _ _
      rfl

theorem select_shift (block : Block) :
    (block.shift n).select context = shifted n (Decision.shift n) (block.select context) := by
  rw [Block.select, Block.select, Block.shift, choose_shift]
  apply shifted_bind
  intro _ _
  rfl

theorem decideAll_shift (blocks : List Block) :
    decideAll context (blocks.map (·.shift n)) =
      shifted n (List.map (Decision.shift n)) (decideAll context blocks) := by
  induction blocks with
  | nil => rfl
  | cons block others ih =>
    rw [List.map_cons, decideAll, decideAll, select_shift]
    apply shifted_bind
    intro decision _
    rw [ih]
    apply shifted_bind
    intro _ _
    rfl

end

theorem Block.covers_shift (n : Nat) (block : Block) (line : Int) :
    (block.shift n).covers (line + n) = block.covers line := by
  rw [covers, covers, shift, Bool.eq_iff_iff]
  simp only [Bool.and_eq_true, decide_eq_true_eq]
  omega

theorem Branch.covers_shift (n : Nat) (branch : Branch) (line : Int) :
    (branch.shift n).covers (line + n) = branch.covers line := by
  rw [covers, covers, shift, Bool.eq_iff_iff]
  simp only [Bool.and_eq_true, decide_eq_true_eq]
  omega

theorem Decision.keeps_shift (n : Nat) (decision : Decision) (line : Int) :
    (decision.shift n).keeps (line + n) = decision.keeps line := by
  obtain ⟨block, chosen, trace⟩ := decision
  rw [keeps, keeps, shift, block.covers_shift]
  cases chosen with
  | none => rfl
  | some branch =>
    dsimp only [Option.map_some, Option.any_some]
    rw [branch.covers_shift]

end CondDoc
