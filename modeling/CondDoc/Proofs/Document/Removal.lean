import CondDoc.Proofs.Document.Render
import Mathlib.Data.Finset.Dedup
import Mathlib.Data.Finset.Empty
import Mathlib.Data.Finset.Lattice.Basic
import Mathlib.Data.Int.Range

namespace CondDoc

/-- The lines of the block that are not in the body of the chosen branch. -/
def Decision.removed (decision : Decision) : List Int :=
  (Int.range decision.block.start (decision.block.stop + 1)).filter fun line =>
    !decision.chosen.any (·.covers line)

/-- The lines that decisions remove, gathered one decision after the other. -/
def removedLines (decisions : List Decision) : Finset Int :=
  decisions.foldl (fun removed decision => removed ∪ decision.removed.toFinset) ∅

section

variable {decision : Decision} {decisions : List Decision} {line : Int}

theorem Decision.mem_removed_iff :
    line ∈ decision.removed ↔ (decision.block.start ≤ line ∧ line ≤ decision.block.stop) ∧
      decision.chosen.any (·.covers line) = false := by
  rw [removed, List.mem_filter, Int.mem_range_iff, Int.lt_add_one_iff, Bool.not_eq_true']

theorem Decision.keeps_iff : decision.keeps line = true ↔ line ∉ decision.removed := by
  have hcovers : decision.block.covers line = true ↔
      decision.block.start ≤ line ∧ line ≤ decision.block.stop := by
    rw [Block.covers, Bool.and_eq_true, decide_eq_true_iff, decide_eq_true_iff]
  rw [mem_removed_iff, ← hcovers, keeps]
  cases decision.block.covers line <;> cases decision.chosen.any (·.covers line) <;> decide

/-- Only the body of the chosen branch stays of the block. -/
theorem Decision.not_mem_removed_iff :
    line ∉ decision.removed ↔ (decision.block.start ≤ line → line ≤ decision.block.stop →
      ∃ branch, decision.chosen = some branch ∧ branch.start < line ∧ line ≤ branch.stop) := by
  rw [mem_removed_iff, not_and, Bool.not_eq_false, and_imp, Option.any_eq_true]
  simp only [Branch.covers, Bool.and_eq_true, decide_eq_true_iff]

/-- A line is removed in the course of a run if it was before, or if one of the decisions does. -/
theorem mem_foldl_removed_iff (removed : Finset Int) (decisions : List Decision) :
    line ∈ decisions.foldl (fun removed decision => removed ∪ decision.removed.toFinset) removed ↔
      line ∈ removed ∨ ∃ decision ∈ decisions, line ∈ decision.removed := by
  induction decisions generalizing removed with
  | nil => simp
  | cons decision others ih =>
    rw [List.foldl_cons, ih, Finset.mem_union, List.mem_toFinset, or_assoc]
    simp

theorem mem_removedLines_iff :
    line ∈ removedLines decisions ↔ ∃ decision ∈ decisions, line ∈ decision.removed := by
  rw [removedLines, mem_foldl_removed_iff]
  simp

/-- Order and repetitions of decisions do not matter. -/
theorem removedLines_congr {others : List Decision}
    (h : ∀ decision, decision ∈ decisions ↔ decision ∈ others) :
    removedLines decisions = removedLines others := by
  ext line
  rw [mem_removedLines_iff, mem_removedLines_iff]
  simp only [h]

theorem keptLines_eq_linesWhere_not_removed (decisions : List Decision) (number : Nat)
    (lines : List String) :
    keptLines decisions number lines =
      linesWhere (fun i => decide ((i : Int) ∉ removedLines decisions)) number lines := by
  rw [keptLines_eq_linesWhere]
  apply linesWhere_congr
  intro i _ _
  rw [Bool.eq_iff_iff, List.all_eq_true, decide_eq_true_iff, mem_removedLines_iff]
  simp only [Decision.keeps_iff, not_exists, not_and]

end

section

variable {context : Expression.Context} {blocks : List Block} {selected : Block → Decision}

theorem decideAll_eq_map (h : ∀ block ∈ blocks, block.select context = .ok (selected block)) :
    decideAll context blocks = .ok (blocks.map selected) := by
  induction blocks with
  | nil => rfl
  | cons block others ih =>
    obtain ⟨hblock, hothers⟩ := List.forall_mem_cons.1 h
    rw [decideAll, hblock, ok_bind, ih hothers]
    rfl

/-- Where no selection fails, a line stays if each block it lies in has it in the body of the chosen
branch. The same blocks in another order or number leave the same text, and each has its record. -/
theorem prune_by_removal (text : String)
    (hselected : ∀ block ∈ blocks, block.select context = .ok (selected block)) :
    (∀ line : Int, line ∉ removedLines (blocks.map selected) ↔
      ∀ block ∈ blocks, block.start ≤ line → line ≤ block.stop →
        ∃ branch, (selected block).chosen = some branch ∧ branch.start < line ∧
          line ≤ branch.stop) ∧
    ∀ others : List Block, (∀ block, block ∈ others ↔ block ∈ blocks) →
      prune context text others =
        .ok ⟨Text.unlines (linesWhere
            (fun number => decide ((number : Int) ∉ removedLines (blocks.map selected))) 1
            (Text.lines text)),
          ⟨others.map fun block => (selected block).trace⟩⟩ := by
  constructor
  · intro line
    simp only [mem_removedLines_iff, not_exists, not_and]
    rw [List.forall_mem_map]
    refine forall₂_congr fun block hblock => ?_
    rw [Decision.not_mem_removed_iff, (of_select_eq_ok (hselected block hblock)).1]
  · intro others hothers
    have hdecide : decideAll context others = .ok (others.map selected) :=
      decideAll_eq_map fun block hblock => hselected block ((hothers block).1 hblock)
    have hsame : removedLines (others.map selected) = removedLines (blocks.map selected) := by
      apply removedLines_congr
      intro decision
      simp only [List.mem_map, hothers]
    rw [prune, hdecide, ok_bind, keptLines_eq_linesWhere_not_removed, hsame, List.map_map]
    rfl

end

/-- Two blocks that overlap, one of which goes beyond a text of five lines, a block without lines,
and one of which no branch is chosen. -/
def overlapping : List Block :=
  [⟨2, 4, [⟨.condition "X", 2, 3⟩]⟩, ⟨3, 9, [⟨.condition "X", 2, 4⟩]⟩,
    ⟨5, 1, [⟨.condition "X", 5, 5⟩]⟩, ⟨1, 1, [⟨.condition "!X", 0, 1⟩]⟩]

/-- The decision about a block of which exactly the branches with the expression `X` hold. -/
def Block.selectedByX (block : Block) : Decision :=
  ⟨block, block.branches.find? (·.guard.expression? == some "X"), ⟨block.start, block.stop,
    block.branches.map fun branch => branch.trace (branch.guard.expression? == some "X")⟩⟩

theorem prune_overlapping :
    (prune ⟨⟨[("X", .string "ON")]⟩, .standard⟩ "a\nb\nc\nd\ne" overlapping).map (·.text) =
        .ok "c" ∧
      (prune ⟨⟨[("X", .string "ON")]⟩, .standard⟩ "a\nb\nc\nd\ne"
          (overlapping.reverse ++ overlapping)).map (·.text) = .ok "c" := by
  let context : Expression.Context := ⟨⟨[("X", .string "ON")]⟩, .standard⟩
  have hX : Expression.evaluateText context "X" = .ok true := evaluateText_X_on .standard
  have hNot : Expression.evaluateText context "!X" = .ok false := by
    rw [@evaluateText_not_X context (.string "ON") rfl]
    rfl
  have hselected : ∀ block ∈ overlapping, block.select context = .ok block.selectedByX := by
    simp only [overlapping, List.forall_mem_cons, Block.select, choose, Branch.holds, hX, hNot]
    exact ⟨rfl, rfl, rfl, rfl, List.forall_mem_nil _⟩
  obtain ⟨-, hprune⟩ := prune_by_removal "a\nb\nc\nd\ne" hselected
  -- The set of removed lines is slow to compute; the decisions tell the same line by line.
  rw [← keptLines_eq_linesWhere_not_removed] at hprune
  constructor
  · rw [hprune overlapping fun block => Iff.rfl]
    rfl
  · rw [hprune (overlapping.reverse ++ overlapping) fun block => by simp]
    rfl

end CondDoc
