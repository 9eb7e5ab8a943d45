import CondDoc.Proofs.Document.Tree
import CondDoc.Proofs.Outcome

namespace CondDoc

namespace Scan

theorem run_cons (maxNesting : Nat) (scan : Scan) (directive : Option Directive)
    (directives : List (Option Directive)) :
    run maxNesting scan (directive :: directives) =
      step maxNesting scan directive >>= fun next => run maxNesting next directives :=
  List.foldlM_cons

theorem run_nil_eq_ok_iff {maxNesting : Nat} {scan result : Scan} :
    run maxNesting scan [] = .ok result ↔ result = scan := by
  change Except.ok scan = Except.ok result ↔ _
  rw [Except.ok.injEq, eq_comm]

theorem run_append (maxNesting : Nat) (scan : Scan) (first second : List (Option Directive)) :
    run maxNesting scan (first ++ second) =
      run maxNesting scan first >>= fun next => run maxNesting next second :=
  List.foldlM_append

variable {maxNesting line : Nat} {opened : List OpenBlock} {found : List Block} {result : Scan}

theorem step_plain : step maxNesting ⟨line, opened, found⟩ none = .ok ⟨line + 1, opened, found⟩ :=
  rfl

theorem step_ifStart_eq_ok_iff {condition : String} :
    step maxNesting ⟨line, opened, found⟩ (some (.ifStart condition)) = .ok result ↔
      opened.length < maxNesting ∧ condition ≠ "" ∧
        result = ⟨line + 1, .opening (line + 1) condition :: opened, found⟩ := by
  simp only [step]
  split
  · next h => simp [Nat.not_lt.2 h]
  · next h =>
    split
    · next hblank => simp [hblank]
    · next hblank => simp [hblank, Nat.not_le.1 h, eq_comm]

variable {block : OpenBlock}

theorem step_elseIf_eq_ok_iff {condition : String} :
    step maxNesting ⟨line, block :: opened, found⟩ (some (.elseIf condition)) = .ok result ↔
      condition ≠ "" ∧ block.guard ≠ .otherwise ∧
        result = ⟨line + 1, ⟨block.start, block.branchesBefore (line + 1), .elseIf condition,
          line + 1⟩ :: opened, found⟩ := by
  simp only [step]
  split
  · next hblank => simp [hblank]
  · next hblank =>
    unfold OpenBlock.extend
    split
    · next h => simp [h, bind, Except.bind]
    · next h => simp [h, hblank, bind, Except.bind, pure, Except.pure, eq_comm]

theorem step_otherwise_eq_ok_iff :
    step maxNesting ⟨line, block :: opened, found⟩ (some .otherwise) = .ok result ↔
      block.guard ≠ .otherwise ∧
        result = ⟨line + 1, ⟨block.start, block.branchesBefore (line + 1), .otherwise,
          line + 1⟩ :: opened, found⟩ := by
  simp only [step]
  unfold OpenBlock.extend
  split
  · next h => simp [h, bind, Except.bind]
  · next h => simp [h, bind, Except.bind, pure, Except.pure, eq_comm]

theorem step_close_eq_ok_iff :
    step maxNesting ⟨line, block :: opened, found⟩ (some .close) = .ok result ↔
      result = ⟨line + 1, opened, found ++ [block.close (line + 1)]⟩ := by
  change Except.ok _ = Except.ok result ↔ _
  rw [Except.ok.injEq, eq_comm]

/-- Without an open block, nothing can be continued or closed. -/
theorem step_unopened {directive : Directive} (h : directive.continues = true) :
    step maxNesting ⟨line, [], found⟩ (some directive) ≠ .ok result := by
  cases directive with
  | ifStart condition => cases h
  | elseIf condition => intro hok; cases hok
  | otherwise => intro hok; cases hok
  | close => intro hok; cases hok

end Scan

theorem OpenBlock.branchesBefore_succ (block : OpenBlock) (line : Nat) :
    block.branchesBefore (line + 1) =
      block.finished ++ [⟨block.guard, block.branchStart, (line : Int)⟩] := by
  have h : ((line + 1 : Nat) : Int) - 1 = line := by omega
  rw [OpenBlock.branchesBefore, h]

/-- What the branches of an open block come to when it goes on with a branch. -/
theorem OpenBlock.branches_extended (block : OpenBlock) (guard : Guard) (before size : Nat) :
    (⟨block.start, block.branchesBefore (before + 1), guard, before + 1⟩ : OpenBlock).branchesBefore
        (before + 1 + size + 1) =
      block.branchesBefore (before + 1) ++
        [⟨guard, (before + 1 : Nat), (before + 1 + size : Nat)⟩] :=
  OpenBlock.branchesBefore_succ _ _

theorem OpenBlock.branches_opening (condition : String) (before : Nat) (body : Tree) (tail : Tail) :
    (OpenBlock.opening (before + 1) condition).branchesBefore (before + 1 + body.marks.length + 1) ++
        tail.branches (before + 1 + body.marks.length) =
      tail.allBranches before condition body := by
  rw [OpenBlock.branchesBefore_succ]
  rfl

mutual

/-- A scan gets through a tree exactly when the tree fits, and has then found its blocks. -/
theorem Tree.run_eq_ok_iff (maxNesting before : Nat) (opened : List OpenBlock) (found : List Block)
    (result : Scan) (tree : Tree) :
    Scan.run maxNesting ⟨before, opened, found⟩ (tree.marks.map Mark.directive) = .ok result ↔
      tree.Fits maxNesting opened.length ∧
        result = ⟨before + tree.marks.length, opened, found ++ tree.blocks before⟩ := by
  cases tree with
  | empty =>
    rw [Tree.marks, List.map_nil, Scan.run_nil_eq_ok_iff, Tree.Fits, Tree.blocks, true_and,
      List.append_nil, List.length_nil, Nat.add_zero]
  | line text rest =>
    have hrest := rest.run_eq_ok_iff maxNesting (before + 1) opened found result
    rw [Tree.marks, List.map_cons, Scan.run_cons, Scan.step_plain]
    refine hrest.trans ?_
    rw [Tree.Fits, Tree.blocks, List.length_cons, Nat.add_right_comm]
    rfl
  | block opening condition body tail rest =>
    have hguard : (OpenBlock.opening (before + 1) condition).guard ≠ .otherwise := by
      intro h
      cases h
    have hline : before + 1 + body.marks.length + tail.marks.length + rest.marks.length =
        before + (body.marks.length + (tail.marks.length + rest.marks.length) + 1) := by
      omega
    simp only [Tree.marks, List.map_cons, List.map_append, Scan.run_cons, Scan.run_append,
      bind_eq_ok_iff, Scan.step_ifStart_eq_ok_iff, and_assoc, exists_and_left, exists_eq_left,
      body.run_eq_ok_iff, tail.run_eq_ok_iff _ _ _ _ _ _ hguard, rest.run_eq_ok_iff]
    rw [OpenBlock.branches_opening, hline]
    simp only [Tree.Fits, Tree.blocks, List.length_cons, List.length_append, List.append_assoc,
      List.singleton_append, and_assoc]
    rfl

/-- The same for the rest of a block, whose current branch must not be an `else`. -/
theorem Tail.run_eq_ok_iff (maxNesting before : Nat) (block : OpenBlock) (opened : List OpenBlock)
    (found : List Block) (result : Scan) (hguard : block.guard ≠ .otherwise) (tail : Tail) :
    Scan.run maxNesting ⟨before, block :: opened, found⟩ (tail.marks.map Mark.directive) =
        .ok result ↔
      tail.Fits maxNesting (opened.length + 1) ∧
        result = ⟨before + tail.marks.length, opened, found ++ (tail.blocks before ++
          [⟨block.start, (before + tail.marks.length : Nat),
            block.branchesBefore (before + 1) ++ tail.branches before⟩])⟩ := by
  cases tail with
  | close closing =>
    simp only [Tail.marks, List.map_cons, List.map_nil, Scan.run_cons, bind_eq_ok_iff,
      Scan.step_close_eq_ok_iff, Scan.run_nil_eq_ok_iff, exists_eq_left, Tail.Fits, Tail.blocks,
      Tail.branches, OpenBlock.close, List.length_singleton, List.nil_append, List.append_nil,
      true_and]
  | elseIf line condition body tail =>
    have hguard' : Guard.elseIf condition ≠ .otherwise := by
      intro h
      cases h
    have hline : before + 1 + body.marks.length + tail.marks.length =
        before + (body.marks.length + tail.marks.length + 1) := by
      omega
    simp only [Tail.marks, List.map_cons, List.map_append, Scan.run_cons, Scan.run_append,
      bind_eq_ok_iff, Scan.step_elseIf_eq_ok_iff, and_assoc, exists_and_left, exists_eq_left,
      body.run_eq_ok_iff, tail.run_eq_ok_iff _ _ ⟨_, _, .elseIf condition, _⟩ _ _ _ hguard']
    rw [OpenBlock.branches_extended, hline]
    simp only [Tail.Fits, Tail.blocks, Tail.branches, List.length_cons, List.length_append,
      List.append_assoc, List.singleton_append, and_assoc, ne_eq, hguard, not_false_eq_true,
      true_and]
  | otherwise line body closing =>
    have hline : before + 1 + body.marks.length + 1 = before + (body.marks.length + 1 + 1) := by
      omega
    simp only [Tail.marks, List.map_cons, List.map_append, List.map_nil, Scan.run_cons,
      Scan.run_append, bind_eq_ok_iff, Scan.step_otherwise_eq_ok_iff, and_assoc, exists_and_left,
      exists_eq_left, body.run_eq_ok_iff, Scan.step_close_eq_ok_iff, Scan.run_nil_eq_ok_iff,
      OpenBlock.close]
    rw [OpenBlock.branches_extended, hline]
    simp only [Tail.Fits, Tail.blocks, Tail.branches, List.length_cons, List.length_append,
      List.length_nil, List.append_assoc, ne_eq, hguard, not_false_eq_true, true_and]

end

/-- The next line goes on with a block or closes it. -/
def Continues (marks : List Mark) : Prop :=
  ∃ line directive others, marks = ⟨line, some directive⟩ :: others ∧ directive.continues = true

/-- Inside an open block a tree is not all, since the block has yet to be closed. -/
theorem continues_of_run {maxNesting before : Nat} {block : OpenBlock} {opened : List OpenBlock}
    {found : List Block} {result : Scan} {body : Tree} {rest : List Mark}
    (hrun : Scan.run maxNesting ⟨before, block :: opened, found⟩
      ((body.marks ++ rest).map Mark.directive) = .ok result)
    (hclosed : result.opened = []) (hrest : rest = [] ∨ Continues rest) :
    ∃ line directive others, rest = ⟨line, some directive⟩ :: others ∧
      directive.continues = true ∧
      Scan.run maxNesting ⟨before + body.marks.length, block :: opened,
        found ++ body.blocks before⟩ (some directive :: others.map Mark.directive) =
          .ok result := by
  rw [List.map_append, Scan.run_append, bind_eq_ok_iff] at hrun
  obtain ⟨scan', hbody, hrun⟩ := hrun
  obtain ⟨-, rfl⟩ := (body.run_eq_ok_iff maxNesting before _ found scan').1 hbody
  rcases hrest with rfl | ⟨line, directive, others, rfl, hdirective⟩
  · obtain rfl := Scan.run_nil_eq_ok_iff.1 hrun
    cases hclosed
  · exact ⟨line, directive, others, rfl, hdirective, hrun⟩

mutual

/-- Where all blocks are closed in the end, the lines begin with a tree, behind which they end or
go on with a block around it. -/
theorem exists_tree_append (maxNesting : Nat) (result : Scan) (hclosed : result.opened = []) :
    (marks : List Mark) → (scan : Scan) →
    Scan.run maxNesting scan (marks.map Mark.directive) = .ok result →
    ∃ tree rest, marks = Tree.marks tree ++ rest ∧ (rest = [] ∨ Continues rest)
  | [], _, _ => ⟨.empty, [], rfl, .inl rfl⟩
  | ⟨line, none⟩ :: others, ⟨before, opened, found⟩, hrun => by
    obtain ⟨tree, rest, hsplit, hrest⟩ :=
      exists_tree_append maxNesting result hclosed others ⟨before + 1, opened, found⟩ hrun
    exact ⟨.line line tree, rest, by rw [hsplit]; rfl, hrest⟩
  | ⟨line, some (.ifStart condition)⟩ :: others, ⟨before, opened, found⟩, hrun => by
    rw [List.map_cons, Scan.run_cons, bind_eq_ok_iff] at hrun
    obtain ⟨scan', hstep, hrun⟩ := hrun
    obtain ⟨-, -, rfl⟩ := Scan.step_ifStart_eq_ok_iff.1 hstep
    obtain ⟨body, middle, hbody, hmiddle⟩ :=
      exists_tree_append maxNesting result hclosed others _ hrun
    rw [hbody] at hrun
    obtain ⟨next, directive, others', rfl, hdirective, hrun⟩ :=
      continues_of_run hrun hclosed hmiddle
    have hshort : others'.length + 1 ≤ others.length := by rw [hbody]; simp
    obtain ⟨tail, behind, htail⟩ :=
      exists_tail_append maxNesting result hclosed next directive others' hdirective _ _ _ _ hrun
    have hshorter : behind.length ≤ others'.length + 1 := by
      rw [← List.length_cons, htail]
      simp
    change Scan.run maxNesting _ ((⟨next, some directive⟩ :: others').map Mark.directive) = _ at hrun
    rw [htail, List.map_append, Scan.run_append, bind_eq_ok_iff] at hrun
    obtain ⟨scan', -, hrun⟩ := hrun
    obtain ⟨tree, rest, hsplit, hrest⟩ :=
      exists_tree_append maxNesting result hclosed behind scan' hrun
    refine ⟨.block line condition body tail tree, rest, ?_, hrest⟩
    rw [hbody, htail, hsplit, Tree.marks]
    simp only [List.cons_append, List.append_assoc]
  | ⟨line, some (.elseIf condition)⟩ :: others, _, _ =>
    ⟨.empty, _, rfl, .inr ⟨line, .elseIf condition, others, rfl, rfl⟩⟩
  | ⟨line, some .otherwise⟩ :: others, _, _ =>
    ⟨.empty, _, rfl, .inr ⟨line, .otherwise, others, rfl, rfl⟩⟩
  | ⟨line, some .close⟩ :: others, _, _ =>
    ⟨.empty, _, rfl, .inr ⟨line, .close, others, rfl, rfl⟩⟩
termination_by marks => marks.length

/-- A line that goes on with a block or closes it begins the rest of this block. -/
theorem exists_tail_append (maxNesting : Nat) (result : Scan) (hclosed : result.opened = [])
    (line : String) (directive : Directive) (others : List Mark)
    (hdirective : directive.continues = true) (before : Nat) (block : OpenBlock)
    (opened : List OpenBlock) (found : List Block)
    (hrun : Scan.run maxNesting ⟨before, block :: opened, found⟩
      (some directive :: others.map Mark.directive) = .ok result) :
    ∃ tail rest, ⟨line, some directive⟩ :: others = Tail.marks tail ++ rest := by
  rw [Scan.run_cons, bind_eq_ok_iff] at hrun
  obtain ⟨scan', hstep, hrun⟩ := hrun
  cases directive with
  | ifStart condition => cases hdirective
  | elseIf condition =>
    obtain ⟨-, -, rfl⟩ := Scan.step_elseIf_eq_ok_iff.1 hstep
    obtain ⟨body, middle, hbody, hmiddle⟩ :=
      exists_tree_append maxNesting result hclosed others _ hrun
    rw [hbody] at hrun
    obtain ⟨next, directive, others', rfl, hdirective, hrun⟩ :=
      continues_of_run hrun hclosed hmiddle
    have hshort : others'.length + 1 ≤ others.length := by rw [hbody]; simp
    obtain ⟨tail, rest, htail⟩ :=
      exists_tail_append maxNesting result hclosed next directive others' hdirective _ _ _ _ hrun
    refine ⟨.elseIf line condition body tail, rest, ?_⟩
    rw [hbody, htail, Tail.marks, List.cons_append, List.append_assoc]
  | otherwise =>
    obtain ⟨-, rfl⟩ := Scan.step_otherwise_eq_ok_iff.1 hstep
    obtain ⟨body, middle, hbody, hmiddle⟩ :=
      exists_tree_append maxNesting result hclosed others _ hrun
    rw [hbody] at hrun
    obtain ⟨closing, directive, rest, rfl, hdirective, hrun⟩ :=
      continues_of_run hrun hclosed hmiddle
    rw [Scan.run_cons, bind_eq_ok_iff] at hrun
    obtain ⟨scan', hstep, -⟩ := hrun
    -- Behind an `else` a block can only be closed.
    cases directive with
    | ifStart condition => cases hdirective
    | elseIf condition =>
      obtain ⟨-, hafter, -⟩ := Scan.step_elseIf_eq_ok_iff.1 hstep
      exact absurd rfl hafter
    | otherwise =>
      obtain ⟨hafter, -⟩ := Scan.step_otherwise_eq_ok_iff.1 hstep
      exact absurd rfl hafter
    | close =>
      refine ⟨.otherwise line body closing, rest, ?_⟩
      rw [hbody, Tail.marks, List.cons_append, List.append_assoc]
      rfl
  | close => exact ⟨.close line, others, rfl⟩
termination_by others.length + 1

end

/-- The lines of a document that is scanned to its end are the lines of a tree. -/
theorem exists_tree_of_run (maxNesting : Nat) (result : Scan) (marks : List Mark)
    (hrun : Scan.run maxNesting .start (marks.map Mark.directive) = .ok result)
    (hclosed : result.opened = []) :
    ∃ tree, marks = Tree.marks tree := by
  obtain ⟨tree, rest, hsplit, hrest⟩ :=
    exists_tree_append maxNesting result hclosed marks .start hrun
  rw [hsplit, List.map_append, Scan.run_append, bind_eq_ok_iff] at hrun
  obtain ⟨scan', htree, hrun⟩ := hrun
  obtain ⟨-, rfl⟩ := (tree.run_eq_ok_iff maxNesting 0 [] [] scan').1 htree
  rcases hrest with rfl | hrest
  · exact ⟨tree, hsplit.trans (List.append_nil _)⟩
  · obtain ⟨line, directive, others, rfl, hdirective⟩ := hrest
    rw [List.map_cons, Scan.run_cons, bind_eq_ok_iff] at hrun
    obtain ⟨scan', hstep, -⟩ := hrun
    exact absurd hstep (Scan.step_unopened hdirective)

theorem finish_eq_ok_iff {scan : Scan} {found : List Block} :
    scan.finish = .ok found ↔ scan.opened = [] ∧ scan.found = found := by
  unfold Scan.finish
  split
  · next h => simp [h]
  · next h => simp [h]

/-- A document with the lines of a tree is scanned without failure exactly when the tree fits, and
the blocks found are those of the tree. -/
theorem blocks_eq_ok_iff {options : Options} {text : String} {found : List Block} {tree : Tree}
    (htree : tree.marks = marks options.parseFences text) :
    blocks options text = .ok found ↔
      tree.Fits options.maxNesting 0 ∧ found = tree.blocks 0 := by
  have hdirectives := map_directive_marksFrom options.parseFences (Text.lines text)
  rw [blocks, ← hdirectives, ← marks, ← htree, bind_eq_ok_iff]
  constructor
  · intro h
    obtain ⟨scan, hrun, hfinish⟩ := h
    obtain ⟨hfits, rfl⟩ := (tree.run_eq_ok_iff _ 0 [] [] scan).1 hrun
    exact ⟨hfits, (finish_eq_ok_iff.1 hfinish).2.symm⟩
  · intro h
    obtain ⟨hfits, rfl⟩ := h
    exact ⟨_, (tree.run_eq_ok_iff _ 0 [] [] _).2 ⟨hfits, rfl⟩, finish_eq_ok_iff.2 ⟨rfl, rfl⟩⟩

/-- Every document that is scanned without failure has a tree. -/
theorem exists_tree_of_blocks {options : Options} {text : String} {found : List Block}
    (h : blocks options text = .ok found) :
    ∃ tree : Tree, tree.marks = marks options.parseFences text := by
  have hdirectives := map_directive_marksFrom options.parseFences (Text.lines text)
  rw [blocks, ← hdirectives, bind_eq_ok_iff] at h
  obtain ⟨scan, hrun, hfinish⟩ := h
  obtain ⟨tree, htree⟩ := exists_tree_of_run _ scan _ hrun (finish_eq_ok_iff.1 hfinish).1
  exact ⟨tree, htree.symm⟩

end CondDoc
