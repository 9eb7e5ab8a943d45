import CondDoc.Proofs.Document.Directives
import CondDoc.Proofs.Document.Layout
import CondDoc.Proofs.Document.Scan

namespace CondDoc

/-- The lines of a block that hold its own directives, with these directives. -/
def Block.sites (block : Block) : List (Int × Directive) :=
  block.branches.map (fun branch => (branch.start, branch.guard.directive)) ++ [(block.stop, .close)]

/-- The directives with the numbers of their lines, behind a number of lines. -/
def numbered (before : Nat) : List (Option Directive) → List (Int × Directive)
  | [] => []
  | none :: others => numbered (before + 1) others
  | some directive :: others => ((before + 1 : Nat), directive) :: numbered (before + 1) others

/-- The branches of a block follow one another from its first line to its last. -/
structure Block.Regular (block : Block) : Prop where
  first : ∃ branch, block.branches.head? = some branch ∧ branch.guard.kind = .condition ∧
    branch.start = block.start
  others : ∀ branch ∈ block.branches.tail,
    branch.guard.kind = .elseIf ∨ branch.guard.kind = .otherwise
  else_last : ∀ branch ∈ block.branches.dropLast, branch.guard.kind ≠ .otherwise
  forward : ∀ branch ∈ block.branches, branch.start ≤ branch.stop
  contiguous : block.branches.IsChain fun branch next => next.start = branch.stop + 1
  last : ∃ branch, block.branches.getLast? = some branch ∧ branch.stop = block.stop - 1
  expressions : ∀ branch ∈ block.branches, ∀ expression,
    branch.guard.expression? = some expression → expression ≠ "" ∧ Text.Trimmed expression

/-- Does a block lie inside the body of a branch? -/
def Block.Inside (block : Block) (branch : Branch) : Prop :=
  branch.start < block.start ∧ block.stop ≤ branch.stop

/-- Blocks as a scan of the lines finds them. -/
structure Arranged (options : Options) (lines : List String) (found : List Block) : Prop where
  within : ∀ block ∈ found,
    1 ≤ block.start ∧ block.start < block.stop ∧ block.stop ≤ lines.length
  regular : ∀ block ∈ found, block.Regular
  ordered : found.Pairwise fun first second => first.stop < second.stop
  /-- Of two blocks, the later one begins behind the other or has it inside one of its branches. -/
  nested : found.Pairwise fun first second =>
    first.stop < second.start ∨ ∃ branch ∈ second.branches, first.Inside branch
  shallow : ∀ line : Int, found.countP (·.covers line) ≤ options.maxNesting
  /-- A directive begins one branch or ends one block. -/
  once : ∀ site ∈ numbered 0 (directives options.parseFences lines),
    site ∈ found.flatMap Block.sites ∧
      (found.flatMap Block.sites).countP (fun other => other.1 = site.1) = 1
  sites_written : ∀ site ∈ found.flatMap Block.sites,
    site ∈ numbered 0 (directives options.parseFences lines)

theorem Tail.forward_branches (before : Nat) (tail : Tail) :
    ∀ branch ∈ tail.branches before, branch.start ≤ branch.stop := by
  cases tail with
  | close closing =>
    intro branch hbranch
    cases hbranch
  | elseIf line condition body tail =>
    intro branch hbranch
    rcases List.mem_cons.1 hbranch with rfl | hbranch
    · exact Int.ofNat_le.2 (Nat.le_add_right _ _)
    · exact tail.forward_branches _ branch hbranch
  | otherwise line body closing =>
    intro branch hbranch
    obtain rfl := List.mem_singleton.1 hbranch
    exact Int.ofNat_le.2 (Nat.le_add_right _ _)

theorem Tail.kind_of_mem_branches (before : Nat) (tail : Tail) :
    ∀ branch ∈ tail.branches before,
      branch.guard.kind = .elseIf ∨ branch.guard.kind = .otherwise := by
  cases tail with
  | close closing =>
    intro branch hbranch
    cases hbranch
  | elseIf line condition body tail =>
    intro branch hbranch
    rcases List.mem_cons.1 hbranch with rfl | hbranch
    · exact .inl rfl
    · exact tail.kind_of_mem_branches _ branch hbranch
  | otherwise line body closing =>
    intro branch hbranch
    obtain rfl := List.mem_singleton.1 hbranch
    exact .inr rfl

/-- What follows a branch that stops behind `before` lines is contiguous with it. -/
theorem Tail.isChain_branches {branch : Branch} {before : Nat} (tail : Tail)
    (hstop : branch.stop = before) :
    (branch :: tail.branches before).IsChain fun branch next => next.start = branch.stop + 1 := by
  cases tail with
  | close closing => exact .singleton _
  | elseIf line condition body tail =>
    refine .cons_cons ?_ (tail.isChain_branches rfl)
    rw [hstop]
    rfl
  | otherwise line body closing =>
    refine .cons_cons ?_ (.singleton _)
    rw [hstop]
    rfl

theorem Tail.exists_last_branch {branch : Branch} {before : Nat} (tail : Tail)
    (hstop : branch.stop = before) :
    ∃ last, (branch :: tail.branches before).getLast? = some last ∧
      last.stop = ((before + tail.marks.length : Nat) : Int) - 1 := by
  cases tail with
  | close closing =>
    refine ⟨branch, rfl, ?_⟩
    rw [Tail.marks, List.length_singleton]
    omega
  | elseIf line condition body tail =>
    have hnext : (⟨.elseIf condition, (before + 1 : Nat), (before + 1 + body.marks.length : Nat)⟩ :
        Branch).stop = (before + 1 + body.marks.length : Nat) := rfl
    obtain ⟨last, hlast, hline⟩ := tail.exists_last_branch hnext
    refine ⟨last, ?_, ?_⟩
    · rw [Tail.branches, List.getLast?_cons_cons, hlast]
    · rw [hline, Tail.marks, List.length_cons, List.length_append]
      omega
  | otherwise line body closing =>
    refine ⟨⟨.otherwise, (before + 1 : Nat), (before + 1 + body.marks.length : Nat)⟩, rfl, ?_⟩
    simp only [Tail.marks, List.length_cons, List.length_append, List.length_nil]
    omega

theorem Tail.else_last_branches {branch : Branch} {before : Nat} (tail : Tail)
    (hkind : branch.guard.kind ≠ .otherwise) :
    ∀ earlier ∈ (branch :: tail.branches before).dropLast, earlier.guard.kind ≠ .otherwise := by
  cases tail with
  | close closing =>
    intro earlier hearlier
    cases hearlier
  | elseIf line condition body tail =>
    intro earlier hearlier
    rcases List.mem_cons.1 hearlier with rfl | hearlier
    · exact hkind
    · exact tail.else_last_branches (by intro h; cases h) earlier hearlier
  | otherwise line body closing =>
    intro earlier hearlier
    obtain rfl := List.mem_singleton.1 hearlier
    exact hkind

mutual

/-- Each block of a tree has the branches of some tail. -/
theorem Tree.exists_tail_of_mem_blocks (before : Nat) (tree : Tree) (block : Block)
    (h : block ∈ tree.blocks before) :
    ∃ (start : Nat) (condition : String) (body : Tree) (tail : Tail),
      block = ⟨(start + 1 : Nat), (start + 1 + body.marks.length + tail.marks.length : Nat),
        tail.allBranches start condition body⟩ := by
  cases tree with
  | empty => cases h
  | line text rest => exact rest.exists_tail_of_mem_blocks _ block h
  | block opening condition body tail rest =>
    rw [Tree.blocks, List.mem_append, List.mem_append, List.mem_cons] at h
    rcases h with h | h | rfl | h
    · exact body.exists_tail_of_mem_blocks _ block h
    · exact tail.exists_tail_of_mem_blocks _ block h
    · exact ⟨before, condition, body, tail, rfl⟩
    · exact rest.exists_tail_of_mem_blocks _ block h

theorem Tail.exists_tail_of_mem_blocks (before : Nat) (tail : Tail) (block : Block)
    (h : block ∈ tail.blocks before) :
    ∃ (start : Nat) (condition : String) (body : Tree) (tail : Tail),
      block = ⟨(start + 1 : Nat), (start + 1 + body.marks.length + tail.marks.length : Nat),
        tail.allBranches start condition body⟩ := by
  cases tail with
  | close closing => cases h
  | elseIf line condition body tail =>
    rw [Tail.blocks, List.mem_append] at h
    rcases h with h | h
    · exact body.exists_tail_of_mem_blocks _ block h
    · exact tail.exists_tail_of_mem_blocks _ block h
  | otherwise line body closing => exact body.exists_tail_of_mem_blocks _ block h

end

theorem Tree.regular_of_mem_blocks {before : Nat} {tree : Tree} {block : Block}
    (h : block ∈ tree.blocks before)
    (hexpressions : ∀ branch ∈ block.branches, ∀ expression,
      branch.guard.expression? = some expression → expression ≠ "" ∧ Text.Trimmed expression) :
    block.Regular := by
  obtain ⟨start, condition, body, tail, rfl⟩ := tree.exists_tail_of_mem_blocks before block h
  exact {
    first := ⟨_, rfl, rfl, rfl⟩
    others := tail.kind_of_mem_branches _
    else_last := tail.else_last_branches (by intro h; cases h)
    forward := by
      intro branch hbranch
      rcases List.mem_cons.1 hbranch with rfl | hbranch
      · exact Int.ofNat_le.2 (Nat.le_add_right _ _)
      · exact tail.forward_branches _ branch hbranch
    contiguous := tail.isChain_branches rfl
    last := tail.exists_last_branch rfl
    expressions := hexpressions }

/-- The blocks behind the first branch of a block are inside its other branches. -/
theorem Tail.blocks_inside (before : Nat) (tail : Tail) (block : Block)
    (h : block ∈ tail.blocks before) : ∃ branch ∈ tail.branches before, block.Inside branch := by
  cases tail with
  | close closing => cases h
  | elseIf line condition body tail =>
    rw [Tail.blocks, List.mem_append] at h
    rcases h with h | h
    · obtain ⟨hstart, -, hstop⟩ := body.blocks_within _ block h
      exact ⟨_, List.mem_cons_self, hstart, hstop⟩
    · obtain ⟨branch, hbranch, hinside⟩ := tail.blocks_inside _ block h
      exact ⟨branch, List.mem_cons_of_mem _ hbranch, hinside⟩
  | otherwise line body closing =>
    obtain ⟨hstart, -, hstop⟩ := body.blocks_within _ block h
    exact ⟨_, List.mem_cons_self, hstart, hstop⟩

mutual

theorem Tree.pairwise_nested (before : Nat) (tree : Tree) :
    (tree.blocks before).Pairwise fun first second =>
      first.stop < second.start ∨ ∃ branch ∈ second.branches, first.Inside branch := by
  cases tree with
  | empty => exact .nil
  | line text rest => exact rest.pairwise_nested (before + 1)
  | block opening condition body tail rest =>
    have hbody := body.blocks_within (before + 1)
    have htail := tail.blocks_within (before + 1 + body.marks.length)
    have hrest := rest.blocks_within (before + 1 + body.marks.length + tail.marks.length)
    have hpos := tail.length_marks_pos
    rw [Tree.blocks, List.pairwise_append, List.pairwise_append, List.pairwise_cons]
    refine ⟨body.pairwise_nested _, ⟨tail.pairwise_nested _, ⟨?_, rest.pairwise_nested _⟩, ?_⟩, ?_⟩
    · intro later hlater
      have := hrest later hlater
      dsimp only
      omega
    · intro first hfirst later hlater
      rcases List.mem_cons.1 hlater with rfl | hlater
      · obtain ⟨branch, hbranch, hinside⟩ := tail.blocks_inside _ first hfirst
        exact .inr ⟨branch, List.mem_cons_of_mem _ hbranch, hinside⟩
      · have := htail first hfirst
        have := hrest later hlater
        omega
    · intro first hfirst later hlater
      have hfirst := hbody first hfirst
      rcases List.mem_append.1 hlater with hlater | hlater
      · have := htail later hlater
        omega
      · rcases List.mem_cons.1 hlater with rfl | hlater
        · exact .inr ⟨_, List.mem_cons_self, hfirst.1, hfirst.2.2⟩
        · have := hrest later hlater
          omega

theorem Tail.pairwise_nested (before : Nat) (tail : Tail) :
    (tail.blocks before).Pairwise fun first second =>
      first.stop < second.start ∨ ∃ branch ∈ second.branches, first.Inside branch := by
  cases tail with
  | close closing => exact .nil
  | elseIf line condition body tail =>
    rw [Tail.blocks, List.pairwise_append]
    refine ⟨body.pairwise_nested _, tail.pairwise_nested _, ?_⟩
    intro first hfirst later hlater
    have hbody := body.blocks_within _ first hfirst
    have htail := tail.blocks_within _ later hlater
    omega
  | otherwise line body closing => exact body.pairwise_nested _

end

theorem countP_covers_eq_zero {blocks : List Block} {line : Int}
    (h : ∀ block ∈ blocks, line < block.start ∨ block.stop < line) :
    blocks.countP (·.covers line) = 0 := by
  rw [List.countP_eq_zero]
  intro block hblock hcovers
  rw [Block.covers, Bool.and_eq_true, decide_eq_true_eq, decide_eq_true_eq] at hcovers
  have := h block hblock
  omega

mutual

/-- A tree that fits inside a number of open blocks adds no more than the rest of the limit. -/
theorem Tree.countP_covers_le {maxNesting depth : Nat} (before : Nat) (line : Int) (tree : Tree)
    (hfits : tree.Fits maxNesting depth) (hdepth : depth ≤ maxNesting) :
    depth + (tree.blocks before).countP (·.covers line) ≤ maxNesting := by
  cases tree with
  | empty => exact hdepth
  | line text rest => exact rest.countP_covers_le (before + 1) line hfits hdepth
  | block opening condition body tail rest =>
    obtain ⟨hroom, -, hbodyFits, htailFits, hrestFits⟩ := hfits
    have hbody := body.countP_covers_le (before + 1) line hbodyFits hroom
    have htail := tail.countP_covers_le (before + 1 + body.marks.length) line htailFits hroom
    have hrest := rest.countP_covers_le (before + 1 + body.marks.length + tail.marks.length) line
      hrestFits hdepth
    -- The line lies in the first body, in the rest of the block, or behind the block.
    have hbodyZero (h : (before + 1 + body.marks.length : Nat) < line) :
        (body.blocks (before + 1)).countP (·.covers line) = 0 := by
      apply countP_covers_eq_zero
      intro block hblock
      have := body.blocks_within _ block hblock
      omega
    have htailZero (h : line ≤ (before + 1 + body.marks.length : Nat) ∨
        (before + 1 + body.marks.length + tail.marks.length : Nat) < line) :
        (tail.blocks (before + 1 + body.marks.length)).countP (·.covers line) = 0 := by
      apply countP_covers_eq_zero
      intro block hblock
      have := tail.blocks_within _ block hblock
      omega
    have hrestZero (h : line ≤ (before + 1 + body.marks.length + tail.marks.length : Nat)) :
        (rest.blocks (before + 1 + body.marks.length + tail.marks.length)).countP
          (·.covers line) = 0 := by
      apply countP_covers_eq_zero
      intro block hblock
      have := rest.blocks_within _ block hblock
      omega
    rw [Tree.blocks, List.countP_append, List.countP_append, List.countP_cons]
    split
    · next hcovers =>
      rw [Block.covers, Bool.and_eq_true, decide_eq_true_eq, decide_eq_true_eq] at hcovers
      have hzero := hrestZero hcovers.2
      by_cases hline : line ≤ (before + 1 + body.marks.length : Nat)
      · have := htailZero (.inl hline)
        omega
      · have := hbodyZero (Int.not_le.1 hline)
        omega
    · next hcovers =>
      by_cases hline : line ≤ (before + 1 + body.marks.length + tail.marks.length : Nat)
      · have hzero := hrestZero hline
        by_cases hline : line ≤ (before + 1 + body.marks.length : Nat)
        · have := htailZero (.inl hline)
          omega
        · have := hbodyZero (Int.not_le.1 hline)
          omega
      · have hzero := htailZero (.inr (Int.not_le.1 hline))
        have := hbodyZero (by omega)
        omega

theorem Tail.countP_covers_le {maxNesting depth : Nat} (before : Nat) (line : Int) (tail : Tail)
    (hfits : tail.Fits maxNesting depth) (hdepth : depth ≤ maxNesting) :
    depth + (tail.blocks before).countP (·.covers line) ≤ maxNesting := by
  cases tail with
  | close closing => exact hdepth
  | elseIf text condition body tail =>
    obtain ⟨-, hbodyFits, htailFits⟩ := hfits
    have hbody := body.countP_covers_le (before + 1) line hbodyFits hdepth
    have htail := tail.countP_covers_le (before + 1 + body.marks.length) line htailFits hdepth
    rw [Tail.blocks, List.countP_append]
    by_cases hline : line ≤ (before + 1 + body.marks.length : Nat)
    · have hzero : (tail.blocks (before + 1 + body.marks.length)).countP (·.covers line) = 0 := by
        apply countP_covers_eq_zero
        intro block hblock
        have := tail.blocks_within _ block hblock
        omega
      omega
    · have hzero : (body.blocks (before + 1)).countP (·.covers line) = 0 := by
        apply countP_covers_eq_zero
        intro block hblock
        have := body.blocks_within _ block hblock
        omega
      omega
  | otherwise text body closing => exact body.countP_covers_le (before + 1) line hfits hdepth

end

theorem numbered_append (before : Nat) (first second : List (Option Directive)) :
    numbered before (first ++ second) =
      numbered before first ++ numbered (before + first.length) second := by
  induction first generalizing before with
  | nil => rfl
  | cons directive first ih =>
    have hnumber : before + (first.length + 1) = before + 1 + first.length := by omega
    rw [List.cons_append, List.length_cons, hnumber]
    cases directive with
    | none => exact ih (before + 1)
    | some directive => exact congrArg (List.cons _) (ih (before + 1))

theorem lt_of_mem_numbered {before : Nat} {directives : List (Option Directive)}
    {site : Int × Directive} (h : site ∈ numbered before directives) : before < site.1 := by
  induction directives generalizing before with
  | nil => cases h
  | cons directive others ih =>
    cases directive with
    | none =>
      have hlater : site ∈ numbered (before + 1) others := h
      have := ih hlater
      omega
    | some directive =>
      rcases List.mem_cons.1 h with rfl | h
      · exact Int.ofNat_lt.2 (Nat.lt_succ_self before)
      · have := ih h
        omega

/-- A line has one number. -/
theorem countP_numbered {before : Nat} {directives : List (Option Directive)}
    {site : Int × Directive} (h : site ∈ numbered before directives) :
    (numbered before directives).countP (fun other => other.1 = site.1) = 1 := by
  induction directives generalizing before with
  | nil => cases h
  | cons directive others ih =>
    cases directive with
    | none => exact ih h
    | some directive =>
      rw [numbered, List.countP_cons]
      rcases List.mem_cons.1 h with rfl | h
      · have hothers : (numbered (before + 1) others).countP
            (fun other => other.1 = ((before + 1 : Nat) : Int)) = 0 := by
          rw [List.countP_eq_zero]
          intro other hother heq
          have hlt := lt_of_mem_numbered hother
          rw [of_decide_eq_true heq] at hlt
          exact absurd hlt (Int.lt_irrefl _)
        rw [hothers, if_pos (decide_eq_true rfl)]
      · have hlt := lt_of_mem_numbered h
        rw [ih h, if_neg]
        intro heq
        rw [← of_decide_eq_true heq] at hlt
        exact absurd hlt (Int.lt_irrefl _)

mutual

/-- The directives of a tree are those of its blocks. -/
theorem Tree.sites_perm (before : Nat) (tree : Tree) :
    ((tree.blocks before).flatMap Block.sites).Perm
      (numbered before (tree.marks.map Mark.directive)) := by
  cases tree with
  | empty => exact .nil
  | line text rest => exact rest.sites_perm (before + 1)
  | block opening condition body tail rest =>
    have hbody := body.sites_perm (before + 1)
    have htail := tail.sites_perm (before + 1 + body.marks.length)
    have hrest := rest.sites_perm (before + 1 + body.marks.length + tail.marks.length)
    rw [List.perm_iff_count] at hbody htail hrest ⊢
    intro site
    have hbody := hbody site
    have htail := htail site
    have hrest := hrest site
    simp only [Tree.marks, List.map_cons, List.map_append, numbered, numbered_append,
      List.length_map, Tree.blocks, List.flatMap_append, List.flatMap_cons, Block.sites,
      Tail.allBranches, List.count_append, List.count_cons, Guard.directive] at hbody htail hrest ⊢
    omega

/-- The directives behind the first body of a block are those of the blocks there, those of its
other branches, and the one that closes it. -/
theorem Tail.sites_perm (before : Nat) (tail : Tail) :
    ((tail.blocks before).flatMap Block.sites ++
      ((tail.branches before).map (fun branch => (branch.start, branch.guard.directive)) ++
        [(((before + tail.marks.length : Nat) : Int), Directive.close)])).Perm
      (numbered before (tail.marks.map Mark.directive)) := by
  cases tail with
  | close closing => exact .refl _
  | elseIf line condition body tail =>
    have hbody := body.sites_perm (before + 1)
    have htail := tail.sites_perm (before + 1 + body.marks.length)
    have hline : before + (body.marks.length + tail.marks.length + 1) =
        before + 1 + body.marks.length + tail.marks.length := by omega
    rw [List.perm_iff_count] at hbody htail ⊢
    intro site
    have hbody := hbody site
    have htail := htail site
    simp only [Tail.marks, List.map_cons, List.map_append, numbered, numbered_append,
      List.length_map, List.length_cons, List.length_append, hline, Tail.blocks, Tail.branches,
      List.flatMap_append, List.count_append, List.count_cons, Guard.directive] at hbody htail ⊢
    omega
  | otherwise line body closing =>
    have hbody := body.sites_perm (before + 1)
    have hline : before + (body.marks.length + 1 + 1) = before + 1 + body.marks.length + 1 := by
      omega
    rw [List.perm_iff_count] at hbody ⊢
    intro site
    have hbody := hbody site
    simp only [Tail.marks, List.map_cons, List.map_append, List.map_nil, numbered, numbered_append,
      List.length_map, List.length_cons, List.length_append, List.length_nil, hline, Tail.blocks,
      Tail.branches, List.count_append, List.count_cons, List.count_nil,
      Guard.directive] at hbody ⊢
    omega

end

theorem mem_of_mem_numbered {before : Nat} {directives : List (Option Directive)}
    {site : Int × Directive} (h : site ∈ numbered before directives) :
    some site.2 ∈ directives := by
  induction directives generalizing before with
  | nil => cases h
  | cons directive others ih =>
    cases directive with
    | none => exact List.mem_cons_of_mem _ (ih h)
    | some directive =>
      rcases List.mem_cons.1 h with rfl | h
      · exact List.mem_cons_self
      · exact List.mem_cons_of_mem _ (ih h)

/-- The blocks that are found lie properly inside one another and take up all directives. -/
theorem blocks_arranged (options : Options) (text : String) (found : List Block)
    (h : blocks options text = .ok found) : Arranged options (Text.lines text) found := by
  obtain ⟨tree, htree⟩ := exists_tree_of_blocks h
  obtain ⟨hfits, rfl⟩ := (blocks_eq_ok_iff htree).1 h
  have hdirectives : tree.marks.map Mark.directive =
      directives options.parseFences (Text.lines text) := by
    rw [htree, marks, map_directive_marksFrom]
  have hlength : tree.marks.length = (Text.lines text).length := by
    rw [htree, marks, ← List.length_map Mark.line, map_line_marksFrom]
  have hperm := tree.sites_perm 0
  rw [hdirectives] at hperm
  have hexpressions : ∀ block ∈ tree.blocks 0, ∀ branch ∈ block.branches, ∀ expression,
      branch.guard.expression? = some expression →
        expression ≠ "" ∧ Text.Trimmed expression := by
    intro block hblock branch hbranch expression hexpression
    have hsite : (branch.start, branch.guard.directive) ∈ block.sites :=
      List.mem_append_left _ (List.mem_map_of_mem hbranch)
    have hwritten : some branch.guard.directive ∈
        directives options.parseFences (Text.lines text) :=
      mem_of_mem_numbered (hperm.subset (List.mem_flatMap.2 ⟨block, hblock, hsite⟩))
    rw [← branch.guard.expression?_directive] at hexpression
    refine ⟨?_, trimmed_of_mem_directives hwritten hexpression⟩
    rintro rfl
    rw [← hdirectives] at hwritten
    exact hfits.expression_ne_empty _ (mem_word.2 hwritten) hexpression
  exact {
    within := by
      intro block hblock
      have := tree.blocks_within 0 block hblock
      rw [hlength] at this
      omega
    regular := fun block hblock => Tree.regular_of_mem_blocks hblock (hexpressions block hblock)
    ordered := tree.pairwise_blocks 0
    nested := tree.pairwise_nested 0
    shallow := by
      intro line
      have := tree.countP_covers_le 0 line hfits (Nat.zero_le _)
      omega
    once := by
      intro site hsite
      refine ⟨hperm.symm.subset hsite, ?_⟩
      rw [hperm.countP_eq]
      exact countP_numbered hsite
    sites_written := fun site hsite => hperm.subset hsite }

/-- A block with three branches, another block in the first one and fenced code in the second. -/
def outlineText : String :=
  "\x7b\x7b#if A\x7d\x7d\n\x7b\x7b#if B\x7d\x7d\n\x7b\x7b/if\x7d\x7d\n\x7b\x7belse if C\x7d\x7d\n~~~\n\x7b\x7b/if\x7d\x7d\n~~~\n\x7b\x7belse\x7d\x7d\n\x7b\x7b/if\x7d\x7d"

def outlineBlocks : List Block :=
  [⟨2, 3, [⟨.condition "B", 2, 2⟩]⟩,
    ⟨1, 9, [⟨.condition "A", 1, 3⟩, ⟨.elseIf "C", 4, 7⟩, ⟨.otherwise, 8, 8⟩]⟩]

theorem arranged_outlineBlocks :
    blocks .standard outlineText = .ok outlineBlocks ∧
      Arranged .standard (Text.lines outlineText) outlineBlocks := by
  have hscan : blocks .standard outlineText = .ok outlineBlocks := rfl
  exact ⟨hscan, blocks_arranged .standard outlineText outlineBlocks hscan⟩

end CondDoc
