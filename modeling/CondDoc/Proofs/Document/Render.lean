import CondDoc.Proofs.Document.Layout
import CondDoc.Proofs.Document.Scan
import CondDoc.Proofs.Document.Selection
import CondDoc.Proofs.Expression.Completeness

namespace CondDoc

/-- The lines whose numbers pass a test, where the first one has the given number. -/
def linesWhere (keep : Nat → Bool) : (number : Nat) → List String → List String
  | _, [] => []
  | number, line :: lines =>
    if keep number then line :: linesWhere keep (number + 1) lines
    else linesWhere keep (number + 1) lines

theorem linesWhere_append (keep : Nat → Bool) (number : Nat) (first second : List String) :
    linesWhere keep number (first ++ second) =
      linesWhere keep number first ++ linesWhere keep (number + first.length) second := by
  induction first generalizing number with
  | nil => rfl
  | cons line first ih =>
    have hnumber : number + (first.length + 1) = number + 1 + first.length := by omega
    simp only [List.cons_append, linesWhere, ih, List.length_cons, hnumber]
    split <;> rfl

theorem linesWhere_congr {keep keep' : Nat → Bool} {number : Nat} {lines : List String}
    (h : ∀ i, number ≤ i → i < number + lines.length → keep i = keep' i) :
    linesWhere keep number lines = linesWhere keep' number lines := by
  induction lines generalizing number with
  | nil => rfl
  | cons line lines ih =>
    have hfirst : keep number = keep' number := h number (Nat.le_refl _) (by simp)
    have hothers : linesWhere keep (number + 1) lines = linesWhere keep' (number + 1) lines := by
      apply ih
      intro i hlow hhigh
      exact h i (by omega) (by rw [List.length_cons]; omega)
    rw [linesWhere, linesWhere, hfirst, hothers]

theorem linesWhere_eq_nil {keep : Nat → Bool} {number : Nat} {lines : List String}
    (h : ∀ i, number ≤ i → i < number + lines.length → keep i = false) :
    linesWhere keep number lines = [] := by
  induction lines generalizing number with
  | nil => rfl
  | cons line lines ih =>
    have hfirst : keep number = false := h number (Nat.le_refl _) (by simp)
    have hothers : linesWhere keep (number + 1) lines = [] := by
      apply ih
      intro i hlow hhigh
      exact h i (by omega) (by rw [List.length_cons]; omega)
    rw [linesWhere, hfirst, hothers]
    rfl

theorem keptLines_eq_linesWhere (decisions : List Decision) (number : Nat) (lines : List String) :
    keptLines decisions number lines =
      linesWhere (fun i => decisions.all (·.keeps i)) number lines := by
  induction lines generalizing number with
  | nil => rfl
  | cons line lines ih => rw [keptLines, linesWhere, ih]

theorem Decision.keeps_of_not_covers {decision : Decision} {line : Int}
    (h : decision.block.covers line = false) : decision.keeps line = true := by
  rw [Decision.keeps, h]
  rfl

theorem Decision.keeps_of_covers {decision : Decision} {line : Int}
    (h : decision.block.covers line = true) :
    decision.keeps line = decision.chosen.any (·.covers line) := by
  rw [Decision.keeps, h]
  rfl

theorem Block.covers_eq_false {block : Block} {line : Int}
    (h : line < block.start ∨ block.stop < line) : block.covers line = false := by
  unfold Block.covers
  rcases h with h | h
  · simp [Int.not_le.2 h]
  · simp [Int.not_le.2 h]

/-- Decisions keep the lines that lie outside their blocks. -/
theorem all_keeps_of_outside {context : Expression.Context} {blocks : List Block}
    {decisions : List Decision} (hdecide : decideAll context blocks = .ok decisions) {line : Int}
    (h : ∀ block ∈ blocks, line < block.start ∨ block.stop < line) :
    decisions.all (·.keeps line) = true := by
  rw [List.all_eq_true]
  intro decision hmem
  apply Decision.keeps_of_not_covers
  exact Block.covers_eq_false (h _ (block_mem_of_decideAll hdecide hmem))

theorem any_covers_of_choose {context : Expression.Context} {branches : List Branch}
    {chosen : Option Branch} {traces : List BranchTrace}
    (hchoose : choose context branches = .ok (chosen, traces)) {line : Int}
    (h : ∀ branch ∈ branches, line ≤ branch.start ∨ branch.stop < line) :
    chosen.any (·.covers line) = false := by
  cases chosen with
  | none => rfl
  | some branch =>
    rw [Option.any_some, Branch.covers]
    rcases h branch (mem_of_choose hchoose) with h | h
    · simp [Int.not_lt.2 h]
    · simp [Int.not_le.2 h]

section

variable {context : Expression.Context} {before : Nat} {guard : Guard} {body : Tree} {tail : Tail}
  {bodyDecisions tailDecisions : List Decision} {chosen : Option Branch}
  {traces : List BranchTrace}

/-- When the branch is chosen, nothing behind its body stays. -/
theorem linesWhere_chosen
    (htail : decideAll context (tail.blocks (before + 1 + body.marks.length)) = .ok tailDecisions) :
    linesWhere (fun i => (bodyDecisions ++ tailDecisions).all (·.keeps i) &&
        (some (⟨guard, (before + 1 : Nat), (before + 1 + body.marks.length : Nat)⟩ : Branch)).any
          (·.covers i)) (before + 1 + 1) (body.marks.map Mark.line ++ tail.marks.map Mark.line) =
      linesWhere (fun i => bodyDecisions.all (·.keeps i)) (before + 1 + 1)
        (body.marks.map Mark.line) := by
  rw [linesWhere_append, @linesWhere_eq_nil _ _ (tail.marks.map Mark.line), List.append_nil]
  · apply linesWhere_congr
    intro i hlow hhigh
    rw [List.length_map] at hhigh
    have hkeeps : tailDecisions.all (·.keeps i) = true := by
      apply all_keeps_of_outside htail
      intro block hblock
      have := tail.blocks_within _ block hblock
      omega
    have hcovers : Branch.covers ⟨guard, (before + 1 : Nat), (before + 1 + body.marks.length : Nat)⟩
        i = true := by
      simp only [Branch.covers, Bool.and_eq_true, decide_eq_true_eq]
      omega
    rw [List.all_append, hkeeps, Option.any_some, hcovers, Bool.and_true, Bool.and_true]
  · intro i hlow hhigh
    rw [List.length_map] at hlow
    have hcovers : Branch.covers ⟨guard, (before + 1 : Nat), (before + 1 + body.marks.length : Nat)⟩
        i = false := by
      simp only [Branch.covers, Bool.and_eq_false_iff, decide_eq_false_iff_not]
      omega
    rw [Option.any_some, hcovers, Bool.and_false]

/-- When a later branch is chosen or none, nothing of the body stays. -/
theorem linesWhere_passed
    (hbody : decideAll context (body.blocks (before + 1)) = .ok bodyDecisions)
    (hchoose : choose context (tail.branches (before + 1 + body.marks.length)) =
      .ok (chosen, traces)) :
    linesWhere (fun i => (bodyDecisions ++ tailDecisions).all (·.keeps i) &&
        chosen.any (·.covers i)) (before + 1 + 1)
          (body.marks.map Mark.line ++ tail.marks.map Mark.line) =
      linesWhere (fun i => tailDecisions.all (·.keeps i) && chosen.any (·.covers i))
        (before + 1 + body.marks.length + 1) (tail.marks.map Mark.line) := by
  have hnumber : before + 1 + 1 + body.marks.length = before + 1 + body.marks.length + 1 := by
    omega
  rw [linesWhere_append, linesWhere_eq_nil, List.nil_append, List.length_map, hnumber]
  · apply linesWhere_congr
    intro i hlow hhigh
    have hkeeps : bodyDecisions.all (·.keeps i) = true := by
      apply all_keeps_of_outside hbody
      intro block hblock
      have := body.blocks_within _ block hblock
      omega
    rw [List.all_append, hkeeps, Bool.true_and]
  · intro i hlow hhigh
    rw [List.length_map] at hhigh
    have hcovers : chosen.any (·.covers i) = false := by
      apply any_covers_of_choose hchoose
      intro branch hbranch
      have := tail.branches_within _ branch hbranch
      omega
    rw [hcovers, Bool.and_false]

/-- Of a branch and the branches behind it, the body of the branch stays if the branch holds, and
otherwise what stays of the branches behind it. -/
theorem linesWhere_branch {answer : Bool} (line : String) (tail : Tail)
    (hbody : decideAll context (body.blocks (before + 1)) = .ok bodyDecisions)
    (htail : decideAll context (tail.blocks (before + 1 + body.marks.length)) = .ok tailDecisions)
    (hchoose : choose context (⟨guard, (before + 1 : Nat), (before + 1 + body.marks.length : Nat)⟩ ::
      tail.branches (before + 1 + body.marks.length)) = .ok (chosen, traces))
    (hholds : Branch.holds ⟨guard, (before + 1 : Nat), (before + 1 + body.marks.length : Nat)⟩
      context = .ok answer)
    (bodyRender : linesWhere (fun i => bodyDecisions.all (·.keeps i)) (before + 1 + 1)
      (body.marks.map Mark.line) = body.render context)
    (tailRender : ∀ traces, choose context (tail.branches (before + 1 + body.marks.length)) =
        .ok (chosen, traces) →
      linesWhere (fun i => tailDecisions.all (·.keeps i) && chosen.any (·.covers i))
        (before + 1 + body.marks.length + 1) (tail.marks.map Mark.line) = tail.render context) :
    linesWhere
        (fun i => (bodyDecisions ++ tailDecisions).all (·.keeps i) && chosen.any (·.covers i))
        (before + 1) (line :: (body.marks.map Mark.line ++ tail.marks.map Mark.line)) =
      if answer then body.render context else tail.render context := by
  have hdirective : chosen.any (·.covers (before + 1 : Nat)) = false := by
    apply any_covers_of_choose hchoose
    intro branch hbranch
    rcases List.mem_cons.1 hbranch with rfl | hbranch
    · exact .inl (Int.le_refl _)
    · have := tail.branches_within _ branch hbranch
      omega
  rw [linesWhere, hdirective, Bool.and_false, if_neg Bool.false_ne_true]
  obtain ⟨answer', hanswer, hchosen⟩ := exists_of_choose_cons hchoose
  obtain rfl := Except.ok.inj (hholds.symm.trans hanswer)
  cases answer with
  | true =>
    obtain rfl : chosen = some _ := hchosen
    rw [linesWhere_chosen htail, bodyRender]
    rfl
  | false =>
    obtain ⟨traces', hchosen⟩ := hchosen
    rw [linesWhere_passed hbody hchosen, tailRender traces' hchosen]
    rfl

end

theorem accepts_of_holds {context : Expression.Context} {condition : String} {branch : Branch}
    {answer : Bool} (hguard : branch.guard.expression? = some condition)
    (h : branch.holds context = .ok answer) : context.accepts condition = answer := by
  rw [holds_of_expression hguard] at h
  unfold Expression.Context.accepts
  cases hvalue : Expression.evaluateText context condition with
  | ok value =>
    rw [hvalue] at h
    cases h
    rfl
  | error cause =>
    rw [hvalue] at h
    cases h

mutual

/-- Of the lines of a tree, the decisions about its blocks keep those that it renders to. -/
theorem Tree.linesWhere_eq_render {context : Expression.Context} (before : Nat) (tree : Tree)
    {decisions : List Decision} (hdecide : decideAll context (tree.blocks before) = .ok decisions) :
    linesWhere (fun i => decisions.all (·.keeps i)) (before + 1) (tree.marks.map Mark.line) =
      tree.render context := by
  cases tree with
  | empty => rfl
  | line text rest =>
    have hkeeps : decisions.all (·.keeps (before + 1 : Nat)) = true := by
      apply all_keeps_of_outside hdecide
      intro block hblock
      have := rest.blocks_within _ block hblock
      omega
    rw [Tree.marks, List.map_cons, linesWhere, hkeeps, if_pos rfl,
      rest.linesWhere_eq_render (before + 1) hdecide, Tree.render]
  | block opening condition body tail rest =>
    rw [Tree.blocks, decideAll_append_eq_ok_iff] at hdecide
    obtain ⟨bodyDecisions, others, hbody, hothers, rfl⟩ := hdecide
    rw [decideAll_append_eq_ok_iff] at hothers
    obtain ⟨tailDecisions, others, htail, hothers, rfl⟩ := hothers
    obtain ⟨decision, restDecisions, hselect, hrest, rfl⟩ := decideAll_cons_eq_ok_iff.1 hothers
    obtain ⟨hblock, traces, hchoose, -⟩ := of_select_eq_ok hselect
    obtain ⟨answer, hholds, -⟩ := exists_of_choose_cons hchoose
    have hinBlock := linesWhere_branch opening tail hbody htail hchoose hholds
      (body.linesWhere_eq_render _ hbody) fun traces h => tail.linesWhere_eq_render _ htail h
    have hinRest := rest.linesWhere_eq_render _ hrest
    have hlines : (Tree.block opening condition body tail rest).marks.map Mark.line =
        (opening :: (body.marks.map Mark.line ++ tail.marks.map Mark.line)) ++
          rest.marks.map Mark.line := by
      simp only [Tree.marks, List.map_cons, List.map_append, List.cons_append, List.append_assoc]
    have hnumber : before + 1 + (body.marks.length + tail.marks.length + 1) =
        before + 1 + body.marks.length + tail.marks.length + 1 := by
      omega
    rw [hlines, linesWhere_append, List.length_cons, List.length_append, List.length_map,
      List.length_map, hnumber, Tree.render, accepts_of_holds rfl hholds, ← hinBlock,
      ← hinRest]
    congr 1
    · apply linesWhere_congr
      intro i hlow hhigh
      rw [List.length_cons, List.length_append, List.length_map, List.length_map] at hhigh
      have hkeeps : restDecisions.all (·.keeps i) = true := by
        apply all_keeps_of_outside hrest
        intro block hmem
        have := rest.blocks_within _ block hmem
        omega
      have hcovers : decision.block.covers i = true := by
        rw [hblock, Block.covers, Bool.and_eq_true, decide_eq_true_eq, decide_eq_true_eq]
        dsimp only
        omega
      rw [List.all_append, List.all_append, List.all_append, List.all_cons, hkeeps, Bool.and_true,
        Decision.keeps_of_covers hcovers, Bool.and_assoc]
    · apply linesWhere_congr
      intro i hlow hhigh
      have hkeepsBody : bodyDecisions.all (·.keeps i) = true := by
        apply all_keeps_of_outside hbody
        intro block hmem
        have := body.blocks_within _ block hmem
        omega
      have hkeepsTail : tailDecisions.all (·.keeps i) = true := by
        apply all_keeps_of_outside htail
        intro block hmem
        have := tail.blocks_within _ block hmem
        omega
      have hcovers : decision.block.covers i = false := by
        apply Block.covers_eq_false
        rw [hblock]
        dsimp only
        omega
      rw [List.all_append, List.all_append, List.all_cons, hkeepsBody, hkeepsTail,
        Decision.keeps_of_not_covers hcovers, Bool.true_and, Bool.true_and, Bool.true_and]

/-- The same for the rest of a block, where the chosen branch decides besides. -/
theorem Tail.linesWhere_eq_render {context : Expression.Context} (before : Nat) (tail : Tail)
    {decisions : List Decision} {chosen : Option Branch} {traces : List BranchTrace}
    (hdecide : decideAll context (tail.blocks before) = .ok decisions)
    (hchoose : choose context (tail.branches before) = .ok (chosen, traces)) :
    linesWhere (fun i => decisions.all (·.keeps i) && chosen.any (·.covers i)) (before + 1)
      (tail.marks.map Mark.line) = tail.render context := by
  cases tail with
  | close closing =>
    cases hchoose
    simp only [Tail.marks, List.map_cons, List.map_nil, linesWhere, Option.any_none, Bool.and_false]
    rfl
  | elseIf line condition body tail =>
    rw [Tail.blocks, decideAll_append_eq_ok_iff] at hdecide
    obtain ⟨bodyDecisions, tailDecisions, hbody, htail, rfl⟩ := hdecide
    obtain ⟨answer, hholds, -⟩ := exists_of_choose_cons hchoose
    have hrender := linesWhere_branch line tail hbody htail hchoose hholds
      (body.linesWhere_eq_render _ hbody) fun traces h => tail.linesWhere_eq_render _ htail h
    rw [Tail.marks, List.map_cons, List.map_append, hrender, Tail.render,
      accepts_of_holds rfl hholds]
  | otherwise line body closing =>
    have hbody : decideAll context (body.blocks (before + 1)) = .ok decisions := hdecide
    have hclosing : ∀ traces, choose context [] = .ok (chosen, traces) →
        linesWhere (fun i => ([] : List Decision).all (·.keeps i) && chosen.any (·.covers i))
          (before + 1 + body.marks.length + 1) [closing] = [] := by
      intro traces h
      cases h
      rfl
    have hrender := linesWhere_branch line (.close closing) hbody rfl hchoose rfl
      (body.linesWhere_eq_render _ hbody) hclosing
    rw [List.append_nil] at hrender
    rw [Tail.marks, List.map_cons, List.map_append]
    exact hrender

end

/-- The lines that are no directive. -/
def plainLines (marks : List Mark) : List String :=
  (marks.filter fun mark => mark.directive.isNone).map Mark.line

theorem plainLines_append (first second : List Mark) :
    plainLines (first ++ second) = plainLines first ++ plainLines second := by
  rw [plainLines, List.filter_append, List.map_append, plainLines, plainLines]

mutual

theorem Tree.render_sublist (context : Expression.Context) (tree : Tree) :
    (tree.render context).Sublist (plainLines tree.marks) := by
  cases tree with
  | empty => exact .slnil
  | line text rest => exact (rest.render_sublist context).cons_cons text
  | block opening condition body tail rest =>
    have hbody := body.render_sublist context
    have htail := tail.render_sublist context
    have hlines : plainLines (Tree.block opening condition body tail rest).marks =
        (plainLines body.marks ++ plainLines tail.marks) ++ plainLines rest.marks := by
      rw [← plainLines_append, ← plainLines_append, List.append_assoc]
      rfl
    rw [hlines, Tree.render]
    apply List.Sublist.append _ (rest.render_sublist context)
    split
    · exact hbody.trans (List.sublist_append_left _ _)
    · exact htail.trans (List.sublist_append_right _ _)

theorem Tail.render_sublist (context : Expression.Context) (tail : Tail) :
    (tail.render context).Sublist (plainLines tail.marks) := by
  cases tail with
  | close closing => exact .slnil
  | elseIf line condition body tail =>
    have hlines : plainLines (Tail.elseIf line condition body tail).marks =
        plainLines body.marks ++ plainLines tail.marks := by
      rw [← plainLines_append]
      rfl
    rw [hlines, Tail.render]
    split
    · exact (body.render_sublist context).trans (List.sublist_append_left _ _)
    · exact (tail.render_sublist context).trans (List.sublist_append_right _ _)
  | otherwise line body closing =>
    have hlines : plainLines (Tail.otherwise line body closing).marks =
        plainLines body.marks ++ [] := plainLines_append body.marks _
    rw [hlines, List.append_nil]
    exact body.render_sublist context

end

/-- An empty text needs no case of its own. -/
theorem render_of_ofArguments {arguments : Arguments} {resolver : Resolver}
    (hargs : Resolver.ofArguments arguments = .ok resolver) (text : String) (options : Options) :
    render text arguments options =
      (renderIn ⟨resolver, options⟩ text).mapError Error.template := by
  unfold render
  split
  · next hempty =>
    have hblocks : blocks options "" = .ok [] := by
      unfold blocks directives
      split <;> rfl
    rw [hempty, renderIn, hblocks]
    rfl
  · rw [hargs]

/-- If the blocks of its tree can be decided, a document is pruned to what the tree renders to. -/
theorem prune_tree {context : Expression.Context} {text : String} {tree : Tree}
    (htree : tree.marks = marks context.options.parseFences text) {decisions : List Decision}
    (hdecide : decideAll context (tree.blocks 0) = .ok decisions) :
    prune context text (tree.blocks 0) =
      .ok ⟨Text.unlines (tree.render context), ⟨decisions.map (·.trace)⟩⟩ := by
  have hlines : Text.lines text = tree.marks.map Mark.line := by
    rw [htree, marks, map_line_marksFrom]
  have hkept : keptLines decisions 1 (Text.lines text) = tree.render context := by
    rw [keptLines_eq_linesWhere, hlines, tree.linesWhere_eq_render 0 hdecide]
  rw [prune, hdecide, ← hkept]
  rfl

/-- A document renders to what the tree of its lines renders to, if all its blocks can be decided,
also those in branches that are not taken. Otherwise the first one to be closed that cannot be
decided makes the rendering fail. -/
theorem render_eq_tree_render (text : String) (arguments : Arguments) (options : Options)
    (resolver : Resolver) (found : List Block)
    (hargs : Resolver.ofArguments arguments = .ok resolver)
    (hscan : blocks options text = .ok found) :
    (∃ tree : Tree, tree.marks = marks options.parseFences text) ∧
    ∀ tree : Tree, tree.marks = marks options.parseFences text →
      found = tree.blocks 0 ∧
      ((∀ block ∈ found, ∃ decision, block.select ⟨resolver, options⟩ = .ok decision) →
        (render text arguments options).map Rendering.text =
          .ok (Text.unlines (tree.render ⟨resolver, options⟩))) ∧
      (∀ block ∈ found, ∀ failure, block.select ⟨resolver, options⟩ = .error failure →
        (∀ earlier ∈ found, earlier.stop < block.stop →
          ∃ decision, earlier.select ⟨resolver, options⟩ = .ok decision) →
        render text arguments options = .error (.template failure)) ∧
      (tree.render ⟨resolver, options⟩).Sublist (plainLines (marks options.parseFences text)) := by
  have hrender : render text arguments options =
      (prune ⟨resolver, options⟩ text found).mapError Error.template := by
    rw [render_of_ofArguments hargs, renderIn, hscan]
    rfl
  refine ⟨exists_tree_of_blocks hscan, ?_⟩
  intro tree htree
  obtain ⟨-, hfound⟩ := (blocks_eq_ok_iff htree).1 hscan
  refine ⟨hfound, ?_, ?_, ?_⟩
  · intro hselect
    obtain ⟨decisions, hdecide⟩ := exists_decideAll hselect
    rw [hfound] at hdecide
    rw [hrender, hfound, prune_tree htree hdecide]
    rfl
  · intro block hblock failure hfailure hearlier
    have hsorted := tree.pairwise_blocks 0
    obtain ⟨before, after, hsplit⟩ := List.append_of_mem hblock
    rw [← hfound, hsplit, List.pairwise_append] at hsorted
    have hbefore : ∀ earlier ∈ before,
        ∃ decision, earlier.select ⟨resolver, options⟩ = .ok decision := by
      intro earlier hmem
      apply hearlier earlier (by rw [hsplit]; exact List.mem_append_left _ hmem)
      exact hsorted.2.2 earlier hmem block List.mem_cons_self
    rw [hrender, prune, hsplit, decideAll_eq_error hbefore hfailure]
    rfl
  · rw [← htree]
    exact tree.render_sublist _

theorem list_X : Token.list "X" = .ok [⟨.identifier, "X"⟩] := by
  change Token.listFrom 1 ['X'] = _
  rw [Token.listFrom, if_neg (by decide)]
  change (Token.listFrom 2 [] >>= _) = _
  rw [Token.listFrom]
  rfl

theorem list_not_X : Token.list "!X" = .ok [⟨.not, "!"⟩, ⟨.identifier, "X"⟩] := by
  change Token.listFrom 1 ['!', 'X'] = _
  rw [Token.listFrom, if_neg (by decide)]
  change (Token.listFrom 2 ['X'] >>= _) = _
  rw [Token.listFrom, if_neg (by decide)]
  change ((Token.listFrom 3 [] >>= _) >>= _) = _
  rw [Token.listFrom]
  rfl

theorem evaluateText_X {context : Expression.Context} {value : Value}
    (h : context.resolver.resolve? "X" = some value) :
    Expression.evaluateText context "X" = .ok value.truthy := by
  rw [Expression.evaluateText, list_X, ok_bind]
  apply Expression.evaluate_of_derives
  exact .conjunction (.negation (.comparison (.truth (.reference .none (.known h)))))

theorem evaluateText_not_X {context : Expression.Context} {value : Value}
    (h : context.resolver.resolve? "X" = some value) :
    Expression.evaluateText context "!X" = .ok (!value.truthy) := by
  rw [Expression.evaluateText, list_not_X, ok_bind]
  apply Expression.evaluate_of_derives
  exact .conjunction (.negation (.not (.comparison (.truth (.reference .none (.known h))))))

theorem evaluateText_X_on (options : Options) :
    Expression.evaluateText ⟨⟨[("X", .string "ON")]⟩, options⟩ "X" = .ok true := by
  have hlookup : Resolver.resolve? ⟨[("X", .string "ON")]⟩ "X" = some (.string "ON") := rfl
  have htruthy : Value.truthy (.string "ON") = true := by decide
  rw [evaluateText_X hlookup, htruthy]

/-- A block in the first branch of another one. -/
def nestedText : String :=
  "a\n\x7b\x7b#if X\x7d\x7d\nb\n\x7b\x7b#if !X\x7d\x7d\nc\n\x7b\x7belse\x7d\x7d\nd\n\x7b\x7b/if\x7d\x7d\n\x7b\x7b/if\x7d\x7d"

def nestedTree : Tree :=
  .line "a" (.block "\x7b\x7b#if X\x7d\x7d" "X"
    (.line "b" (.block "\x7b\x7b#if !X\x7d\x7d" "!X" (.line "c" .empty)
      (.otherwise "\x7b\x7belse\x7d\x7d" (.line "d" .empty) "\x7b\x7b/if\x7d\x7d") .empty))
    (.close "\x7b\x7b/if\x7d\x7d") .empty)

def nestedArguments : Arguments := .data (.mapping [(.text "X", .text "ON")])

theorem render_nestedText :
    Resolver.ofArguments nestedArguments = .ok ⟨[("X", .string "ON")]⟩ ∧
    blocks .standard nestedText = .ok (nestedTree.blocks 0) ∧
    nestedTree.marks = marks false nestedText ∧
    (render nestedText nestedArguments .standard).map Rendering.text = .ok "a\nb\nd" := by
  have hargs : Resolver.ofArguments nestedArguments = .ok ⟨[("X", .string "ON")]⟩ := rfl
  have hblocks : nestedTree.blocks 0 =
      [⟨4, 8, [⟨.condition "!X", 4, 5⟩, ⟨.otherwise, 6, 7⟩]⟩,
        ⟨2, 9, [⟨.condition "X", 2, 8⟩]⟩] := rfl
  have hscan : blocks .standard nestedText = .ok (nestedTree.blocks 0) := by
    rw [hblocks]
    rfl
  have htree : nestedTree.marks = marks false nestedText := by rfl
  let context : Expression.Context := ⟨⟨[("X", .string "ON")]⟩, .standard⟩
  have hlookup : context.resolver.resolve? "X" = some (.string "ON") := rfl
  have htruthy : Value.truthy (.string "ON") = true := by decide
  have hX : Expression.evaluateText context "X" = .ok true := by
    rw [evaluateText_X hlookup, htruthy]
  have hNot : Expression.evaluateText context "!X" = .ok false := by
    rw [evaluateText_not_X hlookup, htruthy]
    rfl
  have hselect : ∀ block ∈ nestedTree.blocks 0,
      ∃ decision, block.select context = .ok decision := by
    intro block hblock
    rw [hblocks, List.mem_cons, List.mem_singleton] at hblock
    rcases hblock with rfl | rfl
    · exact ⟨_, by simp only [Block.select, choose, Branch.holds, hNot]; rfl⟩
    · exact ⟨_, by simp only [Block.select, choose, Branch.holds, hX]; rfl⟩
  have hrender : nestedTree.render context = ["a", "b", "d"] := by
    simp only [nestedTree, Tree.render, Tail.render, Expression.Context.accepts, hX, hNot]
    rfl
  have h := (render_eq_tree_render nestedText nestedArguments .standard _ _ hargs hscan).2
    nestedTree htree
  refine ⟨hargs, hscan, htree, ?_⟩
  rw [h.2.1 hselect, hrender]
  rfl

end CondDoc
