import CondDoc.Proofs.Document.Directives
import CondDoc.Proofs.Document.Scan

namespace CondDoc

/-- The directives of an `else if` and of what it begins. -/
def armWord (arm : String × List Directive) : List Directive := .elseIf arm.1 :: arm.2

/-- The directives of an `else`, if there is one, and of what it begins. -/
def elseWord : Option (List Directive) → List Directive
  | none => []
  | some body => .otherwise :: body

/-- Directives that make up blocks, one after the other, which are at most `room` deep: an `if`, any
number of `else if`, at most one `else` and the end, with balanced directives after each of them. -/
inductive Balanced : (room : Nat) → List Directive → Prop where
  | empty (room : Nat) : Balanced room []
  | block {room : Nat} {condition : String} {body rest : List Directive}
      {arms : List (String × List Directive)} {last : Option (List Directive)} :
      Balanced room body → (∀ arm ∈ arms, Balanced room arm.2) →
      (∀ body ∈ last, Balanced room body) → Balanced (room + 1) rest →
      Balanced (room + 1)
        (.ifStart condition :: (body ++ (arms.flatMap armWord ++ (elseWord last ++ .close :: rest))))

/-- No expression is blank. -/
def Expressed (directives : List Directive) : Prop :=
  ∀ directive ∈ directives, directive.expression? ≠ some ""

/-- A branch that passes the rule for branches. -/
def Branch.Valid (branch : Branch) : Prop :=
  Guard.make branch.guard.kind branch.guard.expression? = .ok branch.guard

/-- A block that passes the rule for blocks, with all of its branches. -/
def Block.Valid (block : Block) : Prop :=
  (∀ branch ∈ block.branches, branch.Valid) ∧ Block.fault? block.branches = none

theorem word_cons (directive : Directive) (others : List (Option Directive)) :
    word (some directive :: others) = directive :: word others := rfl

theorem word_append (first second : List (Option Directive)) :
    word (first ++ second) = word first ++ word second := List.filterMap_append

mutual

theorem Tree.Fits.balanced {maxNesting depth : Nat} {tree : Tree}
    (h : tree.Fits maxNesting depth) :
    Balanced (maxNesting - depth) (word (tree.marks.map Mark.directive)) := by
  cases tree with
  | empty => exact .empty _
  | line text rest =>
    have hrest : rest.Fits maxNesting depth := h
    exact hrest.balanced
  | block opening condition body tail rest =>
    obtain ⟨hroom, -, hbody, htail, hrest⟩ := h
    obtain ⟨arms, last, hword, harms, hlast⟩ := htail.exists_arms
    -- A block takes one level of the room for its bodies, but not for what follows it.
    have hsucc : maxNesting - depth = maxNesting - (depth + 1) + 1 := by omega
    have hrest := hrest.balanced
    have hblock : word ((Tree.block opening condition body tail rest).marks.map Mark.directive) =
        .ifStart condition :: (word (body.marks.map Mark.directive) ++ (arms.flatMap armWord ++
          (elseWord last ++ .close :: word (rest.marks.map Mark.directive)))) := by
      simp only [Tree.marks, List.map_cons, List.map_append, word_cons, word_append, hword,
        List.append_assoc, List.singleton_append]
    rw [hsucc] at hrest ⊢
    rw [hblock]
    exact .block hbody.balanced harms hlast hrest

theorem Tail.Fits.exists_arms {maxNesting depth : Nat} {tail : Tail}
    (h : tail.Fits maxNesting depth) :
    ∃ (arms : List (String × List Directive)) (last : Option (List Directive)),
      word (tail.marks.map Mark.directive) =
        arms.flatMap armWord ++ (elseWord last ++ [.close]) ∧
      (∀ arm ∈ arms, Balanced (maxNesting - depth) arm.2) ∧
      ∀ body ∈ last, Balanced (maxNesting - depth) body := by
  cases tail with
  | close closing =>
    refine ⟨[], none, rfl, ?_, ?_⟩
    · intro arm harm
      cases harm
    · intro body hbody
      cases hbody
  | elseIf line condition body tail =>
    obtain ⟨-, hbody, htail⟩ := h
    obtain ⟨arms, last, hword, harms, hlast⟩ := htail.exists_arms
    refine ⟨(condition, word (body.marks.map Mark.directive)) :: arms, last, ?_, ?_, hlast⟩
    · rw [List.flatMap_cons, List.append_assoc, ← hword, armWord, List.cons_append, ← word_append,
        ← List.map_append]
      rfl
    · intro arm harm
      rcases List.mem_cons.1 harm with rfl | harm
      · exact hbody.balanced
      · exact harms arm harm
  | otherwise line body closing =>
    have hbody : body.Fits maxNesting depth := h
    refine ⟨[], some (word (body.marks.map Mark.directive)), ?_, ?_, ?_⟩
    · simp only [Tail.marks, List.map_cons, List.map_append, elseWord, List.flatMap_nil,
        List.nil_append, List.cons_append]
      exact congrArg (List.cons _) (word_append _ _)
    · intro arm harm
      cases harm
    · intro body' hbody'
      cases hbody'
      exact hbody.balanced

end

/-- Lines with these directives are the lines of a tree that fits, wherever the plain lines are. -/
def Grows (maxNesting depth : Nat) (directives : List Directive) : Prop :=
  ∀ marks : List Mark, word (marks.map Mark.directive) = directives → Expressed directives →
    ∃ tree : Tree, tree.marks = marks ∧ tree.Fits maxNesting depth

/-- Lines are cut at the line of a directive as their directives are. -/
theorem exists_line_of_word {marks : List Mark} {first second : List Directive}
    {directive : Directive}
    (h : word (marks.map Mark.directive) = first ++ directive :: second) :
    ∃ before line behind, marks = before ++ ⟨line, some directive⟩ :: behind ∧
      word (before.map Mark.directive) = first ∧ word (behind.map Mark.directive) = second := by
  induction marks generalizing first with
  | nil =>
    have hlength := congrArg List.length h
    simp [word] at hlength
  | cons mark marks ih =>
    obtain ⟨line, found⟩ := mark
    cases found with
    | none =>
      obtain ⟨before, line', behind, rfl, hbefore, hbehind⟩ := ih h
      exact ⟨⟨line, none⟩ :: before, line', behind, rfl, hbefore, hbehind⟩
    | some found =>
      cases first with
      | nil =>
        obtain ⟨rfl, hbehind⟩ := List.cons.inj h
        exact ⟨[], line, marks, rfl, rfl, hbehind⟩
      | cons head first =>
        obtain ⟨rfl, hothers⟩ := List.cons.inj h
        obtain ⟨before, line', behind, rfl, hbefore, hbehind⟩ := ih hothers
        exact ⟨⟨line, some found⟩ :: before, line', behind, rfl,
          congrArg (List.cons found) hbefore, hbehind⟩

/-- Plain lines may stand in front of a tree. -/
theorem exists_tree_behind {maxNesting depth : Nat} {before : List Mark} {tree : Tree}
    (hplain : word (before.map Mark.directive) = []) (hfits : tree.Fits maxNesting depth) :
    ∃ whole : Tree, whole.marks = before ++ tree.marks ∧ whole.Fits maxNesting depth := by
  induction before with
  | nil => exact ⟨tree, rfl, hfits⟩
  | cons mark before ih =>
    obtain ⟨line, found⟩ := mark
    cases found with
    | some found => cases hplain
    | none =>
      obtain ⟨whole, hmarks, hwhole⟩ := ih hplain
      exact ⟨.line line whole, by rw [Tree.marks, hmarks]; rfl, hwhole⟩

/-- The lines after the `if` of a block begin with a body and the rest of the block. -/
theorem exists_body_and_tail {maxNesting depth : Nat} {body rest : List Directive}
    {arms : List (String × List Directive)} {last : Option (List Directive)} {marks : List Mark}
    (hbody : Grows maxNesting depth body) (harms : ∀ arm ∈ arms, Grows maxNesting depth arm.2)
    (hlast : ∀ body ∈ last, Grows maxNesting depth body)
    (hword : word (marks.map Mark.directive) =
      body ++ (arms.flatMap armWord ++ (elseWord last ++ .close :: rest)))
    (hexpressed : Expressed (word (marks.map Mark.directive))) :
    ∃ (tree : Tree) (tail : Tail) (behind : List Mark),
      marks = tree.marks ++ (tail.marks ++ behind) ∧ tree.Fits maxNesting depth ∧
      tail.Fits maxNesting depth ∧ word (behind.map Mark.directive) = rest := by
  induction arms generalizing body marks with
  | nil =>
    cases last with
    | none =>
      obtain ⟨before, line, behind, rfl, hbefore, hbehind⟩ := exists_line_of_word hword
      rw [hword] at hexpressed
      obtain ⟨tree, rfl, hfits⟩ := hbody before hbefore (List.forall_mem_append.1 hexpressed).1
      exact ⟨tree, .close line, behind, rfl, hfits, trivial, hbehind⟩
    | some inner =>
      obtain ⟨before, line, others, rfl, hbefore, hothers⟩ := exists_line_of_word hword
      obtain ⟨within, closing, behind, rfl, hwithin, hbehind⟩ := exists_line_of_word hothers
      rw [hword] at hexpressed
      obtain ⟨hexpressed, hinner⟩ := List.forall_mem_append.1 hexpressed
      obtain ⟨tree, rfl, hfits⟩ := hbody before hbefore hexpressed
      obtain ⟨innerTree, rfl, hinnerFits⟩ := hlast inner rfl within hwithin
        (List.forall_mem_append.1 (List.forall_mem_cons.1 hinner).2).1
      refine ⟨tree, .otherwise line innerTree closing, behind, ?_, hfits, hinnerFits, hbehind⟩
      simp only [Tail.marks, List.append_assoc, List.cons_append, List.nil_append]
  | cons arm arms ih =>
    have hcut : word (marks.map Mark.directive) = body ++ .elseIf arm.1 ::
        (arm.2 ++ (arms.flatMap armWord ++ (elseWord last ++ .close :: rest))) := by
      rw [hword, List.flatMap_cons, List.append_assoc]
      rfl
    obtain ⟨before, line, others, rfl, hbefore, hothers⟩ := exists_line_of_word hcut
    rw [List.map_append, word_append] at hexpressed
    obtain ⟨hexpressed, hbehind⟩ := List.forall_mem_append.1 hexpressed
    obtain ⟨hcondition, hbehind⟩ := List.forall_mem_cons.1 hbehind
    rw [hbefore] at hexpressed
    obtain ⟨tree, rfl, hfits⟩ := hbody before hbefore hexpressed
    obtain ⟨armTree, tail, behind, rfl, harmFits, htailFits, hrest⟩ :=
      ih (harms arm List.mem_cons_self) (fun other hother => harms other (List.mem_cons_of_mem _ hother))
        hothers hbehind
    -- The body of this arm was the first body for the induction hypothesis.
    refine ⟨tree, .elseIf line arm.1 armTree tail, behind, ?_, hfits,
      ⟨fun heq => hcondition (congrArg some heq), harmFits, htailFits⟩, hrest⟩
    simp only [Tail.marks, List.append_assoc, List.cons_append]

theorem Balanced.grows {room maxNesting depth : Nat} {directives : List Directive}
    (h : Balanced room directives) (hroom : depth + room ≤ maxNesting) :
    Grows maxNesting depth directives := by
  induction h generalizing depth with
  | empty room =>
    intro marks hword hexpressed
    have hempty : Tree.empty.Fits maxNesting depth := trivial
    obtain ⟨tree, hmarks, hfits⟩ := exists_tree_behind hword hempty
    exact ⟨tree, by rw [hmarks]; exact List.append_nil _, hfits⟩
  | @block room condition body rest arms last hbody harms hlast hrest bodyIH armsIH lastIH restIH =>
    intro marks hword hexpressed
    have hinside : depth + 1 + room ≤ maxNesting := by omega
    obtain ⟨before, line, others, rfl, hbefore, hothers⟩ :=
      @exists_line_of_word marks [] _ _ hword
    obtain ⟨hcondition, hbehind⟩ := List.forall_mem_cons.1 hexpressed
    rw [← hothers] at hbehind
    obtain ⟨tree, tail, behind, rfl, htree, htail, hend⟩ :=
      exists_body_and_tail (bodyIH hinside) (fun arm harm => armsIH arm harm hinside)
        (fun body hmem => lastIH body hmem hinside) hothers hbehind
    have hexpressedRest : Expressed rest := by
      intro directive hmem
      apply hexpressed
      simp [hmem]
    obtain ⟨restTree, rfl, hrestFits⟩ := restIH hroom behind hend hexpressedRest
    have hblock : (Tree.block line condition tree tail restTree).Fits maxNesting depth :=
      ⟨by omega, fun heq => hcondition (congrArg some heq), htree, htail, hrestFits⟩
    obtain ⟨whole, hmarks, hwhole⟩ := exists_tree_behind hbefore hblock
    exact ⟨whole, hmarks, hwhole⟩

theorem exists_blocks_iff_balanced (options : Options) (text : String) :
    (∃ found, blocks options text = .ok found) ↔
      Balanced options.maxNesting (word (directives options.parseFences (Text.lines text))) ∧
        Expressed (word (directives options.parseFences (Text.lines text))) := by
  have hdirectives := map_directive_marksFrom options.parseFences (Text.lines text)
  rw [← hdirectives]
  constructor
  · rintro ⟨found, hfound⟩
    obtain ⟨tree, htree⟩ := exists_tree_of_blocks hfound
    obtain ⟨hfits, -⟩ := (blocks_eq_ok_iff htree).1 hfound
    rw [← marks, ← htree]
    exact ⟨hfits.balanced, hfits.expression_ne_empty⟩
  · rintro ⟨hbalanced, hexpressed⟩
    obtain ⟨tree, htree, hfits⟩ :=
      hbalanced.grows (Nat.le_of_eq (Nat.zero_add _)) _ rfl hexpressed
    exact ⟨tree.blocks 0, (blocks_eq_ok_iff htree).2 ⟨hfits, rfl⟩⟩

theorem Branch.valid_of_expression {branch : Branch}
    (h : branch.guard.expression? ≠ some "") : branch.Valid := by
  obtain ⟨guard, start, stop⟩ := branch
  cases guard with
  | condition expression => exact if_neg fun heq => h (congrArg some heq)
  | elseIf expression => exact if_neg fun heq => h (congrArg some heq)
  | otherwise => rfl

theorem fault?_eq_none_iff {branches : List Branch} :
    Block.fault? branches = none ↔
      (∃ first, branches.head? = some first ∧ first.guard.kind = .condition) ∧
        ∀ branch ∈ branches.dropLast, branch.guard.kind ≠ .otherwise := by
  unfold Block.fault?
  split
  · next h => simp_all
  · next h => simp_all

theorem Guard.eq_otherwise_of_kind {guard : Guard} (h : guard.kind = .otherwise) :
    guard = .otherwise := by
  cases guard with
  | otherwise => rfl
  | condition expression => cases h
  | elseIf expression => cases h

/-- An open block that would be valid if it were closed, on whatever line. -/
def OpenBlock.Sound (block : OpenBlock) : Prop := ∀ line, (block.close line).Valid

/-- A scan whose blocks are all valid, also the open ones. -/
structure Scan.Sound (scan : Scan) : Prop where
  opened : ∀ block ∈ scan.opened, block.Sound
  found : ∀ block ∈ scan.found, block.Valid

theorem OpenBlock.sound_opening {line : Nat} {expression : String} (h : expression ≠ "") :
    (opening line expression).Sound := by
  intro stop
  refine ⟨?_, rfl⟩
  intro branch hbranch
  obtain rfl := List.mem_singleton.1 hbranch
  exact Branch.valid_of_expression fun heq => h (Option.some.inj heq)

/-- Any branch but an `else` may be followed by another one that has an expression or is an `else`. -/
theorem OpenBlock.Sound.extended {block : OpenBlock} (h : block.Sound)
    (hguard : block.guard ≠ .otherwise) {guard : Guard} (hexpression : guard.expression? ≠ some "") (line : Nat) :
    (⟨block.start, block.branchesBefore line, guard, line⟩ : OpenBlock).Sound := by
  intro stop
  obtain ⟨hvalid, hfault⟩ := h line
  obtain ⟨⟨first, hfirst, hkind⟩, hdrop⟩ := fault?_eq_none_iff.1 hfault
  change (∀ branch ∈ block.branchesBefore line ++ [⟨guard, line, (stop : Int) - 1⟩], branch.Valid) ∧
    Block.fault? (block.branchesBefore line ++ [⟨guard, line, (stop : Int) - 1⟩]) = none
  constructor
  · intro branch hbranch
    rcases List.mem_append.1 hbranch with hbranch | hbranch
    · exact hvalid branch hbranch
    · obtain rfl := List.mem_singleton.1 hbranch
      exact Branch.valid_of_expression hexpression
  · refine fault?_eq_none_iff.2 ⟨⟨first, ?_, hkind⟩, ?_⟩
    · rw [OpenBlock.close] at hfirst
      rw [List.head?_append, hfirst]
      rfl
    · intro branch hbranch
      rw [List.dropLast_concat, OpenBlock.branchesBefore] at hbranch
      rw [OpenBlock.close, OpenBlock.branchesBefore, List.dropLast_concat] at hdrop
      rcases List.mem_append.1 hbranch with hbranch | hbranch
      · exact hdrop branch hbranch
      · obtain rfl := List.mem_singleton.1 hbranch
        exact fun heq => hguard (Guard.eq_otherwise_of_kind heq)

/-- One line keeps all blocks valid. -/
theorem Scan.Sound.step {maxNesting : Nat} {scan next : Scan} {directive : Option Directive}
    (h : scan.Sound) (hstep : Scan.step maxNesting scan directive = .ok next) : next.Sound := by
  obtain ⟨line, opened, found⟩ := scan
  obtain ⟨hopened, hfound⟩ := h
  cases directive with
  | none =>
    obtain rfl := Except.ok.inj hstep
    exact ⟨hopened, hfound⟩
  | some directive =>
    cases directive with
    | ifStart condition =>
      obtain ⟨-, hcondition, rfl⟩ := Scan.step_ifStart_eq_ok_iff.1 hstep
      exact ⟨List.forall_mem_cons.2 ⟨OpenBlock.sound_opening hcondition, hopened⟩, hfound⟩
    | elseIf condition =>
      cases opened with
      | nil => cases hstep
      | cons block outer =>
        obtain ⟨hcondition, hguard, rfl⟩ := Scan.step_elseIf_eq_ok_iff.1 hstep
        obtain ⟨hblock, houter⟩ := List.forall_mem_cons.1 hopened
        have hexpression : (Guard.elseIf condition).expression? ≠ some "" :=
          fun heq => hcondition (Option.some.inj heq)
        have hextended := hblock.extended hguard hexpression (line + 1)
        exact ⟨List.forall_mem_cons.2 ⟨hextended, houter⟩, hfound⟩
    | otherwise =>
      cases opened with
      | nil => cases hstep
      | cons block outer =>
        obtain ⟨hguard, rfl⟩ := Scan.step_otherwise_eq_ok_iff.1 hstep
        obtain ⟨hblock, houter⟩ := List.forall_mem_cons.1 hopened
        have hexpression : Guard.otherwise.expression? ≠ some "" := by
          intro heq
          cases heq
        have hextended := hblock.extended hguard hexpression (line + 1)
        exact ⟨List.forall_mem_cons.2 ⟨hextended, houter⟩, hfound⟩
    | close =>
      cases opened with
      | nil => cases hstep
      | cons block outer =>
        obtain rfl := Scan.step_close_eq_ok_iff.1 hstep
        obtain ⟨hblock, houter⟩ := List.forall_mem_cons.1 hopened
        refine ⟨houter, List.forall_mem_append.2 ⟨hfound, ?_⟩⟩
        intro built hbuilt
        obtain rfl := List.mem_singleton.1 hbuilt
        exact hblock (line + 1)

theorem Scan.Sound.run {maxNesting : Nat} {scan result : Scan}
    {directives : List (Option Directive)} (h : scan.Sound)
    (hrun : Scan.run maxNesting scan directives = .ok result) : result.Sound := by
  induction directives generalizing scan with
  | nil =>
    obtain rfl := Scan.run_nil_eq_ok_iff.1 hrun
    exact h
  | cons directive directives ih =>
    rw [Scan.run_cons, bind_eq_ok_iff] at hrun
    obtain ⟨next, hstep, hrun⟩ := hrun
    exact ih (h.step hstep) hrun

theorem Scan.sound_start : Scan.start.Sound :=
  ⟨fun _ h => absurd h List.not_mem_nil, fun _ h => absurd h List.not_mem_nil⟩

/-- A scan succeeds exactly when the directives are balanced within the limit and none has a blank
expression, and whatever blocks it has built on any line are valid, also when it fails later. -/
theorem blocks_ok_iff_balanced (options : Options) (text : String) :
    ((∃ found, blocks options text = .ok found) ↔
      Balanced options.maxNesting (word (directives options.parseFences (Text.lines text))) ∧
        ∀ directive ∈ word (directives options.parseFences (Text.lines text)),
          directive.expression? ≠ some "") ∧
    (∀ found, blocks options text = .ok found → ∀ block ∈ found, block.Valid) ∧
    ∀ read scan, read <+: directives options.parseFences (Text.lines text) →
      Scan.run options.maxNesting .start read = .ok scan → ∀ block ∈ scan.found, block.Valid := by
  refine ⟨exists_blocks_iff_balanced options text, ?_, ?_⟩
  · intro found hfound
    obtain ⟨scan, hrun, hfinish⟩ := bind_eq_ok_iff.1 hfound
    obtain ⟨-, rfl⟩ := finish_eq_ok_iff.1 hfinish
    exact (Scan.sound_start.run hrun).found
  · intro read scan _ hrun
    exact (Scan.sound_start.run hrun).found

def closedOnceText : String := "\x7b\x7b#if A\x7d\x7d\n\x7b\x7b/if\x7d\x7d"

def closedTwiceText : String := "\x7b\x7b#if A\x7d\x7d\n\x7b\x7b/if\x7d\x7d\n\x7b\x7b/if\x7d\x7d"

/-- Closed once, a block is balanced and is found. Closed twice it is not, and the second end is to
blame, though the block that is built before is valid. -/
theorem balanced_closed_once :
    blocks .standard closedOnceText = .ok [⟨1, 2, [⟨.condition "A", 1, 1⟩]⟩] ∧
      Balanced 10 [.ifStart "A", .close] ∧
      blocks .standard closedTwiceText = .error ⟨.unmatched .close, some 3, none⟩ ∧
      ¬ Balanced 10 [.ifStart "A", .close, .close] ∧
      (⟨1, 2, [⟨.condition "A", 1, 1⟩]⟩ : Block).Valid := by
  have hfound : blocks .standard closedOnceText = .ok [⟨1, 2, [⟨.condition "A", 1, 1⟩]⟩] := by rfl
  have hfails : blocks .standard closedTwiceText = .error ⟨.unmatched .close, some 3, none⟩ := by rfl
  obtain ⟨honce, -, -⟩ := blocks_ok_iff_balanced .standard closedOnceText
  obtain ⟨htwice, -, hbuilt⟩ := blocks_ok_iff_balanced .standard closedTwiceText
  refine ⟨hfound, (honce.1 ⟨_, hfound⟩).1, hfails, ?_, ?_⟩
  · intro hbalanced
    obtain ⟨found, hok⟩ := htwice.2 ⟨hbalanced, by decide⟩
    rw [hfails] at hok
    cases hok
  · exact hbuilt [some (.ifStart "A"), some .close]
      ⟨2, [], [⟨1, 2, [⟨.condition "A", 1, 1⟩]⟩]⟩ ⟨[some .close], rfl⟩ rfl _ List.mem_cons_self

end CondDoc
