import CondDoc.Proofs.Document.LineClasses
import CondDoc.Proofs.Document.Located

namespace CondDoc

/-- The branch has an expression, and evaluating it gives the answer. -/
def Branch.Answers (context : Expression.Context) (branch : Branch) (answer : Bool) : Prop :=
  ∃ expression, branch.guard.expression? = some expression ∧
    Expression.evaluateText context expression = .ok answer

/-- The branch at a place is the first that is an `else` or whose expression does not evaluate to
false. -/
structure DecidedAt (context : Expression.Context) (branches : List Branch) (place : Nat)
    (branch : Branch) : Prop where
  at_place : branches[place]? = some branch
  earlier_false : ∀ earlier ∈ branches.take place, earlier.Answers context false
  not_false : ¬ branch.Answers context false

/-- Changes what stands behind a place in a list. -/
def changeBehind {α : Type} (place : Nat) (change : Nat → α → α) (list : List α) : List α :=
  list.take (place + 1) ++ (list.drop (place + 1)).mapIdx change

theorem changeBehind_split {α : Type} {place : Nat} {before : List α}
    (hplace : before.length = place) (change : Nat → α → α) (x : α) (after : List α) :
    changeBehind place change (before ++ x :: after) = before ++ x :: after.mapIdx change := by
  have hlength : (before ++ [x]).length = place + 1 := by
    rw [List.length_append, hplace, List.length_singleton]
  rw [changeBehind, List.append_cons, List.take_left' hlength, List.drop_left' hlength]
  exact (List.append_cons before x _).symm

def BranchTrace.reworded (text : String) (record : BranchTrace) : BranchTrace :=
  ⟨record.kind, record.expression.map fun _ => text, record.taken⟩

/-- The block with other expressions in the branches behind the one at a place. -/
def Block.rewordedBehind (place : Nat) (texts : Nat → String) (block : Block) : Block :=
  ⟨block.start, block.stop,
    changeBehind place (fun i branch => branch.mapExpression fun _ => texts i) block.branches⟩

def BlockTrace.rewordedBehind (place : Nat) (texts : Nat → String) (record : BlockTrace) :
    BlockTrace :=
  ⟨record.start, record.stop,
    changeBehind place (fun i branch => branch.reworded (texts i)) record.branches⟩

def Decision.rewordedBehind (place : Nat) (texts : Nat → String) (decision : Decision) : Decision :=
  ⟨decision.block.rewordedBehind place texts, decision.chosen,
    decision.trace.rewordedBehind place texts⟩

theorem Branch.trace_mapExpression (branch : Branch) (text : String) (taken : Bool) :
    (branch.mapExpression fun _ => text).trace taken = (branch.trace taken).reworded text := by
  obtain ⟨guard, start, stop⟩ := branch
  cases guard <;> rfl

theorem map_trace_mapIdx (branches : List Branch) (texts : Nat → String) :
    (branches.mapIdx fun i branch => branch.mapExpression fun _ => texts i).map (·.trace false) =
      (branches.map (·.trace false)).mapIdx fun i record => record.reworded (texts i) := by
  induction branches generalizing texts with
  | nil => rfl
  | cons branch others ih =>
    rw [List.mapIdx_cons, List.map_cons, List.map_cons, List.mapIdx_cons,
      ih fun i => texts (i + 1), branch.trace_mapExpression]

section

variable {context : Expression.Context} {branches before after : List Branch} {place : Nat}
  {branch : Branch}

theorem all_false_or_decidedAt (context : Expression.Context) (branches : List Branch) :
    (∀ branch ∈ branches, branch.Answers context false) ∨
      ∃ place branch, DecidedAt context branches place branch := by
  induction branches with
  | nil => exact .inl fun branch hmem => absurd hmem List.not_mem_nil
  | cons first others ih =>
    by_cases hfirst : first.Answers context false
    · rcases ih with hothers | ⟨place, branch, h⟩
      · exact .inl (List.forall_mem_cons.2 ⟨hfirst, hothers⟩)
      · refine .inr ⟨place + 1, branch, h.at_place, ?_, h.not_false⟩
        exact List.forall_mem_cons.2 ⟨hfirst, h.earlier_false⟩
    · exact .inr ⟨0, first, rfl, fun earlier hmem => absurd hmem List.not_mem_nil, hfirst⟩

theorem DecidedAt.split (h : DecidedAt context branches place branch) :
    branches = branches.take place ++ branch :: branches.drop (place + 1) := by
  have hsucc : branches.take (place + 1) = branches.take place ++ [branch] := by
    rw [List.take_add_one, h.at_place]
    rfl
  rw [List.append_cons, ← hsucc, List.take_append_drop]

theorem DecidedAt.length_take (h : DecidedAt context branches place branch) :
    (branches.take place).length = place := by
  obtain ⟨hplace, -⟩ := List.getElem?_eq_some_iff.1 h.at_place
  exact List.length_take_of_le (Nat.le_of_lt hplace)

theorem holds_of_answers {answer : Bool} (h : branch.Answers context answer) :
    branch.holds context = .ok answer := by
  obtain ⟨expression, hexpression, hvalue⟩ := h
  rw [holds_of_expression hexpression, hvalue]
  rfl

theorem of_holds_eq_ok {answer : Bool} (h : branch.holds context = .ok answer) :
    branch.guard = .otherwise ∧ answer = true ∨ branch.Answers context answer := by
  cases hexpression : branch.guard.expression? with
  | none =>
    rw [holds_of_no_expression hexpression] at h
    refine .inl ⟨?_, (Except.ok.inj h).symm⟩
    cases hguard : branch.guard with
    | otherwise => rfl
    | _ => rw [hguard] at hexpression; cases hexpression
  | some expression =>
    rw [holds_of_expression hexpression] at h
    refine .inr ⟨expression, hexpression, ?_⟩
    cases hvalue : Expression.evaluateText context expression with
    | ok value =>
      rw [hvalue] at h
      exact congrArg Except.ok (Except.ok.inj h)
    | error cause =>
      rw [hvalue] at h
      cases h

/-- Branches whose expressions are false are passed over and recorded. -/
theorem choose_append_of_false (h : ∀ earlier ∈ before, earlier.Answers context false)
    (rest : List Branch) :
    choose context (before ++ rest) = (choose context rest).map fun result =>
      (result.1, before.map (·.trace false) ++ result.2) := by
  induction before with
  | nil =>
    rw [List.nil_append]
    cases choose context rest <;> rfl
  | cons first before ih =>
    obtain ⟨hfirst, hbefore⟩ := List.forall_mem_cons.1 h
    rw [List.cons_append, choose, holds_of_answers hfirst, ok_bind, ih hbefore]
    cases choose context rest <;> rfl

variable {block : Block}

theorem select_of_all_false (h : ∀ branch ∈ block.branches, branch.Answers context false) :
    block.select context =
      .ok ⟨block, none, ⟨block.start, block.stop, block.branches.map (·.trace false)⟩⟩ := by
  have hchoose := choose_append_of_false h []
  rw [List.append_nil] at hchoose
  rw [Block.select, hchoose, choose]
  change Except.ok (⟨block, none, ⟨block.start, block.stop, _ ++ []⟩⟩ : Decision) = _
  rw [List.append_nil]

/-- A branch that holds is chosen, whatever stands behind it. -/
theorem select_of_holds (hbranches : block.branches = before ++ branch :: after)
    (hbefore : ∀ earlier ∈ before, earlier.Answers context false)
    (hholds : branch.holds context = .ok true) :
    block.select context = .ok ⟨block, some branch, ⟨block.start, block.stop,
      before.map (·.trace false) ++ branch.trace true :: after.map (·.trace false)⟩⟩ := by
  rw [Block.select, hbranches, choose_append_of_false hbefore, choose, hholds]
  rfl

/-- A branch that fails makes the selection fail, whatever stands behind it. -/
theorem select_of_fails (hbranches : block.branches = before ++ branch :: after)
    (hbefore : ∀ earlier ∈ before, earlier.Answers context false) {failure : Failure}
    (hfails : branch.holds context = .error failure) :
    block.select context = .error failure := by
  rw [Block.select, hbranches, choose_append_of_false hbefore, choose, hfails]
  rfl

theorem DecidedAt.branches_rewordedBehind (h : DecidedAt context block.branches place branch)
    (texts : Nat → String) :
    (block.rewordedBehind place texts).branches = block.branches.take place ++ branch ::
      (block.branches.drop (place + 1)).mapIdx fun i later =>
        later.mapExpression fun _ => texts i := by
  have hsplit := changeBehind_split h.length_take
    (fun i later => Branch.mapExpression (fun _ => texts i) later) branch
    (block.branches.drop (place + 1))
  rwa [← h.split] at hsplit

/-- The records of the branches, when those behind the chosen one have other expressions. -/
theorem DecidedAt.rewordedBehind_records (h : DecidedAt context block.branches place branch)
    (texts : Nat → String) (start stop : Int) (record : BranchTrace) (later : List Branch) :
    BlockTrace.rewordedBehind place texts ⟨start, stop,
        (block.branches.take place).map (·.trace false) ++ record :: later.map (·.trace false)⟩ =
      ⟨start, stop, (block.branches.take place).map (·.trace false) ++ record ::
        (later.mapIdx fun i branch => branch.mapExpression fun _ => texts i).map
          (·.trace false)⟩ := by
  have hlength : ((block.branches.take place).map (·.trace false)).length = place := by
    rw [List.length_map, h.length_take]
  rw [BlockTrace.rewordedBehind, changeBehind_split hlength, map_trace_mapIdx]

/-- The first branch that is not ruled out by its expression decides. If it is an `else` or its
expression is true, it is chosen, and it alone is recorded as taken; if its expression fails, the
selection fails in the same way and names the branch. Whatever the branches behind it say, only the
record of them changes. -/
theorem select_by_first_branch (context : Expression.Context) (block : Block) :
    ((∀ branch ∈ block.branches, branch.Answers context false) ∧
      block.select context =
        .ok ⟨block, none, ⟨block.start, block.stop, block.branches.map (·.trace false)⟩⟩) ∨
    ∃ place branch, DecidedAt context block.branches place branch ∧
      ((branch.guard = .otherwise ∨ branch.Answers context true) ∧
          block.select context = .ok ⟨block, some branch, ⟨block.start, block.stop,
            (block.branches.take place).map (·.trace false) ++ branch.trace true ::
              (block.branches.drop (place + 1)).map (·.trace false)⟩⟩ ∨
        ∃ expression cause, branch.guard.expression? = some expression ∧
          Expression.evaluateText context expression = .error cause ∧ cause.InExpression ∧
          block.select context = .error ⟨cause, some branch.start, some expression⟩) ∧
      ∀ texts : Nat → String, (block.rewordedBehind place texts).select context =
        (block.select context).map (·.rewordedBehind place texts) := by
  rcases all_false_or_decidedAt context block.branches with hall | ⟨place, branch, h⟩
  · exact .inl ⟨hall, select_of_all_false hall⟩
  · refine .inr ⟨place, branch, h, ?_⟩
    cases hholds : branch.holds context with
    | ok answer =>
      have htrue : (branch.guard = .otherwise ∨ branch.Answers context true) ∧ answer = true := by
        rcases of_holds_eq_ok hholds with ⟨hguard, hanswer⟩ | hanswers
        · exact ⟨.inl hguard, hanswer⟩
        · cases answer with
          | true => exact ⟨.inr hanswers, rfl⟩
          | false => exact absurd hanswers h.not_false
      obtain ⟨haccepted, rfl⟩ := htrue
      have hselect := select_of_holds h.split h.earlier_false hholds
      refine ⟨.inl ⟨haccepted, hselect⟩, fun texts => ?_⟩
      rw [select_of_holds (h.branches_rewordedBehind texts) h.earlier_false hholds, hselect]
      exact congrArg (fun record => Except.ok (Decision.mk _ (some branch) record))
        (h.rewordedBehind_records texts ..).symm
    | error failure =>
      obtain ⟨expression, cause, hexpression, hvalue, hcause, rfl⟩ :=
        exists_of_holds_eq_error hholds
      have hselect := select_of_fails h.split h.earlier_false hholds
      refine ⟨.inr ⟨expression, cause, hexpression, hvalue, hcause, hselect⟩, fun texts => ?_⟩
      rw [select_of_fails (h.branches_rewordedBehind texts) h.earlier_false hholds, hselect]
      rfl

end

/-- The second branch decides; the expression of the third is malformed. -/
def guardedBlock : Block :=
  ⟨1, 9, [⟨.condition "!X", 1, 2⟩, ⟨.elseIf "X", 3, 5⟩, ⟨.elseIf "?", 6, 7⟩, ⟨.otherwise, 8, 8⟩]⟩

theorem select_guardedBlock :
    guardedBlock.select ⟨⟨[("X", .string "ON")]⟩, .standard⟩ =
        .ok ⟨guardedBlock, some ⟨.elseIf "X", 3, 5⟩, ⟨1, 9, [⟨.condition, some "!X", false⟩,
          ⟨.elseIf, some "X", true⟩, ⟨.elseIf, some "?", false⟩, ⟨.otherwise, none, false⟩]⟩⟩ ∧
      ((guardedBlock.rewordedBehind 1 fun _ => "Y").select ⟨⟨[("X", .string "ON")]⟩, .standard⟩).map
          (·.trace.branches) =
        .ok [⟨.condition, some "!X", false⟩, ⟨.elseIf, some "X", true⟩,
          ⟨.elseIf, some "Y", false⟩, ⟨.otherwise, none, false⟩] := by
  let context : Expression.Context := ⟨⟨[("X", .string "ON")]⟩, .standard⟩
  have hX : Expression.evaluateText context "X" = .ok true := evaluateText_X_on .standard
  have hNot : Expression.evaluateText context "!X" = .ok false := by
    rw [@evaluateText_not_X context (.string "ON") rfl]
    rfl
  have hsecond : ¬ Branch.Answers context ⟨.elseIf "X", 3, 5⟩ false := by
    rintro ⟨expression, hexpression, hvalue⟩
    obtain rfl := Option.some.inj hexpression
    cases hX.symm.trans hvalue
  rcases select_by_first_branch context guardedBlock with
    ⟨hall, -⟩ | ⟨place, branch, hdecided, hresult, hreworded⟩
  · exact absurd (hall _ (.tail _ (.head _))) hsecond
  · obtain rfl : place = 1 := by
      rcases place with _ | _ | place
      · obtain rfl := Option.some.inj hdecided.at_place
        exact absurd ⟨_, rfl, hNot⟩ hdecided.not_false
      · rfl
      · exact absurd (hdecided.earlier_false _ (.tail _ (.head _))) hsecond
    obtain rfl := Option.some.inj hdecided.at_place
    rcases hresult with ⟨-, hselect⟩ | ⟨expression, cause, hexpression, hvalue, -, -⟩
    · refine ⟨hselect, ?_⟩
      rw [hreworded, hselect]
      rfl
    · obtain rfl := Option.some.inj hexpression
      cases hX.symm.trans hvalue

end CondDoc
