import CondDoc.Document
import CondDoc.Proofs.Outcome

namespace CondDoc

variable {context : Expression.Context}

/-- The failure of a branch whose expression fails. -/
def Branch.failure (branch : Branch) (expression : String) (cause : Cause) : Failure :=
  if cause.failureClass.isExpression then ⟨cause, some branch.start, some expression⟩
  else ⟨cause, none, none⟩

theorem Branch.failureClass_failure (branch : Branch) (expression : String) (cause : Cause) :
    (branch.failure expression cause).failureClass = cause.failureClass := by
  unfold failure
  split <;> rfl

theorem holds_of_no_expression {branch : Branch} (h : branch.guard.expression? = none) :
    branch.holds context = .ok true := by
  obtain ⟨guard, start, stop⟩ := branch
  cases guard with
  | otherwise => rfl
  | condition expression => cases h
  | elseIf expression => cases h

theorem holds_of_expression {branch : Branch} {expression : String}
    (h : branch.guard.expression? = some expression) :
    branch.holds context =
      (Expression.evaluateText context expression).mapError (branch.failure expression) := by
  obtain ⟨guard, start, stop⟩ := branch
  cases guard with
  | otherwise => cases h
  | condition expression' =>
    cases h
    dsimp only [Branch.holds]
    cases Expression.evaluateText context expression <;> rfl
  | elseIf expression' =>
    cases h
    dsimp only [Branch.holds]
    cases Expression.evaluateText context expression <;> rfl

theorem choose_cons_eq_ok_iff {branch : Branch} {others : List Branch} {chosen : Option Branch}
    {traces : List BranchTrace} :
    choose context (branch :: others) = .ok (chosen, traces) ↔
      (branch.holds context = .ok true ∧ chosen = some branch ∧
          traces = branch.trace true :: others.map (·.trace false)) ∨
        branch.holds context = .ok false ∧
          ∃ later, choose context others = .ok (chosen, later) ∧
            traces = branch.trace false :: later := by
  rw [choose, bind_eq_ok_iff]
  constructor
  · rintro ⟨answer, hholds, h⟩
    cases answer with
    | true =>
      cases h
      exact .inl ⟨hholds, rfl, rfl⟩
    | false =>
      obtain ⟨⟨chosen', later⟩, hothers, h⟩ := bind_eq_ok_iff.1 h
      cases h
      exact .inr ⟨hholds, later, hothers, rfl⟩
  · rintro (⟨hholds, rfl, rfl⟩ | ⟨hholds, later, hothers, rfl⟩)
    · exact ⟨true, hholds, rfl⟩
    · exact ⟨false, hholds, bind_eq_ok_iff.2 ⟨_, hothers, rfl⟩⟩

theorem exists_of_choose_cons {branch : Branch} {others : List Branch} {chosen : Option Branch}
    {traces : List BranchTrace} (h : choose context (branch :: others) = .ok (chosen, traces)) :
    ∃ answer, branch.holds context = .ok answer ∧
      if answer then chosen = some branch
      else ∃ traces', choose context others = .ok (chosen, traces') := by
  rcases choose_cons_eq_ok_iff.1 h with ⟨hholds, hchosen, -⟩ | ⟨hholds, later, hothers, -⟩
  · exact ⟨true, hholds, hchosen⟩
  · exact ⟨false, hholds, later, hothers⟩

/-- Only a branch of the block can be chosen. -/
theorem mem_of_choose {branches : List Branch} {branch : Branch} {traces : List BranchTrace}
    (h : choose context branches = .ok (some branch, traces)) : branch ∈ branches := by
  induction branches generalizing traces with
  | nil => cases h
  | cons first others ih =>
    obtain ⟨answer, -, h⟩ := exists_of_choose_cons h
    cases answer with
    | true =>
      obtain rfl := Option.some.inj h
      exact List.mem_cons_self
    | false =>
      obtain ⟨traces', h⟩ := h
      exact List.mem_cons_of_mem _ (ih h)

theorem of_select_eq_ok {block : Block} {decision : Decision}
    (h : block.select context = .ok decision) :
    decision.block = block ∧
      ∃ traces, choose context block.branches = .ok (decision.chosen, traces) ∧
        decision.trace = ⟨block.start, block.stop, traces⟩ := by
  rw [Block.select, bind_eq_ok_iff] at h
  obtain ⟨⟨chosen, traces⟩, hchoose, h⟩ := h
  cases h
  exact ⟨rfl, traces, hchoose, rfl⟩

theorem decideAll_cons_eq_ok_iff {block : Block} {others : List Block}
    {decisions : List Decision} :
    decideAll context (block :: others) = .ok decisions ↔
      ∃ first rest, block.select context = .ok first ∧ decideAll context others = .ok rest ∧
        decisions = first :: rest := by
  rw [decideAll, bind_eq_ok_iff]
  constructor
  · rintro ⟨first, hfirst, h⟩
    obtain ⟨rest, hrest, h⟩ := bind_eq_ok_iff.1 h
    exact ⟨first, rest, hfirst, hrest, (Except.ok.inj h).symm⟩
  · rintro ⟨first, rest, hfirst, hrest, rfl⟩
    exact ⟨first, hfirst, bind_eq_ok_iff.2 ⟨rest, hrest, rfl⟩⟩

theorem decideAll_append_eq_ok_iff {first second : List Block} {decisions : List Decision} :
    decideAll context (first ++ second) = .ok decisions ↔
      ∃ before behind, decideAll context first = .ok before ∧
        decideAll context second = .ok behind ∧ decisions = before ++ behind := by
  induction first generalizing decisions with
  | nil =>
    constructor
    · intro h
      exact ⟨[], decisions, rfl, h, rfl⟩
    · rintro ⟨before, behind, hbefore, hbehind, rfl⟩
      cases hbefore
      exact hbehind
  | cons block first ih =>
    rw [List.cons_append, decideAll_cons_eq_ok_iff]
    constructor
    · rintro ⟨decision, rest, hdecision, hrest, rfl⟩
      obtain ⟨before, behind, hbefore, hbehind, rfl⟩ := ih.1 hrest
      exact ⟨decision :: before, behind,
        decideAll_cons_eq_ok_iff.2 ⟨decision, before, hdecision, hbefore, rfl⟩, hbehind, rfl⟩
    · rintro ⟨before, behind, hbefore, hbehind, rfl⟩
      obtain ⟨decision, rest, hdecision, hrest, rfl⟩ := decideAll_cons_eq_ok_iff.1 hbefore
      exact ⟨decision, rest ++ behind, hdecision, ih.2 ⟨rest, behind, hrest, hbehind, rfl⟩, rfl⟩

theorem decideAll_append_of_eq_ok {first : List Block} {before : List Decision}
    (h : decideAll context first = .ok before) (second : List Block) :
    decideAll context (first ++ second) = (decideAll context second).map (before ++ ·) := by
  induction first generalizing before with
  | nil =>
    cases h
    change decideAll context second = (decideAll context second).map id
    cases decideAll context second <;> rfl
  | cons block first ih =>
    obtain ⟨decision, rest, hdecision, hrest, rfl⟩ := decideAll_cons_eq_ok_iff.1 h
    rw [List.cons_append, decideAll, hdecision, ok_bind, ih hrest]
    cases decideAll context second <;> rfl

/-- A decision is about one of the blocks. -/
theorem block_mem_of_decideAll {blocks : List Block} {decisions : List Decision}
    (h : decideAll context blocks = .ok decisions) {decision : Decision}
    (hmem : decision ∈ decisions) : decision.block ∈ blocks := by
  induction blocks generalizing decisions with
  | nil =>
    cases h
    cases hmem
  | cons block others ih =>
    obtain ⟨first, rest, hfirst, hrest, rfl⟩ := decideAll_cons_eq_ok_iff.1 h
    rcases List.mem_cons.1 hmem with rfl | hmem
    · obtain ⟨hblock, -⟩ := of_select_eq_ok hfirst
      rw [hblock]
      exact List.mem_cons_self
    · exact List.mem_cons_of_mem _ (ih hrest hmem)

/-- Blocks that can each be decided can be decided all. -/
theorem exists_decideAll {blocks : List Block}
    (h : ∀ block ∈ blocks, ∃ decision, block.select context = .ok decision) :
    ∃ decisions, decideAll context blocks = .ok decisions := by
  induction blocks with
  | nil => exact ⟨[], rfl⟩
  | cons block others ih =>
    obtain ⟨first, hfirst⟩ := h block List.mem_cons_self
    obtain ⟨rest, hrest⟩ := ih fun other hother => h other (List.mem_cons_of_mem _ hother)
    exact ⟨first :: rest, decideAll_cons_eq_ok_iff.2 ⟨first, rest, hfirst, hrest, rfl⟩⟩

/-- The first block that fails makes the whole fail. -/
theorem decideAll_eq_error {before after : List Block} {block : Block} {failure : Failure}
    (hbefore : ∀ earlier ∈ before, ∃ decision, earlier.select context = .ok decision)
    (hblock : block.select context = .error failure) :
    decideAll context (before ++ block :: after) = .error failure := by
  induction before with
  | nil =>
    rw [List.nil_append, decideAll, hblock]
    rfl
  | cons first before ih =>
    obtain ⟨decision, hfirst⟩ := hbefore first List.mem_cons_self
    have hothers := ih fun earlier hearlier => hbefore earlier (List.mem_cons_of_mem _ hearlier)
    rw [List.cons_append, decideAll, hfirst]
    change (decideAll context (before ++ block :: after) >>= _) = _
    rw [hothers]
    rfl

end CondDoc
