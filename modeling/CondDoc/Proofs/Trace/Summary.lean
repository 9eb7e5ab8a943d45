import CondDoc.Proofs.Document.Located
import CondDoc.Proofs.Document.Recognition
import CondDoc.Proofs.Document.Record
import CondDoc.Proofs.Number.Shortest
import CondDoc.Trace.Export

namespace CondDoc

/-- What stands in front of the first separator, and what stands behind it. -/
theorem Text.append_cons_inj {sep : Char} {before before' after after' : List Char}
    (hbefore : sep ∉ before) (hbefore' : sep ∉ before')
    (h : before ++ sep :: after = before' ++ sep :: after') : before = before' ∧ after = after' := by
  have hpieces : before :: pieces sep after = before' :: pieces sep after' := by
    rw [← pieces_append hbefore, ← pieces_append hbefore', h]
  obtain ⟨rfl, -⟩ := List.cons.inj hpieces
  exact ⟨rfl, (List.cons.inj (List.append_cancel_left h)).2⟩

namespace Number

theorem not_mem_toDigits {c : Char} (hc : c.isDigit = false) (n : Nat) : c ∉ Nat.toDigits 10 n := by
  intro hmem
  rw [isDigit_of_mem_toDigits n c hmem] at hc
  cases hc

theorem toDigits_append_inj {m n : Nat} {after after' : List Char}
    (h : Nat.toDigits 10 m ++ '-' :: after = Nat.toDigits 10 n ++ '-' :: after') :
    m = n ∧ after = after' := by
  have hminus : ∀ k, '-' ∉ Nat.toDigits 10 k := not_mem_toDigits (by decide)
  obtain ⟨hdigits, hafter⟩ := Text.append_cons_inj (hminus m) (hminus n) h
  have hvalue : m = n := by
    calc m = Nat.ofDigitChars 10 (Nat.toDigits 10 m) 0 := Nat.ofDigitChars_ten_toDigits.symm
      _ = Nat.ofDigitChars 10 (Nat.toDigits 10 n) 0 := by rw [hdigits]
      _ = n := Nat.ofDigitChars_ten_toDigits
  exact ⟨hvalue, hafter⟩

/-- Digits do not begin with the sign of another integer. -/
theorem toDigits_append_ne (n : Nat) (after after' : List Char) :
    Nat.toDigits 10 n ++ after ≠ '-' :: after' := by
  obtain ⟨first, others, hdigits⟩ :=
    List.exists_cons_of_ne_nil (Nat.toDigits_ne_nil (n := n) (b := 10))
  rw [hdigits]
  intro h
  obtain ⟨rfl, -⟩ := List.cons.inj h
  have hminus : '-' ∉ Nat.toDigits 10 n := not_mem_toDigits (by decide) n
  rw [hdigits] at hminus
  exact hminus List.mem_cons_self

theorem integerChars_append_inj {m n : Int} {after after' : List Char}
    (h : integerChars m ++ '-' :: after = integerChars n ++ '-' :: after') :
    m = n ∧ after = after' := by
  unfold integerChars at h
  split at h
  · next hm =>
    split at h
    · next hn =>
      obtain ⟨habs, hafter⟩ := toDigits_append_inj (List.cons.inj h).2
      exact ⟨by omega, hafter⟩
    · exact absurd h.symm (toDigits_append_ne _ _ _)
  · next hm =>
    split at h
    · exact absurd h (toDigits_append_ne _ _ _)
    · next hn =>
      obtain ⟨habs, hafter⟩ := toDigits_append_inj h
      exact ⟨by omega, hafter⟩

theorem integerChars_inj {m n : Int} (h : integerChars m = integerChars n) : m = n :=
  (integerChars_append_inj (congrArg (· ++ ['-']) h)).1

theorem not_mem_integerChars {c : Char} (hc : c.isDigit = false) (hminus : c ≠ '-') (n : Int) :
    c ∉ integerChars n := by
  have hdigits := not_mem_toDigits hc n.natAbs
  unfold integerChars
  split
  · exact List.not_mem_cons_of_ne_of_not_mem hminus hdigits
  · exact hdigits

end Number

/-- The expression of a branch behind the kind. -/
def BranchTrace.expressionChars : Option String → List Char
  | none => []
  | some expression => ' ' :: expression.toList

theorem BranchTrace.toList_summary (branch : BranchTrace) :
    branch.summary.toList = [' ', ' ', '[', if branch.taken then 'x' else ' ', ']', ' '] ++
      (branch.kind.name.toList ++ expressionChars branch.expression) := by
  obtain ⟨kind, expression, taken⟩ := branch
  cases taken <;> cases expression <;> simp [summary, expressionChars]

theorem BranchTrace.expressionChars_inj {first second : Option String}
    (h : expressionChars first = expressionChars second) : first = second := by
  cases first with
  | none =>
    cases second with
    | none => rfl
    | some expression => cases h
  | some expression =>
    cases second with
    | none => cases h
    | some expression' =>
      have hchars : expression.toList = expression'.toList := (List.cons.inj h).2
      rw [String.toList_inj.1 hchars]

theorem BranchTrace.expressionChars_ne (expression : Option String) (after : List Char) :
    '-' :: after ≠ expressionChars expression := by
  cases expression with
  | none => exact List.cons_ne_nil _ _
  | some expression =>
    intro h
    exact absurd (List.cons.inj h).1 (by decide)

/-- One kind is named by the beginning of another one's name, but behind it there is a blank or
nothing. -/
theorem BranchTrace.kind_append_inj {kind kind' : BranchKind} {expression expression' : Option String}
    (h : kind.name.toList ++ expressionChars expression =
      kind'.name.toList ++ expressionChars expression') :
    kind = kind' ∧ expression = expression' := by
  have hcondition : BranchKind.condition.name.toList = ['i', 'f'] := rfl
  have helse : BranchKind.otherwise.name.toList = ['e', 'l', 's', 'e'] := rfl
  have helseIf : BranchKind.elseIf.name.toList = ['e', 'l', 's', 'e'] ++ ['-', 'i', 'f'] := rfl
  have hfirst : 'i' ≠ 'e' := by decide
  by_cases hkind : kind = kind'
  · subst hkind
    exact ⟨rfl, expressionChars_inj (List.append_cancel_left h)⟩
  exfalso
  cases kind with
  | condition =>
    cases kind' with
    | condition => exact hkind rfl
    | elseIf => exact hfirst (List.cons.inj h).1
    | otherwise => exact hfirst (List.cons.inj h).1
  | elseIf =>
    cases kind' with
    | condition => exact hfirst (List.cons.inj h).1.symm
    | elseIf => exact hkind rfl
    | otherwise =>
      rw [helseIf, helse, List.append_assoc] at h
      exact expressionChars_ne expression' _ (List.append_cancel_left h)
  | otherwise =>
    cases kind' with
    | condition => exact hfirst (List.cons.inj h).1.symm
    | elseIf =>
      rw [helseIf, helse, List.append_assoc] at h
      exact expressionChars_ne expression _ (List.append_cancel_left h).symm
    | otherwise => exact hkind rfl

theorem BranchTrace.summary_inj {first second : BranchTrace} (h : first.summary = second.summary) :
    first = second := by
  have hchars := congrArg String.toList h
  rw [toList_summary, toList_summary] at hchars
  have hmark : (if first.taken then 'x' else ' ') = if second.taken then 'x' else ' ' := by
    simp only [List.cons_append, List.cons.injEq] at hchars
    exact hchars.2.2.2.1
  have hrest : first.kind.name.toList ++ expressionChars first.expression =
      second.kind.name.toList ++ expressionChars second.expression := by
    simp only [List.cons_append, List.nil_append, List.cons.injEq] at hchars
    exact hchars.2.2.2.2.2.2
  have htaken : first.taken = second.taken := by
    cases hfirst : first.taken <;> cases hsecond : second.taken <;> simp_all
  obtain ⟨hkind, hexpression⟩ := kind_append_inj hrest
  obtain ⟨kind, expression, taken⟩ := first
  obtain ⟨kind', expression', taken'⟩ := second
  dsimp only at hkind hexpression htaken
  rw [hkind, hexpression, htaken]

/-- The first line of a block. -/
def BlockTrace.heading (block : BlockTrace) : String :=
  "lines " ++ Number.integerText block.start ++ "-" ++ Number.integerText block.stop

theorem BlockTrace.summary_eq (block : BlockTrace) :
    block.summary = block.heading :: block.branches.map BranchTrace.summary := rfl

theorem BlockTrace.toList_heading (block : BlockTrace) :
    block.heading.toList = ['l', 'i', 'n', 'e', 's', ' '] ++
      (Number.integerChars block.start ++ '-' :: Number.integerChars block.stop) := by
  simp [heading, Number.integerText]

theorem BlockTrace.heading_inj {first second : BlockTrace} (h : first.heading = second.heading) :
    first.start = second.start ∧ first.stop = second.stop := by
  have hchars := congrArg String.toList h
  rw [toList_heading, toList_heading] at hchars
  obtain ⟨hstart, hstop⟩ := Number.integerChars_append_inj (List.append_cancel_left hchars)
  exact ⟨hstart, Number.integerChars_inj hstop⟩

theorem BlockTrace.heading_ne (block : BlockTrace) (branch : BranchTrace) :
    block.heading ≠ branch.summary := by
  intro h
  have hchars := congrArg String.toList h
  rw [toList_heading, BranchTrace.toList_summary] at hchars
  exact absurd (List.cons.inj hchars).1 (by decide)

/-- The branches of a block end where a heading follows, or nothing. -/
theorem BlockTrace.branches_append_inj {branches branches' : List BranchTrace}
    {blocks blocks' : List BlockTrace}
    (h : branches.map BranchTrace.summary ++ blocks.flatMap summary =
      branches'.map BranchTrace.summary ++ blocks'.flatMap summary) :
    branches = branches' ∧ blocks.flatMap summary = blocks'.flatMap summary := by
  have hend : ∀ (blocks : List BlockTrace) (branch : BranchTrace) (others : List String),
      blocks.flatMap summary ≠ branch.summary :: others := by
    intro blocks branch others heq
    cases blocks with
    | nil => cases heq
    | cons block blocks => exact block.heading_ne branch (List.cons.inj heq).1
  induction branches generalizing branches' with
  | nil =>
    cases branches' with
    | nil => exact ⟨rfl, h⟩
    | cons branch' branches' => exact absurd h (hend blocks branch' _)
  | cons branch branches ih =>
    cases branches' with
    | nil => exact absurd h.symm (hend blocks' branch _)
    | cons branch' branches' =>
      obtain ⟨hfirst, hothers⟩ := List.cons.inj h
      obtain ⟨rfl, hblocks⟩ := ih hothers
      exact ⟨by rw [BranchTrace.summary_inj hfirst], hblocks⟩

theorem BlockTrace.flatMap_summary_inj {first second : List BlockTrace}
    (h : first.flatMap summary = second.flatMap summary) : first = second := by
  induction first generalizing second with
  | nil =>
    cases second with
    | nil => rfl
    | cons block second => cases h
  | cons block first ih =>
    cases second with
    | nil => cases h
    | cons block' second =>
      rw [List.flatMap_cons, List.flatMap_cons, summary_eq, summary_eq] at h
      obtain ⟨hheading, hlines⟩ := List.cons.inj h
      obtain ⟨hstart, hstop⟩ := heading_inj hheading
      obtain ⟨hbranches, hothers⟩ := branches_append_inj hlines
      obtain ⟨start, stop, branches⟩ := block
      obtain ⟨start', stop', branches'⟩ := block'
      dsimp only at hstart hstop hbranches
      rw [hstart, hstop, hbranches, ih hothers]

/-- No expression goes on behind the end of a line. -/
def Trace.ExpressionsOnOneLine (trace : Trace) : Prop :=
  ∀ block ∈ trace.blocks, ∀ branch ∈ block.branches, ∀ expression,
    branch.expression = some expression → '\n' ∉ expression.toList

theorem BranchTrace.not_mem_summary {branch : BranchTrace}
    (h : ∀ expression, branch.expression = some expression → '\n' ∉ expression.toList) :
    '\n' ∉ branch.summary.toList := by
  have hexpression : '\n' ∉ expressionChars branch.expression := by
    cases hvalue : branch.expression with
    | none => exact List.not_mem_nil
    | some expression =>
      exact List.not_mem_cons_of_ne_of_not_mem (by decide) (h expression hvalue)
  have hkind : '\n' ∉ branch.kind.name.toList := by
    cases branch.kind <;> decide
  have hmark : '\n' ≠ if branch.taken then 'x' else ' ' := by
    cases branch.taken <;> decide
  rw [toList_summary]
  simp [hexpression, hkind, hmark]

theorem BlockTrace.not_mem_heading (block : BlockTrace) : '\n' ∉ block.heading.toList := by
  have hinteger : ∀ n, '\n' ∉ Number.integerChars n :=
    Number.not_mem_integerChars (by decide) (by decide)
  rw [toList_heading]
  simp [hinteger]

namespace Trace

/-- The lines of the summary. -/
def summaryLines (trace : Trace) : List String :=
  if trace.blocks = [] then ["no conditional blocks"] else trace.blocks.flatMap BlockTrace.summary

theorem not_mem_of_mem_summaryLines {trace : Trace} (h : trace.ExpressionsOnOneLine) :
    ∀ line ∈ trace.summaryLines, '\n' ∉ line.toList := by
  unfold summaryLines
  split
  · exact List.forall_mem_singleton.2 (by decide)
  · intro line hline
    obtain ⟨block, hblock, hline⟩ := List.mem_flatMap.1 hline
    rw [BlockTrace.summary_eq] at hline
    rcases List.mem_cons.1 hline with rfl | hline
    · exact block.not_mem_heading
    · obtain ⟨branch, hbranch, rfl⟩ := List.mem_map.1 hline
      exact BranchTrace.not_mem_summary (h block hblock branch hbranch)

theorem summaryLines_ne_nil (trace : Trace) : trace.summaryLines ≠ [] := by
  unfold summaryLines
  split
  · exact List.cons_ne_nil _ _
  · next hsome =>
    obtain ⟨block, others, hblocks⟩ := List.exists_cons_of_ne_nil hsome
    rw [hblocks, List.flatMap_cons, BlockTrace.summary_eq]
    exact List.cons_ne_nil _ _

theorem summary_eq_unlines (trace : Trace) : trace.summary = Text.unlines trace.summaryLines := by
  unfold summary summaryLines
  split
  · rfl
  · rfl

/-- The summary can be cut into its lines again. -/
theorem lines_summary {trace : Trace} (h : trace.ExpressionsOnOneLine) :
    Text.lines trace.summary = trace.summaryLines := by
  rw [summary_eq_unlines]
  exact Text.lines_unlines trace.summaryLines_ne_nil (not_mem_of_mem_summaryLines h)

theorem summaryLines_inj {first second : Trace} (h : first.summaryLines = second.summaryLines) :
    first = second := by
  have hnone : ∀ blocks : List BlockTrace, blocks ≠ [] →
      blocks.flatMap BlockTrace.summary ≠ ["no conditional blocks"] := by
    intro blocks hsome heq
    obtain ⟨block, others, rfl⟩ := List.exists_cons_of_ne_nil hsome
    have hheading : block.heading = "no conditional blocks" := (List.cons.inj heq).1
    have hchars := congrArg String.toList hheading
    rw [BlockTrace.toList_heading] at hchars
    exact absurd (List.cons.inj hchars).1 (by decide)
  obtain ⟨blocks⟩ := first
  obtain ⟨blocks'⟩ := second
  unfold summaryLines at h
  dsimp only at h
  split at h
  · next hfirst =>
    split at h
    · next hsecond => rw [hfirst, hsecond]
    · next hsecond => exact absurd h.symm (hnone blocks' hsecond)
  · next hfirst =>
    split at h
    · exact absurd h (hnone blocks hfirst)
    · rw [BlockTrace.flatMap_summary_inj h]

/-- The expressions of a block stand on lines of the document. -/
theorem not_mem_of_expression {options : Options} {text : String} {found : List Block}
    (h : CondDoc.blocks options text = .ok found) {block : Block} (hblock : block ∈ found)
    {branch : Branch} (hbranch : branch ∈ block.branches) {expression : String}
    (hexpression : branch.guard.expression? = some expression) : '\n' ∉ expression.toList := by
  have hwritten := mem_of_mem_numbered (branch_written h hblock hbranch)
  obtain ⟨line, hline, hdirective⟩ := exists_line_of_mem_directives hwritten
  rw [← branch.guard.expression?_directive] at hexpression
  intro hmem
  exact Text.not_mem_of_mem_lines hline
    (Directive.mem_of_mem_expression hdirective hexpression hmem)

theorem expressionsOnOneLine_of_render {text : String} {arguments : Arguments} {options : Options}
    {rendering : Rendering} (h : render text arguments options = .ok rendering) :
    rendering.trace.ExpressionsOnOneLine := by
  obtain ⟨resolver, hrender⟩ := exists_renderIn_of_render h
  obtain ⟨found, decisions, hblocks, hdecide, htrace, -⟩ := of_renderIn hrender
  have houtline : rendering.trace.blocks.map BlockTrace.outline = found.map Block.outline := by
    rw [htrace, List.map_map]
    exact outline_of_decideAll hdecide
  intro record hrecord trace htraceMem expression hexpression
  have hfound : record.outline ∈ found.map Block.outline :=
    houtline ▸ List.mem_map_of_mem hrecord
  obtain ⟨block, hblock, heq⟩ := List.mem_map.1 hfound
  have hbranches : block.branches.map (fun branch => (branch.guard.kind, branch.guard.expression?)) =
      record.branches.map fun branch => (branch.kind, branch.expression) :=
    congrArg (fun outline => outline.2.2) heq
  have hpair : (trace.kind, trace.expression) ∈
      block.branches.map fun branch => (branch.guard.kind, branch.guard.expression?) :=
    hbranches ▸ List.mem_map_of_mem htraceMem
  obtain ⟨branch, hbranch, hsame⟩ := List.mem_map.1 hpair
  have hguard : branch.guard.expression? = some expression :=
    (congrArg Prod.snd hsame).trans hexpression
  exact not_mem_of_expression hblocks hblock hbranch hguard

/-- Traces whose expressions stand on one line are known by their summaries, and those of documents
are such traces. -/
theorem eq_of_summary_eq :
    (∀ first second : Trace, first.ExpressionsOnOneLine → second.ExpressionsOnOneLine →
      first.summary = second.summary → first = second) ∧
    ∀ text arguments options rendering, render text arguments options = .ok rendering →
      rendering.trace.ExpressionsOnOneLine := by
  refine ⟨?_, fun _ _ _ _ => expressionsOnOneLine_of_render⟩
  intro first second hfirst hsecond h
  have hlines : first.summaryLines = second.summaryLines := by
    rw [← lines_summary hfirst, ← lines_summary hsecond, h]
  exact summaryLines_inj hlines

/-- A block with nothing in it. -/
def hollowText : String := "\x7b\x7b#if X\x7d\x7d\n\x7b\x7b/if\x7d\x7d"

def hollowTrace : Trace := ⟨[⟨1, 2, [⟨.condition, some "X", true⟩]⟩]⟩

/-- Only one trace has the summary of this rendering, and a branch without an expression is not
summarised as one with an empty expression is. -/
theorem hollowTrace_summary :
    render hollowText (.data (.mapping [(.text "X", .text "ON")])) .standard =
        .ok ⟨"", hollowTrace⟩ ∧
      hollowTrace.ExpressionsOnOneLine ∧
      (∀ trace : Trace, trace.ExpressionsOnOneLine →
        trace.summary = "lines 1-2\n  [x] if X" → trace = hollowTrace) ∧
      Trace.summary ⟨[⟨-1, -2, [⟨.otherwise, none, false⟩]⟩]⟩ ≠
        Trace.summary ⟨[⟨-1, -2, [⟨.otherwise, some "", false⟩]⟩]⟩ := by
  let context : Expression.Context := ⟨⟨[("X", .string "ON")]⟩, .standard⟩
  have harguments : Resolver.ofArguments (.data (.mapping [(.text "X", .text "ON")])) =
      .ok context.resolver := rfl
  have hX : Expression.evaluateText context "X" = .ok true := evaluateText_X_on .standard
  have hscan : CondDoc.blocks .standard hollowText = .ok [⟨1, 2, [⟨.condition "X", 1, 1⟩]⟩] := rfl
  have hprune : prune context hollowText [⟨1, 2, [⟨.condition "X", 1, 1⟩]⟩] =
      .ok ⟨"", hollowTrace⟩ := by
    simp only [prune, decideAll, Block.select, choose, Branch.holds, hX]
    rfl
  have hrender : render hollowText (.data (.mapping [(.text "X", .text "ON")])) .standard =
      .ok ⟨"", hollowTrace⟩ := by
    rw [render_of_ofArguments harguments, renderIn, hscan]
    change (prune context hollowText _).mapError Error.template = _
    rw [hprune]
    rfl
  have honeLine : hollowTrace.ExpressionsOnOneLine := eq_of_summary_eq.2 _ _ _ _ hrender
  have hsummary : hollowTrace.summary = "lines 1-2\n  [x] if X" := by rfl
  have hnone : ExpressionsOnOneLine ⟨[⟨-1, -2, [⟨.otherwise, none, false⟩]⟩]⟩ := by
    simp [ExpressionsOnOneLine]
  have hempty : ExpressionsOnOneLine ⟨[⟨-1, -2, [⟨.otherwise, some "", false⟩]⟩]⟩ := by
    simp [ExpressionsOnOneLine]
  refine ⟨hrender, honeLine, fun trace htrace h => ?_, fun h => ?_⟩
  · exact eq_of_summary_eq.1 trace hollowTrace htrace honeLine (h.trans hsummary.symm)
  · have heq := eq_of_summary_eq.1 _ _ hnone hempty h
    exact absurd heq (by decide)

end Trace

end CondDoc
