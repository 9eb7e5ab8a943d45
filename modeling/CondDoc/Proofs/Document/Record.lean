import CondDoc.Proofs.Document.Balanced
import CondDoc.Proofs.Document.Stable

namespace CondDoc

/-- Lines, and kinds and expressions of branches: what the record has from the block itself. -/
def Block.outline (block : Block) : Int × Int × List (BranchKind × Option String) :=
  (block.start, block.stop,
    block.branches.map fun branch => (branch.guard.kind, branch.guard.expression?))

def BlockTrace.outline (record : BlockTrace) : Int × Int × List (BranchKind × Option String) :=
  (record.start, record.stop, record.branches.map fun branch => (branch.kind, branch.expression))

/-- The first branch that is recorded as taken. -/
def recordedChoice : List Branch → List BranchTrace → Option Branch
  | branch :: branches, trace :: traces =>
    if trace.taken then some branch else recordedChoice branches traces
  | _, _ => none

section

variable {context : Expression.Context} {branches : List Branch} {chosen : Option Branch}
  {traces : List BranchTrace}

theorem outline_of_choose (h : choose context branches = .ok (chosen, traces)) :
    traces.map (fun trace => (trace.kind, trace.expression)) =
      branches.map fun branch => (branch.guard.kind, branch.guard.expression?) := by
  induction branches generalizing traces with
  | nil =>
    cases h
    rfl
  | cons branch others ih =>
    rcases choose_cons_eq_ok_iff.1 h with ⟨-, -, rfl⟩ | ⟨-, later, hothers, rfl⟩
    · rw [List.map_cons, List.map_map]
      rfl
    · rw [List.map_cons, List.map_cons, ih hothers]
      rfl

/-- The record of the branches tells which one was chosen. -/
theorem recordedChoice_of_choose (h : choose context branches = .ok (chosen, traces)) :
    recordedChoice branches traces = chosen := by
  induction branches generalizing traces with
  | nil =>
    cases h
    rfl
  | cons branch others ih =>
    rcases choose_cons_eq_ok_iff.1 h with ⟨-, rfl, rfl⟩ | ⟨-, later, hothers, rfl⟩
    · rfl
    · exact ih hothers

theorem countP_taken_of_choose (h : choose context branches = .ok (chosen, traces)) :
    traces.countP (·.taken) = if chosen.isSome then 1 else 0 := by
  induction branches generalizing traces with
  | nil =>
    cases h
    rfl
  | cons branch others ih =>
    rcases choose_cons_eq_ok_iff.1 h with ⟨-, rfl, rfl⟩ | ⟨-, later, hothers, rfl⟩
    · have hnone : (others.map (·.trace false)).countP (·.taken) = 0 := by
        rw [List.countP_eq_zero]
        intro trace hmem
        obtain ⟨other, -, rfl⟩ := List.mem_map.1 hmem
        exact Bool.false_ne_true
      rw [List.countP_cons, hnone]
      rfl
    · rw [List.countP_cons, ih hothers]
      rfl

/-- Where nothing is chosen, there is no `else`. -/
theorem kind_ne_otherwise_of_choose (h : choose context branches = .ok (none, traces)) :
    ∀ branch ∈ branches, branch.guard.kind ≠ .otherwise := by
  induction branches generalizing traces with
  | nil => exact fun branch hbranch => absurd hbranch List.not_mem_nil
  | cons branch others ih =>
    rcases choose_cons_eq_ok_iff.1 h with ⟨-, hchosen, -⟩ | ⟨hholds, later, hothers, -⟩
    · cases hchosen
    · refine List.forall_mem_cons.2 ⟨?_, ih hothers⟩
      intro hkind
      have hnone : branch.guard.expression? = none := by
        rw [Guard.eq_otherwise_of_kind hkind]
        rfl
      rw [holds_of_no_expression hnone] at hholds
      cases hholds

/-- One branch at most is taken, and one is if the last branch is an `else`. -/
theorem taken_of_choose (h : choose context branches = .ok (chosen, traces)) :
    traces.countP (·.taken) ≤ 1 ∧
      (traces.getLast?.map (·.kind) = some .otherwise → traces.countP (·.taken) = 1) := by
  rw [countP_taken_of_choose h]
  cases chosen with
  | some branch => exact ⟨Nat.le_refl _, fun _ => rfl⟩
  | none =>
    refine ⟨Nat.zero_le _, fun hlast => ?_⟩
    have hkinds : traces.map (·.kind) = branches.map (·.guard.kind) := by
      have houtline := congrArg (List.map Prod.fst) (outline_of_choose h)
      rw [List.map_map, List.map_map] at houtline
      exact houtline
    rw [← List.getLast?_map, hkinds] at hlast
    obtain ⟨branch, hbranch, hkind⟩ := List.mem_map.1 (List.mem_of_getLast? hlast)
    exact absurd hkind (kind_ne_otherwise_of_choose h branch hbranch)

end

/-- The decision that a record tells about. -/
def Decision.recorded (block : Block) (record : BlockTrace) : Decision :=
  ⟨block, recordedChoice block.branches record.branches, record⟩

theorem recorded_of_select {context : Expression.Context} {block : Block} {decision : Decision}
    (h : block.select context = .ok decision) :
    Decision.recorded block decision.trace = decision := by
  obtain ⟨hblock, traces, hchoose, htrace⟩ := of_select_eq_ok h
  rw [Decision.recorded, htrace, recordedChoice_of_choose hchoose, ← htrace, ← hblock]

section

variable {context : Expression.Context} {found : List Block} {decisions : List Decision}

theorem outline_of_decideAll (h : decideAll context found = .ok decisions) :
    decisions.map (·.trace.outline) = found.map Block.outline := by
  induction found generalizing decisions with
  | nil =>
    cases h
    rfl
  | cons block others ih =>
    obtain ⟨first, rest, hfirst, hrest, rfl⟩ := decideAll_cons_eq_ok_iff.1 h
    obtain ⟨-, traces, hchoose, htrace⟩ := of_select_eq_ok hfirst
    have hfirst : first.trace.outline = block.outline := by
      rw [htrace, BlockTrace.outline, outline_of_choose hchoose]
      rfl
    rw [List.map_cons, List.map_cons, hfirst, ih hrest]

/-- The blocks and their records tell all decisions. -/
theorem recorded_of_decideAll (h : decideAll context found = .ok decisions) :
    List.zipWith Decision.recorded found (decisions.map (·.trace)) = decisions := by
  induction found generalizing decisions with
  | nil =>
    cases h
    rfl
  | cons block others ih =>
    obtain ⟨first, rest, hfirst, hrest, rfl⟩ := decideAll_cons_eq_ok_iff.1 h
    rw [List.map_cons, List.zipWith_cons_cons, recorded_of_select hfirst, ih hrest]

theorem taken_of_decideAll (h : decideAll context found = .ok decisions) :
    ∀ record ∈ decisions.map (·.trace), record.branches.countP (·.taken) ≤ 1 ∧
      (record.branches.getLast?.map (·.kind) = some .otherwise →
        record.branches.countP (·.taken) = 1) := by
  induction found generalizing decisions with
  | nil =>
    cases h
    exact fun record hmem => absurd hmem List.not_mem_nil
  | cons block others ih =>
    obtain ⟨first, rest, hfirst, hrest, rfl⟩ := decideAll_cons_eq_ok_iff.1 h
    obtain ⟨-, traces, hchoose, htrace⟩ := of_select_eq_ok hfirst
    refine List.forall_mem_cons.2 ⟨?_, ih hrest⟩
    dsimp only
    rw [htrace]
    exact taken_of_choose hchoose

end

/-- A rendering comes about with some arguments that can be used: for an empty text, with any. -/
theorem exists_renderIn_of_render {text : String} {arguments : Arguments} {options : Options}
    {rendering : Rendering} (h : render text arguments options = .ok rendering) :
    ∃ resolver, renderIn ⟨resolver, options⟩ text = .ok rendering := by
  have hsome : ∃ arguments' resolver, Resolver.ofArguments arguments' = .ok resolver ∧
      render text arguments' options = .ok rendering := by
    by_cases hempty : text = ""
    · refine ⟨.data .null, ⟨[]⟩, rfl, ?_⟩
      rwa [render, if_pos hempty] at h ⊢
    · cases harguments : Resolver.ofArguments arguments with
      | ok resolver => exact ⟨arguments, resolver, harguments, h⟩
      | error error =>
        rw [render, if_neg hempty, harguments] at h
        cases h
  obtain ⟨arguments', resolver, harguments, h⟩ := hsome
  rw [render_of_ofArguments harguments] at h
  cases hrender : renderIn ⟨resolver, options⟩ text with
  | error failure =>
    rw [hrender] at h
    cases h
  | ok result =>
    rw [hrender] at h
    cases h
    exact ⟨resolver, hrender⟩

/-- What the text, its blocks and a record of them come to. -/
def replay (text : String) (found : List Block) (trace : Trace) : String :=
  Text.unlines (keptLines (List.zipWith Decision.recorded found trace.blocks) 1 (Text.lines text))

theorem of_renderIn {context : Expression.Context} {text : String} {rendering : Rendering}
    (h : renderIn context text = .ok rendering) :
    ∃ found decisions, blocks context.options text = .ok found ∧
      decideAll context found = .ok decisions ∧
      rendering.trace.blocks = decisions.map (·.trace) ∧
      rendering.text = replay text found rendering.trace := by
  rw [renderIn, bind_eq_ok_iff] at h
  obtain ⟨found, hblocks, h⟩ := h
  obtain ⟨decisions, hdecide, h⟩ := bind_eq_ok_iff.1 h
  obtain rfl := Except.ok.inj h
  refine ⟨found, decisions, hblocks, hdecide, rfl, ?_⟩
  rw [replay, recorded_of_decideAll hdecide]

/-- The record of a rendering accounts for its text: it has the blocks in order, with one taken branch
at most and with one if there is an `else`; the text depends on the arguments through it alone; and
the text is as it was just if there are no blocks in the record. -/
theorem trace_accounts_for_text (text : String) (arguments : Arguments) (options : Options)
    (rendering : Rendering) (h : render text arguments options = .ok rendering) :
    (∃ found, blocks options text = .ok found ∧
      rendering.trace.blocks.map BlockTrace.outline = found.map Block.outline) ∧
    (∀ record ∈ rendering.trace.blocks, record.branches.countP (·.taken) ≤ 1 ∧
      (record.branches.getLast?.map (·.kind) = some .otherwise →
        record.branches.countP (·.taken) = 1)) ∧
    (∀ arguments' rendering', render text arguments' options = .ok rendering' →
      rendering'.trace = rendering.trace → rendering'.text = rendering.text) ∧
    (rendering.text = text ↔ rendering.trace = ⟨[]⟩) := by
  obtain ⟨resolver, hrender⟩ := exists_renderIn_of_render h
  obtain ⟨found, decisions, hblocks, hdecide, htrace, htext⟩ := of_renderIn hrender
  refine ⟨⟨found, hblocks, ?_⟩, ?_, ?_, ?_⟩
  · rw [htrace, List.map_map]
    exact outline_of_decideAll hdecide
  · rw [htrace]
    exact taken_of_decideAll hdecide
  · intro arguments' rendering' h' hsame
    obtain ⟨resolver', hrender'⟩ := exists_renderIn_of_render h'
    obtain ⟨found', -, hblocks', -, -, htext'⟩ := of_renderIn hrender'
    obtain rfl := Except.ok.inj (hblocks.symm.trans hblocks')
    rw [htext', htext, hsame]
  · constructor
    · intro hunchanged
      -- A rendered text has no directives, so a text that is one has no blocks.
      have hplain := plain_of_renderIn hrender
      rw [hunchanged] at hplain
      obtain rfl := Except.ok.inj (hblocks.symm.trans (blocks_of_plain hplain))
      cases hdecide
      exact congrArg Trace.mk htrace
    · intro hempty
      have hnone : decisions = [] := by
        rw [hempty] at htrace
        exact List.map_eq_nil_iff.1 htrace.symm
      subst hnone
      obtain rfl := List.map_eq_nil_iff.1 (outline_of_decideAll hdecide).symm
      rw [renderIn, hblocks, ok_bind, prune_nil] at hrender
      cases hrender
      rfl

/-- A block with an `else`, and a line behind it. -/
def choiceText : String :=
  "\x7b\x7b#if X\x7d\x7d\na\n\x7b\x7belse\x7d\x7d\nb\n\x7b\x7b/if\x7d\x7d\nc"

def choiceRendering : Rendering :=
  ⟨"a\nc", ⟨[⟨1, 5, [⟨.condition, some "X", true⟩, ⟨.otherwise, none, false⟩]⟩]⟩⟩

theorem render_choiceText :
    render choiceText (.data (.mapping [(.text "X", .text "ON")])) .standard =
        .ok choiceRendering ∧
      (∀ arguments rendering, render choiceText arguments .standard = .ok rendering →
        rendering.trace = choiceRendering.trace → rendering.text = "a\nc") ∧
      choiceRendering.text ≠ choiceText := by
  let context : Expression.Context := ⟨⟨[("X", .string "ON")]⟩, .standard⟩
  have harguments : Resolver.ofArguments (.data (.mapping [(.text "X", .text "ON")])) =
      .ok context.resolver := rfl
  have hX : Expression.evaluateText context "X" = .ok true := evaluateText_X_on .standard
  have hscan : blocks .standard choiceText =
      .ok [⟨1, 5, [⟨.condition "X", 1, 2⟩, ⟨.otherwise, 3, 4⟩]⟩] := rfl
  have hprune : prune context choiceText
      [⟨1, 5, [⟨.condition "X", 1, 2⟩, ⟨.otherwise, 3, 4⟩]⟩] = .ok choiceRendering := by
    simp only [prune, decideAll, Block.select, choose, Branch.holds, hX]
    rfl
  have hrender : render choiceText (.data (.mapping [(.text "X", .text "ON")])) .standard =
      .ok choiceRendering := by
    rw [render_of_ofArguments harguments, renderIn, hscan]
    change (prune context choiceText _).mapError Error.template = _
    rw [hprune]
    rfl
  obtain ⟨-, -, hsame, hunchanged⟩ := trace_accounts_for_text _ _ _ _ hrender
  refine ⟨hrender, fun arguments rendering => hsame arguments rendering, ?_⟩
  intro heq
  cases hunchanged.1 heq

end CondDoc
