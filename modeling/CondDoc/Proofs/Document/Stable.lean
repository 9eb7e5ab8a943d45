import CondDoc.Proofs.Document.Render
import CondDoc.Proofs.Text.Lines

namespace CondDoc

variable {parseFences inFence : Bool}

/-- Are these the marks that their lines get, inside fenced code or outside of it? -/
def Marked (parseFences inFence : Bool) (marks : List Mark) : Prop :=
  marksFrom parseFences inFence (marks.map Mark.line) = marks

theorem marked_append_iff {first second : List Mark} :
    Marked parseFences inFence (first ++ second) ↔
      Marked parseFences inFence first ∧
        Marked parseFences (fenceAfter parseFences inFence (first.map Mark.line)) second := by
  have hlength : (marksFrom parseFences inFence (first.map Mark.line)).length = first.length := by
    rw [length_marksFrom, List.length_map]
  rw [Marked, List.map_append, marksFrom_append]
  constructor
  · intro h
    exact List.append_inj h hlength
  · intro h
    rw [h.1, h.2]

theorem marked_cons_iff {mark : Mark} {marks : List Mark} :
    Marked parseFences inFence (mark :: marks) ↔
      mark.directive =
          (if toggles parseFences mark.line || inFence then none else Directive.ofLine? mark.line) ∧
        Marked parseFences (inFence ^^ toggles parseFences mark.line) marks := by
  obtain ⟨line, directive⟩ := mark
  rw [Marked, List.map_cons, marksFrom, List.cons.injEq, Mark.mk.injEq, Marked]
  constructor
  · intro h
    exact ⟨h.1.2.symm, h.2⟩
  · intro h
    exact ⟨⟨rfl, h.1.symm⟩, h.2⟩

/-- A directive counts only outside of fenced code, and does not begin any. -/
theorem of_marked_directive {line : String} {directive : Directive} {marks : List Mark}
    (h : Marked parseFences inFence (⟨line, some directive⟩ :: marks)) :
    inFence = false ∧ toggles parseFences line = false ∧ Marked parseFences false marks := by
  obtain ⟨hdirective, hmarks⟩ := marked_cons_iff.1 h
  cases htoggles : toggles parseFences line with
  | true =>
    rw [htoggles] at hdirective
    cases hdirective
  | false =>
    cases inFence with
    | true =>
      rw [htoggles] at hdirective
      cases hdirective
    | false =>
      rw [htoggles] at hmarks
      exact ⟨rfl, rfl, hmarks⟩

theorem Tail.not_inFence {tail : Tail} (h : Marked parseFences inFence tail.marks) :
    inFence = false := by
  cases tail <;> exact (of_marked_directive h).1

/-- No line counts as a directive. -/
def Plain (parseFences inFence : Bool) (lines : List String) : Prop :=
  ∀ mark ∈ marksFrom parseFences inFence lines, mark.directive = none

theorem plain_append {first second : List String} (hfirst : Plain parseFences inFence first)
    (hsecond : Plain parseFences (fenceAfter parseFences inFence first) second) :
    Plain parseFences inFence (first ++ second) := by
  intro mark hmark
  rw [marksFrom_append, List.mem_append] at hmark
  rcases hmark with hmark | hmark
  · exact hfirst mark hmark
  · exact hsecond mark hmark

mutual

/-- What a tree renders to has no directives, and ends inside fenced code if the tree does. -/
theorem Tree.render_plain (context : Expression.Context) {inFence : Bool} (tree : Tree)
    (h : Marked parseFences inFence tree.marks) :
    Plain parseFences inFence (tree.render context) ∧
      fenceAfter parseFences inFence (tree.render context) =
        fenceAfter parseFences inFence (tree.marks.map Mark.line) := by
  cases tree with
  | empty => exact ⟨fun mark hmark => absurd hmark List.not_mem_nil, rfl⟩
  | line text rest =>
    obtain ⟨hdirective, hrest⟩ := marked_cons_iff.1 h
    obtain ⟨hplain, hfence⟩ := rest.render_plain context hrest
    refine ⟨?_, hfence⟩
    intro mark hmark
    rw [Tree.render, marksFrom] at hmark
    rcases List.mem_cons.1 hmark with rfl | hmark
    · exact hdirective.symm
    · exact hplain mark hmark
  | block opening condition body tail rest =>
    obtain ⟨rfl, htoggles, hmarks⟩ := of_marked_directive h
    obtain ⟨hbody, hmarks⟩ := marked_append_iff.1 hmarks
    obtain ⟨htail, hrest⟩ := marked_append_iff.1 hmarks
    have houtside := Tail.not_inFence htail
    rw [houtside] at htail hrest
    obtain ⟨hbodyPlain, hbodyFence⟩ := body.render_plain context hbody
    obtain ⟨htailPlain, htailFence, hclosed⟩ := tail.render_plain context htail
    rw [hclosed] at hrest
    obtain ⟨hrestPlain, hrestFence⟩ := rest.render_plain context hrest
    have hchosen : Plain parseFences false
          (if context.accepts condition then body.render context else tail.render context) ∧
        fenceAfter parseFences false
          (if context.accepts condition then body.render context else tail.render context) =
            false := by
      split
      · exact ⟨hbodyPlain, hbodyFence.trans houtside⟩
      · exact ⟨htailPlain, htailFence⟩
    constructor
    · rw [Tree.render]
      apply plain_append hchosen.1
      rw [hchosen.2]
      exact hrestPlain
    · rw [Tree.render, fenceAfter_append, hchosen.2, hrestFence, Tree.marks, List.map_cons,
        fenceAfter, htoggles, List.map_append, List.map_append, fenceAfter_append,
        fenceAfter_append, Bool.xor_false, houtside, hclosed]

/-- The rest of a block is outside of fenced code at both ends, and so is what it renders to. -/
theorem Tail.render_plain (context : Expression.Context) (tail : Tail)
    (h : Marked parseFences false tail.marks) :
    Plain parseFences false (tail.render context) ∧
      fenceAfter parseFences false (tail.render context) = false ∧
      fenceAfter parseFences false (tail.marks.map Mark.line) = false := by
  cases tail with
  | close closing =>
    obtain ⟨-, htoggles, -⟩ := of_marked_directive h
    refine ⟨fun mark hmark => absurd hmark List.not_mem_nil, rfl, ?_⟩
    rw [Tail.marks, List.map_cons, fenceAfter, htoggles]
    rfl
  | elseIf line condition body tail =>
    obtain ⟨-, htoggles, hmarks⟩ := of_marked_directive h
    obtain ⟨hbody, htail⟩ := marked_append_iff.1 hmarks
    have houtside := Tail.not_inFence htail
    rw [houtside] at htail
    obtain ⟨hbodyPlain, hbodyFence⟩ := body.render_plain context hbody
    obtain ⟨htailPlain, htailFence, hclosed⟩ := tail.render_plain context htail
    have hend : fenceAfter parseFences false ((Tail.elseIf line condition body tail).marks.map
        Mark.line) = false := by
      rw [Tail.marks, List.map_cons, fenceAfter, htoggles, List.map_append, fenceAfter_append,
        Bool.xor_false, houtside, hclosed]
    rw [Tail.render]
    split
    · exact ⟨hbodyPlain, hbodyFence.trans houtside, hend⟩
    · exact ⟨htailPlain, htailFence, hend⟩
  | otherwise line body closing =>
    obtain ⟨-, htoggles, hmarks⟩ := of_marked_directive h
    obtain ⟨hbody, hclosing⟩ := marked_append_iff.1 hmarks
    obtain ⟨houtside, hclosingToggles, -⟩ := of_marked_directive hclosing
    obtain ⟨hbodyPlain, hbodyFence⟩ := body.render_plain context hbody
    refine ⟨hbodyPlain, hbodyFence.trans houtside, ?_⟩
    rw [Tail.marks, List.map_cons, fenceAfter, htoggles, List.map_append, fenceAfter_append,
      Bool.xor_false, houtside, List.map_cons, fenceAfter, hclosingToggles]
    rfl

end

theorem Scan.run_of_all_none (maxNesting : Nat) (scan : Scan)
    {directives : List (Option Directive)} (h : ∀ directive ∈ directives, directive = none) :
    Scan.run maxNesting scan directives =
      .ok ⟨scan.line + directives.length, scan.opened, scan.found⟩ := by
  induction directives generalizing scan with
  | nil => rfl
  | cons directive directives ih =>
    have hfirst : directive = none := h directive List.mem_cons_self
    have hothers := ih ⟨scan.line + 1, scan.opened, scan.found⟩ fun other hmem =>
      h other (List.mem_cons_of_mem _ hmem)
    have hnumber : scan.line + (directives.length + 1) = scan.line + 1 + directives.length := by
      omega
    rw [hfirst, Scan.run_cons, List.length_cons, hnumber]
    exact hothers

theorem blocks_of_plain {options : Options} {text : String}
    (h : Plain options.parseFences false (Text.lines text)) : blocks options text = .ok [] := by
  have hnone : ∀ directive ∈ directives options.parseFences (Text.lines text),
      directive = none := by
    intro directive hmem
    rw [← map_directive_marksFrom] at hmem
    obtain ⟨mark, hmark, rfl⟩ := List.mem_map.1 hmem
    exact h mark hmark
  rw [blocks, Scan.run_of_all_none _ _ hnone]
  rfl

/-- Without blocks, all lines are kept. -/
theorem prune_nil (context : Expression.Context) (text : String) :
    prune context text [] = .ok ⟨text, ⟨[]⟩⟩ := by
  have hkept (number : Nat) (lines : List String) : keptLines [] number lines = lines := by
    induction lines generalizing number with
    | nil => rfl
    | cons line lines ih =>
      change line :: keptLines [] (number + 1) lines = line :: lines
      rw [ih]
  change Except.ok (⟨Text.unlines (keptLines [] 1 (Text.lines text)), ⟨[]⟩⟩ : Rendering) = _
  rw [hkept, Text.unlines_lines]

/-- A rendered text is made of the lines that its tree renders to. -/
theorem exists_tree_of_renderIn {context : Expression.Context} {text : String}
    {rendering : Rendering} (h : renderIn context text = .ok rendering) :
    ∃ tree : Tree, tree.marks = marks context.options.parseFences text ∧
      rendering.text = Text.unlines (tree.render context) := by
  rw [renderIn, bind_eq_ok_iff] at h
  obtain ⟨found, hscan, h⟩ := h
  obtain ⟨tree, htree⟩ := exists_tree_of_blocks hscan
  obtain ⟨-, hfound⟩ := (blocks_eq_ok_iff htree).1 hscan
  rw [hfound] at h
  refine ⟨tree, htree, ?_⟩
  have hdecide := h
  rw [prune, bind_eq_ok_iff] at hdecide
  obtain ⟨decisions, hdecide, -⟩ := hdecide
  rw [prune_tree htree hdecide] at h
  cases h
  rfl

theorem plain_empty : Plain parseFences false (Text.lines "") := by
  intro mark hmark
  obtain rfl := List.mem_singleton.1 hmark
  dsimp only
  split <;> rfl

theorem plain_of_renderIn {context : Expression.Context} {text : String} {rendering : Rendering}
    (h : renderIn context text = .ok rendering) :
    Plain context.options.parseFences false (Text.lines rendering.text) := by
  obtain ⟨tree, htree, htext⟩ := exists_tree_of_renderIn h
  have hmarked : Marked context.options.parseFences false tree.marks := by
    rw [htree, Marked, marks, map_line_marksFrom]
  have hplain := (tree.render_plain context hmarked).1
  rw [htext]
  by_cases hempty : tree.render context = []
  · rw [hempty]
    exact plain_empty
  · have hlines : ∀ line ∈ tree.render context, '\n' ∉ line.toList := by
      intro line hmem
      have hline : line ∈ (marks context.options.parseFences text).map Mark.line := by
        rw [← htree]
        exact (List.Sublist.map Mark.line List.filter_sublist).subset
          ((tree.render_sublist context).subset hmem)
      rw [marks, map_line_marksFrom] at hline
      exact Text.not_mem_of_mem_lines hline
    rw [Text.lines_unlines hempty hlines]
    exact hplain

/-- Rendering a rendered text again changes nothing, with whatever arguments and options, as long as
fenced code is treated the same. -/
theorem render_stable (text : String) (arguments : Arguments) (options : Options)
    (rendering : Rendering) (h : render text arguments options = .ok rendering)
    (options' : Options) (hfences : options'.parseFences = options.parseFences) :
    blocks options' rendering.text = .ok [] ∧
      ∀ arguments' resolver', Resolver.ofArguments arguments' = .ok resolver' →
        render rendering.text arguments' options' = .ok ⟨rendering.text, ⟨[]⟩⟩ := by
  have hplain : Plain options.parseFences false (Text.lines rendering.text) := by
    unfold render at h
    split at h
    · cases h
      exact plain_empty
    · split at h
      · cases h
      · next resolver hargs =>
        cases hrender : renderIn ⟨resolver, options⟩ text with
        | error failure =>
          rw [hrender] at h
          cases h
        | ok result =>
          rw [hrender] at h
          cases h
          exact plain_of_renderIn hrender
  have hblocks : blocks options' rendering.text = .ok [] := by
    apply blocks_of_plain
    rw [hfences]
    exact hplain
  refine ⟨hblocks, ?_⟩
  intro arguments' resolver' hargs
  have hprune := prune_nil ⟨resolver', options'⟩ rendering.text
  rw [render_of_ofArguments hargs, renderIn, hblocks]
  change (prune ⟨resolver', options'⟩ rendering.text []).mapError Error.template = _
  rw [hprune]
  rfl

/-- Fenced code with a directive in it, inside a branch and at the end. -/
def fencedText : String :=
  "\x7b\x7b#if X\x7d\x7d\n~~~\n\x7b\x7b/if\x7d\x7d\n~~~\n\x7b\x7b/if\x7d\x7d\n~~~\n\x7b\x7b#if Y\x7d\x7d"

def fencedRendering : Rendering :=
  ⟨"~~~\n\x7b\x7b/if\x7d\x7d\n~~~\n~~~\n\x7b\x7b#if Y\x7d\x7d", ⟨[⟨1, 5, [⟨.condition, some "X", true⟩]⟩]⟩⟩

theorem render_fencedText :
    render fencedText (.data (.mapping [(.text "X", .text "ON")])) .standard =
        .ok fencedRendering ∧
      render fencedRendering.text (.data .null) { strict := true, maxNesting := 1 } =
        .ok ⟨fencedRendering.text, ⟨[]⟩⟩ := by
  let context : Expression.Context := ⟨⟨[("X", .string "ON")]⟩, .standard⟩
  have hargs : Resolver.ofArguments (.data (.mapping [(.text "X", .text "ON")])) =
      .ok context.resolver := rfl
  have hlookup : context.resolver.resolve? "X" = some (.string "ON") := rfl
  have htruthy : Value.truthy (.string "ON") = true := by decide
  have hX : Expression.evaluateText context "X" = .ok true := by
    rw [evaluateText_X hlookup, htruthy]
  have hscan : blocks .standard fencedText = .ok [⟨1, 5, [⟨.condition "X", 1, 4⟩]⟩] := rfl
  have hprune : prune context fencedText [⟨1, 5, [⟨.condition "X", 1, 4⟩]⟩] =
      .ok fencedRendering := by
    simp only [prune, decideAll, Block.select, choose, Branch.holds, hX]
    rfl
  have hrender : render fencedText (.data (.mapping [(.text "X", .text "ON")])) .standard =
      .ok fencedRendering := by
    rw [render_of_ofArguments hargs, renderIn, hscan]
    change (prune context fencedText _).mapError Error.template = _
    rw [hprune]
    rfl
  exact ⟨hrender, (render_stable _ _ _ _ hrender { strict := true, maxNesting := 1 } rfl).2
    (.data .null) ⟨[]⟩ rfl⟩

end CondDoc
