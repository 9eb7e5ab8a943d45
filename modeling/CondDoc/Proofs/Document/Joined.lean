import CondDoc.Proofs.Document.Located
import CondDoc.Proofs.Document.Shift
import CondDoc.Proofs.Text.Lines

namespace CondDoc

/-- The lines that stay of a text, and the record of its blocks. -/
def keptIn (context : Expression.Context) (text : String) : Except Failure (List String × Trace) := do
  let found ← blocks context.options text
  let decisions ← decideAll context found
  return (keptLines decisions 1 (Text.lines text), ⟨decisions.map (·.trace)⟩)

/-- A rendered text consists of the lines that stay. -/
theorem renderIn_eq_keptIn (context : Expression.Context) (text : String) :
    renderIn context text =
      (keptIn context text).map fun kept => ⟨Text.unlines kept.1, kept.2⟩ := by
  unfold renderIn keptIn prune
  cases blocks context.options text with
  | error failure => rfl
  | ok found =>
    rw [ok_bind, ok_bind]
    cases decideAll context found with
    | error failure => rfl
    | ok decisions => rfl

/-- The record of a first part, with that of a second part behind `n` lines. -/
def Trace.join (trace : Trace) (n : Nat) (behind : Trace) : Trace :=
  ⟨trace.blocks ++ behind.blocks.map (·.shift n)⟩

theorem fenceAfter_eq (parseFences inFence : Bool) (lines : List String) :
    fenceAfter parseFences inFence lines =
      (inFence ^^ lines.countP (toggles parseFences) % 2 == 1) := by
  induction lines generalizing inFence with
  | nil => exact (Bool.xor_false inFence).symm
  | cons line lines ih =>
    rw [fenceAfter, ih, List.countP_cons]
    cases toggles parseFences line with
    | false => rw [Bool.xor_false, if_neg Bool.false_ne_true, Nat.add_zero]
    | true =>
      rw [if_pos rfl, Bool.xor_assoc]
      congr 1
      rcases Nat.mod_two_eq_zero_or_one (lines.countP (toggles parseFences)) with h | h
      · rw [Nat.add_mod, h]
        rfl
      · rw [Nat.add_mod, h]
        rfl

/-- A text with an even number of lines that toggle fenced code ends outside of it. -/
theorem fenceAfter_eq_false {parseFences : Bool} {lines : List String}
    (h : parseFences = true ∨ lines.countP isFence % 2 = 0) :
    fenceAfter parseFences false lines = false := by
  rw [fenceAfter_eq]
  cases parseFences with
  | true =>
    have hnone : lines.countP (toggles true) = 0 :=
      List.countP_eq_zero.2 fun line _ => Bool.false_ne_true
    rw [hnone]
    rfl
  | false =>
    rcases h with h | h
    · cases h
    · have hsame : toggles false = isFence := rfl
      rw [hsame, h]
      rfl

theorem directives_append {parseFences : Bool} {first second : List String}
    (h : fenceAfter parseFences false first = false) :
    directives parseFences (first ++ second) =
      directives parseFences first ++ directives parseFences second := by
  rw [directives_append_from, h, map_directive_marksFrom]

/-- A scan that succeeds ends where it began, only further down and with blocks found. -/
theorem run_of_blocks {options : Options} {text : String} {found : List Block}
    (h : blocks options text = .ok found) :
    Scan.run options.maxNesting .start (directives options.parseFences (Text.lines text)) =
      .ok (Scan.start.shift (Text.lines text).length found) := by
  obtain ⟨tree, htree⟩ := exists_tree_of_blocks h
  obtain ⟨hfits, rfl⟩ := (blocks_eq_ok_iff htree).1 h
  have hlength : tree.marks.length = (Text.lines text).length := by
    rw [htree, marks, length_marksFrom]
  rw [← map_directive_marksFrom, ← marks, ← htree]
  refine (tree.run_eq_ok_iff options.maxNesting 0 [] [] _).2 ⟨hfits, ?_⟩
  rw [hlength, Scan.shift]
  change (⟨0 + _, [], tree.blocks 0 ++ []⟩ : Scan) = _
  rw [List.append_nil, List.nil_append]

theorem blocks_join {options : Options} {first second : String} {found : List Block}
    (hfirst : blocks options first = .ok found)
    (hfence : fenceAfter options.parseFences false (Text.lines first) = false) :
    blocks options (first ++ "\n" ++ second) =
      shifted (Text.lines first).length
        (fun behind => found ++ behind.map (·.shift (Text.lines first).length))
        (blocks options second) := by
  rw [blocks, Text.lines_join, directives_append hfence, Scan.run_append, run_of_blocks hfirst,
    ok_bind, Scan.run_shift, blocks]
  apply shifted_bind
  intro scan _
  exact Scan.finish_shift _ _ _

theorem within_of_blocks {options : Options} {text : String} {found : List Block}
    (h : blocks options text = .ok found) :
    ∀ block ∈ found, 1 ≤ block.start ∧ block.stop ≤ (Text.lines text).length := by
  obtain ⟨tree, htree⟩ := exists_tree_of_blocks h
  obtain ⟨-, rfl⟩ := (blocks_eq_ok_iff htree).1 h
  have hlength : tree.marks.length = (Text.lines text).length := by
    rw [htree, marks, length_marksFrom]
  intro block hblock
  have := tree.blocks_within 0 block hblock
  omega

theorem linesWhere_shift (keep : Nat → Bool) (number n : Nat) (lines : List String) :
    linesWhere keep (number + n) lines = linesWhere (fun i => keep (i + n)) number lines := by
  induction lines generalizing number with
  | nil => rfl
  | cons line lines ih =>
    have hnext : number + n + 1 = number + 1 + n := Nat.add_right_comm number n 1
    rw [linesWhere, linesWhere, hnext, ih]

/-- Decisions about blocks of the first part and of the second do not meddle with one another. -/
theorem keptLines_join {context : Expression.Context} {found behind : List Block}
    {decisions later : List Decision} {first : List String} (second : List String)
    (hfound : ∀ block ∈ found, block.stop ≤ first.length)
    (hbehind : ∀ block ∈ behind, 1 ≤ block.start)
    (hdecide : decideAll context found = .ok decisions)
    (hlater : decideAll context behind = .ok later) :
    keptLines (decisions ++ later.map (·.shift first.length)) 1 (first ++ second) =
      keptLines decisions 1 first ++ keptLines later 1 second := by
  have hshifted : decideAll context (behind.map (·.shift first.length)) =
      .ok (later.map (·.shift first.length)) := by
    rw [decideAll_shift, hlater]
    rfl
  rw [keptLines_eq_linesWhere, keptLines_eq_linesWhere, keptLines_eq_linesWhere, linesWhere_append,
    linesWhere_shift]
  congr 1
  · apply linesWhere_congr
    intro i hlow hhigh
    have hkeeps : (later.map (·.shift first.length)).all (·.keeps i) = true := by
      apply all_keeps_of_outside hshifted
      intro block hblock
      obtain ⟨block, hmem, rfl⟩ := List.mem_map.1 hblock
      have hstart := hbehind block hmem
      exact .inl (by rw [Block.shift]; dsimp only; omega)
    rw [List.all_append, hkeeps, Bool.and_true]
  · apply linesWhere_congr
    intro i hlow hhigh
    have hkeeps : decisions.all (·.keeps (i + first.length : Nat)) = true := by
      apply all_keeps_of_outside hdecide
      intro block hblock
      have hstop := hfound block hblock
      exact .inr (by omega)
    rw [List.all_append, hkeeps, Bool.true_and, List.all_map]
    congr 1
    funext decision
    exact decision.keeps_shift first.length i

theorem keptIn_join {context : Expression.Context} {first : String} {kept : List String}
    {trace : Trace} (second : String) (hfirst : keptIn context first = .ok (kept, trace))
    (hfence : fenceAfter context.options.parseFences false (Text.lines first) = false) :
    keptIn context (first ++ "\n" ++ second) =
      shifted (Text.lines first).length
        (fun behind => (kept ++ behind.1, trace.join (Text.lines first).length behind.2))
        (keptIn context second) := by
  obtain ⟨found, hblocks, hfirst⟩ := bind_eq_ok_iff.1 hfirst
  obtain ⟨decisions, hdecide, hfirst⟩ := bind_eq_ok_iff.1 hfirst
  cases hfirst
  rw [keptIn, keptIn, blocks_join hblocks hfence]
  apply shifted_bind
  intro behind hbehind
  rw [decideAll_append_of_eq_ok hdecide, decideAll_shift, Text.lines_join]
  cases hlater : decideAll context behind with
  | error failure => rfl
  | ok later =>
    have hlines := keptLines_join (Text.lines second)
      (fun block hblock => (within_of_blocks hblocks block hblock).2)
      (fun block hblock => (within_of_blocks hbehind block hblock).1) hdecide hlater
    have hrecord : (decisions ++ later.map (·.shift (Text.lines first).length)).map (·.trace) =
        decisions.map (·.trace) ++
          (later.map (·.trace)).map (·.shift (Text.lines first).length) := by
      rw [List.map_append, List.map_map, List.map_map]
      rfl
    exact congrArg₂ (fun lines records => Except.ok (lines, Trace.mk records)) hlines hrecord

theorem render_eq_keptIn {arguments : Arguments} {resolver : Resolver}
    (harguments : Resolver.ofArguments arguments = .ok resolver) (text : String)
    (options : Options) :
    render text arguments options =
      ((keptIn ⟨resolver, options⟩ text).map fun kept => ⟨Text.unlines kept.1, kept.2⟩).mapError
        Error.template := by
  rw [render_of_ofArguments harguments, renderIn_eq_keptIn]

/-- With one text in front that can be rendered and ends outside of fenced code, another text is
rendered as it is by itself: the kept lines follow those of the first text, the record follows that
of the first text with later lines, and a failure is the same on a later line. -/
theorem render_join (first second : String) (arguments : Arguments) (options : Options)
    (resolver : Resolver) (harguments : Resolver.ofArguments arguments = .ok resolver)
    (rendering : Rendering) (hfirst : render first arguments options = .ok rendering)
    (hfence : options.parseFences = true ∨ (Text.lines first).countP isFence % 2 = 0) :
    ((∃ joined, render (first ++ "\n" ++ second) arguments options = .ok joined) ↔
      ∃ behind, render second arguments options = .ok behind) ∧
    (∃ kept trace, keptIn ⟨resolver, options⟩ first = .ok (kept, trace) ∧
      rendering = ⟨Text.unlines kept, trace⟩ ∧
      ∀ behind, render second arguments options = .ok behind →
        ∃ later, keptIn ⟨resolver, options⟩ second = .ok (later, behind.trace) ∧
          behind.text = Text.unlines later ∧
          keptIn ⟨resolver, options⟩ (first ++ "\n" ++ second) =
            .ok (kept ++ later, trace.join (Text.lines first).length behind.trace) ∧
          render (first ++ "\n" ++ second) arguments options =
            .ok ⟨Text.unlines (kept ++ later),
              trace.join (Text.lines first).length behind.trace⟩) ∧
    ∀ error, render second arguments options = .error error →
      ∃ (failure : Failure) (line : Int), error = .template failure ∧ failure.line = some line ∧
        render (first ++ "\n" ++ second) arguments options =
          .error (.template (failure.shift (Text.lines first).length)) ∧
        (failure.shift (Text.lines first).length).failureClass = failure.failureClass ∧
        (failure.shift (Text.lines first).length).line =
          some (line + (Text.lines first).length) := by
  have hfence := fenceAfter_eq_false hfence
  rw [render_eq_keptIn harguments] at hfirst
  cases hkept : keptIn ⟨resolver, options⟩ first with
  | error failure =>
    rw [hkept] at hfirst
    cases hfirst
  | ok kept =>
    rw [hkept] at hfirst
    cases hfirst
    have hjoin := keptIn_join second hkept hfence
    rw [render_eq_keptIn harguments, render_eq_keptIn harguments, hjoin]
    cases hlater : keptIn ⟨resolver, options⟩ second with
    | ok later =>
      refine ⟨⟨fun _ => ⟨_, rfl⟩, fun _ => ⟨_, rfl⟩⟩, ⟨kept.1, kept.2, rfl, rfl, ?_⟩, ?_⟩
      · intro behind hbehind
        cases hbehind
        exact ⟨later.1, rfl, rfl, rfl, rfl⟩
      · intro error herror
        cases herror
    | error failure =>
      have hrender : renderIn ⟨resolver, options⟩ second = .error failure := by
        rw [renderIn_eq_keptIn, hlater]
        rfl
      obtain ⟨line, hline⟩ := exists_line_of_renderIn hrender
      refine ⟨⟨?_, ?_⟩, ⟨kept.1, kept.2, rfl, rfl, ?_⟩, ?_⟩
      · rintro ⟨joined, hjoined⟩
        cases hjoined
      · rintro ⟨behind, hbehind⟩
        cases hbehind
      · intro behind hbehind
        cases hbehind
      · intro error herror
        cases herror
        refine ⟨failure, line, rfl, hline, rfl, failure.failureClass_shift _, ?_⟩
        rw [Failure.shift, hline]
        rfl

/-- A block with one line in it. -/
def noteText : String := "\x7b\x7b#if X\x7d\x7d\na\n\x7b\x7b/if\x7d\x7d"

theorem render_noteText_twice :
    render noteText (.data (.mapping [(.text "X", .text "ON")])) .standard =
        .ok ⟨"a", ⟨[⟨1, 3, [⟨.condition, some "X", true⟩]⟩]⟩⟩ ∧
      (Text.lines noteText).countP isFence % 2 = 0 ∧
      render (noteText ++ "\n" ++ noteText) (.data (.mapping [(.text "X", .text "ON")])) .standard =
        .ok ⟨"a\na", ⟨[⟨1, 3, [⟨.condition, some "X", true⟩]⟩,
          ⟨4, 6, [⟨.condition, some "X", true⟩]⟩]⟩⟩ := by
  let context : Expression.Context := ⟨⟨[("X", .string "ON")]⟩, .standard⟩
  have harguments : Resolver.ofArguments (.data (.mapping [(.text "X", .text "ON")])) =
      .ok context.resolver := rfl
  have hX : Expression.evaluateText context "X" = .ok true := evaluateText_X_on .standard
  have hscan : blocks .standard noteText = .ok [⟨1, 3, [⟨.condition "X", 1, 2⟩]⟩] := rfl
  have hkept : keptIn context noteText =
      .ok (["a"], ⟨[⟨1, 3, [⟨.condition, some "X", true⟩]⟩]⟩) := by
    rw [keptIn, hscan, ok_bind]
    simp only [decideAll, Block.select, choose, Branch.holds, hX]
    rfl
  have hrender : render noteText (.data (.mapping [(.text "X", .text "ON")])) .standard =
      .ok ⟨"a", ⟨[⟨1, 3, [⟨.condition, some "X", true⟩]⟩]⟩⟩ := by
    rw [render_eq_keptIn harguments, hkept]
    rfl
  have hfence : (Text.lines noteText).countP isFence % 2 = 0 := rfl
  refine ⟨hrender, hfence, ?_⟩
  obtain ⟨-, ⟨kept, trace, hfirst, -, hjoin⟩, -⟩ :=
    render_join noteText noteText _ .standard _ harguments _ hrender (.inr hfence)
  obtain ⟨later, hlater, -, -, hjoined⟩ := hjoin _ hrender
  cases hkept.symm.trans hfirst
  cases hkept.symm.trans hlater
  exact hjoined

end CondDoc
