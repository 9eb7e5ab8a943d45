import CondDoc.Proofs.Document.Joined
import CondDoc.Proofs.Document.Progress
import CondDoc.Proofs.Document.Stable

namespace CondDoc

/-- With further lines, the lines can make up a document that is scanned without failure. -/
def Extendable (options : Options) (lines : List String) : Prop :=
  ∃ longer found, lines <+: Text.lines longer ∧ blocks options longer = .ok found

section

variable (parseFences : Bool)

theorem length_directives (lines : List String) :
    (directives parseFences lines).length = lines.length := by
  rw [← map_directive_marksFrom, List.length_map, length_marksFrom]

theorem directives_isPrefix {first longer : List String} (h : first <+: longer) :
    directives parseFences first <+: directives parseFences longer := by
  obtain ⟨second, rfl⟩ := h
  rw [directives_append_from]
  exact List.prefix_append _ _

theorem directives_take (n : Nat) (lines : List String) :
    directives parseFences (lines.take n) = (directives parseFences lines).take n := by
  have hlonger := directives_isPrefix parseFences (List.take_prefix n lines)
  rw [List.prefix_iff_eq_take.1 hlonger, length_directives, List.length_take, List.take_eq_take_iff,
    length_directives, Nat.min_assoc, Nat.min_self]

end

/-- The lines that end fenced code, if it has begun, and close a number of blocks. -/
def closingLines (inFence : Bool) (depth : Nat) : List String :=
  (if inFence then ["\x60\x60\x60"] else []) ++
    (List.replicate depth "\x7b\x7b/if\x7d\x7d" ++ [""])

theorem mem_closingLines {inFence : Bool} {depth : Nat} {line : String}
    (h : line ∈ closingLines inFence depth) : '\n' ∉ line.toList := by
  have hcases : line = "\x60\x60\x60" ∨ line = "\x7b\x7b/if\x7d\x7d" ∨ line = "" := by
    rcases List.mem_append.1 h with h | h
    · cases inFence with
      | false => cases h
      | true => exact .inl (List.mem_singleton.1 h)
    · rcases List.mem_append.1 h with h | h
      · exact .inr (.inl (List.eq_of_mem_replicate h))
      · exact .inr (.inr (List.mem_singleton.1 h))
  rcases hcases with rfl | rfl | rfl
  · decide
  · decide
  · decide

theorem map_directive_closing (parseFences : Bool) (depth : Nat) :
    (marksFrom parseFences false (List.replicate depth "\x7b\x7b/if\x7d\x7d" ++ [""])).map
        Mark.directive =
      List.replicate depth (some .close) ++ [none] := by
  have hclose : toggles parseFences "\x7b\x7b/if\x7d\x7d" = false ∧
      toggles parseFences "" = false := by
    cases parseFences with
    | false => exact ⟨rfl, rfl⟩
    | true => exact ⟨rfl, rfl⟩
  induction depth with
  | zero =>
    rw [List.replicate_zero, List.nil_append, marksFrom, hclose.2]
    rfl
  | succ depth ih =>
    rw [List.replicate_succ, List.cons_append, marksFrom, hclose.1, Bool.xor_false, List.map_cons,
      ih, List.replicate_succ]
    rfl

/-- After lines inside or outside of fenced code, the closing lines close that many blocks. -/
theorem directives_closingLines (parseFences : Bool) (lines : List String) (depth : Nat) :
    ∃ plain, (∀ directive ∈ plain, directive = none) ∧
      directives parseFences
          (lines ++ closingLines (fenceAfter parseFences false lines) depth) =
        directives parseFences lines ++
          (plain ++ (List.replicate depth (some .close) ++ [none])) := by
  rw [directives_append_from]
  cases hfence : fenceAfter parseFences false lines with
  | false =>
    refine ⟨[], fun _ h => absurd h List.not_mem_nil, ?_⟩
    rw [closingLines, if_neg Bool.false_ne_true, List.nil_append, map_directive_closing]
    rfl
  | true =>
    cases parseFences with
    | true =>
      rw [fenceAfter_eq_false (.inl rfl)] at hfence
      cases hfence
    | false =>
      have htoggles : toggles false "\x60\x60\x60" = true := rfl
      refine ⟨[none], List.forall_mem_singleton.2 rfl, ?_⟩
      rw [closingLines, if_pos rfl, List.cons_append, List.nil_append, marksFrom, htoggles,
        Bool.xor_true, Bool.not_true, List.map_cons, map_directive_closing]
      rfl

theorem Scan.exists_run_close (maxNesting : Nat) (scan : Scan) :
    ∃ next, run maxNesting scan (List.replicate scan.opened.length (some .close)) = .ok next ∧
      next.opened = [] := by
  obtain ⟨line, opened, found⟩ := scan
  induction opened generalizing line found with
  | nil => exact ⟨_, rfl, rfl⟩
  | cons block outer ih =>
    obtain ⟨next, hrun, hnext⟩ := ih (line + 1) (found ++ [block.close (line + 1)])
    refine ⟨next, ?_, hnext⟩
    rw [List.length_cons, List.replicate_succ, run_cons, step_close_eq_ok_iff.2 rfl, ok_bind]
    exact hrun

/-- Lines that a scan gets through can be continued to a document that it accepts. -/
theorem extendable_of_run {options : Options} {lines : List String} {scan : Scan}
    (hlines : ∀ line ∈ lines, '\n' ∉ line.toList)
    (hrun : Scan.run options.maxNesting .start (directives options.parseFences lines) = .ok scan) :
    Extendable options lines := by
  let behind := closingLines (fenceAfter options.parseFences false lines) scan.opened.length
  have hbehind : Text.lines (Text.unlines (lines ++ behind)) = lines ++ behind := by
    apply Text.lines_unlines
    · simp [behind, closingLines]
    · exact List.forall_mem_append.2 ⟨hlines, fun line hline => mem_closingLines hline⟩
  obtain ⟨plain, hplain, hdirectives⟩ :=
    directives_closingLines options.parseFences lines scan.opened.length
  obtain ⟨closed, hclose, hclosed⟩ := Scan.exists_run_close options.maxNesting
    ⟨scan.line + plain.length, scan.opened, scan.found⟩
  refine ⟨_, closed.found, hbehind ▸ List.prefix_append _ _, ?_⟩
  rw [blocks, hbehind, hdirectives, Scan.run_append, hrun, ok_bind, Scan.run_append,
    Scan.run_of_all_none _ _ hplain, ok_bind, Scan.run_append, hclose, ok_bind]
  exact finish_eq_ok_iff.2 ⟨hclosed, rfl⟩

/-- No lines behind mend lines that a scan does not get through. -/
theorem fails_of_prefix {options : Options} {lines : List String} {failure : Failure}
    (hrun : Scan.run options.maxNesting .start (directives options.parseFences lines) =
      .error failure) {longer : String} (hlonger : lines <+: Text.lines longer) :
    blocks options longer = .error failure := by
  rw [blocks, Scan.run_eq_error_of_prefix hrun (directives_isPrefix _ hlonger)]
  rfl

/-- The blocks of a document that span the end of its first lines begin where blocks are open when a
scan has come through these lines. -/
theorem mem_starts_iff_of_extension {options : Options} {lines : List String} {scan : Scan}
    (hrun : Scan.run options.maxNesting .start (directives options.parseFences lines) = .ok scan)
    {longer : String} {found : List Block} (hlonger : lines <+: Text.lines longer)
    (hfound : blocks options longer = .ok found) (start : Nat) :
    start ∈ scan.starts ↔
      ∃ block ∈ found, block.start = start ∧ block.OpenAfter lines.length := by
  obtain ⟨result, hread, hfinish⟩ := bind_eq_ok_iff.1 hfound
  obtain ⟨hclosed, rfl⟩ := finish_eq_ok_iff.1 hfinish
  obtain ⟨behind, hbehind⟩ := directives_isPrefix options.parseFences hlonger
  rw [← hbehind, Scan.run_append, hrun, ok_bind] at hread
  have hline : scan.line = lines.length := by
    rw [Scan.line_of_run hrun, length_directives]
    exact Nat.zero_add _
  rw [← hline]
  exact (Scan.Later.run hread).mem_starts_iff (Scan.timely_start.run hrun) hclosed start

/-- A block that is left open at the end begins after all others that are. -/
theorem innermost_of_extension {options : Options} {lines : List String} {scan : Scan}
    {block : OpenBlock} {outer : List OpenBlock}
    (hrun : Scan.run options.maxNesting .start (directives options.parseFences lines) = .ok scan)
    (hopened : scan.opened = block :: outer) {longer : String} {found : List Block}
    (hlonger : lines <+: Text.lines longer) (hfound : blocks options longer = .ok found) :
    (∃ spanning ∈ found, spanning.start = block.start ∧ spanning.OpenAfter lines.length) ∧
      ∀ spanning ∈ found, spanning.OpenAfter lines.length → spanning.start ≤ block.start := by
  have hiff := mem_starts_iff_of_extension hrun hlonger hfound
  have hstarts : scan.starts = block.start :: outer.map (·.start) := by
    rw [Scan.starts, hopened, List.map_cons]
  have hordered := (Scan.timely_start.run hrun).ordered
  rw [hstarts] at hordered
  constructor
  · exact (hiff block.start).1 (hstarts ▸ List.mem_cons_self)
  · intro spanning hmem hspans
    obtain ⟨start, hstart⟩ : ∃ start : Nat, spanning.start = start :=
      Int.eq_ofNat_of_zero_le (by have := (within_of_blocks hfound spanning hmem).1; omega)
    have hopen := (hiff start).2 ⟨spanning, hmem, hstart, hspans⟩
    rw [hstarts] at hopen
    rw [hstart, Int.ofNat_le]
    rcases List.mem_cons.1 hopen with rfl | houter
    · exact Nat.le_refl _
    · exact Nat.le_of_lt ((List.pairwise_cons.1 hordered).1 start houter)

/-- A scan that fails on a line fails on the first one that is fatal: the lines in front of it can
be continued to a document that is accepted, and with this line every document fails in the same
way. A scan that fails at the end can be continued, and it blames the innermost block that is open
there, which is the last to begin of those that span the end in any continuation. -/
theorem blocks_fails_on_first_fatal_line (options : Options) (text : String) (failure : Failure)
    (h : blocks options text = .error failure) :
    (failure.cause ≠ .unclosed →
      ∃ before : Nat, failure.line = some ((before + 1 : Nat) : Int) ∧
        before < (Text.lines text).length ∧
        Extendable options ((Text.lines text).take before) ∧
        ∀ longer, (Text.lines text).take (before + 1) <+: Text.lines longer →
          blocks options longer = .error failure) ∧
    (failure.cause = .unclosed →
      ∃ line : Nat, failure.line = some (line : Int) ∧ Extendable options (Text.lines text) ∧
        ∀ longer found, Text.lines text <+: Text.lines longer → blocks options longer = .ok found →
          (∃ block ∈ found, block.start = line ∧ block.OpenAfter (Text.lines text).length) ∧
          ∀ block ∈ found, block.OpenAfter (Text.lines text).length → block.start ≤ line) := by
  cases hrun : Scan.run options.maxNesting .start
      (directives options.parseFences (Text.lines text)) with
  | error failure' =>
    rw [blocks, hrun] at h
    cases h
    obtain ⟨before, scan, hbefore, hread, hfails, hblame⟩ := Scan.exists_of_run_eq_error hrun
    rw [length_directives] at hbefore
    rw [← directives_take] at hread hfails
    refine ⟨fun _ => ⟨before, ?_, hbefore, ?_, fun longer => fails_of_prefix hfails⟩, ?_⟩
    · rw [hblame.line, Scan.start, Nat.zero_add]
    · apply extendable_of_run _ hread
      exact fun line hmem => Text.not_mem_of_mem_lines (List.mem_of_mem_take hmem)
    · exact fun hunclosed => absurd hunclosed hblame.cause
  | ok scan =>
    rw [blocks, hrun, ok_bind, Scan.finish] at h
    split at h
    · cases h
    · next block outer hopened =>
      cases h
      refine ⟨fun hcause => absurd rfl hcause, fun _ => ⟨block.start, rfl, ?_, ?_⟩⟩
      · exact extendable_of_run (fun line hmem => Text.not_mem_of_mem_lines hmem) hrun
      · exact fun longer found hlonger hfound => innermost_of_extension hrun hopened hlonger hfound

/-- A second `else` fails, and a block that ends within fenced code is left open. -/
def secondElseText : String := "\x7b\x7b#if a\x7d\x7d\n\x7b\x7belse\x7d\x7d\n\x7b\x7belse\x7d\x7d"

def fencedEndText : String :=
  "\x7b\x7b#if a\x7d\x7d\n\x7b\x7b#if b\x7d\x7d\n\x60\x60\x60\n\x7b\x7b/if\x7d\x7d"

theorem blocks_secondElseText_fencedEndText :
    blocks .standard secondElseText = .error ⟨.afterElse .otherwise 1, some 3, none⟩ ∧
      Extendable .standard ((Text.lines secondElseText).take 2) ∧
      (∀ longer, (Text.lines secondElseText).take 3 <+: Text.lines longer →
        blocks .standard longer = .error ⟨.afterElse .otherwise 1, some 3, none⟩) ∧
      blocks .standard fencedEndText = .error ⟨.unclosed, some 2, none⟩ ∧
      Extendable .standard (Text.lines fencedEndText) := by
  have helse : blocks .standard secondElseText =
      .error ⟨.afterElse .otherwise 1, some 3, none⟩ := rfl
  have hfenced : blocks .standard fencedEndText = .error ⟨.unclosed, some 2, none⟩ := rfl
  obtain ⟨before, hline, -, hbefore, hfatal⟩ :=
    (blocks_fails_on_first_fatal_line .standard secondElseText _ helse).1 (by simp)
  obtain ⟨line, -, hextendable, -⟩ :=
    (blocks_fails_on_first_fatal_line .standard fencedEndText _ hfenced).2 rfl
  obtain rfl : before = 2 := by
    have := Option.some.inj hline
    omega
  exact ⟨helse, hbefore, hfatal, hfenced, hextendable⟩

end CondDoc
