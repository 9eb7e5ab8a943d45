import CondDoc.Proofs.Document.Extension
import CondDoc.Proofs.Document.Pattern

namespace CondDoc

open Text (isBlank trimLeft)

namespace Directive

/-- The line is a keyword with only these blanks in front of the closing braces. -/
def WrittenBlank (Keyword : List Char → Prop) (blanks line : List Char) : Prop :=
  ∃ before between word after, AllBlank before ∧ AllBlank between ∧ Keyword word ∧ AllBlank after ∧
    line = before ++ ['\x7b', '\x7b'] ++ between ++ word ++ blanks ++ ['\x7d', '\x7d'] ++ after

variable {blanks : List Char}

theorem condition?_blank (hblanks : AllBlank blanks) {after : List Char} (hafter : AllBlank after) :
    condition? (blanks ++ '\x7d' :: '\x7d' :: after) =
      if 2 ≤ blanks.length then some "" else none := by
  have hparts : beforeClosing? (blanks ++ '\x7d' :: '\x7d' :: after) = some (blanks, after) :=
    beforeClosing?_eq_some_iff.2 ⟨rfl, hblanks.unclosed _⟩
  cases blanks with
  | nil => rfl
  | cons first blanks =>
    cases blanks with
    | nil =>
      rw [condition?, hparts]
      rfl
    | cons second blanks =>
      have hlength : 2 ≤ (first :: second :: blanks).length := Nat.le_add_left 2 _
      rw [if_pos hlength, condition?_of_closing (hblanks.unclosed _)
        (hblanks first List.mem_cons_self) hafter, hblanks.trim]

theorem ofBody?_elseIf {word : List Char} (rest : List Char) (h : ElseIfWord word) :
    ofBody? (word ++ rest) = (condition? rest).map .elseIf := by
  obtain ⟨first, blanks, second, hfirst, hblanks, hne, hsecond, rfl⟩ := h
  rw [List.append_assoc, List.append_assoc, ofBody?_else _ hfirst,
    afterElse?_if _ hblanks hne hsecond]

/-- A keyword begins with a character that is no blank. -/
theorem IfWord.trimLeft_append {word : List Char} (rest : List Char) (h : IfWord word) :
    trimLeft (word ++ rest) = word ++ rest :=
  trimLeft_of_after? (by decide) (after?_append h rest)

theorem ElseIfWord.trimLeft_append {word : List Char} (rest : List Char) (h : ElseIfWord word) :
    trimLeft (word ++ rest) = word ++ rest := by
  obtain ⟨first, blanks, second, hfirst, -, -, -, rfl⟩ := h
  rw [List.append_assoc, List.append_assoc]
  exact trimLeft_of_after? (by decide) (after?_append hfirst _)

theorem WrittenBlank.exists_opening {Keyword : List Char → Prop} {line : List Char}
    (h : WrittenBlank Keyword blanks line) :
    ∃ word after, Keyword word ∧ AllBlank after ∧
      Opening line (word ++ (blanks ++ '\x7d' :: '\x7d' :: after)) := by
  obtain ⟨before, between, word, after, hbefore, hbetween, hword, hafter, rfl⟩ := h
  exact ⟨word, after, hword, hafter, before, between, hbefore, hbetween, by simp⟩

/-- At least two blanks are needed: one behind the keyword, and another one for the expression. -/
theorem ofLine?_of_writtenBlank {Keyword : List Char → Prop} {make : String → Directive}
    (hbody : ∀ word rest, Keyword word → ofBody? (word ++ rest) = (condition? rest).map make)
    (htrim : ∀ word rest, Keyword word → trimLeft (word ++ rest) = word ++ rest)
    (hblanks : AllBlank blanks) {line : String} (h : WrittenBlank Keyword blanks line.toList) :
    ofLine? line = if 2 ≤ blanks.length then some (make "") else none := by
  obtain ⟨word, after, hword, hafter, hopening⟩ := h.exists_opening
  rw [ofLine?, ofChars?_eq_bind_ofBody?, opened?_of_opening hopening (htrim _ _ hword),
    Option.bind_some, hbody _ _ hword, condition?_blank hblanks hafter]
  split
  · rfl
  · rfl

end Directive

open Directive

theorem directives_append_cons {parseFences : Bool} {before : List String} {line : String}
    (behind : List String) (hbefore : fenceAfter parseFences false before = false)
    (hline : isFence line = false) :
    directives parseFences (before ++ line :: behind) =
      directives parseFences before ++ Directive.ofLine? line :: directives parseFences behind := by
  have hbehind : directives parseFences (line :: behind) =
      Directive.ofLine? line :: directives parseFences behind := by
    unfold directives
    cases parseFences with
    | true => rfl
    | false =>
      rw [if_neg Bool.false_ne_true, if_neg Bool.false_ne_true, unfenced, hline]
      rfl
  rw [directives_append hbefore, hbehind]

/-- The blocks of a text that is scanned up to one of its lines. -/
theorem blocks_eq_from {options : Options} {text line : String} {before behind : List String}
    {scan : Scan} (htext : Text.lines text = before ++ line :: behind)
    (hbefore : fenceAfter options.parseFences false before = false) (hline : isFence line = false)
    (hscan :
      Scan.run options.maxNesting .start (directives options.parseFences before) = .ok scan) :
    blocks options text =
      (scan.step options.maxNesting (Directive.ofLine? line) >>= fun next =>
        Scan.run options.maxNesting next (directives options.parseFences behind)) >>=
        Scan.finish := by
  rw [blocks, htext, directives_append_cons behind hbefore hline, Scan.run_append, hscan, ok_bind,
    Scan.run_cons]

/-- The line is a directive with only these blanks for an expression, in a place for it: with room
for another block, or inside an open one. -/
def BlankAt (maxNesting : Nat) (scan : Scan) (blanks line : List Char) : Prop :=
  (WrittenBlank IfWord blanks line ∧ scan.opened.length < maxNesting) ∨
    (WrittenBlank ElseIfWord blanks line ∧ scan.opened ≠ [])

variable {maxNesting : Nat} {scan : Scan} {blanks : List Char} {line : String}

theorem BlankAt.isFence_eq_false (h : BlankAt maxNesting scan blanks line.toList) :
    isFence line = false := by
  rcases h with ⟨hwritten, -⟩ | ⟨hwritten, -⟩
  · obtain ⟨_, _, -, -, hopening⟩ := hwritten.exists_opening
    exact isFence_of_opening hopening
  · obtain ⟨_, _, -, -, hopening⟩ := hwritten.exists_opening
    exact isFence_of_opening hopening

/-- Two blanks or more make it a directive, which a scan in this place refuses. -/
theorem BlankAt.exists_directive (h : BlankAt maxNesting scan blanks line.toList)
    (hblanks : AllBlank blanks) :
    ∃ directive, ofLine? line = (if 2 ≤ blanks.length then some directive else none) ∧
      scan.step maxNesting (some directive) =
        .error ⟨.emptyExpression, some ((scan.line + 1 : Nat) : Int), some ""⟩ := by
  obtain ⟨before, opened, found⟩ := scan
  rcases h with ⟨hwritten, hroom⟩ | ⟨hwritten, hopened⟩
  · refine ⟨.ifStart "", ofLine?_of_writtenBlank (fun _ rest => ofBody?_if rest)
      (fun _ rest => IfWord.trimLeft_append rest) hblanks hwritten, ?_⟩
    have hroom : ¬ maxNesting ≤ opened.length := Nat.not_le.2 hroom
    rw [Scan.step]
    exact if_neg hroom
  · refine ⟨.elseIf "", ofLine?_of_writtenBlank (fun _ rest => ofBody?_elseIf rest)
      (fun _ rest => ElseIfWord.trimLeft_append rest) hblanks hwritten, ?_⟩
    cases opened with
    | nil => exact absurd rfl hopened
    | cons block outer => rfl

/-- Outside of fenced code and in a place for it, a directive with two blanks or more for an
expression is a failure on its line. With a single blank it is no directive at all: any other plain
line in its place makes the same blocks. -/
theorem blocks_of_blank_expression (options : Options) (text : String) (before behind : List String)
    (line : String) (blanks : List Char) (scan : Scan)
    (htext : Text.lines text = before ++ line :: behind)
    (hfence : options.parseFences = true ∨ before.countP isFence % 2 = 0)
    (hscan : Scan.run options.maxNesting .start (directives options.parseFences before) = .ok scan)
    (hline : BlankAt options.maxNesting scan blanks line.toList) (hblanks : AllBlank blanks) :
    (2 ≤ blanks.length →
      blocks options text =
        .error ⟨.emptyExpression, some ((before.length + 1 : Nat) : Int), some ""⟩) ∧
    (blanks.length = 1 →
      ofLine? line = none ∧
      ∀ other plain, Text.lines other = before ++ plain :: behind → isFence plain = false →
        ofLine? plain = none → blocks options text = blocks options other) := by
  have hbefore := fenceAfter_eq_false hfence
  have hblocks := blocks_eq_from htext hbefore hline.isFence_eq_false hscan
  obtain ⟨directive, hdirective, hstep⟩ := hline.exists_directive hblanks
  constructor
  · intro hlength
    have hnumber : scan.line = before.length := by
      rw [Scan.line_of_run hscan, length_directives]
      exact Nat.zero_add _
    rw [hblocks, hdirective, if_pos hlength, hstep, hnumber]
    rfl
  · intro hlength
    have hplain : ofLine? line = none := by
      rw [hdirective, if_neg (by omega)]
    refine ⟨hplain, ?_⟩
    intro other plain hother hfenceless hnone
    rw [hblocks, hplain, blocks_eq_from hother hbefore hfenceless hscan, hnone]

/-- A block whose second branch has two blanks for an expression. -/
def blankBranchText : String := "\x7b\x7b#if a\x7d\x7d\n \x7b\x7bELSE\tif \t\x7d\x7d"

theorem blocks_blankBranchText :
    BlankAt 10 ⟨1, [.opening 1 "a"], []⟩ [' ', '\t'] " \x7b\x7bELSE\tif \t\x7d\x7d".toList ∧
      blocks .standard blankBranchText = .error ⟨.emptyExpression, some 2, some ""⟩ := by
  have hblank {cs : List Char} (h : cs.all isBlank = true) : AllBlank cs := List.all_eq_true.1 h
  have hif : Spelled ['i', 'f'] ['i', 'f'] := .cons (by decide) (.cons (by decide) .nil)
  have helse : Spelled ['e', 'l', 's', 'e'] ['E', 'L', 'S', 'E'] :=
    .cons (by decide) (.cons (by decide) (.cons (by decide) (.cons (by decide) .nil)))
  have hline : BlankAt 10 ⟨1, [.opening 1 "a"], []⟩ [' ', '\t']
      " \x7b\x7bELSE\tif \t\x7d\x7d".toList :=
    .inr ⟨⟨[' '], [], ['E', 'L', 'S', 'E', '\t', 'i', 'f'], [], hblank (by decide), allBlank_nil,
      ⟨_, ['\t'], _, helse, hblank (by decide), List.cons_ne_nil _ _, hif, rfl⟩, allBlank_nil, rfl⟩,
      List.cons_ne_nil _ _⟩
  exact ⟨hline, (blocks_of_blank_expression .standard blankBranchText ["\x7b\x7b#if a\x7d\x7d"] []
    " \x7b\x7bELSE\tif \t\x7d\x7d" [' ', '\t'] ⟨1, [.opening 1 "a"], []⟩ rfl (.inr rfl) rfl hline
    (hblank (by decide))).1 (by decide)⟩

/-- With a single blank for an expression, a block is not noticed at all. -/
theorem single_blank_unnoticed :
    Text.lines "\x7b\x7b#if \x7d\x7d" = [] ++ "\x7b\x7b#if \x7d\x7d" :: [] ∧
      Scan.run Options.standard.maxNesting .start
        (directives Options.standard.parseFences []) = .ok .start ∧
      BlankAt Options.standard.maxNesting .start [' '] "\x7b\x7b#if \x7d\x7d".toList ∧
      AllBlank [' '] ∧ blocks .standard "\x7b\x7b#if \x7d\x7d" = .ok [] := by
  have hif : IfWord ['#', 'i', 'f'] :=
    .cons (by decide) (.cons (by decide) (.cons (by decide) .nil))
  have hblank : AllBlank [' '] := List.all_eq_true.1 (by decide)
  exact ⟨rfl, rfl, .inl ⟨⟨[], [], _, [], allBlank_nil, allBlank_nil, hif, allBlank_nil, rfl⟩,
    by decide⟩, hblank, rfl⟩

end CondDoc
