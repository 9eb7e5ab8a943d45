import CondDoc.Proofs.Document.Recognition

namespace CondDoc.Directive

open Text (isBlank trimLeft trim)

/-- The parts of patterns. -/
inductive Part where
  /-- Any number of blanks, the more the better. -/
  | blanks
  /-- One blank or more, the more the better. -/
  | someBlanks
  /-- A word in any case. -/
  | word (letters : List Char)
  /-- One character or more, the fewer the better. At none of them a pair of closing braces begins. -/
  | expression

/-- Goes on behind some of the blanks in front, first behind all of them. -/
def behindBlanks (next : List Char → List (List Char)) : List Char → List (List Char)
  | [] => next []
  | c :: cs => (if isBlank c then behindBlanks next cs else []) ++ next (c :: cs)

/-- Goes on behind an expression, first behind its first character, and records it. -/
def behindExpression (next : List Char → List (List Char)) : List Char → List (List Char)
  | [] => []
  | c :: cs =>
    if c = '\n' || ['\x7d', '\x7d'].isPrefixOf (c :: cs) then []
    else (next cs ++ behindExpression next cs).map (c :: ·)

/-- The ways in which a pattern matches the whole of a text, in the order in which they are tried.
Of each way the expression is recorded. -/
def ways : List Part → List Char → List (List Char)
  | [], cs => if cs = [] then [[]] else []
  | .blanks :: parts, cs => behindBlanks (ways parts) cs
  | .someBlanks :: parts, cs =>
    if cs.head?.any isBlank then behindBlanks (ways parts) cs.tail else []
  | .word letters :: parts, cs => ((after? letters cs).map (ways parts)).getD []
  | .expression :: parts, cs => behindExpression (ways parts) cs

/-- The patterns, one for each kind of directive. -/
inductive Pattern where
  | ifStart | elseIf | otherwise | close
  deriving DecidableEq

namespace Pattern

def all : List Pattern := [.ifStart, .elseIf, .otherwise, .close]

def opening : List Part := [.blanks, .word ['\x7b', '\x7b'], .blanks]

def closing : List Part := [.blanks, .word ['\x7d', '\x7d'], .blanks]

def condition : List Part := .someBlanks :: .expression :: closing

/-- The parts behind the opening braces. -/
def body : Pattern → List Part
  | .ifStart => .word ['#', 'i', 'f'] :: condition
  | .elseIf => .word ['e', 'l', 's', 'e'] :: .someBlanks :: .word ['i', 'f'] :: condition
  | .otherwise => .word ['e', 'l', 's', 'e'] :: closing
  | .close => .word ['/', 'i', 'f'] :: closing

def parts (pattern : Pattern) : List Part := opening ++ pattern.body

/-- The expression in the first way in which a line matches; it is empty for patterns without. -/
def captured? (pattern : Pattern) (line : String) : Option (List Char) :=
  (ways pattern.parts line.toList).head?

def directive : Pattern → String → Directive
  | .ifStart, expression => .ifStart expression
  | .elseIf, expression => .elseIf expression
  | .otherwise, _ => .otherwise
  | .close, _ => .close

/-- The directive that a line is by one pattern. -/
def directive? (pattern : Pattern) (line : String) : Option Directive :=
  (pattern.captured? line).map fun captured => pattern.directive (String.ofList (trim captured))

end Pattern

section

variable {next : List Char → List (List Char)} {parts : List Part} {cs captured : List Char}

theorem mem_behindBlanks :
    captured ∈ behindBlanks next cs ↔
      ∃ blanks rest, AllBlank blanks ∧ cs = blanks ++ rest ∧ captured ∈ next rest := by
  induction cs with
  | nil =>
    constructor
    · intro h
      exact ⟨[], [], allBlank_nil, rfl, h⟩
    · rintro ⟨blanks, rest, -, hcs, h⟩
      obtain ⟨-, rfl⟩ := List.append_eq_nil_iff.1 hcs.symm
      exact h
  | cons c cs ih =>
    rw [behindBlanks, List.mem_append]
    constructor
    · rintro (h | h)
      · split at h
        · next hc =>
          obtain ⟨blanks, rest, hblanks, rfl, hrest⟩ := ih.1 h
          exact ⟨c :: blanks, rest, List.forall_mem_cons.2 ⟨hc, hblanks⟩, rfl, hrest⟩
        · cases h
      · exact ⟨[], c :: cs, allBlank_nil, rfl, h⟩
    · rintro ⟨blanks, rest, hblanks, hcs, h⟩
      cases blanks with
      | nil =>
        rw [hcs]
        exact .inr h
      | cons blank blanks =>
        obtain ⟨rfl, rfl⟩ := List.cons.inj hcs
        obtain ⟨hc, hblanks⟩ := List.forall_mem_cons.1 hblanks
        rw [if_pos hc]
        exact .inl (ih.2 ⟨blanks, rest, hblanks, rfl, h⟩)

theorem mem_behindExpression :
    captured ∈ behindExpression next cs ↔
      ∃ inner rest others, inner ≠ [] ∧ '\n' ∉ inner ∧ Unclosed inner rest ∧ cs = inner ++ rest ∧
        others ∈ next rest ∧ captured = inner ++ others := by
  induction cs generalizing captured with
  | nil =>
    constructor
    · intro h
      cases h
    · rintro ⟨inner, rest, -, hinner, -, -, hcs, -, -⟩
      exact absurd (List.append_eq_nil_iff.1 hcs.symm).1 hinner
  | cons c cs ih =>
    rw [behindExpression]
    constructor
    · intro h
      split at h
      · cases h
      · next hc =>
        simp only [Bool.or_eq_true, decide_eq_true_eq, List.isPrefixOf_iff_prefix, not_or] at hc
        obtain ⟨found, hfound, rfl⟩ := List.mem_map.1 h
        rcases List.mem_append.1 hfound with hothers | hlater
        · have hline : '\n' ∉ [c] := fun hmem => hc.1 (List.mem_singleton.1 hmem).symm
          exact ⟨[c], cs, found, List.cons_ne_nil _ _, hline, ⟨hc.2, trivial⟩, rfl, hothers, rfl⟩
        · obtain ⟨inner, rest, others, -, hline, hunclosed, rfl, hothers, rfl⟩ := ih.1 hlater
          refine ⟨c :: inner, rest, others, List.cons_ne_nil _ _, ?_, ⟨hc.2, hunclosed⟩, rfl,
            hothers, rfl⟩
          intro hmem
          rcases List.mem_cons.1 hmem with heq | hmem
          · exact hc.1 heq.symm
          · exact hline hmem
    · rintro ⟨inner, rest, others, hinner, hline, hunclosed, hcs, hothers, rfl⟩
      cases inner with
      | nil => exact absurd rfl hinner
      | cons d inner =>
        rw [List.cons_append] at hcs
        obtain ⟨rfl, rfl⟩ := List.cons.inj hcs
        have hc : ¬ (c = '\n' || ['\x7d', '\x7d'].isPrefixOf (c :: (inner ++ rest))) = true := by
          simp only [Bool.or_eq_true, decide_eq_true_eq, List.isPrefixOf_iff_prefix, not_or]
          exact ⟨fun heq => hline (heq ▸ List.mem_cons_self), hunclosed.1⟩
        rw [if_neg hc, List.cons_append]
        refine List.mem_map_of_mem (List.mem_append.2 ?_)
        cases inner with
        | nil => exact .inl hothers
        | cons d inner =>
          exact .inr (ih.2 ⟨d :: inner, rest, others, List.cons_ne_nil _ _,
            fun hmem => hline (List.mem_cons_of_mem _ hmem), hunclosed.2, rfl, hothers, rfl⟩)

theorem mem_ways_nil : captured ∈ ways [] cs ↔ cs = [] ∧ captured = [] := by
  rw [ways]
  split <;> simp_all

theorem mem_ways_blanks :
    captured ∈ ways (.blanks :: parts) cs ↔
      ∃ blanks rest, AllBlank blanks ∧ cs = blanks ++ rest ∧ captured ∈ ways parts rest :=
  mem_behindBlanks

theorem mem_ways_someBlanks :
    captured ∈ ways (.someBlanks :: parts) cs ↔
      ∃ blanks rest, blanks ≠ [] ∧ AllBlank blanks ∧ cs = blanks ++ rest ∧
        captured ∈ ways parts rest := by
  rw [ways]
  constructor
  · intro h
    split at h
    · next hhead =>
      cases cs with
      | nil => cases hhead
      | cons c cs =>
        obtain ⟨blanks, rest, hblanks, hcs, hrest⟩ := mem_behindBlanks.1 h
        exact ⟨c :: blanks, rest, List.cons_ne_nil _ _, List.forall_mem_cons.2 ⟨hhead, hblanks⟩,
          congrArg (c :: ·) hcs, hrest⟩
    · cases h
  · rintro ⟨blanks, rest, hne, hblanks, rfl, hrest⟩
    cases blanks with
    | nil => exact absurd rfl hne
    | cons c blanks =>
      obtain ⟨hc, hblanks⟩ := List.forall_mem_cons.1 hblanks
      have hhead : (c :: blanks ++ rest).head?.any isBlank = true := hc
      rw [if_pos hhead]
      exact mem_behindBlanks.2 ⟨blanks, rest, hblanks, rfl, hrest⟩

theorem mem_ways_word {letters : List Char} :
    captured ∈ ways (.word letters :: parts) cs ↔
      ∃ word rest, Spelled letters word ∧ cs = word ++ rest ∧ captured ∈ ways parts rest := by
  rw [ways]
  constructor
  · intro h
    cases hafter : after? letters cs with
    | none =>
      rw [hafter] at h
      cases h
    | some rest =>
      rw [hafter] at h
      obtain ⟨word, hword, rfl⟩ := after?_eq_some_iff.1 hafter
      exact ⟨word, rest, hword, rfl, h⟩
  · rintro ⟨word, rest, hword, rfl, hrest⟩
    rw [after?_append hword]
    exact hrest

theorem mem_ways_expression :
    captured ∈ ways (.expression :: parts) cs ↔
      ∃ inner rest others, inner ≠ [] ∧ '\n' ∉ inner ∧ Unclosed inner rest ∧ cs = inner ++ rest ∧
        others ∈ ways parts rest ∧ captured = inner ++ others :=
  mem_behindExpression

theorem spelled_pair_iff (mark : Char) (hmark : mark.isLower = false)
    (hspells : spells mark mark = true) {word : List Char} :
    Spelled [mark, mark] word ↔ word = [mark, mark] := by
  constructor
  · rintro (_ | ⟨hfirst, _ | ⟨hsecond, _ | _⟩⟩)
    rw [eq_of_spells hmark hfirst, eq_of_spells hmark hsecond]
  · rintro rfl
    exact .cons hspells (.cons hspells .nil)

theorem mem_ways_closing :
    captured ∈ ways Pattern.closing cs ↔ Closing cs ∧ captured = [] := by
  simp only [Pattern.closing, mem_ways_blanks, mem_ways_word, mem_ways_nil,
    spelled_pair_iff '\x7d' (by decide) (by decide)]
  constructor
  · rintro ⟨before, rest, hbefore, rfl, word, rest, rfl, rfl, after, nothing, hafter, rfl, rfl, rfl⟩
    exact ⟨⟨before, after, hbefore, hafter, by simp⟩, rfl⟩
  · rintro ⟨⟨before, after, hbefore, hafter, rfl⟩, rfl⟩
    exact ⟨before, _, hbefore, rfl, _, after, rfl, rfl, after, [], hafter, by simp, rfl, rfl⟩

theorem mem_ways_opening :
    captured ∈ ways (Pattern.opening ++ parts) cs ↔
      ∃ body, Opening cs body ∧ captured ∈ ways parts body := by
  simp only [Pattern.opening, List.cons_append, List.nil_append, mem_ways_blanks, mem_ways_word,
    spelled_pair_iff '\x7b' (by decide) (by decide)]
  constructor
  · rintro ⟨before, rest, hbefore, rfl, word, rest, rfl, rfl, between, body, hbetween, rfl, hbody⟩
    exact ⟨body, ⟨before, between, hbefore, hbetween, rfl⟩, hbody⟩
  · rintro ⟨body, ⟨before, between, hbefore, hbetween, rfl⟩, hbody⟩
    exact ⟨before, _, hbefore, rfl, _, _, rfl, rfl, between, body, hbetween, rfl, hbody⟩

theorem mem_ways_condition (hline : '\n' ∉ cs) :
    captured ∈ ways Pattern.condition cs ↔ Condition cs captured := by
  simp only [Pattern.condition, mem_ways_someBlanks, mem_ways_expression, mem_ways_closing]
  constructor
  · rintro ⟨blanks, rest, hne, hblanks, rfl, inner, closing, others, hinner, -, hunclosed, rfl,
      ⟨hclosing, rfl⟩, rfl⟩
    rw [List.append_nil]
    exact ⟨blanks, closing, hne, hinner, hblanks, hclosing, hunclosed, rfl⟩
  · rintro ⟨blanks, closing, hne, hinner, hblanks, hclosing, hunclosed, rfl⟩
    refine ⟨blanks, _, hne, hblanks, rfl, captured, closing, [], hinner, ?_, hunclosed, rfl,
      ⟨hclosing, rfl⟩, (List.append_nil _).symm⟩
    intro hmem
    exact hline (List.mem_append_right _ (List.mem_append_left _ hmem))

end

/-- The pattern of a directive. -/
def pattern : Directive → Pattern
  | .ifStart _ => .ifStart
  | .elseIf _ => .elseIf
  | .otherwise => .otherwise
  | .close => .close

theorem Opening.not_mem {line body : List Char} (h : Opening line body) {c : Char} (hc : c ∉ line) :
    c ∉ body := by
  obtain ⟨before, between, -, -, rfl⟩ := h
  intro hmem
  exact hc (by simp [hmem])

theorem says_of_mem_ways {pattern : Pattern} {body captured : List Char} (hline : '\n' ∉ body)
    (h : captured ∈ ways pattern.body body) :
    Says body (pattern.directive (String.ofList (trim captured))) := by
  cases pattern with
  | ifStart =>
    obtain ⟨word, rest, hword, rfl, hcondition⟩ := mem_ways_word.1 h
    have hrest : '\n' ∉ rest := fun hmem => hline (List.mem_append_right _ hmem)
    exact .ifStart hword ((mem_ways_condition hrest).1 hcondition)
  | elseIf =>
    obtain ⟨word, _, hword, rfl, hblank⟩ := mem_ways_word.1 h
    obtain ⟨blanks, _, hne, hblanks, rfl, hif⟩ := mem_ways_someBlanks.1 hblank
    obtain ⟨word', rest, hword', rfl, hcondition⟩ := mem_ways_word.1 hif
    have hrest : '\n' ∉ rest := fun hmem => hline (by simp [hmem])
    exact .elseIf hword hblanks hne hword' ((mem_ways_condition hrest).1 hcondition)
  | otherwise =>
    obtain ⟨word, rest, hword, rfl, hclosing⟩ := mem_ways_word.1 h
    exact .otherwise hword (mem_ways_closing.1 hclosing).1
  | close =>
    obtain ⟨word, rest, hword, rfl, hclosing⟩ := mem_ways_word.1 h
    exact .close hword (mem_ways_closing.1 hclosing).1

theorem exists_way_of_says {directive : Directive} {body : List Char} (hline : '\n' ∉ body)
    (h : Says body directive) : ∃ captured, captured ∈ ways directive.pattern.body body := by
  cases h with
  | @ifStart word rest inner hword hinner =>
    have hrest : '\n' ∉ rest := fun hmem => hline (List.mem_append_right _ hmem)
    exact ⟨inner, mem_ways_word.2 ⟨word, rest, hword, rfl, (mem_ways_condition hrest).2 hinner⟩⟩
  | @elseIf word blanks word' rest inner hword hblanks hne hword' hinner =>
    have hrest : '\n' ∉ rest := fun hmem => hline (by simp [hmem])
    exact ⟨inner, mem_ways_word.2 ⟨word, _, hword, rfl, mem_ways_someBlanks.2 ⟨blanks, _, hne,
      hblanks, rfl, mem_ways_word.2 ⟨word', rest, hword', rfl,
        (mem_ways_condition hrest).2 hinner⟩⟩⟩⟩
  | otherwise hword hclosing =>
    exact ⟨[], mem_ways_word.2 ⟨_, _, hword, rfl, mem_ways_closing.2 ⟨hclosing, rfl⟩⟩⟩
  | close hword hclosing =>
    exact ⟨[], mem_ways_word.2 ⟨_, _, hword, rfl, mem_ways_closing.2 ⟨hclosing, rfl⟩⟩⟩

namespace Pattern

variable {line : String}

theorem pattern_directive (pattern : Pattern) (expression : String) :
    (pattern.directive expression).pattern = pattern := by
  cases pattern <;> rfl

theorem mem_all (pattern : Pattern) : pattern ∈ all := by
  cases pattern <;> decide

/-- All ways in which a line matches make it the same directive. -/
theorem ofLine?_of_mem_ways (hline : '\n' ∉ line.toList) {pattern : Pattern}
    {captured : List Char} (h : captured ∈ ways pattern.parts line.toList) :
    ofLine? line = some (pattern.directive (String.ofList (trim captured))) := by
  obtain ⟨body, hopening, hbody⟩ := mem_ways_opening.1 h
  exact ofChars?_eq_some_iff_says.2
    ⟨body, hopening, says_of_mem_ways (hopening.not_mem hline) hbody⟩

/-- A line matches a pattern exactly when it is a directive of this pattern. -/
theorem directive?_eq_some_iff (hline : '\n' ∉ line.toList) {pattern : Pattern}
    {directive : Directive} :
    pattern.directive? line = some directive ↔
      ofLine? line = some directive ∧ directive.pattern = pattern := by
  constructor
  · intro h
    obtain ⟨captured, hcaptured, rfl⟩ := Option.map_eq_some_iff.1 h
    exact ⟨ofLine?_of_mem_ways hline (List.mem_of_mem_head? hcaptured), pattern_directive _ _⟩
  · rintro ⟨hdirective, rfl⟩
    obtain ⟨body, hopening, hbody⟩ := ofChars?_eq_some_iff_says.1 hdirective
    obtain ⟨captured, hcaptured⟩ := exists_way_of_says (hopening.not_mem hline) hbody
    have hway : captured ∈ ways directive.pattern.parts line.toList :=
      mem_ways_opening.2 ⟨body, hopening, hcaptured⟩
    cases hfirst : directive.pattern.captured? line with
    | none =>
      rw [captured?, List.head?_eq_none_iff] at hfirst
      rw [hfirst] at hway
      cases hway
    | some first =>
      have hsame := ofLine?_of_mem_ways hline (List.mem_of_mem_head? hfirst)
      rw [hdirective] at hsame
      rw [directive?, hfirst]
      exact hsame.symm

theorem exists_directive?_of_captured? {pattern : Pattern} (h : pattern.captured? line ≠ none) :
    ∃ directive, pattern.directive? line = some directive := by
  obtain ⟨captured, hcaptured⟩ := Option.ne_none_iff_exists'.1 h
  exact ⟨_, by rw [directive?, hcaptured]; rfl⟩

/-- In whatever order the patterns are tried, they make the line the directive that it is. -/
theorem findSome?_directive? (hline : '\n' ∉ line.toList) {order : List Pattern}
    (horder : order.Perm all) : order.findSome? (·.directive? line) = ofLine? line := by
  cases hfound : order.findSome? (·.directive? line) with
  | some directive =>
    obtain ⟨pattern, -, hpattern⟩ := List.exists_of_findSome?_eq_some hfound
    exact ((directive?_eq_some_iff hline).1 hpattern).1.symm
  | none =>
    cases hdirective : ofLine? line with
    | none => rfl
    | some directive =>
      have hnone := List.findSome?_eq_none_iff.1 hfound directive.pattern
        (horder.mem_iff.2 (mem_all _))
      rw [(directive?_eq_some_iff hline).2 ⟨hdirective, rfl⟩] at hnone
      cases hnone

end Pattern

/-- The line is a keyword and an expression between braces. All of them have blanks around, some at
least between keyword and expression, and the closing braces are the first ones behind it. -/
def WrittenAs (Keyword : List Char → Prop) (expression line : List Char) : Prop :=
  ∃ before between word gap behind after, AllBlank before ∧ AllBlank between ∧ Keyword word ∧
    AllBlank gap ∧ gap ≠ [] ∧ AllBlank behind ∧ AllBlank after ∧
    ClosedFirst (expression ++ behind) ∧
    line = before ++ ['\x7b', '\x7b'] ++ between ++ word ++ gap ++ expression ++ behind ++
      ['\x7d', '\x7d'] ++ after

def IfWord (word : List Char) : Prop := Spelled ['#', 'i', 'f'] word

def ElseIfWord (word : List Char) : Prop :=
  ∃ first blanks second, Spelled ['e', 'l', 's', 'e'] first ∧ AllBlank blanks ∧ blanks ≠ [] ∧
    Spelled ['i', 'f'] second ∧ word = first ++ blanks ++ second

/-- A text is what trimming leaves of it, with blanks around. -/
theorem exists_padding (cs : List Char) :
    ∃ before after, AllBlank before ∧ AllBlank after ∧ cs = before ++ (trim cs ++ after) := by
  obtain ⟨before, hbefore, hcs⟩ := exists_blanks_append cs
  obtain ⟨after, hafter, htrim⟩ := trim_blanksBehind cs
  exact ⟨before, after, hbefore, hafter, by rw [← htrim, ← hcs]⟩

/-- The blanks at the ends of an expression can be counted to what is around it. -/
theorem writtenAs_iff {Keyword : List Char → Prop} {expression line : List Char}
    (hne : expression ≠ []) (htrim : trim expression = expression) :
    WrittenAs Keyword expression line ↔
      ∃ body word rest inner, Opening line body ∧ Keyword word ∧ Condition rest inner ∧
        body = word ++ rest ∧ trim inner = expression := by
  constructor
  · rintro ⟨before, between, word, gap, behind, after, hbefore, hbetween, hword, hgap, hgapNe,
      hbehind, hafter, hclosed, rfl⟩
    have hopening : Opening _
        (word ++ (gap ++ (expression ++ (behind ++ '\x7d' :: '\x7d' :: after)))) :=
      ⟨before, between, hbefore, hbetween, rfl⟩
    have hunclosed := (unclosed_append _ _ _).1 ((unclosed_iff_closedFirst _ after).2 hclosed)
    have hcondition : Condition (gap ++ (expression ++ (behind ++ '\x7d' :: '\x7d' :: after)))
        expression :=
      ⟨gap, _, hgapNe, hne, hgap, ⟨behind, after, hbehind, hafter, rfl⟩, hunclosed.1, rfl⟩
    refine ⟨_, word, _, expression, ?_, hword, hcondition, rfl, htrim⟩
    simpa using hopening
  · rintro ⟨body, word, rest, inner, ⟨before, between, hbefore, hbetween, rfl⟩, hword,
      ⟨gap, closing, hgapNe, -, hgap, ⟨behind, after, hbehind, hafter, rfl⟩, hunclosed, rfl⟩, rfl,
      rfl⟩
    obtain ⟨left, right, hleft, hright, hinner⟩ := exists_padding inner
    rw [hinner, unclosed_append, unclosed_append] at hunclosed
    refine ⟨before, between, word, gap ++ left, right ++ behind, after, hbefore, hbetween, hword,
      hgap.append hleft, ?_, hright.append hbehind, hafter, ?_, ?_⟩
    · intro hnil
      exact hgapNe (List.append_eq_nil_iff.1 hnil).1
    · refine (unclosed_iff_closedFirst _ after).1 ?_
      rw [unclosed_append]
      refine ⟨?_, (hright.append hbehind).unclosed _⟩
      simpa using hunclosed.2.1
    · conv_lhs => rw [hinner]
      simp

theorem says_ifStart_iff {body : List Char} {expression : String} :
    Says body (.ifStart expression) ↔
      ∃ word rest inner, IfWord word ∧ Condition rest inner ∧ body = word ++ rest ∧
        expression = String.ofList (trim inner) := by
  constructor
  · generalize hdirective : ifStart expression = directive
    intro h
    cases h with
    | ifStart hword hinner =>
      cases hdirective
      exact ⟨_, _, _, hword, hinner, rfl, rfl⟩
    | elseIf _ _ _ _ _ => cases hdirective
    | otherwise _ _ => cases hdirective
    | close _ _ => cases hdirective
  · rintro ⟨word, rest, inner, hword, hinner, rfl, rfl⟩
    exact .ifStart hword hinner

theorem says_elseIf_iff {body : List Char} {expression : String} :
    Says body (.elseIf expression) ↔
      ∃ word rest inner, ElseIfWord word ∧ Condition rest inner ∧ body = word ++ rest ∧
        expression = String.ofList (trim inner) := by
  constructor
  · generalize hdirective : elseIf expression = directive
    intro h
    cases h with
    | elseIf hword hblanks hne hword' hinner =>
      cases hdirective
      exact ⟨_, _, _, ⟨_, _, _, hword, hblanks, hne, hword', rfl⟩, hinner, by simp, rfl⟩
    | ifStart _ _ => cases hdirective
    | otherwise _ _ => cases hdirective
    | close _ _ => cases hdirective
  · rintro ⟨_, rest, inner, ⟨first, blanks, second, hfirst, hblanks, hne, hsecond, rfl⟩, hinner,
      rfl, rfl⟩
    rw [List.append_assoc, List.append_assoc]
    exact .elseIf hfirst hblanks hne hsecond hinner

/-- A line is a directive with this expression exactly when it is written as one. -/
theorem ofLine?_eq_some_iff_writtenAs {Keyword : List Char → Prop} {make : String → Directive}
    (hgrammar : ∀ body expression, Says body (make expression) ↔
      ∃ word rest inner, Keyword word ∧ Condition rest inner ∧ body = word ++ rest ∧
        expression = String.ofList (trim inner))
    {line : String} {expression : List Char} (hne : expression ≠ [])
    (htrim : trim expression = expression) :
    ofLine? line = some (make (String.ofList expression)) ↔
      WrittenAs Keyword expression line.toList := by
  rw [ofLine?, ofChars?_eq_some_iff_says, writtenAs_iff hne htrim]
  simp only [hgrammar, String.ofList_inj, eq_comm (a := expression)]
  constructor
  · rintro ⟨body, hopening, word, rest, inner, hread⟩
    exact ⟨body, word, rest, inner, hopening, hread⟩
  · rintro ⟨body, word, rest, inner, hopening, hread⟩
    exact ⟨body, hopening, word, rest, inner, hread⟩

theorem Pattern.map_trim_captured?_iff (pattern : Pattern)
    (hdirective : ∀ first second, pattern.directive first = pattern.directive second →
      first = second)
    {line : String} {expression : List Char} :
    (pattern.captured? line).map trim = some expression ↔
      pattern.directive? line = some (pattern.directive (String.ofList expression)) := by
  rw [directive?, Option.map_eq_some_iff, Option.map_eq_some_iff]
  refine exists_congr fun captured => and_congr_right fun _ => ⟨fun h => by rw [h], fun h => ?_⟩
  exact String.ofList_inj.1 (hdirective _ _ h)

theorem ofLine?_of_isFence {line : String} (h : isFence line = true) : ofLine? line = none := by
  cases hdirective : ofLine? line with
  | none => rfl
  | some directive =>
    obtain ⟨body, hopening, -⟩ := ofChars?_eq_some_iff_says.1 hdirective
    rw [isFence_of_opening hopening] at h
    cases h

/-- The patterns with an expression match what is written as such a directive, and record this
expression up to blanks. A line matches one pattern at most, and none if it begins or ends fenced
code, so the order does not matter in which the patterns are tried. -/
theorem patterns_match_one_directive (line : String) (hline : '\n' ∉ line.toList) :
    (∀ expression : List Char, expression ≠ [] → trim expression = expression →
      ((Pattern.ifStart.captured? line).map trim = some expression ↔
        WrittenAs IfWord expression line.toList) ∧
      ((Pattern.elseIf.captured? line).map trim = some expression ↔
        WrittenAs ElseIfWord expression line.toList)) ∧
    (∀ first second : Pattern, first.captured? line ≠ none → second.captured? line ≠ none →
      first = second) ∧
    (isFence line = true → ∀ pattern : Pattern, pattern.captured? line = none) ∧
    ∀ order : List Pattern, order.Perm Pattern.all →
      order.findSome? (·.directive? line) = ofLine? line := by
  refine ⟨?_, ?_, ?_, fun order horder => Pattern.findSome?_directive? hline horder⟩
  · intro expression hne htrim
    rw [Pattern.map_trim_captured?_iff .ifStart fun _ _ => ifStart.inj,
      Pattern.map_trim_captured?_iff .elseIf fun _ _ => elseIf.inj,
      Pattern.directive?_eq_some_iff hline, Pattern.directive?_eq_some_iff hline,
      ← ofLine?_eq_some_iff_writtenAs (fun _ _ => says_ifStart_iff) hne htrim,
      ← ofLine?_eq_some_iff_writtenAs (fun _ _ => says_elseIf_iff) hne htrim]
    exact ⟨and_iff_left (Pattern.pattern_directive .ifStart _),
      and_iff_left (Pattern.pattern_directive .elseIf _)⟩
  · intro first second hfirst hsecond
    obtain ⟨directive, hdirective⟩ := Pattern.exists_directive?_of_captured? hfirst
    obtain ⟨directive', hdirective'⟩ := Pattern.exists_directive?_of_captured? hsecond
    obtain ⟨hline₁, rfl⟩ := (Pattern.directive?_eq_some_iff hline).1 hdirective
    obtain ⟨hline₂, rfl⟩ := (Pattern.directive?_eq_some_iff hline).1 hdirective'
    rw [Option.some.inj (hline₁.symm.trans hline₂)]
  · intro hfence pattern
    by_contra hcaptured
    obtain ⟨directive, hdirective⟩ := Pattern.exists_directive?_of_captured? hcaptured
    rw [Pattern.directive?_eq_some_iff hline, ofLine?_of_isFence hfence] at hdirective
    cases hdirective.1

/-- A line with a dotted capital letter in its keyword and a brace in its expression. -/
def strayBraceLine : String := " \x7b\x7b#İF a\x7d\t\x7d\x7d"

theorem patterns_of_strayBraceLine :
    '\n' ∉ strayBraceLine.toList ∧ WrittenAs IfWord ['a', '\x7d'] strayBraceLine.toList ∧
      (Pattern.ifStart.captured? strayBraceLine).map trim = some ['a', '\x7d'] ∧
      Pattern.elseIf.captured? strayBraceLine = none ∧
      [Pattern.close, .otherwise, .elseIf, .ifStart].findSome? (·.directive? strayBraceLine) =
        some (.ifStart "a\x7d") := by
  have hline : '\n' ∉ strayBraceLine.toList := by decide
  obtain ⟨hexpression, hone, -, horder⟩ := patterns_match_one_directive strayBraceLine hline
  have hclosed : ClosedFirst (['a', '\x7d'] ++ ['\t']) :=
    (unclosed_iff_closedFirst _ []).1 (by simp [Unclosed])
  have hblank {cs : List Char} (h : cs.all isBlank = true) : AllBlank cs := List.all_eq_true.1 h
  have hword : IfWord ['#', 'İ', 'F'] :=
    .cons (by decide) (.cons (by decide) (.cons (by decide) .nil))
  have hwritten : WrittenAs IfWord ['a', '\x7d'] strayBraceLine.toList :=
    ⟨[' '], [], _, [' '], ['\t'], [], hblank (by decide), hblank (by decide), hword,
      hblank (by decide), List.cons_ne_nil _ _, hblank (by decide), hblank (by decide), hclosed,
      rfl⟩
  have hcaptured := (hexpression _ (List.cons_ne_nil _ _) (by decide)).1.2 hwritten
  refine ⟨hline, hwritten, hcaptured, ?_, ?_⟩
  · by_contra helse
    have hif : Pattern.ifStart.captured? strayBraceLine ≠ none := by
      intro hnone
      rw [hnone] at hcaptured
      cases hcaptured
    cases hone _ _ hif helse
  · rw [horder _ (by decide)]
    rfl

end CondDoc.Directive
