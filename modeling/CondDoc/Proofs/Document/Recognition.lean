import CondDoc.Proofs.Document.Blanks
import CondDoc.Proofs.Document.Directives

namespace CondDoc.Directive

open Text (isBlank trimLeft trim)

/-- Nothing but blanks. -/
def AllBlank (cs : List Char) : Prop := ∀ c ∈ cs, isBlank c = true

theorem allBlank_nil : AllBlank [] := fun _ h => absurd h List.not_mem_nil

theorem AllBlank.append {first second : List Char} (hfirst : AllBlank first)
    (hsecond : AllBlank second) : AllBlank (first ++ second) :=
  List.forall_mem_append.2 ⟨hfirst, hsecond⟩

theorem AllBlank.trimLeft_append {blanks : List Char} (h : AllBlank blanks) (cs : List Char) :
    trimLeft (blanks ++ cs) = trimLeft cs := List.dropWhile_append_of_pos h

theorem AllBlank.trim {blanks : List Char} (h : AllBlank blanks) : Text.trim blanks = [] := by
  have hpadded : PaddedFrom [] blanks := ⟨blanks, [], h, allBlank_nil, by simp⟩
  exact trim_of_paddedFrom hpadded

/-- A text is what is left of it without its leading blanks, with blanks in front. -/
theorem exists_blanks_append (cs : List Char) :
    ∃ blanks, AllBlank blanks ∧ cs = blanks ++ trimLeft cs :=
  ⟨cs.takeWhile isBlank, fun _ hc => List.mem_takeWhile_imp hc,
    List.takeWhile_append_dropWhile.symm⟩

theorem trimLeft_of_head {c : Char} {cs : List Char} (h : isBlank c = false) :
    trimLeft (c :: cs) = c :: cs :=
  List.dropWhile_cons_of_neg (by rw [h]; exact Bool.false_ne_true)

/-- A word that spells a keyword, whatever the case of its letters. -/
def Spelled (keyword word : List Char) : Prop :=
  List.Forall₂ (fun letter c => spells letter c = true) keyword word

theorem after?_append {keyword word : List Char} (h : Spelled keyword word) (rest : List Char) :
    after? keyword (word ++ rest) = some rest := by
  induction h with
  | nil => rfl
  | cons hletter _ ih => rw [List.cons_append, after?, if_pos hletter, ih]

theorem after?_eq_some_iff {keyword cs rest : List Char} :
    after? keyword cs = some rest ↔ ∃ word, Spelled keyword word ∧ cs = word ++ rest := by
  constructor
  · intro h
    induction keyword generalizing cs with
    | nil => exact ⟨[], .nil, Option.some.inj h⟩
    | cons letter keyword ih =>
      cases cs with
      | nil => cases h
      | cons c cs =>
        rw [after?] at h
        split at h
        · next hletter =>
          obtain ⟨word, hword, rfl⟩ := ih h
          exact ⟨c :: word, .cons hletter hword, rfl⟩
        · cases h
  · rintro ⟨word, hword, rfl⟩
    exact after?_append hword rest

/-- Only letters have another case. -/
theorem eq_of_toLower_eq {letter c : Char} (hletter : letter.isLower = false)
    (h : c.toLower = letter) : c = letter := by
  by_cases hascii : c.toNat < 128
  · have hself : c.toLower.isLower = false → c.toLower = c :=
      @Text.forall_ascii (fun c => c.toLower.isLower = false → c.toLower = c) (by decide +kernel) c
        hascii
    rw [h] at hself
    exact (hself hletter).symm
  · rw [← h, Text.toLower_beyond (Nat.le_of_not_lt hascii)]

theorem toLower_of_spells {letter c : Char} (hi : letter ≠ 'i') (hs : letter ≠ 's')
    (h : spells letter c = true) : c.toLower = letter := by
  rw [spells, beq_false_of_ne hi, beq_false_of_ne hs, Bool.false_and, Bool.false_and,
    Bool.or_false, Bool.or_false] at h
  exact eq_of_beq h

/-- Neither braces nor the marks in front of keywords have another spelling. -/
theorem eq_of_spells {mark c : Char} (hmark : mark.isLower = false) (h : spells mark c = true) :
    c = mark := by
  have hi : mark ≠ 'i' := by
    rintro rfl
    exact absurd hmark (by decide)
  have hs : mark ≠ 's' := by
    rintro rfl
    exact absurd hmark (by decide)
  exact eq_of_toLower_eq hmark (toLower_of_spells hi hs h)

theorem isBlank_of_spells {letter c : Char} (hletter : isBlank letter = false)
    (h : spells letter c = true) : isBlank c = false := by
  apply eq_false_of_ne_true
  intro hblank
  rw [spells_of_isBlank hletter hblank] at h
  cases h

/-- A word with another first letter does not spell the keyword. -/
theorem after?_eq_none {letter other c : Char} {keyword cs : List Char} (hi : other ≠ 'i')
    (hs : other ≠ 's') (hne : letter ≠ 'i' ∧ letter ≠ 's' ∧ letter ≠ other)
    (hc : spells other c = true) : after? (letter :: keyword) (c :: cs) = none := by
  rw [after?, if_neg]
  intro h
  exact hne.2.2 ((toLower_of_spells hne.1 hne.2.1 h).symm.trans (toLower_of_spells hi hs hc))

/-- In front of the second text, no pair of closing braces begins inside the first one. -/
def Unclosed : List Char → List Char → Prop
  | [], _ => True
  | c :: inner, behind => ¬ ['\x7d', '\x7d'] <+: c :: (inner ++ behind) ∧ Unclosed inner behind

theorem unclosed_append (first second behind : List Char) :
    Unclosed (first ++ second) behind ↔
      Unclosed first (second ++ behind) ∧ Unclosed second behind := by
  induction first with
  | nil => rw [List.nil_append, Unclosed, true_and]
  | cons c first ih => rw [List.cons_append, Unclosed, Unclosed, ih, List.append_assoc, and_assoc]

theorem AllBlank.unclosed {blanks : List Char} (h : AllBlank blanks) (behind : List Char) :
    Unclosed blanks behind := by
  induction blanks with
  | nil => trivial
  | cons c blanks ih =>
    obtain ⟨hc, hothers⟩ := List.forall_mem_cons.1 h
    refine ⟨fun hbraces => ?_, ih hothers⟩
    obtain ⟨hbrace, -⟩ := List.cons_prefix_cons.1 hbraces
    exact ne_of_isBlank hc (by decide) hbrace.symm

/-- The pair of closing braces behind the text is the first one. -/
def ClosedFirst (inner : List Char) : Prop :=
  ∀ before after, inner ++ ['\x7d', '\x7d'] = before ++ '\x7d' :: '\x7d' :: after → after = []

theorem unclosed_iff_closedFirst (inner rest : List Char) :
    Unclosed inner ('\x7d' :: '\x7d' :: rest) ↔ ClosedFirst inner := by
  constructor
  · intro h before after heq
    induction inner generalizing before with
    | nil =>
      have hlength := congrArg List.length heq
      simp only [List.nil_append, List.length_append, List.length_cons, List.length_nil] at hlength
      exact List.eq_nil_of_length_eq_zero (by omega)
    | cons c inner ih =>
      obtain ⟨hbraces, hinner⟩ := h
      cases before with
      | nil =>
        refine absurd ?_ hbraces
        have hlonger := congrArg (· ++ rest) heq
        simp only [List.cons_append, List.nil_append, List.append_assoc] at hlonger
        rw [hlonger]
        exact ⟨after ++ rest, rfl⟩
      | cons first before => exact ih hinner before (List.cons.inj heq).2
  · intro h
    induction inner with
    | nil => trivial
    | cons c inner ih =>
      constructor
      · rintro ⟨after, hafter⟩
        -- The pair that begins here reaches at most one brace into the pair behind the text.
        cases inner with
        | nil =>
          obtain ⟨rfl, -⟩ := List.cons.inj hafter
          cases h [] ['\x7d'] rfl
        | cons d inner =>
          obtain ⟨rfl, hmore⟩ := List.cons.inj hafter
          obtain ⟨rfl, -⟩ := List.cons.inj hmore
          have hnil := h [] (inner ++ ['\x7d', '\x7d']) rfl
          simp at hnil
      · apply ih
        intro before after heq
        exact h (c :: before) after (congrArg (c :: ·) heq)

theorem beforeClosing?_eq_some_iff {cs inner rest : List Char} :
    beforeClosing? cs = some (inner, rest) ↔
      cs = inner ++ '\x7d' :: '\x7d' :: rest ∧ Unclosed inner ('\x7d' :: '\x7d' :: rest) := by
  fun_induction beforeClosing? cs generalizing inner with
  | case1 rest' =>
    rw [Option.some.injEq, Prod.mk.injEq]
    constructor
    · rintro ⟨rfl, rfl⟩
      exact ⟨rfl, trivial⟩
    · rintro ⟨hcs, hunclosed⟩
      cases inner with
      | nil =>
        cases hcs
        exact ⟨rfl, rfl⟩
      | cons c inner =>
        refine absurd ?_ hunclosed.1
        rw [← List.cons_append, ← hcs]
        exact ⟨rest', rfl⟩
  | case2 c cs hother ih =>
    rw [Option.map_eq_some_iff]
    constructor
    · rintro ⟨⟨inner', rest'⟩, hparts, heq⟩
      cases heq
      obtain ⟨hcs, hunclosed⟩ := ih.1 hparts
      refine ⟨congrArg (c :: ·) hcs, fun hbraces => ?_, hunclosed⟩
      rw [← hcs] at hbraces
      obtain ⟨hc, after, hafter⟩ := List.cons_prefix_cons.1 hbraces
      exact hother after hc.symm hafter.symm
    · rintro ⟨hcs, hunclosed⟩
      cases inner with
      | nil =>
        obtain ⟨rfl, rfl⟩ := List.cons.inj hcs
        exact (hother rest rfl rfl).elim
      | cons d inner =>
        obtain ⟨hd, hcs⟩ := List.cons.inj hcs
        exact ⟨(inner, rest), ih.2 ⟨hcs, hunclosed.2⟩, by rw [hd]⟩
  | case3 =>
    constructor
    · intro h
      cases h
    · rintro ⟨hcs, -⟩
      cases inner <;> cases hcs

/-- Closing braces with blanks around them. -/
def Closing (cs : List Char) : Prop :=
  ∃ before after, AllBlank before ∧ AllBlank after ∧ cs = before ++ '\x7d' :: '\x7d' :: after

theorem endsHere_iff {cs : List Char} : endsHere cs = true ↔ Closing cs := by
  unfold endsHere
  constructor
  · intro h
    obtain ⟨before, hbefore, hcs⟩ := exists_blanks_append cs
    split at h
    · next after hafter =>
      rw [hafter] at hcs
      exact ⟨before, after, hbefore, List.all_eq_true.1 h, hcs⟩
    · cases h
  · rintro ⟨before, after, hbefore, hafter, rfl⟩
    rw [hbefore.trimLeft_append, trimLeft_of_head (by decide)]
    exact List.all_eq_true.2 hafter

/-- An expression that some blanks part from what is in front of it, and what closes it. The blanks
at its ends may be counted to it or not. -/
def Condition (cs inner : List Char) : Prop :=
  ∃ before closing, before ≠ [] ∧ inner ≠ [] ∧ AllBlank before ∧ Closing closing ∧
    Unclosed inner closing ∧ cs = before ++ (inner ++ closing)

theorem condition?_of_closing {inner rest : List Char} {first second : Char}
    (hinner : Unclosed (first :: second :: inner) ('\x7d' :: '\x7d' :: rest))
    (hfirst : isBlank first = true) (hrest : AllBlank rest) :
    condition? (first :: second :: inner ++ '\x7d' :: '\x7d' :: rest) =
      some (String.ofList (trim (first :: second :: inner))) := by
  rw [condition?, beforeClosing?_eq_some_iff.2 ⟨rfl, hinner⟩]
  dsimp only
  rw [if_pos]
  rw [hfirst, List.all_eq_true.2 hrest]
  rfl

/-- Whichever blanks are counted to the expression, it is read without those at its ends. -/
theorem condition?_eq_some_iff {cs : List Char} {expression : String} :
    condition? cs = some expression ↔
      ∃ inner, Condition cs inner ∧ expression = String.ofList (trim inner) := by
  constructor
  · intro h
    unfold condition? at h
    split at h
    · next first second more rest hparts =>
      split at h
      · next htest =>
        obtain ⟨hfirst, hrest⟩ := Bool.and_eq_true_iff.1 htest
        obtain ⟨rfl, hunclosed⟩ := beforeClosing?_eq_some_iff.1 hparts
        have hblank : AllBlank [first] := List.forall_mem_singleton.2 hfirst
        have hclosing : Closing ('\x7d' :: '\x7d' :: rest) :=
          ⟨[], rest, allBlank_nil, List.all_eq_true.1 hrest, rfl⟩
        refine ⟨second :: more, ⟨[first], _, List.cons_ne_nil _ _, List.cons_ne_nil _ _, hblank,
          hclosing, hunclosed.2, rfl⟩, ?_⟩
        have hpadded : PaddedFrom (second :: more) (first :: second :: more) :=
          ⟨[first], [], hblank, allBlank_nil, (List.append_nil _).symm⟩
        rw [← trim_of_paddedFrom hpadded]
        exact (Option.some.inj h).symm
      · cases h
    · cases h
  · rintro ⟨inner, ⟨before, closing, hbefore, hinner, hblanks, hclosing, hunclosed, rfl⟩, rfl⟩
    obtain ⟨between, rest, hbetween, hrest, rfl⟩ := hclosing
    have hpadded : PaddedFrom inner (before ++ inner ++ between) :=
      ⟨before, between, hblanks, hbetween, rfl⟩
    rw [← trim_of_paddedFrom hpadded]
    have hwhole : Unclosed (before ++ inner ++ between) ('\x7d' :: '\x7d' :: rest) := by
      rw [unclosed_append, unclosed_append]
      exact ⟨⟨hblanks.unclosed _, hunclosed⟩, hbetween.unclosed _⟩
    rw [← List.append_assoc, ← List.append_assoc]
    -- There are at least two characters, of which the first is one of the blanks in front.
    match before, inner with
    | [first], second :: inner =>
      exact condition?_of_closing hwhole (hblanks first List.mem_cons_self) hrest
    | first :: second :: before, inner =>
      exact condition?_of_closing hwhole (hblanks first List.mem_cons_self) hrest

/-- The directive that begins with these characters, behind the opening braces and the blanks after
them. -/
def ofBody? (body : List Char) : Option Directive :=
  match after? ['#', 'i', 'f'] body with
  | some rest => (condition? rest).map .ifStart
  | none =>
    match after? ['/', 'i', 'f'] body with
    | some rest => if endsHere rest then some .close else none
    | none => (after? ['e', 'l', 's', 'e'] body).bind afterElse?

theorem ofChars?_eq_bind_ofBody? (line : List Char) : ofChars? line = (opened? line).bind ofBody? :=
  rfl

/-- The line has the body behind opening braces, with blanks around them. -/
def Opening (line body : List Char) : Prop :=
  ∃ before between, AllBlank before ∧ AllBlank between ∧
    line = before ++ '\x7b' :: '\x7b' :: (between ++ body)

theorem opened?_of_opening {line body : List Char} (h : Opening line body)
    (hbody : trimLeft body = body) : opened? line = some body := by
  obtain ⟨before, between, hbefore, hbetween, rfl⟩ := h
  rw [opened?, hbefore.trimLeft_append, trimLeft_of_head (by decide)]
  change some (trimLeft (between ++ body)) = some body
  rw [hbetween.trimLeft_append, hbody]

theorem opening_of_opened? {line body : List Char} (h : opened? line = some body) :
    Opening line body := by
  unfold opened? at h
  obtain ⟨before, hbefore, hline⟩ := exists_blanks_append line
  split at h
  · next rest hrest =>
    obtain rfl := Option.some.inj h
    obtain ⟨between, hbetween, hsplit⟩ := exists_blanks_append rest
    rw [hrest, hsplit] at hline
    exact ⟨before, between, hbefore, hbetween, hline⟩
  · cases h

/-- Fenced code begins and ends with other characters than braces. -/
theorem isFence_of_opening {line : String} {body : List Char} (h : Opening line.toList body) :
    isFence line = false := by
  obtain ⟨before, between, hbefore, -, hline⟩ := h
  rw [isFence, hline, hbefore.trimLeft_append, trimLeft_of_head (by decide)]
  rfl

/-- A keyword begins with a character that is no blank. -/
theorem trimLeft_of_after? {letter : Char} {keyword body rest : List Char}
    (hletter : isBlank letter = false) (h : after? (letter :: keyword) body = some rest) :
    trimLeft body = body := by
  obtain ⟨word, hword, rfl⟩ := after?_eq_some_iff.1 h
  cases hword with
  | cons hspells _ => exact trimLeft_of_head (isBlank_of_spells hletter hspells)

theorem trimLeft_of_ofBody? {body : List Char} {directive : Directive}
    (h : ofBody? body = some directive) : trimLeft body = body := by
  unfold ofBody? at h
  split at h
  · next hif => exact trimLeft_of_after? (by decide) hif
  · split at h
    · next hclose => exact trimLeft_of_after? (by decide) hclose
    · obtain ⟨rest, helse, -⟩ := Option.bind_eq_some_iff.1 h
      exact trimLeft_of_after? (by decide) helse

theorem ofChars?_eq_some_iff {line : List Char} {directive : Directive} :
    ofChars? line = some directive ↔
      ∃ body, Opening line body ∧ ofBody? body = some directive := by
  rw [ofChars?_eq_bind_ofBody?, Option.bind_eq_some_iff]
  constructor
  · rintro ⟨body, hopened, hbody⟩
    exact ⟨body, opening_of_opened? hopened, hbody⟩
  · rintro ⟨body, hopening, hbody⟩
    exact ⟨body, opened?_of_opening hopening (trimLeft_of_ofBody? hbody), hbody⟩

section

variable {word : List Char} (rest : List Char)

theorem ofBody?_if (h : Spelled ['#', 'i', 'f'] word) :
    ofBody? (word ++ rest) = (condition? rest).map .ifStart := by
  rw [ofBody?, after?_append h]

theorem ofBody?_close (h : Spelled ['/', 'i', 'f'] word) :
    ofBody? (word ++ rest) = if endsHere rest then some .close else none := by
  have hafter := after?_append h rest
  cases h with
  | cons hspells _ =>
    rw [ofBody?, hafter, List.cons_append,
      after?_eq_none (by decide) (by decide) (by decide) hspells]

theorem ofBody?_else (h : Spelled ['e', 'l', 's', 'e'] word) :
    ofBody? (word ++ rest) = afterElse? rest := by
  have hafter := after?_append h rest
  cases h with
  | cons hspells _ =>
    rw [ofBody?, hafter, List.cons_append,
      after?_eq_none (by decide) (by decide) (by decide) hspells,
      after?_eq_none (by decide) (by decide) (by decide) hspells]
    rfl

/-- Behind `else`, blanks and the word `if` an expression is read. -/
theorem afterElse?_if {blanks : List Char} (hblanks : AllBlank blanks) (hne : blanks ≠ [])
    (h : Spelled ['i', 'f'] word) :
    afterElse? (blanks ++ (word ++ rest)) = (condition? rest).map .elseIf := by
  have hafter := after?_append h rest
  have htrim : trimLeft (word ++ rest) = word ++ rest := trimLeft_of_after? (by decide) hafter
  have hends : endsHere (blanks ++ (word ++ rest)) = false := by
    rw [endsHere, hblanks.trimLeft_append, htrim]
    cases h with
    | cons hspells _ =>
      split
      · next hbraces =>
        obtain ⟨rfl, -⟩ := List.cons.inj hbraces
        exact absurd hspells (by decide)
      · rfl
  rw [afterElse?, hends, hblanks.trimLeft_append, htrim, hafter]
  cases blanks with
  | nil => exact absurd rfl hne
  | cons c blanks => exact if_pos (hblanks c List.mem_cons_self)

end

/-- What a line says behind its opening braces. -/
inductive Says : (body : List Char) → Directive → Prop where
  | ifStart {word rest inner : List Char} :
      Spelled ['#', 'i', 'f'] word → Condition rest inner →
        Says (word ++ rest) (.ifStart (String.ofList (trim inner)))
  | elseIf {word blanks word' rest inner : List Char} :
      Spelled ['e', 'l', 's', 'e'] word → AllBlank blanks → blanks ≠ [] →
        Spelled ['i', 'f'] word' → Condition rest inner →
          Says (word ++ (blanks ++ (word' ++ rest))) (.elseIf (String.ofList (trim inner)))
  | otherwise {word rest : List Char} :
      Spelled ['e', 'l', 's', 'e'] word → Closing rest → Says (word ++ rest) .otherwise
  | close {word rest : List Char} :
      Spelled ['/', 'i', 'f'] word → Closing rest → Says (word ++ rest) .close

theorem says_of_afterElse? {word rest : List Char} {directive : Directive}
    (hword : Spelled ['e', 'l', 's', 'e'] word) (h : afterElse? rest = some directive) :
    Says (word ++ rest) directive := by
  unfold afterElse? at h
  split at h
  · next hends =>
    obtain rfl := Option.some.inj h
    exact .otherwise hword (endsHere_iff.1 hends)
  · split at h
    · next hblank =>
      obtain ⟨after, hafter, h⟩ := Option.bind_eq_some_iff.1 h
      obtain ⟨expression, hexpression, rfl⟩ := Option.map_eq_some_iff.1 h
      obtain ⟨inner, hinner, rfl⟩ := condition?_eq_some_iff.1 hexpression
      obtain ⟨word', hword', htrim⟩ := after?_eq_some_iff.1 hafter
      obtain ⟨blanks, hblanks, hrest⟩ := exists_blanks_append rest
      rw [htrim] at hrest
      have hne : blanks ≠ [] := by
        rintro rfl
        cases hword' with
        | cons hspells _ =>
          rw [hrest] at hblank
          exact absurd hblank (by simp [isBlank_of_spells (by decide) hspells])
      rw [hrest]
      exact .elseIf hword hblanks hne hword' hinner
    · cases h

theorem says_of_ofBody? {body : List Char} {directive : Directive}
    (h : ofBody? body = some directive) : Says body directive := by
  unfold ofBody? at h
  split at h
  · next rest hafter =>
    obtain ⟨word, hword, rfl⟩ := after?_eq_some_iff.1 hafter
    obtain ⟨expression, hexpression, rfl⟩ := Option.map_eq_some_iff.1 h
    obtain ⟨inner, hinner, rfl⟩ := condition?_eq_some_iff.1 hexpression
    exact .ifStart hword hinner
  · split at h
    · next rest hafter =>
      obtain ⟨word, hword, rfl⟩ := after?_eq_some_iff.1 hafter
      split at h
      · next hends =>
        obtain rfl := Option.some.inj h
        exact .close hword (endsHere_iff.1 hends)
      · cases h
    · obtain ⟨rest, hafter, helse⟩ := Option.bind_eq_some_iff.1 h
      obtain ⟨word, hword, rfl⟩ := after?_eq_some_iff.1 hafter
      exact says_of_afterElse? hword helse

theorem ofBody?_of_says {body : List Char} {directive : Directive} (h : Says body directive) :
    ofBody? body = some directive := by
  cases h with
  | ifStart hword hinner =>
    rw [ofBody?_if _ hword, condition?_eq_some_iff.2 ⟨_, hinner, rfl⟩]
    rfl
  | elseIf hword hblanks hne hword' hinner =>
    rw [ofBody?_else _ hword, afterElse?_if _ hblanks hne hword',
      condition?_eq_some_iff.2 ⟨_, hinner, rfl⟩]
    rfl
  | otherwise hword hclosing =>
    rw [ofBody?_else _ hword, afterElse?, if_pos (endsHere_iff.2 hclosing)]
  | close hword hclosing => rw [ofBody?_close _ hword, if_pos (endsHere_iff.2 hclosing)]

/-- A line is a directive exactly when it can be taken apart as one. -/
theorem ofChars?_eq_some_iff_says {line : List Char} {directive : Directive} :
    ofChars? line = some directive ↔ ∃ body, Opening line body ∧ Says body directive := by
  rw [ofChars?_eq_some_iff]
  constructor
  · rintro ⟨body, hopening, hbody⟩
    exact ⟨body, hopening, says_of_ofBody? hbody⟩
  · rintro ⟨body, hopening, hbody⟩
    exact ⟨body, hopening, ofBody?_of_says hbody⟩

theorem mem_of_mem_trim {cs : List Char} {c : Char} (h : c ∈ trim cs) : c ∈ cs := by
  have hkept : c ∈ ((cs.dropWhile isBlank).reverse.dropWhile isBlank).reverse := h
  have hreversed := (List.dropWhile_sublist isBlank).subset (List.mem_reverse.1 hkept)
  exact (List.dropWhile_sublist isBlank).subset (List.mem_reverse.1 hreversed)

theorem mem_of_mem_condition {cs inner : List Char} (h : Condition cs inner) {c : Char}
    (hc : c ∈ (String.ofList (trim inner)).toList) : c ∈ cs := by
  obtain ⟨before, closing, -, -, -, -, -, rfl⟩ := h
  rw [String.toList_ofList] at hc
  have hinner : c ∈ inner := mem_of_mem_trim hc
  simp [hinner]

/-- A directive has no character in its expression that is not on its line. -/
theorem mem_of_mem_expression {line expression : String} {directive : Directive}
    (h : ofLine? line = some directive) (hexpression : directive.expression? = some expression)
    {c : Char} (hc : c ∈ expression.toList) : c ∈ line.toList := by
  obtain ⟨body, hopening, hsays⟩ := ofChars?_eq_some_iff_says.1 h
  have hbody : c ∈ body := by
    cases hsays with
    | ifStart _ hcondition =>
      cases hexpression
      exact List.mem_append_right _ (mem_of_mem_condition hcondition hc)
    | elseIf _ _ _ _ hcondition =>
      cases hexpression
      have hrest := mem_of_mem_condition hcondition hc
      simp [hrest]
    | otherwise _ _ => cases hexpression
    | close _ _ => cases hexpression
  obtain ⟨before, between, -, -, hline⟩ := hopening
  rw [hline]
  simp [hbody]

end CondDoc.Directive
