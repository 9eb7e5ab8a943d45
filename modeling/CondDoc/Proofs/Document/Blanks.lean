import CondDoc.Directive
import CondDoc.Proofs.Text.Classes
import CondDoc.Proofs.Text.Lines
import CondDoc.Proofs.Text.Spelling
import CondDoc.Proofs.Text.Trim
import Mathlib.Data.List.Forall2

namespace CondDoc

open Text (isBlank trimLeft trim)

/-- The second text is the first one with blanks behind it. -/
def BlanksBehind (cs longer : List Char) : Prop :=
  ∃ after, (∀ c ∈ after, isBlank c = true) ∧ longer = cs ++ after

theorem without_blanks {word : List Char} (h : word.any isBlank = false) :
    ∀ letter ∈ word, isBlank letter = false := by
  simpa using h

namespace BlanksBehind

variable {cs longer : List Char}

theorem head (h : BlanksBehind [] longer) : ∀ c ∈ longer, isBlank c = true := by
  obtain ⟨after, hafter, rfl⟩ := h
  exact hafter

theorem refl (cs : List Char) : BlanksBehind cs cs := ⟨[], nofun, (List.append_nil cs).symm⟩

theorem cons (c : Char) (h : BlanksBehind cs longer) : BlanksBehind (c :: cs) (c :: longer) := by
  obtain ⟨after, hafter, rfl⟩ := h
  exact ⟨after, hafter, rfl⟩

theorem exists_cons {c : Char} (h : BlanksBehind (c :: cs) longer) :
    ∃ more, longer = c :: more ∧ BlanksBehind cs more := by
  obtain ⟨after, hafter, rfl⟩ := h
  exact ⟨cs ++ after, rfl, after, hafter, rfl⟩

/-- A character that is no blank is none of those behind. -/
theorem exists_cons_of_isBlank {c : Char} {more : List Char} (h : BlanksBehind cs (c :: more))
    (hc : isBlank c = false) : ∃ shorter, cs = c :: shorter ∧ BlanksBehind shorter more := by
  cases cs with
  | nil => exact absurd (hc.symm.trans (h.head c List.mem_cons_self)) Bool.false_ne_true
  | cons first cs =>
    obtain ⟨more', heq, hmore⟩ := h.exists_cons
    cases heq
    exact ⟨cs, rfl, hmore⟩

theorem trimLeft (h : BlanksBehind cs longer) :
    BlanksBehind (Text.trimLeft cs) (Text.trimLeft longer) := by
  induction cs generalizing longer with
  | nil =>
    refine ⟨[], nofun, ?_⟩
    rw [Text.trimLeft, List.dropWhile_eq_nil_iff.2 h.head]
    rfl
  | cons c cs ih =>
    obtain ⟨more, rfl, hmore⟩ := h.exists_cons
    unfold Text.trimLeft
    by_cases hblank : isBlank c = true
    · rw [List.dropWhile_cons_of_pos hblank, List.dropWhile_cons_of_pos hblank]
      exact ih hmore
    · rw [List.dropWhile_cons_of_neg hblank, List.dropWhile_cons_of_neg hblank]
      exact h

theorem all_isBlank (h : BlanksBehind cs longer) : longer.all isBlank = cs.all isBlank := by
  obtain ⟨after, hafter, rfl⟩ := h
  rw [List.all_append, List.all_eq_true.2 hafter, Bool.and_true]

/-- No text without blanks reaches beyond the end. -/
theorem isPrefixOf {word : List Char} (hword : ∀ c ∈ word, isBlank c = false)
    (h : BlanksBehind cs longer) : word.isPrefixOf longer = word.isPrefixOf cs := by
  induction word generalizing cs longer with
  | nil => rfl
  | cons letter word ih =>
    have hletter := hword letter List.mem_cons_self
    have hothers := fun c hc => hword c (List.mem_cons_of_mem letter hc)
    cases cs with
    | nil =>
      cases longer with
      | nil => rfl
      | cons c more =>
        have hne : (letter == c) = false := by
          apply beq_false_of_ne
          rintro rfl
          exact absurd (hletter.symm.trans (h.head letter List.mem_cons_self)) Bool.false_ne_true
        exact Bool.and_eq_false_imp.2 fun heq => absurd (hne.symm.trans heq) Bool.false_ne_true
    | cons c cs =>
      obtain ⟨more, rfl, hmore⟩ := h.exists_cons
      rw [List.isPrefixOf, List.isPrefixOf, ih hothers hmore]

end BlanksBehind

theorem trim_blanksBehind (cs : List Char) : BlanksBehind (trim cs) (trimLeft cs) :=
  ⟨(trimLeft cs).rtakeWhile isBlank, fun _ hc => List.mem_rtakeWhile_imp hc,
    List.rdropWhile_append_rtakeWhile.symm⟩

namespace Directive

theorem toLower_of_isBlank {c : Char} (h : isBlank c = true) : c.toLower = c := by
  by_cases hascii : c.toNat < 128
  · exact @Text.forall_ascii (fun c => isBlank c = true → c.toLower = c) (by decide +kernel) c
      hascii h
  · exact Text.toLower_beyond (Nat.le_of_not_lt hascii)

theorem ne_of_isBlank {c other : Char} (hc : isBlank c = true) (hother : isBlank other = false) :
    c ≠ other := by
  rintro rfl
  exact absurd (hother.symm.trans hc) Bool.false_ne_true

/-- Blanks spell no letter. -/
theorem spells_of_isBlank {letter c : Char} (hletter : isBlank letter = false)
    (hc : isBlank c = true) : spells letter c = false := by
  have hdotted : (c == 'İ') = false := beq_false_of_ne (ne_of_isBlank hc (by decide))
  have hdotless : (c == 'ı') = false := beq_false_of_ne (ne_of_isBlank hc (by decide))
  have hlong : (c == 'ſ') = false := beq_false_of_ne (ne_of_isBlank hc (by decide))
  have hself : (c == letter) = false := beq_false_of_ne (ne_of_isBlank hc hletter)
  rw [spells, toLower_of_isBlank hc, hdotted, hdotless, hlong, hself]
  cases letter == 'i' <;> cases letter == 's' <;> rfl

/-- Both have nothing left, or both have something left, the second with blanks behind it. -/
abbrev BothLeft : Option (List Char) → Option (List Char) → Prop := Option.Rel BlanksBehind

variable {cs longer : List Char}

theorem bothLeft_after? (keyword : List Char)
    (hkeyword : ∀ letter ∈ keyword, isBlank letter = false)
    (h : BlanksBehind cs longer) : BothLeft (after? keyword cs) (after? keyword longer) := by
  induction keyword generalizing cs longer with
  | nil => exact .some h
  | cons letter keyword ih =>
    cases cs with
    | nil =>
      cases longer with
      | nil => exact .none
      | cons c more =>
        have hspells := spells_of_isBlank (hkeyword letter List.mem_cons_self)
          (h.head c List.mem_cons_self)
        rw [after?, after?, hspells]
        exact .none
    | cons c cs =>
      obtain ⟨more, rfl, hmore⟩ := h.exists_cons
      rw [after?, after?]
      split
      · exact ih (fun letter hletter => hkeyword letter (List.mem_cons_of_mem _ hletter)) hmore
      · exact .none

theorem bothLeft_opened? (h : BlanksBehind cs longer) :
    BothLeft (opened? cs) (opened? longer) := by
  have htrim := h.trimLeft
  unfold opened?
  split
  · next rest hbraces =>
    rw [hbraces] at htrim
    obtain ⟨more, heq, hmore⟩ := htrim.exists_cons
    obtain ⟨rest', rfl, hrest⟩ := hmore.exists_cons
    rw [heq]
    exact .some hrest.trimLeft
  · next hother =>
    split
    · next rest' hbraces =>
      rw [hbraces] at htrim
      obtain ⟨more, heq, hmore⟩ := htrim.exists_cons_of_isBlank (by decide)
      obtain ⟨rest, rfl, -⟩ := hmore.exists_cons_of_isBlank (by decide)
      exact absurd heq (hother rest)
    · exact .none

theorem endsHere_of_blanksBehind (h : BlanksBehind cs longer) : endsHere longer = endsHere cs := by
  have htrim := h.trimLeft
  unfold endsHere
  split
  · next rest' hbraces =>
    rw [hbraces] at htrim
    obtain ⟨more, heq, hmore⟩ := htrim.exists_cons_of_isBlank (by decide)
    obtain ⟨rest, rfl, hrest⟩ := hmore.exists_cons_of_isBlank (by decide)
    rw [heq]
    exact hrest.all_isBlank
  · next hother =>
    split
    · next rest hbraces =>
      rw [hbraces] at htrim
      obtain ⟨more, heq, hmore⟩ := htrim.exists_cons
      obtain ⟨rest', rfl, -⟩ := hmore.exists_cons
      exact absurd heq (hother rest')
    · rfl

theorem beforeClosing?_of_blanks (h : ∀ c ∈ cs, isBlank c = true) : beforeClosing? cs = none := by
  induction cs with
  | nil => rfl
  | cons c cs ih =>
    have hothers := ih fun other hother => h other (List.mem_cons_of_mem _ hother)
    rw [beforeClosing?, hothers]
    · rfl
    · rintro rest rfl -
      exact absurd (h _ List.mem_cons_self) (by decide)

/-- What is read of a text up to the closing braces, and of the same text with blanks behind it. -/
abbrev BothClosed : Option (List Char × List Char) → Option (List Char × List Char) → Prop :=
  Option.Rel fun parts parts' => parts.1 = parts'.1 ∧ BlanksBehind parts.2 parts'.2

theorem bothClosed_beforeClosing? (h : BlanksBehind cs longer) :
    BothClosed (beforeClosing? cs) (beforeClosing? longer) := by
  fun_induction beforeClosing? cs generalizing longer with
  | case1 rest =>
    obtain ⟨more, rfl, hmore⟩ := h.exists_cons
    obtain ⟨rest', rfl, hrest⟩ := hmore.exists_cons
    rw [beforeClosing?]
    exact .some ⟨rfl, hrest⟩
  | case2 c cs hother ih =>
    obtain ⟨more, rfl, hmore⟩ := h.exists_cons
    rw [beforeClosing?]
    · have hclosed := ih hmore
      generalize beforeClosing? cs = parts at hclosed
      generalize beforeClosing? more = parts' at hclosed
      cases hclosed with
      | none => exact .none
      | some hparts => exact .some ⟨congrArg (c :: ·) hparts.1, hparts.2⟩
    · rintro rest rfl rfl
      obtain ⟨shorter, rfl, -⟩ := hmore.exists_cons_of_isBlank (by decide)
      exact hother shorter rfl rfl
  | case3 =>
    rw [beforeClosing?_of_blanks h.head]
    exact .none

theorem condition?_of_blanksBehind (h : BlanksBehind cs longer) :
    condition? longer = condition? cs := by
  have hclosed := bothClosed_beforeClosing? h
  unfold condition?
  generalize beforeClosing? cs = parts at hclosed
  generalize beforeClosing? longer = parts' at hclosed
  cases hclosed with
  | none => rfl
  | @some parts parts' hparts =>
    obtain ⟨before, rest⟩ := parts
    obtain ⟨before', rest'⟩ := parts'
    obtain ⟨rfl, hrest⟩ := hparts
    match before with
    | [] => rfl
    | [_] => rfl
    | first :: second :: more =>
      dsimp only
      rw [hrest.all_isBlank]

theorem bind_eq_of_bothLeft {α : Type} {left left' : Option (List Char)}
    {next : List Char → Option α} (h : BothLeft left left')
    (hnext : ∀ cs longer, BlanksBehind cs longer → next longer = next cs) :
    left'.bind next = left.bind next := by
  cases h with
  | none => rfl
  | some hbehind => exact hnext _ _ hbehind

theorem elseIf_of_blanksBehind (h : BlanksBehind cs longer) :
    (after? ['i', 'f'] (Text.trimLeft longer)).bind (fun rest => (condition? rest).map elseIf) =
      (after? ['i', 'f'] (Text.trimLeft cs)).bind fun rest => (condition? rest).map elseIf := by
  apply bind_eq_of_bothLeft (bothLeft_after? _ (without_blanks (by decide)) h.trimLeft)
  intro rest rest' hrest
  rw [condition?_of_blanksBehind hrest]

theorem afterElse?_of_blanksBehind (h : BlanksBehind cs longer) :
    afterElse? longer = afterElse? cs := by
  rw [afterElse?, afterElse?, endsHere_of_blanksBehind h, elseIf_of_blanksBehind h]
  cases cs with
  | nil => simp [after?, Text.trimLeft]
  | cons c cs =>
    obtain ⟨more, rfl, -⟩ := h.exists_cons
    rfl

/-- What the body of a directive says. -/
theorem ofChars?_eq_bind (line : List Char) : ofChars? line = (opened? line).bind fun body =>
    match after? ['#', 'i', 'f'] body with
    | some rest => (condition? rest).map .ifStart
    | none =>
      match after? ['/', 'i', 'f'] body with
      | some rest => if endsHere rest then some .close else none
      | none => (after? ['e', 'l', 's', 'e'] body).bind afterElse? := rfl

theorem ofChars?_of_blanksBehind (h : BlanksBehind cs longer) : ofChars? longer = ofChars? cs := by
  rw [ofChars?_eq_bind, ofChars?_eq_bind]
  apply bind_eq_of_bothLeft (bothLeft_opened? h)
  intro body body' hbody
  have hif := bothLeft_after? ['#', 'i', 'f'] (without_blanks (by decide)) hbody
  have hclose := bothLeft_after? ['/', 'i', 'f'] (without_blanks (by decide)) hbody
  have helse := bothLeft_after? ['e', 'l', 's', 'e'] (without_blanks (by decide)) hbody
  generalize after? ['#', 'i', 'f'] body = left at hif
  generalize after? ['#', 'i', 'f'] body' = left' at hif
  cases hif with
  | some hrest =>
    dsimp only
    rw [condition?_of_blanksBehind hrest]
  | none =>
    generalize after? ['/', 'i', 'f'] body = left at hclose
    generalize after? ['/', 'i', 'f'] body' = left' at hclose
    cases hclose with
    | some hrest =>
      dsimp only
      rw [endsHere_of_blanksBehind hrest]
    | none =>
      exact bind_eq_of_bothLeft helse fun _ _ hrest => afterElse?_of_blanksBehind hrest

theorem trimLeft_trimLeft (cs : List Char) : trimLeft (trimLeft cs) = trimLeft cs :=
  List.dropWhile_idempotent isBlank cs

theorem ofChars?_trim (cs : List Char) : ofChars? (trim cs) = ofChars? cs := by
  have hleft : ofChars? (trimLeft cs) = ofChars? cs := by
    rw [ofChars?_eq_bind, ofChars?_eq_bind, opened?, opened?, trimLeft_trimLeft]
  rw [← ofChars?_of_blanksBehind (trim_blanksBehind cs), hleft]

end Directive

theorem trim_of_blanksBehind {cs longer : List Char} (h : BlanksBehind cs longer) :
    trim longer = trim cs := by
  obtain ⟨after, hafter, heq⟩ := h.trimLeft
  have hreverse : ∀ c ∈ after.reverse, isBlank c = true := fun c hc =>
    hafter c (List.mem_reverse.1 hc)
  change ((trimLeft longer).reverse.dropWhile isBlank).reverse =
    ((trimLeft cs).reverse.dropWhile isBlank).reverse
  rw [heq, List.reverse_append, List.dropWhile_append_of_pos hreverse]

/-- The text is the other one with blanks around it. -/
def PaddedFrom (core cs : List Char) : Prop :=
  ∃ before after, (∀ c ∈ before, isBlank c = true) ∧ (∀ c ∈ after, isBlank c = true) ∧
    cs = before ++ core ++ after

theorem trim_of_paddedFrom {core cs : List Char} (h : PaddedFrom core cs) :
    trim cs = trim core := by
  obtain ⟨before, after, hbefore, hafter, rfl⟩ := h
  rw [trim_of_blanksBehind ⟨after, hafter, rfl⟩, trim, trim, Text.trimWhere, Text.trimWhere,
    List.dropWhile_append_of_pos hbefore]

theorem paddedFrom_self (cs : List Char) : PaddedFrom cs cs :=
  ⟨[], [], nofun, nofun, (List.append_nil cs).symm⟩

/-- The lines are one text with some blanks around it and with others. -/
def SameButBlanks (line line' : String) : Prop :=
  ∃ core, PaddedFrom core line.toList ∧ PaddedFrom core line'.toList

namespace SameButBlanks

variable {line line' : String}

theorem trim_eq (h : SameButBlanks line line') : trim line.toList = trim line'.toList := by
  obtain ⟨core, hline, hline'⟩ := h
  rw [trim_of_paddedFrom hline, trim_of_paddedFrom hline']

theorem ofLine?_eq (h : SameButBlanks line line') :
    Directive.ofLine? line = Directive.ofLine? line' := by
  rw [Directive.ofLine?, Directive.ofLine?, ← Directive.ofChars?_trim, h.trim_eq,
    Directive.ofChars?_trim]

theorem isFence_eq (h : SameButBlanks line line') : isFence line = isFence line' := by
  have hword {word : List Char} (hword : ∀ c ∈ word, isBlank c = false) :
      word.isPrefixOf (trimLeft line.toList) = word.isPrefixOf (trimLeft line'.toList) := by
    rw [(trim_blanksBehind _).isPrefixOf hword, h.trim_eq,
      ← (trim_blanksBehind _).isPrefixOf hword]
  rw [isFence, isFence, hword (without_blanks (by decide)), hword (without_blanks (by decide))]

end SameButBlanks

/-- The text with a carriage return at the end of every line but the last. -/
def withReturns (text : String) : String :=
  String.ofList (text.toList.flatMap fun c => if c = '\n' then ['\r', '\n'] else [c])

theorem blanksBehind_pieces (cs : List Char) :
    List.Forall₂ BlanksBehind (Text.pieces '\n' cs)
      (Text.pieces '\n' (cs.flatMap fun c => if c = '\n' then ['\r', '\n'] else [c])) := by
  induction cs with
  | nil => exact .cons (.refl []) .nil
  | cons c cs ih =>
    rw [List.flatMap_cons]
    by_cases hend : c = '\n'
    · rw [if_pos hend, hend, Text.pieces_cons_self]
      change List.Forall₂ _ _ (Text.pieces '\n' (['\r'] ++ '\n' :: _))
      rw [Text.pieces_append (by decide)]
      exact .cons ⟨['\r'], List.all_eq_true.1 (by decide), rfl⟩ ih
    · rw [if_neg hend]
      generalize hpieces : Text.pieces '\n' cs = pieces at ih
      generalize hpieces' : Text.pieces '\n' (cs.flatMap _) = pieces' at ih
      cases ih with
      | nil => exact absurd hpieces (Text.pieces_ne_nil _ _)
      | cons hpiece hothers =>
        rw [List.singleton_append, Text.pieces_cons_of_ne hend hpieces,
          Text.pieces_cons_of_ne hend hpieces']
        exact .cons (hpiece.cons c) hothers

theorem sameButBlanks_lines_withReturns (text : String) :
    List.Forall₂ SameButBlanks (Text.lines text) (Text.lines (withReturns text)) := by
  rw [Text.lines, Text.lines, Text.splitAt, Text.splitAt, withReturns, String.toList_ofList,
    List.forall₂_map_left_iff, List.forall₂_map_right_iff]
  refine (blanksBehind_pieces text.toList).imp fun piece piece' hpiece => ?_
  obtain ⟨after, hafter, rfl⟩ := hpiece
  rw [SameButBlanks, String.toList_ofList, String.toList_ofList]
  have hbefore : ∀ c ∈ [], isBlank c = true := by simp
  exact ⟨piece, paddedFrom_self piece, [], after, hbefore, hafter, rfl⟩

end CondDoc
