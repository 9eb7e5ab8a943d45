import CondDoc.Proofs.Outcome
import CondDoc.Proofs.Text.Spelling
import CondDoc.Token.Lexer
import Mathlib.Data.List.TakeWhile

namespace CondDoc

/-- Operators are written by their names. -/
def TokenKind.isOperator : TokenKind → Bool
  | .identifier | .string | .number | .boolean => false
  | .equals | .notEquals | .and | .or | .not | .leftParen | .rightParen | .comma | .leftBracket
  | .rightBracket | .dot => true

namespace Token

/-- A truth value in any spelling by case. -/
def IsTruth (cs : List Char) : Prop :=
  cs.map Char.toLower = ['t', 'r', 'u', 'e'] ∨ cs.map Char.toLower = ['f', 'a', 'l', 's', 'e']

/-- At least one digit, and nothing but digits. -/
def IsDigits (cs : List Char) : Prop := cs ≠ [] ∧ ∀ c ∈ cs, c.isDigit = true

/-- Tokens that a text can hold: names, numbers, truth values, texts without one of the two quotes,
and operators. -/
inductive Canonical : Token → Prop where
  | name {first : Char} {others : List Char} :
      isWordStart first = true → (∀ c ∈ others, isWordChar c = true) → ¬ IsTruth (first :: others) →
        Canonical ⟨.identifier, String.ofList (first :: others)⟩
  | number {sign whole point : List Char} :
      sign = [] ∨ sign = ['-'] → IsDigits whole →
        point = [] ∨ (∃ fraction, IsDigits fraction ∧ point = '.' :: fraction) →
        Canonical ⟨.number, String.ofList (sign ++ whole ++ point)⟩
  | boolean {text : String} : text = "true" ∨ text = "false" → Canonical ⟨.boolean, text⟩
  | string {text : String} :
      '\x27' ∉ text.toList ∨ '\x22' ∉ text.toList → Canonical ⟨.string, text⟩
  | operator {kind : TokenKind} : kind.isOperator = true → Canonical (operator kind)

/-- The ways to write a token: a text between two quotes of a sort that is not in it, a truth value in
any spelling by case, and anything else as it is. -/
inductive Spelled : Token → List Char → Prop where
  | quoted {quote : Char} {text : String} :
      quote = '\x27' ∨ quote = '\x22' → quote ∉ text.toList →
        Spelled ⟨.string, text⟩ (quote :: (text.toList ++ [quote]))
  | truth {text : String} {word : List Char} :
      word.map Char.toLower = text.toList → Spelled ⟨.boolean, text⟩ word
  | plain {kind : TokenKind} {text : String} :
      kind ≠ .string → kind ≠ .boolean → Spelled ⟨kind, text⟩ text.toList

/-- Tokens in order, with nothing but blanks before, between and behind them. -/
inductive Written : List Token → List Char → Prop where
  | nil {blanks : List Char} : (∀ c ∈ blanks, Text.isBlank c = true) → Written [] blanks
  | cons {blanks spelling rest : List Char} {token : Token} {tokens : List Token} :
      (∀ c ∈ blanks, Text.isBlank c = true) → Spelled token spelling → Written tokens rest →
        Written (token :: tokens) (blanks ++ spelling ++ rest)

theorem Written.behind_blank {tokens : List Token} {cs : List Char} {c : Char}
    (h : Written tokens cs) (hblank : Text.isBlank c = true) : Written tokens (c :: cs) := by
  cases h with
  | nil hblanks => exact .nil (List.forall_mem_cons.2 ⟨hblank, hblanks⟩)
  | cons hblanks hspelled hrest =>
    exact .cons (List.forall_mem_cons.2 ⟨hblank, hblanks⟩) hspelled hrest

theorem spelled_operator {kind : TokenKind} (h : kind.isOperator = true) :
    Spelled (operator kind) kind.name.toList := by
  apply Spelled.plain
  · rintro rfl
    cases h
  · rintro rfl
    cases h

/-- Every token that a text can hold can be written. -/
theorem exists_spelled {token : Token} (h : token.Canonical) :
    ∃ spelling, Spelled token spelling := by
  cases h with
  | name _ _ _ => exact ⟨_, .plain (by decide) (by decide)⟩
  | number _ _ _ => exact ⟨_, .plain (by decide) (by decide)⟩
  | @boolean text h =>
    refine ⟨text.toList, .truth ?_⟩
    rcases h with rfl | rfl
    · rfl
    · rfl
  | string h =>
    rcases h with h | h
    · exact ⟨_, .quoted (.inl rfl) h⟩
    · exact ⟨_, .quoted (.inr rfl) h⟩
  | operator h => exact ⟨_, spelled_operator h⟩

theorem isCommonLetter_of_mem {text : String} (h : text = "true" ∨ text = "false") :
    ∀ x ∈ text.toList, Text.isCommonLetter x = true := by
  rcases h with rfl | rfl
  · exact List.all_eq_true.1 rfl
  · exact List.all_eq_true.1 rfl

/-- A word is lowered to a truth value only if it is one in some spelling of ASCII. -/
theorem lower_eq_iff_isTruth (word : String) :
    (Text.lower word = "true" ∨ Text.lower word = "false") ↔ IsTruth word.toList := by
  have htrue : Text.lower word = "true" ↔ word.toList.map Char.toLower = "true".toList :=
    Text.lower_eq_iff (isCommonLetter_of_mem (.inl rfl))
  have hfalse : Text.lower word = "false" ↔ word.toList.map Char.toLower = "false".toList :=
    Text.lower_eq_iff (isCommonLetter_of_mem (.inr rfl))
  rw [htrue, hfalse]
  rfl

theorem takeWhile_dropWhile_append {p : Char → Bool} {word rest : List Char}
    (hword : ∀ c ∈ word, p c = true) (hstop : rest.takeWhile p = []) :
    (word ++ rest).takeWhile p = word ∧ (word ++ rest).dropWhile p = rest := by
  have htake : (word ++ rest).takeWhile p = word := by
    rw [List.takeWhile_append_of_pos hword, hstop, List.append_nil]
  refine ⟨htake, ?_⟩
  have hsplit := (word ++ rest).takeWhile_append_dropWhile (p := p)
  rw [htake] at hsplit
  exact List.append_cancel_left hsplit

theorem of_operator? {cs : List Char} {step : Step Char Token cs.length}
    (h : operator? cs = some step) :
    ∃ kind : TokenKind, kind.isOperator = true ∧ step.value = operator kind ∧
      cs = kind.name.toList ++ step.rest := by
  unfold operator? at h
  split at h
  all_goals cases h
  all_goals exact ⟨_, rfl, rfl, rfl⟩

/-- A text is what stands before a character in it, this character, and what stands behind it. -/
theorem eq_takeWhile_append {quote : Char} {cs : List Char} (h : quote ∈ cs) :
    cs = cs.takeWhile (· != quote) ++ quote :: (cs.dropWhile (· != quote)).tail := by
  induction cs with
  | nil => cases h
  | cons c cs ih =>
    by_cases hc : c = quote
    · simp [hc]
    · have hmem : quote ∈ cs := List.mem_of_ne_of_mem (Ne.symm hc) h
      have hkept : (c != quote) = true := bne_iff_ne.2 hc
      simp only [List.takeWhile_cons, List.dropWhile_cons, hkept, if_true, List.cons_append]
      exact congrArg (List.cons c) (ih hmem)

theorem of_quotedText? {quote : Char} {cs : List Char} {step : Step Char Token cs.length}
    (h : quotedText? quote cs = some step) :
    ∃ text : String, quote ∉ text.toList ∧ step.value = ⟨.string, text⟩ ∧
      cs = text.toList ++ quote :: step.rest := by
  unfold quotedText? at h
  split at h
  · next hmem =>
    cases h
    refine ⟨String.ofList (cs.takeWhile (· != quote)), ?_, rfl, ?_⟩
    · rw [String.toList_ofList]
      intro hquote
      have hne := List.mem_takeWhile_imp hquote
      simp at hne
    · rw [String.toList_ofList]
      exact eq_takeWhile_append hmem
  · cases h

/-- The fraction of a number as it is written. -/
def pointed (fraction : List Char) : List Char := if fraction = [] then [] else '.' :: fraction

theorem of_fraction (cs : List Char) :
    cs = pointed (Number.fraction cs).value ++ (Number.fraction cs).rest ∧
      ((Number.fraction cs).value = [] ∨ IsDigits (Number.fraction cs).value) := by
  unfold Number.fraction
  split
  · next c rest =>
    split
    · next hdigit =>
      refine ⟨?_, .inr ⟨List.cons_ne_nil _ _, ?_⟩⟩
      · simp [pointed, Number.digitRun, List.takeWhile_append_dropWhile]
      · exact List.forall_mem_cons.2 ⟨hdigit, fun d hd => List.mem_takeWhile_imp hd⟩
    · exact ⟨rfl, .inl rfl⟩
  · exact ⟨rfl, .inl rfl⟩

theorem fraction_of_head?_ne {cs : List Char} (h : cs.head? ≠ some '.') :
    Number.fraction cs = .skip [] cs := by
  unfold Number.fraction
  split
  · exact absurd rfl h
  · rfl

/-- Behind a point stand the digits that follow, or it does not belong to a number. -/
theorem fraction_point (cs : List Char) :
    (Number.fraction ('.' :: cs)).value = cs.takeWhile Char.isDigit ∧
      (Number.fraction ('.' :: cs)).rest =
        if cs.takeWhile Char.isDigit = [] then '.' :: cs else cs.dropWhile Char.isDigit := by
  cases cs with
  | nil => exact ⟨rfl, rfl⟩
  | cons c cs =>
    by_cases hc : c.isDigit = true <;> simp [Number.fraction, Number.digitRun, Step.skip, hc]

theorem value_numberAfter (first : Char) (cs : List Char) :
    (numberAfter first cs).value =
      ⟨.number, String.ofList (first :: cs.takeWhile Char.isDigit ++
        pointed (Number.fraction (cs.dropWhile Char.isDigit)).value)⟩ := rfl

theorem rest_numberAfter (first : Char) (cs : List Char) :
    (numberAfter first cs).rest = (Number.fraction (cs.dropWhile Char.isDigit)).rest := rfl

theorem of_numberAfter (first : Char) (cs : List Char) :
    ∃ point : List Char, (point = [] ∨ ∃ fraction, IsDigits fraction ∧ point = '.' :: fraction) ∧
      (numberAfter first cs).value =
        ⟨.number, String.ofList (first :: cs.takeWhile Char.isDigit ++ point)⟩ ∧
      cs = cs.takeWhile Char.isDigit ++ point ++ (numberAfter first cs).rest := by
  obtain ⟨hsplit, hdigits⟩ := of_fraction (cs.dropWhile Char.isDigit)
  refine ⟨pointed (Number.fraction (cs.dropWhile Char.isDigit)).value, ?_,
    value_numberAfter first cs, ?_⟩
  · rcases hdigits with hnone | hsome
    · exact .inl (if_pos hnone)
    · exact .inr ⟨_, hsome, if_neg hsome.1⟩
  · rw [List.append_assoc, rest_numberAfter, ← hsplit, List.takeWhile_append_dropWhile]

theorem value_wordAfter (first : Char) (cs : List Char) :
    (wordAfter first cs).value = ofWord (String.ofList (first :: cs.takeWhile isWordChar)) := by
  rw [wordAfter]

theorem of_wordAfter (first : Char) (cs : List Char) :
    ∃ others : List Char, (∀ c ∈ others, isWordChar c = true) ∧
      (wordAfter first cs).value = ofWord (String.ofList (first :: others)) ∧
      cs = others ++ (wordAfter first cs).rest :=
  ⟨cs.takeWhile isWordChar, fun _ hc => List.mem_takeWhile_imp hc, value_wordAfter first cs,
    List.takeWhile_append_dropWhile.symm⟩

theorem ofWord_of_not_isTruth {word : String} (h : ¬ IsTruth word.toList) :
    ofWord word = ⟨.identifier, word⟩ := if_neg fun heq => h ((lower_eq_iff_isTruth word).1 heq)

theorem ofWord_of_map_toLower {word text : String} (htext : text = "true" ∨ text = "false")
    (h : word.toList.map Char.toLower = text.toList) : ofWord word = ⟨.boolean, text⟩ := by
  have hlower : Text.lower word = text :=
    (Text.lower_eq_iff (isCommonLetter_of_mem htext)).2 h
  rw [ofWord, hlower]
  exact if_pos htext

theorem exists_truth_of_isTruth {cs : List Char} (h : IsTruth cs) :
    ∃ text : String, (text = "true" ∨ text = "false") ∧ cs.map Char.toLower = text.toList := by
  rcases h with h | h
  · exact ⟨"true", .inl rfl, h⟩
  · exact ⟨"false", .inr rfl, h⟩

end Token

end CondDoc
