import CondDoc.Proofs.Text.Classes
import CondDoc.Proofs.Token.Spelling
import Mathlib.Data.List.Forall2

namespace CondDoc.Token

theorem of_numberAfter_of_beginsNumber {c : Char} {rest : List Char}
    (h : beginsNumber c rest = true) :
    (numberAfter c rest).value.Canonical ∧
      ∃ spelling, Spelled (numberAfter c rest).value spelling ∧
        c :: rest = spelling ++ (numberAfter c rest).rest := by
  obtain ⟨point, hpoint, hvalue, hsplit⟩ := of_numberAfter c rest
  have hrun : ∀ d ∈ rest.takeWhile Char.isDigit, d.isDigit = true :=
    fun d hd => List.mem_takeWhile_imp hd
  rw [hvalue]
  refine ⟨?_, _, .plain (by decide) (by decide), ?_⟩
  · rw [beginsNumber, Bool.or_eq_true, Bool.and_eq_true, beq_iff_eq] at h
    rcases h with hdigit | ⟨rfl, hnext⟩
    · exact @Canonical.number [] _ _ (.inl rfl)
        ⟨List.cons_ne_nil c _, List.forall_mem_cons.2 ⟨hdigit, hrun⟩⟩ hpoint
    · refine @Canonical.number ['-'] _ _ (.inr rfl) ⟨?_, hrun⟩ hpoint
      cases rest with
      | nil => cases hnext
      | cons d rest =>
        have hdigit : d.isDigit = true := hnext
        rw [List.takeWhile_cons, if_pos hdigit]
        exact List.cons_ne_nil _ _
  · rw [String.toList_ofList, List.cons_append, List.cons_append, ← hsplit]

theorem of_wordAfter_of_isWordStart {c : Char} {rest : List Char} (h : isWordStart c = true) :
    (wordAfter c rest).value.Canonical ∧
      ∃ spelling, Spelled (wordAfter c rest).value spelling ∧
        c :: rest = spelling ++ (wordAfter c rest).rest := by
  obtain ⟨others, hothers, hvalue, hsplit⟩ := of_wordAfter c rest
  rw [hvalue]
  by_cases htruth : IsTruth (c :: others)
  · obtain ⟨text, htext, hword⟩ := exists_truth_of_isTruth htruth
    rw [ofWord_of_map_toLower htext (by rw [String.toList_ofList, hword])]
    exact ⟨.boolean htext, c :: others, .truth hword, congrArg (List.cons c) hsplit⟩
  · rw [ofWord_of_not_isTruth (by rwa [String.toList_ofList])]
    refine ⟨.name h hothers htruth, _, .plain (by decide) (by decide), ?_⟩
    rw [String.toList_ofList]
    exact congrArg (List.cons c) hsplit

/-- What is read from the front of a text is a token in one of its spellings. -/
theorem of_next {column : Nat} {c : Char} {rest : List Char}
    {step : Step Char Token (rest.length + 1)} (h : next column c rest = .ok step) :
    step.value.Canonical ∧
      ∃ spelling, Spelled step.value spelling ∧ c :: rest = spelling ++ step.rest := by
  unfold next at h
  split at h
  · next found hfound =>
    cases h
    obtain ⟨kind, hkind, hvalue, hsplit⟩ := of_operator? hfound
    rw [hvalue]
    exact ⟨.operator hkind, _, spelled_operator hkind, hsplit⟩
  split at h
  · next hquote =>
    split at h
    · next found hfound =>
      cases h
      obtain ⟨text, htext, hvalue, hsplit⟩ := of_quotedText? hfound
      rw [Step.value_widen, Step.rest_widen, hvalue]
      refine ⟨.string ?_, _, .quoted hquote htext, ?_⟩
      · rcases hquote with rfl | rfl
        · exact .inl htext
        · exact .inr htext
      · rw [List.cons_append, List.append_assoc, List.singleton_append, ← hsplit]
    · cases h
  split at h
  · next hnumber =>
    obtain rfl := Except.ok.inj h
    exact of_numberAfter_of_beginsNumber hnumber
  split at h
  · next hword =>
    obtain rfl := Except.ok.inj h
    exact of_wordAfter_of_isWordStart hword
  · cases h

theorem listFrom_nil (column : Nat) : listFrom column [] = .ok [] := by
  rw [listFrom]

theorem listFrom_of_isBlank {c : Char} (h : Text.isBlank c = true) (column : Nat)
    (rest : List Char) : listFrom column (c :: rest) = listFrom (column + 1) rest := by
  rw [listFrom, if_pos h]

theorem listFrom_of_not_isBlank {c : Char} (h : Text.isBlank c = false) (column : Nat)
    (rest : List Char) :
    listFrom column (c :: rest) = next column c rest >>= fun step =>
      (listFrom (column + (rest.length + 1 - step.rest.length)) step.rest).map (step.value :: ·) := by
  rw [listFrom, if_neg (ne_true_of_eq_false h)]
  rfl

/-- The tokens of a text are written in it, and each is one that a text can hold. -/
theorem of_listFrom (column : Nat) (cs : List Char) {tokens : List Token}
    (h : listFrom column cs = .ok tokens) :
    (∀ token ∈ tokens, token.Canonical) ∧ Written tokens cs := by
  match cs with
  | [] =>
    rw [listFrom_nil] at h
    cases h
    exact ⟨fun token hmem => absurd hmem List.not_mem_nil,
      .nil fun c hmem => absurd hmem List.not_mem_nil⟩
  | c :: rest =>
    cases hblank : Text.isBlank c with
    | true =>
      rw [listFrom_of_isBlank hblank] at h
      obtain ⟨hcanonical, hwritten⟩ := of_listFrom (column + 1) rest h
      exact ⟨hcanonical, hwritten.behind_blank hblank⟩
    | false =>
      rw [listFrom_of_not_isBlank hblank] at h
      obtain ⟨step, hstep, h⟩ := bind_eq_ok_iff.1 h
      obtain ⟨others, hothers, rfl⟩ := map_eq_ok_iff.1 h
      have hshort := step.shorter
      obtain ⟨hcanonical, hwritten⟩ := of_listFrom _ step.rest hothers
      obtain ⟨hfirst, spelling, hspelled, hsplit⟩ := of_next hstep
      refine ⟨List.forall_mem_cons.2 ⟨hfirst, hcanonical⟩, ?_⟩
      rw [hsplit]
      exact @Written.cons [] _ _ _ _ (fun c hmem => absurd hmem List.not_mem_nil) hspelled hwritten
termination_by cs.length

/-- Nothing follows, or a blank does. -/
def Detached (rest : List Char) : Prop := ∀ c ∈ rest.head?, Text.isBlank c = true

theorem takeWhile_eq_nil_of_detached {p : Char → Bool} {rest : List Char} (hrest : Detached rest)
    (hp : ∀ c, Text.isBlank c = true → p c = false) : rest.takeWhile p = [] := by
  cases rest with
  | nil => rfl
  | cons c rest => rw [List.takeWhile_cons, hp c (hrest c rfl), if_neg Bool.false_ne_true]

theorem head?_ne_of_detached {c : Char} {rest : List Char} (hrest : Detached rest)
    (hc : Text.isBlank c = false) : rest.head? ≠ some c := by
  intro hhead
  have hblank := hrest c hhead
  rw [hc] at hblank
  cases hblank

theorem isWordChar_eq_false_of_isBlank {c : Char} (h : Text.isBlank c = true) :
    isWordChar c = false := by
  rw [isWordChar, Text.isLetter_eq_false_of_isBlank h, Text.isNumeral_eq_false_of_isBlank h,
    Bool.false_or, Bool.false_or, beq_eq_false_iff_ne]
  rintro rfl
  exact absurd h (by decide)

/-- The characters that an operator begins with. -/
def operatorStarts : List Char := ['=', '!', '&', '|', '(', ')', ',', '[', ']', '.']

theorem operator?_eq_none {c : Char} (h : c ∉ operatorStarts) (rest : List Char) :
    operator? (c :: rest) = none := by
  cases hread : operator? (c :: rest) with
  | none => rfl
  | some step =>
    obtain ⟨kind, hkind, -, hsplit⟩ := of_operator? hread
    have hname : ∃ d ∈ operatorStarts, ∃ ds, kind.name.toList = d :: ds := by
      cases kind with
      | identifier | string | number | boolean => cases hkind
      | _ => exact ⟨_, by decide, _, rfl⟩
    obtain ⟨d, hd, ds, hname⟩ := hname
    rw [hname, List.cons_append] at hsplit
    rw [(List.cons.inj hsplit).1] at h
    exact absurd hd h

theorem next_of_operator? {c : Char} {rest : List Char} {step : Step Char Token (rest.length + 1)}
    (h : operator? (c :: rest) = some step) (column : Nat) : next column c rest = .ok step := by
  rw [next, h]

theorem next_of_quotedText? {quote : Char} {rest : List Char} {step : Step Char Token rest.length}
    (hquote : quote = '\x27' ∨ quote = '\x22') (h : quotedText? quote rest = some step)
    (column : Nat) : next column quote rest = .ok (step.widen (Nat.le_succ _)) := by
  have hmark : quote ∉ operatorStarts := by
    rcases hquote with rfl | rfl
    · decide
    · decide
  rw [next, operator?_eq_none hmark]
  simp only [if_pos hquote, h]

/-- A character that begins neither an operator nor a quoted text begins a number or a word. -/
theorem next_of_not_mem {c : Char} (h : c ∉ operatorStarts ++ ['\x27', '\x22']) (column : Nat)
    (rest : List Char) :
    next column c rest =
      if beginsNumber c rest then .ok (numberAfter c rest)
      else if isWordStart c then .ok (wordAfter c rest)
      else .error (.unexpectedCharacter c column) := by
  rw [List.mem_append, not_or, List.mem_cons, List.mem_singleton] at h
  obtain ⟨hoperator, hquote⟩ := h
  rw [next, operator?_eq_none hoperator]
  simp only [if_neg hquote]

theorem not_mem_of_test {test : Char → Bool} {marks : List Char}
    (hmarks : marks.all (fun mark => !test mark) = true) {c : Char} (h : test c = true) :
    c ∉ marks := by
  intro hmem
  have hfails := List.all_eq_true.1 hmarks c hmem
  rw [h] at hfails
  cases hfails

theorem not_mem_of_isWordStart {c : Char} (h : isWordStart c = true) :
    c ∉ operatorStarts ++ ['\x27', '\x22'] := not_mem_of_test (by decide +kernel) h

theorem not_mem_of_isDigit {c : Char} (h : c.isDigit = true) :
    c ∉ operatorStarts ++ ['\x27', '\x22'] := not_mem_of_test (by decide) h

theorem isDigit_eq_false_of_isWordStart {c : Char} (h : isWordStart c = true) :
    c.isDigit = false := by
  rw [isWordStart, Bool.or_eq_true, beq_iff_eq] at h
  rcases h with hletter | rfl
  · exact Text.isDigit_eq_false_of_isLetter hletter
  · rfl

theorem isBlank_eq_false_of_isWordStart {c : Char} (h : isWordStart c = true) :
    Text.isBlank c = false := by
  refine eq_false_of_ne_true fun hblank => ?_
  rw [isWordStart, Text.isLetter_eq_false_of_isBlank hblank, Bool.false_or, beq_iff_eq] at h
  subst h
  exact absurd hblank (by decide)

/-- In front of a blank or of the end, the text is read as the token, and nothing behind it is. -/
def ReadAs (token : Token) (spelling : List Char) : Prop :=
  ∃ c cs, spelling = c :: cs ∧ Text.isBlank c = false ∧
    ∀ column rest, Detached rest →
      ∃ step, next column c (cs ++ rest) = .ok step ∧ step.value = token ∧ step.rest = rest

theorem listFrom_of_readAs {token : Token} {spelling rest : List Char}
    (h : ReadAs token spelling) (hrest : Detached rest) (column : Nat) :
    ∃ behind, listFrom column (spelling ++ rest) = (listFrom behind rest).map (token :: ·) := by
  obtain ⟨c, cs, rfl, hblank, hread⟩ := h
  obtain ⟨step, hstep, hvalue, hbehind⟩ := hread column rest hrest
  rw [List.cons_append, listFrom_of_not_isBlank hblank, hstep, ok_bind, hvalue, hbehind]
  exact ⟨_, rfl⟩

/-- An operator is read from its own characters; only a negation looks at the next one. -/
theorem operator?_append {kind : TokenKind} (hkind : kind.isOperator = true) {rest : List Char}
    (hrest : kind = .not → rest.head? ≠ some '=') :
    ∃ step, operator? (kind.name.toList ++ rest) = some step ∧
      step.value = operator kind ∧ step.rest = rest := by
  cases kind with
  | identifier | string | number | boolean => cases hkind
  | not =>
    cases rest with
    | nil => exact ⟨_, rfl, rfl, rfl⟩
    | cons c rest =>
      have hc : c ≠ '=' := fun heq => hrest rfl (congrArg some heq)
      have hread : operator? ('!' :: c :: rest) = some (.one (operator .not) (c :: rest)) := by
        simp [operator?, hc]
      exact ⟨_, hread, rfl, rfl⟩
  | _ => exact ⟨_, rfl, rfl, rfl⟩

theorem readAs_operator {kind : TokenKind} (hkind : kind.isOperator = true) :
    ReadAs (operator kind) kind.name.toList := by
  have hname : ∃ c cs, kind.name.toList = c :: cs ∧ Text.isBlank c = false := by
    cases kind with
    | identifier | string | number | boolean => cases hkind
    | _ => exact ⟨_, _, rfl, by decide⟩
  obtain ⟨c, cs, hname, hblank⟩ := hname
  refine ⟨c, cs, hname, hblank, fun column rest hrest => ?_⟩
  -- An equals sign would make another operator of a negation, but is not blank.
  have hnext : rest.head? ≠ some '=' := head?_ne_of_detached hrest (by decide)
  have hread := operator?_append hkind fun _ => hnext
  rw [hname] at hread
  obtain ⟨step, hread, hvalue, hbehind⟩ := hread
  exact ⟨step, next_of_operator? hread column, hvalue, hbehind⟩

theorem quotedText?_append {quote : Char} {text : List Char} (h : quote ∉ text)
    (rest : List Char) :
    ∃ step, quotedText? quote (text ++ quote :: rest) = some step ∧
      step.value = ⟨.string, String.ofList text⟩ ∧ step.rest = rest := by
  have hmem : quote ∈ text ++ quote :: rest :=
    List.mem_append_right text List.mem_cons_self
  have hstop : (quote :: rest).takeWhile (· != quote) = [] := by
    rw [List.takeWhile_cons, bne_self_eq_false, if_neg Bool.false_ne_true]
  have hall : ∀ c ∈ text, (c != quote) = true := by
    intro c hc
    exact bne_iff_ne.2 fun heq => h (heq ▸ hc)
  obtain ⟨htake, hdrop⟩ := takeWhile_dropWhile_append hall hstop
  refine ⟨_, dif_pos hmem, ?_, ?_⟩
  · change Token.mk .string (String.ofList ((text ++ quote :: rest).takeWhile (· != quote))) = _
    rw [htake]
  · change ((text ++ quote :: rest).dropWhile (· != quote)).tail = rest
    rw [hdrop, List.tail_cons]

theorem readAs_string {quote : Char} {text : String} (hquote : quote = '\x27' ∨ quote = '\x22')
    (h : quote ∉ text.toList) : ReadAs ⟨.string, text⟩ (quote :: (text.toList ++ [quote])) := by
  have hblank : Text.isBlank quote = false := by
    rcases hquote with rfl | rfl
    · decide
    · decide
  refine ⟨quote, _, rfl, hblank, fun column rest _ => ?_⟩
  obtain ⟨step, hstep, hvalue, hbehind⟩ := quotedText?_append h rest
  rw [String.ofList_toList] at hvalue
  rw [List.append_assoc, List.singleton_append]
  exact ⟨_, next_of_quotedText? hquote hstep column, hvalue, hbehind⟩

theorem fraction_append {point rest : List Char}
    (hpoint : point = [] ∨ ∃ fraction, IsDigits fraction ∧ point = '.' :: fraction)
    (hrest : Detached rest) :
    pointed (Number.fraction (point ++ rest)).value = point ∧
      (Number.fraction (point ++ rest)).rest = rest := by
  rcases hpoint with rfl | ⟨fraction, ⟨hsome, hdigits⟩, rfl⟩
  · rw [List.nil_append, fraction_of_head?_ne (head?_ne_of_detached hrest (by decide))]
    exact ⟨rfl, rfl⟩
  · obtain ⟨htake, hdrop⟩ := takeWhile_dropWhile_append hdigits
      (takeWhile_eq_nil_of_detached hrest fun c => Text.isDigit_eq_false_of_isBlank)
    obtain ⟨hvalue, hbehind⟩ := fraction_point (fraction ++ rest)
    rw [htake] at hvalue hbehind
    rw [List.cons_append]
    constructor
    · rw [hvalue, pointed, if_neg hsome]
    · rw [hbehind, if_neg hsome, hdrop]

theorem numberAfter_append {digits point rest : List Char} (hdigits : ∀ c ∈ digits, c.isDigit = true)
    (hpoint : point = [] ∨ ∃ fraction, IsDigits fraction ∧ point = '.' :: fraction)
    (hrest : Detached rest) (first : Char) :
    (numberAfter first (digits ++ point ++ rest)).value =
        ⟨.number, String.ofList (first :: digits ++ point)⟩ ∧
      (numberAfter first (digits ++ point ++ rest)).rest = rest := by
  have hstop : (point ++ rest).takeWhile Char.isDigit = [] := by
    rcases hpoint with rfl | ⟨fraction, -, rfl⟩
    · exact takeWhile_eq_nil_of_detached hrest fun c => Text.isDigit_eq_false_of_isBlank
    · rfl
  obtain ⟨htake, hdrop⟩ := takeWhile_dropWhile_append hdigits hstop
  obtain ⟨hvalue, hbehind⟩ := fraction_append hpoint hrest
  rw [List.append_assoc]
  constructor
  · rw [value_numberAfter, htake, hdrop, hvalue]
  · rw [rest_numberAfter, hdrop, hbehind]

theorem readAs_number {sign whole point : List Char} (hsign : sign = [] ∨ sign = ['-'])
    (hwhole : IsDigits whole)
    (hpoint : point = [] ∨ ∃ fraction, IsDigits fraction ∧ point = '.' :: fraction) :
    ReadAs ⟨.number, String.ofList (sign ++ whole ++ point)⟩ (sign ++ whole ++ point) := by
  obtain ⟨hsome, hdigits⟩ := hwhole
  rcases hsign with rfl | rfl
  · obtain ⟨c, digits, rfl⟩ := List.exists_cons_of_ne_nil hsome
    obtain ⟨hc, hdigits⟩ := List.forall_mem_cons.1 hdigits
    refine ⟨c, digits ++ point, rfl, ?_, fun column rest hrest => ?_⟩
    · exact eq_false_of_ne_true fun hblank =>
        absurd hc (ne_true_of_eq_false (Text.isDigit_eq_false_of_isBlank hblank))
    · have hbegins : beginsNumber c (digits ++ point ++ rest) = true := by
        rw [beginsNumber, hc, Bool.true_or]
      rw [next_of_not_mem (not_mem_of_isDigit hc), if_pos hbegins]
      exact ⟨_, rfl, numberAfter_append hdigits hpoint hrest c⟩
  · refine ⟨'-', whole ++ point, rfl, by decide, fun column rest hrest => ?_⟩
    have hbegins : beginsNumber '-' (whole ++ point ++ rest) = true := by
      obtain ⟨c, digits, rfl⟩ := List.exists_cons_of_ne_nil hsome
      exact hdigits c List.mem_cons_self
    rw [next_of_not_mem (by decide), if_pos hbegins]
    exact ⟨_, rfl, numberAfter_append hdigits hpoint hrest '-'⟩

theorem readAs_ofWord {first : Char} {others : List Char} (hfirst : isWordStart first = true)
    (hothers : ∀ c ∈ others, isWordChar c = true) :
    ReadAs (ofWord (String.ofList (first :: others))) (first :: others) := by
  refine ⟨first, others, rfl, isBlank_eq_false_of_isWordStart hfirst, fun column rest hrest => ?_⟩
  obtain ⟨htake, hdrop⟩ := takeWhile_dropWhile_append hothers
    (takeWhile_eq_nil_of_detached hrest fun c => isWordChar_eq_false_of_isBlank)
  have hmarks := not_mem_of_isWordStart hfirst
  have hnumber : ¬ beginsNumber first (others ++ rest) = true := by
    rw [beginsNumber, isDigit_eq_false_of_isWordStart hfirst, Bool.false_or, Bool.and_eq_true,
      beq_iff_eq]
    rintro ⟨rfl, -⟩
    exact absurd hfirst (by decide +kernel)
  rw [next_of_not_mem hmarks, if_neg hnumber, if_pos hfirst]
  refine ⟨_, rfl, ?_, hdrop⟩
  rw [value_wordAfter, htake]

theorem readAs_truth {text : String} {word : List Char} (htext : text = "true" ∨ text = "false")
    (h : word.map Char.toLower = text.toList) : ReadAs ⟨.boolean, text⟩ word := by
  have hletters : ∀ c ∈ word, Text.isLetter c = true := by
    intro c hc
    have hlower : c.toLower ∈ text.toList := h ▸ List.mem_map_of_mem hc
    exact Text.isLetter_of_toLower (isCommonLetter_of_mem htext _ hlower)
  cases word with
  | nil =>
    rcases htext with rfl | rfl
    · cases h
    · cases h
  | cons first others =>
    obtain ⟨hfirst, hothers⟩ := List.forall_mem_cons.1 hletters
    have hread := @readAs_ofWord first others
      (by rw [isWordStart, hfirst, Bool.true_or])
      fun c hc => by rw [isWordChar, hothers c hc, Bool.true_or, Bool.true_or]
    rwa [ofWord_of_map_toLower htext (by rw [String.toList_ofList, h])] at hread

/-- Every token that a text can hold is read back from each of its spellings. -/
theorem readAs_of_spelled {token : Token} {spelling : List Char} (htoken : token.Canonical)
    (h : Spelled token spelling) : ReadAs token spelling := by
  cases htoken with
  | name hfirst hothers htruth =>
    cases h with
    | plain _ _ =>
      have hread := readAs_ofWord hfirst hothers
      rw [ofWord_of_not_isTruth (by rwa [String.toList_ofList])] at hread
      rwa [String.toList_ofList]
  | number hsign hwhole hpoint =>
    cases h with
    | plain _ _ =>
      rw [String.toList_ofList]
      exact readAs_number hsign hwhole hpoint
  | boolean htext =>
    cases h with
    | plain _ hkind => exact absurd rfl hkind
    | truth hword => exact readAs_truth htext hword
  | string _ =>
    cases h with
    | plain hkind _ => exact absurd rfl hkind
    | quoted hquote htext => exact readAs_string hquote htext
  | operator hkind =>
    cases h with
    | plain _ _ => exact readAs_operator hkind
    | quoted _ _ => cases hkind
    | truth _ => cases hkind

theorem detached_nil : Detached [] := fun _ hc => nomatch hc

theorem detached_space (rest : List Char) : Detached (' ' :: rest) := by
  intro c hc
  cases hc
  decide

theorem listFrom_intercalate {tokens : List Token} {spellings : List (List Char)}
    (h : List.Forall₂ ReadAs tokens spellings) (column : Nat) :
    listFrom column ([' '].intercalate spellings) = .ok tokens := by
  induction h generalizing column with
  | nil => exact listFrom_nil column
  | cons hread hothers ih =>
    cases hothers with
    | nil =>
      obtain ⟨behind, hlist⟩ := listFrom_of_readAs hread detached_nil column
      rw [List.append_nil, listFrom_nil] at hlist
      rw [List.intercalate_singleton, hlist]
      rfl
    | cons hnext hmore =>
      rw [List.intercalate_cons_cons, List.append_assoc, List.singleton_append]
      obtain ⟨behind, hlist⟩ := listFrom_of_readAs hread (detached_space _) column
      rw [hlist, listFrom_of_isBlank (by decide), ih]
      rfl

/-- What is read from a text is written in it, in order and with nothing but blanks around it. What
is written with single blanks between is read back, whichever of its spellings each token has, and
each token that a text can hold has one. -/
theorem list_written_and_read_back :
    (∀ (text : String) (tokens : List Token), list text = .ok tokens →
      (∀ token ∈ tokens, token.Canonical) ∧ Written tokens text.toList) ∧
    (∀ (tokens : List Token) (spellings : List (List Char)), (∀ token ∈ tokens, token.Canonical) →
      List.Forall₂ Spelled tokens spellings →
        list (String.ofList ([' '].intercalate spellings)) = .ok tokens) ∧
    ∀ token : Token, token.Canonical → ∃ spelling, Spelled token spelling := by
  refine ⟨fun text tokens h => of_listFrom 1 text.toList h, ?_, fun token => exists_spelled⟩
  intro tokens spellings hcanonical hspelled
  have hread : List.Forall₂ ReadAs tokens spellings :=
    ((List.forall₂_and_left tokens spellings).2 ⟨hcanonical, hspelled⟩).imp
      fun _ _ h => readAs_of_spelled h.1 h.2
  rw [list, String.toList_ofList]
  exact listFrom_intercalate hread 1

theorem list_of_mixed_tokens :
    list "! né == \"it's\" -1.5 TRUE" = .ok [operator .not, ⟨.identifier, "né"⟩, operator .equals,
        ⟨.string, "it's"⟩, ⟨.number, "-1.5"⟩, ⟨.boolean, "true"⟩] ∧
      Written [operator .not, ⟨.identifier, "né"⟩, operator .equals, ⟨.string, "it's"⟩,
        ⟨.number, "-1.5"⟩, ⟨.boolean, "true"⟩] "! né == \"it's\" -1.5 TRUE".toList := by
  have hnot : Canonical (operator .not) := .operator rfl
  have hname : Canonical ⟨.identifier, "né"⟩ :=
    @Canonical.name 'n' ['é'] (by decide +kernel) (List.all_eq_true.1 (by decide +kernel))
      (by unfold IsTruth; decide)
  have hequals : Canonical (operator .equals) := .operator rfl
  have hstring : Canonical ⟨.string, "it's"⟩ := .string (.inr (by decide))
  have hnumber : Canonical ⟨.number, "-1.5"⟩ :=
    @Canonical.number ['-'] ['1'] ['.', '5'] (.inr rfl) ⟨by decide, List.all_eq_true.1 rfl⟩
      (.inr ⟨['5'], ⟨by decide, List.all_eq_true.1 rfl⟩, rfl⟩)
  have hread := list_written_and_read_back.2.1
    [operator .not, ⟨.identifier, "né"⟩, operator .equals, ⟨.string, "it's"⟩, ⟨.number, "-1.5"⟩,
      ⟨.boolean, "true"⟩]
    ["!".toList, "né".toList, "==".toList, "\"it's\"".toList, "-1.5".toList, "TRUE".toList]
    (by simp [hnot, hname, hequals, hstring, hnumber, Canonical.boolean])
    (.cons (spelled_operator rfl) <| .cons (.plain (by decide) (by decide)) <|
      .cons (spelled_operator rfl) <| .cons (@Spelled.quoted '\x22' "it's" (.inr rfl) (by decide)) <|
      .cons (.plain (by decide) (by decide)) <| .cons (.truth (by decide)) .nil)
  exact ⟨hread, (list_written_and_read_back.1 _ _ hread).2⟩

end CondDoc.Token
