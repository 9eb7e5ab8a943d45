import CondDoc.Proofs.Token.Lexer

namespace CondDoc

/-- The same reading with further input behind it. -/
structure Step.Extended {σ α : Type} {bound larger : Nat} (rest : List σ) (step : Step σ α bound)
    (longer : Step σ α larger) : Prop where
  value_eq : longer.value = step.value
  rest_eq : longer.rest = step.rest ++ rest

namespace Token

variable {column : Nat} {c : Char} {cs rest : List Char}

theorem takeWhile_append_of_detached {p : Char → Bool} (hrest : Detached rest)
    (hp : ∀ c, Text.isBlank c = true → p c = false) (cs : List Char) :
    (cs ++ rest).takeWhile p = cs.takeWhile p ∧
      (cs ++ rest).dropWhile p = cs.dropWhile p ++ rest := by
  induction cs with
  | nil => exact takeWhile_dropWhile_append (by simp) (takeWhile_eq_nil_of_detached hrest hp)
  | cons c cs ih => by_cases hc : p c = true <;> simp [hc, ih]

/-- A single mark of negation is not followed by an equals sign. -/
theorem head?_ne_of_operator? {step : Step Char Token cs.length} (h : operator? cs = some step)
    (hnot : step.value = operator .not) : step.rest.head? ≠ some '=' := by
  obtain ⟨kind, -, hkind, hsplit⟩ := of_operator? h
  obtain rfl : kind = .not := congrArg Token.kind (hkind.symm.trans hnot)
  obtain ⟨value, behind, hshort⟩ := step
  change cs = '!' :: behind at hsplit
  subst hsplit
  intro hhead
  -- Together the two characters would have been read as an inequality.
  obtain ⟨others, rfl⟩ := List.head?_eq_some_iff.1 hhead
  cases h

theorem extended_operator? {step : Step Char Token cs.length} (hrest : Detached rest)
    (h : operator? cs = some step) :
    ∃ longer, operator? (cs ++ rest) = some longer ∧ step.Extended rest longer := by
  obtain ⟨kind, hkind, hvalue, hsplit⟩ := of_operator? h
  have hnext : kind = .not → (step.rest ++ rest).head? ≠ some '=' := by
    rintro rfl hhead
    rw [List.head?_append] at hhead
    cases hbehind : step.rest.head? with
    | none =>
      rw [hbehind] at hhead
      exact absurd hhead (head?_ne_of_detached hrest (by decide))
    | some d =>
      rw [hbehind] at hhead
      exact head?_ne_of_operator? h hvalue (hbehind.trans hhead)
  have hread := operator?_append hkind hnext
  rw [← List.append_assoc, ← hsplit] at hread
  obtain ⟨longer, hread, hvalue', hrest'⟩ := hread
  exact ⟨longer, hread, hvalue'.trans hvalue.symm, hrest'⟩

theorem extended_quotedText? {quote : Char} {step : Step Char Token cs.length}
    (h : quotedText? quote cs = some step) (rest : List Char) :
    ∃ longer, quotedText? quote (cs ++ rest) = some longer ∧ step.Extended rest longer := by
  obtain ⟨text, htext, hvalue, hsplit⟩ := of_quotedText? h
  have hread := quotedText?_append htext (step.rest ++ rest)
  rw [← List.cons_append, ← List.append_assoc, ← hsplit, String.ofList_toList] at hread
  obtain ⟨longer, hread, hvalue', hrest'⟩ := hread
  exact ⟨longer, hread, hvalue'.trans hvalue.symm, hrest'⟩

theorem extended_fraction (hrest : Detached rest) (cs : List Char) :
    (Number.fraction cs).Extended rest (Number.fraction (cs ++ rest)) := by
  by_cases hpoint : cs.head? = some '.'
  · obtain ⟨cs, rfl⟩ := List.head?_eq_some_iff.1 hpoint
    obtain ⟨htake, hdrop⟩ :=
      takeWhile_append_of_detached hrest (fun c => Text.isDigit_eq_false_of_isBlank) cs
    obtain ⟨hvalue, hbehind⟩ := fraction_point cs
    obtain ⟨hvalue', hbehind'⟩ := fraction_point (cs ++ rest)
    rw [htake] at hvalue' hbehind'
    refine ⟨hvalue'.trans hvalue.symm, ?_⟩
    rw [List.cons_append, hbehind', hbehind, hdrop]
    split
    · rfl
    · rfl
  · have hlonger : (cs ++ rest).head? ≠ some '.' := by
      cases cs with
      | nil => exact head?_ne_of_detached hrest (by decide)
      | cons c cs => exact hpoint
    rw [fraction_of_head?_ne hpoint, fraction_of_head?_ne hlonger]
    exact ⟨rfl, rfl⟩

theorem extended_numberAfter (hrest : Detached rest) (first : Char) (cs : List Char) :
    (numberAfter first cs).Extended rest (numberAfter first (cs ++ rest)) := by
  obtain ⟨htake, hdrop⟩ :=
    takeWhile_append_of_detached hrest (fun c => Text.isDigit_eq_false_of_isBlank) cs
  obtain ⟨hvalue, hbehind⟩ := extended_fraction hrest (cs.dropWhile Char.isDigit)
  constructor
  · rw [value_numberAfter, value_numberAfter, htake, hdrop, hvalue]
  · rw [rest_numberAfter, rest_numberAfter, hdrop, hbehind]

theorem extended_wordAfter (hrest : Detached rest) (first : Char) (cs : List Char) :
    (wordAfter first cs).Extended rest (wordAfter first (cs ++ rest)) := by
  obtain ⟨htake, hdrop⟩ :=
    takeWhile_append_of_detached hrest (fun c => isWordChar_eq_false_of_isBlank) cs
  refine ⟨?_, hdrop⟩
  rw [value_wordAfter, value_wordAfter, htake]

theorem beginsNumber_append (hrest : Detached rest) (c : Char) (cs : List Char) :
    beginsNumber c (cs ++ rest) = beginsNumber c cs := by
  cases cs with
  | nil =>
    cases rest with
    | nil => rfl
    | cons d rest =>
      have hd : d.isDigit = false := Text.isDigit_eq_false_of_isBlank (hrest d rfl)
      simp [beginsNumber, hd]
  | cons d cs => rfl

theorem not_mem_of_beginsNumber (h : beginsNumber c cs = true) :
    c ∉ operatorStarts ++ ['\x27', '\x22'] := by
  rw [beginsNumber, Bool.or_eq_true, Bool.and_eq_true, beq_iff_eq] at h
  rcases h with hdigit | ⟨rfl, -⟩
  · exact not_mem_of_isDigit hdigit
  · decide

/-- What is read from the front of a text is read from it also when a blank and more follow. -/
theorem extended_next {step : Step Char Token (cs.length + 1)} (hrest : Detached rest)
    (h : next column c cs = .ok step) :
    ∃ longer, next column c (cs ++ rest) = .ok longer ∧ step.Extended rest longer := by
  unfold next at h
  split at h
  · next found hfound =>
    cases h
    obtain ⟨longer, hread, hextended⟩ := extended_operator? hrest hfound
    exact ⟨longer, next_of_operator? hread column, hextended⟩
  split at h
  · next hquote =>
    split at h
    · next found hfound =>
      cases h
      obtain ⟨longer, hread, hvalue, hbehind⟩ := extended_quotedText? hfound rest
      exact ⟨_, next_of_quotedText? hquote hread column, hvalue, hbehind⟩
    · cases h
  split at h
  · next hnumber =>
    obtain rfl := Except.ok.inj h
    rw [next_of_not_mem (not_mem_of_beginsNumber hnumber), beginsNumber_append hrest,
      if_pos hnumber]
    exact ⟨_, rfl, extended_numberAfter hrest c cs⟩
  split at h
  · next hnumber hword =>
    obtain rfl := Except.ok.inj h
    rw [next_of_not_mem (not_mem_of_isWordStart hword), beginsNumber_append hrest,
      if_neg hnumber, if_pos hword]
    exact ⟨_, rfl, extended_wordAfter hrest c cs⟩
  · cases h

theorem listFrom_append (hrest : Detached rest) (column : Nat) (cs : List Char)
    {tokens : List Token} (h : listFrom column cs = .ok tokens) :
    listFrom column (cs ++ rest) = (listFrom (column + cs.length) rest).map (tokens ++ ·) := by
  match cs with
  | [] =>
    rw [listFrom_nil] at h
    cases h
    exact (congrFun Except.map_id (listFrom column rest)).symm
  | c :: cs =>
    rw [List.cons_append, List.length_cons, Nat.add_comm cs.length 1, ← Nat.add_assoc]
    cases hblank : Text.isBlank c with
    | true =>
      rw [listFrom_of_isBlank hblank] at h ⊢
      exact listFrom_append hrest (column + 1) cs h
    | false =>
      rw [listFrom_of_not_isBlank hblank] at h ⊢
      obtain ⟨step, hstep, h⟩ := bind_eq_ok_iff.1 h
      obtain ⟨others, hothers, rfl⟩ := map_eq_ok_iff.1 h
      obtain ⟨longer, hlonger, hvalue, hbehind⟩ := extended_next hrest hstep
      have hshort := step.shorter
      -- As many characters are read as without the rest, so the next token begins in the same column.
      have hread : (cs ++ rest).length + 1 - longer.rest.length =
          cs.length + 1 - step.rest.length := by
        rw [hbehind, List.length_append, List.length_append]
        omega
      have hbehind' : column + (cs.length + 1 - step.rest.length) + step.rest.length =
          column + 1 + cs.length := by omega
      rw [hlonger, ok_bind, hread, hvalue, hbehind, listFrom_append hrest _ step.rest hothers,
        hbehind']
      cases listFrom (column + 1 + cs.length) rest with
      | error cause => rfl
      | ok following => rfl
termination_by cs.length

theorem listFrom_blanks_append {blanks : List Char} (h : ∀ c ∈ blanks, Text.isBlank c = true)
    (column : Nat) (cs : List Char) :
    listFrom column (blanks ++ cs) = listFrom (column + blanks.length) cs := by
  induction blanks generalizing column with
  | nil => rfl
  | cons c blanks ih =>
    obtain ⟨hc, hblanks⟩ := List.forall_mem_cons.1 h
    rw [List.cons_append, listFrom_of_isBlank hc, ih hblanks, List.length_cons,
      Nat.add_comm blanks.length 1, Nat.add_assoc]

/-- The same value, or the same cause this many columns further to the right. -/
inductive Further {α : Type} (columns : Nat) : Except Cause α → Except Cause α → Prop where
  | ok (value : α) : Further columns (.ok value) (.ok value)
  | unexpectedCharacter (c : Char) (column : Nat) :
      Further columns (.error (.unexpectedCharacter c column))
        (.error (.unexpectedCharacter c (column + columns)))
  | unterminatedString (column : Nat) :
      Further columns (.error (.unterminatedString column))
        (.error (.unterminatedString (column + columns)))

namespace Further

variable {α β : Type} {columns : Nat} {first first' : Except Cause α}

theorem bind {next next' : α → Except Cause β} (h : Further columns first first')
    (hnext : ∀ value, Further columns (next value) (next' value)) :
    Further columns (first >>= next) (first' >>= next') := by
  cases h with
  | ok value => exact hnext value
  | unexpectedCharacter c column => exact .unexpectedCharacter c column
  | unterminatedString column => exact .unterminatedString column

theorem map (f : α → β) (h : Further columns first first') :
    Further columns (first.map f) (first'.map f) := by
  cases h with
  | ok value => exact .ok (f value)
  | unexpectedCharacter c column => exact .unexpectedCharacter c column
  | unterminatedString column => exact .unterminatedString column

end Further

theorem further_next (columns column : Nat) (c : Char) (rest : List Char) :
    Further columns (next column c rest) (next (column + columns) c rest) := by
  unfold next
  split
  · exact .ok _
  split
  · split
    · exact .ok _
    · exact .unterminatedString column
  split
  · exact .ok _
  split
  · exact .ok _
  · exact .unexpectedCharacter c column

theorem further_listFrom (columns column : Nat) (cs : List Char) :
    Further columns (listFrom column cs) (listFrom (column + columns) cs) := by
  match cs with
  | [] =>
    rw [listFrom_nil, listFrom_nil]
    exact .ok []
  | c :: rest =>
    cases hblank : Text.isBlank c with
    | true =>
      rw [listFrom_of_isBlank hblank, listFrom_of_isBlank hblank, Nat.add_right_comm]
      exact further_listFrom columns (column + 1) rest
    | false =>
      rw [listFrom_of_not_isBlank hblank, listFrom_of_not_isBlank hblank]
      apply (further_next columns column c rest).bind
      intro step
      have hshort := step.shorter
      rw [Nat.add_right_comm]
      exact (further_listFrom columns _ step.rest).map (step.value :: ·)
termination_by cs.length

/-- Behind a text that is cut into tokens and at least one blank, the tokens of any text follow; if it
cannot be cut, that is for the same cause, so many columns further to the right. -/
theorem list_append_blanks_append {first blanks second : String} {tokens : List Token}
    (hfirst : list first = .ok tokens) (hsome : blanks ≠ "")
    (hblanks : ∀ c ∈ blanks.toList, Text.isBlank c = true) :
    (∀ others, list second = .ok others →
      list (first ++ blanks ++ second) = .ok (tokens ++ others)) ∧
    ∀ cause, list second = .error cause →
      (∃ c column, cause = .unexpectedCharacter c column ∧
        list (first ++ blanks ++ second) =
          .error (.unexpectedCharacter c (column + (first.length + blanks.length)))) ∨
      ∃ column, cause = .unterminatedString column ∧
        list (first ++ blanks ++ second) =
          .error (.unterminatedString (column + (first.length + blanks.length))) := by
  have hdetached : Detached (blanks.toList ++ second.toList) := by
    obtain ⟨c, others, hcs⟩ := List.exists_cons_of_ne_nil (mt String.toList_eq_nil_iff.1 hsome)
    rw [hcs] at hblanks ⊢
    rintro d ⟨⟩
    exact hblanks c List.mem_cons_self
  have hcut : list (first ++ blanks ++ second) =
      (listFrom (1 + (first.length + blanks.length)) second.toList).map (tokens ++ ·) := by
    rw [list, String.toList_append, String.toList_append, List.append_assoc,
      listFrom_append hdetached 1 first.toList hfirst, listFrom_blanks_append hblanks,
      Nat.add_assoc, String.length_toList, String.length_toList]
  have hfurther := further_listFrom (first.length + blanks.length) 1 second.toList
  change Further _ (list second) _ at hfurther
  rw [hcut]
  generalize list second = result at hfurther ⊢
  generalize listFrom (1 + (first.length + blanks.length)) second.toList = behind at hfurther ⊢
  cases hfurther with
  | ok others =>
    refine ⟨fun _ h => ?_, fun _ h => ?_⟩
    · cases h
      rfl
    · cases h
  | unexpectedCharacter c column =>
    refine ⟨fun _ h => ?_, fun _ h => ?_⟩
    · cases h
    · cases h
      exact .inl ⟨c, column, rfl, rfl⟩
  | unterminatedString column =>
    refine ⟨fun _ h => ?_, fun _ h => ?_⟩
    · cases h
    · cases h
      exact .inr ⟨column, rfl, rfl⟩

theorem list_negation_append :
    list "! ==" = .ok [operator .not, operator .equals] ∧
      list "! 'b" = .error (.unterminatedString 3) := by
  have hnot : list "!" = .ok [operator .not] :=
    listFrom_intercalate (.cons (@readAs_operator .not rfl) .nil) 1
  have hequals : list "==" = .ok [operator .equals] :=
    listFrom_intercalate (.cons (@readAs_operator .equals rfl) .nil) 1
  have hquote : list "'b" = .error (.unterminatedString 1) := by
    change listFrom 1 ['\x27', 'b'] = _
    rw [listFrom_of_not_isBlank (by decide)]
    rfl
  have hspace : ∀ c ∈ " ".toList, Text.isBlank c = true := List.all_eq_true.1 rfl
  have hread := (@list_append_blanks_append "!" " " "==" _ hnot (by decide) hspace).1
  have hfail := (@list_append_blanks_append "!" " " "'b" _ hnot (by decide) hspace).2
  refine ⟨hread _ hequals, ?_⟩
  obtain ⟨c, column, hcause, -⟩ | ⟨column, hcause, hlist⟩ := hfail _ hquote
  · cases hcause
  · cases hcause
    exact hlist

end Token

end CondDoc
