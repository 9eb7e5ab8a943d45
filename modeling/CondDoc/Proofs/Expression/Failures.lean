import CondDoc.Proofs.Expression.Reading
import CondDoc.Proofs.Outcome
import CondDoc.Proofs.Token.Lexer
import CondDoc.Proofs.Token.Readable

namespace CondDoc

def Cause.InExpression (cause : Cause) : Prop := cause.failureClass.isExpression = true

theorem Cause.InExpression.failureClass_eq {cause : Cause} (h : cause.InExpression) :
    cause.failureClass = .expression ∨ cause.failureClass = .strictMode := by
  unfold InExpression at h
  cases hclass : cause.failureClass with
  | expression => exact .inl rfl
  | strictMode => exact .inr rfl
  | conditional | directive | number =>
    rw [hclass] at h
    cases h

namespace Expression

variable {context : Context}

theorem yields_lookup (context : Context) (path : String) :
    Yields Cause.InExpression (fun _ => True) (context.lookup path) := by
  unfold Context.lookup
  split
  · exact .ok trivial
  · split
    · exact .error rfl
    · exact .ok trivial

theorem yields_equal (strict caseSensitive : Bool) (v w : Value) :
    Yields Cause.InExpression (fun _ => True) (Value.equal strict caseSensitive v w) := by
  unfold Value.equal
  split
  · exact .ok trivial
  · split
    · exact .error rfl
    · exact .ok trivial

theorem yields_anyEqual (options : Options) (value : Value) (items : List Value) :
    Yields Cause.InExpression (fun _ => True) (Builtin.anyEqual options value items) := by
  induction items with
  | nil => exact .ok trivial
  | cons item items ih =>
    apply (yields_equal _ _ value item).bind
    intro same _ _
    cases same with
    | true => exact .ok trivial
    | false => exact ih

theorem yields_call (context : Context) (name : String) (values : List Value) :
    Yields Cause.InExpression (fun _ => True) (context.call name values) := by
  unfold Context.call Builtin.call
  split
  · unfold Builtin.apply
    split
    case h_4 => exact yields_anyEqual _ _ _
    case h_5 => exact .error rfl
    case h_7 => exact .error rfl
    all_goals exact .ok trivial
  · exact .error rfl

/-- Every number among the tokens denotes one. -/
def AllReadable (tokens : List Token) : Prop := ∀ token ∈ tokens, token.Readable

theorem AllReadable.behind {token : Token} {rest : List Token} (h : AllReadable (token :: rest)) :
    AllReadable rest := (List.forall_mem_cons.1 h).2

theorem AllReadable.tail {tokens : List Token} (h : AllReadable tokens) :
    AllReadable tokens.tail := fun token hmem => h token (List.mem_of_mem_tail hmem)

/-- A reading fails because of the expression, or leaves tokens that can be read. -/
def Tame {α : Type} (result : Except Cause (α × List Token)) : Prop :=
  Yields Cause.InExpression (fun result => AllReadable result.2) result

theorem tame_callWith (name : String) {values : List Value × List Token}
    (h : AllReadable values.2) : Tame (callWith context name values) := by
  apply (yields_call context name values.1).bind
  intro answer _ _
  exact .ok h

theorem tame_elementsFrom (close : TokenKind) (what : Expectation)
    {more : List Token → Except Cause (List Value × List Token)} {first : Value × List Token}
    (h : AllReadable first.2)
    (hmore : ∀ text rest, first.2 = ⟨.comma, text⟩ :: rest → AllReadable rest → Tame (more rest)) :
    Tame (elementsFrom close what more first) := by
  unfold elementsFrom
  split
  · next hcomma =>
    obtain ⟨text, rest, heq⟩ := eq_cons_of_nextKind hcomma
    rw [heq] at h ⊢
    apply (hmore text rest heq h.behind).bind
    intro others _ hothers
    exact .ok hothers
  · split
    · exact .ok h.tail
    · exact .error rfl

theorem tame_moreNames (tokens : List Token) (h : AllReadable tokens) :
    Tame (outcome (moreNames tokens)) := by
  by_cases hdot : nextKind tokens = some .dot
  · obtain ⟨dot, behind, rfl⟩ := eq_cons_of_nextKind hdot
    by_cases hname : nextKind behind = some .identifier
    · obtain ⟨name, after, rfl⟩ := eq_cons_of_nextKind hname
      rw [outcome_moreNames_dot]
      exact (tame_moreNames after h.behind.behind).map fun _ hrest => hrest
    · rw [outcome_moreNames_error hname]
      exact .error rfl
  · rw [outcome_moreNames_stop hdot]
    exact .ok h
termination_by tokens.length

mutual

theorem tame_disjunction (tokens : List Token) (h : AllReadable tokens) :
    Tame (outcome (disjunction context tokens)) := by
  rw [outcome_disjunction]
  apply (tame_conjunction tokens h).bind
  intro first hfirst hrest
  have hshort := outcome_shorter hfirst
  exact tame_disjunctionFrom first.1 first.2 hrest
termination_by (tokens.length, 4)

theorem tame_disjunctionFrom (left : Bool) (tokens : List Token) (h : AllReadable tokens) :
    Tame (outcome (disjunctionFrom context left tokens)) := by
  by_cases hor : nextKind tokens = some .or
  · obtain ⟨text, behind, heq⟩ := eq_cons_of_nextKind hor
    have hbehind := length_lt_of_eq_cons heq
    rw [heq] at h ⊢
    rw [outcome_disjunctionFrom_or]
    apply (tame_conjunction behind h.behind).bind
    intro right hright hrest
    have hshort := outcome_shorter hright
    exact tame_disjunctionFrom _ right.2 hrest
  · rw [outcome_disjunctionFrom_stop left hor]
    exact .ok h
termination_by (tokens.length, 0)

theorem tame_conjunction (tokens : List Token) (h : AllReadable tokens) :
    Tame (outcome (conjunction context tokens)) := by
  rw [outcome_conjunction]
  apply (tame_negation tokens h).bind
  intro first hfirst hrest
  have hshort := outcome_shorter hfirst
  exact tame_conjunctionFrom first.1 first.2 hrest
termination_by (tokens.length, 3)

theorem tame_conjunctionFrom (left : Bool) (tokens : List Token) (h : AllReadable tokens) :
    Tame (outcome (conjunctionFrom context left tokens)) := by
  by_cases hand : nextKind tokens = some .and
  · obtain ⟨text, behind, heq⟩ := eq_cons_of_nextKind hand
    have hbehind := length_lt_of_eq_cons heq
    rw [heq] at h ⊢
    rw [outcome_conjunctionFrom_and]
    apply (tame_negation behind h.behind).bind
    intro right hright hrest
    have hshort := outcome_shorter hright
    exact tame_conjunctionFrom _ right.2 hrest
  · rw [outcome_conjunctionFrom_stop left hand]
    exact .ok h
termination_by (tokens.length, 0)

theorem tame_negation (tokens : List Token) (h : AllReadable tokens) :
    Tame (outcome (negation context tokens)) := by
  by_cases hnot : nextKind tokens = some .not
  · obtain ⟨text, behind, heq⟩ := eq_cons_of_nextKind hnot
    have hbehind := length_lt_of_eq_cons heq
    rw [heq] at h ⊢
    rw [outcome_negation_not]
    exact (tame_negation behind h.behind).map fun _ hrest => hrest
  · rw [outcome_negation_stop hnot]
    exact tame_comparison tokens h
termination_by (tokens.length, 2)

theorem tame_comparison (tokens : List Token) (h : AllReadable tokens) :
    Tame (outcome (comparison context tokens)) := by
  rw [outcome_comparison]
  apply (tame_primary tokens h).bind
  intro left hleft hrest
  obtain ⟨value, behind⟩ := left
  have hshort := outcome_shorter hleft
  dsimp only [comparisonFrom]
  split
  · rename_i text after
    have hafter : after.length + 1 < tokens.length := hshort
    apply (tame_primary after hrest.behind).bind
    intro right _ hrest
    apply (yields_equal _ _ value right.1).bind
    intro same _ _
    exact .ok hrest
  · rename_i text after
    have hafter : after.length + 1 < tokens.length := hshort
    apply (tame_primary after hrest.behind).bind
    intro right _ hrest
    apply (yields_equal _ _ value right.1).bind
    intro same _ _
    exact .ok hrest
  · exact .ok hrest
termination_by (tokens.length, 1)

theorem tame_primary (tokens : List Token) (h : AllReadable tokens) :
    Tame (outcome (primary context tokens)) := by
  match tokens with
  | [] =>
    rw [outcome_primary_nil]
    exact .error rfl
  | ⟨kind, text⟩ :: behind =>
    by_cases hparen : kind = .leftParen
    · subst hparen
      rw [outcome_primary_leftParen]
      apply (tame_disjunction behind h.behind).bind
      intro inner _ hrest
      unfold closeParen
      split
      · next heq =>
        rw [heq] at hrest
        exact .ok hrest.behind
      · exact .error rfl
    by_cases hname : kind = .identifier
    · subst hname
      rw [outcome_primary_identifier]
      exact tame_reference text behind h.behind
    by_cases hbracket : kind = .leftBracket
    · subst hbracket
      rw [outcome_primary_leftBracket]
      exact .error rfl
    rw [outcome_primary_literal hparen hname hbracket]
    have hreadable : Token.Readable ⟨kind, text⟩ := h _ List.mem_cons_self
    cases kind with
    | number =>
      cases hnumber : Number.ofText? text with
      | none => exact absurd hnumber (hreadable rfl)
      | some x =>
        dsimp only [literal?]
        rw [hnumber]
        exact .ok h.behind
    | string | boolean => exact .ok h.behind
    | _ => exact .error rfl
termination_by (tokens.length, 0)

theorem tame_reference (name : String) (tokens : List Token) (h : AllReadable tokens) :
    Tame (outcome (reference context name tokens)) := by
  by_cases hparen : nextKind tokens = some .leftParen
  · obtain ⟨text, behind, heq⟩ := eq_cons_of_nextKind hparen
    have hbehind := length_lt_of_eq_cons heq
    rw [heq] at h ⊢
    rw [outcome_reference_leftParen]
    apply (tame_arguments behind h.behind).bind
    intro values _ hrest
    exact tame_callWith name hrest
  rw [outcome_reference hparen]
  apply (tame_moreNames tokens h).bind
  intro names hnames hrest
  obtain ⟨names, behind⟩ := names
  have hshort := outcome_shorter hnames
  dsimp only [referenceFrom]
  split
  · rename_i method text after _
    have hafter : after.length + 1 < tokens.length + 1 := hshort
    apply (yields_lookup context _).bind
    intro receiver _ _
    apply (tame_arguments after hrest.behind).bind
    intro values _ hrest
    exact tame_callWith method hrest
  · apply (yields_lookup context _).bind
    intro value _ _
    exact .ok hrest
termination_by (tokens.length, 4)

theorem tame_arguments (tokens : List Token) (h : AllReadable tokens) :
    Tame (outcome (arguments context tokens)) := by
  by_cases hparen : nextKind tokens = some .rightParen
  · obtain ⟨text, behind, heq⟩ := eq_cons_of_nextKind hparen
    rw [heq] at h ⊢
    rw [outcome_arguments_none]
    exact .ok h.behind
  · rw [outcome_arguments_some hparen]
    exact tame_argumentsFrom tokens h
termination_by (tokens.length, 3)

theorem tame_argumentsFrom (tokens : List Token) (h : AllReadable tokens) :
    Tame (outcome (argumentsFrom context tokens)) := by
  rw [outcome_argumentsFrom]
  apply (tame_argument tokens h).bind
  intro first hfirst hrest
  have hshort := outcome_shorter hfirst
  apply tame_elementsFrom _ _ hrest
  intro text after heq hafter
  have hlength := length_lt_of_eq_cons heq
  exact tame_argumentsFrom after hafter
termination_by (tokens.length, 2)

theorem tame_argument (tokens : List Token) (h : AllReadable tokens) :
    Tame (outcome (argument context tokens)) := by
  by_cases hbracket : nextKind tokens = some .leftBracket
  · obtain ⟨text, behind, heq⟩ := eq_cons_of_nextKind hbracket
    have hbehind := length_lt_of_eq_cons heq
    rw [heq] at h ⊢
    by_cases hempty : nextKind behind = some .rightBracket
    · obtain ⟨close, rest, rfl⟩ := eq_cons_of_nextKind hempty
      rw [outcome_argument_emptyArray]
      exact .ok h.behind.behind
    · rw [outcome_argument_array hempty]
      exact (tame_itemsFrom behind h.behind).map fun _ hrest => hrest
  · rw [outcome_argument_primary hbracket]
    exact tame_primary tokens h
termination_by (tokens.length, 1)

theorem tame_itemsFrom (tokens : List Token) (h : AllReadable tokens) :
    Tame (outcome (itemsFrom context tokens)) := by
  rw [outcome_itemsFrom]
  apply (tame_primary tokens h).bind
  intro first hfirst hrest
  have hshort := outcome_shorter hfirst
  apply tame_elementsFrom _ _ hrest
  intro text after heq hafter
  have hlength := length_lt_of_eq_cons heq
  exact tame_itemsFrom after hafter
termination_by (tokens.length, 1)

end

theorem yields_evaluate {tokens : List Token} (h : AllReadable tokens) :
    Yields Cause.InExpression (fun _ => True) (evaluate context tokens) := by
  by_cases hempty : tokens = []
  · rw [hempty, evaluate_nil]
    exact .error rfl
  · rw [evaluate_of_ne_nil hempty]
    apply (tame_disjunction tokens h).bind
    intro result _ _
    unfold atEnd
    split
    · exact .ok trivial
    · exact .error rfl

theorem yields_next (column : Nat) (c : Char) (rest : List Char) :
    Yields Cause.InExpression (fun _ => True) (Token.next column c rest) := by
  unfold Token.next
  split
  · exact .ok trivial
  split
  · split
    · exact .ok trivial
    · exact .error rfl
  split
  · exact .ok trivial
  split
  · exact .ok trivial
  · exact .error rfl

theorem yields_listFrom (column : Nat) (cs : List Char) :
    Yields Cause.InExpression (fun _ => True) (Token.listFrom column cs) := by
  match cs with
  | [] =>
    rw [Token.listFrom_nil]
    exact .ok trivial
  | c :: rest =>
    cases hblank : Text.isBlank c with
    | true =>
      rw [Token.listFrom_of_isBlank hblank]
      exact yields_listFrom _ rest
    | false =>
      rw [Token.listFrom_of_not_isBlank hblank]
      apply (yields_next column c rest).bind
      intro step _ _
      have hshort := step.shorter
      exact (yields_listFrom _ step.rest).map fun _ _ => trivial
termination_by cs.length

/-- Text that is evaluated comes to a truth value, or the expression is to blame. -/
theorem yields_evaluateText (context : Context) (text : String) :
    Yields Cause.InExpression (fun _ => True) (evaluateText context text) := by
  apply (yields_listFrom 1 text.toList).bind
  intro tokens htokens _
  apply yields_evaluate
  intro token hmem
  exact Token.readable_of_canonical ((Token.of_listFrom 1 text.toList htokens).1 token hmem)

end Expression

end CondDoc
