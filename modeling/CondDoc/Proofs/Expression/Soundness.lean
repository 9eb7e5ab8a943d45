import CondDoc.Proofs.Expression.Grammar
import CondDoc.Proofs.Outcome

namespace CondDoc.Expression

variable {context : Context}

theorem names_of_moreNames (tokens : List Token) {rest : List Token} {names : List String}
    (h : outcome (moreNames tokens) = .ok (names, rest)) :
    ∃ used, tokens = used ++ rest ∧ Names used names := by
  by_cases hdot : nextKind tokens = some .dot
  · obtain ⟨dot, behind, rfl⟩ := eq_cons_of_nextKind hdot
    by_cases hname : nextKind behind = some .identifier
    · obtain ⟨name, after, rfl⟩ := eq_cons_of_nextKind hname
      rw [outcome_moreNames_dot] at h
      obtain ⟨⟨others, rest'⟩, hothers, heq⟩ := map_eq_ok_iff.mp h
      cases heq
      obtain ⟨used, rfl, hnames⟩ := names_of_moreNames after hothers
      exact ⟨⟨.dot, dot⟩ :: ⟨.identifier, name⟩ :: used, rfl, .more hnames⟩
    · rw [outcome_moreNames_error hname] at h
      cases h
  · rw [outcome_moreNames_stop hdot] at h
    cases h
    exact ⟨[], rfl, .none⟩
termination_by tokens.length

/-- A phrase at the front of the tokens, and what is left of them. -/
def Begins (context : Context) (category : Category) (tokens : List Token)
    (result : category.Meaning × List Token) : Prop :=
  ∃ used, tokens = used ++ result.2 ∧ Derives context category used result.1

/-- Like `Begins`, with one more token of the given kind behind the phrase. -/
def BeginsUpTo (context : Context) (close : TokenKind) (category : Category) (tokens : List Token)
    (result : category.Meaning × List Token) : Prop :=
  ∃ used text, tokens = used ++ ⟨close, text⟩ :: result.2 ∧ Derives context category used result.1

theorem of_closeParen {inner : Bool × List Token} {result : Value × List Token}
    (h : closeParen inner = .ok result) :
    ∃ text rest, inner.2 = ⟨.rightParen, text⟩ :: rest ∧ result = (.boolean inner.1, rest) := by
  obtain ⟨value, tokens⟩ := inner
  dsimp only [closeParen] at h
  split at h
  · rename_i text rest
    cases h
    exact ⟨text, rest, rfl, rfl⟩
  · cases h

theorem of_elementsFrom {close : TokenKind} {what : Expectation}
    {more : List Token → Except Cause (List Value × List Token)} {value : Value}
    {tokens : List Token} {result : List Value × List Token}
    (h : elementsFrom close what more (value, tokens) = .ok result) :
    (∃ text after others, tokens = ⟨.comma, text⟩ :: after ∧ more after = .ok others ∧
        result = (value :: others.1, others.2)) ∨
      ∃ text, tokens = ⟨close, text⟩ :: result.2 ∧ result = ([value], result.2) := by
  by_cases hcomma : nextKind tokens = some .comma
  · obtain ⟨text, after, rfl⟩ := eq_cons_of_nextKind hcomma
    rw [elementsFrom_comma] at h
    obtain ⟨others, hothers, rfl⟩ := map_eq_ok_iff.mp h
    exact .inl ⟨text, after, others, rfl, hothers, rfl⟩
  by_cases hclose : nextKind tokens = some close
  · obtain ⟨text, after, rfl⟩ := eq_cons_of_nextKind hclose
    rw [elementsFrom_close (fun heq => hcomma (by rw [hclose, heq]))] at h
    cases h
    exact .inr ⟨text, rfl, rfl⟩
  · rw [elementsFrom_stop hcomma hclose] at h
    cases h

theorem derives_of_literal {kind : TokenKind} {text : String} {value : Value}
    (h : literal? ⟨kind, text⟩ = some (.ok value)) :
    Derives context .primary [⟨kind, text⟩] value := by
  cases kind with
  | string =>
    cases h
    exact .string
  | number =>
    dsimp only [literal?] at h
    split at h
    · rename_i x hx
      cases h
      exact .number hx
    · cases h
  | boolean =>
    cases h
    exact .boolean
  | _ => cases h

mutual

theorem begins_of_disjunction (tokens : List Token) {result : Bool × List Token}
    (h : outcome (disjunction context tokens) = .ok result) :
    Begins context .disjunction tokens result := by
  rw [outcome_disjunction] at h
  obtain ⟨⟨first, behind⟩, hfirst, hmore⟩ := bind_eq_ok_iff.mp h
  have hshort := outcome_shorter hfirst
  obtain ⟨used, rfl, hused⟩ := begins_of_conjunction tokens hfirst
  obtain ⟨more, rfl, hwhole⟩ := begins_of_disjunctionFrom behind (.conjunction hused) hmore
  exact ⟨used ++ more, (List.append_assoc _ _ _).symm, hwhole⟩
termination_by (tokens.length, 4)

theorem begins_of_disjunctionFrom (tokens : List Token) {before : List Token} {left : Bool}
    {result : Bool × List Token} (hleft : Derives context .disjunction before left)
    (h : outcome (disjunctionFrom context left tokens) = .ok result) :
    ∃ used, tokens = used ++ result.2 ∧
      Derives context .disjunction (before ++ used) result.1 := by
  by_cases hor : nextKind tokens = some .or
  · obtain ⟨text, behind, rfl⟩ := eq_cons_of_nextKind hor
    rw [outcome_disjunctionFrom_or] at h
    obtain ⟨⟨right, rest⟩, hright, hmore⟩ := bind_eq_ok_iff.mp h
    have hshort := outcome_shorter hright
    obtain ⟨used, rfl, hused⟩ := begins_of_conjunction behind hright
    obtain ⟨more, rfl, hwhole⟩ := begins_of_disjunctionFrom rest (.or hleft hused) hmore
    refine ⟨⟨.or, text⟩ :: (used ++ more), ?_, ?_⟩
    · simp
    · simpa using hwhole
  · rw [outcome_disjunctionFrom_stop left hor] at h
    cases h
    exact ⟨[], rfl, by rwa [List.append_nil]⟩
termination_by (tokens.length, 0)

theorem begins_of_conjunction (tokens : List Token) {result : Bool × List Token}
    (h : outcome (conjunction context tokens) = .ok result) :
    Begins context .conjunction tokens result := by
  rw [outcome_conjunction] at h
  obtain ⟨⟨first, behind⟩, hfirst, hmore⟩ := bind_eq_ok_iff.mp h
  have hshort := outcome_shorter hfirst
  obtain ⟨used, rfl, hused⟩ := begins_of_negation tokens hfirst
  obtain ⟨more, rfl, hwhole⟩ := begins_of_conjunctionFrom behind (.negation hused) hmore
  exact ⟨used ++ more, (List.append_assoc _ _ _).symm, hwhole⟩
termination_by (tokens.length, 3)

theorem begins_of_conjunctionFrom (tokens : List Token) {before : List Token} {left : Bool}
    {result : Bool × List Token} (hleft : Derives context .conjunction before left)
    (h : outcome (conjunctionFrom context left tokens) = .ok result) :
    ∃ used, tokens = used ++ result.2 ∧
      Derives context .conjunction (before ++ used) result.1 := by
  by_cases hand : nextKind tokens = some .and
  · obtain ⟨text, behind, rfl⟩ := eq_cons_of_nextKind hand
    rw [outcome_conjunctionFrom_and] at h
    obtain ⟨⟨right, rest⟩, hright, hmore⟩ := bind_eq_ok_iff.mp h
    have hshort := outcome_shorter hright
    obtain ⟨used, rfl, hused⟩ := begins_of_negation behind hright
    obtain ⟨more, rfl, hwhole⟩ := begins_of_conjunctionFrom rest (.and hleft hused) hmore
    refine ⟨⟨.and, text⟩ :: (used ++ more), ?_, ?_⟩
    · simp
    · simpa using hwhole
  · rw [outcome_conjunctionFrom_stop left hand] at h
    cases h
    exact ⟨[], rfl, by rwa [List.append_nil]⟩
termination_by (tokens.length, 0)

theorem begins_of_negation (tokens : List Token) {result : Bool × List Token}
    (h : outcome (negation context tokens) = .ok result) :
    Begins context .negation tokens result := by
  by_cases hnot : nextKind tokens = some .not
  · obtain ⟨text, behind, rfl⟩ := eq_cons_of_nextKind hnot
    rw [outcome_negation_not] at h
    obtain ⟨⟨inner, rest⟩, hinner, rfl⟩ := map_eq_ok_iff.mp h
    obtain ⟨used, rfl, hused⟩ := begins_of_negation behind hinner
    exact ⟨⟨.not, text⟩ :: used, rfl, .not hused⟩
  · rw [outcome_negation_stop hnot] at h
    obtain ⟨used, rfl, hused⟩ := begins_of_comparison tokens h
    exact ⟨used, rfl, .comparison hused⟩
termination_by (tokens.length, 2)

theorem begins_of_comparison (tokens : List Token) {result : Bool × List Token}
    (h : outcome (comparison context tokens) = .ok result) :
    Begins context .comparison tokens result := by
  rw [outcome_comparison] at h
  obtain ⟨⟨left, behind⟩, hleft, hmore⟩ := bind_eq_ok_iff.mp h
  have hshort := outcome_shorter hleft
  obtain ⟨used, rfl, hused⟩ := begins_of_primary tokens hleft
  dsimp only [comparisonFrom] at hmore
  split at hmore
  · rename_i text after
    obtain ⟨⟨right, rest⟩, hright, hmore⟩ := bind_eq_ok_iff.mp hmore
    obtain ⟨same, hsame, hresult⟩ := bind_eq_ok_iff.mp hmore
    cases hresult
    obtain ⟨used', rfl, hused'⟩ := begins_of_primary after hright
    exact ⟨used ++ ⟨.equals, text⟩ :: used', by simp, .equals hused hused' hsame⟩
  · rename_i text after
    obtain ⟨⟨right, rest⟩, hright, hmore⟩ := bind_eq_ok_iff.mp hmore
    obtain ⟨same, hsame, hresult⟩ := bind_eq_ok_iff.mp hmore
    cases hresult
    obtain ⟨used', rfl, hused'⟩ := begins_of_primary after hright
    exact ⟨used ++ ⟨.notEquals, text⟩ :: used', by simp, .notEquals hused hused' hsame⟩
  · cases hmore
    exact ⟨used, rfl, .truth hused⟩
termination_by (tokens.length, 1)

theorem begins_of_primary (tokens : List Token) {result : Value × List Token}
    (h : outcome (primary context tokens) = .ok result) :
    Begins context .primary tokens result := by
  match tokens with
  | [] =>
    rw [outcome_primary_nil] at h
    cases h
  | ⟨kind, text⟩ :: behind =>
    by_cases hparen : kind = .leftParen
    · subst hparen
      rw [outcome_primary_leftParen] at h
      obtain ⟨⟨inner, more⟩, hinner, hclose⟩ := bind_eq_ok_iff.mp h
      obtain ⟨used, rfl, hused⟩ := begins_of_disjunction behind hinner
      obtain ⟨closing, rest, rfl, rfl⟩ := of_closeParen hclose
      exact ⟨⟨.leftParen, text⟩ :: (used ++ [⟨.rightParen, closing⟩]), by simp,
        .parentheses hused⟩
    by_cases hname : kind = .identifier
    · subst hname
      rw [outcome_primary_identifier] at h
      obtain ⟨used, rfl, hused⟩ := begins_of_reference text behind h
      exact ⟨⟨.identifier, text⟩ :: used, rfl, hused⟩
    by_cases hbracket : kind = .leftBracket
    · subst hbracket
      rw [outcome_primary_leftBracket] at h
      cases h
    rw [outcome_primary_literal hparen hname hbracket] at h
    split at h
    · rename_i reading hreading
      obtain ⟨value, hvalue, rfl⟩ := map_eq_ok_iff.mp h
      subst hvalue
      exact ⟨[⟨kind, text⟩], rfl, derives_of_literal hreading⟩
    · cases h
termination_by (tokens.length, 0)

theorem begins_of_reference (name : String) (tokens : List Token) {result : Value × List Token}
    (h : outcome (reference context name tokens) = .ok result) :
    ∃ used, tokens = used ++ result.2 ∧
      Derives context .primary (⟨.identifier, name⟩ :: used) result.1 := by
  by_cases hparen : nextKind tokens = some .leftParen
  · obtain ⟨opening, behind, rfl⟩ := eq_cons_of_nextKind hparen
    rw [outcome_reference_leftParen] at h
    obtain ⟨⟨values, rest⟩, hvalues, hcall⟩ := bind_eq_ok_iff.mp h
    obtain ⟨used, closing, rfl, hused⟩ := begins_of_arguments behind hvalues
    obtain ⟨answer, hanswer, hresult⟩ := bind_eq_ok_iff.mp hcall
    cases hresult
    exact ⟨⟨.leftParen, opening⟩ :: (used ++ [⟨.rightParen, closing⟩]), by simp,
      .call hused hanswer⟩
  rw [outcome_reference hparen] at h
  obtain ⟨⟨names, behind⟩, hnames, hmore⟩ := bind_eq_ok_iff.mp h
  have hshort := outcome_shorter hnames
  obtain ⟨before, rfl, hbefore⟩ := names_of_moreNames tokens hnames
  dsimp only [referenceFrom] at hmore
  split at hmore
  · rename_i method opening after hlast
    obtain ⟨path, rfl⟩ := List.getLast?_eq_some_iff.mp hlast
    rw [List.dropLast_concat] at hmore
    obtain ⟨receiver, hreceiver, hmore⟩ := bind_eq_ok_iff.mp hmore
    obtain ⟨⟨values, rest⟩, hvalues, hcall⟩ := bind_eq_ok_iff.mp hmore
    obtain ⟨used, closing, rfl, hused⟩ := begins_of_arguments after hvalues
    obtain ⟨answer, hanswer, hresult⟩ := bind_eq_ok_iff.mp hcall
    cases hresult
    exact ⟨before ++ ⟨.leftParen, opening⟩ :: (used ++ [⟨.rightParen, closing⟩]), by simp,
      .method hbefore (lookup_eq_ok_iff.mp hreceiver) hused hanswer⟩
  · obtain ⟨value, hvalue, hresult⟩ := bind_eq_ok_iff.mp hmore
    cases hresult
    exact ⟨before, rfl, .reference hbefore (lookup_eq_ok_iff.mp hvalue)⟩
termination_by (tokens.length, 4)

theorem begins_of_arguments (tokens : List Token) {result : List Value × List Token}
    (h : outcome (arguments context tokens) = .ok result) :
    BeginsUpTo context .rightParen .arguments tokens result := by
  by_cases hparen : nextKind tokens = some .rightParen
  · obtain ⟨closing, rest, rfl⟩ := eq_cons_of_nextKind hparen
    rw [outcome_arguments_none] at h
    cases h
    exact ⟨[], closing, rfl, .noArguments⟩
  · rw [outcome_arguments_some hparen] at h
    obtain ⟨used, closing, rfl, hused⟩ := begins_of_argumentsFrom tokens h
    exact ⟨used, closing, rfl, .someArguments hused⟩
termination_by (tokens.length, 3)

theorem begins_of_argumentsFrom (tokens : List Token) {result : List Value × List Token}
    (h : outcome (argumentsFrom context tokens) = .ok result) :
    BeginsUpTo context .rightParen .argumentList tokens result := by
  rw [outcome_argumentsFrom] at h
  obtain ⟨⟨first, behind⟩, hfirst, hmore⟩ := bind_eq_ok_iff.mp h
  have hshort := outcome_shorter hfirst
  obtain ⟨used, rfl, hused⟩ := begins_of_argument tokens hfirst
  rcases of_elementsFrom hmore with ⟨text, after, others, rfl, hothers, hresult⟩ |
    ⟨closing, rfl, hresult⟩
  · obtain ⟨used', closing, rfl, hused'⟩ := begins_of_argumentsFrom after hothers
    rw [hresult]
    exact ⟨used ++ ⟨.comma, text⟩ :: used', closing, by simp, .nextArgument hused hused'⟩
  · rw [hresult]
    exact ⟨used, closing, rfl, .lastArgument hused⟩
termination_by (tokens.length, 2)

theorem begins_of_argument (tokens : List Token) {result : Value × List Token}
    (h : outcome (argument context tokens) = .ok result) :
    Begins context .argument tokens result := by
  by_cases hbracket : nextKind tokens = some .leftBracket
  · obtain ⟨opening, behind, rfl⟩ := eq_cons_of_nextKind hbracket
    by_cases hempty : nextKind behind = some .rightBracket
    · obtain ⟨closing, rest, rfl⟩ := eq_cons_of_nextKind hempty
      rw [outcome_argument_emptyArray] at h
      cases h
      exact ⟨[⟨.leftBracket, opening⟩, ⟨.rightBracket, closing⟩], rfl, .emptyArray⟩
    · rw [outcome_argument_array hempty] at h
      obtain ⟨⟨items, rest⟩, hitems, rfl⟩ := map_eq_ok_iff.mp h
      obtain ⟨used, closing, rfl, hused⟩ := begins_of_itemsFrom behind hitems
      exact ⟨⟨.leftBracket, opening⟩ :: (used ++ [⟨.rightBracket, closing⟩]), by simp,
        .array hused⟩
  · rw [outcome_argument_primary hbracket] at h
    obtain ⟨used, rfl, hused⟩ := begins_of_primary tokens h
    exact ⟨used, rfl, .plainArgument hused⟩
termination_by (tokens.length, 1)

theorem begins_of_itemsFrom (tokens : List Token) {result : List Value × List Token}
    (h : outcome (itemsFrom context tokens) = .ok result) :
    BeginsUpTo context .rightBracket .itemList tokens result := by
  rw [outcome_itemsFrom] at h
  obtain ⟨⟨first, behind⟩, hfirst, hmore⟩ := bind_eq_ok_iff.mp h
  have hshort := outcome_shorter hfirst
  obtain ⟨used, rfl, hused⟩ := begins_of_primary tokens hfirst
  rcases of_elementsFrom hmore with ⟨text, after, others, rfl, hothers, hresult⟩ |
    ⟨closing, rfl, hresult⟩
  · obtain ⟨used', closing, rfl, hused'⟩ := begins_of_itemsFrom after hothers
    rw [hresult]
    exact ⟨used ++ ⟨.comma, text⟩ :: used', closing, by simp, .nextItem hused hused'⟩
  · rw [hresult]
    exact ⟨used, closing, rfl, .lastItem hused⟩
termination_by (tokens.length, 1)

end

end CondDoc.Expression
