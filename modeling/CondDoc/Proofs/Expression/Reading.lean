import CondDoc.Expression

namespace CondDoc.Expression

variable {α β : Type} {bound larger : Nat}

/-- What a reading comes to: its value and the tokens left, without the bound on their number. -/
def outcome (reading : Except Cause (Step Token α bound)) : Except Cause (α × List Token) :=
  reading.map fun step => (step.value, step.rest)

theorem outcome_shorter {reading : Except Cause (Step Token α bound)} {value : α}
    {rest : List Token} (h : outcome reading = .ok (value, rest)) : rest.length < bound := by
  cases reading with
  | error cause => cases h
  | ok step =>
    cases h
    exact step.shorter

theorem outcome_bind {first : Except Cause (Step Token α bound)}
    {next : Step Token α bound → Except Cause (Step Token β larger)}
    {next' : α × List Token → Except Cause (β × List Token)}
    (h : ∀ step, outcome (next step) = next' (step.value, step.rest)) :
    outcome (first >>= next) = outcome first >>= next' := by
  cases first with
  | error cause => rfl
  | ok step => exact h step

theorem outcome_widen (reading : Except Cause (Step Token α bound)) (h : bound ≤ larger) :
    outcome (reading >>= fun step => pure (step.widen h)) = outcome reading := by
  cases reading <;> rfl

theorem outcome_map_widen (reading : Except Cause (Step Token α bound)) (f : α → β)
    (h : bound ≤ larger) :
    outcome (reading >>= fun step => pure ((step.map f).widen h)) =
      (outcome reading).map fun result => (f result.1, result.2) := by
  cases reading <;> rfl

/-- The kind of the next token, if there is one. -/
def nextKind (tokens : List Token) : Option TokenKind := tokens.head?.map Token.kind

theorem eq_cons_of_nextKind {tokens : List Token} {kind : TokenKind}
    (h : nextKind tokens = some kind) : ∃ text rest, tokens = ⟨kind, text⟩ :: rest := by
  cases tokens with
  | nil => cases h
  | cons token rest =>
    obtain ⟨kind', text⟩ := token
    cases h
    exact ⟨text, rest, rfl⟩

theorem length_lt_of_eq_cons {tokens rest : List Token} {token : Token}
    (h : tokens = token :: rest) : rest.length < tokens.length := by
  rw [h]
  exact Nat.lt_succ_self _

theorem nextKind_ne_of {tokens : List Token} {kind : TokenKind}
    (h : ∀ text rest, tokens = ⟨kind, text⟩ :: rest → False) : nextKind tokens ≠ some kind := by
  intro hkind
  obtain ⟨text, rest, heq⟩ := eq_cons_of_nextKind hkind
  exact h text rest heq

theorem ne_cons_of_nextKind {tokens : List Token} {kind : TokenKind}
    (h : nextKind tokens ≠ some kind) : ∀ text rest, tokens = ⟨kind, text⟩ :: rest → False := by
  intro text rest heq
  exact h (by rw [heq]; rfl)

variable {context : Context} {tokens rest : List Token} {text name : String}

theorem outcome_disjunction (context : Context) (tokens : List Token) :
    outcome (disjunction context tokens) =
      outcome (conjunction context tokens) >>= fun first =>
        outcome (disjunctionFrom context first.1 first.2) := by
  rw [disjunction]
  apply outcome_bind
  intro step
  exact outcome_widen _ _

theorem outcome_disjunctionFrom_or (left : Bool) :
    outcome (disjunctionFrom context left (⟨.or, text⟩ :: rest)) =
      outcome (conjunction context rest) >>= fun right =>
        outcome (disjunctionFrom context (left || right.1) right.2) := by
  rw [disjunctionFrom]
  apply outcome_bind
  intro step
  exact outcome_widen _ _

theorem outcome_disjunctionFrom_stop (left : Bool) (h : nextKind tokens ≠ some .or) :
    outcome (disjunctionFrom context left tokens) = .ok (left, tokens) := by
  rw [disjunctionFrom]
  · rfl
  · exact ne_cons_of_nextKind h

theorem outcome_conjunction (context : Context) (tokens : List Token) :
    outcome (conjunction context tokens) =
      outcome (negation context tokens) >>= fun first =>
        outcome (conjunctionFrom context first.1 first.2) := by
  rw [conjunction]
  apply outcome_bind
  intro step
  exact outcome_widen _ _

theorem outcome_conjunctionFrom_and (left : Bool) :
    outcome (conjunctionFrom context left (⟨.and, text⟩ :: rest)) =
      outcome (negation context rest) >>= fun right =>
        outcome (conjunctionFrom context (left && right.1) right.2) := by
  rw [conjunctionFrom]
  apply outcome_bind
  intro step
  exact outcome_widen _ _

theorem outcome_conjunctionFrom_stop (left : Bool) (h : nextKind tokens ≠ some .and) :
    outcome (conjunctionFrom context left tokens) = .ok (left, tokens) := by
  rw [conjunctionFrom]
  · rfl
  · exact ne_cons_of_nextKind h

theorem outcome_negation_not :
    outcome (negation context (⟨.not, text⟩ :: rest)) =
      (outcome (negation context rest)).map fun inner => (!inner.1, inner.2) := by
  rw [negation]
  exact outcome_map_widen _ _ _

theorem outcome_negation_stop (h : nextKind tokens ≠ some .not) :
    outcome (negation context tokens) = outcome (comparison context tokens) := by
  rw [negation]
  exact ne_cons_of_nextKind h

/-- What follows the left side of a comparison. -/
def comparisonFrom (context : Context) (left : Value) (tokens : List Token) :
    Except Cause (Bool × List Token) :=
  match tokens with
  | ⟨.equals, _⟩ :: rest => do
    let right ← outcome (primary context rest)
    let same ← context.equal left right.1
    return (same, right.2)
  | ⟨.notEquals, _⟩ :: rest => do
    let right ← outcome (primary context rest)
    let same ← context.equal left right.1
    return (!same, right.2)
  | tokens => return (left.truthy, tokens)

theorem outcome_comparison (context : Context) (tokens : List Token) :
    outcome (comparison context tokens) =
      outcome (primary context tokens) >>= fun left => comparisonFrom context left.1 left.2 := by
  rw [comparison]
  apply outcome_bind
  intro left
  obtain ⟨value, rest, hshort⟩ := left
  dsimp only
  split
  · apply outcome_bind
    intro right
    cases context.equal value right.value <;> rfl
  · apply outcome_bind
    intro right
    cases context.equal value right.value <;> rfl
  · rename_i hequals hnotEquals
    rw [comparisonFrom]
    · rfl
    · exact hequals
    · exact hnotEquals

theorem comparisonFrom_stop (left : Value) (hequals : nextKind tokens ≠ some .equals)
    (hnotEquals : nextKind tokens ≠ some .notEquals) :
    comparisonFrom context left tokens = .ok (left.truthy, tokens) := by
  rw [comparisonFrom]
  · rfl
  · exact ne_cons_of_nextKind hequals
  · exact ne_cons_of_nextKind hnotEquals

/-- What follows the condition inside parentheses. -/
def closeParen (inner : Bool × List Token) : Except Cause (Value × List Token) :=
  match inner.2 with
  | ⟨.rightParen, _⟩ :: rest => return (.boolean inner.1, rest)
  | other => throw (.expected .closingParen (found other))

theorem closeParen_stop {inner : Bool} (h : nextKind tokens ≠ some .rightParen) :
    closeParen (inner, tokens) = .error (.expected .closingParen (found tokens)) := by
  dsimp only [closeParen]
  split
  · exact absurd rfl h
  · rfl

theorem outcome_primary_leftParen :
    outcome (primary context (⟨.leftParen, text⟩ :: rest)) =
      outcome (disjunction context rest) >>= closeParen := by
  rw [primary]
  apply outcome_bind
  intro inner
  obtain ⟨value, rest, hshort⟩ := inner
  dsimp only
  split
  · rfl
  · rename_i hother
    dsimp only [closeParen]
    split
    · exact absurd rfl (hother _ _)
    · rfl

theorem outcome_primary_nil : outcome (primary context []) = .error .endOfExpression := by
  rw [primary]
  rfl

theorem outcome_primary_leftBracket :
    outcome (primary context (⟨.leftBracket, text⟩ :: rest)) = .error .arrayOutsideCall := by
  rw [primary]
  rfl

theorem outcome_primary_identifier :
    outcome (primary context (⟨.identifier, name⟩ :: rest)) =
      outcome (reference context name rest) := by
  rw [primary]

theorem outcome_primary_literal {kind : TokenKind} (hparen : kind ≠ .leftParen)
    (hname : kind ≠ .identifier) (hbracket : kind ≠ .leftBracket) :
    outcome (primary context (⟨kind, text⟩ :: rest)) =
      match literal? ⟨kind, text⟩ with
      | some value => value.map fun value => (value, rest)
      | none => .error (.unexpectedToken text) := by
  rw [primary]
  · cases literal? ⟨kind, text⟩ with
    | none => rfl
    | some value => cases value <;> rfl
  · intro text' heq
    exact hparen (Token.mk.inj heq).1
  · intro name heq
    exact hname (Token.mk.inj heq).1
  · intro text' heq
    exact hbracket (Token.mk.inj heq).1

theorem outcome_moreNames_dot {dot : String} :
    outcome (moreNames (⟨.dot, dot⟩ :: ⟨.identifier, name⟩ :: rest)) =
      (outcome (moreNames rest)).map fun others => (name :: others.1, others.2) := by
  rw [moreNames]
  exact outcome_map_widen _ _ _

theorem outcome_moreNames_error (h : nextKind rest ≠ some .identifier) :
    outcome (moreNames (⟨.dot, text⟩ :: rest)) = .error (.expected .name (found rest)) := by
  rw [moreNames]
  · rfl
  · exact ne_cons_of_nextKind h

theorem outcome_moreNames_stop (h : nextKind tokens ≠ some .dot) :
    outcome (moreNames tokens) = .ok ([], tokens) := by
  rw [moreNames]
  · rfl
  · intro dot name rest heq
    exact ne_cons_of_nextKind h _ _ heq
  · exact ne_cons_of_nextKind h

/-- A call whose arguments have been read. -/
def callWith (context : Context) (name : String) (arguments : List Value × List Token) :
    Except Cause (Value × List Token) := do
  let answer ← context.call name arguments.1
  return (.boolean answer, arguments.2)

theorem outcome_reference_leftParen :
    outcome (reference context name (⟨.leftParen, text⟩ :: rest)) =
      outcome (arguments context rest) >>= callWith context name := by
  rw [reference]
  apply outcome_bind
  intro values
  dsimp only [callWith]
  cases context.call name values.value <;> rfl

/-- What follows the whole of a path: with a parenthesis behind it, its last name is a function. -/
def referenceFrom (context : Context) (name : String) (names : List String × List Token) :
    Except Cause (Value × List Token) :=
  match names.1.getLast?, names.2 with
  | some method, ⟨.leftParen, _⟩ :: rest => do
    let receiver ← context.lookup (path (name :: names.1.dropLast))
    let values ← outcome (arguments context rest)
    callWith context method (receiver :: values.1, values.2)
  | _, _ => do
    let value ← context.lookup (path (name :: names.1))
    return (value, names.2)

theorem referenceFrom_method {names : List String} {method : String} :
    referenceFrom context name (names ++ [method], ⟨.leftParen, text⟩ :: rest) =
      context.lookup (path (name :: names)) >>= fun receiver =>
        outcome (arguments context rest) >>= fun values =>
          callWith context method (receiver :: values.1, values.2) := by
  simp only [referenceFrom, List.getLast?_concat, List.dropLast_concat]

theorem referenceFrom_variable {names : List String}
    (h : ¬(names ≠ [] ∧ nextKind rest = some .leftParen)) :
    referenceFrom context name (names, rest) =
      (context.lookup (path (name :: names))).map fun value => (value, rest) := by
  dsimp only [referenceFrom]
  split
  · rename_i method text after hlast
    have hnames : names ≠ [] := by
      rintro rfl
      cases hlast
    exact absurd ⟨hnames, rfl⟩ h
  · cases context.lookup (path (name :: names)) <;> rfl

theorem referenceFrom_stop {names : List String} (h : nextKind rest ≠ some .leftParen) :
    referenceFrom context name (names, rest) =
      (context.lookup (path (name :: names))).map fun value => (value, rest) :=
  referenceFrom_variable fun hcall => h hcall.2

theorem outcome_reference (h : nextKind tokens ≠ some .leftParen) :
    outcome (reference context name tokens) =
      outcome (moreNames tokens) >>= referenceFrom context name := by
  rw [reference]
  · apply outcome_bind
    intro names
    obtain ⟨names, rest, hshort⟩ := names
    dsimp only
    split
    · rename_i method text after hlast
      rw [referenceFrom, hlast]
      dsimp only
      cases context.lookup (path (name :: names.dropLast)) with
      | error cause => rfl
      | ok receiver =>
        apply outcome_bind
        intro values
        dsimp only [callWith]
        cases context.call method (receiver :: values.value) <;> rfl
    · rename_i hother
      dsimp only [referenceFrom]
      split
      · rename_i hlast
        exact absurd rfl (hother _ _ _ hlast)
      · cases context.lookup (path (name :: names)) <;> rfl
  · exact ne_cons_of_nextKind h

theorem outcome_arguments_none :
    outcome (arguments context (⟨.rightParen, text⟩ :: rest)) = .ok ([], rest) := by
  rw [arguments]
  rfl

theorem outcome_arguments_some (h : nextKind tokens ≠ some .rightParen) :
    outcome (arguments context tokens) = outcome (argumentsFrom context tokens) := by
  rw [arguments]
  exact ne_cons_of_nextKind h

/-- What follows an element of a list: a comma and more elements, or the end of the list. -/
def elementsFrom (close : TokenKind) (what : Expectation)
    (more : List Token → Except Cause (List Value × List Token)) (first : Value × List Token) :
    Except Cause (List Value × List Token) :=
  if nextKind first.2 = some .comma then do
    let others ← more first.2.tail
    return (first.1 :: others.1, others.2)
  else if nextKind first.2 = some close then return ([first.1], first.2.tail)
  else throw (.expected what (found first.2))

section

variable {close : TokenKind} {what : Expectation}
  {more : List Token → Except Cause (List Value × List Token)} {value : Value}

theorem elementsFrom_comma :
    elementsFrom close what more (value, ⟨.comma, text⟩ :: rest) =
      (more rest).map fun others => (value :: others.1, others.2) := by
  rw [elementsFrom, if_pos]
  · dsimp only [List.tail_cons]
    cases more rest <;> rfl
  · rfl

theorem elementsFrom_close (h : close ≠ .comma) :
    elementsFrom close what more (value, ⟨close, text⟩ :: rest) = .ok ([value], rest) := by
  rw [elementsFrom, if_neg, if_pos]
  · rfl
  · rfl
  · intro heq
    exact h (Option.some.inj heq)

theorem elementsFrom_stop (hcomma : nextKind tokens ≠ some .comma)
    (hclose : nextKind tokens ≠ some close) :
    elementsFrom close what more (value, tokens) = .error (.expected what (found tokens)) := by
  rw [elementsFrom, if_neg hcomma, if_neg hclose]
  rfl

end

theorem outcome_argumentsFrom (context : Context) (tokens : List Token) :
    outcome (argumentsFrom context tokens) =
      outcome (argument context tokens) >>=
        elementsFrom .rightParen .commaOrParen fun rest =>
          outcome (argumentsFrom context rest) := by
  rw [argumentsFrom]
  apply outcome_bind
  intro first
  obtain ⟨value, rest, hshort⟩ := first
  dsimp only
  split
  · rw [elementsFrom_comma]
    exact outcome_map_widen _ _ _
  · rw [elementsFrom_close (by decide)]
    rfl
  · rename_i hcomma hclose
    rw [elementsFrom_stop]
    · rfl
    · exact nextKind_ne_of hcomma
    · exact nextKind_ne_of hclose

theorem outcome_itemsFrom (context : Context) (tokens : List Token) :
    outcome (itemsFrom context tokens) =
      outcome (primary context tokens) >>=
        elementsFrom .rightBracket .commaOrBracket fun rest =>
          outcome (itemsFrom context rest) := by
  rw [itemsFrom]
  apply outcome_bind
  intro first
  obtain ⟨value, rest, hshort⟩ := first
  dsimp only
  split
  · rw [elementsFrom_comma]
    exact outcome_map_widen _ _ _
  · rw [elementsFrom_close (by decide)]
    rfl
  · rename_i hcomma hclose
    rw [elementsFrom_stop]
    · rfl
    · exact nextKind_ne_of hcomma
    · exact nextKind_ne_of hclose

theorem outcome_argument_emptyArray {close : String} :
    outcome (argument context (⟨.leftBracket, text⟩ :: ⟨.rightBracket, close⟩ :: rest)) =
      .ok (.array [], rest) := by
  rw [argument]
  rfl

theorem outcome_argument_array (h : nextKind rest ≠ some .rightBracket) :
    outcome (argument context (⟨.leftBracket, text⟩ :: rest)) =
      (outcome (itemsFrom context rest)).map fun items => (.array items.1, items.2) := by
  rw [argument]
  · exact outcome_map_widen _ _ _
  · exact ne_cons_of_nextKind h

theorem outcome_argument_primary (h : nextKind tokens ≠ some .leftBracket) :
    outcome (argument context tokens) = outcome (primary context tokens) := by
  rw [argument]
  · intro text close rest heq
    exact ne_cons_of_nextKind h _ _ heq
  · exact ne_cons_of_nextKind h

/-- The value of a reading that has left no token. -/
def atEnd (result : Bool × List Token) : Except Cause Bool :=
  match result.2 with
  | [] => return result.1
  | token :: _ => throw (.unexpectedToken token.text)

theorem atEnd_of_ne_nil {value : Bool} (h : tokens ≠ []) :
    atEnd (value, tokens) = .error (.unexpectedToken ((found tokens).getD "")) := by
  cases tokens with
  | nil => exact absurd rfl h
  | cons token rest => rfl

theorem evaluate_nil : evaluate context [] = .error .emptyExpression := rfl

theorem evaluate_of_ne_nil (h : tokens ≠ []) :
    evaluate context tokens = outcome (disjunction context tokens) >>= atEnd := by
  rw [evaluate, if_neg h]
  cases disjunction context tokens <;> rfl

end CondDoc.Expression
