import CondDoc.Proofs.Expression.Grammar
import CondDoc.Proofs.Outcome

namespace CondDoc.Expression

/-- Are the tokens a phrase of the category, whatever it comes to? -/
inductive Phrase : Category → List Token → Prop where
  | conjunction {tokens : List Token} :
      Phrase .conjunction tokens → Phrase .disjunction tokens
  | or {left right : List Token} {text : String} :
      Phrase .disjunction left → Phrase .conjunction right →
        Phrase .disjunction (left ++ ⟨.or, text⟩ :: right)
  | negation {tokens : List Token} : Phrase .negation tokens → Phrase .conjunction tokens
  | and {left right : List Token} {text : String} :
      Phrase .conjunction left → Phrase .negation right →
        Phrase .conjunction (left ++ ⟨.and, text⟩ :: right)
  | comparison {tokens : List Token} : Phrase .comparison tokens → Phrase .negation tokens
  | not {tokens : List Token} {text : String} :
      Phrase .negation tokens → Phrase .negation (⟨.not, text⟩ :: tokens)
  | truth {tokens : List Token} : Phrase .primary tokens → Phrase .comparison tokens
  | equals {left right : List Token} {text : String} :
      Phrase .primary left → Phrase .primary right →
        Phrase .comparison (left ++ ⟨.equals, text⟩ :: right)
  | notEquals {left right : List Token} {text : String} :
      Phrase .primary left → Phrase .primary right →
        Phrase .comparison (left ++ ⟨.notEquals, text⟩ :: right)
  | parentheses {tokens : List Token} {opening closing : String} :
      Phrase .disjunction tokens →
        Phrase .primary (⟨.leftParen, opening⟩ :: (tokens ++ [⟨.rightParen, closing⟩]))
  | string {text : String} : Phrase .primary [⟨.string, text⟩]
  | number {text : String} : Phrase .primary [⟨.number, text⟩]
  | boolean {text : String} : Phrase .primary [⟨.boolean, text⟩]
  | reference {name : String} {tokens : List Token} {names : List String} :
      Names tokens names → Phrase .primary (⟨.identifier, name⟩ :: tokens)
  | call {name opening closing : String} {tokens : List Token} :
      Phrase .arguments tokens →
        Phrase .primary
          (⟨.identifier, name⟩ :: ⟨.leftParen, opening⟩ :: (tokens ++ [⟨.rightParen, closing⟩]))
  | method {name method opening closing : String} {before tokens : List Token}
      {names : List String} :
      Names before (names ++ [method]) → Phrase .arguments tokens →
        Phrase .primary
          (⟨.identifier, name⟩ ::
            (before ++ ⟨.leftParen, opening⟩ :: (tokens ++ [⟨.rightParen, closing⟩])))
  | noArguments : Phrase .arguments []
  | someArguments {tokens : List Token} :
      Phrase .argumentList tokens → Phrase .arguments tokens
  | lastArgument {tokens : List Token} : Phrase .argument tokens → Phrase .argumentList tokens
  | nextArgument {first others : List Token} {text : String} :
      Phrase .argument first → Phrase .argumentList others →
        Phrase .argumentList (first ++ ⟨.comma, text⟩ :: others)
  | plainArgument {tokens : List Token} : Phrase .primary tokens → Phrase .argument tokens
  | emptyArray {opening closing : String} :
      Phrase .argument [⟨.leftBracket, opening⟩, ⟨.rightBracket, closing⟩]
  | array {tokens : List Token} {opening closing : String} :
      Phrase .itemList tokens →
        Phrase .argument (⟨.leftBracket, opening⟩ :: (tokens ++ [⟨.rightBracket, closing⟩]))
  | lastItem {tokens : List Token} : Phrase .primary tokens → Phrase .itemList tokens
  | nextItem {first others : List Token} {text : String} :
      Phrase .primary first → Phrase .itemList others →
        Phrase .itemList (first ++ ⟨.comma, text⟩ :: others)

/-- What has a meaning is a phrase. -/
theorem Derives.phrase {context : Context} {category : Category} {tokens : List Token}
    {value : category.Meaning} (h : Derives context category tokens value) :
    Phrase category tokens := by
  induction h with
  | conjunction _ ih => exact .conjunction ih
  | or _ _ ihleft ihright => exact .or ihleft ihright
  | negation _ ih => exact .negation ih
  | and _ _ ihleft ihright => exact .and ihleft ihright
  | comparison _ ih => exact .comparison ih
  | not _ ih => exact .not ih
  | truth _ ih => exact .truth ih
  | equals _ _ _ ihleft ihright => exact .equals ihleft ihright
  | notEquals _ _ _ ihleft ihright => exact .notEquals ihleft ihright
  | parentheses _ ih => exact .parentheses ih
  | string => exact .string
  | number _ => exact .number
  | boolean => exact .boolean
  | reference hnames _ => exact .reference hnames
  | call _ _ ih => exact .call ih
  | method hnames _ _ _ ih => exact .method hnames ih
  | noArguments => exact .noArguments
  | someArguments _ ih => exact .someArguments ih
  | lastArgument _ ih => exact .lastArgument ih
  | nextArgument _ _ ihfirst ihothers => exact .nextArgument ihfirst ihothers
  | plainArgument _ ih => exact .plainArgument ih
  | emptyArray => exact .emptyArray
  | array _ ih => exact .array ih
  | lastItem _ ih => exact .lastItem ih
  | nextItem _ _ ihfirst ihothers => exact .nextItem ihfirst ihothers

namespace Category

/-- The kinds of token with which a phrase of the category, or its last part, would go on. -/
def prolongedBy : Category → List TokenKind
  | .disjunction => [.leftParen, .dot, .equals, .notEquals, .and]
  | .conjunction | .negation | .comparison => [.leftParen, .dot, .equals, .notEquals]
  | .primary | .argument => [.leftParen, .dot]
  | .arguments | .argumentList | .itemList => []

/-- A phrase of the category ends before these tokens. -/
def EndsBefore (category : Category) (rest : List Token) : Prop :=
  ∀ kind ∈ category.prolongedBy, nextKind rest ≠ some kind

theorem endsBefore_nil (category : Category) : category.EndsBefore [] := by
  intro kind _ h
  cases h

theorem endsBefore_cons {category : Category} {kind : TokenKind} {text : String}
    {rest : List Token} (h : kind ∉ category.prolongedBy) :
    category.EndsBefore (⟨kind, text⟩ :: rest) := by
  intro kind' hkind' heq
  cases heq
  exact h hkind'

theorem EndsBefore.part {category part : Category} {rest : List Token}
    (h : category.EndsBefore rest)
    (hpart : ∀ kind ∈ part.prolongedBy, kind ∈ category.prolongedBy) :
    part.EndsBefore rest :=
  fun kind hkind => h kind (hpart kind hkind)

end Category

variable {context : Context} {tokens left right rest : List Token} {text opening closing : String}

/-- The kinds of token with which a primary begins. -/
def primaryKinds : List TokenKind := [.leftParen, .identifier, .string, .number, .boolean]

theorem nextKind_ne_of_primary (h : Phrase .primary tokens) {kind : TokenKind}
    (hkind : kind ∉ primaryKinds) : nextKind (tokens ++ rest) ≠ some kind := by
  intro heq
  cases h <;> (cases Option.some.inj heq; simp [primaryKinds] at hkind)

theorem append_ne_nil_of_primary (h : Phrase .primary tokens) : tokens ++ rest ≠ [] := by
  cases h <;> exact List.cons_ne_nil _ _

theorem nextKind_ne_of_comparison (h : Phrase .comparison tokens) :
    nextKind (tokens ++ rest) ≠ some .not := by
  cases h with
  | truth hprimary => exact nextKind_ne_of_primary hprimary (by decide)
  | equals hleft _ =>
    rw [List.append_assoc]
    exact nextKind_ne_of_primary hleft (by decide)
  | notEquals hleft _ =>
    rw [List.append_assoc]
    exact nextKind_ne_of_primary hleft (by decide)

theorem nextKind_ne_of_argument (h : Phrase .argument tokens) :
    nextKind (tokens ++ rest) ≠ some .rightParen := by
  cases h with
  | plainArgument hprimary => exact nextKind_ne_of_primary hprimary (by decide)
  | emptyArray =>
    intro heq
    cases heq
  | array _ =>
    intro heq
    cases heq

theorem nextKind_ne_of_argumentList (h : Phrase .argumentList tokens) :
    nextKind (tokens ++ rest) ≠ some .rightParen := by
  cases h with
  | lastArgument hargument => exact nextKind_ne_of_argument hargument
  | nextArgument hargument _ =>
    rw [List.append_assoc]
    exact nextKind_ne_of_argument hargument

theorem nextKind_ne_of_itemList (h : Phrase .itemList tokens) :
    nextKind (tokens ++ rest) ≠ some .rightBracket := by
  cases h with
  | lastItem hprimary => exact nextKind_ne_of_primary hprimary (by decide)
  | nextItem hprimary _ =>
    rw [List.append_assoc]
    exact nextKind_ne_of_primary hprimary (by decide)

theorem nextKind_ne_of_names {names : List String} (h : Names tokens names)
    (hparen : nextKind rest ≠ some .leftParen) :
    nextKind (tokens ++ rest) ≠ some .leftParen := by
  cases h with
  | none => exact hparen
  | more _ =>
    intro heq
    cases heq

theorem nextKind_ne_of_methodNames {names : List String} {method : String}
    (h : Names tokens (names ++ [method])) :
    nextKind (tokens ++ rest) ≠ some .leftParen := by
  generalize hwhole : names ++ [method] = whole at h
  cases h with
  | none => simp at hwhole
  | more _ =>
    intro heq
    cases heq

theorem outcome_moreNames {names : List String} (h : Names tokens names)
    (hdot : nextKind rest ≠ some .dot) :
    outcome (moreNames (tokens ++ rest)) = .ok (names, rest) := by
  induction h with
  | none => exact outcome_moreNames_stop hdot
  | more _ ih =>
    rw [List.cons_append, List.cons_append, outcome_moreNames_dot, ih]
    rfl

theorem outcome_primary_path {name : String} {names : List String} (h : Names tokens names)
    (hdot : nextKind rest ≠ some .dot) (hparen : nextKind rest ≠ some .leftParen) :
    outcome (primary context (⟨.identifier, name⟩ :: (tokens ++ rest))) =
      (context.lookup (path (name :: names))).map fun value => (value, rest) := by
  rw [outcome_primary_identifier, outcome_reference (nextKind_ne_of_names h hparen),
    outcome_moreNames h hdot, ok_bind, referenceFrom_stop hparen]

theorem outcome_primary_call {name : String} :
    outcome (primary context (⟨.identifier, name⟩ :: ⟨.leftParen, opening⟩ :: rest)) =
      outcome (arguments context rest) >>= callWith context name := by
  rw [outcome_primary_identifier, outcome_reference_leftParen]

theorem outcome_primary_method {name method : String} {names : List String}
    (h : Names tokens (names ++ [method])) :
    outcome (primary context (⟨.identifier, name⟩ :: (tokens ++ ⟨.leftParen, opening⟩ :: rest))) =
      context.lookup (path (name :: names)) >>= fun receiver =>
        outcome (arguments context rest) >>= fun values =>
          callWith context method (receiver :: values.1, values.2) := by
  have hdot : nextKind (⟨.leftParen, opening⟩ :: rest) ≠ some .dot := by simp [nextKind]
  rw [outcome_primary_identifier, outcome_reference (nextKind_ne_of_methodNames h),
    outcome_moreNames h hdot, ok_bind, referenceFrom_method]

/-- Wherever they stand, the tokens are read as a phrase of the category with this result, unless
something behind them prolongs it. A disjunction or a conjunction that goes on with further parts is
read up to there. -/
def Settles (context : Context) :
    (category : Category) → List Token → Except Cause category.Meaning → Prop
  | .disjunction, tokens, result =>
    ∀ rest, Category.disjunction.EndsBefore rest →
      outcome (disjunction context (tokens ++ rest)) =
        result >>= fun value => outcome (disjunctionFrom context value rest)
  | .conjunction, tokens, result =>
    ∀ rest, Category.conjunction.EndsBefore rest →
      outcome (conjunction context (tokens ++ rest)) =
        result >>= fun value => outcome (conjunctionFrom context value rest)
  | .negation, tokens, result =>
    ∀ rest, Category.negation.EndsBefore rest →
      outcome (negation context (tokens ++ rest)) = result.map fun value => (value, rest)
  | .comparison, tokens, result =>
    ∀ rest, Category.comparison.EndsBefore rest →
      outcome (comparison context (tokens ++ rest)) = result.map fun value => (value, rest)
  | .primary, tokens, result =>
    ∀ rest, Category.primary.EndsBefore rest →
      outcome (primary context (tokens ++ rest)) = result.map fun value => (value, rest)
  | .argument, tokens, result =>
    ∀ rest, Category.argument.EndsBefore rest →
      outcome (argument context (tokens ++ rest)) = result.map fun value => (value, rest)
  | .arguments, tokens, result =>
    ∀ text rest,
      outcome (arguments context (tokens ++ ⟨.rightParen, text⟩ :: rest)) =
        result.map fun values => (values, rest)
  | .argumentList, tokens, result =>
    ∀ text rest,
      outcome (argumentsFrom context (tokens ++ ⟨.rightParen, text⟩ :: rest)) =
        result.map fun values => (values, rest)
  | .itemList, tokens, result =>
    ∀ text rest,
      outcome (itemsFrom context (tokens ++ ⟨.rightBracket, text⟩ :: rest)) =
        result.map fun items => (items, rest)

namespace Settles

theorem of_eq {category : Category} {result result' : Except Cause category.Meaning}
    (h : Settles context category tokens result) (heq : result = result') :
    Settles context category tokens result' := by
  rwa [heq] at h

section Conditions

variable {a b : Except Cause Bool} {v w : Except Cause Value}

theorem conjunction (h : Settles context .conjunction tokens a) :
    Settles context .disjunction tokens a := by
  intro rest hrest
  have hread := h rest (hrest.part (by decide))
  cases a with
  | error cause =>
    rw [outcome_disjunction, hread]
    rfl
  | ok value =>
    have hstop : outcome (conjunctionFrom context value rest) = .ok (value, rest) :=
      outcome_conjunctionFrom_stop value (hrest .and (by decide))
    rw [outcome_disjunction, hread.trans hstop]
    rfl

theorem or (hleft : Settles context .disjunction left a)
    (hright : Settles context .conjunction right b) :
    Settles context .disjunction (left ++ ⟨.or, text⟩ :: right)
      (a >>= fun x => b.map fun y => x || y) := by
  intro rest hrest
  have hread := hleft (⟨.or, text⟩ :: (right ++ rest)) (Category.endsBefore_cons (by decide))
  have hread' := hright rest (hrest.part (by decide))
  rw [List.append_assoc, List.cons_append]
  cases a with
  | error cause => exact hread
  | ok x =>
    refine hread.trans ((outcome_disjunctionFrom_or x).trans ?_)
    cases b with
    | error cause =>
      rw [hread']
      rfl
    | ok y =>
      rw [hread'.trans (outcome_conjunctionFrom_stop y (hrest .and (by decide)))]
      rfl

theorem negation (h : Settles context .negation tokens a) :
    Settles context .conjunction tokens a := by
  intro rest hrest
  have hread := h rest hrest
  rw [outcome_conjunction, hread]
  cases a <;> rfl

theorem and (hleft : Settles context .conjunction left a)
    (hright : Settles context .negation right b) :
    Settles context .conjunction (left ++ ⟨.and, text⟩ :: right)
      (a >>= fun x => b.map fun y => x && y) := by
  intro rest hrest
  have hread := hleft (⟨.and, text⟩ :: (right ++ rest)) (Category.endsBefore_cons (by decide))
  have hread' := hright rest hrest
  rw [List.append_assoc, List.cons_append]
  cases a with
  | error cause => exact hread
  | ok x =>
    refine hread.trans ((outcome_conjunctionFrom_and x).trans ?_)
    rw [hread']
    cases b <;> rfl

theorem comparison (hphrase : Phrase .comparison tokens)
    (h : Settles context .comparison tokens a) : Settles context .negation tokens a := by
  intro rest hrest
  rw [outcome_negation_stop (nextKind_ne_of_comparison hphrase)]
  exact h rest hrest

theorem not (h : Settles context .negation tokens a) :
    Settles context .negation (⟨.not, text⟩ :: tokens) (a.map fun x => !x) := by
  intro rest hrest
  have hread := h rest hrest
  rw [List.cons_append, outcome_negation_not, hread]
  cases a <;> rfl

theorem truth (h : Settles context .primary tokens v) :
    Settles context .comparison tokens (v.map Value.truthy) := by
  intro rest hrest
  have hread := h rest (hrest.part (by decide))
  rw [outcome_comparison, hread]
  cases v with
  | error cause => rfl
  | ok value =>
    exact comparisonFrom_stop _ (hrest .equals (by decide)) (hrest .notEquals (by decide))

theorem equals (hleft : Settles context .primary left v) (hright : Settles context .primary right w) :
    Settles context .comparison (left ++ ⟨.equals, text⟩ :: right)
      (v >>= fun x => w >>= fun y => context.equal x y) := by
  intro rest hrest
  have hread := hleft (⟨.equals, text⟩ :: (right ++ rest)) (Category.endsBefore_cons (by decide))
  have hread' := hright rest (hrest.part (by decide))
  rw [List.append_assoc, List.cons_append, outcome_comparison, hread]
  cases v with
  | error cause => rfl
  | ok x =>
    change comparisonFrom context x (⟨.equals, text⟩ :: (right ++ rest)) = _
    rw [comparisonFrom, hread', ok_bind]
    cases w with
    | error cause => rfl
    | ok y =>
      change context.equal x y >>= _ = (context.equal x y).map _
      cases context.equal x y <;> rfl

theorem notEquals (hleft : Settles context .primary left v)
    (hright : Settles context .primary right w) :
    Settles context .comparison (left ++ ⟨.notEquals, text⟩ :: right)
      ((v >>= fun x => w >>= fun y => context.equal x y).map fun same => !same) := by
  intro rest hrest
  have hread := hleft (⟨.notEquals, text⟩ :: (right ++ rest)) (Category.endsBefore_cons (by decide))
  have hread' := hright rest (hrest.part (by decide))
  rw [List.append_assoc, List.cons_append, outcome_comparison, hread]
  cases v with
  | error cause => rfl
  | ok x =>
    change comparisonFrom context x (⟨.notEquals, text⟩ :: (right ++ rest)) = _
    rw [comparisonFrom, hread', ok_bind]
    cases w with
    | error cause => rfl
    | ok y =>
      change context.equal x y >>= _ = ((context.equal x y).map _).map _
      cases context.equal x y <;> rfl

end Conditions

section Primaries

variable {names : List String} {name : String} {values : Except Cause (List Value)}

theorem parentheses {a : Except Cause Bool} (h : Settles context .disjunction tokens a) :
    Settles context .primary (⟨.leftParen, opening⟩ :: (tokens ++ [⟨.rightParen, closing⟩]))
      (a.map .boolean) := by
  intro rest hrest
  have hread := h (⟨.rightParen, closing⟩ :: rest) (Category.endsBefore_cons (by decide))
  have hor : nextKind (⟨.rightParen, closing⟩ :: rest) ≠ some .or := by simp [nextKind]
  rw [List.cons_append, List.append_assoc, List.singleton_append, outcome_primary_leftParen]
  cases a with
  | error cause =>
    rw [hread]
    rfl
  | ok value =>
    rw [hread.trans (outcome_disjunctionFrom_stop value hor)]
    rfl

theorem literal {kind : TokenKind} {v : Except Cause Value} (h : literal? ⟨kind, text⟩ = some v) :
    Settles context .primary [⟨kind, text⟩] v := by
  intro rest hrest
  have hparen : kind ≠ .leftParen := by
    rintro rfl
    cases h
  have hname : kind ≠ .identifier := by
    rintro rfl
    cases h
  have hbracket : kind ≠ .leftBracket := by
    rintro rfl
    cases h
  rw [List.singleton_append, outcome_primary_literal hparen hname hbracket, h]
  rfl

theorem reference (h : Names tokens names) :
    Settles context .primary (⟨.identifier, name⟩ :: tokens)
      (context.lookup (path (name :: names))) := by
  intro rest hrest
  exact outcome_primary_path h (hrest .dot (by decide)) (hrest .leftParen (by decide))

theorem call (h : Settles context .arguments tokens values) :
    Settles context .primary
      (⟨.identifier, name⟩ :: ⟨.leftParen, opening⟩ :: (tokens ++ [⟨.rightParen, closing⟩]))
      (values >>= fun arguments => (context.call name arguments).map .boolean) := by
  intro rest hrest
  have hread := h closing rest
  rw [List.cons_append, List.cons_append, List.append_assoc, List.singleton_append,
    outcome_primary_call, hread]
  cases values with
  | error cause => rfl
  | ok arguments =>
    change context.call name arguments >>= _ = ((context.call name arguments).map _).map _
    cases context.call name arguments <;> rfl

theorem method {method : String} {before : List Token} (hnames : Names before (names ++ [method]))
    (h : Settles context .arguments tokens values) :
    Settles context .primary
      (⟨.identifier, name⟩ ::
        (before ++ ⟨.leftParen, opening⟩ :: (tokens ++ [⟨.rightParen, closing⟩])))
      (context.lookup (path (name :: names)) >>= fun receiver =>
        values >>= fun arguments => (context.call method (receiver :: arguments)).map .boolean) := by
  intro rest hrest
  have hread := h closing rest
  rw [List.cons_append, List.append_assoc, List.cons_append, List.append_assoc,
    List.singleton_append, outcome_primary_method hnames, hread]
  cases context.lookup (path (name :: names)) with
  | error cause => rfl
  | ok receiver =>
    cases values with
    | error cause => rfl
    | ok arguments =>
      change context.call method (receiver :: arguments) >>= _ =
        ((context.call method (receiver :: arguments)).map _).map _
      cases context.call method (receiver :: arguments) <;> rfl

end Primaries

section Lists

variable {first others : List Token} {v : Except Cause Value} {values : Except Cause (List Value)}

theorem bind_elementsFrom_close {close : TokenKind} (h : close ≠ .comma) (what : Expectation)
    (more : List Token → Except Cause (List Value × List Token)) :
    ((v.map fun value => (value, ⟨close, text⟩ :: rest)) >>= elementsFrom close what more) =
      (v.map fun value => [value]).map fun values => (values, rest) := by
  cases v with
  | error cause => rfl
  | ok value => exact elementsFrom_close h

theorem bind_elementsFrom_comma (close : TokenKind) (what : Expectation)
    {more : List Token → Except Cause (List Value × List Token)}
    (hmore : more right = values.map fun values => (values, rest)) :
    ((v.map fun value => (value, ⟨.comma, text⟩ :: right)) >>= elementsFrom close what more) =
      (v >>= fun value => values.map (value :: ·)).map fun values => (values, rest) := by
  cases v with
  | error cause => rfl
  | ok value =>
    change elementsFrom close what more (value, ⟨.comma, text⟩ :: right) = _
    rw [elementsFrom_comma, hmore]
    cases values <;> rfl

theorem noArguments : Settles context .arguments [] (.ok []) := by
  intro text rest
  exact outcome_arguments_none

theorem someArguments (hphrase : Phrase .argumentList tokens)
    (h : Settles context .argumentList tokens values) :
    Settles context .arguments tokens values := by
  intro text rest
  rw [outcome_arguments_some (nextKind_ne_of_argumentList hphrase)]
  exact h text rest

theorem lastArgument (h : Settles context .argument tokens v) :
    Settles context .argumentList tokens (v.map fun value => [value]) := by
  intro text rest
  have hread := h (⟨.rightParen, text⟩ :: rest) (Category.endsBefore_cons (by decide))
  rw [outcome_argumentsFrom, hread]
  refine bind_elementsFrom_close ?_ _ _
  decide

theorem nextArgument (hfirst : Settles context .argument first v)
    (hothers : Settles context .argumentList others values) :
    Settles context .argumentList (first ++ ⟨.comma, text⟩ :: others)
      (v >>= fun value => values.map (value :: ·)) := by
  intro closing rest
  have hread := hfirst (⟨.comma, text⟩ :: (others ++ ⟨.rightParen, closing⟩ :: rest))
    (Category.endsBefore_cons (by decide))
  rw [List.append_assoc, List.cons_append, outcome_argumentsFrom, hread]
  exact bind_elementsFrom_comma _ _ (hothers closing rest)

theorem plainArgument (hphrase : Phrase .primary tokens) (h : Settles context .primary tokens v) :
    Settles context .argument tokens v := by
  intro rest hrest
  rw [outcome_argument_primary (nextKind_ne_of_primary hphrase (by decide))]
  exact h rest hrest

theorem emptyArray :
    Settles context .argument [⟨.leftBracket, opening⟩, ⟨.rightBracket, closing⟩]
      (.ok (.array [])) := by
  intro rest hrest
  exact outcome_argument_emptyArray

theorem array (hphrase : Phrase .itemList tokens) (h : Settles context .itemList tokens values) :
    Settles context .argument (⟨.leftBracket, opening⟩ :: (tokens ++ [⟨.rightBracket, closing⟩]))
      (values.map .array) := by
  intro rest hrest
  have hread := h closing rest
  rw [List.cons_append, List.append_assoc, List.singleton_append,
    outcome_argument_array (nextKind_ne_of_itemList hphrase), hread]
  cases values <;> rfl

theorem lastItem (h : Settles context .primary tokens v) :
    Settles context .itemList tokens (v.map fun value => [value]) := by
  intro text rest
  have hread := h (⟨.rightBracket, text⟩ :: rest) (Category.endsBefore_cons (by decide))
  rw [outcome_itemsFrom, hread]
  refine bind_elementsFrom_close ?_ _ _
  decide

theorem nextItem (hfirst : Settles context .primary first v)
    (hothers : Settles context .itemList others values) :
    Settles context .itemList (first ++ ⟨.comma, text⟩ :: others)
      (v >>= fun value => values.map (value :: ·)) := by
  intro closing rest
  have hread := hfirst (⟨.comma, text⟩ :: (others ++ ⟨.rightBracket, closing⟩ :: rest))
    (Category.endsBefore_cons (by decide))
  rw [List.append_assoc, List.cons_append, outcome_itemsFrom, hread]
  exact bind_elementsFrom_comma _ _ (hothers closing rest)

end Lists

end Settles

/-- Every phrase comes to a meaning or to a failure, and to the same wherever it stands. -/
theorem exists_settles_of_phrase {category : Category} (h : Phrase category tokens)
    (context : Context) : ∃ result, Settles context category tokens result := by
  induction h with
  | conjunction _ ih =>
    obtain ⟨a, ha⟩ := ih
    exact ⟨a, ha.conjunction⟩
  | or _ _ ihleft ihright =>
    obtain ⟨a, ha⟩ := ihleft
    obtain ⟨b, hb⟩ := ihright
    exact ⟨_, Settles.or ha hb⟩
  | negation _ ih =>
    obtain ⟨a, ha⟩ := ih
    exact ⟨a, ha.negation⟩
  | and _ _ ihleft ihright =>
    obtain ⟨a, ha⟩ := ihleft
    obtain ⟨b, hb⟩ := ihright
    exact ⟨_, Settles.and ha hb⟩
  | comparison hphrase ih =>
    obtain ⟨a, ha⟩ := ih
    exact ⟨a, .comparison hphrase ha⟩
  | not _ ih =>
    obtain ⟨a, ha⟩ := ih
    exact ⟨_, Settles.not ha⟩
  | truth _ ih =>
    obtain ⟨v, hv⟩ := ih
    exact ⟨_, Settles.truth hv⟩
  | equals _ _ ihleft ihright =>
    obtain ⟨v, hv⟩ := ihleft
    obtain ⟨w, hw⟩ := ihright
    exact ⟨_, Settles.equals hv hw⟩
  | notEquals _ _ ihleft ihright =>
    obtain ⟨v, hv⟩ := ihleft
    obtain ⟨w, hw⟩ := ihright
    exact ⟨_, Settles.notEquals hv hw⟩
  | parentheses _ ih =>
    obtain ⟨a, ha⟩ := ih
    exact ⟨_, Settles.parentheses ha⟩
  | string => exact ⟨_, Settles.literal rfl⟩
  | number => exact ⟨_, Settles.literal rfl⟩
  | boolean => exact ⟨_, Settles.literal rfl⟩
  | reference hnames => exact ⟨_, Settles.reference hnames⟩
  | call _ ih =>
    obtain ⟨values, hvalues⟩ := ih
    exact ⟨_, Settles.call hvalues⟩
  | method hnames _ ih =>
    obtain ⟨values, hvalues⟩ := ih
    exact ⟨_, Settles.method hnames hvalues⟩
  | noArguments => exact ⟨_, Settles.noArguments⟩
  | someArguments hphrase ih =>
    obtain ⟨values, hvalues⟩ := ih
    exact ⟨values, .someArguments hphrase hvalues⟩
  | lastArgument _ ih =>
    obtain ⟨v, hv⟩ := ih
    exact ⟨_, Settles.lastArgument hv⟩
  | nextArgument _ _ ihfirst ihothers =>
    obtain ⟨v, hv⟩ := ihfirst
    obtain ⟨values, hvalues⟩ := ihothers
    exact ⟨_, Settles.nextArgument hv hvalues⟩
  | plainArgument hphrase ih =>
    obtain ⟨v, hv⟩ := ih
    exact ⟨v, .plainArgument hphrase hv⟩
  | emptyArray => exact ⟨_, Settles.emptyArray⟩
  | array hphrase ih =>
    obtain ⟨values, hvalues⟩ := ih
    exact ⟨_, Settles.array hphrase hvalues⟩
  | lastItem _ ih =>
    obtain ⟨v, hv⟩ := ih
    exact ⟨_, Settles.lastItem hv⟩
  | nextItem _ _ ihfirst ihothers =>
    obtain ⟨v, hv⟩ := ihfirst
    obtain ⟨values, hvalues⟩ := ihothers
    exact ⟨_, Settles.nextItem hv hvalues⟩

theorem evaluate_of_settles {a : Except Cause Bool} (hsome : tokens ≠ [])
    (h : Settles context .disjunction tokens a) : evaluate context tokens = a := by
  have hread := h [] (Category.endsBefore_nil _)
  rw [List.append_nil] at hread
  rw [evaluate_of_ne_nil hsome, hread]
  cases a with
  | error cause => rfl
  | ok answer =>
    have hstop : outcome (disjunctionFrom context answer []) = .ok (answer, []) :=
      outcome_disjunctionFrom_stop answer (by simp [nextKind])
    change outcome (disjunctionFrom context answer []) >>= atEnd = _
    rw [hstop]
    rfl

theorem evaluate_of_settles_primary {v : Except Cause Value} (hphrase : Phrase .primary tokens)
    (h : Settles context .primary tokens v) : evaluate context tokens = v.map Value.truthy := by
  have hsome : tokens ≠ [] := by
    have hne : tokens ++ [] ≠ [] := append_ne_nil_of_primary hphrase
    rwa [List.append_nil] at hne
  exact evaluate_of_settles hsome (Settles.comparison (.truth hphrase) h.truth).negation.conjunction

end CondDoc.Expression
