import CondDoc.Proofs.Expression.Replacement
import CondDoc.Proofs.Outcome
import Mathlib.Data.List.Forall2

namespace CondDoc.Expression

/-- The left context agrees with the right one, up to excused failures on the left, when values and
truths are related as given. -/
structure Simulates (left right : Context) (excused : Cause → Prop) (alike : Value → Value → Prop)
    (same : Bool → Bool → Prop) : Prop where
  lookup (path : String) : Agree excused alike (left.lookup path) (right.lookup path)
  equal {v v' w w' : Value} : alike v v' → alike w w' →
    Agree excused same (left.equal v w) (right.equal v' w')
  call (name : String) {values values' : List Value} : List.Forall₂ alike values values' →
    Agree excused same (left.call name values) (right.call name values')
  truthy {v v' : Value} : alike v v' → same v.truthy v'.truthy
  boolean {a b : Bool} : same a b → alike (.boolean a) (.boolean b)
  array {items items' : List Value} : List.Forall₂ alike items items' →
    alike (.array items) (.array items')
  refl (v : Value) : alike v v
  or {a a' b b' : Bool} : same a a' → same b b' → same (a || b) (a' || b')
  and {a a' b b' : Bool} : same a a' → same b b' → same (a && b) (a' && b')
  not {a a' : Bool} : same a a' → same (!a) (!a')

/-- Related values, with tokens left that differ at most in what is replaced. -/
def InStep {α β : Type} (swap : List Token → List Token → Prop) (free : Bool)
    (related : α → β → Prop) (result : α × List Token) (result' : β × List Token) : Prop :=
  related result.1 result'.1 ∧ Replaced swap free result.2 result'.2

section

variable {left right : Context} {excused : Cause → Prop} {alike : Value → Value → Prop}
  {same : Bool → Bool → Prop} {swap : List Token → List Token → Prop}

theorem agree_bind {α β γ δ : Type} {bound bound' : Nat} {free : Bool} {related : α → β → Prop}
    {related' : γ → δ → Prop} {reading : Except Cause (Step Token α bound)}
    {reading' : Except Cause (Step Token β bound')} {next : α × List Token → Except Cause γ}
    {next' : β × List Token → Except Cause δ}
    (h : Agree excused (InStep swap free related) (outcome reading) (outcome reading'))
    (hnext : ∀ a b rest rest', rest.length < bound → related a b → Replaced swap free rest rest' →
      Agree excused related' (next (a, rest)) (next' (b, rest'))) :
    Agree excused related' (outcome reading >>= next) (outcome reading' >>= next') := by
  apply h.bind
  intro first first' hfirst hstep
  obtain ⟨a, rest⟩ := first
  obtain ⟨b, rest'⟩ := first'
  exact hnext a b rest rest' (outcome_shorter hfirst) hstep.1 hstep.2

theorem agree_callWith (h : Simulates left right excused alike same) (name : String)
    {tokens tokens' : List Token} {values values' : List Value}
    (hvalues : List.Forall₂ alike values values') (hrest : Replaced swap true tokens tokens') :
    Agree excused (InStep swap true alike) (callWith left name (values, tokens))
      (callWith right name (values', tokens')) := by
  apply (h.call name hvalues).bind
  intro a b _ hsame
  exact .ok ⟨h.boolean hsame, hrest⟩

variable (h : Simulates left right excused alike same)
  (hsound : Sound left right excused alike swap)

section

include hsound

theorem agree_elementsFrom {close : TokenKind} (hclose : close ∉ primaryKinds)
    (hne : close ≠ .comma) (what : Expectation)
    {more more' : List Token → Except Cause (List Value × List Token)} {v v' : Value}
    {tokens tokens' : List Token} (hvalue : alike v v')
    (htokens : Replaced swap true tokens tokens')
    (hmore : ∀ text rest rest', tokens = ⟨.comma, text⟩ :: rest → Replaced swap true rest rest' →
      Agree excused (InStep swap true (List.Forall₂ alike)) (more rest) (more' rest')) :
    Agree excused (InStep swap true (List.Forall₂ alike)) (elementsFrom close what more (v, tokens))
      (elementsFrom close what more' (v', tokens')) := by
  rcases htokens.next hsound .comma (by decide) with
    ⟨text, rest, rest', heq, heq', hrest⟩ | ⟨hcomma, hcomma'⟩
  · rw [heq, heq', elementsFrom_comma, elementsFrom_comma]
    apply (hmore text rest rest' heq hrest).map
    intro others others' hothers
    exact ⟨.cons hvalue hothers.1, hothers.2⟩
  rcases htokens.next hsound close (fun _ => hclose) with
    ⟨text, rest, rest', rfl, rfl, hrest⟩ | ⟨hstop, hstop'⟩
  · rw [elementsFrom_close hne, elementsFrom_close hne]
    exact .ok ⟨.cons hvalue .nil, hrest.relax⟩
  · rw [elementsFrom_stop hcomma hstop, elementsFrom_stop hcomma' hstop']
    exact htokens.agree_error hsound fun next => .expected what (next.map Token.text)

theorem agree_closeParen {tokens tokens' : List Token} {a b : Bool}
    (hinner : alike (.boolean a) (.boolean b)) (htokens : Replaced swap true tokens tokens') :
    Agree excused (InStep swap true alike) (closeParen (a, tokens)) (closeParen (b, tokens')) := by
  rcases htokens.next hsound .rightParen (by decide) with
    ⟨text, rest, rest', rfl, rfl, hrest⟩ | ⟨hstop, hstop'⟩
  · exact .ok ⟨hinner, hrest⟩
  · rw [closeParen_stop hstop, closeParen_stop hstop']
    exact htokens.agree_error hsound fun next => .expected .closingParen (next.map Token.text)

theorem agree_moreNames (tokens : List Token) {tokens' : List Token}
    (htokens : Replaced swap false tokens tokens') :
    Agree excused (InStep swap false Eq) (outcome (moreNames tokens))
      (outcome (moreNames tokens')) := by
  rcases htokens.next hsound .dot (by decide) with
    ⟨text, rest, rest', rfl, rfl, hrest⟩ | ⟨hstop, hstop'⟩
  · rcases hrest.next hsound .identifier (by decide) with
      ⟨name, behind, behind', rfl, rfl, hbehind⟩ | ⟨hname, hname'⟩
    · rw [outcome_moreNames_dot, outcome_moreNames_dot]
      apply (agree_moreNames behind hbehind).map
      intro names names' hnames
      exact ⟨congrArg (name :: ·) hnames.1, hnames.2⟩
    · rw [outcome_moreNames_error hname, outcome_moreNames_error hname']
      exact hrest.agree_error hsound fun next => .expected .name (next.map Token.text)
  · rw [outcome_moreNames_stop hstop, outcome_moreNames_stop hstop']
    exact .ok ⟨rfl, htokens⟩
termination_by tokens.length

end

-- The readers use both by way of one another only, which the linter does not see.
set_option linter.unusedSectionVars false

include h hsound

mutual

theorem agree_disjunction {tokens tokens' : List Token}
    (htokens : Replaced swap true tokens tokens') :
    Agree excused (InStep swap true same) (outcome (disjunction left tokens))
      (outcome (disjunction right tokens')) := by
  rw [outcome_disjunction, outcome_disjunction]
  apply agree_bind (agree_conjunction htokens)
  intro a b rest rest' hshort hsame hrest
  exact agree_disjunctionFrom hsame hrest
termination_by (tokens.length, 4)

theorem agree_disjunctionFrom {tokens tokens' : List Token} {a b : Bool} (hleft : same a b)
    (htokens : Replaced swap true tokens tokens') :
    Agree excused (InStep swap true same) (outcome (disjunctionFrom left a tokens))
      (outcome (disjunctionFrom right b tokens')) := by
  rcases htokens.next hsound .or (by decide) with
    ⟨text, behind, behind', heq, rfl, hbehind⟩ | ⟨hstop, hstop'⟩
  · have hshorter := length_lt_of_eq_cons heq
    rw [heq, outcome_disjunctionFrom_or, outcome_disjunctionFrom_or]
    apply agree_bind (agree_conjunction hbehind)
    intro a' b' rest rest' hshort hsame hrest
    exact agree_disjunctionFrom (h.or hleft hsame) hrest
  · rw [outcome_disjunctionFrom_stop a hstop, outcome_disjunctionFrom_stop b hstop']
    exact .ok ⟨hleft, htokens⟩
termination_by (tokens.length, 0)

theorem agree_conjunction {tokens tokens' : List Token}
    (htokens : Replaced swap true tokens tokens') :
    Agree excused (InStep swap true same) (outcome (conjunction left tokens))
      (outcome (conjunction right tokens')) := by
  rw [outcome_conjunction, outcome_conjunction]
  apply agree_bind (agree_negation htokens)
  intro a b rest rest' hshort hsame hrest
  exact agree_conjunctionFrom hsame hrest
termination_by (tokens.length, 3)

theorem agree_conjunctionFrom {tokens tokens' : List Token} {a b : Bool} (hleft : same a b)
    (htokens : Replaced swap true tokens tokens') :
    Agree excused (InStep swap true same) (outcome (conjunctionFrom left a tokens))
      (outcome (conjunctionFrom right b tokens')) := by
  rcases htokens.next hsound .and (by decide) with
    ⟨text, behind, behind', heq, rfl, hbehind⟩ | ⟨hstop, hstop'⟩
  · have hshorter := length_lt_of_eq_cons heq
    rw [heq, outcome_conjunctionFrom_and, outcome_conjunctionFrom_and]
    apply agree_bind (agree_negation hbehind)
    intro a' b' rest rest' hshort hsame hrest
    exact agree_conjunctionFrom (h.and hleft hsame) hrest
  · rw [outcome_conjunctionFrom_stop a hstop, outcome_conjunctionFrom_stop b hstop']
    exact .ok ⟨hleft, htokens⟩
termination_by (tokens.length, 0)

theorem agree_negation {tokens tokens' : List Token}
    (htokens : Replaced swap true tokens tokens') :
    Agree excused (InStep swap true same) (outcome (negation left tokens))
      (outcome (negation right tokens')) := by
  rcases htokens.next hsound .not (by decide) with
    ⟨text, behind, behind', heq, rfl, hbehind⟩ | ⟨hstop, hstop'⟩
  · have hshorter := length_lt_of_eq_cons heq
    rw [heq, outcome_negation_not, outcome_negation_not]
    apply (agree_negation hbehind).map
    intro inner inner' hinner
    exact ⟨h.not hinner.1, hinner.2⟩
  · rw [outcome_negation_stop hstop, outcome_negation_stop hstop']
    exact agree_comparison htokens
termination_by (tokens.length, 2)

theorem agree_comparison {tokens tokens' : List Token}
    (htokens : Replaced swap true tokens tokens') :
    Agree excused (InStep swap true same) (outcome (comparison left tokens))
      (outcome (comparison right tokens')) := by
  rw [outcome_comparison, outcome_comparison]
  apply agree_bind (agree_primary htokens)
  intro v v' rest rest' hshort hleft hrest
  rcases hrest.next hsound .equals (by decide) with
    ⟨text, after, after', rfl, rfl, hafter⟩ | ⟨hequals, hequals'⟩
  · have hshorter : after.length + 1 < tokens.length := hshort
    apply agree_bind (agree_primary hafter)
    intro w w' rest rest' hshort hright hrest
    apply (h.equal hleft hright).bind
    intro a b _ hsame
    exact .ok ⟨hsame, hrest⟩
  rcases hrest.next hsound .notEquals (by decide) with
    ⟨text, after, after', rfl, rfl, hafter⟩ | ⟨hnotEquals, hnotEquals'⟩
  · have hshorter : after.length + 1 < tokens.length := hshort
    apply agree_bind (agree_primary hafter)
    intro w w' rest rest' hshort hright hrest
    apply (h.equal hleft hright).bind
    intro a b _ hsame
    exact .ok ⟨h.not hsame, hrest⟩
  · rw [comparisonFrom_stop v hequals hnotEquals, comparisonFrom_stop v' hequals' hnotEquals']
    exact .ok ⟨h.truthy hleft, hrest⟩
termination_by (tokens.length, 1)

theorem agree_primary {tokens tokens' : List Token}
    (htokens : Replaced swap true tokens tokens') :
    Agree excused (InStep swap true alike) (outcome (primary left tokens))
      (outcome (primary right tokens')) := by
  cases htokens with
  | nil =>
    rw [outcome_primary_nil, outcome_primary_nil]
    exact .error _
  | swapped hswap hends hrest =>
    -- Both phrases are read as a whole, whatever is in them.
    obtain ⟨-, v, v', hfirst, hfirst', halike⟩ := hsound _ _ hswap
    have hread := reads_of_derives hfirst _ hends
    have hread' := reads_of_derives hfirst' _ (hrest.endsBefore hends)
    rw [hread, hread']
    exact .ok ⟨halike, hrest.relax⟩
  | @cons _ behind behind' token hbehind =>
    obtain ⟨kind, text⟩ := token
    by_cases hparen : kind = .leftParen
    · subst hparen
      rw [outcome_primary_leftParen, outcome_primary_leftParen]
      apply agree_bind (agree_disjunction hbehind)
      intro a b rest rest' hshort hsame hrest
      exact agree_closeParen hsound (h.boolean hsame) hrest
    by_cases hname : kind = .identifier
    · subst hname
      rw [outcome_primary_identifier, outcome_primary_identifier]
      exact agree_reference text hbehind
    by_cases hbracket : kind = .leftBracket
    · subst hbracket
      rw [outcome_primary_leftBracket, outcome_primary_leftBracket]
      exact .error _
    rw [outcome_primary_literal hparen hname hbracket,
      outcome_primary_literal hparen hname hbracket]
    cases literal? ⟨kind, text⟩ with
    | none => exact .error _
    | some reading =>
      cases reading with
      | error cause => exact .error cause
      | ok value => exact .ok ⟨h.refl value, hbehind.relax⟩
termination_by (tokens.length, 0)

theorem agree_reference (name : String) {tokens tokens' : List Token}
    (htokens : Replaced swap false tokens tokens') :
    Agree excused (InStep swap true alike) (outcome (reference left name tokens))
      (outcome (reference right name tokens')) := by
  rcases htokens.next hsound .leftParen (by decide) with
    ⟨text, behind, behind', heq, rfl, hbehind⟩ | ⟨hparen, hparen'⟩
  · have hshorter := length_lt_of_eq_cons heq
    rw [heq, outcome_reference_leftParen, outcome_reference_leftParen]
    apply agree_bind (agree_arguments hbehind)
    intro values values' rest rest' hshort hvalues hrest
    exact agree_callWith h name hvalues hrest
  rw [outcome_reference hparen, outcome_reference hparen']
  apply agree_bind (agree_moreNames hsound tokens htokens)
  rintro names _ behind behind' hshort rfl hbehind
  rcases hbehind.next hsound .leftParen (by decide) with
    ⟨text, after, after', rfl, rfl, hafter⟩ | ⟨hstop, hstop'⟩
  · have hshorter : after.length + 1 < tokens.length + 1 := hshort
    rcases List.eq_nil_or_concat names with rfl | ⟨path, method, rfl⟩
    · apply (h.lookup _).bind
      intro value value' _ hvalue
      exact .ok ⟨hvalue, hbehind.relax⟩
    · rw [List.concat_eq_append, referenceFrom_method, referenceFrom_method]
      apply (h.lookup _).bind
      intro receiver receiver' _ hreceiver
      apply agree_bind (agree_arguments hafter)
      intro values values' rest rest' hshort hvalues hrest
      exact agree_callWith h method (.cons hreceiver hvalues) hrest
  · rw [referenceFrom_stop hstop, referenceFrom_stop hstop']
    apply (h.lookup _).map
    intro value value' hvalue
    exact ⟨hvalue, hbehind.relax⟩
termination_by (tokens.length, 4)

theorem agree_arguments {tokens tokens' : List Token}
    (htokens : Replaced swap true tokens tokens') :
    Agree excused (InStep swap true (List.Forall₂ alike)) (outcome (arguments left tokens))
      (outcome (arguments right tokens')) := by
  rcases htokens.next hsound .rightParen (by decide) with
    ⟨text, behind, behind', rfl, rfl, hbehind⟩ | ⟨hstop, hstop'⟩
  · rw [outcome_arguments_none, outcome_arguments_none]
    exact .ok ⟨.nil, hbehind⟩
  · rw [outcome_arguments_some hstop, outcome_arguments_some hstop']
    exact agree_argumentsFrom htokens
termination_by (tokens.length, 3)

theorem agree_argumentsFrom {tokens tokens' : List Token}
    (htokens : Replaced swap true tokens tokens') :
    Agree excused (InStep swap true (List.Forall₂ alike)) (outcome (argumentsFrom left tokens))
      (outcome (argumentsFrom right tokens')) := by
  rw [outcome_argumentsFrom, outcome_argumentsFrom]
  apply agree_bind (agree_argument htokens)
  intro value value' rest rest' hshort hvalue hrest
  apply agree_elementsFrom hsound (by decide) (by decide) _ hvalue hrest
  intro text after after' heq hafter
  have hshorter := length_lt_of_eq_cons heq
  exact agree_argumentsFrom hafter
termination_by (tokens.length, 2)

theorem agree_argument {tokens tokens' : List Token}
    (htokens : Replaced swap true tokens tokens') :
    Agree excused (InStep swap true alike) (outcome (argument left tokens))
      (outcome (argument right tokens')) := by
  rcases htokens.next hsound .leftBracket (by decide) with
    ⟨text, behind, behind', heq, rfl, hbehind⟩ | ⟨hstop, hstop'⟩
  · have hshorter := length_lt_of_eq_cons heq
    rw [heq]
    rcases hbehind.next hsound .rightBracket (by decide) with
      ⟨close, rest, rest', rfl, rfl, hrest⟩ | ⟨hitems, hitems'⟩
    · rw [outcome_argument_emptyArray, outcome_argument_emptyArray]
      exact .ok ⟨h.array .nil, hrest⟩
    · rw [outcome_argument_array hitems, outcome_argument_array hitems']
      apply (agree_itemsFrom hbehind).map
      intro items items' hitems
      exact ⟨h.array hitems.1, hitems.2⟩
  · rw [outcome_argument_primary hstop, outcome_argument_primary hstop']
    exact agree_primary htokens
termination_by (tokens.length, 1)

theorem agree_itemsFrom {tokens tokens' : List Token}
    (htokens : Replaced swap true tokens tokens') :
    Agree excused (InStep swap true (List.Forall₂ alike)) (outcome (itemsFrom left tokens))
      (outcome (itemsFrom right tokens')) := by
  rw [outcome_itemsFrom, outcome_itemsFrom]
  apply agree_bind (agree_primary htokens)
  intro value value' rest rest' hshort hvalue hrest
  apply agree_elementsFrom hsound (by decide) (by decide) _ hvalue hrest
  intro text after after' heq hafter
  have hshorter := length_lt_of_eq_cons heq
  exact agree_itemsFrom hafter
termination_by (tokens.length, 1)

end

/-- Evaluations of tokens that differ in primaries with related values. -/
theorem agree_evaluate_replaced {tokens tokens' : List Token}
    (htokens : Replaced swap true tokens tokens') :
    Agree excused same (evaluate left tokens) (evaluate right tokens') := by
  by_cases hempty : tokens = []
  · obtain rfl := htokens.eq_nil_iff hsound |>.1 hempty
    rw [hempty, evaluate_nil, evaluate_nil]
    exact .error _
  have hempty' := mt (htokens.eq_nil_iff hsound).2 hempty
  rw [evaluate_of_ne_nil hempty, evaluate_of_ne_nil hempty']
  apply agree_bind (agree_disjunction h hsound htokens)
  intro a b rest rest' _ hsame hrest
  by_cases hend : rest = []
  · obtain rfl := hrest.eq_nil_iff hsound |>.1 hend
    rw [hend]
    exact .ok hsame
  have hend' := mt (hrest.eq_nil_iff hsound).2 hend
  rw [atEnd_of_ne_nil hend, atEnd_of_ne_nil hend']
  exact hrest.agree_error hsound fun next => .unexpectedToken ((next.map Token.text).getD "")

omit hsound

theorem agree_evaluate (tokens : List Token) :
    Agree excused same (evaluate left tokens) (evaluate right tokens) :=
  agree_evaluate_replaced h (fun _ _ hswap => False.elim hswap) (.refl true tokens)

theorem agree_evaluateText (text : String) :
    Agree excused same (evaluateText left text) (evaluateText right text) := by
  unfold evaluateText
  cases Token.list text with
  | error cause => exact .error cause
  | ok tokens => exact agree_evaluate h tokens

end

end CondDoc.Expression
