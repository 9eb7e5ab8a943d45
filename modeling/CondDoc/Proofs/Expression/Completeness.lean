import CondDoc.Proofs.Expression.Phrase
import CondDoc.Proofs.Expression.Soundness

namespace CondDoc.Expression

/-- A phrase of the category is read as a whole. A disjunction or a conjunction that goes on with
further parts is read up to there. -/
def Reads (context : Context) : (category : Category) → List Token → category.Meaning → Prop
  | .disjunction, tokens, value =>
    ∀ rest, Category.disjunction.EndsBefore rest →
      outcome (disjunction context (tokens ++ rest)) = outcome (disjunctionFrom context value rest)
  | .conjunction, tokens, value =>
    ∀ rest, Category.conjunction.EndsBefore rest →
      outcome (conjunction context (tokens ++ rest)) = outcome (conjunctionFrom context value rest)
  | .negation, tokens, value =>
    ∀ rest, Category.negation.EndsBefore rest →
      outcome (negation context (tokens ++ rest)) = .ok (value, rest)
  | .comparison, tokens, value =>
    ∀ rest, Category.comparison.EndsBefore rest →
      outcome (comparison context (tokens ++ rest)) = .ok (value, rest)
  | .primary, tokens, value =>
    ∀ rest, Category.primary.EndsBefore rest →
      outcome (primary context (tokens ++ rest)) = .ok (value, rest)
  | .argument, tokens, value =>
    ∀ rest, Category.argument.EndsBefore rest →
      outcome (argument context (tokens ++ rest)) = .ok (value, rest)
  | .arguments, tokens, values =>
    ∀ text rest,
      outcome (arguments context (tokens ++ ⟨.rightParen, text⟩ :: rest)) = .ok (values, rest)
  | .argumentList, tokens, values =>
    ∀ text rest,
      outcome (argumentsFrom context (tokens ++ ⟨.rightParen, text⟩ :: rest)) = .ok (values, rest)
  | .itemList, tokens, items =>
    ∀ text rest,
      outcome (itemsFrom context (tokens ++ ⟨.rightBracket, text⟩ :: rest)) = .ok (items, rest)

variable {context : Context} {tokens : List Token}

/-- A phrase that comes to a meaning is read with this meaning. -/
theorem Settles.reads {category : Category} {value : category.Meaning}
    (h : Settles context category tokens (.ok value)) : Reads context category tokens value := by
  cases category <;> exact h

theorem Reads.settles {category : Category} {value : category.Meaning}
    (h : Reads context category tokens value) : Settles context category tokens (.ok value) := by
  cases category <;> exact h

theorem reads_of_derives {category : Category} {value : category.Meaning}
    (h : Derives context category tokens value) : Reads context category tokens value := by
  induction h with
  | conjunction _ ih => exact ih.settles.conjunction.reads
  | or _ _ ihleft ihright => exact (Settles.or ihleft.settles ihright.settles).reads
  | negation _ ih => exact ih.settles.negation.reads
  | and _ _ ihleft ihright => exact (Settles.and ihleft.settles ihright.settles).reads
  | comparison hphrase ih => exact (Settles.comparison hphrase.phrase ih.settles).reads
  | not _ ih => exact (Settles.not ih.settles).reads
  | truth _ ih => exact (Settles.truth ih.settles).reads
  | @equals left right text v w same _ _ hsame ihleft ihright =>
    have hsettles := @Settles.equals context left right text (.ok v) (.ok w) ihleft ihright
    change Settles context .comparison _ (context.equal v w) at hsettles
    have hequal : context.equal v w = .ok same := hsame
    rw [hequal] at hsettles
    exact hsettles
  | @notEquals left right text v w same _ _ hsame ihleft ihright =>
    have hsettles := @Settles.notEquals context left right text (.ok v) (.ok w) ihleft ihright
    change Settles context .comparison _ ((context.equal v w).map fun same => !same) at hsettles
    have hequal : context.equal v w = .ok same := hsame
    rw [hequal] at hsettles
    exact hsettles
  | parentheses _ ih => exact (Settles.parentheses ih.settles).reads
  | string => exact (Settles.literal rfl).reads
  | @number text x hx =>
    have hliteral : literal? ⟨.number, text⟩ = some (.ok (.number x)) := by rw [literal?, hx]
    exact (Settles.literal hliteral).reads
  | boolean => exact (Settles.literal rfl).reads
  | @reference name tokens names value hnames hvalue =>
    have hsettles := @Settles.reference context tokens names name hnames
    rw [lookup_eq_ok_iff.mpr hvalue] at hsettles
    exact hsettles
  | @call name opening closing tokens values answer _ hanswer ih =>
    have hsettles := @Settles.call context tokens opening closing name (.ok values) ih
    have hcall : context.call name values = .ok answer := hanswer
    rw [ok_bind, hcall] at hsettles
    exact hsettles
  | @method name method opening closing before tokens names receiver values answer hnames hreceiver
      _ hanswer ih =>
    have hsettles := @Settles.method context tokens opening closing names name (.ok values) method
      before hnames ih
    have hcall : context.call method (receiver :: values) = .ok answer := hanswer
    rw [lookup_eq_ok_iff.mpr hreceiver, ok_bind, ok_bind, hcall] at hsettles
    exact hsettles
  | noArguments => exact Settles.noArguments.reads
  | someArguments hphrase ih => exact (Settles.someArguments hphrase.phrase ih.settles).reads
  | lastArgument _ ih => exact (Settles.lastArgument ih.settles).reads
  | nextArgument _ _ ihfirst ihothers =>
    exact (Settles.nextArgument ihfirst.settles ihothers.settles).reads
  | plainArgument hphrase ih => exact (Settles.plainArgument hphrase.phrase ih.settles).reads
  | emptyArray => exact Settles.emptyArray.reads
  | array hphrase ih => exact (Settles.array hphrase.phrase ih.settles).reads
  | lastItem _ ih => exact (Settles.lastItem ih.settles).reads
  | nextItem _ _ ihfirst ihothers =>
    exact (Settles.nextItem ihfirst.settles ihothers.settles).reads

theorem outcome_disjunction_nil :
    outcome (disjunction context []) = .error .endOfExpression := by
  rw [outcome_disjunction, outcome_conjunction, outcome_negation_stop, outcome_comparison,
    outcome_primary_nil]
  · rfl
  · intro h
    cases h

theorem evaluate_eq_ok_iff {value : Bool} :
    evaluate context tokens = .ok value ↔
      outcome (disjunction context tokens) = .ok (value, []) := by
  by_cases hempty : tokens = []
  · rw [hempty, evaluate_nil, outcome_disjunction_nil]
    constructor <;> (intro h; cases h)
  rw [evaluate_of_ne_nil hempty, bind_eq_ok_iff]
  constructor
  · intro h
    obtain ⟨⟨whole, rest⟩, hwhole, hend⟩ := h
    cases rest with
    | nil =>
      cases hend
      exact hwhole
    | cons token rest => cases hend
  · intro h
    exact ⟨(value, []), h, rfl⟩

theorem derives_of_evaluate {value : Bool} (h : evaluate context tokens = .ok value) :
    Derives context .disjunction tokens value := by
  rw [evaluate_eq_ok_iff] at h
  obtain ⟨used, hused, hderives⟩ := begins_of_disjunction tokens h
  rw [hused, List.append_nil]
  exact hderives

theorem evaluate_of_derives {value : Bool} (h : Derives context .disjunction tokens value) :
    evaluate context tokens = .ok value := by
  rw [evaluate_eq_ok_iff]
  have hread := reads_of_derives h [] (Category.endsBefore_nil _)
  rw [List.append_nil, outcome_disjunctionFrom_stop] at hread
  · exact hread
  · intro heq
    cases heq

/-- However its tokens are taken apart, an expression has one meaning. -/
theorem meaning_unique {a b : Bool} (ha : Derives context .disjunction tokens a)
    (hb : Derives context .disjunction tokens b) : a = b := by
  have h := (evaluate_of_derives ha).symm.trans (evaluate_of_derives hb)
  exact Except.ok.inj h

/-- Evaluation follows the grammar: it comes to the meaning of the whole of the tokens as a
disjunction, and fails where there is none. -/
theorem evaluate_iff_derives (context : Context) (tokens : List Token) :
    (∀ value : Bool, evaluate context tokens = .ok value ↔
        Derives context .disjunction tokens value) ∧
      ((∃ cause, evaluate context tokens = .error cause) ↔
        ∀ value : Bool, ¬ Derives context .disjunction tokens value) := by
  refine ⟨fun value => ⟨derives_of_evaluate, evaluate_of_derives⟩, ?_⟩
  constructor
  · intro hfail value hderives
    obtain ⟨cause, hcause⟩ := hfail
    rw [evaluate_of_derives hderives] at hcause
    cases hcause
  · intro hnone
    cases hresult : evaluate context tokens with
    | error cause => exact ⟨cause, rfl⟩
    | ok value => exact absurd (derives_of_evaluate hresult) (hnone value)

end CondDoc.Expression
