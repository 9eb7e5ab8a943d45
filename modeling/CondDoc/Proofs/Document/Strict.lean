import CondDoc.Proofs.Document.Selection
import CondDoc.Proofs.Expression.Simulation

namespace CondDoc

def Options.withStrict (options : Options) (strict : Bool) : Options :=
  { options with strict := strict }

def Cause.IsStrict (cause : Cause) : Prop := cause.failureClass = .strictMode

def Failure.IsStrict (failure : Failure) : Prop := failure.failureClass = .strictMode

variable (options : Options)

theorem agree_equal (v w : Value) :
    Agree Cause.IsStrict Eq (Value.equal true options.caseSensitive v w)
      (Value.equal false options.caseSensitive v w) := by
  unfold Value.equal
  by_cases hkind : v.kind = w.kind
  · rw [if_pos hkind, if_pos hkind]
    exact .refl _
  · rw [if_neg hkind, if_neg hkind]
    exact .excused _ rfl

theorem agree_anyEqual (value : Value) (items : List Value) :
    Agree Cause.IsStrict Eq (Builtin.anyEqual (options.withStrict true) value items)
      (Builtin.anyEqual (options.withStrict false) value items) := by
  induction items with
  | nil => exact .refl _
  | cons item items ih =>
    apply (agree_equal options value item).bind
    intro a b _ heq
    cases heq
    cases a with
    | true => exact .refl _
    | false => exact ih

theorem agree_apply (builtin : Builtin) (values : List Value) :
    Agree Cause.IsStrict Eq (builtin.apply (options.withStrict true) values)
      (builtin.apply (options.withStrict false) values) := by
  unfold Builtin.apply
  split
  case h_4 => exact agree_anyEqual options _ _
  all_goals exact .refl _

theorem agree_call (name : String) (values : List Value) :
    Agree Cause.IsStrict Eq (Builtin.call (options.withStrict true) name values)
      (Builtin.call (options.withStrict false) name values) := by
  unfold Builtin.call
  cases Builtin.named? name with
  | none => exact .refl _
  | some builtin => exact agree_apply options builtin values

theorem simulates_strict (resolver : Resolver) :
    Expression.Simulates ⟨resolver, options.withStrict true⟩ ⟨resolver, options.withStrict false⟩
      Cause.IsStrict Eq Eq where
  lookup path := by
    unfold Expression.Context.lookup
    cases resolver.resolve? path with
    | none => exact .excused _ rfl
    | some value => exact .refl _
  equal hleft hright := by
    rw [hleft, hright]
    exact agree_equal options _ _
  call name values values' hvalues := by
    rw [List.forall₂_eq_eq_eq] at hvalues
    rw [hvalues]
    exact agree_call options name values'
  truthy := congrArg Value.truthy
  boolean := congrArg Value.boolean
  array hitems := by
    rw [List.forall₂_eq_eq_eq] at hitems
    rw [hitems]
  refl _ := rfl
  or hleft hright := by rw [hleft, hright]
  and hleft hright := by rw [hleft, hright]
  not h := by rw [h]

variable (resolver : Resolver)

theorem agree_holds (branch : Branch) :
    Agree Failure.IsStrict Eq (branch.holds ⟨resolver, options.withStrict true⟩)
      (branch.holds ⟨resolver, options.withStrict false⟩) := by
  cases hexpression : branch.guard.expression? with
  | none =>
    rw [holds_of_no_expression hexpression, holds_of_no_expression hexpression]
    exact .refl _
  | some expression =>
    rw [holds_of_expression hexpression, holds_of_expression hexpression]
    apply (Expression.agree_evaluateText (simulates_strict options resolver) expression).mapError
    intro cause hstrict
    rw [Failure.IsStrict, branch.failureClass_failure]
    exact hstrict

theorem agree_choose (branches : List Branch) :
    Agree Failure.IsStrict Eq (choose ⟨resolver, options.withStrict true⟩ branches)
      (choose ⟨resolver, options.withStrict false⟩ branches) := by
  induction branches with
  | nil => exact .refl _
  | cons branch others ih =>
    apply (agree_holds options resolver branch).bind
    intro answer answer' _ heq
    cases heq
    cases answer with
    | true => exact .refl _
    | false =>
      apply ih.bind
      intro result result' _ heq
      rw [heq]
      exact .refl _

theorem agree_select (block : Block) :
    Agree Failure.IsStrict Eq (block.select ⟨resolver, options.withStrict true⟩)
      (block.select ⟨resolver, options.withStrict false⟩) := by
  apply (agree_choose options resolver block.branches).bind
  intro result result' _ heq
  rw [heq]
  exact .refl _

theorem agree_decideAll (blocks : List Block) :
    Agree Failure.IsStrict Eq (decideAll ⟨resolver, options.withStrict true⟩ blocks)
      (decideAll ⟨resolver, options.withStrict false⟩ blocks) := by
  induction blocks with
  | nil => exact .refl _
  | cons block others ih =>
    apply (agree_select options resolver block).bind
    intro decision decision' _ heq
    apply ih.bind
    intro decisions decisions' _ heq'
    rw [heq, heq']
    exact .refl _

theorem agree_renderIn (text : String) :
    Agree Failure.IsStrict Eq (renderIn ⟨resolver, options.withStrict true⟩ text)
      (renderIn ⟨resolver, options.withStrict false⟩ text) := by
  have hblocks : blocks (options.withStrict true) text = blocks (options.withStrict false) text :=
    rfl
  unfold renderIn
  rw [hblocks]
  cases blocks (options.withStrict false) text with
  | error failure => exact .error failure
  | ok found =>
    apply (agree_decideAll options resolver found).bind
    intro decisions decisions' _ heq
    rw [heq]
    exact .refl _

/-- A strict run comes to what the lenient run comes to, or stops with a strict mode failure: for
documents, and for expressions by themselves. -/
theorem strict_eq_lenient_or_stops (options : Options) :
    (∀ text arguments,
      render text arguments (options.withStrict true) =
          render text arguments (options.withStrict false) ∨
        ∃ failure : Failure,
          render text arguments (options.withStrict true) = .error (.template failure) ∧
            failure.failureClass = .strictMode) ∧
      ∀ resolver tokens,
        Expression.evaluate ⟨resolver, options.withStrict true⟩ tokens =
            Expression.evaluate ⟨resolver, options.withStrict false⟩ tokens ∨
          ∃ cause : Cause,
            Expression.evaluate ⟨resolver, options.withStrict true⟩ tokens = .error cause ∧
              cause.failureClass = .strictMode := by
  constructor
  · intro text arguments
    unfold render
    by_cases hempty : text = ""
    · rw [if_pos hempty, if_pos hempty]
      exact .inl rfl
    rw [if_neg hempty, if_neg hempty]
    cases Resolver.ofArguments arguments with
    | error error => exact .inl rfl
    | ok resolver =>
      dsimp only
      cases (agree_renderIn options resolver text).eq_or_excused with
      | inl heq => exact .inl (by rw [heq])
      | inr hstops =>
        obtain ⟨failure, hfailure, hstrict⟩ := hstops
        exact .inr ⟨failure, by rw [hfailure]; rfl, hstrict⟩
  · intro resolver tokens
    exact (Expression.agree_evaluate (simulates_strict options resolver) tokens).eq_or_excused

end CondDoc
