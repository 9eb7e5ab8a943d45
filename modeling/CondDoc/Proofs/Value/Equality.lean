import CondDoc.Proofs.Expression.Membership
import CondDoc.Proofs.Number.Rounding
import CondDoc.Proofs.Value.Json

namespace CondDoc

namespace Number

theorem signedUnits_sub_self (negative : Bool) (size : Magnitude) :
    (signedUnits negative size - signedUnits negative size).natAbs = 0 := by
  have hzero : signedUnits negative size - signedUnits negative size = 0 := Int.sub_self _
  rw [hzero]
  rfl

/-- A finite number is no distance away from itself. -/
theorem gap_self (negative : Bool) (size : Magnitude) :
    gap (.finite negative size) (.finite negative size) = .finite false .zero := by
  have hunits : Magnitude.zero.units = 0 := rfl
  rw [gap, signedUnits_sub_self, ← hunits]
  exact ofUnits_units false .zero

/-- A number has a distance below the tolerance from itself exactly if it is finite. -/
theorem gap_self_absLt_tolerance (x : Number) :
    (x.gap x).absLt Value.tolerance = match x with
      | .finite _ _ => true
      | .infinite _ | .nan => false := by
  cases x with
  | nan => rfl
  | infinite negative =>
    have hgap : gap (.infinite negative) (.infinite negative) = .nan := if_pos rfl
    rw [hgap]
    rfl
  | finite negative size =>
    have htolerance : absLt (.finite false .zero) Value.tolerance = true := by decide +kernel
    rw [gap_self]
    exact htolerance

end Number

namespace Value

/-- Texts, truths, and numbers that are neither infinite nor `nan`. -/
def isFiniteScalar : Value → Bool
  | .string _ | .boolean _ | .number (.finite _ _) => true
  | .number _ | .object _ | .array _ => false

theorem alike_self (caseSensitive : Bool) (value : Value) :
    alike caseSensitive value value = value.isFiniteScalar := by
  cases value with
  | string s => exact beq_self_eq_true (fold caseSensitive s)
  | number x =>
    have hnear := Number.gap_self_absLt_tolerance x
    cases x with
    | nan => exact hnear
    | infinite negative => exact hnear
    | finite negative size => exact hnear
  | boolean b => exact beq_self_eq_true b
  | object fields => rfl
  | array items => rfl

/-- A value is of the same kind as itself, so the comparison never fails. -/
theorem equal_self (strict caseSensitive : Bool) (value : Value) :
    equal strict caseSensitive value value = .ok value.isFiniteScalar := by
  rw [equal, if_pos rfl, alike_self]

/-- Infinity is a number other than `nan` that does not equal itself. -/
theorem infinity_not_equal_to_itself :
    equal false false (.number (.infinite false)) (.number (.infinite false)) = .ok false := rfl

end Value

namespace Expression

variable {context : Context} {name : String} {tokens : List Token} {names : List String}
  {value : Value}

theorem settles_variable (htokens : Names tokens names)
    (hbound : context.resolver.resolve? (path (name :: names)) = some value) :
    Settles context .primary (⟨.identifier, name⟩ :: tokens) (.ok value) := by
  have hlookup : context.lookup (path (name :: names)) = .ok value :=
    lookup_eq_ok_iff.2 (.known hbound)
  exact (Settles.reference htokens).of_eq hlookup

/-- A comparison of a phrase with itself, which is read twice. -/
theorem evaluate_comparison_with_itself {operator : TokenKind} {answer : Except Cause Bool}
    (hphrase : Phrase .comparison (tokens ++ Token.operator operator :: tokens))
    (h : Settles context .comparison (tokens ++ Token.operator operator :: tokens) answer) :
    evaluate context (tokens ++ Token.operator operator :: tokens) = answer := by
  have hsome : tokens ++ Token.operator operator :: tokens ≠ [] := by simp
  exact evaluate_of_settles hsome (Settles.comparison hphrase h).negation.conjunction

/-- A value equals itself exactly if it is a text, a truth or a finite number, in strict mode and
whatever is said about case. So in expressions: where a variable `x` has such a value, `x == x` and
`in(x, [x])` are true and `x != x` is false, and where it has another one it is the other way
round. -/
theorem finite_scalars_equal_themselves (value : Value) :
    (∀ strict caseSensitive,
      Value.equal strict caseSensitive value value = .ok value.isFiniteScalar) ∧
    ∀ (context : Context) (name : String) (tokens : List Token) (names : List String),
      Names tokens names →
      context.resolver.resolve? (path (name :: names)) = some value →
      let x := ⟨.identifier, name⟩ :: tokens
      evaluate context (x ++ Token.operator .equals :: x) = .ok value.isFiniteScalar ∧
        evaluate context (x ++ Token.operator .notEquals :: x) = .ok (!value.isFiniteScalar) ∧
        evaluate context (membershipCall x [x]) = .ok value.isFiniteScalar := by
  refine ⟨fun strict caseSensitive => Value.equal_self strict caseSensitive value, ?_⟩
  intro context name tokens names htokens hbound x
  have hphrase : Phrase .primary x := .reference htokens
  have hx : Settles context .primary x (.ok value) := settles_variable htokens hbound
  have hself : context.equal value value = .ok value.isFiniteScalar := Value.equal_self _ _ value
  have hequals : evaluate context (x ++ Token.operator .equals :: x) = .ok value.isFiniteScalar :=
    evaluate_comparison_with_itself (.equals hphrase hphrase) ((Settles.equals hx hx).of_eq hself)
  have hnot : Settles context .comparison (x ++ Token.operator .notEquals :: x)
      (.ok (!value.isFiniteScalar)) :=
    (Settles.notEquals hx hx).of_eq (congrArg (Except.map fun same => !same) hself)
  refine ⟨hequals, evaluate_comparison_with_itself (.notEquals hphrase hphrase) hnot, ?_⟩
  have hitems : ∀ item ∈ [x], Phrase .primary item := List.forall_mem_singleton.2 hphrase
  have hvalue : valueOf context x = .ok value := valueOf_of_settles hx
  have hany : Builtin.anyEqual context.options value [value] = .ok (value.isFiniteScalar || false) :=
    anyEqual_cons hself rfl
  rw [evaluate_membershipCall hphrase hitems (List.cons_ne_nil _ _), hvalue, ok_bind,
    List.mapM_cons, hvalue, List.mapM_nil]
  rw [Bool.or_false] at hany
  exact hany

/-- The smallest negative number at `o.x`, and infinity at `y`. -/
def extremeNumbers : Resolver :=
  ⟨[("o", .object [("x", .number (.finite true Value.tiny))]), ("y", .number (.infinite false))]⟩

/-- In strict mode and case sensitively, `o.x == o.x` is true, and `y == y` is not. -/
theorem extremeNumbers_compared_with_themselves :
    let context : Context := ⟨extremeNumbers, { strict := true, caseSensitive := true }⟩
    let x : List Token := [⟨.identifier, "o"⟩, .operator .dot, ⟨.identifier, "x"⟩]
    let y : List Token := [⟨.identifier, "y"⟩]
    Names x.tail ["x"] ∧
      extremeNumbers.resolve? (path ["o", "x"]) = some (.number (.finite true Value.tiny)) ∧
      extremeNumbers.resolve? (path ["y"]) = some (.number (.infinite false)) ∧
      evaluate context (x ++ Token.operator .equals :: x) = .ok true ∧
      evaluate context (y ++ Token.operator .equals :: y) = .ok false ∧
      evaluate context (y ++ Token.operator .notEquals :: y) = .ok true ∧
      evaluate context (membershipCall y [y]) = .ok false := by
  intro context x y
  have hx : extremeNumbers.resolve? (path ["o", "x"]) =
      some (.number (.finite true Value.tiny)) := by rfl
  have hy : extremeNumbers.resolve? (path ["y"]) = some (.number (.infinite false)) := by rfl
  have hnames : Names x.tail ["x"] := .more .none
  have hfinite := (finite_scalars_equal_themselves _).2 context "o" x.tail ["x"] hnames hx
  have hinfinite := (finite_scalars_equal_themselves _).2 context "y" [] [] .none hy
  exact ⟨hnames, hx, hy, hfinite.1, hinfinite.1, hinfinite.2.1, hinfinite.2.2⟩

end Expression

end CondDoc
