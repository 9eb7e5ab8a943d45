import CondDoc.Proofs.Expression.Phrase

namespace CondDoc.Expression

variable {context : Context} {tokens rest : List Token} {names : List String}

/-- A path that goes on with one more name. -/
theorem Names.concat (h : Names tokens names) (dot name : String) :
    Names (tokens ++ [⟨.dot, dot⟩, ⟨.identifier, name⟩]) (names ++ [name]) := by
  induction h with
  | none => exact .more .none
  | more _ ih => exact .more ih

/-- A path in front of a function is its first value. -/
theorem outcome_primary_receiver (h : Names tokens names) (first function dot opening : String)
    (rest : List Token) :
    outcome (primary context (⟨.identifier, first⟩ ::
        (tokens ++ ⟨.dot, dot⟩ :: ⟨.identifier, function⟩ :: ⟨.leftParen, opening⟩ :: rest))) =
      context.lookup (path (first :: names)) >>= fun receiver =>
        outcome (arguments context rest) >>= fun values =>
          callWith context function (receiver :: values.1, values.2) := by
  have hmethod := @outcome_primary_method context _ rest opening first function names
    (h.concat dot function)
  rwa [List.append_assoc] at hmethod

/-- A path that is the first argument of a call is looked up before what stands behind it is read. -/
theorem outcome_arguments_path (h : Names tokens names) (first : String)
    (hdot : nextKind rest ≠ some .dot) (hparen : nextKind rest ≠ some .leftParen) :
    outcome (arguments context (⟨.identifier, first⟩ :: (tokens ++ rest))) =
      context.lookup (path (first :: names)) >>= fun value =>
        elementsFrom .rightParen .commaOrParen (fun behind => outcome (argumentsFrom context behind))
          (value, rest) := by
  have hclose : nextKind (⟨.identifier, first⟩ :: (tokens ++ rest)) ≠ some .rightParen := by
    simp [nextKind]
  have harray : nextKind (⟨.identifier, first⟩ :: (tokens ++ rest)) ≠ some .leftBracket := by
    simp [nextKind]
  rw [outcome_arguments_some hclose, outcome_argumentsFrom, outcome_argument_primary harray,
    outcome_primary_path h hdot hparen]
  cases context.lookup (path (first :: names)) <;> rfl

/-- The first argument of a call may as well stand in front of it: the same value results and the
same tokens are left, or both calls fail for the same cause. Behind the parenthesis there may be
anything; but a list of arguments does not end behind a comma. -/
theorem method_call_eq_call {path : List Token} {names : List String} (hpath : Names path names)
    (context : Context) (first function dot opening comma closing : String) (rest : List Token) :
    (nextKind rest ≠ some .rightParen →
      outcome (primary context (⟨.identifier, first⟩ ::
          (path ++ ⟨.dot, dot⟩ :: ⟨.identifier, function⟩ :: ⟨.leftParen, opening⟩ :: rest))) =
        outcome (primary context (⟨.identifier, function⟩ :: ⟨.leftParen, opening⟩ ::
          ⟨.identifier, first⟩ :: (path ++ ⟨.comma, comma⟩ :: rest)))) ∧
    outcome (primary context (⟨.identifier, first⟩ ::
        (path ++ ⟨.dot, dot⟩ :: ⟨.identifier, function⟩ :: ⟨.leftParen, opening⟩ ::
          ⟨.rightParen, closing⟩ :: rest))) =
      outcome (primary context (⟨.identifier, function⟩ :: ⟨.leftParen, opening⟩ ::
        ⟨.identifier, first⟩ :: (path ++ ⟨.rightParen, closing⟩ :: rest))) := by
  constructor
  · intro hrest
    have hdot : nextKind (⟨.comma, comma⟩ :: rest) ≠ some .dot := by simp [nextKind]
    have hparen : nextKind (⟨.comma, comma⟩ :: rest) ≠ some .leftParen := by simp [nextKind]
    rw [outcome_primary_receiver hpath, outcome_primary_call,
      outcome_arguments_path hpath first hdot hparen, outcome_arguments_some hrest]
    cases context.lookup (Expression.path (first :: names)) with
    | error cause => rfl
    | ok receiver =>
      rw [ok_bind, ok_bind, elementsFrom_comma]
      cases outcome (argumentsFrom context rest) <;> rfl
  · have hdot : nextKind (⟨.rightParen, closing⟩ :: rest) ≠ some .dot := by simp [nextKind]
    have hparen : nextKind (⟨.rightParen, closing⟩ :: rest) ≠ some .leftParen := by simp [nextKind]
    rw [outcome_primary_receiver hpath, outcome_primary_call,
      outcome_arguments_path hpath first hdot hparen, outcome_arguments_none]
    cases context.lookup (Expression.path (first :: names)) with
    | error cause => rfl
    | ok receiver => rw [ok_bind, ok_bind, ok_bind, elementsFrom_close (by decide), ok_bind]

/-- Arguments with a user whose name is Ada, in strict mode. -/
def adaContext : Context :=
  ⟨⟨[("user", .object [("name", .string "Ada")])]⟩, { Options.standard with strict := true }⟩

/-- `.name` -/
def nameTokens : List Token := [⟨.dot, "."⟩, ⟨.identifier, "name"⟩]

/-- `user.name.startsWith("A")` is `startsWith(user.name, "A")`, and `user.name.startsWith()` fails as
`startsWith(user.name)` does. -/
theorem startsWith_behind_path :
    Names nameTokens ["name"] ∧
      nextKind [⟨.string, "A"⟩, ⟨.rightParen, ")"⟩] ≠ some .rightParen ∧
      outcome (primary adaContext (⟨.identifier, "user"⟩ :: (nameTokens ++
        [⟨.dot, "."⟩, ⟨.identifier, "startsWith"⟩, ⟨.leftParen, "("⟩, ⟨.string, "A"⟩,
          ⟨.rightParen, ")"⟩]))) = .ok (.boolean true, []) ∧
      outcome (primary adaContext (⟨.identifier, "user"⟩ :: (nameTokens ++
        [⟨.dot, "."⟩, ⟨.identifier, "startsWith"⟩, ⟨.leftParen, "("⟩, ⟨.rightParen, ")"⟩]))) =
        .error (.wrongArity "startsWith" 2 1) := by
  have hpath : Names nameTokens ["name"] := .more .none
  have hrest : nextKind [⟨.string, "A"⟩, ⟨.rightParen, ")"⟩] ≠ some .rightParen := by decide
  have hlookup : adaContext.lookup (path ["user", "name"]) = .ok (.string "Ada") := by rfl
  have hlast : outcome (argumentsFrom adaContext [⟨.string, "A"⟩, ⟨.rightParen, ")"⟩]) =
      .ok ([.string "A"], []) := by
    rw [outcome_argumentsFrom, outcome_argument_primary (by decide),
      outcome_primary_literal (by decide) (by decide) (by decide)]
    rfl
  have hsome := (method_call_eq_call hpath adaContext "user" "startsWith" "." "(" "," ")"
    [⟨.string, "A"⟩, ⟨.rightParen, ")"⟩]).1 hrest
  have hnone := (method_call_eq_call hpath adaContext "user" "startsWith" "." "(" "," ")" []).2
  refine ⟨hpath, hrest, hsome.trans ?_, hnone.trans ?_⟩
  · rw [outcome_primary_call, outcome_arguments_path hpath "user" (by decide) (by decide), hlookup,
      ok_bind, elementsFrom_comma, hlast]
    rfl
  · rw [outcome_primary_call, outcome_arguments_path hpath "user" (by decide) (by decide), hlookup,
      ok_bind, elementsFrom_close (by decide)]
    rfl

end CondDoc.Expression
