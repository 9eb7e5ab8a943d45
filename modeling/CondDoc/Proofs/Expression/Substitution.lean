import CondDoc.Proofs.Expression.Simulation

namespace CondDoc.Expression

/-- Either phrase may stand for the other in every expression that holds it. In front of it there is
no token of a path, and behind it nothing that would go on with a path or make it a call. -/
def Interchangeable (context : Context) (first second : List Token) : Prop :=
  ∀ before behind : List Token,
    (∀ token ∈ before.getLast?, token.kind ≠ .identifier ∧ token.kind ≠ .dot) →
    nextKind behind ≠ some .dot → nextKind behind ≠ some .leftParen →
    ∀ answer, evaluate context (before ++ first ++ behind) = .ok answer ↔
      evaluate context (before ++ second ++ behind) = .ok answer

/-- The literal of a truth value. -/
def truthToken (answer : Bool) : Token := ⟨.boolean, if answer then "true" else "false"⟩

theorem inPath_eq_false {kind : TokenKind} (h : kind ≠ .identifier ∧ kind ≠ .dot) :
    kind.inPath = false := by
  cases kind with
  | identifier => exact absurd rfl h.1
  | dot => exact absurd rfl h.2
  | _ => rfl

variable {context : Context} {tokens first second : List Token} {value : Value}

/-- A primary that is read to its end is a phrase. -/
theorem outcome_primary_eq_ok_iff :
    outcome (primary context tokens) = .ok (value, []) ↔
      Derives context .primary tokens value := by
  constructor
  · intro h
    obtain ⟨used, hused, hderives⟩ := begins_of_primary tokens h
    rw [hused, List.append_nil]
    exact hderives
  · intro h
    have hread := reads_of_derives h [] (Category.endsBefore_nil _)
    rw [List.append_nil] at hread
    exact hread

theorem simulates_self (context : Context) :
    Simulates context context (fun _ => True) Eq Eq where
  lookup _ := .refl _
  equal hleft hright := by
    rw [hleft, hright]
    exact .refl _
  call name values values' hvalues := by
    rw [List.forall₂_eq_eq_eq] at hvalues
    rw [hvalues]
    exact .refl _
  truthy := congrArg Value.truthy
  boolean := congrArg Value.boolean
  array hitems := by
    rw [List.forall₂_eq_eq_eq] at hitems
    rw [hitems]
  refl _ := rfl
  or ha hb := by rw [ha, hb]
  and ha hb := by rw [ha, hb]
  not ha := by rw [ha]

/-- With one phrase in the place of another, an evaluation that succeeds does so again. -/
theorem evaluate_replaced (hfirst : Derives context .primary first value)
    (hsecond : Derives context .primary second value) {before behind : List Token}
    (hbefore : ∀ token ∈ before.getLast?, token.kind.inPath = false)
    (hbehind : Category.primary.EndsBefore behind) {answer : Bool}
    (h : evaluate context (before ++ (first ++ behind)) = .ok answer) :
    evaluate context (before ++ (second ++ behind)) = .ok answer := by
  let swap (phrase other : List Token) : Prop := phrase = first ∧ other = second
  have hsound : Sound context context (fun _ => True) Eq swap := by
    rintro _ _ ⟨rfl, rfl⟩
    exact ⟨fun _ => trivial, value, value, hfirst, hsecond, rfl⟩
  have hreplaced :
      Replaced swap true (before ++ (first ++ behind)) (before ++ (second ++ behind)) :=
    .between ⟨rfl, rfl⟩ hbefore hbehind
  rcases (agree_evaluate_replaced (simulates_self context) hsound hreplaced).eq_or_excused with
    hsame | ⟨cause, herror, -⟩
  · exact hsame.symm.trans h
  · cases h.symm.trans herror

theorem interchangeable_of_derives (hfirst : Derives context .primary first value)
    (hsecond : Derives context .primary second value) :
    Interchangeable context first second := by
  intro before behind hlast hdot hparen answer
  have hbefore : ∀ token ∈ before.getLast?, token.kind.inPath = false :=
    fun token htoken => inPath_eq_false (hlast token htoken)
  have hbehind : Category.primary.EndsBefore behind := by
    intro kind hkind
    rcases List.mem_cons.1 hkind with rfl | hkind
    · exact hparen
    · obtain rfl := List.mem_singleton.1 hkind
      exact hdot
  rw [List.append_assoc, List.append_assoc]
  exact ⟨evaluate_replaced hfirst hsecond hbefore hbehind,
    evaluate_replaced hsecond hfirst hbefore hbehind⟩

theorem derives_truthToken (answer : Bool) :
    Derives context .primary [truthToken answer] (.boolean answer) := by
  have htext : ((if answer then "true" else "false") == "true") = answer := by
    cases answer <;> rfl
  have hderives : Derives context .primary [truthToken answer] _ := .boolean
  rwa [htext] at hderives

/-- Two primaries with the same value are interchangeable. So are an expression in parentheses and
the literal of its truth, a variable and a literal of its value, and in lenient mode an unknown
variable and the literal of falsehood. -/
theorem primaries_interchangeable (context : Context) :
    (∀ first second value, outcome (primary context first) = .ok (value, []) →
      outcome (primary context second) = .ok (value, []) →
        Interchangeable context first second) ∧
    (∀ tokens opening closing answer, evaluate context tokens = .ok answer →
      Interchangeable context (⟨.leftParen, opening⟩ :: (tokens ++ [⟨.rightParen, closing⟩]))
        [truthToken answer]) ∧
    (∀ name tokens names value literal, Names tokens names →
      context.resolver.resolve? (path (name :: names)) = some value →
        literal? literal = some (.ok value) →
          Interchangeable context (⟨.identifier, name⟩ :: tokens) [literal]) ∧
    (context.options.strict = false →
      ∀ name tokens names, Names tokens names →
        context.resolver.resolve? (path (name :: names)) = none →
          Interchangeable context (⟨.identifier, name⟩ :: tokens) [truthToken false]) := by
  refine ⟨?_, ?_, ?_, ?_⟩
  · intro first second value hfirst hsecond
    exact interchangeable_of_derives (outcome_primary_eq_ok_iff.1 hfirst)
      (outcome_primary_eq_ok_iff.1 hsecond)
  · intro tokens opening closing answer hanswer
    exact interchangeable_of_derives (.parentheses (derives_of_evaluate hanswer))
      (derives_truthToken answer)
  · intro name tokens names value literal hnames hvalue hliteral
    exact interchangeable_of_derives (.reference hnames (.known hvalue))
      (derives_of_literal hliteral)
  · intro hlenient name tokens names hnames hnone
    exact interchangeable_of_derives (.reference hnames (.unknown hnone hlenient))
      (derives_truthToken false)

/-- `!(a)` -/
def notParenthesised : List Token :=
  [⟨.not, "!"⟩, ⟨.leftParen, "("⟩, ⟨.identifier, "a"⟩, ⟨.rightParen, ")"⟩]

/-- Where nothing is known, `(a)` can be replaced by `b`, and `b` by `false`. -/
theorem evaluate_notParenthesised :
    outcome (primary ⟨⟨[]⟩, .standard⟩ notParenthesised.tail) = .ok (.boolean false, []) ∧
      outcome (primary ⟨⟨[]⟩, .standard⟩ [⟨.identifier, "b"⟩]) = .ok (.boolean false, []) ∧
      evaluate ⟨⟨[]⟩, .standard⟩ [⟨.not, "!"⟩, ⟨.identifier, "b"⟩] = .ok true ∧
      evaluate ⟨⟨[]⟩, .standard⟩ notParenthesised = .ok true := by
  let context : Context := ⟨⟨[]⟩, .standard⟩
  have ha : Derives context .primary [⟨.identifier, "a"⟩] (.boolean false) :=
    .reference .none (.unknown rfl rfl)
  have hb : Derives context .primary [⟨.identifier, "b"⟩] (.boolean false) :=
    .reference .none (.unknown rfl rfl)
  have hfirst : outcome (primary context notParenthesised.tail) = .ok (.boolean false, []) :=
    outcome_primary_eq_ok_iff.2
      (.parentheses (.conjunction (.negation (.comparison (.truth ha)))))
  have hsecond : outcome (primary context [⟨.identifier, "b"⟩]) = .ok (.boolean false, []) :=
    outcome_primary_eq_ok_iff.2 hb
  obtain ⟨hsame, -, -, hlenient⟩ := primaries_interchangeable context
  have hbefore : ∀ token ∈ [(⟨.not, "!"⟩ : Token)].getLast?,
      token.kind ≠ .identifier ∧ token.kind ≠ .dot := by
    rintro token ⟨⟩
    decide
  have hfalse : evaluate context [⟨.not, "!"⟩, truthToken false] = .ok true :=
    evaluate_of_derives (.conjunction (.negation (.not (.comparison (.truth
      (derives_truthToken false))))))
  have hb : evaluate context [⟨.not, "!"⟩, ⟨.identifier, "b"⟩] = .ok true :=
    (hlenient rfl "b" [] [] .none rfl [⟨.not, "!"⟩] [] hbefore (by decide) (by decide) true).2
      hfalse
  exact ⟨hfirst, hsecond, hb,
    (hsame _ _ _ hfirst hsecond [⟨.not, "!"⟩] [] hbefore (by decide) (by decide) true).2 hb⟩

end CondDoc.Expression
