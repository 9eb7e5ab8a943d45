import CondDoc.Proofs.Expression.Simulation

namespace CondDoc

def Value.IsArray (value : Value) : Prop := value.kind = .array

/-- Does the path lead to an array? -/
def Resolver.LeadsToArray (resolver : Resolver) (path : String) : Prop :=
  ∃ value, resolver.resolve? path = some value ∧ value.IsArray

namespace Expression

/-- Both are arrays, or neither is. -/
def AlikeAsArrays (v w : Value) : Prop := v.IsArray ↔ w.IsArray

/-- Any two truths. -/
def AnyTruths (_ _ : Bool) : Prop := True

/-- Both fail, for the same cause, or neither does. -/
abbrev FailAlike {α β : Type} (related : α → β → Prop) :
    Except Cause α → Except Cause β → Prop :=
  Agree (fun _ => False) related

theorem failAlike_of_ok (a b : Bool) : FailAlike AnyTruths (.ok a) (.ok b) := .ok trivial

theorem exists_equal_of_lenient (caseSensitive : Bool) (v w : Value) :
    ∃ answer, Value.equal false caseSensitive v w = .ok answer := by
  unfold Value.equal
  split
  · exact ⟨_, rfl⟩
  · exact ⟨false, rfl⟩

section Calls

variable {options : Options} (hlenient : options.strict = false)

include hlenient

theorem failAlike_equal (v v' w w' : Value) :
    FailAlike AnyTruths (Value.equal options.strict options.caseSensitive v w)
      (Value.equal options.strict options.caseSensitive v' w') := by
  obtain ⟨a, ha⟩ := exists_equal_of_lenient options.caseSensitive v w
  obtain ⟨b, hb⟩ := exists_equal_of_lenient options.caseSensitive v' w'
  rw [hlenient, ha, hb]
  exact failAlike_of_ok a b

theorem exists_anyEqual_of_lenient (value : Value) (items : List Value) :
    ∃ answer, Builtin.anyEqual options value items = .ok answer := by
  induction items with
  | nil => exact ⟨false, rfl⟩
  | cons item items ih =>
    obtain ⟨answer, hanswer⟩ := exists_equal_of_lenient options.caseSensitive value item
    rw [Builtin.anyEqual, hlenient, hanswer, ok_bind]
    cases answer with
    | true => exact ⟨true, rfl⟩
    | false => exact ih

theorem exists_membership_of_isArray (value : Value) {array : Value} (harray : array.IsArray) :
    ∃ answer, Builtin.apply options .membership [value, array] = .ok answer := by
  cases array with
  | array items => exact exists_anyEqual_of_lenient hlenient value items
  | string s => cases harray
  | number x => cases harray
  | boolean b => cases harray
  | object fields => cases harray

omit hlenient in
theorem membership_of_not_isArray (value : Value) {other : Value} (hother : ¬ other.IsArray) :
    Builtin.apply options .membership [value, other] = .error .membershipOfNoArray := by
  cases other with
  | array items => exact absurd rfl hother
  | string s => rfl
  | number x => rfl
  | boolean b => rfl
  | object fields => rfl

theorem failAlike_membership (v v' : Value) {w w' : Value} (hw : AlikeAsArrays w w') :
    FailAlike AnyTruths (Builtin.apply options .membership [v, w])
      (Builtin.apply options .membership [v', w']) := by
  by_cases harray : w.IsArray
  · obtain ⟨a, ha⟩ := exists_membership_of_isArray hlenient v harray
    obtain ⟨b, hb⟩ := exists_membership_of_isArray hlenient v' (hw.1 harray)
    rw [ha, hb]
    exact failAlike_of_ok a b
  · rw [membership_of_not_isArray v harray, membership_of_not_isArray v' (mt hw.2 harray)]
    exact .error _

theorem failAlike_apply (builtin : Builtin) {values values' : List Value}
    (h : List.Forall₂ AlikeAsArrays values values') :
    FailAlike AnyTruths (builtin.apply options values) (builtin.apply options values') := by
  match h with
  | .nil => cases builtin <;> exact .error _
  | .cons _ .nil =>
    cases builtin with
    | presence => exact failAlike_of_ok _ _
    | _ => exact .error _
  | .cons _ (.cons hw .nil) =>
    cases builtin with
    | membership => exact failAlike_membership hlenient _ _ hw
    | presence => exact .error _
    | _ => exact failAlike_of_ok _ _
  | .cons _ (.cons _ (.cons _ hothers)) =>
    -- Too many values for any function: the failure gives their number.
    have hlength := hothers.length_eq
    cases builtin <;>
      simp only [Builtin.apply, List.length_cons, hlength] <;> exact .error _

theorem failAlike_call (name : String) {values values' : List Value}
    (h : List.Forall₂ AlikeAsArrays values values') :
    FailAlike AnyTruths (Builtin.call options name values) (Builtin.call options name values') := by
  unfold Builtin.call
  cases Builtin.named? name with
  | none => exact .error _
  | some builtin => exact failAlike_apply hlenient builtin h

/-- An unknown variable counts as false, which is no array. -/
theorem exists_lookup_of_lenient (resolver : Resolver) (path : String) :
    ∃ value, Context.lookup ⟨resolver, options⟩ path = .ok value ∧
      (value.IsArray ↔ resolver.LeadsToArray path) := by
  unfold Context.lookup Resolver.LeadsToArray
  dsimp only
  rw [hlenient]
  cases resolver.resolve? path with
  | none =>
    refine ⟨.boolean false, rfl, ?_⟩
    constructor
    · intro harray
      cases harray
    · rintro ⟨value, hvalue, -⟩
      cases hvalue
  | some value =>
    refine ⟨value, rfl, ?_⟩
    constructor
    · intro harray
      exact ⟨value, rfl, harray⟩
    · rintro ⟨value, hvalue, harray⟩
      cases hvalue
      exact harray

end Calls

theorem simulates_lenient {options : Options} (hlenient : options.strict = false)
    {left right : Resolver} (h : ∀ path, left.LeadsToArray path ↔ right.LeadsToArray path) :
    Simulates ⟨left, options⟩ ⟨right, options⟩ (fun _ => False) AlikeAsArrays AnyTruths where
  lookup path := by
    obtain ⟨v, hv, hleft⟩ := exists_lookup_of_lenient hlenient left path
    obtain ⟨w, hw, hright⟩ := exists_lookup_of_lenient hlenient right path
    rw [hv, hw]
    exact .ok (hleft.trans ((h path).trans hright.symm))
  equal _ _ := failAlike_equal hlenient _ _ _ _
  call name _ _ := failAlike_call hlenient name
  truthy _ := trivial
  boolean _ := .rfl
  array _ := .rfl
  refl _ := .rfl
  or _ _ := trivial
  and _ _ := trivial
  not _ := trivial

/-- In lenient mode an expression fails with some arguments exactly if it fails with others, and for
the same cause, when the same paths lead to arrays in both. -/
theorem evaluate_fails_alike {options : Options} (hlenient : options.strict = false)
    {left right : Resolver} (h : ∀ path, left.LeadsToArray path ↔ right.LeadsToArray path)
    (tokens : List Token) (cause : Cause) :
    evaluate ⟨left, options⟩ tokens = .error cause ↔
      evaluate ⟨right, options⟩ tokens = .error cause :=
  (agree_evaluate (simulates_lenient hlenient h) tokens).eq_error_iff (fun _ => id) cause

/-- `in(tags, x)` -/
def membershipTokens : List Token :=
  [⟨.identifier, "in"⟩, ⟨.leftParen, "("⟩, ⟨.identifier, "tags"⟩, ⟨.comma, ","⟩,
    ⟨.identifier, "x"⟩, ⟨.rightParen, ")"⟩]

/-- Arguments with one array. -/
def tagged (items : List Value) : Resolver := ⟨[("tags", .array items)]⟩

theorem field?_tagged (items : List Value) (name : String) :
    Resolver.field? (tagged items).fields name =
      if "tags" == name || Text.lower "tags" == Text.lower name ||
        Resolver.normalized "tags" == Resolver.normalized name then some (.array items)
      else none := by
  have hfind (test : String → Bool) : Ordered.find? test (tagged items).fields =
      if test "tags" then some (.array items) else none := Ordered.find?_cons _ _ _
  rw [Resolver.field?, hfind, hfind, hfind]
  generalize (Text.lower "tags" == Text.lower name) = sameCase
  generalize (Resolver.normalized "tags" == Resolver.normalized name) = sameNormal
  cases "tags" == name <;> cases sameCase <;> cases sameNormal <;> rfl

/-- Which array it is makes no difference. -/
theorem leadsToArray_tagged {items : List Value} {path : String}
    (h : (tagged items).LeadsToArray path) (items' : List Value) :
    (tagged items').LeadsToArray path := by
  obtain ⟨value, hvalue, harray⟩ := h
  unfold Resolver.LeadsToArray
  unfold Resolver.resolve? at hvalue ⊢
  split at hvalue
  · cases hvalue
  next hpath =>
  rw [if_neg hpath]
  cases hnames : Text.splitAt '.' path with
  | nil =>
    rw [hnames] at hvalue
    cases hvalue
    cases harray
  | cons name names =>
    rw [hnames, Resolver.follow?, field?_tagged] at hvalue
    rw [Resolver.follow?, field?_tagged]
    split at hvalue
    · cases hvalue
    next hname =>
    rw [if_neg hname]
    split at hvalue
    · next hmeant =>
      rw [if_pos hmeant]
      cases names with
      | nil => exact ⟨_, rfl, rfl⟩
      | cons _ _ => cases hvalue
    · cases hvalue

/-- An argument that is a variable, with a known value. -/
theorem outcome_argument_variable {context : Context} {name : String} {value : Value}
    {rest : List Token} (hlookup : context.lookup (path [name]) = .ok value)
    (hparen : nextKind rest ≠ some .leftParen) (hdot : nextKind rest ≠ some .dot) :
    outcome (argument context (⟨.identifier, name⟩ :: rest)) = .ok (value, rest) := by
  have hname : nextKind (⟨.identifier, name⟩ :: rest) ≠ some .leftBracket := by simp [nextKind]
  have hread : outcome (primary context (⟨.identifier, name⟩ :: rest)) =
      (context.lookup (path [name])).map fun value => (value, rest) :=
    outcome_primary_path .none hdot hparen
  rw [outcome_argument_primary hname, hread, hlookup]
  rfl

/-- The second argument is unknown, whatever the array in the first one. -/
theorem evaluate_membershipTokens :
    (∀ path, (tagged [.string "a"]).LeadsToArray path ↔ (tagged []).LeadsToArray path) ∧
      evaluate ⟨tagged [.string "a"], .standard⟩ membershipTokens = .error .membershipOfNoArray ∧
      evaluate ⟨tagged [], .standard⟩ membershipTokens = .error .membershipOfNoArray := by
  have hpaths (path : String) :
      (tagged [.string "a"]).LeadsToArray path ↔ (tagged []).LeadsToArray path :=
    ⟨fun h => leadsToArray_tagged h _, fun h => leadsToArray_tagged h _⟩
  let context : Context := ⟨tagged [.string "a"], .standard⟩
  have htags : context.lookup (path ["tags"]) = .ok (.array [.string "a"]) := by rfl
  have hx : context.lookup (path ["x"]) = .ok (.boolean false) := by rfl
  have hlast : outcome (argumentsFrom context [⟨.identifier, "x"⟩, ⟨.rightParen, ")"⟩]) =
      .ok ([.boolean false], []) := by
    rw [outcome_argumentsFrom, outcome_argument_variable hx (by decide) (by decide), ok_bind,
      elementsFrom_close (by decide)]
  have harguments : outcome (arguments context (membershipTokens.drop 2)) =
      .ok ([.array [.string "a"], .boolean false], []) := by
    change outcome (arguments context (⟨.identifier, "tags"⟩ :: ⟨.comma, ","⟩ :: _)) = _
    rw [outcome_arguments_some (by decide), outcome_argumentsFrom,
      outcome_argument_variable htags (by decide) (by decide), ok_bind, elementsFrom_comma, hlast]
    rfl
  have hleft : evaluate context membershipTokens = .error .membershipOfNoArray := by
    change evaluate context
      (⟨.identifier, "in"⟩ :: ⟨.leftParen, "("⟩ :: membershipTokens.drop 2) = _
    rw [evaluate_of_ne_nil (List.cons_ne_nil _ _), outcome_disjunction, outcome_conjunction,
      outcome_negation_stop (by decide), outcome_comparison, outcome_primary_identifier,
      outcome_reference_leftParen, harguments]
    rfl
  exact ⟨hpaths, hleft, (evaluate_fails_alike rfl hpaths membershipTokens _).1 hleft⟩

end Expression

end CondDoc
