import CondDoc.Proofs.Expression.Static

namespace CondDoc.Expression

/-- `in(v, [a, b])` -/
def membershipCall (value : List Token) (items : List (List Token)) : List Token :=
  ⟨.identifier, "in"⟩ :: Token.operator .leftParen ::
    ((value ++ Token.operator .comma :: Token.operator .leftBracket ::
      ([Token.operator .comma].intercalate items ++ [Token.operator .rightBracket])) ++
        [Token.operator .rightParen])

/-- `v == a || v == b` -/
def comparisonChain (value : List Token) (items : List (List Token)) : List Token :=
  [Token.operator .or].intercalate (items.map fun item => value ++ Token.operator .equals :: item)

/-- What a primary comes to. -/
def valueOf (context : Context) (tokens : List Token) : Except Cause Value :=
  (outcome (primary context tokens)).map fun result => result.1

/-- Is the value of one primary equal to that of one of the others? Each is read and compared, and the
first failure counts. -/
def equalsAny (context : Context) (value : List Token) : List (List Token) → Except Cause Bool
  | [] => .ok false
  | item :: items => do
    let x ← valueOf context value
    let y ← valueOf context item
    let same ← context.equal x y
    let others ← equalsAny context value items
    return same || others

variable {context : Context} {value : List Token} {items : List (List Token)}

theorem equalsAny_cons (item : List Token) :
    equalsAny context value (item :: items) =
      (valueOf context value >>= fun x => valueOf context item >>= fun y => context.equal x y) >>=
        fun same => (equalsAny context value items).map fun others => same || others := by
  rw [equalsAny]
  cases valueOf context value with
  | error cause => rfl
  | ok x => cases valueOf context item <;> rfl

/-- Disjunctions of results may be bracketed either way. -/
theorem or_results_assoc (a b c : Except Cause Bool) :
    ((a >>= fun x => b.map fun y => x || y) >>= fun x => c.map fun y => x || y) =
      a >>= fun x => (b >>= fun y => c.map fun z => y || z).map fun y => x || y := by
  cases a with
  | error cause => rfl
  | ok x =>
    cases b with
    | error cause => rfl
    | ok y =>
      cases c with
      | error cause => rfl
      | ok z => exact congrArg Except.ok (Bool.or_assoc x y z)

theorem valueOf_of_settles {tokens : List Token} {result : Except Cause Value}
    (h : Settles context .primary tokens result) : valueOf context tokens = result := by
  have hread := h [] (Category.endsBefore_nil _)
  rw [List.append_nil] at hread
  rw [valueOf, hread]
  cases result <;> rfl

theorem settles_valueOf {tokens : List Token} (h : Phrase .primary tokens) :
    Settles context .primary tokens (valueOf context tokens) := by
  obtain ⟨result, hresult⟩ := exists_settles_of_phrase h context
  exact hresult.of_eq (valueOf_of_settles hresult).symm

/-- Parts with separators between them are the first part, and the others each behind a separator. -/
theorem intercalate_cons_eq {α : Type} (sep first : List α) (others : List (List α)) :
    sep.intercalate (first :: others) = first ++ others.flatMap fun part => sep ++ part := by
  induction others generalizing first with
  | nil => simp
  | cons next others ih =>
    rw [List.intercalate_cons_cons, ih, List.flatMap_cons, List.append_assoc, List.append_assoc]

theorem settles_items (hitems : ∀ item ∈ items, Phrase .primary item) (hsome : items ≠ []) :
    Phrase .itemList ([Token.operator .comma].intercalate items) ∧
      Settles context .itemList ([Token.operator .comma].intercalate items)
        (items.mapM (valueOf context)) := by
  induction items with
  | nil => exact absurd rfl hsome
  | cons item items ih =>
    obtain ⟨hitem, hitems⟩ := List.forall_mem_cons.1 hitems
    have hfirst : Settles context .primary item (valueOf context item) := settles_valueOf hitem
    rw [List.mapM_cons]
    cases items with
    | nil =>
      rw [List.intercalate_singleton, List.mapM_nil]
      refine ⟨.lastItem hitem, ?_⟩
      have hlast := hfirst.lastItem
      cases hvalue : valueOf context item with
      | error cause => rwa [hvalue] at hlast
      | ok v => rwa [hvalue] at hlast
    | cons next items =>
      obtain ⟨hphrase, hothers⟩ := ih hitems (List.cons_ne_nil _ _)
      rw [List.intercalate_cons_cons, List.append_assoc, List.singleton_append]
      exact ⟨.nextItem hitem hphrase, Settles.nextItem hfirst hothers⟩

theorem settles_equals (hvalue : Phrase .primary value) {item : List Token}
    (hitem : Phrase .primary item) :
    Settles context .conjunction (value ++ Token.operator .equals :: item)
      (valueOf context value >>= fun x => valueOf context item >>= fun y => context.equal x y) := by
  have hequals := @Settles.equals context value item "==" _ _ (settles_valueOf hvalue)
    (settles_valueOf hitem)
  exact (Settles.comparison (.equals hvalue hitem) hequals).negation

/-- Comparisons behind a disjunction are added to it one by one. -/
theorem settles_comparisons (hvalue : Phrase .primary value)
    (hitems : ∀ item ∈ items, Phrase .primary item) {before : List Token} {a : Except Cause Bool}
    (hbefore : Settles context .disjunction before a) :
    Settles context .disjunction
      (before ++ items.flatMap fun item =>
        [Token.operator .or] ++ (value ++ Token.operator .equals :: item))
      (a >>= fun x => (equalsAny context value items).map fun y => x || y) := by
  induction items generalizing before a with
  | nil =>
    have heq : a = a >>= fun x => (equalsAny context value []).map fun y => x || y := by
      cases a with
      | error cause => rfl
      | ok x => exact congrArg Except.ok (Bool.or_false x).symm
    rw [List.flatMap_nil, List.append_nil]
    exact hbefore.of_eq heq
  | cons item items ih =>
    obtain ⟨hitem, hitems⟩ := List.forall_mem_cons.1 hitems
    have hchain := ih hitems (@Settles.or context _ _ "||" _ _ hbefore
      (settles_equals hvalue hitem))
    rw [List.append_assoc] at hchain
    rw [equalsAny_cons]
    exact hchain.of_eq (or_results_assoc _ _ _)

theorem settles_membershipCall (hvalue : Phrase .primary value)
    (hitems : ∀ item ∈ items, Phrase .primary item) (hsome : items ≠ []) :
    Phrase .primary (membershipCall value items) ∧
      Settles context .primary (membershipCall value items)
        ((valueOf context value >>= fun x => items.mapM (valueOf context) >>= fun ys =>
          context.call "in" [x, .array ys]).map .boolean) := by
  obtain ⟨hphrase, hlist⟩ := @settles_items context items hitems hsome
  have hvalueRead : Settles context .primary value (valueOf context value) := settles_valueOf hvalue
  have harray := @Settles.array context _ "[" "]" _ hphrase hlist
  have harguments := Settles.someArguments
    (.nextArgument (.plainArgument hvalue) (.lastArgument (.array hphrase)))
    (@Settles.nextArgument context "," _ _ _ _ (.plainArgument hvalue hvalueRead)
      (.lastArgument harray))
  refine ⟨.call (.someArguments
    (.nextArgument (.plainArgument hvalue) (.lastArgument (.array hphrase)))), ?_⟩
  refine (@Settles.call context _ "(" ")" "in" _ harguments).of_eq ?_
  cases valueOf context value with
  | error cause => rfl
  | ok x => cases items.mapM (valueOf context) <;> rfl

theorem anyEqual_cons {options : Options} {x y : Value} {ys : List Value} {same others : Bool}
    (hsame : Value.equal options.strict options.caseSensitive x y = .ok same)
    (hothers : Builtin.anyEqual options x ys = .ok others) :
    Builtin.anyEqual options x (y :: ys) = .ok (same || others) := by
  rw [Builtin.anyEqual, hsame, ok_bind]
  cases same with
  | true => rfl
  | false => exact hothers

/-- When all comparisons succeed, so does the search, which may stop earlier. -/
theorem anyEqual_of_equalsAny {x : Value} (hvalue : valueOf context value = .ok x) {answer : Bool}
    (h : equalsAny context value items = .ok answer) :
    ∃ ys, items.mapM (valueOf context) = .ok ys ∧
      Builtin.anyEqual context.options x ys = .ok answer := by
  induction items generalizing answer with
  | nil =>
    cases h
    exact ⟨[], rfl, rfl⟩
  | cons item items ih =>
    rw [equalsAny_cons, hvalue, ok_bind] at h
    obtain ⟨same, hcompared, h⟩ := bind_eq_ok_iff.1 h
    obtain ⟨y, hitem, hsame⟩ := bind_eq_ok_iff.1 hcompared
    obtain ⟨others, hothers, rfl⟩ := map_eq_ok_iff.1 h
    obtain ⟨ys, hys, hany⟩ := ih hothers
    refine ⟨y :: ys, ?_, anyEqual_cons hsame hany⟩
    rw [List.mapM_cons, hitem, hys]
    rfl

/-- In lenient mode no comparison fails, so the first failure is that of an item. -/
theorem equalsAny_of_lenient {x : Value} (hlenient : context.options.strict = false)
    (hvalue : valueOf context value = .ok x) :
    equalsAny context value items =
      items.mapM (valueOf context) >>= fun ys => Builtin.anyEqual context.options x ys := by
  induction items with
  | nil => rfl
  | cons item items ih =>
    rw [equalsAny_cons, hvalue, ok_bind, ih, List.mapM_cons]
    cases valueOf context item with
    | error cause => rfl
    | ok y =>
      obtain ⟨same, hsame⟩ := exists_equal_of_lenient context.options.caseSensitive x y
      rw [← hlenient] at hsame
      have hequal : context.equal x y = .ok same := hsame
      rw [ok_bind, hequal, ok_bind, ok_bind]
      cases items.mapM (valueOf context) with
      | error cause => rfl
      | ok ys =>
        obtain ⟨others, hothers⟩ := exists_anyEqual_of_lenient hlenient x ys
        change (Builtin.anyEqual context.options x ys).map _ =
          Builtin.anyEqual context.options x (y :: ys)
        rw [hothers, anyEqual_cons hsame hothers]
        rfl

theorem call_membership (options : Options) (x : Value) (ys : List Value) :
    Builtin.call options "in" [x, .array ys] = Builtin.anyEqual options x ys := by
  have hname : Builtin.named? "in" = some .membership := by rfl
  rw [Builtin.call, hname]
  rfl

theorem evaluate_membershipCall (hvalue : Phrase .primary value)
    (hitems : ∀ item ∈ items, Phrase .primary item) (hsome : items ≠ []) :
    evaluate context (membershipCall value items) =
      valueOf context value >>= fun x => items.mapM (valueOf context) >>= fun ys =>
        Builtin.anyEqual context.options x ys := by
  obtain ⟨hphrase, hsettles⟩ := @settles_membershipCall context value items hvalue hitems hsome
  rw [evaluate_of_settles_primary hphrase hsettles]
  cases valueOf context value with
  | error cause => rfl
  | ok x =>
    cases items.mapM (valueOf context) with
    | error cause => rfl
    | ok ys =>
      rw [ok_bind, ok_bind, ok_bind, ok_bind, ← call_membership]
      change ((Builtin.call context.options "in" _).map _).map _ = _
      cases Builtin.call context.options "in" [x, .array ys] <;> rfl

theorem evaluate_comparisonChain (hvalue : Phrase .primary value)
    (hitems : ∀ item ∈ items, Phrase .primary item) (hsome : items ≠ []) :
    evaluate context (comparisonChain value items) = equalsAny context value items := by
  obtain ⟨item, items, rfl⟩ := List.exists_cons_of_ne_nil hsome
  obtain ⟨hitem, hitems⟩ := List.forall_mem_cons.1 hitems
  have hfirst : Settles context .conjunction (value ++ Token.operator .equals :: item) _ :=
    settles_equals hvalue hitem
  have hchain := settles_comparisons hvalue hitems hfirst.conjunction
  have heq : comparisonChain value (item :: items) =
      (value ++ Token.operator .equals :: item) ++ items.flatMap fun item =>
        [Token.operator .or] ++ (value ++ Token.operator .equals :: item) := by
    rw [comparisonChain, List.map_cons, intercalate_cons_eq, List.flatMap_map]
  have hne : comparisonChain value (item :: items) ≠ [] := by simp [heq]
  rw [← heq] at hchain
  exact (evaluate_of_settles hne hchain).trans (equalsAny_cons item).symm

/-- In lenient mode a value is in an array of items exactly if it equals one of them, and the two
expressions fail for the same cause. In strict mode the membership is decided alike whenever all of
the comparisons can be made. -/
theorem membership_eq_comparisons (resolver : Resolver) (options : Options) {value : List Token}
    {items : List (List Token)} (hvalue : Phrase .primary value)
    (hitems : ∀ item ∈ items, Phrase .primary item) (hsome : items ≠ []) :
    (options.strict = false →
      evaluate ⟨resolver, options⟩ (membershipCall value items) =
        evaluate ⟨resolver, options⟩ (comparisonChain value items)) ∧
    ∀ answer, evaluate ⟨resolver, options⟩ (comparisonChain value items) = .ok answer →
      evaluate ⟨resolver, options⟩ (membershipCall value items) = .ok answer := by
  rw [evaluate_membershipCall hvalue hitems hsome, evaluate_comparisonChain hvalue hitems hsome]
  cases hread : valueOf ⟨resolver, options⟩ value with
  | error cause =>
    -- There is at least one item, so the failing value is read on either side.
    obtain ⟨item, items, rfl⟩ := List.exists_cons_of_ne_nil hsome
    rw [equalsAny_cons, hread]
    refine ⟨fun _ => rfl, fun answer h => ?_⟩
    cases h
  | ok x =>
    rw [ok_bind]
    refine ⟨fun hlenient => (equalsAny_of_lenient hlenient hread).symm, fun answer h => ?_⟩
    obtain ⟨ys, hys, hany⟩ := anyEqual_of_equalsAny hread h
    rw [hys]
    exact hany

theorem valueOf_variable {name : String} {x : Value} (h : context.lookup (path [name]) = .ok x) :
    valueOf context [⟨.identifier, name⟩] = .ok x := by
  have hread : outcome (primary context (⟨.identifier, name⟩ :: ([] ++ []))) = _ :=
    outcome_primary_path .none (by simp [nextKind]) (by simp [nextKind])
  rw [h] at hread
  rw [valueOf]
  exact congrArg (Except.map _) hread

theorem valueOf_string (text : String) : valueOf context [⟨.string, text⟩] = .ok (.string text) := by
  rw [valueOf, outcome_primary_literal (by decide) (by decide) (by decide)]
  rfl

/-- `f()` -/
def unknownCall : List Token := [⟨.identifier, "f"⟩, ⟨.leftParen, "("⟩, ⟨.rightParen, ")"⟩]

/-- Where `x` is `b`, both `in(x, ["a", f()])` and `x == "a" || x == f()` fail for the unknown function,
and in strict mode `in(x, ["a", "b"])` holds as `x == "a" || x == "b"` does. -/
theorem membership_of_variable :
    Phrase .primary [⟨.identifier, "x"⟩] ∧
      (∀ item ∈ [[⟨.string, "a"⟩], unknownCall], Phrase .primary item) ∧
      evaluate ⟨⟨[("x", .string "b")]⟩, .standard⟩
        (membershipCall [⟨.identifier, "x"⟩] [[⟨.string, "a"⟩], unknownCall]) =
          .error (.unknownFunction "f") ∧
      evaluate ⟨⟨[("x", .string "b")]⟩, { Options.standard with strict := true }⟩
        (membershipCall [⟨.identifier, "x"⟩] [[⟨.string, "a"⟩], [⟨.string, "b"⟩]]) = .ok true := by
  have hx : Phrase .primary [⟨.identifier, "x"⟩] := .reference .none
  have hcall : Phrase .primary unknownCall := .call .noArguments
  have hfailing : ∀ item ∈ [[⟨.string, "a"⟩], unknownCall], Phrase .primary item :=
    List.forall_mem_cons.2 ⟨.string, List.forall_mem_singleton.2 hcall⟩
  have hstrings : ∀ item ∈ [[(⟨.string, "a"⟩ : Token)], [⟨.string, "b"⟩]], Phrase .primary item :=
    List.forall_mem_cons.2 ⟨.string, List.forall_mem_singleton.2 .string⟩
  let resolver : Resolver := ⟨[("x", .string "b")]⟩
  refine ⟨hx, hfailing, ?_, ?_⟩
  · have hlookup : Context.lookup ⟨resolver, .standard⟩ (path ["x"]) = .ok (.string "b") := by rfl
    have hunknown : valueOf ⟨resolver, .standard⟩ unknownCall = .error (.unknownFunction "f") := by
      rw [valueOf, unknownCall, outcome_primary_call, outcome_arguments_none]
      rfl
    rw [(membership_eq_comparisons resolver .standard hx hfailing (List.cons_ne_nil _ _)).1 rfl,
      evaluate_comparisonChain hx hfailing (List.cons_ne_nil _ _), equalsAny, equalsAny,
      valueOf_variable hlookup, valueOf_string, hunknown]
    rfl
  · let strict : Options := { Options.standard with strict := true }
    have hlookup : Context.lookup ⟨resolver, strict⟩ (path ["x"]) = .ok (.string "b") := by rfl
    refine (membership_eq_comparisons resolver strict hx hstrings (List.cons_ne_nil _ _)).2 _ ?_
    rw [evaluate_comparisonChain hx hstrings (List.cons_ne_nil _ _), equalsAny, equalsAny, equalsAny,
      valueOf_variable hlookup, valueOf_string, valueOf_string]
    rfl

end CondDoc.Expression
