import CondDoc.Proofs.Expression.Completeness

namespace CondDoc

/-- Does such a token belong to a path, so that what follows it may prolong the path? -/
def TokenKind.inPath : TokenKind → Bool
  | .identifier | .dot => true
  | _ => false

namespace Expression

/-- The second tokens are the first ones with some phrases replaced as given. No phrase is replaced
behind a token of a path, nor in front of a point or an opening parenthesis; `free` says whether one
may be replaced at the beginning. -/
inductive Replaced (swap : List Token → List Token → Prop) :
    (free : Bool) → List Token → List Token → Prop where
  | nil {free : Bool} : Replaced swap free [] []
  | cons {free : Bool} {rest rest' : List Token} (token : Token) :
      Replaced swap (!token.kind.inPath) rest rest' →
        Replaced swap free (token :: rest) (token :: rest')
  | swapped {first first' rest rest' : List Token} :
      swap first first' → Category.primary.EndsBefore rest → Replaced swap false rest rest' →
        Replaced swap true (first ++ rest) (first' ++ rest')

/-- Both phrases of a replacement are primaries, with related values. The text of a failure may show
a token of either, so no failure on the left may matter. -/
def Sound (left right : Context) (excused : Cause → Prop) (alike : Value → Value → Prop)
    (swap : List Token → List Token → Prop) : Prop :=
  ∀ first first', swap first first' → (∀ cause, excused cause) ∧
    ∃ v v', Derives left .primary first v ∧ Derives right .primary first' v' ∧ alike v v'

namespace Replaced

variable {swap : List Token → List Token → Prop} {free : Bool} {tokens tokens' : List Token}

theorem refl (free : Bool) (tokens : List Token) : Replaced swap free tokens tokens := by
  induction tokens generalizing free with
  | nil => exact .nil
  | cons token rest ih => exact .cons token (ih _)

/-- What holds where nothing is replaced at the beginning holds where something may be. -/
theorem relax (h : Replaced swap free tokens tokens') : Replaced swap true tokens tokens' := by
  cases h with
  | nil => exact .nil
  | cons token hrest => exact .cons token hrest
  | swapped hswap hends hrest => exact .swapped hswap hends hrest

/-- Nothing is replaced at the beginning, so the first tokens are the same. -/
theorem head?_eq (h : Replaced swap false tokens tokens') : tokens.head? = tokens'.head? := by
  cases h with
  | nil => rfl
  | cons token _ => rfl

theorem endsBefore (h : Replaced swap false tokens tokens') {category : Category}
    (hends : category.EndsBefore tokens) : category.EndsBefore tokens' := by
  intro kind hkind
  rw [nextKind, ← h.head?_eq]
  exact hends kind hkind

/-- A phrase between others can be replaced if it can be mistaken for no part of a path. -/
theorem between {first first' before behind : List Token} (hswap : swap first first')
    (hbefore : ∀ token ∈ before.getLast?, token.kind.inPath = false)
    (hbehind : Category.primary.EndsBefore behind) :
    Replaced swap true (before ++ (first ++ behind)) (before ++ (first' ++ behind)) := by
  suffices h : ∀ free, (before = [] → free = true) →
      Replaced swap free (before ++ (first ++ behind)) (before ++ (first' ++ behind)) from
    h true fun _ => rfl
  intro free hfree
  induction before generalizing free with
  | nil =>
    rw [hfree rfl, List.nil_append, List.nil_append]
    exact .swapped hswap hbehind (refl _ _)
  | cons token before ih =>
    refine .cons token (ih ?_ _ ?_)
    · cases before with
      | nil => exact fun _ h => absurd h (Option.not_mem_none _)
      | cons next before =>
        rw [List.getLast?_cons_cons] at hbefore
        exact hbefore
    · rintro rfl
      rw [hbefore token rfl]
      rfl

section

variable {left right : Context} {excused : Cause → Prop} {alike : Value → Value → Prop}
  (hsound : Sound left right excused alike swap)

include hsound

/-- A token that begins no primary is next on both sides, or on neither. -/
theorem next (h : Replaced swap free tokens tokens') (kind : TokenKind)
    (hkind : free = true → kind ∉ primaryKinds) :
    (∃ text rest rest', tokens = ⟨kind, text⟩ :: rest ∧ tokens' = ⟨kind, text⟩ :: rest' ∧
        Replaced swap (!kind.inPath) rest rest') ∨
      (nextKind tokens ≠ some kind ∧ nextKind tokens' ≠ some kind) := by
  cases h with
  | nil =>
    have hne : none ≠ some kind := (Option.some_ne_none kind).symm
    exact .inr ⟨hne, hne⟩
  | @cons _ rest rest' token hrest =>
    obtain ⟨kind', text⟩ := token
    by_cases heq : kind' = kind
    · subst heq
      exact .inl ⟨text, rest, rest', rfl, rfl, hrest⟩
    · have hne : some kind' ≠ some kind := fun h => heq (Option.some.inj h)
      exact .inr ⟨hne, hne⟩
  | swapped hswap _ _ =>
    obtain ⟨-, v, v', hfirst, hfirst', -⟩ := hsound _ _ hswap
    exact .inr ⟨nextKind_ne_of_primary hfirst.phrase (hkind rfl),
      nextKind_ne_of_primary hfirst'.phrase (hkind rfl)⟩

theorem eq_nil_iff (h : Replaced swap free tokens tokens') : tokens = [] ↔ tokens' = [] := by
  cases h with
  | nil => rfl
  | cons token _ => exact iff_of_false (List.cons_ne_nil _ _) (List.cons_ne_nil _ _)
  | swapped hswap _ _ =>
    obtain ⟨-, v, v', hfirst, hfirst', -⟩ := hsound _ _ hswap
    exact iff_of_false (append_ne_nil_of_primary hfirst.phrase)
      (append_ne_nil_of_primary hfirst'.phrase)

/-- The same token is next on both sides, or no failure matters. -/
theorem head?_eq_or (h : Replaced swap free tokens tokens') :
    tokens.head? = tokens'.head? ∨ ∀ cause, excused cause := by
  cases h with
  | nil => exact .inl rfl
  | cons token _ => exact .inl rfl
  | swapped hswap _ _ => exact .inr (hsound _ _ hswap).1

/-- Failures that depend on the next token agree. -/
theorem agree_error {α β : Type} {related : α → β → Prop} (h : Replaced swap free tokens tokens')
    (cause : Option Token → Cause) :
    Agree excused related (.error (cause tokens.head?)) (.error (cause tokens'.head?)) := by
  rcases h.head?_eq_or hsound with heq | hexcused
  · rw [heq]
    exact .error _
  · exact .excused _ (hexcused _)

end

end Replaced

end Expression

end CondDoc
