namespace CondDoc

variable {ε α β γ δ : Type}

theorem ok_bind (value : α) (next : α → Except ε β) : (.ok value >>= next) = next value := rfl

theorem bind_eq_ok_iff {first : Except ε α} {next : α → Except ε β} {result : β} :
    (first >>= next) = .ok result ↔ ∃ value, first = .ok value ∧ next value = .ok result := by
  cases first with
  | error failure =>
    constructor
    · intro h
      cases h
    · rintro ⟨value, h, -⟩
      cases h
  | ok value =>
    constructor
    · intro h
      exact ⟨value, rfl, h⟩
    · rintro ⟨value', h, hnext⟩
      cases h
      exact hnext

theorem map_eq_ok_iff {first : Except ε α} {f : α → β} {result : β} :
    first.map f = .ok result ↔ ∃ value, first = .ok value ∧ f value = result := by
  cases first with
  | error failure => simp [Except.map]
  | ok value => simp [Except.map]

/-- A result is a value with one property or a failure with another one. -/
inductive Yields (failed : ε → Prop) (good : α → Prop) : Except ε α → Prop where
  | ok {value : α} : good value → Yields failed good (.ok value)
  | error {failure : ε} : failed failure → Yields failed good (.error failure)

namespace Yields

variable {failed : ε → Prop} {good : α → Prop} {good' : β → Prop} {first : Except ε α}

theorem bind {next : α → Except ε β} (h : Yields failed good first)
    (hnext : ∀ value, first = .ok value → good value → Yields failed good' (next value)) :
    Yields failed good' (first >>= next) := by
  cases h with
  | ok hgood => exact hnext _ rfl hgood
  | error hfailed => exact .error hfailed

theorem map {f : α → β} (h : Yields failed good first)
    (hf : ∀ value, good value → good' (f value)) : Yields failed good' (first.map f) := by
  cases h with
  | ok hgood => exact .ok (hf _ hgood)
  | error hfailed => exact .error hfailed

theorem imp {failed' : ε → Prop} {weaker : α → Prop} (h : Yields failed good first)
    (hfailed : ∀ failure, failed failure → failed' failure)
    (hgood : ∀ value, good value → weaker value) : Yields failed' weaker first := by
  cases h with
  | ok h => exact .ok (hgood _ h)
  | error h => exact .error (hfailed _ h)

theorem failed_of_eq {failure : ε} (h : Yields failed good first) (heq : first = .error failure) :
    failed failure := by
  subst heq
  cases h with
  | error hfailed => exact hfailed

end Yields

/-- Two results agree: they are related values or the same failure. A failure that is excused on the
left agrees with everything. -/
inductive Agree (excused : ε → Prop) (related : α → β → Prop) :
    Except ε α → Except ε β → Prop where
  | ok {a : α} {b : β} : related a b → Agree excused related (.ok a) (.ok b)
  | error (failure : ε) : Agree excused related (.error failure) (.error failure)
  | excused {failure : ε} (result : Except ε β) :
      excused failure → Agree excused related (.error failure) result

namespace Agree

variable {excused : ε → Prop} {related : α → β → Prop} {related' : γ → δ → Prop}
  {first : Except ε α} {first' : Except ε β}

theorem bind {next : α → Except ε γ} {next' : β → Except ε δ}
    (h : Agree excused related first first')
    (hnext : ∀ a b, first = .ok a → related a b → Agree excused related' (next a) (next' b)) :
    Agree excused related' (first >>= next) (first' >>= next') := by
  cases h with
  | ok hrelated => exact hnext _ _ rfl hrelated
  | error failure => exact .error failure
  | excused result hexcused => exact .excused _ hexcused

theorem map {f : α → γ} {g : β → δ} (h : Agree excused related first first')
    (hfg : ∀ a b, related a b → related' (f a) (g b)) :
    Agree excused related' (first.map f) (first'.map g) := by
  cases h with
  | ok hrelated => exact .ok (hfg _ _ hrelated)
  | error failure => exact .error failure
  | excused result hexcused => exact .excused _ hexcused

theorem mapError {ζ : Type} {excused' : ζ → Prop} {f : ε → ζ}
    (h : Agree excused related first first')
    (hf : ∀ failure, excused failure → excused' (f failure)) :
    Agree excused' related (first.mapError f) (first'.mapError f) := by
  cases h with
  | ok hrelated => exact .ok hrelated
  | error failure => exact .error _
  | excused result hexcused => exact .excused _ (hf _ hexcused)

/-- When nothing is excused, both fail alike or neither fails. -/
theorem eq_error_iff (h : Agree excused related first first')
    (hexcused : ∀ failure, ¬ excused failure) (failure : ε) :
    first = .error failure ↔ first' = .error failure := by
  cases h with
  | ok _ =>
    constructor
    · intro heq
      cases heq
    · intro heq
      cases heq
  | error failure =>
    constructor
    · intro heq
      cases heq
      rfl
    · intro heq
      cases heq
      rfl
  | excused _ hfailure => exact absurd hfailure (hexcused _)

theorem refl (result : Except ε α) : Agree excused Eq result result := by
  cases result with
  | error failure => exact .error failure
  | ok value => exact .ok rfl

theorem eq_or_excused {result result' : Except ε α} (h : Agree excused Eq result result') :
    result = result' ∨ ∃ failure, result = .error failure ∧ excused failure := by
  cases h with
  | ok heq => exact .inl (congrArg Except.ok heq)
  | error failure => exact .inl rfl
  | excused result hexcused => exact .inr ⟨_, rfl, hexcused⟩

end Agree

end CondDoc
