namespace CondDoc.Text

/-- Does the first text stand somewhere in the second without a gap? -/
def occursIn (part : List Char) : List Char → Bool
  | [] => part.isEmpty
  | c :: cs => part.isPrefixOf (c :: cs) || occursIn part cs

theorem occursIn_iff (part whole : List Char) :
    occursIn part whole = true ↔ ∃ before after, whole = before ++ part ++ after := by
  induction whole with
  | nil =>
    simp only [occursIn, List.isEmpty_iff]
    constructor
    · rintro rfl; exact ⟨[], [], rfl⟩
    · rintro ⟨before, after, h⟩; simp_all
  | cons c cs ih =>
    simp only [occursIn, Bool.or_eq_true, List.isPrefixOf_iff_prefix, ih]
    constructor
    · rintro (⟨after, h⟩ | ⟨before, after, rfl⟩)
      · exact ⟨[], after, by simp [h]⟩
      · exact ⟨c :: before, after, rfl⟩
    · rintro ⟨before, after, h⟩
      cases before with
      | nil => exact .inl ⟨after, by simpa using h.symm⟩
      | cons b before =>
        simp only [List.cons_append, List.cons.injEq] at h
        exact .inr ⟨before, after, by simpa using h.2⟩

end CondDoc.Text
