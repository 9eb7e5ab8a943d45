import CondDoc.Text.Lower
import CondDoc.Text.Occurs

namespace CondDoc.Text

/-- The lower case of a piece that stands between `before`, nearest first, and `after`. -/
def lowerBetween (before : List Char) : List Char → List Char → List Char
  | [], _ => []
  | c :: piece, after =>
    (if c = 'Σ' then [lowerSigma before (piece ++ after)] else lowerChar c) ++
      lowerBetween (c :: before) piece after

/-- The capital sigmas of a piece have the lower case that they have when the piece stands alone. -/
def SigmasKept (before piece after : List Char) : Prop :=
  ∀ first second, piece = first ++ 'Σ' :: second →
    lowerSigma (first.reverse ++ before) (second ++ after) = lowerSigma first.reverse second

theorem lowerAfter_append (before piece after : List Char) :
    lowerAfter before (piece ++ after) =
      lowerBetween before piece after ++ lowerAfter (piece.reverse ++ before) after := by
  induction piece generalizing before with
  | nil => rfl
  | cons c piece ih =>
    rw [List.cons_append, lowerAfter, ih, lowerBetween, List.append_assoc, List.reverse_cons,
      List.append_assoc, List.singleton_append]

theorem lowerBetween_nil (before piece : List Char) :
    lowerBetween before piece [] = lowerAfter before piece := by
  have h := lowerAfter_append before piece []
  rw [List.append_nil, lowerAfter, List.append_nil] at h
  exact h.symm

/-- A text in front, a piece and a text behind it are lowered one by one. -/
theorem lowerChars_append (before piece after : List Char) :
    lowerChars (before ++ piece ++ after) =
      lowerBetween [] before (piece ++ after) ++
        (lowerBetween before.reverse piece after ++
          lowerAfter (piece.reverse ++ before.reverse) after) := by
  rw [lowerChars, List.append_assoc, lowerAfter_append, lowerAfter_append, List.append_nil]

/-- How long the lower case is does not depend on what stands around. -/
theorem length_lowerBetween (before piece after before' after' : List Char) :
    (lowerBetween before piece after).length = (lowerBetween before' piece after').length := by
  induction piece generalizing before before' with
  | nil => rfl
  | cons c piece ih =>
    rw [lowerBetween, lowerBetween, List.length_append, List.length_append, ih _ (c :: before')]
    split <;> rfl

/-- The capital sigmas of a text with one more character in front. -/
theorem forall_sigma_cons_iff {c : Char} {piece : List Char} {good : List Char → List Char → Prop} :
    (∀ first second, c :: piece = first ++ 'Σ' :: second → good first second) ↔
      (c = 'Σ' → good [] piece) ∧
        ∀ first second, piece = first ++ 'Σ' :: second → good (c :: first) second := by
  constructor
  · intro h
    refine ⟨?_, ?_⟩
    · rintro rfl
      exact h [] piece rfl
    · rintro first second rfl
      exact h (c :: first) second rfl
  · rintro ⟨hhead, hothers⟩ first second hsplit
    cases first with
    | nil =>
      obtain ⟨rfl, rfl⟩ := List.cons.inj hsplit
      exact hhead rfl
    | cons d first =>
      obtain ⟨rfl, hpiece⟩ := List.cons.inj hsplit
      exact hothers first second hpiece

/-- Only capital sigmas are lowered by what stands around them. -/
theorem lowerBetween_eq_iff (before piece after before' after' : List Char) :
    lowerBetween before piece after = lowerBetween before' piece after' ↔
      ∀ first second, piece = first ++ 'Σ' :: second →
        lowerSigma (first.reverse ++ before) (second ++ after) =
          lowerSigma (first.reverse ++ before') (second ++ after') := by
  induction piece generalizing before before' with
  | nil => simp [lowerBetween]
  | cons c piece ih =>
    rw [forall_sigma_cons_iff]
    simp only [List.reverse_nil, List.nil_append, List.reverse_cons, List.append_assoc,
      List.singleton_append]
    rw [← ih, lowerBetween, lowerBetween]
    -- Any other first character is lowered alike on both sides.
    by_cases hsigma : c = 'Σ'
    · rw [if_pos hsigma, if_pos hsigma, List.singleton_append, List.singleton_append,
        List.cons.injEq, forall_prop_of_true hsigma]
    · rw [if_neg hsigma, if_neg hsigma, List.append_right_inj, forall_prop_of_false hsigma,
        true_and]

theorem lowerBetween_eq_lowerChars_iff (before piece after : List Char) :
    lowerBetween before piece after = lowerChars piece ↔ SigmasKept before piece after := by
  rw [lowerChars, ← lowerBetween_nil, lowerBetween_eq_iff]
  simp only [List.append_nil, SigmasKept]

instance (before piece after : List Char) : Decidable (SigmasKept before piece after) :=
  decidable_of_iff _ (lowerBetween_eq_lowerChars_iff before piece after)

theorem sigmasKept_of_not_mem {before piece after : List Char} (h : 'Σ' ∉ piece) :
    SigmasKept before piece after := by
  rintro first second rfl
  exact absurd (List.mem_append_right first List.mem_cons_self) h

theorem length_lowerBetween_eq (before piece after : List Char) :
    (lowerBetween before piece after).length = (lowerChars piece).length := by
  rw [lowerChars, ← lowerBetween_nil, length_lowerBetween]

/-- In lower case too, a text starts with what it starts with, if the capital sigmas there are kept. -/
theorem lowerChars_prefix_iff (piece after : List Char) :
    lowerChars piece <+: lowerChars (piece ++ after) ↔ SigmasKept [] piece after := by
  rw [← lowerBetween_eq_lowerChars_iff, lowerChars.eq_def (piece ++ after), lowerAfter_append]
  constructor
  · rintro ⟨rest, hrest⟩
    have hlength := length_lowerBetween_eq [] piece after
    exact (List.append_inj hrest hlength.symm).1.symm
  · intro heq
    rw [heq]
    exact List.prefix_append _ _

theorem lowerChars_suffix_iff (before piece : List Char) :
    lowerChars piece <:+ lowerChars (before ++ piece) ↔ SigmasKept before.reverse piece [] := by
  have hwhole := lowerChars_append before piece []
  rw [List.append_nil, List.append_nil, lowerAfter, List.append_nil] at hwhole
  rw [← lowerBetween_eq_lowerChars_iff, hwhole]
  constructor
  · rintro ⟨rest, hrest⟩
    have hlength := length_lowerBetween_eq before.reverse piece []
    exact (List.append_inj_right' hrest hlength.symm).symm
  · intro heq
    rw [heq]
    exact List.suffix_append _ _

theorem occursIn_lowerChars {before piece after : List Char}
    (h : SigmasKept before.reverse piece after) :
    occursIn (lowerChars piece) (lowerChars (before ++ piece ++ after)) = true := by
  rw [occursIn_iff, lowerChars_append, (lowerBetween_eq_lowerChars_iff _ _ _).2 h]
  exact ⟨_, _, (List.append_assoc _ _ _).symm⟩

end CondDoc.Text
