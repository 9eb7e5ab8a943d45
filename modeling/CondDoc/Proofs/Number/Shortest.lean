import CondDoc.Number.Shortest
import CondDoc.Proofs.Number.Rounding

namespace CondDoc

namespace Magnitude

theorem readsBack_iff {size : Magnitude} {d : Decimal} : size.readsBack d = true ↔
    Number.ofDecimal false d.digits d.exponent = .finite false size :=
  decide_eq_true_iff

theorem readsBack_of_nearest? {size : Magnitude} {count : Nat} {d : Decimal}
    (h : size.nearest? count = some d) : size.readsBack d = true := by
  unfold nearest? at h
  extract_lets exponent at h
  generalize size.scaled exponent = quotient at h
  obtain ⟨num, den⟩ := quotient
  dsimp only at h
  split at h
  · next hbelow habove =>
    cases h
    split
    · exact hbelow
    · exact habove
  · next hbelow _ =>
    cases h
    exact hbelow
  · next _ habove =>
    cases h
    exact habove
  · cases h

theorem pow_five_large : Number.tenPow 743 ≤ Nat.pow 5 1074 := by decide +kernel

theorem pow_five_small : Number.limit * Nat.pow 5 1074 ≤ Number.tenPow 1384 := by decide +kernel

theorem tenPow_eq {k fives : Nat} (hone : Number.one = Number.twoPow k)
    (hfives : fives = Nat.pow 5 k) : Number.tenPow k = fives * Number.one := by
  rw [hone, hfives]
  exact Nat.mul_pow 5 2 k

/-- A unit is a power of five of the 1074th decimal place; the power is a variable here, since its
digits are of no interest. -/
theorem ofDecimal_units {size : Magnitude} {fives : Nat} (h : size.units ≠ 0)
    (hfives : Number.tenPow 1074 = fives * Number.one) (hlarge : Number.tenPow 743 ≤ fives)
    (hsmall : Number.limit * fives ≤ Number.tenPow 1384) :
    Number.ofDecimal false (size.units * fives) (-1074) = .finite false size := by
  have hpos : 0 < fives := Nat.lt_of_lt_of_le (Number.tenPow_pos 743) hlarge
  have hlow : 743 < Number.digitCount (size.units * fives) := by
    rw [← Nat.not_le, Number.digitCount_le_iff (by decide), Nat.not_lt]
    exact Nat.le_trans hlarge (Nat.le_mul_of_pos_left fives (Nat.pos_of_ne_zero h))
  have hhigh : Number.digitCount (size.units * fives) ≤ 1384 := by
    rw [Number.digitCount_le_iff (by decide)]
    exact Nat.lt_of_lt_of_le (Nat.mul_lt_mul_of_pos_right size.representable.1 hpos) hsmall
  have hdigits : size.units * fives ≠ 0 := Nat.mul_ne_zero h (Nat.ne_of_gt hpos)
  have hplaces : ¬ (size.units * fives = 0 ∨
      (Number.digitCount (size.units * fives) : Int) + -1074 < -330) := by
    rintro (hzero | hplaces)
    · exact hdigits hzero
    · omega
  have hround : Number.ofUnits false (size.units * fives * Number.one) (Number.tenPow 1074) =
      .finite false size := by
    have hscaled := Number.ofUnits_mul_right false size.units 1 (Number.tenPow_pos 1074)
    rwa [Nat.one_mul, Number.ofUnits_units, hfives, ← Nat.mul_assoc, ← hfives] at hscaled
  simp only [Number.ofDecimal]
  rw [if_neg hplaces, if_neg (by omega), if_neg (by decide)]
  exact hround

theorem readsBack_exact {size : Magnitude} (h : size.units ≠ 0) :
    size.readsBack size.exact = true := by
  obtain ⟨fives, heq⟩ : ∃ n, n = Nat.pow 5 1074 := ⟨_, rfl⟩
  have hone : Number.one = Number.twoPow 1074 := rfl
  have hfives := tenPow_eq hone heq
  have hlarge : Number.tenPow 743 ≤ fives := by
    rw [heq]
    exact pow_five_large
  have hsmall : Number.limit * fives ≤ Number.tenPow 1384 := by
    rw [heq]
    exact pow_five_small
  rw [readsBack_iff]
  unfold exact
  rw [← heq]
  exact ofDecimal_units h hfives hlarge hsmall

theorem readsBack_shortest {size : Magnitude} (h : size.units ≠ 0) :
    size.readsBack size.shortest = true := by
  unfold shortest
  cases hfound : (List.range 17).findSome? fun i => size.nearest? (i + 1) with
  | none => exact readsBack_exact h
  | some d =>
    obtain ⟨i, -, hnearest⟩ := List.exists_of_findSome?_eq_some hfound
    exact readsBack_of_nearest? hnearest

end Magnitude

theorem Number.isDigit_of_mem_toDigits (n : Nat) :
    ∀ c ∈ Nat.toDigits 10 n, c.isDigit = true := by
  intro c hc
  exact Nat.isDigit_of_mem_toDigits (by decide) (by decide) hc

theorem Number.head_toDigits_ne {n : Nat} (h : n ≠ 0) : (Nat.toDigits 10 n).head? ≠ some '0' := by
  induction n using Nat.strongRecOn with
  | ind n ih =>
    by_cases hsmall : n < 10
    · rw [Nat.toDigits_of_lt_base hsmall, List.head?_cons, ne_eq, Option.some.injEq,
        Nat.digitChar_eq_zero]
      exact h
    · have hlarge : 10 ≤ n := Nat.le_of_not_lt hsmall
      have hhead := ih (n / 10) (by omega) (by omega)
      obtain ⟨first, others, hfirst⟩ :=
        List.exists_cons_of_ne_nil (Nat.toDigits_ne_nil (n := n / 10) (b := 10))
      rw [hfirst] at hhead
      rw [Nat.toDigits_of_base_le (by decide) hlarge, hfirst]
      exact hhead

namespace Decimal

variable {d : Decimal}

/-- What follows the significant digits is zeros. -/
theorem exists_toDigits_eq (d : Decimal) :
    ∃ zeros, Nat.toDigits 10 d.digits = d.significant ++ List.replicate zeros '0' := by
  have hsplit := (Nat.toDigits 10 d.digits).reverse.takeWhile_append_dropWhile (p := (· == '0'))
  have hzeros : ∀ c ∈ (Nat.toDigits 10 d.digits).reverse.takeWhile (· == '0'), c = '0' := by
    intro c hc
    exact eq_of_beq (List.all_eq_true.1 List.all_takeWhile c hc)
  have hreplicate := List.eq_replicate_of_mem hzeros
  refine ⟨((Nat.toDigits 10 d.digits).reverse.takeWhile (· == '0')).length, ?_⟩
  rw [significant, ← List.reverse_replicate, ← hreplicate, ← List.reverse_append, hsplit,
    List.reverse_reverse]

theorem exists_significant_eq (h : d.digits ≠ 0) : ∃ first others,
    d.significant = first :: others ∧ first ≠ '0' ∧ ∀ c ∈ first :: others, c.isDigit = true := by
  obtain ⟨zeros, hdigits⟩ := exists_toDigits_eq d
  have hhead := Number.head_toDigits_ne h
  rw [hdigits] at hhead
  cases hsignificant : d.significant with
  | nil =>
    rw [hsignificant, List.nil_append] at hdigits hhead
    cases zeros with
    | zero => exact absurd hdigits Nat.toDigits_ne_nil
    | succ zeros => exact absurd rfl hhead
  | cons first others =>
    rw [hsignificant] at hdigits hhead
    refine ⟨first, others, rfl, ?_, ?_⟩
    · rintro rfl
      exact hhead rfl
    · intro c hc
      apply Number.isDigit_of_mem_toDigits d.digits
      rw [hdigits]
      exact List.mem_append_left _ hc

/-- The significant digits with the point at its place denote the number. -/
theorem ofDecimal_significant (negative : Bool) (d : Decimal) :
    Number.ofDecimal negative (Nat.ofDigitChars 10 d.significant 0)
      (d.pointPlace - d.significant.length) =
    Number.ofDecimal negative d.digits d.exponent := by
  obtain ⟨zeros, hdigits⟩ := exists_toDigits_eq d
  have hcount : Number.digitCount d.digits = d.significant.length + zeros := by
    rw [Number.digitCount, hdigits, List.length_append, List.length_replicate]
  have hvalue : d.digits = Nat.ofDigitChars 10 d.significant 0 * Number.tenPow zeros := by
    have hten := Nat.ofDigitChars_ten_toDigits (n := d.digits)
    rw [hdigits, Nat.ofDigitChars_append, Nat.ofDigitChars_replicate_zero, Nat.mul_comm] at hten
    exact hten.symm
  have hexponent : d.pointPlace - d.significant.length = d.exponent + zeros := by
    rw [pointPlace, hcount]
    omega
  rw [hexponent, ← Number.ofDecimal_mul_tenPow, ← hvalue]

end Decimal

namespace Magnitude

/-- The digits with which a number is written denote it. -/
theorem ofDecimal_shortest (negative : Bool) {size : Magnitude} (h : size.units ≠ 0) :
    Number.ofDecimal negative size.shortest.digits size.shortest.exponent =
      .finite negative size :=
  Number.ofDecimal_eq_finite negative (readsBack_iff.1 (readsBack_shortest h))

theorem eq_zero {size : Magnitude} (h : size.units = 0) : size = .zero := by
  obtain ⟨units, hrepresentable⟩ := size
  cases h
  rfl

theorem shortest_digits_ne {size : Magnitude} (h : size.units ≠ 0) : size.shortest.digits ≠ 0 := by
  intro hzero
  have hread := ofDecimal_shortest false h
  rw [hzero, Number.ofDecimal_zero] at hread
  injection hread with _ hsize
  exact h (congrArg Magnitude.units hsize).symm

end Magnitude

end CondDoc
