import CondDoc.Number.Decimal

namespace CondDoc.Number

theorem twoPow_pos (k : Nat) : 0 < twoPow k := Nat.pow_pos (by decide)

theorem tenPow_pos (k : Nat) : 0 < tenPow k := Nat.pow_pos (by decide)

theorem tenPow_add (j k : Nat) : tenPow (j + k) = tenPow j * tenPow k := Nat.pow_add 10 j k

theorem tenPow_succ (k : Nat) : tenPow (k + 1) = tenPow k * 10 :=
  Nat.pow_succ 10 k

theorem roundQuotient_mul_right (num den : Nat) {k : Nat} (hk : 0 < k) :
    roundQuotient (num * k) (den * k) = roundQuotient num den := by
  have hquotient : num * k / (den * k) = num / den := Nat.mul_div_mul_right num den hk
  have hremainder : num * k % (den * k) = num % den * k := Nat.mul_mod_mul_right k num den
  have hbelow : 2 * (num % den * k) < den * k ↔ 2 * (num % den) < den := by
    rw [← Nat.mul_assoc, Nat.mul_lt_mul_right hk]
  have habove : den * k < 2 * (num % den * k) ↔ den < 2 * (num % den) := by
    rw [← Nat.mul_assoc, Nat.mul_lt_mul_right hk]
  simp only [roundQuotient, hquotient, hremainder, hbelow, habove]

theorem roundQuotient_of_dvd (q : Nat) {den : Nat} (h : 0 < den) :
    roundQuotient (q * den) den = q := by
  have hquotient : q * den / den = q := Nat.mul_div_cancel q h
  have hremainder : q * den % den = 0 := Nat.mul_mod_left q den
  simp only [roundQuotient, hquotient, hremainder]
  exact if_pos h

theorem roundUnits_mul_right (num den : Nat) {k : Nat} (hk : 0 < k) :
    roundUnits (num * k) (den * k) = roundUnits num den := by
  have hexcess : excess (num * k) (den * k) = excess num den := by
    rw [excess, excess, Nat.mul_div_mul_right num den hk]
  rw [roundUnits, hexcess, Nat.mul_right_comm den, roundQuotient_mul_right _ _ hk, roundUnits]

/-- The places that rounding gives up are zeros, when a count of units is representable. -/
theorem twoPow_excess_dvd {units : Nat} (h : Representable units) :
    twoPow (excess units 1) ∣ units := by
  obtain ⟨-, significand, shift, hsignificand, heq⟩ := h
  by_cases hzero : units = 0
  · rw [hzero]
    exact Nat.dvd_zero _
  have hbound : units < twoPow (53 + shift) := by
    rw [heq, twoPow_add]
    exact Nat.mul_lt_mul_of_pos_right hsignificand (twoPow_pos shift)
  have hlog : units.log2 < 53 + shift := (Nat.log2_lt hzero).2 hbound
  have hexcess : excess units 1 ≤ shift := by
    rw [excess, Nat.div_one]
    omega
  have hshift : twoPow (excess units 1) ∣ twoPow shift := Nat.pow_dvd_pow 2 hexcess
  rw [heq] at hshift ⊢
  exact Nat.dvd_mul_left_of_dvd hshift significand

theorem roundUnits_of_representable {units : Nat} (h : Representable units) :
    roundUnits units 1 = units := by
  obtain ⟨q, hq⟩ := twoPow_excess_dvd h
  have hround : roundQuotient units (1 * twoPow (excess units 1)) = q := by
    rw [Nat.one_mul]
    conv => lhs; arg 1; rw [hq, Nat.mul_comm]
    exact roundQuotient_of_dvd q (twoPow_pos _)
  rw [roundUnits, hround, Nat.mul_comm, ← hq]

theorem ofUnits_mul_right (negative : Bool) (num den : Nat) {k : Nat} (hk : 0 < k) :
    ofUnits negative (num * k) (den * k) = ofUnits negative num den := by
  simp only [ofUnits, roundUnits_mul_right num den hk]

theorem ofUnits_units (negative : Bool) (size : Magnitude) :
    ofUnits negative size.units 1 = .finite negative size := by
  have hround := roundUnits_of_representable size.representable
  simp only [ofUnits, hround]
  exact dif_pos size.representable.1

/-- The sign takes no part in rounding. -/
theorem ofUnits_eq_finite {num den : Nat} {size : Magnitude} (negative : Bool)
    (h : ofUnits false num den = .finite false size) :
    ofUnits negative num den = .finite negative size := by
  unfold ofUnits at h ⊢
  split at h
  · next hlimit =>
    rw [dif_pos hlimit]
    cases h
    rfl
  · cases h

theorem toDigits_mul_tenPow {n : Nat} (hn : 0 < n) (k : Nat) :
    Nat.toDigits 10 (n * tenPow k) = Nat.toDigits 10 n ++ List.replicate k '0' := by
  induction k with
  | zero => simp [tenPow]
  | succ k ih =>
    have hpos : 0 < n * tenPow k := Nat.mul_pos hn (tenPow_pos k)
    have hsplit : n * tenPow (k + 1) = 10 * (n * tenPow k) + 0 := by
      rw [tenPow_succ, Nat.add_zero]
      ac_rfl
    rw [hsplit, ← Nat.toDigits_append_toDigits (by decide) hpos (by decide), ih,
      List.append_assoc, List.replicate_succ']
    rfl

theorem digitCount_mul_tenPow {n : Nat} (hn : 0 < n) (k : Nat) :
    digitCount (n * tenPow k) = digitCount n + k := by
  rw [digitCount, toDigits_mul_tenPow hn, List.length_append, List.length_replicate, digitCount]

theorem digitCount_le_iff {n k : Nat} (hk : 0 < k) : digitCount n ≤ k ↔ n < tenPow k :=
  Nat.length_toDigits_le_iff (by decide) hk

theorem ofDecimal_zero (negative : Bool) (exponent : Int) :
    ofDecimal negative 0 exponent = .finite negative .zero := by
  simp only [ofDecimal]
  exact if_pos (Or.inl trivial)

/-- Zeros at the end of the digits may as well be counted by the exponent. -/
theorem ofDecimal_mul_tenPow (negative : Bool) (digits k : Nat) (exponent : Int) :
    ofDecimal negative (digits * tenPow k) exponent = ofDecimal negative digits (exponent + k) := by
  by_cases hzero : digits = 0
  · rw [hzero, Nat.zero_mul, ofDecimal_zero, ofDecimal_zero]
  have hpos : 0 < digits := Nat.pos_of_ne_zero hzero
  have hdigits : digits * tenPow k ≠ 0 := Nat.ne_of_gt (Nat.mul_pos hpos (tenPow_pos k))
  have hplaces : (digitCount (digits * tenPow k) : Int) + exponent =
      digitCount digits + (exponent + k) := by
    rw [digitCount_mul_tenPow hpos]
    omega
  simp only [ofDecimal, hplaces, hzero, hdigits, false_or]
  congr 2
  by_cases hexponent : 0 ≤ exponent
  · have hsum : (exponent + k).toNat = k + exponent.toNat := by omega
    rw [if_pos hexponent, if_pos (by omega), hsum, tenPow_add, Nat.mul_assoc digits]
  rw [if_neg hexponent]
  by_cases hsum : 0 ≤ exponent + k
  · have hk : k = (exponent + k).toNat + (-exponent).toNat := by omega
    have hnum : digits * tenPow k * one =
        digits * tenPow (exponent + k).toNat * one * tenPow (-exponent).toNat := by
      conv => lhs; rw [hk, tenPow_add, ← Nat.mul_assoc, Nat.mul_right_comm]
    rw [if_pos hsum, hnum, ← ofUnits_mul_right _ _ 1 (tenPow_pos (-exponent).toNat), Nat.one_mul]
  · have hk : (-exponent).toNat = (-(exponent + k)).toNat + k := by omega
    rw [if_neg hsum, hk, tenPow_add, Nat.mul_right_comm digits,
      ofUnits_mul_right _ _ _ (tenPow_pos k)]

theorem ofDecimal_eq_finite {digits : Nat} {exponent : Int} {size : Magnitude} (negative : Bool)
    (h : ofDecimal false digits exponent = .finite false size) :
    ofDecimal negative digits exponent = .finite negative size := by
  simp only [ofDecimal] at h ⊢
  split at h
  · next hzero =>
    rw [if_pos hzero]
    cases h
    rfl
  next hzero =>
  rw [if_neg hzero]
  split at h
  · cases h
  next hlarge =>
  rw [if_neg hlarge]
  split at h
  · next hexponent =>
    rw [if_pos hexponent]
    exact ofUnits_eq_finite negative h
  · next hexponent =>
    rw [if_neg hexponent]
    exact ofUnits_eq_finite negative h

/-- Zero without its sign, and any other number as it is. -/
def unsignedZero : Number → Number
  | .finite negative size => .finite (negative && size.units != 0) size
  | x => x

theorem one_ne_zero : one ≠ 0 := Nat.ne_of_gt (twoPow_pos 1074)

/-- An integral number is so many times one. -/
theorem exists_of_toInt?_eq_some {negative : Bool} {size : Magnitude} {n : Int}
    (h : toInt? (.finite negative size) = some n) :
    ∃ q : Nat, size.units = q * one ∧ n = if negative then -(q : Int) else q := by
  by_cases hmod : size.units % one = 0
  · rw [toInt?, if_pos hmod] at h
    have hone : (one : Int) ≠ 0 := Int.natCast_ne_zero.2 one_ne_zero
    have hunits : size.units = size.units / one * one :=
      (Nat.div_mul_cancel (Nat.dvd_of_mod_eq_zero hmod)).symm
    refine ⟨size.units / one, hunits, (Option.some.inj h).symm.trans ?_⟩
    generalize size.units / one = q at hunits
    rw [signedUnits, hunits, Int.natCast_mul]
    cases negative with
    | false => exact Int.mul_ediv_cancel q hone
    | true =>
      rw [if_pos rfl, if_pos rfl, ← Int.neg_mul]
      exact Int.mul_ediv_cancel (-q) hone
  · rw [toInt?, if_neg hmod] at h
    cases h

/-- The number of an integral number's integer is that number, but zero has no sign. -/
theorem ofInt?_of_toInt? {x : Number} {n : Int} (h : x.toInt? = some n) :
    ofInt? n = some x.unsignedZero := by
  cases x with
  | nan => cases h
  | infinite negative => cases h
  | finite negative size =>
    obtain ⟨q, hunits, rfl⟩ := exists_of_toInt?_eq_some h
    have habs : (if negative then -(q : Int) else q).natAbs = q := by
      cases negative with
      | false => simp
      | true => simp
    have hzero : size.units = 0 ↔ q = 0 := by
      rw [hunits, Nat.mul_eq_zero]
      exact or_iff_left one_ne_zero
    have hsign : decide ((if negative then -(q : Int) else q) < 0) =
        (negative && size.units != 0) := by
      cases negative with
      | false => simp
      | true =>
        by_cases hq : q = 0
        · simp [hq, hzero.2 hq]
        · have hunits : size.units ≠ 0 := fun h => hq (hzero.1 h)
          simp only [reduceIte, Bool.true_and, bne_iff_ne.2 hunits, decide_eq_true_eq]
          omega
    unfold ofInt?
    rw [habs, ← hunits, hsign, ofUnits_units]
    rfl

theorem unsignedZero_of_toInt? {x : Number} (h : x.toInt? = none) : x.unsignedZero = x := by
  cases x with
  | nan => rfl
  | infinite negative => rfl
  | finite negative size =>
    have hunits : size.units ≠ 0 := by
      intro hzero
      rw [toInt?, hzero, if_pos (Nat.zero_mod one)] at h
      cases h
    rw [unsignedZero, bne_iff_ne.2 hunits, Bool.and_true]

end CondDoc.Number
