namespace CondDoc

/-- A power of two. -/
def Number.twoPow (k : Nat) : Nat := Nat.pow 2 k

/-- A power of ten. -/
def Number.tenPow (k : Nat) : Nat := Nat.pow 10 k

/-- The first count of units beyond the largest finite number: 2 ^ 1024. -/
def Number.limit : Nat := twoPow 2098

/-- The number of units in one. -/
def Number.one : Nat := twoPow 1074

/-- A count of units below the limit with at most 53 significant binary digits. -/
def Number.Representable (units : Nat) : Prop :=
  units < limit ∧
    ∃ significand shift, significand < twoPow 53 ∧ units = significand * twoPow shift

/-- The absolute value of a finite number, in units of the smallest positive one, 2 ^ -1074. -/
structure Magnitude where
  units : Nat
  representable : Number.Representable units
  deriving DecidableEq

/-- Zero has two signs, and nothing is said about the sign of `nan`. -/
inductive Number where
  | nan
  | infinite (negative : Bool)
  | finite (negative : Bool) (size : Magnitude)
  deriving DecidableEq, Inhabited

namespace Number

/-- The integer nearest to a quotient; of two that are equally near, the even one. -/
def roundQuotient (num den : Nat) : Nat :=
  let q := num / den
  let r := num % den
  if 2 * r < den then q
  else if den < 2 * r then q + 1
  else q + q % 2

theorem roundQuotient_le (num den : Nat) : roundQuotient num den ≤ num / den + 1 := by
  have := Nat.mod_lt (num / den) (by omega : 0 < 2)
  simp only [roundQuotient]
  repeat' split
  all_goals omega

/-- The binary places that a quotient of units has beyond 53. -/
def excess (num den : Nat) : Nat := (num / den).log2 - 52

/-- The count of units nearest to a quotient, among those with 53 significant binary digits. -/
def roundUnits (num den : Nat) : Nat :=
  roundQuotient num (den * twoPow (excess num den)) * twoPow (excess num den)

theorem twoPow_add (j k : Nat) : twoPow (j + k) = twoPow j * twoPow k := Nat.pow_add 2 j k

theorem lt_twoPow {n k : Nat} (h : n.log2 < k) : n < twoPow k :=
  Nat.lt_of_lt_of_le Nat.lt_log2_self (Nat.pow_le_pow_right (by omega) h)

theorem roundUnits_significant (num den : Nat) : ∃ significand shift,
    significand < twoPow 53 ∧ roundUnits num den = significand * twoPow shift := by
  have hfloor : num / (den * twoPow (excess num den)) < twoPow 53 := by
    rw [← Nat.div_div_eq_div_mul]
    apply Nat.div_lt_of_lt_mul
    rw [← twoPow_add]
    exact lt_twoPow (by unfold excess; omega)
  have hround := roundQuotient_le num (den * twoPow (excess num den))
  by_cases hsmall : roundQuotient num (den * twoPow (excess num den)) < twoPow 53
  · exact ⟨_, _, hsmall, rfl⟩
  · refine ⟨twoPow 52, excess num den + 1, by decide, ?_⟩
    have hcarry : roundQuotient num (den * twoPow (excess num den)) = twoPow 53 := by omega
    rw [roundUnits, hcarry, ← twoPow_add, ← twoPow_add]
    congr 1
    omega

/-- The number of the given sign nearest to a quotient of units; infinite beyond the largest. -/
def ofUnits (negative : Bool) (num den : Nat) : Number :=
  if h : roundUnits num den < limit then
    .finite negative ⟨roundUnits num den, h, roundUnits_significant num den⟩
  else .infinite negative

/-- Is the first number nearer to zero than the second? Never, where one of them is `nan`. -/
def absLt : Number → Number → Bool
  | .finite _ a, .finite _ b => a.units < b.units
  | .finite _ _, .infinite _ => true
  | _, _ => false

/-- The signed count of units. -/
def signedUnits (negative : Bool) (size : Magnitude) : Int :=
  if negative then -size.units else size.units

/-- The absolute difference, rounded; there is none between equal infinities. -/
def gap : Number → Number → Number
  | .finite s a, .finite t b => ofUnits false (signedUnits s a - signedUnits t b).natAbs 1
  | .infinite s, .infinite t => if s = t then .nan else .infinite false
  | .infinite _, .finite _ _ | .finite _ _, .infinite _ => .infinite false
  | .nan, _ | _, .nan => .nan

/-- The integer that a number is, if it is one. -/
def toInt? : Number → Option Int
  | .finite negative size =>
    if size.units % one = 0 then some (signedUnits negative size / one) else none
  | _ => none

/-- The number, unless it is infinite. -/
def unlessInfinite? : Number → Option Number
  | .infinite _ => none
  | number => some number

/-- The number nearest to an integer; none where that would be infinite. -/
def ofInt? (n : Int) : Option Number := unlessInfinite? (ofUnits (n < 0) (n.natAbs * one) 1)

end Number

end CondDoc
