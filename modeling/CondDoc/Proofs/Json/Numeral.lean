import CondDoc.Json.Symbol
import CondDoc.Proofs.Number.Shortest

namespace CondDoc

/-- The text does not begin with a character of the class. -/
def Stops (p : Char → Bool) (cs : List Char) : Prop := ∀ c ∈ cs.head?, p c = false

namespace Stops

variable {p q : Char → Bool} {c : Char} {cs : List Char}

@[simp] theorem nil : Stops p [] := by simp [Stops]

@[simp] theorem cons_iff : Stops p (c :: cs) ↔ p c = false := by simp [Stops]

theorem mono (h : Stops p cs) (hpq : ∀ c, p c = false → q c = false) : Stops q cs :=
  fun c hc => hpq c (h c hc)

theorem takeWhile_eq (h : Stops p cs) : cs.takeWhile p = [] := by
  cases cs with
  | nil => rfl
  | cons c cs =>
    have hc : p c = false := cons_iff.1 h
    rw [List.takeWhile_cons, hc, if_neg Bool.false_ne_true]

theorem dropWhile_eq (h : Stops p cs) : cs.dropWhile p = cs := by
  have hsplit := cs.takeWhile_append_dropWhile (p := p)
  rwa [h.takeWhile_eq, List.nil_append] at hsplit

end Stops

namespace Json

section

variable {σ α : Type} {bound : Nat}

/-- What a reader read and what it left, if it read something. -/
def reading (result : Option (Step σ α bound)) : Option (α × List σ) :=
  result.map fun step => (step.value, step.rest)

@[simp] theorem reading_some (step : Step σ α bound) :
    reading (some step) = some (step.value, step.rest) := rfl

@[simp] theorem reading_none : reading (none : Option (Step σ α bound)) = none := rfl

theorem exists_of_reading {result : Option (Step σ α bound)} {value : α} {rest : List σ}
    (h : reading result = some (value, rest)) :
    ∃ step, result = some step ∧ step.value = value ∧ step.rest = rest := by
  obtain ⟨step, hstep, heq⟩ := Option.map_eq_some_iff.1 h
  cases heq
  exact ⟨step, hstep, rfl, rfl⟩

end

namespace Symbol

open Number

/-- Digits as they stand before the point: a single zero, or digits that do not begin with one. -/
inductive IsWhole : List Char → Prop where
  | zero : IsWhole ['0']
  | digits {first : Char} {others : List Char} :
      first ≠ '0' → (∀ c ∈ first :: others, c.isDigit = true) → IsWhole (first :: others)

/-- A fraction behind its point; or there is none. -/
inductive IsPoint : List Char → List Char → Prop where
  | none : IsPoint [] []
  | some {first : Char} {others : List Char} :
      (∀ c ∈ first :: others, c.isDigit = true) → IsPoint (first :: others) ('.' :: first :: others)

/-- An exponent behind its mark and its sign; or there is none. -/
inductive IsPower : Option Int → List Char → Prop where
  | none : IsPower none []
  | plus {first : Char} {others : List Char} :
      (∀ c ∈ first :: others, c.isDigit = true) →
        IsPower (some (Nat.ofDigitChars 10 (first :: others) 0)) ('e' :: '+' :: first :: others)
  | minus {first : Char} {others : List Char} :
      (∀ c ∈ first :: others, c.isDigit = true) →
        IsPower (some (-(Nat.ofDigitChars 10 (first :: others) 0 : Int)))
          ('e' :: '-' :: first :: others)

/-- A numeral without sign. -/
inductive IsNumeral (whole fraction : List Char) (exponent : Option Int) : List Char → Prop where
  | mk {point power : List Char} : IsWhole whole → IsPoint fraction point →
      IsPower exponent power → IsNumeral whole fraction exponent (whole ++ point ++ power)

/-- Characters that go on with a numeral. -/
def isNumeral (c : Char) : Bool := c.isDigit || c == '.' || c == 'e' || c == 'E'

variable {cs rest : List Char}

theorem isPoint_of_isNumeral {c : Char} (h : isNumeral c = false) : (c == '.') = false := by
  simp only [isNumeral, Bool.or_eq_false_iff] at h
  exact h.1.1.2

theorem isDigit_of_isNumeral {c : Char} (h : isNumeral c = false) : c.isDigit = false := by
  simp only [isNumeral, Bool.or_eq_false_iff] at h
  exact h.1.1.1

theorem stops_isDigit (h : Stops isNumeral cs) : Stops Char.isDigit cs :=
  h.mono fun _ => isDigit_of_isNumeral

theorem digitRun_append {digits : List Char} (hdigits : ∀ c ∈ digits, c.isDigit = true)
    (hrest : Stops Char.isDigit rest) :
    (digitRun (digits ++ rest)).value = digits ∧ (digitRun (digits ++ rest)).rest = rest := by
  constructor
  · change (digits ++ rest).takeWhile Char.isDigit = digits
    rw [List.takeWhile_append_of_pos hdigits, hrest.takeWhile_eq, List.append_nil]
  · change (digits ++ rest).dropWhile Char.isDigit = rest
    rw [List.dropWhile_append_of_pos hdigits, hrest.dropWhile_eq]

theorem reading_whole? {whole : List Char} (h : IsWhole whole) (hrest : Stops Char.isDigit rest) :
    reading (whole? (whole ++ rest)) = some (whole, rest) := by
  cases h with
  | zero => rfl
  | @digits first others hfirst hdigits =>
    rw [List.forall_mem_cons] at hdigits
    obtain ⟨hvalue, hrun⟩ := digitRun_append hdigits.2 hrest
    rw [List.cons_append, whole?, if_neg hfirst, if_pos hdigits.1]
    simp [hvalue, hrun]

theorem fraction_append {digits point : List Char} (h : IsPoint digits point)
    (hdigit : Stops Char.isDigit rest) (hpoint : Stops (· == '.') rest) :
    (fraction (point ++ rest)).value = digits ∧ (fraction (point ++ rest)).rest = rest := by
  cases h with
  | none =>
    rw [List.nil_append]
    unfold fraction
    split
    · simp at hpoint
    · exact ⟨rfl, rfl⟩
  | @some first others hdigits =>
    rw [List.forall_mem_cons] at hdigits
    obtain ⟨hvalue, hrun⟩ := digitRun_append hdigits.2 hdigit
    rw [List.cons_append, List.cons_append, fraction, if_pos hdigits.1]
    simp [hvalue, hrun]

theorem reading_exponentDigits? {first : Char} {others : List Char}
    (hdigits : ∀ c ∈ first :: others, c.isDigit = true) (hrest : Stops Char.isDigit rest) :
    reading (exponentDigits? (first :: (others ++ rest))) =
      some (Nat.ofDigitChars 10 (first :: others) 0, rest) := by
  rw [List.forall_mem_cons] at hdigits
  obtain ⟨hvalue, hrun⟩ := digitRun_append hdigits.2 hrest
  rw [exponentDigits?, if_pos hdigits.1]
  simp [hvalue, hrun]

theorem exponent_append {value : Option Int} {power : List Char} (h : IsPower value power)
    (hrest : Stops isNumeral rest) :
    (exponent (power ++ rest)).value = value ∧ (exponent (power ++ rest)).rest = rest := by
  cases h with
  | none =>
    cases rest with
    | nil => exact ⟨rfl, rfl⟩
    | cons c rest =>
      have hmark : ¬ (c = 'e' ∨ c = 'E') := by
        rintro (rfl | rfl)
        · exact absurd (Stops.cons_iff.1 hrest) (by decide)
        · exact absurd (Stops.cons_iff.1 hrest) (by decide)
      rw [List.nil_append, exponent, if_neg hmark]
      exact ⟨rfl, rfl⟩
  | plus hdigits =>
    obtain ⟨step, hstep, hvalue, hrun⟩ :=
      exists_of_reading (reading_exponentDigits? hdigits (stops_isDigit hrest))
    simp [exponent, signedExponent?, hstep, hvalue, hrun]
  | minus hdigits =>
    obtain ⟨step, hstep, hvalue, hrun⟩ :=
      exists_of_reading (reading_exponentDigits? hdigits (stops_isDigit hrest))
    simp [exponent, signedExponent?, hstep, hvalue, hrun]

theorem stops_power_append {exponent : Option Int} {power : List Char}
    (h : IsPower exponent power) (hrest : Stops isNumeral rest) {p : Char → Bool}
    (hp : ∀ c, isNumeral c = false → p c = false) (he : p 'e' = false) :
    Stops p (power ++ rest) := by
  cases h with
  | none => exact hrest.mono hp
  | plus _ => exact Stops.cons_iff.2 he
  | minus _ => exact Stops.cons_iff.2 he

theorem reading_unsigned? {whole fraction text : List Char} {exponent : Option Int}
    (h : IsNumeral whole fraction exponent text) (hrest : Stops isNumeral rest)
    (negative : Bool) :
    reading (unsigned? negative (text ++ rest)) =
      some (numeral negative whole fraction exponent, rest) := by
  obtain ⟨hwhole, hpoint, hpower⟩ := h
  next point power =>
  have hdigit : Stops Char.isDigit (power ++ rest) :=
    stops_power_append hpower hrest (fun _ => isDigit_of_isNumeral) (by decide)
  have hdot : Stops (· == '.') (power ++ rest) :=
    stops_power_append hpower hrest (fun _ => isPoint_of_isNumeral) (by decide)
  have hfirst : Stops Char.isDigit (point ++ (power ++ rest)) := by
    cases hpoint with
    | none => exact hdigit
    | some _ => exact Stops.cons_iff.2 (by decide)
  obtain ⟨step, hstep, hvalue, hafter⟩ := exists_of_reading (reading_whole? hwhole hfirst)
  obtain ⟨hfraction, hafterFraction⟩ := fraction_append hpoint hdigit hdot
  obtain ⟨hexponent, hafterExponent⟩ := exponent_append hpower hrest
  rw [List.append_assoc, List.append_assoc]
  simp only [unsigned?, hstep, hvalue, Option.pure_def, Option.bind_eq_bind, Option.bind_some,
    reading_some]
  rw [hafter, hfraction, hafterFraction, hexponent, hafterExponent]

theorem exists_of_isNumeral {whole fraction text : List Char} {exponent : Option Int}
    (h : IsNumeral whole fraction exponent text) :
    ∃ first others, text = first :: others ∧ first.isDigit = true := by
  obtain ⟨hwhole, _, _⟩ := h
  cases hwhole with
  | zero => exact ⟨_, _, rfl, by decide⟩
  | digits _ hdigits => exact ⟨_, _, rfl, hdigits _ List.mem_cons_self⟩

theorem reading_number? {whole fraction text : List Char} {exponent : Option Int}
    (h : IsNumeral whole fraction exponent text) (hrest : Stops isNumeral rest)
    (negative : Bool) :
    reading (number? (signChars negative ++ text ++ rest)) =
      some (numeral negative whole fraction exponent, rest) := by
  cases negative with
  | true =>
    obtain ⟨step, hstep, hvalue, hafter⟩ := exists_of_reading (reading_unsigned? h hrest true)
    change reading (number? ('-' :: (text ++ rest))) = _
    simp [number?, hstep, hvalue, hafter]
  | false =>
    obtain ⟨first, others, rfl, hfirst⟩ := exists_of_isNumeral h
    change reading (number? (first :: others ++ rest)) = _
    rw [number?]
    · exact reading_unsigned? h hrest false
    · intro more heq
      rw [List.cons_append, List.cons.injEq] at heq
      rw [heq.1] at hfirst
      cases hfirst

theorem isWhole_toDigits (n : Nat) : IsWhole (Nat.toDigits 10 n) := by
  by_cases hzero : n = 0
  · rw [hzero, Nat.toDigits_zero]
    exact .zero
  have hhead := head_toDigits_ne hzero
  have hdigits := isDigit_of_mem_toDigits n
  obtain ⟨first, others, hfirst⟩ :=
    List.exists_cons_of_ne_nil (Nat.toDigits_ne_nil (n := n) (b := 10))
  rw [hfirst] at hhead hdigits ⊢
  refine .digits ?_ hdigits
  rintro rfl
  exact hhead rfl

theorem isNumeral_toDigits (n : Nat) :
    IsNumeral (Nat.toDigits 10 n) [] none (Nat.toDigits 10 n) := by
  have h := IsNumeral.mk (isWhole_toDigits n) .none .none
  rwa [List.append_nil, List.append_nil] at h

theorem numeral_toDigits (n : Int) :
    numeral (n < 0) (Nat.toDigits 10 n.natAbs) [] none = .integer n := by
  have hvalue : Nat.ofDigitChars 10 (Nat.toDigits 10 n.natAbs) 0 = n.natAbs :=
    Nat.ofDigitChars_ten_toDigits
  have hsigned : (if decide (n < 0) = true then -(n.natAbs : Int) else n.natAbs) = n := by
    split
    · next hsign =>
      have hnegative := of_decide_eq_true hsign
      omega
    · next hsign =>
      have hpositive := of_decide_eq_false (eq_false_of_ne_true hsign)
      omega
  simp only [numeral, List.append_nil, hvalue, and_self, if_true]
  rw [hsigned]

/-- A numeral that denotes the number of a decimal. -/
def Denotes (d : Decimal) (text : List Char) : Prop :=
  ∃ whole fraction exponent, IsNumeral whole fraction exponent text ∧ ∀ negative,
    numeral negative whole fraction exponent = .number (ofDecimal negative d.digits d.exponent)

/-- The digits of a decimal may stand anywhere around the point, with zeros behind them, if the
exponent makes up for it. -/
theorem denotes_of {d : Decimal} {whole fraction point power : List Char} {exponent : Option Int}
    (zeros : Nat) (hwhole : IsWhole whole) (hpoint : IsPoint fraction point)
    (hpower : IsPower exponent power) (hpart : fraction ≠ [] ∨ exponent ≠ none)
    (hvalue : Nat.ofDigitChars 10 (whole ++ fraction) 0 =
      Nat.ofDigitChars 10 d.significant 0 * tenPow zeros)
    (hplace : exponent.getD 0 - fraction.length + zeros = d.pointPlace - d.significant.length) :
    Denotes d (whole ++ point ++ power) := by
  refine ⟨whole, fraction, exponent, .mk hwhole hpoint hpower, fun negative => ?_⟩
  have hnot : ¬ (fraction = [] ∧ exponent = none) := by
    rintro ⟨hfraction, hexponent⟩
    rcases hpart with h | h
    · exact h hfraction
    · exact h hexponent
  simp only [numeral]
  rw [if_neg hnot, hvalue, ofDecimal_mul_tenPow, hplace, Decimal.ofDecimal_significant]

theorem ofDigitChars_zeros_append (count : Nat) (digits : List Char) :
    Nat.ofDigitChars 10 (List.replicate count '0' ++ digits) 0 = Nat.ofDigitChars 10 digits 0 := by
  rw [Nat.ofDigitChars_append, Nat.ofDigitChars_replicate_zero, Nat.mul_zero]

theorem ofDigitChars_append_zeros (digits : List Char) (count : Nat) :
    Nat.ofDigitChars 10 (digits ++ List.replicate count '0') 0 =
      Nat.ofDigitChars 10 digits 0 * tenPow count := by
  rw [Nat.ofDigitChars_append, Nat.ofDigitChars_replicate_zero, Nat.mul_comm]
  rfl

theorem isPoint_of_digits {digits : List Char} (hne : digits ≠ [])
    (hdigits : ∀ c ∈ digits, c.isDigit = true) : IsPoint digits ('.' :: digits) := by
  obtain ⟨first, others, rfl⟩ := List.exists_cons_of_ne_nil hne
  exact .some hdigits

theorem isDigit_of_mem_zeros {count : Nat} {c : Char} (h : c ∈ List.replicate count '0') :
    c.isDigit = true := by
  rw [List.eq_of_mem_replicate h]
  decide

/-- An exponent with its sign and at least two digits. -/
theorem isPower_scientific (power : Int) : IsPower (some power)
    ('e' :: (if power < 0 then '-' else '+') ::
      (if (Nat.toDigits 10 power.natAbs).length < 2 then '0' :: Nat.toDigits 10 power.natAbs
        else Nat.toDigits 10 power.natAbs)) := by
  obtain ⟨places, hplaces⟩ : ∃ places, places =
      if (Nat.toDigits 10 power.natAbs).length < 2 then '0' :: Nat.toDigits 10 power.natAbs
      else Nat.toDigits 10 power.natAbs := ⟨_, rfl⟩
  have hdigits : ∀ c ∈ places, c.isDigit = true := by
    have hall := isDigit_of_mem_toDigits power.natAbs
    rw [hplaces]
    split
    · exact List.forall_mem_cons.2 ⟨by decide, hall⟩
    · exact hall
  have hvalue : Nat.ofDigitChars 10 places 0 = power.natAbs := by
    rw [hplaces]
    split
    · exact (ofDigitChars_zeros_append 1 _).trans Nat.ofDigitChars_ten_toDigits
    · exact Nat.ofDigitChars_ten_toDigits
  have hne : places ≠ [] := by
    rw [hplaces]
    split
    · exact List.cons_ne_nil _ _
    · exact Nat.toDigits_ne_nil
  rw [← hplaces]
  obtain ⟨first, others, rfl⟩ := List.exists_cons_of_ne_nil hne
  by_cases hsign : power < 0
  · have hpower := IsPower.minus hdigits
    rw [hvalue] at hpower
    have heq : -(power.natAbs : Int) = power := by omega
    rw [if_pos hsign]
    rwa [heq] at hpower
  · have hpower := IsPower.plus hdigits
    rw [hvalue] at hpower
    have heq : (power.natAbs : Int) = power := by omega
    rw [if_neg hsign]
    rwa [heq] at hpower

section

variable {d : Decimal} (h : d.digits ≠ 0)

include h

theorem significant_ne_nil : d.significant ≠ [] := by
  obtain ⟨first, others, hsignificant, -, -⟩ := Decimal.exists_significant_eq h
  rw [hsignificant]
  exact List.cons_ne_nil first others

theorem isDigit_of_mem_significant {c : Char} (hc : c ∈ d.significant) : c.isDigit = true := by
  obtain ⟨first, others, hsignificant, -, hdigits⟩ := Decimal.exists_significant_eq h
  rw [hsignificant] at hc
  exact hdigits c hc

/-- The significant digits, or the first of them, and zeros make a whole number. -/
theorem isWhole_of_significant {part : List Char} (hne : part ≠ [])
    (hstart : part <+: d.significant) (zeros : Nat) :
    IsWhole (part ++ List.replicate zeros '0') := by
  obtain ⟨first, others, hsignificant, hfirst, hdigits⟩ := Decimal.exists_significant_eq h
  obtain ⟨c, more, rfl⟩ := List.exists_cons_of_ne_nil hne
  obtain ⟨behind, hbehind⟩ := hstart
  have hc : c = first := by
    rw [hsignificant, List.cons_append, List.cons.injEq] at hbehind
    exact hbehind.1
  have hmem : ∀ x ∈ c :: more, x ∈ d.significant := by
    intro x hx
    rw [← hbehind]
    exact List.mem_append_left behind hx
  have hall : ∀ x ∈ c :: more ++ List.replicate zeros '0', x.isDigit = true := by
    intro x hx
    rcases List.mem_append.1 hx with hx | hx
    · exact isDigit_of_mem_significant h (hmem x hx)
    · exact isDigit_of_mem_zeros hx
  exact .digits (hc ▸ hfirst) hall

/-- All digits stand behind the point. -/
theorem denotes_below_one (hplace : d.pointPlace ≤ 0) :
    Denotes d ('0' :: '.' :: List.replicate (-d.pointPlace).toNat '0' ++ d.significant) := by
  have hne := significant_ne_nil h
  have hpoint : IsPoint (List.replicate (-d.pointPlace).toNat '0' ++ d.significant)
      ('.' :: (List.replicate (-d.pointPlace).toNat '0' ++ d.significant)) := by
    apply isPoint_of_digits
    · simp [hne]
    · intro c hc
      rcases List.mem_append.1 hc with hc | hc
      · exact isDigit_of_mem_zeros hc
      · exact isDigit_of_mem_significant h hc
  have hdenotes := denotes_of (d := d) 0 .zero hpoint .none (.inl (by simp [hne])) ?_ ?_
  · simpa using hdenotes
  · change Nat.ofDigitChars 10 (List.replicate 1 '0' ++ _) 0 = _
    rw [ofDigitChars_zeros_append, ofDigitChars_zeros_append]
    exact (Nat.mul_one _).symm
  · simp only [Option.getD_none, List.length_append, List.length_replicate]
    omega

/-- All digits stand before the point. -/
theorem denotes_above_digits (hlength : d.significant.length ≤ d.pointPlace.toNat) :
    Denotes d (d.significant ++
      List.replicate (d.pointPlace.toNat - d.significant.length) '0' ++ ['.', '0']) := by
  have hne := significant_ne_nil h
  have hpos := List.length_pos_iff.2 hne
  have hwhole := isWhole_of_significant h hne (List.prefix_refl _)
    (d.pointPlace.toNat - d.significant.length)
  have hpoint : IsPoint ['0'] ['.', '0'] := .some (List.all_eq_true.1 (by decide))
  have hdenotes := denotes_of (d := d) (d.pointPlace.toNat - d.significant.length + 1) hwhole hpoint
    .none (.inl (by decide)) ?_ ?_
  · rwa [List.append_nil] at hdenotes
  · rw [List.append_assoc, ← List.replicate_succ', ofDigitChars_append_zeros]
  · simp only [Option.getD_none, List.length_singleton]
    omega

/-- The point stands among the digits. -/
theorem denotes_among_digits (hplace : ¬ d.pointPlace ≤ 0)
    (hlength : ¬ d.significant.length ≤ d.pointPlace.toNat) :
    Denotes d (d.significant.take d.pointPlace.toNat ++
      '.' :: d.significant.drop d.pointPlace.toNat) := by
  have hbefore : d.significant.take d.pointPlace.toNat ≠ [] := by
    rw [ne_eq, ← List.length_eq_zero_iff, List.length_take]
    omega
  have hbehind : d.significant.drop d.pointPlace.toNat ≠ [] := by
    rw [ne_eq, ← List.length_eq_zero_iff, List.length_drop]
    omega
  have hwhole := isWhole_of_significant h hbefore (List.take_prefix _ _) 0
  have hpoint : IsPoint (d.significant.drop d.pointPlace.toNat)
      ('.' :: d.significant.drop d.pointPlace.toNat) :=
    isPoint_of_digits hbehind fun c hc => isDigit_of_mem_significant h (List.mem_of_mem_drop hc)
  rw [List.replicate_zero, List.append_nil] at hwhole
  have hdenotes := denotes_of (d := d) 0 hwhole hpoint .none (.inl hbehind) ?_ ?_
  · rwa [List.append_nil] at hdenotes
  · rw [List.take_append_drop]
    exact (Nat.mul_one _).symm
  · simp only [Option.getD_none, List.length_drop]
    omega

theorem denotes_positional : Denotes d (Decimal.positional d.significant d.pointPlace) := by
  unfold Decimal.positional
  split
  · next hplace => exact denotes_below_one h hplace
  next hplace =>
  split
  · next hlength => exact denotes_above_digits h hlength
  · next hlength => exact denotes_among_digits h hplace hlength

theorem denotes_scientific : Denotes d (Decimal.scientific d.significant d.pointPlace) := by
  obtain ⟨first, others, hsignificant, hfirst, hdigits⟩ := Decimal.exists_significant_eq h
  have hwhole : IsWhole [first] := .digits hfirst (by simpa using hdigits first List.mem_cons_self)
  have hpower := isPower_scientific (d.pointPlace - 1)
  unfold Decimal.scientific
  rw [hsignificant]
  cases others with
  | nil =>
    refine denotes_of (d := d) 0 hwhole .none hpower (.inr (by simp)) ?_ ?_
    · simp [hsignificant, tenPow]
    · simp [hsignificant]
  | cons second others =>
    have hpoint : IsPoint (second :: others) ('.' :: second :: others) :=
      .some fun c hc => hdigits c (List.mem_cons_of_mem _ hc)
    refine denotes_of (d := d) 0 hwhole hpoint hpower (.inr (by simp)) ?_ ?_
    · simp [hsignificant, tenPow]
    · simp [hsignificant]
      omega

theorem denotes_chars : Denotes d d.chars := by
  unfold Decimal.chars
  split
  · exact denotes_positional h
  · exact denotes_scientific h

end

end Symbol

end Json

end CondDoc
