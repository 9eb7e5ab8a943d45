import CondDoc.Text.Letter
import CondDoc.Text.Lower

namespace CondDoc.Text

theorem lowerOffset_eq_zero_or (runs : List CaseRun) (n : Nat) :
    lowerOffset runs n = 0 ∨
      ∃ run ∈ runs, run.first ≤ n ∧ n ≤ run.last ∧ lowerOffset runs n = run.offset := by
  induction runs with
  | nil => exact .inl rfl
  | cons run later ih =>
    rw [lowerOffset]
    split
    · exact .inl rfl
    · next hfirst =>
      split
      · next hrun =>
        rw [Bool.and_eq_true, decide_eq_true_eq] at hrun
        exact .inr ⟨run, List.mem_cons_self, Nat.le_of_not_lt hfirst, hrun.1, rfl⟩
      · rcases ih with hzero | ⟨found, hfound, hrange⟩
        · exact .inl hzero
        · exact .inr ⟨found, List.mem_cons_of_mem _ hfound, hrange⟩

/-- Beyond ASCII, only the run of the Kelvin sign leads into ASCII. -/
theorem runs_stay_beyond : ∀ run ∈ caseRuns, run.last < 128 ∨ 128 ≤ run.first + run.offset ∨
    run.first = 0x212A ∧ run.last = 0x212A ∧ run.first + run.offset = 'k'.toNat := by
  decide +kernel

theorem lowerOffset_beyond {n : Nat} (h : 128 ≤ n) :
    128 ≤ (n + lowerOffset caseRuns n).toNat ∨ (n + lowerOffset caseRuns n).toNat = 'k'.toNat := by
  rcases lowerOffset_eq_zero_or caseRuns n with hzero | ⟨run, hrun, hfirst, hlast, hoffset⟩
  · rw [hzero]
    exact .inl (by omega)
  · rw [hoffset]
    rcases runs_stay_beyond run hrun with hshort | hbeyond | ⟨hkelvin, hkelvin', hk⟩
    · omega
    · exact .inl (by omega)
    · exact .inr (by omega)

/-- What holds of every code of ASCII holds of every character of ASCII. -/
theorem forall_ascii {good : Char → Prop} (h : ∀ n < 128, good (Char.ofNat n)) {c : Char}
    (hc : c.toNat < 128) : good c := by
  have hgood := h c.toNat hc
  rwa [Char.ofNat_toNat] at hgood

theorem lowerChar_ascii {c : Char} (h : c.toNat < 128) : lowerChar c = [c.toLower] :=
  @forall_ascii (fun c => lowerChar c = [c.toLower]) (by decide +kernel) c h

theorem toLower_beyond {c : Char} (h : 128 ≤ c.toNat) : c.toLower = c := by
  unfold Char.toLower
  split
  · next hupper =>
    have hlast := hupper.2
    rw [UInt32.le_iff_toNat_le] at hlast
    change c.toNat ≤ 90 at hlast
    omega
  · rfl

/-- A lower case letter of ASCII other than `k`. -/
def isCommonLetter (c : Char) : Bool := c.isLower && c != 'k'

theorem isCommonLetter_lt {c : Char} (h : isCommonLetter c = true) :
    97 ≤ c.toNat ∧ c.toNat < 128 ∧ c ≠ 'k' := by
  rw [isCommonLetter, Bool.and_eq_true, bne_iff_ne] at h
  obtain ⟨hlower, hk⟩ := h
  change (decide (c.val ≥ 97) && decide (c.val ≤ 122)) = true at hlower
  rw [Bool.and_eq_true, decide_eq_true_eq, decide_eq_true_eq, ge_iff_le, UInt32.le_iff_toNat_le,
    UInt32.le_iff_toNat_le] at hlower
  obtain ⟨hlow, hhigh⟩ := hlower
  change 97 ≤ c.toNat at hlow
  change c.toNat ≤ 122 at hhigh
  exact ⟨hlow, by omega, hk⟩

theorem ne_of_beyond {c x : Char} (hx : isCommonLetter x = true) (hc : 128 ≤ c.toNat) : c ≠ x := by
  rintro rfl
  have := (isCommonLetter_lt hx).2.1
  omega

theorem isLetter_of_toLower {c : Char} (h : isCommonLetter c.toLower = true) :
    isLetter c = true := by
  by_cases hascii : c.toNat < 128
  · exact @forall_ascii (fun c => isCommonLetter c.toLower = true → isLetter c = true)
      (by decide +kernel) c hascii h
  · rw [toLower_beyond (Nat.le_of_not_lt hascii)] at h
    exact absurd (isCommonLetter_lt h).2.1 hascii

/-- Beyond ASCII, a character other than the dotted capital is lowered to one character, which is of
ASCII only if it is a `k`. -/
theorem lowerChar_beyond {c x : Char} (hlow : 0 < x.toNat) (hhigh : x.toNat < 128) (hk : x ≠ 'k')
    (hc : 128 ≤ c.toNat) (hdotted : c ≠ 'İ') : ∃ d, lowerChar c = [d] ∧ d ≠ x := by
  refine ⟨Char.ofNat (c.toNat + lowerOffset caseRuns c.toNat).toNat, if_neg hdotted, ?_⟩
  generalize hcode : (c.toNat + lowerOffset caseRuns c.toNat).toNat = code
  have hoffset := lowerOffset_beyond hc
  rw [hcode] at hoffset
  rintro rfl
  -- A code that is no character stands for the null character.
  have hvalue : (Char.ofNat code).toNat = code ∨ (Char.ofNat code).toNat = 0 := by
    by_cases hvalid : code.isValidChar
    · exact .inl (congrArg Char.toNat (dif_pos hvalid))
    · exact .inr (congrArg Char.toNat (dif_neg hvalid))
  rcases hoffset with hbeyond | rfl
  · omega
  · exact hk rfl

/-- What a character is lowered to begins with a common letter only if the character is this letter
in one case or the other, and is then no more than the letter. -/
theorem lowered_append_eq_iff {c x : Char} {before after rest target : List Char}
    (hx : isCommonLetter x = true) (htarget : ∀ y ∈ target, isCommonLetter y = true) :
    (if c = 'Σ' then [lowerSigma before after] else lowerChar c) ++ rest = x :: target ↔
      c.toLower = x ∧ rest = target := by
  by_cases hascii : c.toNat < 128
  · have hsigma : c ≠ 'Σ' := by
      rintro rfl
      exact absurd hascii (by decide)
    rw [if_neg hsigma, lowerChar_ascii hascii, List.singleton_append, List.cons.injEq]
  · have hbeyond : 128 ≤ c.toNat := Nat.le_of_not_lt hascii
    have hright : ¬ (c.toLower = x ∧ rest = target) := by
      rw [toLower_beyond hbeyond]
      exact fun h => ne_of_beyond hx hbeyond h.1
    refine iff_of_false ?_ hright
    split
    · intro h
      have hfirst := (List.cons.inj h).1
      unfold lowerSigma at hfirst
      split at hfirst
      · exact ne_of_beyond hx (by decide) hfirst
      · exact ne_of_beyond hx (by decide) hfirst
    · by_cases hdotted : c = 'İ'
      · rw [hdotted]
        intro h
        -- The dot that comes with the `i` is no letter.
        have hdot : ('\u0307' :: rest) = target := (List.cons.inj h).2
        have := htarget '\u0307' (hdot ▸ List.mem_cons_self)
        exact absurd this (by decide)
      · obtain ⟨hlow, hhigh, hk⟩ := isCommonLetter_lt hx
        obtain ⟨d, hlower, hd⟩ :=
          lowerChar_beyond (Nat.lt_of_lt_of_le (by decide) hlow) hhigh hk hbeyond hdotted
        rw [hlower]
        exact fun h => hd (List.cons.inj h).1

theorem lowerAfter_eq_iff {before word target : List Char}
    (h : ∀ x ∈ target, isCommonLetter x = true) :
    lowerAfter before word = target ↔ word.map Char.toLower = target := by
  induction word generalizing before target with
  | nil => exact Iff.rfl
  | cons c word ih =>
    rw [lowerAfter, List.map_cons]
    cases target with
    | nil =>
      refine iff_of_false ?_ (List.cons_ne_nil _ _)
      intro hnil
      have hpiece := (List.append_eq_nil_iff.1 hnil).1
      unfold lowerChar at hpiece
      split at hpiece
      · cases hpiece
      · split at hpiece <;> cases hpiece
    | cons x target =>
      obtain ⟨hx, htarget⟩ := List.forall_mem_cons.1 h
      rw [lowered_append_eq_iff hx htarget, ih htarget, List.cons.injEq]

/-- A word is lowered to common letters if ASCII lowers it to them. -/
theorem lower_eq_iff {word target : String} (h : ∀ x ∈ target.toList, isCommonLetter x = true) :
    lower word = target ↔ word.toList.map Char.toLower = target.toList := by
  rw [lower, ← lowerAfter_eq_iff h, lowerChars]
  constructor
  · rintro rfl
    rw [String.toList_ofList]
  · intro heq
    rw [heq, String.ofList_toList]

end CondDoc.Text
