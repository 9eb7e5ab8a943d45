import CondDoc.Json.Layout
import CondDoc.Proofs.Json.Numeral

namespace CondDoc.Json.Symbol

theorem hexDigit?_digitChar {n : Nat} (h : n < 16) : hexDigit? (Nat.digitChar n) = some n := by
  have hall : ∀ m < 16, hexDigit? (Nat.digitChar m) = some m := by decide
  exact hall n h

theorem hexValue?_hex (width n : Nat) :
    hexValue? (Text.hex width n) = some (n % Nat.pow 16 width) := by
  induction width generalizing n with
  | zero => simp [Text.hex, hexValue?, Nat.mod_one]
  | succ width ih =>
    have hdigit := hexDigit?_digitChar (Nat.mod_lt n (by decide : 0 < 16))
    have hstart := ih (n / 16)
    have hmod : n % Nat.pow 16 (width + 1) = 16 * (n / 16 % Nat.pow 16 width) + n % 16 := by
      have hpow : Nat.pow 16 (width + 1) = 16 * Nat.pow 16 width := Nat.pow_succ'
      rw [hpow, Nat.mod_mul]
      omega
    unfold hexValue? at hstart ⊢
    rw [Text.hex, List.foldlM_append, hstart, hmod]
    simp [hdigit]

theorem hex_four (n : Nat) : ∃ d₁ d₂ d₃ d₄, Text.hex 4 n = [d₁, d₂, d₃, d₄] := ⟨_, _, _, _, rfl⟩

theorem toNat_lt (c : Char) : c.toNat < 0x110000 := by
  have hvalid := c.valid
  simp only [UInt32.isValidChar, Nat.isValidChar] at hvalid
  simp only [Char.toNat]
  omega

theorem not_half (c : Char) : isHighHalf c.toNat = false ∧ isLowHalf c.toNat = false := by
  have hvalid := c.valid
  simp only [UInt32.isValidChar, Nat.isValidChar] at hvalid
  simp only [isHighHalf, isLowHalf, Char.toNat, Bool.and_eq_false_imp, decide_eq_true_eq,
    decide_eq_false_iff_not]
  omega

theorem unitChar_toNat (c : Char) : unitChar c.toNat = c := by
  obtain ⟨hhigh, hlow⟩ := not_half c
  rw [unitChar, hhigh, hlow, Bool.or_self, if_neg Bool.false_ne_true, Char.ofNat_toNat]

theorem unitChars_toNat_cons (c : Char) (units : List Nat) :
    unitChars (c.toNat :: units) = c :: unitChars units := by
  cases units with
  | nil =>
    change [unitChar c.toNat] = [c]
    rw [unitChar_toNat]
  | cons unit units =>
    rw [unitChars, (not_half c).1, Bool.false_and, if_neg Bool.false_ne_true, unitChar_toNat]

/-- Code units that make up a character, whatever comes behind them. -/
def MakeUp (units : List Nat) (c : Char) : Prop :=
  ∀ more, unitChars (units ++ more) = c :: unitChars more

theorem makeUp_toNat (c : Char) : MakeUp [c.toNat] c := unitChars_toNat_cons c

/-- The two halves of a character beyond U+FFFF. -/
theorem makeUp_halves {c : Char} (h : ¬ c.toNat < 0x10000) :
    MakeUp [0xD800 + (c.toNat - 0x10000) / 0x400, 0xDC00 + (c.toNat - 0x10000) % 0x400] c := by
  intro more
  have hlimit := toNat_lt c
  generalize hoffset : c.toNat - 0x10000 = offset
  have hhigh : isHighHalf (0xD800 + offset / 0x400) = true := by
    simp only [isHighHalf, Bool.and_eq_true, decide_eq_true_eq]
    omega
  have hlow : isLowHalf (0xDC00 + offset % 0x400) = true := by
    simp only [isLowHalf, Bool.and_eq_true, decide_eq_true_eq]
    omega
  have hcode : 0x10000 + (0xD800 + offset / 0x400 - 0xD800) * 0x400 +
      (0xDC00 + offset % 0x400 - 0xDC00) = c.toNat := by
    omega
  simp only [List.cons_append, List.nil_append]
  rw [unitChars, hhigh, hlow, Bool.and_self, if_pos rfl, hcode, Char.ofNat_toNat]

/-- A written character is read as the given code units. -/
def ReadAs (written : List Char) (units : List Nat) : Prop :=
  ∀ rest, textUnits? (written ++ rest) =
    (textUnits? rest).map fun read => (units ++ read.1, read.2)

theorem readAs_append {first second : List Char} {units more : List Nat} (h : ReadAs first units)
    (hmore : ReadAs second more) : ReadAs (first ++ second) (units ++ more) := by
  intro rest
  rw [List.append_assoc, h, hmore, Option.map_map]
  congr 1
  funext read
  simp

theorem readAs_plain {c : Char} (hquote : c ≠ '\x22') (hslash : c ≠ '\\')
    (hcontrol : ¬ c.toNat < 0x20) : ReadAs [c] [c.toNat] := by
  intro rest
  rw [List.singleton_append, textUnits?.eq_def]
  simp only [if_neg hquote, if_neg hslash, if_neg hcontrol]
  cases textUnits? rest with
  | none => rfl
  | some read => rfl

theorem readAs_code {n : Nat} (h : n < 0x10000) : ReadAs ('\\' :: 'u' :: Text.hex 4 n) [n] := by
  intro rest
  obtain ⟨d₁, d₂, d₃, d₄, hdigits⟩ := hex_four n
  have hvalue := hexValue?_hex 4 n
  have hmod : n % Nat.pow 16 4 = n := Nat.mod_eq_of_lt h
  rw [hdigits, hmod] at hvalue
  rw [hdigits]
  simp only [List.cons_append, List.nil_append]
  rw [textUnits?, if_neg (by decide), if_pos rfl]
  simp only [hvalue]
  cases textUnits? rest with
  | none => rfl
  | some read => rfl

theorem readAs_letter {letter c : Char} (hletter : letter ≠ 'u')
    (h : escapedChar? letter = some c) : ReadAs ['\\', letter] [c.toNat] := by
  intro rest
  simp only [List.cons_append, List.nil_append]
  rw [textUnits?, if_neg (by decide), if_pos rfl, h]
  · cases textUnits? rest with
    | none => rfl
    | some read => rfl
  · intro _ _ _ _ _ heq
    exact absurd heq hletter

theorem escapedChar?_of_shortEscape? {c letter : Char} (h : shortEscape? c = some letter) :
    letter ≠ 'u' ∧ escapedChar? letter = some c := by
  unfold shortEscape? at h
  split at h
  · next hsame =>
    cases h
    rcases hsame with rfl | rfl
    · decide
    · decide
  repeat
    split at h
    · next hc =>
      cases h
      subst hc
      decide
  cases h

theorem of_shortEscape?_eq_none {c : Char} (h : shortEscape? c = none) :
    c ≠ '\x22' ∧ c ≠ '\\' := by
  rw [← not_or]
  intro hsame
  rw [shortEscape?, if_pos hsame] at h
  cases h

/-- What is written for a character stands for it. -/
theorem exists_readAs_encodeChar (ascii : Bool) (c : Char) :
    ∃ units, ReadAs (encodeChar ascii c) units ∧ MakeUp units c := by
  unfold encodeChar
  split
  · next letter hletter =>
    obtain ⟨hne, hescaped⟩ := escapedChar?_of_shortEscape? hletter
    exact ⟨[c.toNat], readAs_letter hne hescaped, makeUp_toNat c⟩
  next hnone =>
  split
  · unfold codeEscape
    split
    · next hsmall => exact ⟨[c.toNat], readAs_code hsmall, makeUp_toNat c⟩
    · next hlarge =>
      have hlimit := toNat_lt c
      refine ⟨_, readAs_append (readAs_code ?_) (readAs_code ?_), makeUp_halves hlarge⟩
      · omega
      · omega
  · next hplain =>
    obtain ⟨hquote, hslash⟩ := of_shortEscape?_eq_none hnone
    have hcontrol : ¬ c.toNat < 0x20 := by
      intro h
      simp [h] at hplain
    exact ⟨[c.toNat], readAs_plain hquote hslash hcontrol, makeUp_toNat c⟩

theorem exists_units_flatMap (ascii : Bool) (cs : List Char) :
    ∃ units, ReadAs (cs.flatMap (encodeChar ascii)) units ∧ unitChars units = cs := by
  induction cs with
  | nil => exact ⟨[], fun rest => by simp, rfl⟩
  | cons c cs ih =>
    obtain ⟨units, hread, hunits⟩ := exists_readAs_encodeChar ascii c
    obtain ⟨more, hreadMore, hmore⟩ := ih
    refine ⟨units ++ more, readAs_append hread hreadMore, ?_⟩
    rw [hunits, hmore]

theorem reading_text? (ascii : Bool) (s : String) (rest : List Char) :
    reading (text? (s.toList.flatMap (encodeChar ascii) ++ '\x22' :: rest)) =
      some (.text s, rest) := by
  obtain ⟨units, hread, hunits⟩ := exists_units_flatMap ascii s.toList
  have hquote : textUnits? ('\x22' :: rest) = some ([], rest) := by
    rw [textUnits?.eq_def]
    exact if_pos rfl
  have hbody := hread ('\x22' :: rest)
  rw [hquote, Option.map_some, List.append_nil] at hbody
  unfold text?
  split
  · next units' after heq =>
    rw [hbody] at heq
    cases heq
    rw [reading_some, hunits, String.ofList_toList]
  · next heq =>
    rw [hbody] at heq
    cases heq

end CondDoc.Json.Symbol
