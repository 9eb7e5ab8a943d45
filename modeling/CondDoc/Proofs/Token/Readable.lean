import CondDoc.Number.Decimal
import CondDoc.Proofs.Token.Spelling

namespace CondDoc

namespace Number

theorem plain?_of_ascii {cs : List Char} (h : ∀ c ∈ cs, c.toNat < 128) : plain? cs = some cs := by
  have hall : cs.all (·.toNat < 128) = true := by
    rw [List.all_eq_true]
    intro c hc
    exact decide_eq_true (h c hc)
  exact if_pos hall

theorem withoutUnderscores?_of_not_mem {cs : List Char} (h : '_' ∉ cs) (afterDigit : Bool) :
    withoutUnderscores? afterDigit cs = some cs := by
  induction cs generalizing afterDigit with
  | nil => rfl
  | cons c cs ih =>
    rw [List.mem_cons, not_or] at h
    rw [withoutUnderscores?, if_neg (Ne.symm h.1), ih h.2]
    rfl

theorem dropWhile_of_forall {drop : Char → Bool} {cs : List Char}
    (h : ∀ c ∈ cs, drop c = false) : cs.dropWhile drop = cs := by
  cases cs with
  | nil => rfl
  | cons c cs =>
    rw [List.dropWhile_cons, h c List.mem_cons_self, if_neg Bool.false_ne_true]

theorem trimWhere_of_forall {drop : Char → Bool} {cs : List Char}
    (h : ∀ c ∈ cs, drop c = false) : Text.trimWhere drop cs = cs := by
  have hreverse : ∀ c ∈ cs.reverse, drop c = false := by
    intro c hc
    exact h c (List.mem_reverse.1 hc)
  rw [Text.trimWhere, dropWhile_of_forall h, dropWhile_of_forall hreverse, List.reverse_reverse]

/-- The characters that numbers are written with in expressions. -/
def isWritten (c : Char) : Bool := c.isDigit || c == '-' || c == '.'

theorem of_isWritten {c : Char} (h : isWritten c = true) :
    c.toNat < 128 ∧ isSpace c = false ∧ c ≠ '_' := by
  have hascii : c.toNat < 128 := by
    simp only [isWritten, Bool.or_eq_true, beq_iff_eq, Char.isDigit, Bool.and_eq_true,
      decide_eq_true_eq, UInt32.le_iff_toNat_le] at h
    rcases h with (⟨-, hdigit⟩ | rfl) | rfl
    · exact Nat.lt_of_le_of_lt hdigit (by decide)
    · decide
    · decide
  have hothers := @Text.forall_ascii
    (fun c => isWritten c = true → isSpace c = false ∧ c ≠ '_') (by decide +kernel) c hascii
  exact ⟨hascii, hothers h⟩

theorem ofChars?_eq_signed? {cs : List Char} (h : ∀ c ∈ cs, isWritten c = true) :
    ofChars? cs = signed? cs := by
  have hspace : ∀ c ∈ cs, isSpace c = false := fun c hc => (of_isWritten (h c hc)).2.1
  have hunderscore : '_' ∉ cs := fun hmem => (of_isWritten (h _ hmem)).2.2 rfl
  rw [ofChars?, plain?_of_ascii fun c hc => (of_isWritten (h c hc)).1]
  change (withoutUnderscores? false (Text.trimWhere isSpace cs)).bind signed? = _
  rw [trimWhere_of_forall hspace, withoutUnderscores?_of_not_mem hunderscore]
  rfl

end Number

namespace Token

theorem unsigned?_ne_none {whole point : List Char} (negative : Bool) (hwhole : IsDigits whole)
    (hpoint : point = [] ∨ ∃ fraction, IsDigits fraction ∧ point = '.' :: fraction) :
    Number.unsigned? negative (whole ++ point) ≠ none := by
  have hstop : point.takeWhile Char.isDigit = [] := by
    rcases hpoint with rfl | ⟨fraction, -, rfl⟩
    · rfl
    · rfl
  have hafter : (Number.fractionPart point).2 = [] := by
    rcases hpoint with rfl | ⟨fraction, hfraction, rfl⟩
    · rfl
    · exact List.dropWhile_eq_nil_iff.2 hfraction.2
  obtain ⟨htake, hdrop⟩ := takeWhile_dropWhile_append hwhole.2 hstop
  have hsome : ¬ (whole = [] ∧ (Number.fractionPart point).1 = []) := fun h => hwhole.1 h.1
  dsimp only [Number.unsigned?]
  rw [htake, hdrop, hafter, if_neg hsome]
  split
  · exact Option.some_ne_none _
  split
  · exact Option.some_ne_none _
  · exact Option.some_ne_none _

theorem isWritten_of_number {sign whole point : List Char} (hsign : sign = [] ∨ sign = ['-'])
    (hwhole : IsDigits whole)
    (hpoint : point = [] ∨ ∃ fraction, IsDigits fraction ∧ point = '.' :: fraction) :
    ∀ c ∈ sign ++ whole ++ point, Number.isWritten c = true := by
  have hdigits : ∀ digits, IsDigits digits → ∀ c ∈ digits, Number.isWritten c = true := by
    intro digits hdigits c hc
    rw [Number.isWritten, hdigits.2 c hc]
    rfl
  intro c hc
  rcases List.mem_append.1 hc with hc | hc
  · rcases List.mem_append.1 hc with hc | hc
    · rcases hsign with rfl | rfl
      · cases hc
      · obtain rfl := List.mem_singleton.1 hc
        rfl
    · exact hdigits whole hwhole c hc
  · rcases hpoint with rfl | ⟨fraction, hfraction, rfl⟩
    · cases hc
    · rcases List.mem_cons.1 hc with rfl | hc
      · rfl
      · exact hdigits fraction hfraction c hc

/-- A token denotes a number if it is one. -/
def Readable (token : Token) : Prop := token.kind = .number → Number.ofText? token.text ≠ none

theorem readable_of_canonical {token : Token} (h : token.Canonical) : token.Readable := by
  intro hkind
  cases h with
  | name _ _ _ => cases hkind
  | boolean _ => cases hkind
  | string _ => cases hkind
  | @operator kind hoperator =>
    change kind = .number at hkind
    subst hkind
    cases hoperator
  | @number sign whole point hsign hwhole hpoint =>
    rw [Number.ofText?, String.toList_ofList,
      Number.ofChars?_eq_signed? (isWritten_of_number hsign hwhole hpoint)]
    rcases hsign with rfl | rfl
    · obtain ⟨c, digits, rfl⟩ := List.exists_cons_of_ne_nil hwhole.1
      have hc : c.isDigit = true := hwhole.2 c List.mem_cons_self
      rw [List.nil_append, Number.signed?.eq_3]
      · exact unsigned?_ne_none false hwhole hpoint
      all_goals
        rintro cs heq
        rw [List.cons_append] at heq
        rw [(List.cons.inj heq).1] at hc
        cases hc
    · exact unsigned?_ne_none true hwhole hpoint

end Token

end CondDoc
