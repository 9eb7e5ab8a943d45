import CondDoc.Text.Blank
import CondDoc.Text.Letter
import CondDoc.Text.Numeral

namespace CondDoc.Text

/-- No range of one list overlaps a range of the other. -/
def Ranges.apart (ranges others : Ranges) : Bool :=
  ranges.all fun range => others.all fun other => range.2 < other.1 || other.2 < range.1

theorem Ranges.has_eq_false_of_apart {ranges others : Ranges} (hranges : ranges.ascending = true)
    (hothers : others.ascending = true) (hapart : ranges.apart others = true) {n : Nat}
    (h : ranges.has n = true) : others.has n = false := by
  obtain ⟨range, hrange, hrangeLow, hrangeHigh⟩ := (Ranges.has_iff hranges n).1 h
  refine eq_false_of_ne_true fun hother => ?_
  obtain ⟨other, hother, hotherLow, hotherHigh⟩ := (Ranges.has_iff hothers n).1 hother
  have hbeyond := List.all_eq_true.1 (List.all_eq_true.1 hapart range hrange) other hother
  simp only [Bool.or_eq_true, decide_eq_true_eq] at hbeyond
  omega

def digitRanges : Ranges := [(0x30, 0x39)]

theorem has_digitRanges (c : Char) : digitRanges.has c.toNat = c.isDigit := by
  rw [Bool.eq_iff_iff, Ranges.has_iff (by decide)]
  simp only [digitRanges, List.mem_singleton, exists_eq_left, Char.isDigit, Bool.and_eq_true,
    decide_eq_true_eq, ge_iff_le, UInt32.le_iff_toNat_le]
  rfl

theorem isLetter_eq_false_of_isBlank {c : Char} (h : isBlank c = true) : isLetter c = false :=
  Ranges.has_eq_false_of_apart blankRanges_ascending letterRanges_ascending (by decide +kernel) h

theorem isNumeral_eq_false_of_isBlank {c : Char} (h : isBlank c = true) : isNumeral c = false :=
  Ranges.has_eq_false_of_apart blankRanges_ascending numeralRanges_ascending (by decide +kernel) h

theorem isDigit_eq_false_of_isBlank {c : Char} (h : isBlank c = true) : c.isDigit = false := by
  rw [← has_digitRanges]
  exact Ranges.has_eq_false_of_apart blankRanges_ascending (by decide) (by decide +kernel) h

theorem isDigit_eq_false_of_isLetter {c : Char} (h : isLetter c = true) : c.isDigit = false := by
  rw [← has_digitRanges]
  exact Ranges.has_eq_false_of_apart letterRanges_ascending (by decide) (by decide +kernel) h

end CondDoc.Text
