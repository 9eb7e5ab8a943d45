import CondDoc.Text.Blank
import Mathlib.Data.List.DropRight

namespace CondDoc.Text

theorem trimWhere_eq_rdropWhile (drop : Char → Bool) (cs : List Char) :
    trimWhere drop cs = (cs.dropWhile drop).rdropWhile drop := rfl

/-- Dropping from the right leaves the first character where it is. -/
theorem dropWhile_trimWhere (drop : Char → Bool) (cs : List Char) :
    (trimWhere drop cs).dropWhile drop = trimWhere drop cs := by
  rw [trimWhere_eq_rdropWhile, List.dropWhile_eq_self_iff]
  intro hlength
  have hkept := List.rdropWhile_prefix drop (l := cs.dropWhile drop)
  rw [hkept.getElem hlength]
  exact List.dropWhile_get_zero_not drop cs (Nat.lt_of_lt_of_le hlength hkept.length_le)

theorem trimWhere_trimWhere (drop : Char → Bool) (cs : List Char) :
    trimWhere drop (trimWhere drop cs) = trimWhere drop cs := by
  have hleft := dropWhile_trimWhere drop cs
  rw [trimWhere_eq_rdropWhile, hleft, trimWhere_eq_rdropWhile, List.rdropWhile_idempotent]

theorem trim_trim (cs : List Char) : trim (trim cs) = trim cs := trimWhere_trimWhere isBlank cs

end CondDoc.Text
