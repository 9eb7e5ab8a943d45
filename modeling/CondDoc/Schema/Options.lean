import CondDoc.Options
import CondDoc.Schema.Field

namespace CondDoc.Schema

/-- A limit of at least one. -/
def positive (json : Json) : Checked { n : Nat // 0 < n } := do
  let n ← integer json
  if h : 0 < n then return ⟨n.toNat, by omega⟩ else .fail .tooSmall

def optionFields (entries : List (String × Json)) : Checked Options :=
  let normal := Options.standard
  let strict := field "strict" [] boolean (some normal.strict) entries
  let caseSensitive := field "case_sensitive_strings" [] boolean (some normal.caseSensitive) entries
  let maxNesting :=
    field "max_nesting" [] positive (some ⟨normal.maxNesting, normal.maxNesting_pos⟩) entries
  let parseFences := field "parse_fences" [] boolean (some normal.parseFences) entries
  (((strict.map fun s c m p => (⟨s, c, m.1, p, m.2⟩ : Options)).and caseSensitive).and
    maxNesting).and parseFences

def options : Json → Checked Options := record optionFields

end CondDoc.Schema
