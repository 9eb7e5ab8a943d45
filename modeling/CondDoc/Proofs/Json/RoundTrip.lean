import CondDoc.Json.Reader
import CondDoc.Proofs.Json.Symbols

namespace CondDoc.Json

mutual

/-- The names in every object of the value are distinct. -/
def DistinctNames : Json → Prop
  | .object entries => (entries.map (·.1)).Nodup ∧ DistinctNamesEntries entries
  | .array items => DistinctNamesItems items
  | .null | .boolean _ | .integer _ | .number _ | .text _ => True

def DistinctNamesEntries : List (String × Json) → Prop
  | [] => True
  | (_, json) :: entries => DistinctNames json ∧ DistinctNamesEntries entries

def DistinctNamesItems : List Json → Prop
  | [] => True
  | json :: items => DistinctNames json ∧ DistinctNamesItems items

end

theorem distinctNamesEntries_iff {entries : List (String × Json)} :
    DistinctNamesEntries entries ↔ ∀ entry ∈ entries, entry.2.DistinctNames := by
  induction entries with
  | nil => simp [DistinctNamesEntries]
  | cons entry entries ih => simp [DistinctNamesEntries, ih]

theorem distinctNamesItems_iff {items : List Json} :
    DistinctNamesItems items ↔ ∀ item ∈ items, item.DistinctNames := by
  induction items with
  | nil => simp [DistinctNamesItems]
  | cons item items ih => simp [DistinctNamesItems, ih]

theorem ofMembers_of_nodup {entries : List (String × Json)} (h : (entries.map (·.1)).Nodup) :
    ofMembers entries = .object entries := by
  rw [ofMembers, Ordered.ofPairs_of_nodup h]

section

variable {start rest after : List Symbol} {json : Json} {name : String}

theorem reading_items?_last (h : reading (value? start) = some (json, .rightBracket :: rest)) :
    reading (items? start) = some ([json], rest) := by
  obtain ⟨step, hstep, hvalue, hrest⟩ := exists_of_reading h
  rw [items?, hstep]
  simp only [Option.bind_eq_bind, Option.bind_some]
  split
  · next heq =>
    rw [hrest] at heq
    cases heq
  · next heq =>
    rw [hrest] at heq
    cases heq
    simp [hvalue]
  · next hother => exact absurd hrest (hother rest)

theorem reading_items?_more {others : List Json}
    (h : reading (value? start) = some (json, .comma :: rest))
    (hothers : reading (items? rest) = some (others, after)) :
    reading (items? start) = some (json :: others, after) := by
  obtain ⟨step, hstep, hvalue, hrest⟩ := exists_of_reading h
  obtain ⟨more, hmore, hmoreValue, hmoreRest⟩ := exists_of_reading hothers
  rw [items?, hstep]
  simp only [Option.bind_eq_bind, Option.bind_some]
  split
  · next heq =>
    rw [hrest] at heq
    cases heq
    simp [hmore, hvalue, hmoreValue, hmoreRest]
  · next heq =>
    rw [hrest] at heq
    cases heq
  · next hother _ => exact absurd hrest (hother rest)

theorem reading_members?_last (h : reading (value? start) = some (json, .rightBrace :: rest)) :
    reading (members? (.text name :: .colon :: start)) = some ([(name, json)], rest) := by
  obtain ⟨step, hstep, hvalue, hrest⟩ := exists_of_reading h
  rw [members?, hstep]
  simp only [Option.bind_eq_bind, Option.bind_some]
  split
  · next heq =>
    rw [hrest] at heq
    cases heq
  · next heq =>
    rw [hrest] at heq
    cases heq
    simp [hvalue]
  · next hother => exact absurd hrest (hother rest)

theorem reading_members?_more {others : List (String × Json)}
    (h : reading (value? start) = some (json, .comma :: rest))
    (hothers : reading (members? rest) = some (others, after)) :
    reading (members? (.text name :: .colon :: start)) = some ((name, json) :: others, after) := by
  obtain ⟨step, hstep, hvalue, hrest⟩ := exists_of_reading h
  obtain ⟨more, hmore, hmoreValue, hmoreRest⟩ := exists_of_reading hothers
  rw [members?, hstep]
  simp only [Option.bind_eq_bind, Option.bind_some]
  split
  · next heq =>
    rw [hrest] at heq
    cases heq
    simp [hmore, hvalue, hmoreValue, hmoreRest]
  · next heq =>
    rw [hrest] at heq
    cases heq
  · next hother _ => exact absurd hrest (hother rest)

theorem reading_value?_array {items : List Json} (hstart : start.head? ≠ some .rightBracket)
    (h : reading (items? start) = some (items, rest)) :
    reading (value? (.leftBracket :: start)) = some (.array items, rest) := by
  obtain ⟨step, hstep, hvalue, hrest⟩ := exists_of_reading h
  rw [value?]
  · simp [hstep, hvalue, hrest]
  · rintro more rfl
    exact hstart rfl

theorem reading_value?_object {entries : List (String × Json)}
    (hstart : start.head? ≠ some .rightBrace)
    (h : reading (members? start) = some (entries, rest)) (hnodup : (entries.map (·.1)).Nodup) :
    reading (value? (.leftBrace :: start)) = some (.object entries, rest) := by
  obtain ⟨step, hstep, hvalue, hrest⟩ := exists_of_reading h
  rw [value?]
  · simp [hstep, hvalue, hrest, ofMembers_of_nodup hnodup]
  · rintro more rfl
    exact hstart rfl

end

theorem head_symbols_ne (json : Json) (rest : List Symbol) :
    (symbols json ++ rest).head? ≠ some .rightBracket := by
  cases json with
  | array items => cases items <;> simp [symbols]
  | object entries => cases entries <;> simp [symbols]
  | _ => simp [symbols]

mutual

/-- The symbols of a value are read as that value. -/
theorem reading_value?_symbols (json : Json) (rest : List Symbol) (h : json.DistinctNames) :
    reading (value? (symbols json ++ rest)) = some (json, rest) := by
  match json with
  | .null =>
    rw [symbols, List.singleton_append, value?]
    rfl
  | .boolean b =>
    rw [symbols, List.singleton_append, value?]
    rfl
  | .integer n =>
    rw [symbols, List.singleton_append, value?]
    rfl
  | .number x =>
    rw [symbols, List.singleton_append, value?]
    rfl
  | .text s =>
    rw [symbols, List.singleton_append, value?]
    rfl
  | .array [] =>
    rw [symbols, List.cons_append, List.singleton_append, value?]
    rfl
  | .array (item :: items) =>
    have hsymbols : symbols (.array (item :: items)) ++ rest =
        .leftBracket :: (symbols item ++ (itemSymbols items ++ .rightBracket :: rest)) := by
      simp [symbols]
    have hitem := reading_value?_symbols item (itemSymbols items ++ .rightBracket :: rest) h.1
    rw [hsymbols]
    exact reading_value?_array (head_symbols_ne item _) (reading_items?_symbols items h.2 hitem)
  | .object [] =>
    rw [symbols, List.cons_append, List.singleton_append, value?]
    rfl
  | .object ((name, value) :: entries) =>
    obtain ⟨hnodup, hdistinct, hentries⟩ := h
    have hsymbols : symbols (.object ((name, value) :: entries)) ++ rest =
        .leftBrace :: .text name :: .colon ::
          (symbols value ++ (entrySymbols entries ++ .rightBrace :: rest)) := by
      simp [symbols]
    have hvalue :=
      reading_value?_symbols value (entrySymbols entries ++ .rightBrace :: rest) hdistinct
    rw [hsymbols]
    exact reading_value?_object (by simp) (reading_members?_symbols entries hentries hvalue) hnodup

/-- Behind an item, the items after it are read up to the closing bracket. -/
theorem reading_items?_symbols {start rest : List Symbol} {item : Json} (items : List Json)
    (h : DistinctNamesItems items)
    (hitem : reading (value? start) = some (item, itemSymbols items ++ .rightBracket :: rest)) :
    reading (items? start) = some (item :: items, rest) := by
  match items with
  | [] => exact reading_items?_last hitem
  | next :: items =>
    have hsymbols : itemSymbols (next :: items) ++ .rightBracket :: rest =
        .comma :: (symbols next ++ (itemSymbols items ++ .rightBracket :: rest)) := by
      simp [itemSymbols]
    have hnext := reading_value?_symbols next (itemSymbols items ++ .rightBracket :: rest) h.1
    rw [hsymbols] at hitem
    exact reading_items?_more hitem (reading_items?_symbols items h.2 hnext)

/-- Behind a member, the members after it are read up to the closing brace. -/
theorem reading_members?_symbols {start rest : List Symbol} {name : String} {json : Json}
    (entries : List (String × Json)) (h : DistinctNamesEntries entries)
    (hjson : reading (value? start) = some (json, entrySymbols entries ++ .rightBrace :: rest)) :
    reading (members? (.text name :: .colon :: start)) = some ((name, json) :: entries, rest) := by
  match entries with
  | [] => exact reading_members?_last hjson
  | (other, next) :: entries =>
    have hsymbols : entrySymbols ((other, next) :: entries) ++ .rightBrace :: rest =
        .comma :: .text other :: .colon ::
          (symbols next ++ (entrySymbols entries ++ .rightBrace :: rest)) := by
      simp [entrySymbols]
    have hnext := reading_value?_symbols next (entrySymbols entries ++ .rightBrace :: rest) h.1
    rw [hsymbols] at hjson
    exact reading_members?_more hjson (reading_members?_symbols entries h.2 hnext)

end

/-- What is written in any layout is read as the same value. -/
theorem ofText?_render (layout : Layout) {json : Json} (h : json.DistinctNames) :
    ofText? (render layout json) = some json := by
  have hsymbols := list?_encode layout 0 json [] Stops.nil
  have hnil : Symbol.list? [] = some [] := by
    rw [Symbol.list?_eq]
    rfl
  have hvalue := reading_value?_symbols json [] h
  rw [List.append_nil] at hsymbols hvalue
  rw [hnil, Option.map_some, List.append_nil] at hsymbols
  obtain ⟨step, hstep, hjson, hrest⟩ := exists_of_reading hvalue
  rw [ofText?, render, String.toList_ofList, hsymbols]
  simp [ofSymbols?, hstep, hjson, hrest]

end CondDoc.Json
