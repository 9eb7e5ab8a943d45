import CondDoc.Text.Pieces

namespace CondDoc.Text

theorem pieces_cons_self (sep : Char) (cs : List Char) :
    pieces sep (sep :: cs) = [] :: pieces sep cs := by
  rw [pieces, if_pos rfl]

theorem pieces_cons_of_ne {sep c : Char} (h : c ≠ sep) {cs piece : List Char}
    {others : List (List Char)} (hpieces : pieces sep cs = piece :: others) :
    pieces sep (c :: cs) = (c :: piece) :: others := by
  rw [pieces, if_neg h, hpieces]

theorem not_mem_of_mem_pieces {sep : Char} {cs piece : List Char} (h : piece ∈ pieces sep cs) :
    sep ∉ piece := by
  induction cs generalizing piece with
  | nil =>
    obtain rfl := List.mem_singleton.1 h
    exact List.not_mem_nil
  | cons c cs ih =>
    by_cases hc : c = sep
    · subst hc
      rw [pieces_cons_self] at h
      rcases List.mem_cons.1 h with rfl | h
      · exact List.not_mem_nil
      · exact ih h
    · cases hpieces : pieces sep cs with
      | nil => exact absurd hpieces (pieces_ne_nil sep cs)
      | cons first others =>
        rw [pieces_cons_of_ne hc hpieces] at h
        rw [hpieces] at ih
        rcases List.mem_cons.1 h with rfl | h
        · intro hmem
          rcases List.mem_cons.1 hmem with hmem | hmem
          · exact hc hmem.symm
          · exact ih List.mem_cons_self hmem
        · exact ih (List.mem_cons_of_mem _ h)

theorem pieces_eq_singleton {sep : Char} {cs : List Char} (h : sep ∉ cs) : pieces sep cs = [cs] := by
  induction cs with
  | nil => rfl
  | cons c cs ih =>
    have hc : c ≠ sep := by
      intro hc
      exact h (hc ▸ List.mem_cons_self)
    exact pieces_cons_of_ne hc (ih fun hmem => h (List.mem_cons_of_mem _ hmem))

theorem pieces_append {sep : Char} {piece : List Char} (h : sep ∉ piece) (cs : List Char) :
    pieces sep (piece ++ sep :: cs) = piece :: pieces sep cs := by
  induction piece with
  | nil => exact pieces_cons_self sep cs
  | cons c piece ih =>
    have hc : c ≠ sep := by
      intro hc
      exact h (hc ▸ List.mem_cons_self)
    exact pieces_cons_of_ne hc (ih fun hmem => h (List.mem_cons_of_mem _ hmem))

/-- A separator between two texts keeps their pieces apart. -/
theorem pieces_join (sep : Char) (first second : List Char) :
    pieces sep (first ++ sep :: second) = pieces sep first ++ pieces sep second := by
  induction first with
  | nil => exact pieces_cons_self sep second
  | cons c first ih =>
    rw [List.cons_append]
    by_cases hc : c = sep
    · subst hc
      rw [pieces_cons_self, pieces_cons_self, ih, List.cons_append]
    · cases hpieces : pieces sep first with
      | nil => exact absurd hpieces (pieces_ne_nil sep first)
      | cons piece others =>
        rw [hpieces, List.cons_append] at ih
        rw [pieces_cons_of_ne hc ih, pieces_cons_of_ne hc hpieces, List.cons_append]

theorem splitAt_eq_append {sep : Char} {text first second : String}
    (h : text.toList = first.toList ++ sep :: second.toList) :
    splitAt sep text = splitAt sep first ++ splitAt sep second := by
  rw [splitAt, h, pieces_join, List.map_append]
  rfl

theorem lines_join (first second : String) :
    lines (first ++ "\n" ++ second) = lines first ++ lines second := by
  apply splitAt_eq_append
  rw [String.toList_append, String.toList_append, List.append_assoc]
  rfl

/-- Pieces without the separator are what their text is cut into again. -/
theorem pieces_intercalate {sep : Char} {parts : List (List Char)} (hne : parts ≠ [])
    (h : ∀ part ∈ parts, sep ∉ part) : pieces sep ([sep].intercalate parts) = parts := by
  induction parts with
  | nil => exact absurd rfl hne
  | cons part parts ih =>
    have hpart : sep ∉ part := h part List.mem_cons_self
    cases parts with
    | nil =>
      have hjoined : [sep].intercalate [part] = part := by simp [List.intercalate]
      rw [hjoined]
      exact pieces_eq_singleton hpart
    | cons next parts =>
      have hjoined : [sep].intercalate (part :: next :: parts) =
          part ++ sep :: [sep].intercalate (next :: parts) := by
        simp [List.intercalate, List.intersperse]
      have hothers := ih (List.cons_ne_nil _ _) fun part hmem =>
        h part (List.mem_cons_of_mem _ hmem)
      rw [hjoined, pieces_append hpart, hothers]

theorem not_mem_of_mem_lines {text line : String} (h : line ∈ lines text) : '\n' ∉ line.toList := by
  obtain ⟨piece, hpiece, rfl⟩ := List.mem_map.1 h
  rw [String.toList_ofList]
  exact not_mem_of_mem_pieces hpiece

theorem splitAt_joinWith {sep : Char} {parts : List String} (hne : parts ≠ [])
    (h : ∀ part ∈ parts, sep ∉ part.toList) : splitAt sep (joinWith sep parts) = parts := by
  have hparts : ∀ part ∈ parts.map String.toList, sep ∉ part := List.forall_mem_map.2 h
  have hne' : parts.map String.toList ≠ [] := by
    intro hnil
    exact hne (List.map_eq_nil_iff.1 hnil)
  rw [splitAt, joinWith, String.toList_ofList, pieces_intercalate hne' hparts, List.map_map]
  have hid : String.ofList ∘ String.toList = id := by
    funext text
    exact String.ofList_toList
  rw [hid, List.map_id]

theorem lines_unlines {parts : List String} (hne : parts ≠ [])
    (h : ∀ part ∈ parts, '\n' ∉ part.toList) : lines (unlines parts) = parts :=
  splitAt_joinWith hne h

end CondDoc.Text
