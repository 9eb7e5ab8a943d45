namespace CondDoc.Text

/-- The pieces between the separators; there is one piece more than there are separators. -/
def pieces (sep : Char) : List Char → List (List Char)
  | [] => [[]]
  | c :: cs =>
    if c = sep then [] :: pieces sep cs
    else match pieces sep cs with
      | [] => [[c]]
      | piece :: others => (c :: piece) :: others

def splitAt (sep : Char) (text : String) : List String :=
  (pieces sep text.toList).map String.ofList

def joinWith (sep : Char) (parts : List String) : String :=
  String.ofList ([sep].intercalate (parts.map String.toList))

/-- The lines of a text; a carriage return belongs to its line. -/
def lines (text : String) : List String := splitAt '\n' text

def unlines (parts : List String) : String := joinWith '\n' parts

theorem pieces_ne_nil (sep : Char) (cs : List Char) : pieces sep cs ≠ [] := by
  induction cs with
  | nil => simp [pieces]
  | cons c cs ih => unfold pieces; split <;> (try split) <;> simp

theorem intercalate_pieces (sep : Char) (cs : List Char) :
    [sep].intercalate (pieces sep cs) = cs := by
  induction cs with
  | nil => rfl
  | cons c cs ih =>
    unfold pieces
    cases hp : pieces sep cs with
    | nil => exact absurd hp (pieces_ne_nil sep cs)
    | cons piece others =>
      rw [hp] at ih
      split
      · next h => rw [h, ← ih]; simp [List.intercalate, List.intersperse]
      · rw [← ih]; cases others <;> simp [List.intercalate, List.intersperse]

/-- Splitting loses nothing. -/
theorem unlines_lines (text : String) : unlines (lines text) = text := by
  have h : (String.toList ∘ String.ofList) = id := by funext cs; simp
  simp [unlines, lines, joinWith, splitAt, h, intercalate_pieces]

end CondDoc.Text
