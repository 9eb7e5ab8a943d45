import CondDoc.Document

namespace CondDoc

structure Mark where
  line : String
  directive : Option Directive
  deriving DecidableEq

/-- Does a line begin or end fenced code? -/
def toggles (parseFences : Bool) (line : String) : Bool := !parseFences && isFence line

/-- Marks the lines that follow, inside fenced code or outside of it. -/
def marksFrom (parseFences inFence : Bool) : List String → List Mark
  | [] => []
  | line :: lines =>
    ⟨line, if toggles parseFences line || inFence then none else Directive.ofLine? line⟩ ::
      marksFrom parseFences (inFence ^^ toggles parseFences line) lines

/-- Is the end of some lines inside fenced code? -/
def fenceAfter (parseFences inFence : Bool) : List String → Bool
  | [] => inFence
  | line :: lines => fenceAfter parseFences (inFence ^^ toggles parseFences line) lines

def marks (parseFences : Bool) (text : String) : List Mark :=
  marksFrom parseFences false (Text.lines text)

theorem map_line_marksFrom (parseFences inFence : Bool) (lines : List String) :
    (marksFrom parseFences inFence lines).map Mark.line = lines := by
  induction lines generalizing inFence with
  | nil => rfl
  | cons line lines ih => simp [marksFrom, ih]

theorem length_marksFrom (parseFences inFence : Bool) (lines : List String) :
    (marksFrom parseFences inFence lines).length = lines.length := by
  rw [← List.length_map Mark.line, map_line_marksFrom]

private theorem unfenced_eq (inFence : Bool) (lines : List String) :
    unfenced inFence lines = (marksFrom false inFence lines).map Mark.directive := by
  induction lines generalizing inFence with
  | nil => rfl
  | cons line lines ih =>
    unfold unfenced
    split
    · next h => simp [marksFrom, toggles, h, ih]
    · next h => simp [marksFrom, toggles, h, ih]

private theorem map_ofLine_eq (lines : List String) :
    lines.map Directive.ofLine? = (marksFrom true false lines).map Mark.directive := by
  induction lines with
  | nil => rfl
  | cons line lines ih => simp [marksFrom, toggles, ih]

/-- The marks carry the directives that a scan reads. -/
theorem map_directive_marksFrom (parseFences : Bool) (lines : List String) :
    (marksFrom parseFences false lines).map Mark.directive = directives parseFences lines := by
  unfold directives
  split
  · next h => rw [h, map_ofLine_eq]
  · next h => rw [eq_false_of_ne_true h, unfenced_eq]

theorem marksFrom_append (parseFences inFence : Bool) (first second : List String) :
    marksFrom parseFences inFence (first ++ second) =
      marksFrom parseFences inFence first ++
        marksFrom parseFences (fenceAfter parseFences inFence first) second := by
  induction first generalizing inFence with
  | nil => rfl
  | cons line first ih => simp [marksFrom, fenceAfter, ih]

/-- What lines behind others count as depends on whether those end inside of fenced code. -/
theorem directives_append_from (parseFences : Bool) (first second : List String) :
    directives parseFences (first ++ second) = directives parseFences first ++
      (marksFrom parseFences (fenceAfter parseFences false first) second).map Mark.directive := by
  rw [← map_directive_marksFrom, marksFrom_append, List.map_append, map_directive_marksFrom]

theorem fenceAfter_append (parseFences inFence : Bool) (first second : List String) :
    fenceAfter parseFences inFence (first ++ second) =
      fenceAfter parseFences (fenceAfter parseFences inFence first) second := by
  induction first generalizing inFence with
  | nil => rfl
  | cons line first ih => exact ih _

end CondDoc
