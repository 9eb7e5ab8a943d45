import CondDoc.Proofs.Document.Tree
import CondDoc.Proofs.Text.Trim

namespace CondDoc

def Directive.expression? : Directive → Option String
  | .ifStart expression | .elseIf expression => some expression
  | .otherwise | .close => none

/-- The directive that a branch begins with. -/
def Guard.directive : Guard → Directive
  | .condition expression => .ifStart expression
  | .elseIf expression => .elseIf expression
  | .otherwise => .otherwise

theorem Guard.expression?_directive (guard : Guard) :
    guard.directive.expression? = guard.expression? := by
  cases guard <;> rfl

/-- The directives among the lines, in order. -/
def word (directives : List (Option Directive)) : List Directive := directives.filterMap id

theorem mem_word {directives : List (Option Directive)} {directive : Directive} :
    directive ∈ word directives ↔ some directive ∈ directives := by
  simp [word]

/-- No blank stands at an end. -/
def Text.Trimmed (text : String) : Prop := Text.trim text.toList = text.toList

theorem Directive.trimmed_of_condition? {cs : List Char} {expression : String}
    (h : condition? cs = some expression) : Text.Trimmed expression := by
  unfold condition? at h
  split at h
  · split at h
    · cases h
      rw [Text.Trimmed, String.toList_ofList, Text.trim_trim]
    · cases h
  · cases h

theorem Directive.trimmed_of_afterElse? {cs : List Char} {directive : Directive}
    {expression : String} (h : afterElse? cs = some directive)
    (hexpression : directive.expression? = some expression) : Text.Trimmed expression := by
  unfold afterElse? at h
  split at h
  · cases h
    cases hexpression
  · split at h
    · obtain ⟨rest, -, h⟩ := Option.bind_eq_some_iff.1 h
      obtain ⟨condition, hcondition, rfl⟩ := Option.map_eq_some_iff.1 h
      cases hexpression
      exact trimmed_of_condition? hcondition
    · cases h

theorem Directive.trimmed_of_ofChars? {cs : List Char} {directive : Directive}
    {expression : String} (h : ofChars? cs = some directive)
    (hexpression : directive.expression? = some expression) : Text.Trimmed expression := by
  unfold ofChars? at h
  obtain ⟨body, -, h⟩ := Option.bind_eq_some_iff.1 h
  split at h
  · obtain ⟨condition, hcondition, rfl⟩ := Option.map_eq_some_iff.1 h
    cases hexpression
    exact trimmed_of_condition? hcondition
  · split at h
    · split at h
      · cases h
        cases hexpression
      · cases h
    · obtain ⟨rest, -, h⟩ := Option.bind_eq_some_iff.1 h
      exact trimmed_of_afterElse? h hexpression

theorem exists_line_of_mem_unfenced {inFence : Bool} {lines : List String}
    {directive : Directive} (h : some directive ∈ unfenced inFence lines) :
    ∃ line ∈ lines, Directive.ofLine? line = some directive := by
  induction lines generalizing inFence with
  | nil => cases h
  | cons line lines ih =>
    unfold unfenced at h
    rw [List.exists_mem_cons_iff]
    split at h
    · rcases List.mem_cons.1 h with hfirst | hothers
      · cases hfirst
      · exact .inr (ih hothers)
    · rcases List.mem_cons.1 h with hfirst | hothers
      · split at hfirst
        · cases hfirst
        · exact .inl hfirst.symm
      · exact .inr (ih hothers)

theorem exists_line_of_mem_directives {parseFences : Bool} {lines : List String}
    {directive : Directive} (h : some directive ∈ directives parseFences lines) :
    ∃ line ∈ lines, Directive.ofLine? line = some directive := by
  unfold directives at h
  split at h
  · exact List.mem_map.1 h
  · exact exists_line_of_mem_unfenced h

theorem trimmed_of_mem_directives {parseFences : Bool} {lines : List String}
    {directive : Directive} {expression : String}
    (h : some directive ∈ directives parseFences lines)
    (hexpression : directive.expression? = some expression) : Text.Trimmed expression := by
  obtain ⟨line, -, hline⟩ := exists_line_of_mem_directives h
  exact Directive.trimmed_of_ofChars? hline hexpression

mutual

theorem Tree.Fits.expression_ne_empty {maxNesting depth : Nat} {tree : Tree}
    (h : tree.Fits maxNesting depth) :
    ∀ directive ∈ word (tree.marks.map Mark.directive), directive.expression? ≠ some "" := by
  cases tree with
  | empty =>
    intro directive hmem
    cases hmem
  | line text rest =>
    have hrest : rest.Fits maxNesting depth := h
    exact hrest.expression_ne_empty
  | block opening condition body tail rest =>
    obtain ⟨-, hcondition, hbody, htail, hrest⟩ := h
    intro directive hmem
    simp only [mem_word, Tree.marks, List.map_cons, List.map_append, List.mem_cons,
      List.mem_append] at hmem
    rcases hmem with hmem | hmem | hmem | hmem
    · cases hmem
      exact fun heq => hcondition (Option.some.inj heq)
    · exact hbody.expression_ne_empty directive (mem_word.2 hmem)
    · exact htail.expression_ne_empty directive (mem_word.2 hmem)
    · exact hrest.expression_ne_empty directive (mem_word.2 hmem)

theorem Tail.Fits.expression_ne_empty {maxNesting depth : Nat} {tail : Tail}
    (h : tail.Fits maxNesting depth) :
    ∀ directive ∈ word (tail.marks.map Mark.directive), directive.expression? ≠ some "" := by
  cases tail with
  | close closing =>
    intro directive hmem heq
    obtain rfl := List.mem_singleton.1 hmem
    cases heq
  | elseIf line condition body tail =>
    obtain ⟨hcondition, hbody, htail⟩ := h
    intro directive hmem
    simp only [mem_word, Tail.marks, List.map_cons, List.map_append, List.mem_cons,
      List.mem_append] at hmem
    rcases hmem with hmem | hmem | hmem
    · cases hmem
      exact fun heq => hcondition (Option.some.inj heq)
    · exact hbody.expression_ne_empty directive (mem_word.2 hmem)
    · exact htail.expression_ne_empty directive (mem_word.2 hmem)
  | otherwise line body closing =>
    have hbody : body.Fits maxNesting depth := h
    intro directive hmem heq
    simp only [mem_word, Tail.marks, List.map_cons, List.map_append, List.mem_cons,
      List.mem_append, List.map_nil, List.not_mem_nil, or_false] at hmem
    rcases hmem with hmem | hmem | hmem
    · cases hmem
      cases heq
    · exact hbody.expression_ne_empty directive (mem_word.2 hmem) heq
    · cases hmem
      cases heq

end

end CondDoc
