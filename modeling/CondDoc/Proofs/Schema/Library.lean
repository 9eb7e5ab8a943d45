import CondDoc.Proofs.Schema.Shape
import CondDoc.Proofs.Text.Lines
import CondDoc.Schema.Library

namespace CondDoc.Schema

/-- What is documented of the library, as far as it matters here. -/
structure Library.Documented (library : Library) : Prop where
  /-- The alias of a name of words in small letters is the same words in camel case. -/
  aliasOf_words : ∀ words : List String, words ≠ [] →
    (∀ word ∈ words, word ≠ "" ∧ ∀ c ∈ word.toList, c.isLower) →
    library.aliasOf (Text.joinWith '_' words) = camelCase words
  /-- The text is that of the record's data, in the layout that is asked for, with characters beyond
  ASCII as they are. -/
  dump_eq : ∀ {α : Type} (shape : Shape α) (indent : Option Nat) (value : α),
    library.dump shape indent value = Json.render ⟨false, indent⟩ (shape.data library.aliasOf value)
  /-- Data that makes up a value passes as this value. -/
  validate_accepted : ∀ {α : Type} (shape : Shape α) (json : Json) (value : α),
    json.DistinctNames → shape.Accepts library.aliasOf json value →
    library.validate shape json = .ok value

theorem forall_mem_of_small {word : String} (h : ∀ c ∈ word.toList, c.isLower) :
    '_' ∉ word.toList := by
  intro hmem
  exact absurd (h '_' hmem) (by decide)

/-- There is a library of which all that is documented holds. -/
theorem Library.documented_described : Library.described.Documented where
  aliasOf_words words hsome hwords := by
    have hparts : ∀ word ∈ words, '_' ∉ word.toList := by
      intro word hword
      exact forall_mem_of_small (hwords word hword).2
    exact congrArg camelCase (Text.splitAt_joinWith hsome hparts)
  dump_eq _ _ _ := rfl
  validate_accepted shape _ _ _ h := shape.read_of_accepts h

theorem Library.Documented.aliasOf_word {library : Library} (h : library.Documented) {word : String}
    (hsome : word ≠ "") (hsmall : ∀ c ∈ word.toList, c.isLower) : library.aliasOf word = word := by
  have hjoin : Text.joinWith '_' [word] = word := by
    simp [Text.joinWith]
  have hcamel : camelCase [word] = word := by
    simp [camelCase]
  have halias := h.aliasOf_words [word] (List.cons_ne_nil _ _)
    (List.forall_mem_singleton.2 ⟨hsome, hsmall⟩)
  rwa [hjoin, hcamel] at halias

/-- What the library writes of a value of a lossless shape denotes the same data in every layout,
and this data makes up the value. -/
theorem Library.Documented.round_trip {library : Library} (h : library.Documented) {α : Type}
    {shape : Shape α} (hshape : shape.Lossless library.aliasOf) (value : α) :
    ∃ json, (∀ indent, Json.ofText? (library.dump shape indent value) = some json) ∧
      library.validate shape json = .ok value := by
  have hnames := shape.distinctNames_data hshape value
  refine ⟨shape.data library.aliasOf value, ?_, ?_⟩
  · intro indent
    rw [h.dump_eq]
    exact Json.ofText?_render ⟨false, indent⟩ hnames
  · exact h.validate_accepted shape _ value hnames (shape.accepts_data hshape value)

end CondDoc.Schema
