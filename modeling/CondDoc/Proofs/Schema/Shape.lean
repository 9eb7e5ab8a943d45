import CondDoc.Proofs.Json.RoundTrip
import CondDoc.Schema.Shape
import Mathlib.Data.List.Forall2

namespace CondDoc.Schema

variable {α β : Type}

section

variable (aliasOf : String → String)

mutual

/-- JSON data that makes up a value of a shape. A field is looked up under its alias, then under its
name. -/
def Shape.Accepts {α : Type} : Shape α → Json → α → Prop
  | .integer, json, n => json = .integer n
  | .boolean, json, b => json = .boolean b
  | .text, json, s => json = .text s
  | .choice _ named?, json, value => ∃ s, json = .text s ∧ named? s = some value
  | .optional _, json, none => json = .null
  | .optional shape, json, some value => json ≠ .null ∧ shape.Accepts json value
  | .list shape, json, values =>
    ∃ items, json = .array items ∧ List.Forall₂ shape.Accepts items values
  | .record fields, json, value => ∃ entries, json = .object entries ∧ fields.Accepts entries value

def Fields.Accepts {α β : Type} : Fields α β → List (String × Json) → β → Prop
  | .start build, _, value => build = value
  | .field before name shape ifMissing _, entries, value =>
    ∃ build part, build part = value ∧ before.Accepts entries build ∧
      match [aliasOf name, name].findSome? fun n => Ordered.find? (· == n) entries with
      | some json => shape.Accepts json part
      | none => ifMissing = some part

end

end

section

variable {aliasOf : String → String} {α β : Type}

theorem field_eq_ok {name : String} {otherNames : List String} {ifMissing : Option α}
    {read : Json → Checked α} {entries : List (String × Json)} {value : α}
    (h : match (name :: otherNames).findSome? fun n => Ordered.find? (· == n) entries with
      | some json => read json = .ok value
      | none => ifMissing = some value) :
    field name otherNames read ifMissing entries = .ok value := by
  unfold field
  cases hfound : (name :: otherNames).findSome? fun n => Ordered.find? (· == n) entries with
  | some json =>
    rw [hfound] at h
    have hread : read json = .ok value := h
    simp only [hread]
    rfl
  | none =>
    rw [hfound] at h
    have hmissing : ifMissing = some value := h
    simp only [hmissing]

theorem listFrom_eq_ok {read : Json → Checked α} {items : List Json} {values : List α}
    (h : List.Forall₂ (fun json value => read json = .ok value) items values) (index : Nat) :
    listFrom read index items = .ok values := by
  induction h generalizing index with
  | nil => rfl
  | cons hfirst hothers ih =>
    rw [listFrom, hfirst, ih]
    rfl

mutual

/-- Data that makes up a value is read as this value. -/
theorem Shape.read_of_accepts {α : Type} (shape : Shape α) {json : Json} {value : α}
    (h : shape.Accepts aliasOf json value) : shape.read aliasOf json = .ok value := by
  match shape, value, h with
  | .integer, n, h =>
    rw [Shape.Accepts] at h
    rw [h]
    rfl
  | .boolean, b, h =>
    rw [Shape.Accepts] at h
    rw [h]
    rfl
  | .text, s, h =>
    rw [Shape.Accepts] at h
    rw [h]
    rfl
  | .choice name named?, value, h =>
    rw [Shape.Accepts] at h
    obtain ⟨s, hjson, hnamed⟩ := h
    rw [hjson, Shape.read, choice, hnamed]
  | .optional shape, none, h =>
    rw [Shape.Accepts] at h
    rw [h]
    rfl
  | .optional shape, some value, h =>
    rw [Shape.Accepts] at h
    have hread := shape.read_of_accepts h.2
    rw [Shape.read, optional, hread]
    · rfl
    · exact h.1
  | .list shape, values, h =>
    rw [Shape.Accepts] at h
    obtain ⟨items, hjson, hitems⟩ := h
    rw [hjson, Shape.read]
    exact listFrom_eq_ok (hitems.imp fun _ _ haccepts => shape.read_of_accepts haccepts) 0
  | .record fields, value, h =>
    rw [Shape.Accepts] at h
    obtain ⟨entries, hjson, hentries⟩ := h
    rw [hjson, Shape.read]
    exact fields.read_of_accepts hentries

theorem Fields.read_of_accepts {α β : Type} (fields : Fields α β) {entries : List (String × Json)}
    {value : β} (h : fields.Accepts aliasOf entries value) :
    fields.read aliasOf entries = .ok value := by
  match fields with
  | .start build =>
    rw [Fields.Accepts] at h
    rw [Fields.read, h]
  | .field before name shape ifMissing part =>
    rw [Fields.Accepts] at h
    obtain ⟨build, value, rfl, hbefore, hfield⟩ := h
    have hread : field (aliasOf name) [name] (shape.read aliasOf) ifMissing entries = .ok value := by
      apply field_eq_ok
      split at hfield
      · exact shape.read_of_accepts hfield
      · exact hfield
    rw [Fields.read, before.read_of_accepts hbefore, hread]
    rfl

end

end

namespace Fields

/-- The names of the fields in their order. -/
def names {α β : Type} : Fields α β → List String
  | .start _ => []
  | .field before name _ _ _ => before.names ++ [name]

/-- What the parts of a value make up. -/
def rebuild {α β : Type} : Fields α β → α → β
  | .start build, _ => build
  | .field before _ _ _ part, value => before.rebuild value (part value)

end Fields

section

variable (aliasOf : String → String)

mutual

/-- A shape with which nothing of a value is lost: values that are chosen from go by their own names,
null stands for nothing else, and the fields of a record, which have different aliases, hold all of
it. -/
def Shape.Lossless {α : Type} : Shape α → Prop
  | .integer | .boolean | .text => True
  | .choice name named? => ∀ value, named? (name value) = some value
  | .optional shape => shape.Lossless ∧ ∀ value, shape.data aliasOf value ≠ .null
  | .list shape => shape.Lossless
  | .record fields =>
    (fields.names.map aliasOf).Nodup ∧ fields.Lossless ∧ ∀ value, fields.rebuild value = value

def Fields.Lossless {α β : Type} : Fields α β → Prop
  | .start _ => True
  | .field before _ shape _ _ => before.Lossless ∧ shape.Lossless

end

end

section

variable {aliasOf : String → String}

theorem Fields.map_data {α β : Type} (fields : Fields α β) (value : α) :
    (fields.data aliasOf value).map (·.1) = fields.names.map aliasOf := by
  match fields with
  | .start build => rfl
  | .field before name shape ifMissing part =>
    rw [Fields.data, Fields.names, List.map_append, List.map_append, before.map_data]
    rfl

mutual

/-- The data of a value makes up the value. -/
theorem Shape.accepts_data {α : Type} (shape : Shape α) (h : shape.Lossless aliasOf) (value : α) :
    shape.Accepts aliasOf (shape.data aliasOf value) value := by
  match shape, value with
  | .integer, n => rw [Shape.data, Shape.Accepts]
  | .boolean, b => rw [Shape.data, Shape.Accepts]
  | .text, s => rw [Shape.data, Shape.Accepts]
  | .choice name named?, value =>
    rw [Shape.Lossless] at h
    rw [Shape.data, Shape.Accepts]
    exact ⟨name value, rfl, h value⟩
  | .optional shape, none => rw [Shape.data, Shape.Accepts]
  | .optional shape, some value =>
    rw [Shape.Lossless] at h
    rw [Shape.data, Shape.Accepts]
    exact ⟨h.2 value, shape.accepts_data h.1 value⟩
  | .list shape, values =>
    rw [Shape.Lossless] at h
    rw [Shape.data, Shape.Accepts]
    refine ⟨values.map (shape.data aliasOf), rfl, ?_⟩
    rw [List.forall₂_map_left_iff, List.forall₂_same]
    intro value _
    exact shape.accepts_data h value
  | .record fields, value =>
    rw [Shape.Lossless] at h
    obtain ⟨hnames, hfields, hrebuild⟩ := h
    rw [← fields.map_data value] at hnames
    have hfind : ∀ entry ∈ fields.data aliasOf value,
        Ordered.find? (· == entry.1) (fields.data aliasOf value) = some entry.2 := by
      intro entry hentry
      exact Ordered.find?_of_mem (f := id) hnames hentry rfl
    have haccepts := fields.accepts_data hfields value hfind
    rw [hrebuild] at haccepts
    rw [Shape.data, Shape.Accepts]
    exact ⟨fields.data aliasOf value, rfl, haccepts⟩

/-- The entries of a record make up what its parts do, also where they stand among others. -/
theorem Fields.accepts_data {α β : Type} (fields : Fields α β) (h : fields.Lossless aliasOf)
    (value : α) {entries : List (String × Json)}
    (hentries : ∀ entry ∈ fields.data aliasOf value,
      Ordered.find? (· == entry.1) entries = some entry.2) :
    fields.Accepts aliasOf entries (fields.rebuild value) := by
  match fields with
  | .start build => rw [Fields.rebuild, Fields.Accepts]
  | .field before name shape ifMissing part =>
    rw [Fields.Lossless] at h
    rw [Fields.data] at hentries
    obtain ⟨hbefore, hlast⟩ := List.forall_mem_append.1 hentries
    have hfind : Ordered.find? (· == aliasOf name) entries =
        some (shape.data aliasOf (part value)) := hlast _ (List.mem_singleton_self _)
    rw [Fields.rebuild, Fields.Accepts]
    refine ⟨before.rebuild value, part value, rfl, before.accepts_data h.1 value hbefore, ?_⟩
    rw [List.findSome?_cons, hfind]
    exact shape.accepts_data h.2 (part value)

end

mutual

theorem Shape.distinctNames_data {α : Type} (shape : Shape α) (h : shape.Lossless aliasOf)
    (value : α) : (shape.data aliasOf value).DistinctNames := by
  match shape, value with
  | .integer, n => exact trivial
  | .boolean, b => exact trivial
  | .text, s => exact trivial
  | .choice name named?, value => exact trivial
  | .optional shape, none => exact trivial
  | .optional shape, some value =>
    rw [Shape.Lossless] at h
    exact shape.distinctNames_data h.1 value
  | .list shape, values =>
    rw [Shape.Lossless] at h
    refine Json.distinctNamesItems_iff.2 (List.forall_mem_map.2 ?_)
    intro value _
    exact shape.distinctNames_data h value
  | .record fields, value =>
    rw [Shape.Lossless] at h
    have hnames : ((fields.data aliasOf value).map (·.1)).Nodup := by
      rw [fields.map_data]
      exact h.1
    exact ⟨hnames, Json.distinctNamesEntries_iff.2 (fields.distinctNames_data h.2.1 value)⟩

theorem Fields.distinctNames_data {α β : Type} (fields : Fields α β) (h : fields.Lossless aliasOf)
    (value : α) : ∀ entry ∈ fields.data aliasOf value, entry.2.DistinctNames := by
  match fields with
  | .start build => exact List.forall_mem_nil _
  | .field before name shape ifMissing part =>
    rw [Fields.Lossless] at h
    have hlast := shape.distinctNames_data h.2 (part value)
    rw [Fields.data]
    exact List.forall_mem_append.2
      ⟨before.distinctNames_data h.1 value, List.forall_mem_singleton.2 hlast⟩

end

end

end CondDoc.Schema
