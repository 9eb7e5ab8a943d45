import CondDoc.Proofs.Json.RoundTrip
import CondDoc.Proofs.Outcome
import CondDoc.Resolver
import CondDoc.Value.Text

namespace CondDoc

namespace Value

mutual

/-- The value with zeros that have no sign. -/
def unsignedZeros : Value → Value
  | .string s => .string s
  | .number x => .number x.unsignedZero
  | .boolean b => .boolean b
  | .object fields => .object (unsignedZerosFields fields)
  | .array items => .array (unsignedZerosItems items)

def unsignedZerosFields : List (String × Value) → List (String × Value)
  | [] => []
  | (name, value) :: fields => (name, unsignedZeros value) :: unsignedZerosFields fields

def unsignedZerosItems : List Value → List Value
  | [] => []
  | value :: items => unsignedZeros value :: unsignedZerosItems items

end

theorem names_fieldsJson (fields : List (String × Value)) :
    (fieldsJson fields).map (·.1) = fields.map (·.1) := by
  induction fields with
  | nil => rfl
  | cons field fields ih => rw [fieldsJson, List.map_cons, List.map_cons, ih]

theorem names_unsignedZerosFields (fields : List (String × Value)) :
    (unsignedZerosFields fields).map (·.1) = fields.map (·.1) := by
  induction fields with
  | nil => rfl
  | cons field fields ih => rw [unsignedZerosFields, List.map_cons, List.map_cons, ih]

theorem distinctNames_numberJson (x : Number) : (numberJson x).DistinctNames := by
  unfold numberJson
  split
  · exact trivial
  · exact trivial

mutual

theorem distinctNames_toJson (value : Value) (h : value.DistinctKeys) :
    value.toJson.DistinctNames := by
  match value with
  | .string s => exact trivial
  | .number x => exact distinctNames_numberJson x
  | .boolean b => exact trivial
  | .object fields =>
    refine ⟨?_, distinctNames_fieldsJson fields h.2⟩
    rw [names_fieldsJson]
    exact h.1
  | .array items => exact distinctNames_itemsJson items h

theorem distinctNames_fieldsJson (fields : List (String × Value)) (h : DistinctKeysFields fields) :
    Json.DistinctNamesEntries (fieldsJson fields) := by
  match fields with
  | [] => exact trivial
  | (_, value) :: fields =>
    exact ⟨distinctNames_toJson value h.1, distinctNames_fieldsJson fields h.2⟩

theorem distinctNames_itemsJson (items : List Value) (h : DistinctKeysItems items) :
    Json.DistinctNamesItems (itemsJson items) := by
  match items with
  | [] => exact trivial
  | value :: items => exact ⟨distinctNames_toJson value h.1, distinctNames_itemsJson items h.2⟩

end

theorem ofPairs_unsignedZerosFields {fields : List (String × Value)}
    (h : (fields.map (·.1)).Nodup) :
    Ordered.ofPairs (· == ·) (unsignedZerosFields fields) = unsignedZerosFields fields := by
  apply Ordered.ofPairs_of_nodup
  rwa [names_unsignedZerosFields]

/-- A number that is written as an integer loses the sign of zero, and nothing else. -/
theorem toValue_numberJson (x : Number) :
    Datum.toValue (Datum.ofJson (numberJson x)) = .ok (.number x.unsignedZero) := by
  unfold numberJson
  split
  · next n hn =>
    rw [Datum.ofJson, Datum.toValue, Datum.ofInteger, Number.ofInt?_of_toInt? hn]
    rfl
  · next hnone =>
    rw [Datum.ofJson, Datum.toValue, Number.unsignedZero_of_toInt? hnone]

mutual

theorem toValue_toJson (value : Value) (h : value.DistinctKeys) :
    Datum.toValue (Datum.ofJson value.toJson) = .ok value.unsignedZeros := by
  match value with
  | .string s => rfl
  | .number x => exact toValue_numberJson x
  | .boolean b => rfl
  | .object fields =>
    rw [toJson, Datum.ofJson, Datum.toValue, toFields_fieldsJson fields h.2, ok_bind,
      ofPairs_unsignedZerosFields h.1]
    rfl
  | .array items =>
    rw [toJson, Datum.ofJson, Datum.toValue, toItems_itemsJson items h,
      ok_bind]
    rfl

theorem toFields_fieldsJson (fields : List (String × Value)) (h : DistinctKeysFields fields) :
    Datum.toFields (Datum.ofJsonEntries (fieldsJson fields)) =
      .ok (unsignedZerosFields fields) := by
  match fields with
  | [] => rfl
  | (name, value) :: fields =>
    rw [fieldsJson, Datum.ofJsonEntries, Datum.toFields, toValue_toJson value h.1,
      toFields_fieldsJson fields h.2]
    rfl

theorem toItems_itemsJson (items : List Value) (h : DistinctKeysItems items) :
    Datum.toItems (Datum.ofJsonItems (itemsJson items)) = .ok (unsignedZerosItems items) := by
  match items with
  | [] => rfl
  | value :: items =>
    rw [itemsJson, Datum.ofJsonItems, Datum.toItems, toValue_toJson value h.1,
      toItems_itemsJson items h.2]
    rfl

end

/-- The text of an object, read as arguments, gives back its fields in their order, with zeros that
have no sign. -/
theorem ofJson_asText (fields : List (String × Value)) (h : (Value.object fields).DistinctKeys) :
    Resolver.ofJson (asText (.object fields)) = .ok ⟨unsignedZerosFields fields⟩ := by
  have hread := Json.ofText?_render inlineLayout (distinctNames_toJson _ h)
  have hfields := toFields_fieldsJson fields h.2
  unfold Resolver.ofJson
  rw [asText, hread]
  simp only [toJson, Datum.ofJson, Resolver.ofArguments]
  rw [hfields, ok_bind, ofPairs_unsignedZerosFields h.1]
  rfl

/-- The smallest positive number, which is written with an exponent. -/
def tiny : Magnitude := ⟨1, by decide +kernel, 1, 0, by decide, by decide⟩

/-- Fields with characters to escape, two zeros, an infinity, and containers in containers. -/
def mixedFields (negativeZero : Bool) : List (String × Value) :=
  [("\"\\\n😀", .array [.number (.finite negativeZero .zero), .number (.infinite true),
      .string "é", .array []]),
    ("", .object [("b", .boolean true), ("a", .number (.finite true tiny))])]

theorem ofJson_asText_mixedFields : (Value.object (mixedFields true)).DistinctKeys ∧
    Resolver.ofJson (asText (.object (mixedFields true))) = .ok ⟨mixedFields false⟩ := by
  have hkeys : (Value.object (mixedFields true)).DistinctKeys := by
    simp [mixedFields, DistinctKeys, DistinctKeysFields, DistinctKeysItems]
  exact ⟨hkeys, ofJson_asText (mixedFields true) hkeys⟩

end Value

end CondDoc
