import CondDoc.Proofs.Number.Rounding
import CondDoc.Proofs.Outcome
import CondDoc.Value.Datum

namespace CondDoc.Datum

theorem names_ofFields (fields : List (String × Value)) :
    (ofFields fields).map (fun entry => entry.1.name) = fields.map (·.1) := by
  induction fields with
  | nil => rfl
  | cons field fields ih => rw [ofFields, List.map_cons, List.map_cons, ih, Key.name]

mutual

theorem toValue_ofValue (value : Value) (h : value.DistinctKeys) :
    toValue (ofValue value) = .ok value := by
  match value with
  | .string s => rfl
  | .number x => rfl
  | .boolean b => rfl
  | .object fields =>
    rw [ofValue, toValue, toFields_ofFields fields h.2, ok_bind, Ordered.ofPairs_of_nodup h.1]
    rfl
  | .array items =>
    rw [ofValue, toValue, toItems_ofItems items h, ok_bind]
    rfl

theorem toFields_ofFields (fields : List (String × Value)) (h : Value.DistinctKeysFields fields) :
    toFields (ofFields fields) = .ok fields := by
  match fields with
  | [] => rfl
  | (name, v) :: fields =>
    rw [ofFields, toFields, toValue_ofValue v h.1, ok_bind, toFields_ofFields fields h.2]
    rfl

theorem toItems_ofItems (items : List Value) (h : Value.DistinctKeysItems items) :
    toItems (ofItems items) = .ok items := by
  match items with
  | [] => rfl
  | v :: items =>
    rw [ofItems, toItems, toValue_ofValue v h.1, ok_bind, toItems_ofItems items h.2]
    rfl

end

mutual

/-- The values that stand in the data have distinct keys, each in all of its objects. -/
def EmbedsDistinctKeys : Datum → Prop
  | .value v => v.DistinctKeys
  | .mapping entries => EmbedsDistinctKeysEntries entries
  | .list items | .tuple items => EmbedsDistinctKeysItems items
  | .null | .boolean _ | .integer _ | .number _ | .text _ | .foreign _ => True

def EmbedsDistinctKeysEntries : List (Key × Datum) → Prop
  | [] => True
  | (_, datum) :: entries => EmbedsDistinctKeys datum ∧ EmbedsDistinctKeysEntries entries

def EmbedsDistinctKeysItems : List Datum → Prop
  | [] => True
  | datum :: items => EmbedsDistinctKeys datum ∧ EmbedsDistinctKeysItems items

end

theorem distinctKeys_ofInteger {n : Int} {value : Value} (h : ofInteger n = .ok value) :
    value.DistinctKeys := by
  unfold ofInteger at h
  cases hn : Number.ofInt? n with
  | none =>
    rw [hn] at h
    cases h
  | some x =>
    rw [hn] at h
    cases h
    exact trivial

mutual

/-- Keys that denote the same name are merged, so they are distinct in what data is converted to. -/
theorem distinctKeys_toValue (datum : Datum) (h : datum.EmbedsDistinctKeys) {value : Value}
    (hvalue : toValue datum = .ok value) : value.DistinctKeys := by
  cases datum with
  | value v =>
    cases hvalue
    exact h
  | integer n =>
    rw [toValue] at hvalue
    exact distinctKeys_ofInteger hvalue
  | foreign typeName => cases hvalue
  | mapping entries =>
    rw [toValue] at hvalue
    obtain ⟨fields, hfields, hobject⟩ := bind_eq_ok_iff.1 hvalue
    cases hobject
    have hvalues : ∀ field ∈ fields, field.2.DistinctKeys := distinctKeys_toFields entries h hfields
    exact ⟨Ordered.nodup_ofPairs fields,
      Value.distinctKeysFields_iff.2 (Ordered.forall_values_ofPairs hvalues)⟩
  | list items =>
    rw [toValue] at hvalue
    obtain ⟨values, hvalues, harray⟩ := bind_eq_ok_iff.1 hvalue
    cases harray
    exact distinctKeys_toItems items h hvalues
  | tuple items =>
    rw [toValue] at hvalue
    obtain ⟨values, hvalues, harray⟩ := bind_eq_ok_iff.1 hvalue
    cases harray
    exact distinctKeys_toItems items h hvalues
  | _ =>
    cases hvalue
    exact trivial

theorem distinctKeys_toFields (entries : List (Key × Datum)) (h : EmbedsDistinctKeysEntries entries)
    {fields : List (String × Value)} (hfields : toFields entries = .ok fields) :
    ∀ field ∈ fields, field.2.DistinctKeys := by
  match entries with
  | [] =>
    cases hfields
    exact List.forall_mem_nil _
  | (key, datum) :: entries =>
    rw [toFields] at hfields
    obtain ⟨first, hfirst, hmore⟩ := bind_eq_ok_iff.1 hfields
    obtain ⟨others, hothers, hresult⟩ := bind_eq_ok_iff.1 hmore
    cases hresult
    exact List.forall_mem_cons.2
      ⟨distinctKeys_toValue datum h.1 hfirst, distinctKeys_toFields entries h.2 hothers⟩

theorem distinctKeys_toItems (items : List Datum) (h : EmbedsDistinctKeysItems items)
    {values : List Value} (hvalues : toItems items = .ok values) :
    Value.DistinctKeysItems values := by
  match items with
  | [] =>
    cases hvalues
    exact trivial
  | datum :: items =>
    rw [toItems] at hvalues
    obtain ⟨first, hfirst, hmore⟩ := bind_eq_ok_iff.1 hvalues
    obtain ⟨others, hothers, hresult⟩ := bind_eq_ok_iff.1 hmore
    cases hresult
    exact ⟨distinctKeys_toValue datum h.1 hfirst, distinctKeys_toItems items h.2 hothers⟩

end

/-- The data of the value that data is converted to. -/
def canonical (datum : Datum) : Except DataError Datum := (toValue datum).map ofValue

mutual

/-- Data without null, integers, tuples and embedded values, in which all keys are texts and no
mapping has a key twice. -/
def IsCanonical : Datum → Prop
  | .boolean _ | .number _ | .text _ => True
  | .mapping entries => (entries.map fun entry => entry.1.name).Nodup ∧ IsCanonicalEntries entries
  | .list items => IsCanonicalItems items
  | .null | .integer _ | .tuple _ | .value _ | .foreign _ => False

def IsCanonicalEntries : List (Key × Datum) → Prop
  | [] => True
  | (key, datum) :: entries =>
    key = .text key.name ∧ IsCanonical datum ∧ IsCanonicalEntries entries

def IsCanonicalItems : List Datum → Prop
  | [] => True
  | datum :: items => IsCanonical datum ∧ IsCanonicalItems items

end

mutual

theorem isCanonical_ofValue (value : Value) (h : value.DistinctKeys) :
    (ofValue value).IsCanonical := by
  match value with
  | .string _ | .number _ | .boolean _ => exact trivial
  | .object fields =>
    have hnames : ((ofFields fields).map fun entry => entry.1.name).Nodup := by
      rw [names_ofFields]
      exact h.1
    exact ⟨hnames, isCanonicalEntries_ofFields fields h.2⟩
  | .array items => exact isCanonicalItems_ofItems items h

theorem isCanonicalEntries_ofFields (fields : List (String × Value))
    (h : Value.DistinctKeysFields fields) : IsCanonicalEntries (ofFields fields) := by
  match fields with
  | [] => exact trivial
  | (name, v) :: fields =>
    exact ⟨rfl, isCanonical_ofValue v h.1, isCanonicalEntries_ofFields fields h.2⟩

theorem isCanonicalItems_ofItems (items : List Value) (h : Value.DistinctKeysItems items) :
    IsCanonicalItems (ofItems items) := by
  match items with
  | [] => exact trivial
  | v :: items => exact ⟨isCanonical_ofValue v h.1, isCanonicalItems_ofItems items h.2⟩

end

mutual

/-- Canonical data is the data of a value. -/
theorem exists_value_of_isCanonical (datum : Datum) (h : datum.IsCanonical) :
    ∃ v : Value, v.DistinctKeys ∧ ofValue v = datum := by
  cases datum with
  | boolean b => exact ⟨.boolean b, trivial, rfl⟩
  | number x => exact ⟨.number x, trivial, rfl⟩
  | text s => exact ⟨.string s, trivial, rfl⟩
  | mapping entries =>
    obtain ⟨hnames, hentries⟩ := h
    obtain ⟨fields, hfields, rfl⟩ := exists_fields_of_isCanonical entries hentries
    rw [names_ofFields] at hnames
    exact ⟨.object fields, ⟨hnames, hfields⟩, rfl⟩
  | list items =>
    obtain ⟨values, hvalues, rfl⟩ := exists_items_of_isCanonical items h
    exact ⟨.array values, hvalues, rfl⟩
  | _ => cases h

theorem exists_fields_of_isCanonical (entries : List (Key × Datum)) (h : IsCanonicalEntries entries) :
    ∃ fields, Value.DistinctKeysFields fields ∧ ofFields fields = entries := by
  match entries with
  | [] => exact ⟨[], trivial, rfl⟩
  | (key, datum) :: entries =>
    obtain ⟨hkey, hdatum, hentries⟩ := h
    obtain ⟨v, hv, rfl⟩ := exists_value_of_isCanonical datum hdatum
    obtain ⟨fields, hfields, rfl⟩ := exists_fields_of_isCanonical entries hentries
    refine ⟨(key.name, v) :: fields, ⟨hv, hfields⟩, ?_⟩
    rw [ofFields, ← hkey]

theorem exists_items_of_isCanonical (items : List Datum) (h : IsCanonicalItems items) :
    ∃ values, Value.DistinctKeysItems values ∧ ofItems values = items := by
  match items with
  | [] => exact ⟨[], trivial, rfl⟩
  | datum :: items =>
    obtain ⟨v, hv, rfl⟩ := exists_value_of_isCanonical datum h.1
    obtain ⟨values, hvalues, rfl⟩ := exists_items_of_isCanonical items h.2
    exact ⟨v :: values, ⟨hv, hvalues⟩, rfl⟩

end

theorem canonical_ofValue {v : Value} (h : v.DistinctKeys) :
    canonical (ofValue v) = .ok (ofValue v) := by
  rw [canonical, toValue_ofValue v h]
  rfl

theorem canonical_of_isCanonical {datum : Datum} (h : datum.IsCanonical) :
    canonical datum = .ok datum := by
  obtain ⟨v, hv, rfl⟩ := exists_value_of_isCanonical datum h
  exact canonical_ofValue hv

/-- A value comes back from its plain data as it is, with its keys in their order. And whatever data
is converted, there and back it is in the canonical form, which another time changes nothing; data
that is in this form does not change the first time. -/
theorem conversion_keeps_values_and_canonical_data :
    (∀ v : Value, v.DistinctKeys → toValue (ofValue v) = .ok v) ∧
    (∀ datum result : Datum, datum.EmbedsDistinctKeys → canonical datum = .ok result →
      result.IsCanonical ∧ canonical result = .ok result) ∧
    ∀ datum : Datum, datum.IsCanonical → canonical datum = .ok datum := by
  refine ⟨toValue_ofValue, ?_, fun _ => canonical_of_isCanonical⟩
  intro datum result hembedded hresult
  obtain ⟨v, hv, rfl⟩ := map_eq_ok_iff.1 hresult
  have hdistinct : v.DistinctKeys := distinctKeys_toValue datum hembedded hv
  exact ⟨isCanonical_ofValue v hdistinct, canonical_ofValue hdistinct⟩

/-- An integer, null, a tuple, an embedded value, and two keys of one name. -/
def mixedData : Datum :=
  .mapping [(.integer 0, .null),
    (.text "b", .tuple [.integer 0, .boolean true, .value (.object [("k", .number (.infinite true))])]),
    (.text "0", .text "last")]

def mixedDataAsValue : Value :=
  .object [("0", .string "last"),
    ("b", .array [.number (.finite false .zero), .boolean true,
      .object [("k", .number (.infinite true))]])]

theorem canonical_mixedData :
    mixedDataAsValue.DistinctKeys ∧ mixedData.EmbedsDistinctKeys ∧
      canonical mixedData = .ok (ofValue mixedDataAsValue) ∧
      toValue (ofValue mixedDataAsValue) = .ok mixedDataAsValue ∧
      canonical (ofValue mixedDataAsValue) = .ok (ofValue mixedDataAsValue) := by
  have hzero : Number.ofInt? 0 = some (.finite false .zero) := by
    have hinteger : (Number.finite false .zero).toInt? = some 0 := by decide +kernel
    exact Number.ofInt?_of_toInt? hinteger
  have hvalue : mixedDataAsValue.DistinctKeys := by
    simp [mixedDataAsValue, Value.DistinctKeys, Value.DistinctKeysFields, Value.DistinctKeysItems]
  have hembedded : mixedData.EmbedsDistinctKeys := by
    simp [mixedData, EmbedsDistinctKeys, EmbedsDistinctKeysEntries, EmbedsDistinctKeysItems,
      Value.DistinctKeys, Value.DistinctKeysFields]
  have hresult : canonical mixedData = .ok (ofValue mixedDataAsValue) := by
    simp only [canonical, mixedData, toValue, toFields, toItems, ofInteger, hzero]
    rfl
  have hkept := conversion_keeps_values_and_canonical_data
  exact ⟨hvalue, hembedded, hresult, hkept.1 _ hvalue, (hkept.2.1 _ _ hembedded hresult).2⟩

end CondDoc.Datum
