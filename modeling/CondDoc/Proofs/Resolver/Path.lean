import CondDoc.Proofs.Resolver.Defaults
import CondDoc.Proofs.Text.Lines

namespace CondDoc

namespace Resolver

/-- The keys lead from a value through nested objects, from each to the entry of the next key. -/
inductive KeysLead : Value → List String → Value → Prop where
  | here (value : Value) : KeysLead value [] value
  | through {fields : List (String × Value)} {key : String} {keys : List String}
      {next value : Value} :
      (key, next) ∈ fields → KeysLead next keys value →
        KeysLead (.object fields) (key :: keys) value

/-- A key means its own entry, even if another key differs from it by case or underscores only. -/
theorem field?_of_mem {fields : List (String × Value)} (hdistinct : (fields.map (·.1)).Nodup)
    {key : String} {value : Value} (hmem : (key, value) ∈ fields) :
    field? fields key = some value := by
  have hexact : Ordered.find? (· == key) fields = some value :=
    @Ordered.find?_of_mem String Value String _ _ id fields (key, value) key hdistinct hmem rfl
  rw [field?_eq, hexact, Option.some_or]

theorem follow?_of_keysLead {start value : Value} {keys : List String}
    (hlead : KeysLead start keys value) (hdistinct : start.DistinctKeys)
    (hkeys : ∀ key ∈ keys, key ≠ "") : follow? start keys = some value := by
  induction hlead with
  | here value => rfl
  | through hmem _ ih =>
    obtain ⟨hkey, hkeys⟩ := List.forall_mem_cons.1 hkeys
    obtain ⟨hfields, hvalues⟩ := hdistinct
    rw [follow?_object hkey, field?_of_mem hfields hmem, Option.bind_some]
    exact ih (Value.distinctKeysFields_iff.1 hvalues _ hmem) hkeys

/-- Names that follow others are looked up where these lead. -/
theorem follow?_append (value : Value) (first second : List String) :
    follow? value (first ++ second) =
      (follow? value first).bind fun found => follow? found second := by
  induction first generalizing value with
  | nil => rfl
  | cons name first ih =>
    cases value with
    | object fields =>
      by_cases hname : name = ""
      · rw [List.cons_append, follow?, if_pos hname, follow?, if_pos hname, Option.bind_none]
      · rw [List.cons_append, follow?_object hname, follow?_object hname, Option.bind_assoc]
        exact Option.bind_congr fun found _ => ih found
    | _ => rfl

/-- The names of a path lead where the path does; the empty path is one empty name, which leads
nowhere. -/
theorem follow?_splitAt (resolver : Resolver) (path : String) :
    follow? (.object resolver.fields) (Text.splitAt '.' path) = resolver.resolve? path := by
  unfold resolve?
  split
  · next hempty =>
    subst hempty
    rfl
  · rfl

/-- From a value that is no object no path leads on. -/
theorem follow?_splitAt_of_kind_ne {value : Value} (h : value.kind ≠ .object) (path : String) :
    follow? value (Text.splitAt '.' path) = none := by
  cases hnames : Text.splitAt '.' path with
  | nil => exact absurd (List.map_eq_nil_iff.1 hnames) (Text.pieces_ne_nil _ _)
  | cons name names =>
    cases value with
    | object fields => exact absurd rfl h
    | _ => rfl

theorem resolve?_append (resolver : Resolver) (first second : String) :
    resolver.resolve? (first ++ "." ++ second) = (resolver.resolve? first).bind fun found =>
      follow? found (Text.splitAt '.' second) := by
  have hsplit : Text.splitAt '.' (first ++ "." ++ second) =
      Text.splitAt '.' first ++ Text.splitAt '.' second := by
    apply Text.splitAt_eq_append
    rw [String.toList_append, String.toList_append, List.append_assoc]
    rfl
  rw [← follow?_splitAt, hsplit, follow?_append, follow?_splitAt]

/-- Exact spelling wins at every level, so that keys joined by points lead to the value that they
lead to one by one. And a path is followed part by part: what stands behind a point is looked up in
the object to which the part in front of it leads, and in nothing else. -/
theorem resolve?_exactly (resolver : Resolver) :
    ((Value.object resolver.fields).DistinctKeys → ∀ keys value, keys ≠ [] →
      (∀ key ∈ keys, key ≠ "" ∧ '.' ∉ key.toList) →
      KeysLead (.object resolver.fields) keys value →
      resolver.resolve? (Text.joinWith '.' keys) = some value) ∧
    ∀ first second : String,
      (∀ fields, resolver.resolve? first = some (.object fields) →
        resolver.resolve? (first ++ "." ++ second) = (Resolver.mk fields).resolve? second) ∧
      ((∀ fields, resolver.resolve? first ≠ some (.object fields)) →
        resolver.resolve? (first ++ "." ++ second) = none) := by
  constructor
  · intro hdistinct keys value hne hkeys hlead
    rw [← follow?_splitAt, Text.splitAt_joinWith hne fun key hmem => (hkeys key hmem).2]
    exact follow?_of_keysLead hlead hdistinct fun key hmem => (hkeys key hmem).1
  · intro first second
    rw [resolve?_append]
    constructor
    · intro fields hfirst
      rw [hfirst, Option.bind_some]
      exact follow?_splitAt ⟨fields⟩ second
    · intro hnone
      refine Option.bind_eq_none_iff.2 fun found hfound => ?_
      refine follow?_splitAt_of_kind_ne (fun hkind => ?_) second
      cases found with
      | object fields => exact hnone fields hfound
      | _ => cases hkind

/-- One name in four spellings, and below one of them another in three. -/
def crowded : Resolver :=
  ⟨[("user", .string "first"), ("USER", .object [("MYID", .string "x"), ("my_id", .string "y"),
    ("myid", .string "z")]), ("User", .array []), ("us_er", .object [])]⟩

theorem resolve?_crowded :
    (Value.object crowded.fields).DistinctKeys ∧
      KeysLead (.object crowded.fields) ["USER", "my_id"] (.string "y") ∧
      crowded.resolve? "USER.my_id" = some (.string "y") ∧
      (∃ fields, crowded.resolve? "USER" = some (.object fields) ∧
        crowded.resolve? "USER.MyId" = (Resolver.mk fields).resolve? "MyId") ∧
      crowded.resolve? "user" = some (.string "first") ∧ crowded.resolve? "user.my_id" = none := by
  obtain ⟨hexact, hparts⟩ := resolve?_exactly crowded
  have hdistinct : (Value.object crowded.fields).DistinctKeys := by
    simp [crowded, Value.DistinctKeys, Value.DistinctKeysFields, Value.DistinctKeysItems]
  have hlead : KeysLead (.object crowded.fields) ["USER", "my_id"] (.string "y") :=
    .through (.tail _ (.head _)) (.through (.tail _ (.head _)) (.here _))
  have hfirst : crowded.resolve? "user" = some (.string "first") := rfl
  have hobject : ∀ fields, crowded.resolve? "user" ≠ some (.object fields) := by
    intro fields h
    cases hfirst.symm.trans h
  exact ⟨hdistinct, hlead, hexact hdistinct _ _ (List.cons_ne_nil _ _) (by decide) hlead,
    ⟨_, rfl, (hparts "USER" "MyId").1 _ rfl⟩, hfirst, (hparts "user" "my_id").2 hobject⟩

end Resolver

end CondDoc
