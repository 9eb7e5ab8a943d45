import CondDoc.Proofs.Resolver.Defaults
import CondDoc.Proofs.Text.Spelling

namespace CondDoc

namespace Text

/-- All characters are of ASCII. -/
def IsAscii (text : String) : Prop := ∀ c ∈ text.toList, c.toNat < 128

instance (text : String) : Decidable (IsAscii text) :=
  decidable_of_iff (text.toList.all (·.toNat < 128) = true) (by simp [IsAscii])

/-- Without capital sigmas, each character has a lower case of its own. -/
theorem lowerAfter_of_not_mem {cs : List Char} (h : 'Σ' ∉ cs) (before : List Char) :
    lowerAfter before cs = cs.flatMap lowerChar := by
  induction cs generalizing before with
  | nil => rfl
  | cons c cs ih =>
    rw [List.mem_cons, not_or] at h
    rw [lowerAfter, if_neg (Ne.symm h.1), ih h.2, List.flatMap_cons]

theorem toList_lower {text : String} (h : 'Σ' ∉ text.toList) :
    (lower text).toList = text.toList.flatMap lowerChar := by
  rw [lower, String.toList_ofList, lowerChars, lowerAfter_of_not_mem h]

/-- No form of a sigma is of ASCII. -/
theorem exists_beyond_of_sigma_mem {cs : List Char} (h : 'Σ' ∈ cs) (before : List Char) :
    ∃ c ∈ lowerAfter before cs, 128 ≤ c.toNat := by
  induction cs generalizing before with
  | nil => cases h
  | cons c cs ih =>
    rw [lowerAfter]
    by_cases hc : c = 'Σ'
    · rw [if_pos hc]
      refine ⟨lowerSigma before cs, List.mem_cons_self, ?_⟩
      unfold lowerSigma
      split
      · decide
      · decide
    · obtain ⟨d, hd, hbeyond⟩ := ih (List.mem_of_ne_of_mem (Ne.symm hc) h) (c :: before)
      exact ⟨d, List.mem_append_right _ hd, hbeyond⟩

theorem sigma_not_mem_of_isAscii_lower {text : String} (h : IsAscii (lower text)) :
    'Σ' ∉ text.toList := by
  intro hmem
  obtain ⟨c, hc, hbeyond⟩ := exists_beyond_of_sigma_mem hmem []
  have hascii := h c (by rwa [lower, String.toList_ofList])
  omega

theorem isAscii_lower {text : String} (h : IsAscii text) : IsAscii (lower text) := by
  have hsigma : 'Σ' ∉ text.toList := fun hmem => absurd (h _ hmem) (by decide)
  intro d hd
  rw [toList_lower hsigma] at hd
  obtain ⟨c, hc, hd⟩ := List.mem_flatMap.1 hd
  rw [lowerChar_ascii (h c hc), List.mem_singleton] at hd
  rw [hd]
  exact @forall_ascii (fun c => c.toLower.toNat < 128) (by decide +kernel) c (h c hc)

/-- No other character is lowered to an underscore. -/
theorem underscore_not_mem_lowerChar {c : Char} (h : c ≠ '_') : '_' ∉ lowerChar c := by
  by_cases hascii : c.toNat < 128
  · rw [lowerChar_ascii hascii, List.mem_singleton]
    exact @forall_ascii (fun c => c ≠ '_' → '_' ≠ c.toLower) (by decide +kernel) c hascii h
  · by_cases hdotted : c = 'İ'
    · rw [hdotted]
      decide
    · obtain ⟨d, hlower, hd⟩ := @lowerChar_beyond c '_' (by decide) (by decide) (by decide)
        (Nat.le_of_not_lt hascii) hdotted
      rw [hlower, List.mem_singleton]
      exact Ne.symm hd

/-- Underscores may be left out before the text is lowered or after. -/
theorem flatMap_lowerChar_filter (cs : List Char) :
    (cs.filter (· != '_')).flatMap lowerChar = (cs.flatMap lowerChar).filter (· != '_') := by
  induction cs with
  | nil => rfl
  | cons c cs ih =>
    rw [List.flatMap_cons, List.filter_append, ← ih]
    by_cases hc : c = '_'
    · subst hc
      rfl
    · have hkept : (lowerChar c).filter (· != '_') = lowerChar c := by
        refine List.filter_eq_self.2 fun d hd => bne_iff_ne.2 ?_
        rintro rfl
        exact underscore_not_mem_lowerChar hc hd
      have hc' : (c != '_') = true := bne_iff_ne.2 hc
      rw [hkept, List.filter_cons, if_pos hc', List.flatMap_cons]

end Text

namespace Resolver

/-- The names are the same without case and underscores. -/
def SameName (name other : String) : Prop := normalized name = normalized other

instance (name other : String) : Decidable (SameName name other) :=
  inferInstanceAs (Decidable (normalized name = normalized other))

theorem toList_normalized {name : String} (h : 'Σ' ∉ name.toList) :
    (normalized name).toList = (Text.lower name).toList.filter (· != '_') := by
  have hkept : 'Σ' ∉ name.toList.filter (· != '_') := fun hmem => h (List.mem_of_mem_filter hmem)
  rw [normalized, Text.toList_lower (by rwa [String.toList_ofList]), String.toList_ofList,
    Text.flatMap_lowerChar_filter, Text.toList_lower h]

theorem isAscii_normalized {name : String} (h : Text.IsAscii name) :
    Text.IsAscii (normalized name) := by
  apply Text.isAscii_lower
  intro c hc
  rw [String.toList_ofList] at hc
  exact h c (List.mem_of_mem_filter hc)

theorem isAscii_lower_of_normalized {name : String} (h : Text.IsAscii (normalized name)) :
    Text.IsAscii (Text.lower name) := by
  have hkept := Text.sigma_not_mem_of_isAscii_lower h
  rw [String.toList_ofList] at hkept
  have hsigma : 'Σ' ∉ name.toList := fun hmem => hkept (List.mem_filter.2 ⟨hmem, rfl⟩)
  intro c hc
  by_cases hunderscore : c = '_'
  · rw [hunderscore]
    decide
  · have hmem : c ∈ (normalized name).toList := by
      rw [toList_normalized hsigma]
      exact List.mem_filter.2 ⟨hc, bne_iff_ne.2 hunderscore⟩
    exact h c hmem

/-- A name that differs from a name of ASCII by case only is the same name. With a capital sigma this
would not be so, as an underscore can decide which of its two lower cases it has. -/
theorem sameName_of_lower_eq {key name : String} (hkey : Text.IsAscii (normalized key))
    (h : Text.lower key = Text.lower name) : SameName key name := by
  have hlower := isAscii_lower_of_normalized hkey
  have hkeySigma := Text.sigma_not_mem_of_isAscii_lower hlower
  rw [h] at hlower
  have hnameSigma := Text.sigma_not_mem_of_isAscii_lower hlower
  have hlist : (normalized key).toList = (normalized name).toList := by
    rw [toList_normalized hkeySigma, toList_normalized hnameSigma, h]
  exact String.toList_inj.1 hlist

theorem SameName.symm {name other : String} (h : SameName name other) : SameName other name :=
  Eq.symm h

theorem SameName.trans {name other third : String} (h : SameName name other)
    (h' : SameName other third) : SameName name third := Eq.trans h h'

/-- The keys of every object that a path can lead to are good, and no two of them are the same
name. -/
inductive KeysApart (good : String → Prop) : Value → Prop where
  | object {fields : List (String × Value)} :
      (∀ field ∈ fields, good field.1) → (fields.map fun field => normalized field.1).Nodup →
      (∀ field ∈ fields, KeysApart good field.2) → KeysApart good (.object fields)
  | other {value : Value} : value.kind ≠ .object → KeysApart good value

theorem KeysApart.of_object {good : String → Prop} {fields : List (String × Value)}
    (h : KeysApart good (.object fields)) :
    (∀ field ∈ fields, good field.1) ∧ (fields.map fun field => normalized field.1).Nodup ∧
      ∀ field ∈ fields, KeysApart good field.2 := by
  cases h with
  | object hgood hapart hvalues => exact ⟨hgood, hapart, hvalues⟩
  | other hkind => exact absurd rfl hkind

theorem KeysApart.imp {good weaker : String → Prop} {value : Value} (h : KeysApart good value)
    (himp : ∀ key, good key → weaker key) : KeysApart weaker value := by
  induction h with
  | object hgood hapart _ ih => exact .object (fun field hmem => himp _ (hgood field hmem)) hapart ih
  | other hkind => exact .other hkind

section Fields

variable {fields : List (String × Value)} {name : String}

/-- Of the three ways to look for a name only the last one matters, and there is at most one field
to be found. -/
theorem field?_eq_some_iff (hascii : ∀ field ∈ fields, Text.IsAscii (normalized field.1))
    (hapart : (fields.map fun field => normalized field.1).Nodup) {found : Value} :
    field? fields name = some found ↔
      ∃ field ∈ fields, SameName field.1 name ∧ field.2 = found := by
  have hfound {field : String × Value} (hmem : field ∈ fields) (hname : SameName field.1 name) :
      Ordered.find? (sameNormalized name) fields = some field.2 :=
    Ordered.find?_of_mem (List.pairwise_map.2 (List.pairwise_map.1 hapart)) hmem hname
  -- What an earlier search finds is also found by the last one, as no other field has the name.
  have hcollapse : field? fields name = Ordered.find? (sameNormalized name) fields := by
    rw [field?_eq]
    cases hexact : Ordered.find? (· == name) fields with
    | some value =>
      obtain ⟨field, hmem, hkey, rfl⟩ := Ordered.exists_of_find?_eq_some hexact
      exact (hfound hmem (congrArg normalized (eq_of_beq hkey))).symm
    | none =>
      rw [Option.none_or]
      cases hcase : Ordered.find? (sameByCase name) fields with
      | some value =>
        obtain ⟨field, hmem, hkey, rfl⟩ := Ordered.exists_of_find?_eq_some hcase
        have hsame := sameName_of_lower_eq (hascii field hmem) (sameByCase_iff.1 hkey)
        exact (hfound hmem hsame).symm
      | none => exact Option.none_or
  rw [hcollapse]
  constructor
  · intro h
    obtain ⟨field, hmem, hkey, hvalue⟩ := Ordered.exists_of_find?_eq_some h
    exact ⟨field, hmem, eq_of_beq hkey, hvalue⟩
  · rintro ⟨field, hmem, hname, rfl⟩
    exact hfound hmem hname

end Fields

/-- Names lead from a value through one entry for each of them, whose key is the same name. -/
inductive Reaches : Value → List String → Value → Prop where
  | here (value : Value) : Reaches value [] value
  | through {fields : List (String × Value)} {field : String × Value} {name : String}
      {names : List String} {value : Value} :
      field ∈ fields → SameName field.1 name → Reaches field.2 names value →
        Reaches (.object fields) (name :: names) value

/-- The value is no object, or has no entry whose key is the same name. -/
inductive LeadsNowhere (name : String) : Value → Prop where
  | noObject {value : Value} : value.kind ≠ .object → LeadsNowhere name value
  | noEntry {fields : List (String × Value)} :
      (∀ field ∈ fields, ¬ SameName field.1 name) → LeadsNowhere name (.object fields)

theorem follow?_of_kind_ne {value : Value} (h : value.kind ≠ .object) (name : String)
    (names : List String) : follow? value (name :: names) = none := by
  cases value with
  | object fields => exact absurd rfl h
  | _ => rfl

theorem follow?_eq_some_iff {value found : Value} {names : List String}
    (hkeys : KeysApart (fun key => Text.IsAscii (normalized key)) value)
    (hnames : ∀ name ∈ names, name ≠ "") :
    follow? value names = some found ↔ Reaches value names found := by
  induction names generalizing value with
  | nil =>
    rw [follow?, Option.some.injEq]
    constructor
    · rintro rfl
      exact .here value
    · intro h
      cases h
      rfl
  | cons name names ih =>
    obtain ⟨hname, hnames⟩ := List.forall_mem_cons.1 hnames
    cases hkeys with
    | object hascii hapart hvalues =>
      rw [follow?_object hname, Option.bind_eq_some_iff]
      constructor
      · rintro ⟨next, hnext, h⟩
        obtain ⟨field, hmem, hsame, rfl⟩ := (field?_eq_some_iff hascii hapart).1 hnext
        exact .through hmem hsame ((ih (hvalues field hmem) hnames).1 h)
      · intro h
        cases h with
        | @through _ field _ _ _ hmem hsame h =>
          refine ⟨field.2, (field?_eq_some_iff hascii hapart).2 ⟨field, hmem, hsame, rfl⟩, ?_⟩
          exact (ih (hvalues field hmem) hnames).2 h
    | other hkind =>
      rw [follow?_of_kind_ne hkind]
      refine iff_of_false (Option.some_ne_none found).symm fun h => ?_
      cases h
      exact hkind rfl

theorem exists_of_follow?_eq_none {value : Value} {names : List String}
    (hkeys : KeysApart (fun key => Text.IsAscii (normalized key)) value)
    (hnames : ∀ name ∈ names, name ≠ "") (h : follow? value names = none) :
    ∃ before name after level, names = before ++ name :: after ∧ Reaches value before level ∧
      LeadsNowhere name level := by
  induction names generalizing value with
  | nil => cases h
  | cons name names ih =>
    obtain ⟨hname, hnames⟩ := List.forall_mem_cons.1 hnames
    cases hkeys with
    | @object fields hascii hapart hvalues =>
      rw [follow?_object hname] at h
      cases hfield : field? fields name with
      | none =>
        refine ⟨[], name, names, _, rfl, .here _, .noEntry fun field hmem hsame => ?_⟩
        have hfound := (field?_eq_some_iff hascii hapart).2 ⟨field, hmem, hsame, rfl⟩
        rw [hfield] at hfound
        cases hfound
      | some next =>
        rw [hfield] at h
        obtain ⟨field, hmem, hsame, rfl⟩ := (field?_eq_some_iff hascii hapart).1 hfield
        obtain ⟨before, last, after, level, rfl, hreach, hnowhere⟩ :=
          ih (hvalues field hmem) hnames h
        exact ⟨name :: before, last, after, level, rfl, .through hmem hsame hreach, hnowhere⟩
    | other hkind => exact ⟨[], name, names, value, rfl, .here value, .noObject hkind⟩

theorem follow?_of_leadsNowhere {value level : Value} {before after : List String} {name : String}
    (hkeys : KeysApart (fun key => Text.IsAscii (normalized key)) value)
    (hnames : ∀ other ∈ before ++ name :: after, other ≠ "") (hreach : Reaches value before level)
    (hnowhere : LeadsNowhere name level) : follow? value (before ++ name :: after) = none := by
  induction hreach with
  | here value =>
    cases hnowhere with
    | noObject hkind => exact follow?_of_kind_ne hkind name after
    | @noEntry fields hnone =>
      obtain ⟨hascii, hapart, -⟩ := hkeys.of_object
      rw [List.nil_append, follow?_object (hnames name List.mem_cons_self)]
      cases hfield : field? fields name with
      | none => rfl
      | some found =>
        obtain ⟨field, hmem, hsame, -⟩ := (field?_eq_some_iff hascii hapart).1 hfield
        exact absurd hsame (hnone field hmem)
  | @through fields field first names value hmem hsame _ ih =>
    rw [List.cons_append] at hnames ⊢
    obtain ⟨hfirst, hnames⟩ := List.forall_mem_cons.1 hnames
    obtain ⟨hascii, hapart, hvalues⟩ := hkeys.of_object
    have hfield := (field?_eq_some_iff hascii hapart).2 ⟨field, hmem, hsame, rfl⟩
    rw [follow?_object hfirst, hfield]
    exact ih (hvalues field hmem) hnames hnowhere

/-- Names lead where the same names lead. -/
theorem Reaches.respelled {value found : Value} {names names' : List String}
    (hnames : List.Forall₂ SameName names names') (h : Reaches value names found) :
    Reaches value names' found := by
  induction h generalizing names' with
  | here value =>
    cases hnames
    exact .here value
  | through hmem hsame _ ih =>
    cases hnames with
    | cons hname hnames => exact .through hmem (hsame.trans hname) (ih hnames)

section Replaced

variable {before after : List (String × Value)} {field field' : String × Value}

/-- An entry with the same name may take the place of another one. -/
theorem KeysApart.replaced {good : String → Prop}
    (h : KeysApart good (.object (before ++ field :: after))) (hname : SameName field.1 field'.1)
    (hgood : good field.1 → good field'.1)
    (hvalue : KeysApart good field.2 → KeysApart good field'.2) :
    KeysApart good (.object (before ++ field' :: after)) := by
  obtain ⟨hall, hapart, hvalues⟩ := h.of_object
  simp only [List.forall_mem_append, List.forall_mem_cons] at hall hvalues
  refine .object ?_ ?_ ?_
  · simp only [List.forall_mem_append, List.forall_mem_cons]
    exact ⟨hall.1, hgood hall.2.1, hall.2.2⟩
  · have hkey : normalized field.1 = normalized field'.1 := hname
    rw [List.map_append, List.map_cons, hkey] at hapart
    rwa [List.map_append, List.map_cons]
  · simp only [List.forall_mem_append, List.forall_mem_cons]
    exact ⟨hvalues.1, hvalue hvalues.2.1, hvalues.2.2⟩

theorem Reaches.replaced {name : String} {names : List String} {found : Value}
    (h : Reaches (.object (before ++ field :: after)) (name :: names) found)
    (hname : SameName field.1 field'.1)
    (hvalue : Reaches field.2 names found → Reaches field'.2 names found) :
    Reaches (.object (before ++ field' :: after)) (name :: names) found := by
  cases h with
  | @through _ other _ _ _ hmem hsame hbehind =>
    rw [List.mem_append, List.mem_cons] at hmem
    rcases hmem with hmem | rfl | hmem
    · exact .through (List.mem_append_left _ hmem) hsame hbehind
    · have hmem' : field' ∈ before ++ field' :: after := by simp
      exact .through hmem' (hname.symm.trans hsame) (hvalue hbehind)
    · have hmem' : other ∈ before ++ field' :: after := by simp [hmem]
      exact .through hmem' hsame hbehind

end Replaced

/-- Values that differ in objects which the names lead through: their entries may stand in another
order, and their keys may be spelled in another way. -/
inductive Rearranged : List String → Value → Value → Prop where
  | same (names : List String) (value : Value) : Rearranged names value value
  | permuted {name : String} {names : List String} {fields fields' : List (String × Value)} :
      fields.Perm fields' → Rearranged (name :: names) (.object fields) (.object fields')
  | respelled {name key key' : String} {names : List String} {value : Value}
      {before after : List (String × Value)} :
      SameName key key' → Rearranged (name :: names) (.object (before ++ (key, value) :: after))
        (.object (before ++ (key', value) :: after))
  | through {name key : String} {names : List String} {value value' : Value}
      {before after : List (String × Value)} :
      SameName key name → Rearranged names value value' →
        Rearranged (name :: names) (.object (before ++ (key, value) :: after))
          (.object (before ++ (key, value') :: after))
  | trans {names : List String} {value value' value'' : Value} :
      Rearranged names value value' → Rearranged names value' value'' →
        Rearranged names value value''

namespace Rearranged

variable {names : List String} {value value' found : Value}

theorem symm (h : Rearranged names value value') : Rearranged names value' value := by
  induction h with
  | same names value => exact .same names value
  | permuted hperm => exact .permuted hperm.symm
  | respelled hkey => exact .respelled hkey.symm
  | through hname _ ih => exact .through hname ih
  | trans _ _ ih ih' => exact .trans ih' ih

/-- The keys remain apart, and good if that does not depend on how they are spelled. -/
theorem keysApart {good : String → Prop}
    (hgood : ∀ key key', SameName key key' → good key → good key')
    (h : Rearranged names value value') (hkeys : KeysApart good value) :
    KeysApart good value' := by
  induction h with
  | same => exact hkeys
  | permuted hperm =>
    obtain ⟨hall, hapart, hvalues⟩ := hkeys.of_object
    refine .object ?_ ((hperm.map _).nodup_iff.1 hapart) ?_
    · exact fun field hmem => hall field (hperm.mem_iff.2 hmem)
    · exact fun field hmem => hvalues field (hperm.mem_iff.2 hmem)
  | respelled hkey => exact hkeys.replaced hkey (hgood _ _ hkey) id
  | through _ _ ih => exact hkeys.replaced rfl id ih
  | trans _ _ ih ih' => exact ih' (ih hkeys)

/-- The names lead to the same value. -/
theorem reaches (h : Rearranged names value value') (hreach : Reaches value names found) :
    Reaches value' names found := by
  induction h with
  | same => exact hreach
  | permuted hperm =>
    cases hreach with
    | through hmem hsame hbehind => exact .through (hperm.mem_iff.1 hmem) hsame hbehind
  | respelled hkey => exact hreach.replaced hkey id
  | through _ _ ih => exact hreach.replaced rfl ih
  | trans _ _ ih ih' => exact ih' (ih hreach)

end Rearranged

/-- A path with no empty name in it is followed name by name. -/
theorem resolve?_eq_follow? {path : String} (hnames : ∀ name ∈ Text.splitAt '.' path, name ≠ "")
    (resolver : Resolver) :
    resolver.resolve? path = follow? (.object resolver.fields) (Text.splitAt '.' path) := by
  have hpath : path ≠ "" := by
    rintro rfl
    exact hnames "" (by decide) rfl
  exact if_neg hpath

/-- Keys of ASCII that are apart without case and underscores: a path leads through the entries with
the same names, or to nothing if at some level there is no such entry or no object; and it leads to
the same value however its names and the keys on the way are spelled and the entries on the way are
ordered. -/
theorem resolve?_respelled {resolver resolver' : Resolver} {path path' : String}
    (hkeys : KeysApart Text.IsAscii (.object resolver.fields))
    (hnames : ∀ name ∈ Text.splitAt '.' path, name ≠ "")
    (hnames' : ∀ name ∈ Text.splitAt '.' path', name ≠ "")
    (hpaths : List.Forall₂ SameName (Text.splitAt '.' path) (Text.splitAt '.' path'))
    (hfields : Rearranged (Text.splitAt '.' path) (.object resolver.fields)
      (.object resolver'.fields)) :
    resolver'.resolve? path' = resolver.resolve? path ∧
    (∀ value, resolver.resolve? path = some value ↔
      Reaches (.object resolver.fields) (Text.splitAt '.' path) value) ∧
    (resolver.resolve? path = none ↔
      ∃ before name after level, Text.splitAt '.' path = before ++ name :: after ∧
        Reaches (.object resolver.fields) before level ∧ LeadsNowhere name level) := by
  have hkeys : KeysApart (fun key => Text.IsAscii (normalized key)) (.object resolver.fields) :=
    hkeys.imp fun key => isAscii_normalized
  have hkeys' : KeysApart (fun key => Text.IsAscii (normalized key)) (.object resolver'.fields) :=
    hfields.keysApart (fun key key' hsame hascii => hsame ▸ hascii) hkeys
  have hpaths' : List.Forall₂ SameName (Text.splitAt '.' path') (Text.splitAt '.' path) :=
    (hpaths.imp fun _ _ hsame => hsame.symm).flip
  rw [resolve?_eq_follow? hnames, resolve?_eq_follow? hnames']
  refine ⟨?_, fun value => follow?_eq_some_iff hkeys hnames,
    exists_of_follow?_eq_none hkeys hnames, ?_⟩
  · refine Option.ext fun value => ?_
    rw [follow?_eq_some_iff hkeys hnames, follow?_eq_some_iff hkeys' hnames']
    constructor
    · intro h
      exact hfields.symm.reaches (h.respelled hpaths')
    · intro h
      exact (hfields.reaches h).respelled hpaths
  · rintro ⟨before, name, after, level, hsplit, hreach, hnowhere⟩
    rw [hsplit] at hnames ⊢
    exact follow?_of_leadsNowhere hkeys hnames hreach hnowhere

def profile : Resolver :=
  ⟨[("tag", .string "t"), ("User", .object [("My_Id", .string "x"), ("on", .boolean true)])]⟩

/-- The same as `profile`, with the entries in another order and some keys in another spelling. -/
def profileRespelled : Resolver :=
  ⟨[("us_er", .object [("on", .boolean true), ("myid", .string "x")]), ("tag", .string "t")]⟩

theorem resolve?_user_myId :
    profile.resolve? "user.my_id" = some (.string "x") ∧
      profileRespelled.resolve? "USER.MyId" = some (.string "x") := by
  have hascii : ∀ key ∈ ["tag", "User", "My_Id", "on"], Text.IsAscii key := by decide +kernel
  have hkeys : KeysApart Text.IsAscii (.object profile.fields) := by
    refine .object (by simp [profile, hascii]) (by decide +kernel) ?_
    refine List.forall_mem_cons.2 ⟨.other (by decide), List.forall_mem_singleton.2 ?_⟩
    refine .object (by simp [hascii]) (by decide +kernel) ?_
    exact List.forall_mem_cons.2
      ⟨.other (by decide), List.forall_mem_singleton.2 (.other (by decide))⟩
  have huser : SameName "User" "user" := by decide +kernel
  have huser' : SameName "user" "us_er" := by decide +kernel
  have huser'' : SameName "user" "USER" := by decide +kernel
  have hid : SameName "My_Id" "my_id" := by decide +kernel
  have hid' : SameName "my_id" "myid" := by decide +kernel
  have hid'' : SameName "my_id" "MyId" := by decide +kernel
  have hinner : Rearranged ["my_id"] (.object [("My_Id", .string "x"), ("on", .boolean true)])
      (.object [("on", .boolean true), ("myid", .string "x")]) :=
    .trans (.permuted (.swap ..)) (@Rearranged.respelled _ _ _ _ _ [_] [] (hid.trans hid'))
  have hfields : Rearranged ["user", "my_id"] (.object profile.fields)
      (.object profileRespelled.fields) :=
    .trans (.permuted (.swap ..)) <|
      .trans (@Rearranged.respelled _ _ _ _ _ [] _ (huser.trans huser'))
        (@Rearranged.through _ _ _ _ _ [] _ huser'.symm hinner)
  have hreach : Reaches (.object profile.fields) ["user", "my_id"] (.string "x") :=
    .through (.tail _ (.head _)) huser (.through (.head _) hid (.here _))
  have hrespelled := @resolve?_respelled profile profileRespelled "user.my_id" "USER.MyId" hkeys
    (by decide) (by decide) (.cons huser'' (.cons hid'' .nil)) hfields
  have hfound := (hrespelled.2.1 _).2 hreach
  exact ⟨hfound, hrespelled.1.trans hfound⟩

end Resolver

end CondDoc
