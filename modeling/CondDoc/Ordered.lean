namespace CondDoc.Ordered

variable {κ α : Type}

/-- Puts a value at a key. An entry with the same key keeps its place and its spelling of the key;
a new entry goes to the end. -/
def put (same : κ → κ → Bool) (key : κ) (value : α) : List (κ × α) → List (κ × α)
  | [] => [(key, value)]
  | entry :: others =>
    if same entry.1 key then (entry.1, value) :: others
    else entry :: put same key value others

/-- The mapping that a list of pairs makes: a key stands where it came first, and has the value that
came last. -/
def ofPairs (same : κ → κ → Bool) (pairs : List (κ × α)) : List (κ × α) :=
  pairs.foldl (fun entries pair => put same pair.1 pair.2 entries) []

/-- The value of the first entry whose key passes a test. -/
def find? (test : κ → Bool) (entries : List (κ × α)) : Option α :=
  (entries.find? fun entry => test entry.1).map (·.2)

theorem mem_keys_put [BEq κ] [LawfulBEq κ] (key : κ) (value : α) (entries : List (κ × α)) (k : κ) :
    k ∈ (put (· == ·) key value entries).map (·.1) ↔ k = key ∨ k ∈ entries.map (·.1) := by
  induction entries with
  | nil => simp [put]
  | cons entry others ih =>
    unfold put
    split
    · next h => have := eq_of_beq h; subst this; simp
    · simp only [List.map_cons, List.mem_cons, ih]; exact or_left_comm

/-- Putting keeps the keys distinct. -/
theorem nodup_put [BEq κ] [LawfulBEq κ] (key : κ) (value : α) {entries : List (κ × α)}
    (h : (entries.map (·.1)).Nodup) : ((put (· == ·) key value entries).map (·.1)).Nodup := by
  induction entries with
  | nil => simp [put]
  | cons entry others ih =>
    simp only [List.map_cons, List.nodup_cons] at h
    unfold put
    split
    · simpa using h
    · next hne =>
      simp only [List.map_cons, List.nodup_cons]
      refine ⟨fun hmem => ?_, ih h.2⟩
      rcases (mem_keys_put key value others entry.1).1 hmem with heq | hmem
      · exact hne (by simp [heq])
      · exact h.1 hmem

/-- A new key goes to the end. -/
theorem put_of_not_mem [BEq κ] [LawfulBEq κ] {key : κ} {entries : List (κ × α)} (value : α)
    (h : key ∉ entries.map (·.1)) : put (· == ·) key value entries = entries ++ [(key, value)] := by
  induction entries with
  | nil => rfl
  | cons entry others ih =>
    simp only [List.map_cons, List.mem_cons, not_or] at h
    rw [put, if_neg (fun heq => h.1 (eq_of_beq heq).symm), ih h.2]
    rfl

/-- Pairs with new keys, each different from the others, are added as they are. -/
theorem foldl_put_of_nodup [BEq κ] [LawfulBEq κ] {entries pairs : List (κ × α)}
    (hnew : ∀ pair ∈ pairs, pair.1 ∉ entries.map (·.1)) (hnodup : (pairs.map (·.1)).Nodup) :
    pairs.foldl (fun entries pair => put (· == ·) pair.1 pair.2 entries) entries =
      entries ++ pairs := by
  induction pairs generalizing entries with
  | nil => exact (List.append_nil entries).symm
  | cons pair pairs ih =>
    rw [List.map_cons, List.nodup_cons] at hnodup
    rw [List.foldl_cons, put_of_not_mem pair.2 (hnew pair List.mem_cons_self), ih, List.append_assoc]
    · rfl
    · intro later hlater hmem
      rw [List.map_append, List.mem_append] at hmem
      rcases hmem with hmem | hmem
      · exact hnew later (List.mem_cons_of_mem _ hlater) hmem
      · have heq : later.1 = pair.1 := List.mem_singleton.1 hmem
        exact hnodup.1 (heq ▸ List.mem_map_of_mem hlater)
    · exact hnodup.2

/-- Pairs with distinct keys are a mapping already. -/
theorem ofPairs_of_nodup [BEq κ] [LawfulBEq κ] {pairs : List (κ × α)}
    (h : (pairs.map (·.1)).Nodup) : ofPairs (· == ·) pairs = pairs :=
  foldl_put_of_nodup (fun _ _ => List.not_mem_nil) h

theorem mem_keys_foldl_put [BEq κ] [LawfulBEq κ] (entries pairs : List (κ × α)) (k : κ) :
    k ∈ (pairs.foldl (fun entries pair => put (· == ·) pair.1 pair.2 entries) entries).map (·.1) ↔
      k ∈ entries.map (·.1) ∨ k ∈ pairs.map (·.1) := by
  induction pairs generalizing entries with
  | nil => simp
  | cons pair pairs ih =>
    rw [List.foldl_cons, ih, mem_keys_put, List.map_cons, List.mem_cons, or_assoc, or_left_comm]

theorem mem_keys_ofPairs [BEq κ] [LawfulBEq κ] (pairs : List (κ × α)) (k : κ) :
    k ∈ (ofPairs (· == ·) pairs).map (·.1) ↔ k ∈ pairs.map (·.1) := by
  rw [ofPairs, mem_keys_foldl_put]
  simp

theorem nodup_foldl_put [BEq κ] [LawfulBEq κ] {entries : List (κ × α)} (pairs : List (κ × α))
    (h : (entries.map (·.1)).Nodup) :
    ((pairs.foldl (fun entries pair => put (· == ·) pair.1 pair.2 entries) entries).map
      (·.1)).Nodup := by
  induction pairs generalizing entries with
  | nil => exact h
  | cons pair pairs ih => exact ih (nodup_put pair.1 pair.2 h)

/-- The keys of a mapping are distinct. -/
theorem nodup_ofPairs [BEq κ] [LawfulBEq κ] (pairs : List (κ × α)) :
    ((ofPairs (· == ·) pairs).map (·.1)).Nodup :=
  nodup_foldl_put pairs List.nodup_nil

theorem forall_values_put {p : α → Prop} {same : κ → κ → Bool} {key : κ} {value : α}
    {entries : List (κ × α)} (hvalue : p value) (h : ∀ entry ∈ entries, p entry.2) :
    ∀ entry ∈ put same key value entries, p entry.2 := by
  induction entries with
  | nil =>
    intro entry hmem
    rw [put, List.mem_singleton] at hmem
    rwa [hmem]
  | cons first others ih =>
    have hothers : ∀ entry ∈ others, p entry.2 := fun entry hmem =>
      h entry (List.mem_cons_of_mem _ hmem)
    intro entry hmem
    unfold put at hmem
    split at hmem
    · rcases List.mem_cons.1 hmem with rfl | hmem
      · exact hvalue
      · exact hothers entry hmem
    · rcases List.mem_cons.1 hmem with rfl | hmem
      · exact h entry List.mem_cons_self
      · exact ih hothers entry hmem

theorem forall_values_foldl_put {p : α → Prop} {same : κ → κ → Bool}
    {entries pairs : List (κ × α)} (hentries : ∀ entry ∈ entries, p entry.2)
    (hpairs : ∀ pair ∈ pairs, p pair.2) :
    ∀ entry ∈ pairs.foldl (fun entries pair => put same pair.1 pair.2 entries) entries,
      p entry.2 := by
  induction pairs generalizing entries with
  | nil => exact hentries
  | cons pair pairs ih =>
    obtain ⟨hpair, hpairs⟩ := List.forall_mem_cons.1 hpairs
    exact ih (forall_values_put hpair hentries) hpairs

/-- A mapping has no values but those of the pairs that it is made of. -/
theorem forall_values_ofPairs {p : α → Prop} {same : κ → κ → Bool} {pairs : List (κ × α)}
    (h : ∀ pair ∈ pairs, p pair.2) : ∀ entry ∈ ofPairs same pairs, p entry.2 :=
  forall_values_foldl_put (List.forall_mem_nil _) h

theorem ofPairs_append [BEq κ] [LawfulBEq κ] {first second : List (κ × α)}
    (hnew : ∀ pair ∈ second, pair.1 ∉ (ofPairs (· == ·) first).map (·.1))
    (hnodup : (second.map (·.1)).Nodup) :
    ofPairs (· == ·) (first ++ second) = ofPairs (· == ·) first ++ second := by
  rw [ofPairs, List.foldl_append]
  exact foldl_put_of_nodup hnew hnodup

theorem find?_cons (test : κ → Bool) (entry : κ × α) (others : List (κ × α)) :
    find? test (entry :: others) = if test entry.1 then some entry.2 else find? test others := by
  rw [find?, List.find?_cons]
  split
  · next h => exact (if_pos h).symm
  · next h => exact (if_neg (by rw [h]; exact Bool.false_ne_true)).symm

theorem exists_of_find?_eq_some {test : κ → Bool} {entries : List (κ × α)} {value : α}
    (h : find? test entries = some value) :
    ∃ entry ∈ entries, test entry.1 = true ∧ entry.2 = value := by
  obtain ⟨entry, hfind, hvalue⟩ := Option.map_eq_some_iff.1 h
  have htest := List.find?_some hfind
  exact ⟨entry, List.mem_of_find?_eq_some hfind, htest, hvalue⟩

/-- When no two keys have the same image, the entry whose key has a given one is found. -/
theorem find?_of_mem {β : Type} [BEq β] [LawfulBEq β] {f : κ → β} {entries : List (κ × α)}
    {entry : κ × α} {key : κ}
    (hdistinct : (entries.map (·.1)).Pairwise fun first second => f first ≠ f second)
    (hmem : entry ∈ entries) (hkey : f entry.1 = f key) :
    find? (fun k => f k == f key) entries = some entry.2 := by
  induction entries with
  | nil => cases hmem
  | cons first others ih =>
    obtain ⟨hfirst, hdistinct⟩ := List.pairwise_cons.1 hdistinct
    rw [find?_cons]
    rcases List.mem_cons.1 hmem with rfl | hmem
    · exact if_pos (beq_iff_eq.2 hkey)
    · have hother : f first.1 ≠ f key := hkey ▸ hfirst entry.1 (List.mem_map_of_mem hmem)
      rw [if_neg fun heq => hother (eq_of_beq heq)]
      exact ih hdistinct hmem

theorem find?_append (test : κ → Bool) (first second : List (κ × α)) :
    find? test (first ++ second) = (find? test first).or (find? test second) := by
  rw [find?, List.find?_append, Option.map_or]
  rfl

theorem find?_eq_none_iff {test : κ → Bool} {entries : List (κ × α)} :
    find? test entries = none ↔ ∀ entry ∈ entries, test entry.1 = false := by
  simp [find?]

end CondDoc.Ordered
