import CondDoc.Proofs.Resolver.Defaults

namespace CondDoc

/-- Has an entry the name, up to case? -/
def isTaken (entries : List (String × Datum)) (name : String) : Bool :=
  entries.any fun entry => sameByCase name entry.1

/-- The defaults whose names, up to case, neither an argument has nor an earlier default. -/
def firstDefaults (args defaults : List (String × Datum)) : List (String × Datum) :=
  (defaults.zipIdx.filter fun entry => !isTaken (args ++ defaults.take entry.2) entry.1.1).map (·.1)

section Names

variable {args : List (String × Datum)} {entry : String × Datum} {name : String}

theorem isTaken_append (first second : List (String × Datum)) (name : String) :
    isTaken (first ++ second) name = (isTaken first name || isTaken second name) := List.any_append

theorem isTaken_of_sameByCase (h : sameByCase name entry.1 = true) :
    isTaken args entry.1 = isTaken args name := by
  unfold isTaken sameByCase
  rw [sameByCase_iff.1 h]

theorem isTaken_self (entry : String × Datum) (others : List (String × Datum)) :
    isTaken (entry :: others) entry.1 = true :=
  List.any_eq_true.2 ⟨entry, List.mem_cons_self, sameByCase_iff.2 rfl⟩

/-- An entry whose name is taken takes no further name. -/
theorem isTaken_append_cons (h : isTaken args entry.1 = true) (others : List (String × Datum))
    (name : String) : isTaken (args ++ entry :: others) name = isTaken (args ++ others) name := by
  rw [isTaken_append, isTaken_append]
  cases hname : sameByCase name entry.1 with
  | true => rw [← isTaken_of_sameByCase hname, h, Bool.true_or, Bool.true_or]
  | false =>
    have hothers : isTaken (entry :: others) name = isTaken others name := by
      rw [isTaken, List.any_cons, hname, Bool.false_or]
      rfl
    rw [hothers]

end Names

section Added

variable {args args' : List (String × Datum)}

theorem addedDefaults_cons (args : List (String × Datum)) (entry : String × Datum)
    (others : List (String × Datum)) :
    addedDefaults args (entry :: others) =
      if isTaken args entry.1 then addedDefaults args others
      else entry :: addedDefaults (args ++ [entry]) others := rfl

/-- Only the names of the arguments matter. -/
theorem addedDefaults_congr (h : ∀ name, isTaken args name = isTaken args' name)
    (defaults : List (String × Datum)) :
    addedDefaults args defaults = addedDefaults args' defaults := by
  induction defaults generalizing args args' with
  | nil => rfl
  | cons entry others ih =>
    have hentry : ∀ name, isTaken (args ++ [entry]) name = isTaken (args' ++ [entry]) name := by
      intro name
      rw [isTaken_append, isTaken_append, h]
    rw [addedDefaults_cons, addedDefaults_cons, h, ih h, ih hentry]

/-- Whether it is added or not, the name of a default is taken for those behind it. -/
theorem addedDefaults_cons_eq_append (args : List (String × Datum)) (entry : String × Datum)
    (others : List (String × Datum)) :
    addedDefaults args (entry :: others) =
      (if isTaken args entry.1 then [] else [entry]) ++ addedDefaults (args ++ [entry]) others := by
  rw [addedDefaults_cons]
  split
  · next htaken =>
    refine addedDefaults_congr (fun name => ?_) others
    rw [isTaken_append_cons htaken, List.append_nil]
  · rfl

theorem addedDefaults_append (args first second : List (String × Datum)) :
    addedDefaults args (first ++ second) =
      addedDefaults args first ++ addedDefaults (args ++ first) second := by
  induction first generalizing args with
  | nil => rw [List.append_nil]; rfl
  | cons entry first ih =>
    rw [List.cons_append, addedDefaults_cons_eq_append, addedDefaults_cons_eq_append, ih,
      List.append_assoc, List.append_assoc]
    rfl

/-- The names that are taken when defaults have been added are those of arguments and defaults. -/
theorem isTaken_append_addedDefaults (args defaults : List (String × Datum)) (name : String) :
    isTaken (args ++ addedDefaults args defaults) name = isTaken (args ++ defaults) name := by
  induction defaults generalizing args with
  | nil => rfl
  | cons entry others ih =>
    rw [addedDefaults_cons]
    split
    · next htaken => rw [ih, isTaken_append_cons htaken]
    · rw [List.append_cons, ih, ← List.append_cons]

theorem addedDefaults_eq_nil {defaults : List (String × Datum)}
    (h : ∀ name, isTaken defaults name = true → isTaken args name = true) :
    addedDefaults args defaults = [] := by
  induction defaults with
  | nil => rfl
  | cons entry others ih =>
    rw [addedDefaults_cons, if_pos (h _ (isTaken_self entry others))]
    apply ih
    intro name hname
    exact h name (List.any_eq_true.2 ((List.any_eq_true.1 hname).imp fun _ hother =>
      ⟨List.mem_cons_of_mem _ hother.1, hother.2⟩))

/-- What other arguments leave out of the defaults would be left out anyway, if their names are
taken here too. -/
theorem addedDefaults_addedDefaults
    (h : ∀ name, isTaken args' name = true → isTaken args name = true)
    (defaults : List (String × Datum)) :
    addedDefaults args (addedDefaults args' defaults) = addedDefaults args defaults := by
  induction defaults generalizing args args' with
  | nil => rfl
  | cons entry others ih =>
    rw [addedDefaults_cons args']
    split
    · next htaken => rw [ih h, addedDefaults_cons, if_pos (h _ htaken)]
    · have hentry : ∀ name, isTaken (args' ++ [entry]) name = true →
          isTaken (args ++ [entry]) name = true := by
        intro name hname
        rw [isTaken_append, Bool.or_eq_true] at hname ⊢
        exact hname.imp_left (h name)
      rw [addedDefaults_cons_eq_append, addedDefaults_cons_eq_append, ih hentry]

/-- The loop over the defaults, at any point of it, goes on as the place of each default tells. -/
theorem addedDefaults_eq_filter (args done rest : List (String × Datum)) :
    addedDefaults (args ++ done) rest =
      ((rest.zipIdx done.length).filter fun entry =>
        !isTaken (args ++ (done ++ rest).take entry.2) entry.1.1).map (·.1) := by
  induction rest generalizing done with
  | nil => rfl
  | cons entry rest ih =>
    have hothers := ih (done ++ [entry])
    rw [List.length_append, List.length_singleton, ← List.append_assoc, ← List.append_cons]
      at hothers
    rw [addedDefaults_cons_eq_append, hothers, List.zipIdx_cons, List.filter_cons]
    dsimp only
    rw [List.take_left' rfl]
    cases isTaken (args ++ done) entry.1 <;> rfl

theorem addedDefaults_eq_firstDefaults (args defaults : List (String × Datum)) :
    addedDefaults args defaults = firstDefaults args defaults := by
  have h := addedDefaults_eq_filter args [] defaults
  rwa [List.append_nil] at h

end Added

/-- The arguments come first, as they are, and behind them the defaults whose names are new, in
their order. It does not matter in which grouping defaults are added, nor whether they are added
twice. -/
theorem withDefaults_laws (first second third : List (String × Datum)) :
    withDefaults first second = first ++ firstDefaults first second ∧
      withDefaults (withDefaults first second) third =
        withDefaults first (withDefaults second third) ∧
      withDefaults (withDefaults first second) second = withDefaults first second := by
  have hnames := isTaken_append_addedDefaults first second
  refine ⟨?_, ?_, ?_⟩
  · rw [withDefaults_eq_append, addedDefaults_eq_firstDefaults]
  · have hkept : ∀ name, isTaken second name = true → isTaken (first ++ second) name = true := by
      intro name hname
      rw [isTaken_append, hname, Bool.or_true]
    calc withDefaults (withDefaults first second) third
        = first ++ addedDefaults first second ++ addedDefaults (first ++ second) third := by
          rw [withDefaults_eq_append, withDefaults_eq_append, addedDefaults_congr hnames]
      _ = first ++ addedDefaults first (second ++ addedDefaults second third) := by
          rw [addedDefaults_append, addedDefaults_addedDefaults hkept, List.append_assoc]
      _ = withDefaults first (withDefaults second third) := by
          rw [withDefaults_eq_append, withDefaults_eq_append]
  · have hall : ∀ name, isTaken second name = true →
        isTaken (withDefaults first second) name = true := by
      intro name hname
      rw [withDefaults_eq_append, hnames, isTaken_append, hname, Bool.or_true]
    rw [withDefaults_eq_append (withDefaults first second), addedDefaults_eq_nil hall,
      List.append_nil]

end CondDoc
