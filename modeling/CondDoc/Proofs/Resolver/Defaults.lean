import CondDoc.Proofs.Outcome
import CondDoc.Resolver
import Mathlib.Data.List.Forall2

namespace CondDoc

/-- The defaults that are added: those whose name, up to case, neither an argument has nor an earlier
default. -/
def addedDefaults (args : List (String × Datum)) : List (String × Datum) → List (String × Datum)
  | [] => []
  | entry :: others =>
    if args.any fun present => Text.lower present.1 == Text.lower entry.1 then
      addedDefaults args others
    else entry :: addedDefaults (args ++ [entry]) others

theorem withDefaults_eq_append (args defaults : List (String × Datum)) :
    withDefaults args defaults = args ++ addedDefaults args defaults := by
  induction defaults generalizing args with
  | nil => exact (List.append_nil args).symm
  | cons entry others ih =>
    unfold addedDefaults
    change withDefaults (if args.any fun present => Text.lower present.1 == Text.lower entry.1
      then args else args ++ [entry]) others = _
    split
    · exact ih args
    · rw [ih, List.append_assoc]
      rfl

theorem addedDefaults_sublist (args defaults : List (String × Datum)) :
    (addedDefaults args defaults).Sublist defaults := by
  induction defaults generalizing args with
  | nil => exact .slnil
  | cons entry others ih =>
    unfold addedDefaults
    split
    · exact (ih args).cons entry
    · exact (ih _).cons_cons entry

/-- Names that differ from each other even without case. -/
def DistinctByCase (names : List String) : Prop :=
  names.Pairwise fun first second => Text.lower first ≠ Text.lower second

/-- Names that differ from all others even without case. -/
def NewByCase (names others : List String) : Prop :=
  ∀ name ∈ names, ∀ other ∈ others, Text.lower other ≠ Text.lower name

theorem newByCase_addedDefaults (args defaults : List (String × Datum)) :
    NewByCase ((addedDefaults args defaults).map (·.1)) (args.map (·.1)) := by
  induction defaults generalizing args with
  | nil => exact fun name hname => nomatch hname
  | cons entry others ih =>
    unfold addedDefaults
    split
    · exact ih args
    · next hnone =>
      intro name hname other hother
      rcases List.mem_cons.1 hname with rfl | hname
      · obtain ⟨present, hpresent, rfl⟩ := List.mem_map.1 hother
        exact fun heq => hnone (List.any_eq_true.2 ⟨present, hpresent, beq_iff_eq.2 heq⟩)
      · refine ih (args ++ [entry]) name hname other ?_
        rw [List.map_append]
        exact List.mem_append_left _ hother

theorem distinctByCase_addedDefaults (args defaults : List (String × Datum)) :
    DistinctByCase ((addedDefaults args defaults).map (·.1)) := by
  induction defaults generalizing args with
  | nil => exact .nil
  | cons entry others ih =>
    unfold addedDefaults
    split
    · exact ih args
    · refine List.pairwise_cons.2 ⟨fun later hlater => ?_, ih _⟩
      refine newByCase_addedDefaults (args ++ [entry]) others later hlater entry.1 ?_
      rw [List.map_append]
      exact List.mem_append_right _ List.mem_cons_self

/-- Is the name another one only by case? -/
def sameByCase (name key : String) : Bool := Text.lower key == Text.lower name

theorem sameByCase_iff {name key : String} :
    sameByCase name key = true ↔ Text.lower key = Text.lower name := beq_iff_eq

theorem sameByCase_eq_false_iff {name key : String} :
    sameByCase name key = false ↔ Text.lower key ≠ Text.lower name := beq_eq_false_iff_ne

/-- The default that a look-up of the name finds before any argument: the first one with the name up
to case, when no argument has it up to case. -/
def overriding? (args defaults : List (String × Datum)) (name : String) : Option Datum :=
  if args.any fun present => sameByCase name present.1 then none
  else Ordered.find? (sameByCase name) defaults

/-- Of the defaults with a name up to case, only the first is added. -/
theorem find?_addedDefaults (args defaults : List (String × Datum)) (name : String) :
    Ordered.find? (sameByCase name) (addedDefaults args defaults) =
      overriding? args defaults name := by
  induction defaults generalizing args with
  | nil =>
    unfold overriding?
    split <;> rfl
  | cons entry others ih =>
    unfold addedDefaults
    cases hname : sameByCase name entry.1 with
    | false =>
      -- The entry is not meant, whether it is added or not.
      have hskip : overriding? args (entry :: others) name = overriding? args others name := by
        unfold overriding?
        rw [Ordered.find?_cons, hname, if_neg Bool.false_ne_true]
      rw [hskip]
      split
      · exact ih args
      · rw [Ordered.find?_cons, hname, if_neg Bool.false_ne_true, ih]
        unfold overriding?
        rw [List.any_append, List.any_cons, hname, List.any_nil, Bool.or_false, Bool.or_false]
    | true =>
      -- The entry is the one that is meant, unless an argument has the name.
      have hlower := sameByCase_iff.1 hname
      have hsame : (fun present : String × Datum => Text.lower present.1 == Text.lower entry.1) =
          fun present => sameByCase name present.1 := by
        rw [hlower]
        rfl
      rw [hsame]
      cases hany : args.any fun present => sameByCase name present.1 with
      | true =>
        rw [if_pos rfl, ih, overriding?, overriding?, hany, if_pos rfl, if_pos rfl]
      | false =>
        rw [if_neg Bool.false_ne_true, overriding?, hany, if_neg Bool.false_ne_true,
          Ordered.find?_cons, Ordered.find?_cons, if_pos hname, if_pos hname]

/-- The field is the entry with its value made of it. -/
def IsFieldOf (field : String × Value) (entry : String × Datum) : Prop :=
  field.1 = entry.1 ∧ entry.2.toValue = .ok field.2

/-- The fields are the entries, each with its value made of it. -/
def AreFieldsOf (fields : List (String × Value)) (entries : List (String × Datum)) : Prop :=
  List.Forall₂ IsFieldOf fields entries

theorem toFields_eq_ok_iff {entries : List (String × Datum)} {fields : List (String × Value)} :
    Datum.toFields (entries.map fun entry => (.text entry.1, entry.2)) = .ok fields ↔
      AreFieldsOf fields entries := by
  induction entries generalizing fields with
  | nil =>
    constructor
    · intro h
      cases h
      exact .nil
    · intro h
      cases h
      rfl
  | cons entry entries ih =>
    rw [List.map_cons, Datum.toFields, bind_eq_ok_iff]
    constructor
    · rintro ⟨first, hfirst, h⟩
      obtain ⟨others, hothers, h⟩ := bind_eq_ok_iff.1 h
      cases h
      exact .cons ⟨rfl, hfirst⟩ (ih.1 hothers)
    · intro h
      cases h with
      | cons hfield hfields =>
        obtain ⟨hkey, hvalue⟩ := hfield
        refine ⟨_, hvalue, bind_eq_ok_iff.2 ⟨_, ih.2 hfields, ?_⟩⟩
        exact congrArg Except.ok (congrArg (· :: _) (Prod.ext hkey.symm rfl))

/-- The resolver of named entries. -/
theorem ofArguments_ofNamedEntries_iff {entries : List (String × Datum)} {resolver : Resolver} :
    Resolver.ofArguments (.data (.ofNamedEntries entries)) = .ok resolver ↔
      ∃ fields, AreFieldsOf fields entries ∧ resolver = ⟨Ordered.ofPairs (· == ·) fields⟩ := by
  change (Datum.toFields _ >>= _) = _ ↔ _
  rw [bind_eq_ok_iff]
  constructor
  · rintro ⟨fields, hfields, h⟩
    cases h
    exact ⟨fields, toFields_eq_ok_iff.1 hfields, rfl⟩
  · rintro ⟨fields, hfields, rfl⟩
    exact ⟨fields, toFields_eq_ok_iff.2 hfields, rfl⟩

namespace AreFieldsOf

variable {fields : List (String × Value)} {entries : List (String × Datum)}

theorem keys_eq (h : AreFieldsOf fields entries) : fields.map (·.1) = entries.map (·.1) := by
  induction h with
  | nil => rfl
  | cons hfield _ ih => rw [List.map_cons, List.map_cons, hfield.1, ih]

/-- Some of the entries have their fields too. -/
theorem exists_of_sublist (h : AreFieldsOf fields entries) {chosen : List (String × Datum)}
    (hchosen : chosen.Sublist entries) : ∃ fields, AreFieldsOf fields chosen := by
  induction hchosen generalizing fields with
  | slnil => exact ⟨[], .nil⟩
  | cons entry _ ih =>
    cases h with
    | cons _ hfields => exact ih hfields
  | cons_cons entry _ ih =>
    cases h with
    | cons hfield hfields =>
      obtain ⟨others, hothers⟩ := ih hfields
      exact ⟨_ :: others, .cons hfield hothers⟩

theorem find?_eq_none (h : AreFieldsOf fields entries) {test : String → Bool}
    (hnone : Ordered.find? test entries = none) : Ordered.find? test fields = none := by
  induction h with
  | nil => rfl
  | cons hfield _ ih =>
    rw [Ordered.find?_cons] at hnone ⊢
    rw [hfield.1]
    split at hnone
    · cases hnone
    · next hfirst =>
      rw [if_neg hfirst]
      exact ih hnone

theorem find?_eq_some (h : AreFieldsOf fields entries) {test : String → Bool} {datum : Datum}
    (hsome : Ordered.find? test entries = some datum) :
    ∃ value, datum.toValue = .ok value ∧ Ordered.find? test fields = some value := by
  induction h with
  | nil => cases hsome
  | cons hfield _ ih =>
    rw [Ordered.find?_cons] at hsome ⊢
    rw [hfield.1]
    split at hsome
    · next hfirst =>
      cases hsome
      exact ⟨_, hfield.2, if_pos hfirst⟩
    · next hfirst =>
      obtain ⟨value, hvalue, hfind⟩ := ih hsome
      exact ⟨value, hvalue, (if_neg hfirst).trans hfind⟩

end AreFieldsOf

/-- Is the name another one only by case and underscores? -/
def sameNormalized (name key : String) : Bool := Resolver.normalized key == Resolver.normalized name

theorem field?_eq (fields : List (String × Value)) (name : String) :
    Resolver.field? fields name = (Ordered.find? (· == name) fields).or
      ((Ordered.find? (sameByCase name) fields).or
        (Ordered.find? (sameNormalized name) fields)) := rfl

section Fields

variable {own added : List (String × Value)}

/-- Fields that are added behind others, with names that are new and distinct even without case: such
a field comes before all others if it has the name up to case, and behind them otherwise. -/
theorem field?_append
    (hnew : NewByCase (added.map (·.1)) (own.map (·.1)))
    (hdistinct : DistinctByCase (added.map (·.1))) (name : String) :
    Resolver.field? (own ++ added) name =
      (Ordered.find? (sameByCase name) added).or
        ((Resolver.field? own name).or (Ordered.find? (sameNormalized name) added)) := by
  rw [field?_eq, field?_eq, Ordered.find?_append, Ordered.find?_append, Ordered.find?_append]
  cases hadded : Ordered.find? (sameByCase name) added with
  | none =>
    have hexact : Ordered.find? (· == name) added = none := by
      refine Ordered.find?_eq_none_iff.2 fun field hfield => ?_
      have hother := sameByCase_eq_false_iff.1 (Ordered.find?_eq_none_iff.1 hadded field hfield)
      exact beq_false_of_ne fun heq => hother (congrArg Text.lower heq)
    rw [hexact, Option.or_none, Option.or_none, Option.none_or, Option.or_assoc, Option.or_assoc]
  | some value =>
    obtain ⟨field, hfield, hname, rfl⟩ := Ordered.exists_of_find?_eq_some hadded
    -- No field in front has the name, with whatever case.
    have hown (present : String × Value) (hpresent : present ∈ own) :
        Text.lower present.1 ≠ Text.lower name := by
      rw [← sameByCase_iff.1 hname]
      exact hnew _ (List.mem_map_of_mem hfield) _ (List.mem_map_of_mem hpresent)
    have hcase : Ordered.find? (sameByCase name) own = none :=
      Ordered.find?_eq_none_iff.2 fun present hpresent =>
        sameByCase_eq_false_iff.2 (hown present hpresent)
    have hexact : Ordered.find? (· == name) own = none :=
      Ordered.find?_eq_none_iff.2 fun present hpresent =>
        beq_false_of_ne fun heq => hown present hpresent (congrArg Text.lower heq)
    rw [hexact, hcase, Option.none_or, Option.none_or, Option.some_or, Option.some_or]
    cases hspelled : Ordered.find? (· == name) added with
    | none => rfl
    | some other =>
      obtain ⟨same, hsame, hspelling, rfl⟩ := Ordered.exists_of_find?_eq_some hspelled
      have hfirst : Ordered.find? (sameByCase name) added = some same.2 :=
        Ordered.find?_of_mem hdistinct hsame (congrArg Text.lower (eq_of_beq hspelling))
      exact hfirst.symm.trans hadded

end Fields

section Paths

variable {resolver : Resolver} {path name : String} {names : List String}

theorem Resolver.follow?_object (hname : name ≠ "") (fields : List (String × Value))
    (names : List String) :
    follow? (.object fields) (name :: names) =
      (field? fields name).bind fun found => follow? found names := if_neg hname

theorem resolve?_eq_bind (hpath : path ≠ "") (hnames : Text.splitAt '.' path = name :: names)
    (hname : name ≠ "") :
    resolver.resolve? path =
      (Resolver.field? resolver.fields name).bind fun found => Resolver.follow? found names := by
  rw [Resolver.resolve?, if_neg hpath, hnames, Resolver.follow?_object hname]

/-- A path that leads to a value starts with the name of a field, from which the rest leads there. -/
theorem exists_field_of_resolve? {value : Value}
    (hnames : Text.splitAt '.' path = name :: names) (h : resolver.resolve? path = some value) :
    path ≠ "" ∧ name ≠ "" ∧ ∃ found, Resolver.field? resolver.fields name = some found ∧
      Resolver.follow? found names = some value := by
  have hpath : path ≠ "" := by
    intro hempty
    rw [Resolver.resolve?, if_pos hempty] at h
    cases h
  have hname : name ≠ "" := by
    intro hempty
    rw [Resolver.resolve?, if_neg hpath, hnames, Resolver.follow?, if_pos hempty] at h
    cases h
  rw [resolve?_eq_bind hpath hnames hname] at h
  exact ⟨hpath, hname, Option.bind_eq_some_iff.1 h⟩

end Paths

section Merged

variable {args defaults : List (String × Datum)} {own others : Resolver}

theorem addDefaults_ofNamedEntries (args defaults : List (String × Datum)) :
    (Arguments.data (.ofNamedEntries args)).addDefaults (.ofNamedEntries defaults) =
      .ok (.ofNamedEntries (withDefaults args defaults)) := by
  have hentries (entries : List (String × Datum)) :
      (Datum.ofNamedEntries entries).namedEntries = .ok entries := by
    refine congrArg Except.ok (List.map_map.trans ?_)
    exact List.map_id entries
  rw [Arguments.addDefaults, Arguments.namedEntries, hentries, hentries]
  rfl

/-- When arguments and defaults can be converted, so can both together: the fields of the defaults
that are added stand behind those of the arguments. -/
theorem ofArguments_withDefaults
    (hargs : Resolver.ofArguments (.data (.ofNamedEntries args)) = .ok own)
    (hdefaults : Resolver.ofArguments (.data (.ofNamedEntries defaults)) = .ok others) :
    ∃ added, AreFieldsOf added (addedDefaults args defaults) ∧
      NewByCase (added.map (·.1)) (own.fields.map (·.1)) ∧
      DistinctByCase (added.map (·.1)) ∧
      Resolver.ofArguments (.data (.ofNamedEntries (withDefaults args defaults))) =
        .ok ⟨own.fields ++ added⟩ := by
  obtain ⟨argFields, hargFields, rfl⟩ := ofArguments_ofNamedEntries_iff.1 hargs
  obtain ⟨defaultFields, hdefaultFields, -⟩ := ofArguments_ofNamedEntries_iff.1 hdefaults
  obtain ⟨added, hadded⟩ :=
    hdefaultFields.exists_of_sublist (addedDefaults_sublist args defaults)
  have hnew : NewByCase (added.map (·.1)) ((Ordered.ofPairs (· == ·) argFields).map (·.1)) := by
    intro name hname other hother
    rw [Ordered.mem_keys_ofPairs, hargFields.keys_eq] at hother
    rw [hadded.keys_eq] at hname
    exact newByCase_addedDefaults args defaults name hname other hother
  have hdistinct : DistinctByCase (added.map (·.1)) := by
    rw [hadded.keys_eq]
    exact distinctByCase_addedDefaults args defaults
  refine ⟨added, hadded, hnew, hdistinct, ofArguments_ofNamedEntries_iff.2
    ⟨argFields ++ added, ?_, congrArg Resolver.mk ?_⟩⟩
  · rw [withDefaults_eq_append]
    exact List.rel_append hargFields hadded
  · refine (Ordered.ofPairs_append ?_ (hdistinct.imp ?_)).symm
    · intro field hfield hmem
      exact hnew _ (List.mem_map_of_mem hfield) _ hmem rfl
    · intro first second hne heq
      exact hne (congrArg Text.lower heq)

/-- Paths that lead to a value of the arguments lead to it when defaults have been added, unless a
default overrides the argument: then they lead on from that default. -/
theorem resolve?_withDefaults
    (hargs : Resolver.ofArguments (.data (.ofNamedEntries args)) = .ok own)
    (hdefaults : Resolver.ofArguments (.data (.ofNamedEntries defaults)) = .ok others) :
    ∃ merged both,
      (Arguments.data (.ofNamedEntries args)).addDefaults (.ofNamedEntries defaults) = .ok merged ∧
      Resolver.ofArguments (.data merged) = .ok both ∧
      ∀ path name names value, Text.splitAt '.' path = name :: names →
        own.resolve? path = some value →
        (overriding? args defaults name = none → both.resolve? path = some value) ∧
        ∀ datum, overriding? args defaults name = some datum →
          ∃ supplied, datum.toValue = .ok supplied ∧
            both.resolve? path = Resolver.follow? supplied names := by
  obtain ⟨added, hadded, hnew, hdistinct, hboth⟩ := ofArguments_withDefaults hargs hdefaults
  refine ⟨_, _, addDefaults_ofNamedEntries args defaults, hboth, ?_⟩
  intro path name names value hnames hvalue
  obtain ⟨hpath, hname, found, hfound, hfollow⟩ := exists_field_of_resolve? hnames hvalue
  rw [resolve?_eq_bind hpath hnames hname, field?_append hnew hdistinct, hfound, Option.some_or,
    ← find?_addedDefaults]
  constructor
  · intro hnone
    rw [hadded.find?_eq_none hnone, Option.none_or]
    exact hfollow
  · intro datum hdatum
    obtain ⟨supplied, hsupplied, hfind⟩ := hadded.find?_eq_some hdatum
    refine ⟨supplied, hsupplied, ?_⟩
    rw [hfind, Option.some_or]
    rfl

end Merged

/-- The default `ROLE` is left out, but `myid` comes before the argument `my_id`. -/
theorem resolve?_withDefaults_role_myid :
    ∃ own others merged both,
      Resolver.ofArguments (.data (.ofNamedEntries
        [("my_id", .text "given"), ("role", .text "admin")])) = .ok own ∧
      Resolver.ofArguments (.data (.ofNamedEntries
        [("ROLE", .text "guest"), ("myid", .text "default")])) = .ok others ∧
      (Arguments.data (.ofNamedEntries
        [("my_id", .text "given"), ("role", .text "admin")])).addDefaults (.ofNamedEntries
          [("ROLE", .text "guest"), ("myid", .text "default")]) = .ok merged ∧
      Resolver.ofArguments (.data merged) = .ok both ∧
      both.resolve? "ROLE" = some (.string "admin") ∧
      both.resolve? "MyId" = some (.string "default") := by
  have hargs : Resolver.ofArguments (.data (.ofNamedEntries
      [("my_id", .text "given"), ("role", .text "admin")])) =
      .ok ⟨[("my_id", .string "given"), ("role", .string "admin")]⟩ := rfl
  have hdefaults : Resolver.ofArguments (.data (.ofNamedEntries
      [("ROLE", .text "guest"), ("myid", .text "default")])) =
      .ok ⟨[("ROLE", .string "guest"), ("myid", .string "default")]⟩ := rfl
  obtain ⟨merged, both, hmerged, hboth, hresolve⟩ := resolve?_withDefaults hargs hdefaults
  have hrole := hresolve "ROLE" "ROLE" [] (.string "admin") (by decide) (by rfl)
  have hname := hresolve "MyId" "MyId" [] (.string "given") (by decide) (by rfl)
  obtain ⟨supplied, hsupplied, hdefault⟩ := hname.2 (.text "default") (by rfl)
  cases hsupplied
  exact ⟨_, _, merged, both, hargs, hdefaults, hmerged, hboth, hrole.1 (by rfl), hdefault⟩

/-- An argument found under a name without its underscore is hidden by a default of that name. -/
theorem default_hides_argument :
    ∃ own merged both,
      Resolver.ofArguments (.data (.ofNamedEntries [("my_id", .text "given")])) = .ok own ∧
      (Arguments.data (.ofNamedEntries [("my_id", .text "given")])).addDefaults
        (.ofNamedEntries [("myid", .text "default")]) = .ok merged ∧
      Resolver.ofArguments (.data merged) = .ok both ∧
      own.resolve? "myid" = some (.string "given") ∧
      both.resolve? "myid" = some (.string "default") :=
  ⟨⟨[("my_id", .string "given")]⟩,
    .ofNamedEntries [("my_id", .text "given"), ("myid", .text "default")],
    ⟨[("my_id", .string "given"), ("myid", .string "default")]⟩, rfl, rfl, rfl, rfl, rfl⟩

end CondDoc
