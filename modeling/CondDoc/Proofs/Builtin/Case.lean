import CondDoc.Builtin
import CondDoc.Proofs.Outcome
import CondDoc.Proofs.Text.Lower
import Mathlib.Data.List.Basic

namespace CondDoc

def Options.withCase (options : Options) (caseSensitive : Bool) : Options :=
  { options with caseSensitive := caseSensitive }

variable {options : Options}

theorem Value.alike_ignoring_case {left right : Value} (h : alike true left right = true) :
    alike false left right = true := by
  cases left <;> cases right
  case string.string s t =>
    have heq : s = t := eq_of_beq h
    rw [heq]
    exact beq_self_eq_true _
  all_goals exact h

/-- Values that can be compared with case can be compared without. -/
theorem Value.equal_ignoring_case {strict same : Bool} {left right : Value}
    (h : equal strict true left right = .ok same) :
    ∃ alike, equal strict false left right = .ok alike ∧ (same = true → alike = true) := by
  unfold equal at h ⊢
  split at h
  · cases h
    exact ⟨_, if_pos ‹_›, alike_ignoring_case⟩
  · next hkind =>
    rw [if_neg hkind]
    exact ⟨same, h, id⟩

namespace Builtin

theorem anyEqual_ignoring_case {value : Value} {items : List Value}
    (h : anyEqual (options.withCase true) value items = .ok true) :
    anyEqual (options.withCase false) value items = .ok true := by
  induction items with
  | nil => cases h
  | cons item items ih =>
    obtain ⟨same, hsame, hrest⟩ := bind_eq_ok_iff.1 h
    obtain ⟨alike, halike, himp⟩ := Value.equal_ignoring_case hsame
    refine bind_eq_ok_iff.2 ⟨alike, halike, ?_⟩
    -- An item that becomes equal only ends the search sooner.
    cases alike with
    | true => rfl
    | false =>
      cases same with
      | true => cases himp rfl
      | false => exact ih hrest

theorem folded_withCase_true (value : Value) :
    folded (options.withCase true) value = value.asText.toList := rfl

theorem folded_withCase_false (value : Value) :
    folded (options.withCase false) value = Text.lowerChars value.asText.toList :=
  String.toList_ofList

/-- The piece stands at some place where the function looks, and its capital sigmas have the lower
case there that they have in the piece alone. -/
def KeepsMatch : Builtin → List Value → Prop
  | .contains, [text, piece] => ∃ before after,
      text.asText.toList = before ++ piece.asText.toList ++ after ∧
        Text.SigmasKept before.reverse piece.asText.toList after
  | .startsWith, [text, piece] => ∃ after,
      text.asText.toList = piece.asText.toList ++ after ∧
        Text.SigmasKept [] piece.asText.toList after
  | .endsWith, [text, piece] => ∃ before,
      text.asText.toList = before ++ piece.asText.toList ∧
        Text.SigmasKept before.reverse piece.asText.toList []
  | _, _ => True

theorem length_eq_arity_of_apply {builtin : Builtin} {values : List Value} {answer : Bool}
    (h : builtin.apply options values = .ok answer) : values.length = builtin.arity := by
  unfold apply at h
  split at h
  case h_7 => cases h
  all_goals rfl

/-- What a call that is true with case answers without. -/
structure IgnoringCase (options : Options) (builtin : Builtin) (values : List Value) : Prop where
  kept : builtin.KeepsMatch values → builtin.apply (options.withCase false) values = .ok true
  lost : ¬ builtin.KeepsMatch values →
    ∃ text piece answer, values = [text, piece] ∧ 'Σ' ∈ piece.asText.toList ∧
      builtin.apply (options.withCase false) values = .ok answer ∧
      (builtin ≠ .contains → answer = false)

theorem IgnoringCase.of_answer {builtin : Builtin} {text piece : Value} {answer : Bool}
    (hanswer : builtin.apply (options.withCase false) [text, piece] = .ok answer)
    (hsigma : 'Σ' ∉ piece.asText.toList → builtin.KeepsMatch [text, piece])
    (hkept : builtin.KeepsMatch [text, piece] → answer = true)
    (hfound : answer = true → builtin = .contains ∨ builtin.KeepsMatch [text, piece]) :
    IgnoringCase options builtin [text, piece] := by
  constructor
  · intro h
    rw [hanswer, hkept h]
  · intro hlost
    refine ⟨text, piece, answer, rfl, Decidable.byContradiction fun h => hlost (hsigma h), hanswer, ?_⟩
    intro hother
    cases answer with
    | false => rfl
    | true =>
      rcases hfound rfl with hcontains | h
      · exact absurd hcontains hother
      · exact absurd h hlost

theorem contains_ignoring_case {text piece : Value}
    (h : apply (options.withCase true) .contains [text, piece] = .ok true) :
    IgnoringCase options .contains [text, piece] := by
  have hoccurs := Except.ok.inj h
  rw [folded_withCase_true, folded_withCase_true, Text.occursIn_iff] at hoccurs
  obtain ⟨before, after, hplace⟩ := hoccurs
  refine .of_answer rfl ?_ ?_ fun _ => .inl rfl
  · intro hsigma
    exact ⟨before, after, hplace, Text.sigmasKept_of_not_mem hsigma⟩
  · rintro ⟨before, after, hplace, hkept⟩
    rw [folded_withCase_false, folded_withCase_false, hplace]
    exact Text.occursIn_lowerChars hkept

theorem startsWith_ignoring_case {text piece : Value}
    (h : apply (options.withCase true) .startsWith [text, piece] = .ok true) :
    IgnoringCase options .startsWith [text, piece] := by
  have hprefix := Except.ok.inj h
  rw [folded_withCase_true, folded_withCase_true, List.isPrefixOf_iff_prefix] at hprefix
  obtain ⟨after, hplace⟩ := hprefix
  refine .of_answer rfl ?_ ?_ ?_
  · intro hsigma
    exact ⟨after, hplace.symm, Text.sigmasKept_of_not_mem hsigma⟩
  · rintro ⟨after, hplace, hkept⟩
    rw [folded_withCase_false, folded_withCase_false, hplace, List.isPrefixOf_iff_prefix]
    exact (Text.lowerChars_prefix_iff _ _).2 hkept
  · intro hfound
    rw [folded_withCase_false, folded_withCase_false, ← hplace, List.isPrefixOf_iff_prefix] at hfound
    exact .inr ⟨after, hplace.symm, (Text.lowerChars_prefix_iff _ _).1 hfound⟩

theorem endsWith_ignoring_case {text piece : Value}
    (h : apply (options.withCase true) .endsWith [text, piece] = .ok true) :
    IgnoringCase options .endsWith [text, piece] := by
  have hsuffix := Except.ok.inj h
  rw [folded_withCase_true, folded_withCase_true, List.isSuffixOf_iff_suffix] at hsuffix
  obtain ⟨before, hplace⟩ := hsuffix
  refine .of_answer rfl ?_ ?_ ?_
  · intro hsigma
    exact ⟨before, hplace.symm, Text.sigmasKept_of_not_mem hsigma⟩
  · rintro ⟨before, hplace, hkept⟩
    rw [folded_withCase_false, folded_withCase_false, hplace, List.isSuffixOf_iff_suffix]
    exact (Text.lowerChars_suffix_iff _ _).2 hkept
  · intro hfound
    rw [folded_withCase_false, folded_withCase_false, ← hplace, List.isSuffixOf_iff_suffix] at hfound
    exact .inr ⟨before, hplace.symm, (Text.lowerChars_suffix_iff _ _).1 hfound⟩

theorem apply_ignoring_case {builtin : Builtin} {values : List Value}
    (h : builtin.apply (options.withCase true) values = .ok true) :
    IgnoringCase options builtin values := by
  have hlength := length_eq_arity_of_apply h
  cases builtin with
  | presence =>
    obtain ⟨value, rfl⟩ := List.length_eq_one_iff.1 hlength
    exact ⟨fun _ => h, fun hlost => absurd trivial hlost⟩
  | contains =>
    obtain ⟨text, piece, rfl⟩ := List.length_eq_two.1 hlength
    exact contains_ignoring_case h
  | startsWith =>
    obtain ⟨text, piece, rfl⟩ := List.length_eq_two.1 hlength
    exact startsWith_ignoring_case h
  | endsWith =>
    obtain ⟨text, piece, rfl⟩ := List.length_eq_two.1 hlength
    exact endsWith_ignoring_case h
  | membership =>
    obtain ⟨value, array, rfl⟩ := List.length_eq_two.1 hlength
    refine ⟨fun _ => ?_, fun hlost => absurd trivial hlost⟩
    cases array with
    | array items => exact anyEqual_ignoring_case h
    | string s => cases h
    | number x => cases h
    | boolean b => cases h
    | object fields => cases h

/-- A call that is true with case is true without it too, when its piece keeps its capital sigmas at
some place where the function looks. Otherwise there is a capital sigma in the piece; the call still
has an answer, which is false if the function looks at one place only. -/
theorem call_ignoring_case {name : String} {values : List Value}
    (h : call (options.withCase true) name values = .ok true) :
    ∃ builtin, named? name = some builtin ∧
      (builtin.KeepsMatch values → call (options.withCase false) name values = .ok true) ∧
      (¬ builtin.KeepsMatch values →
        ∃ text piece answer, values = [text, piece] ∧ 'Σ' ∈ piece.asText.toList ∧
          call (options.withCase false) name values = .ok answer ∧
          (builtin ≠ .contains → answer = false)) := by
  unfold call at h ⊢
  cases hname : named? name with
  | none =>
    rw [hname] at h
    cases h
  | some builtin =>
    rw [hname] at h
    obtain ⟨hkept, hlost⟩ := apply_ignoring_case h
    exact ⟨builtin, rfl, hkept, hlost⟩

/-- The sigma that begins a text is found there without case. -/
theorem call_startsWith_ignoring_case :
    call (Options.standard.withCase true) "startsWith" [.string "ΣΑ", .string "Σ"] = .ok true ∧
      call (Options.standard.withCase false) "startsWith" [.string "ΣΑ", .string "Σ"] =
        .ok true := by
  have h : call (Options.standard.withCase true) "startsWith" [.string "ΣΑ", .string "Σ"] =
    .ok true := by rfl
  obtain ⟨builtin, hname, hkept, -⟩ := call_ignoring_case h
  have hbuiltin : named? "startsWith" = some .startsWith := by rfl
  obtain rfl := Option.some.inj (hbuiltin.symm.trans hname)
  exact ⟨h, hkept ⟨['Α'], by rfl, by decide⟩⟩

/-- The sigma that ends a word is found in it with case, but not without. -/
theorem contains_final_sigma :
    call (Options.standard.withCase true) "contains" [.string "ΑΣ", .string "Σ"] = .ok true ∧
      call (Options.standard.withCase false) "contains" [.string "ΑΣ", .string "Σ"] =
        .ok false := by
  exact ⟨by rfl, by rfl⟩

end Builtin

end CondDoc
