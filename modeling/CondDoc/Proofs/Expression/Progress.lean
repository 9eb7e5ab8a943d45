import CondDoc.Proofs.Expression.Cursor
import CondDoc.Proofs.Expression.Reading
import CondDoc.Proofs.Outcome

namespace CondDoc.Expression

section

variable {α β : Type} {tokens : List Token} {low high low' high' pos : Nat}

/-- A reading that leaves a rest of the tokens and one that moves a cursor over them come to the
same value or the same failure, and the cursor ends in front of that rest, between two bounds. -/
inductive Lands (tokens : List Token) (low high : Nat) :
    Except Cause (α × List Token) → Attempt (α × Nat) → Prop where
  | ok {value : α} {pos : Nat} : low ≤ pos → pos ≤ high →
    Lands tokens low high (.ok (value, tokens.drop pos)) (.ofResult (.ok (value, pos)))
  | error {cause : Cause} : Lands tokens low high (.error cause) (.ofResult (.error cause))

namespace Lands

variable {first : Except Cause (α × List Token)} {firstAt : Attempt (α × Nat)}

theorem mono (h : Lands tokens low high first firstAt) (hlow : low' ≤ low) (hhigh : high ≤ high') :
    Lands tokens low' high' first firstAt := by
  cases h with
  | ok hpos hend => exact .ok (by omega) (by omega)
  | error => exact .error

theorem bind {next : α × List Token → Except Cause (β × List Token)}
    {nextAt : α × Nat → Attempt (β × Nat)} (h : Lands tokens low high first firstAt)
    (hnext : ∀ value pos, low ≤ pos → pos ≤ high →
      Lands tokens low' high' (next (value, tokens.drop pos)) (nextAt (value, pos))) :
    Lands tokens low' high' (first >>= next) (firstAt >>= nextAt) := by
  cases h with
  | ok hlow hhigh => exact hnext _ _ hlow hhigh
  | error => exact .error

theorem map {f : α → β} (h : Lands tokens low high first firstAt) :
    Lands tokens low high (first.map fun result => (f result.1, result.2))
      (firstAt >>= fun result => return (f result.1, result.2)) := by
  cases h with
  | ok hlow hhigh => exact .ok hlow hhigh
  | error => exact .error

/-- What has nothing to do with the tokens moves no cursor. -/
theorem ofResult {result : Except Cause α} {next : α → Except Cause (β × List Token)}
    {nextAt : α → Attempt (β × Nat)}
    (h : ∀ value, Lands tokens low high (next value) (nextAt value)) :
    Lands tokens low high (result >>= next) (Attempt.ofResult result >>= nextAt) := by
  cases result with
  | error cause => exact .error
  | ok value => exact h value

end Lands

theorem kindAt_eq (tokens : List Token) (pos : Nat) :
    kindAt tokens pos = nextKind (tokens.drop pos) := by
  rw [kindAt, nextKind, List.head?_drop]

theorem foundAt_eq (tokens : List Token) (pos : Nat) :
    foundAt tokens pos = found (tokens.drop pos) := by
  rw [foundAt, found, List.head?_drop]

theorem drop_of_getElem? {token : Token} (h : tokens[pos]? = some token) :
    pos < tokens.length ∧ tokens.drop pos = token :: tokens.drop (pos + 1) := by
  obtain ⟨hpos, htoken⟩ := List.getElem?_eq_some_iff.mp h
  exact ⟨hpos, by rw [List.drop_eq_getElem_cons hpos, htoken]⟩

theorem drop_of_kindAt {kind : TokenKind} (h : kindAt tokens pos = some kind) :
    pos < tokens.length ∧ ∃ text, tokens.drop pos = ⟨kind, text⟩ :: tokens.drop (pos + 1) := by
  obtain ⟨token, htoken, hkind⟩ := Option.map_eq_some_iff.mp h
  obtain ⟨hpos, hdrop⟩ := drop_of_getElem? htoken
  exact ⟨hpos, token.text, by rw [hdrop, ← hkind]⟩

end

namespace Reading

/-- The tokens that a reading takes at the least. -/
def width (reading : Reading) : Nat := if reading.isWhole then 1 else 0

/-- A reading calls others at its own position only if they are of a lower rank. -/
def rank : Reading → Nat
  | .disjunction => 5
  | .conjunction => 4
  | .negation => 3
  | .comparison | .reference _ | .argumentsFrom | .itemsFrom => 2
  | .disjunctionFrom _ | .conjunctionFrom _ | .primary | .names | .arguments | .array => 1

theorem rank_pos (reading : Reading) : 0 < reading.rank := by
  cases reading <;> simp [rank]

theorem rank_le (reading : Reading) : reading.rank ≤ 5 := by
  cases reading <;> simp [rank]

end Reading

/-- A reading of what remains of the tokens. -/
def ofReading (context : Context) :
    (reading : Reading) → List Token → Except Cause (reading.Result × List Token)
  | .disjunction, tokens => outcome (disjunction context tokens)
  | .disjunctionFrom left, tokens => outcome (disjunctionFrom context left tokens)
  | .conjunction, tokens => outcome (conjunction context tokens)
  | .conjunctionFrom left, tokens => outcome (conjunctionFrom context left tokens)
  | .negation, tokens => outcome (negation context tokens)
  | .comparison, tokens => outcome (comparison context tokens)
  | .primary, tokens => outcome (primary context tokens)
  | .reference name, tokens => outcome (reference context name tokens)
  | .names, tokens => outcome (moreNames tokens)
  | .arguments, tokens =>
    if nextKind tokens = some .leftParen then outcome (arguments context tokens.tail)
    else .error (noOpening "'('" (found tokens))
  | .argumentsFrom, tokens => outcome (argumentsFrom context tokens)
  | .array, tokens =>
    if nextKind tokens = some .leftBracket then outcome (argument context tokens)
    else .error (noOpening "'['" (found tokens))
  | .itemsFrom, tokens => outcome (itemsFrom context tokens)

section

variable (context : Context) (tokens : List Token)
  (read : (reading : Reading) → Nat → Attempt (reading.Result × Nat))

/-- Reading at a position agrees with reading what remains there, and moves the cursor over no
more than the tokens, and over one at least where the reading is a whole one. -/
def Agrees (reading : Reading) (pos : Nat) : Prop :=
  Lands tokens (pos + reading.width) (max pos tokens.length)
    (ofReading context reading (tokens.drop pos)) (read reading pos)

/-- The calls that a reading may make agree: those of a lower rank at its own position, and any
behind it once a token is read. -/
structure CallsAgree (reading : Reading) (pos : Nat) : Prop where
  here : ∀ other : Reading, other.rank < reading.rank → Agrees context tokens read other pos
  behind : pos < tokens.length →
    ∀ other next, pos < next → Agrees context tokens read other next

end

section

variable {context : Context} {tokens : List Token} {pos : Nat}
  {read : (reading : Reading) → Nat → Attempt (reading.Result × Nat)}

theorem agrees_disjunction (h : CallsAgree context tokens read .disjunction pos) :
    Agrees context tokens (turn context tokens read) .disjunction pos := by
  rw [Agrees, ofReading, outcome_disjunction, turn]
  have hfirst := h.here .conjunction (by decide)
  refine Lands.bind hfirst ?_
  intro left next (hlow : pos < next) hhigh
  have hwhole := h.behind (by omega) (.disjunctionFrom left) next hlow
  exact hwhole.mono hlow (by omega)

theorem agrees_disjunctionFrom {left : Bool}
    (h : CallsAgree context tokens read (.disjunctionFrom left) pos) :
    Agrees context tokens (turn context tokens read) (.disjunctionFrom left) pos := by
  rw [Agrees, ofReading, turn]
  split
  · rename_i hor
    obtain ⟨hpos, text, hdrop⟩ := drop_of_kindAt hor
    rw [hdrop, outcome_disjunctionFrom_or]
    have hright := h.behind hpos .conjunction (pos + 1) (by omega)
    refine Lands.bind hright ?_
    intro right next (hlow : pos + 1 < next) hhigh
    have hwhole := h.behind hpos (.disjunctionFrom (left || right)) next (by omega)
    exact hwhole.mono (show pos ≤ next by omega) (by omega)
  · rename_i hstop
    rw [kindAt_eq] at hstop
    rw [outcome_disjunctionFrom_stop left hstop]
    exact .ok (Nat.le_refl pos) (by omega)

theorem agrees_conjunction (h : CallsAgree context tokens read .conjunction pos) :
    Agrees context tokens (turn context tokens read) .conjunction pos := by
  rw [Agrees, ofReading, outcome_conjunction, turn]
  have hfirst := h.here .negation (by decide)
  refine Lands.bind hfirst ?_
  intro left next (hlow : pos < next) hhigh
  have hwhole := h.behind (by omega) (.conjunctionFrom left) next hlow
  exact hwhole.mono hlow (by omega)

theorem agrees_conjunctionFrom {left : Bool}
    (h : CallsAgree context tokens read (.conjunctionFrom left) pos) :
    Agrees context tokens (turn context tokens read) (.conjunctionFrom left) pos := by
  rw [Agrees, ofReading, turn]
  split
  · rename_i hand
    obtain ⟨hpos, text, hdrop⟩ := drop_of_kindAt hand
    rw [hdrop, outcome_conjunctionFrom_and]
    have hright := h.behind hpos .negation (pos + 1) (by omega)
    refine Lands.bind hright ?_
    intro right next (hlow : pos + 1 < next) hhigh
    have hwhole := h.behind hpos (.conjunctionFrom (left && right)) next (by omega)
    exact hwhole.mono (show pos ≤ next by omega) (by omega)
  · rename_i hstop
    rw [kindAt_eq] at hstop
    rw [outcome_conjunctionFrom_stop left hstop]
    exact .ok (Nat.le_refl pos) (by omega)

theorem agrees_negation (h : CallsAgree context tokens read .negation pos) :
    Agrees context tokens (turn context tokens read) .negation pos := by
  rw [Agrees, ofReading, turn]
  split
  · rename_i hnot
    obtain ⟨hpos, text, hdrop⟩ := drop_of_kindAt hnot
    rw [hdrop, outcome_negation_not]
    have hinner := h.behind hpos .negation (pos + 1) (by omega)
    exact (Lands.map hinner).mono (show pos + 1 ≤ pos + 1 + 1 by omega) (by omega)
  · rename_i hstop
    rw [kindAt_eq] at hstop
    rw [outcome_negation_stop hstop]
    exact h.here .comparison (by decide)

theorem lands_rightSide (left : Value) (judge : Bool → Bool) (hpos : pos < tokens.length)
    (hright : Agrees context tokens read .primary (pos + 1)) :
    Lands tokens pos (max pos tokens.length)
      (outcome (primary context (tokens.drop (pos + 1))) >>= fun right =>
        context.equal left right.1 >>= fun same => return (judge same, right.2))
      (read .primary (pos + 1) >>= fun right =>
        Attempt.ofResult (context.equal left right.1) >>= fun same =>
          return (judge same, right.2)) := by
  refine Lands.bind hright ?_
  intro right next (hlow : pos + 1 < next) hhigh
  apply Lands.ofResult
  intro same
  exact .ok (by omega) (by omega)

theorem lands_comparisonAt (left : Value)
    (hright : pos < tokens.length → Agrees context tokens read .primary (pos + 1)) :
    Lands tokens pos (max pos tokens.length) (comparisonFrom context left (tokens.drop pos))
      (comparisonAt context tokens (read .primary) left pos) := by
  rw [comparisonAt]
  split
  · rename_i hkind
    rcases hkind with hequals | hnotEquals
    · obtain ⟨hpos, text, hdrop⟩ := drop_of_kindAt hequals
      rw [hdrop]
      simp only [if_pos hequals]
      exact lands_rightSide left id hpos (hright hpos)
    · obtain ⟨hpos, text, hdrop⟩ := drop_of_kindAt hnotEquals
      have hother : kindAt tokens pos ≠ some .equals := by
        rw [hnotEquals]
        decide
      rw [hdrop]
      simp only [if_neg hother]
      exact lands_rightSide left not hpos (hright hpos)
  · rename_i hstop
    rw [kindAt_eq, not_or] at hstop
    rw [comparisonFrom_stop left hstop.1 hstop.2]
    exact .ok (Nat.le_refl pos) (by omega)

theorem agrees_comparison (h : CallsAgree context tokens read .comparison pos) :
    Agrees context tokens (turn context tokens read) .comparison pos := by
  rw [Agrees, ofReading, outcome_comparison, turn]
  have hleft := h.here .primary (by decide)
  refine Lands.bind hleft ?_
  intro left next (hlow : pos < next) hhigh
  have hwhole := lands_comparisonAt left fun hnext =>
    h.behind (by omega) .primary (next + 1) (by omega)
  exact hwhole.mono hlow (by omega)

theorem agrees_primary (h : CallsAgree context tokens read .primary pos) :
    Agrees context tokens (turn context tokens read) .primary pos := by
  rw [Agrees, ofReading, turn]
  split
  · rename_i hend
    rw [List.drop_eq_nil_of_le (List.getElem?_eq_none_iff.mp hend), outcome_primary_nil]
    exact .error
  · rename_i text hparen
    obtain ⟨hpos, hdrop⟩ := drop_of_getElem? hparen
    rw [hdrop, outcome_primary_leftParen]
    have hinner := h.behind hpos .disjunction (pos + 1) (by omega)
    refine Lands.bind hinner ?_
    intro inner next (hlow : pos + 1 < next) hhigh
    dsimp only
    split
    · rename_i hclose
      obtain ⟨hnext, text', hdrop'⟩ := drop_of_kindAt hclose
      rw [hdrop']
      exact .ok (show pos + 1 ≤ next + 1 by omega) (by omega)
    · rename_i hstop
      rw [kindAt_eq] at hstop
      rw [closeParen_stop hstop, foundAt_eq]
      exact .error
  · rename_i name hname
    obtain ⟨hpos, hdrop⟩ := drop_of_getElem? hname
    rw [hdrop, outcome_primary_identifier]
    have hwhole := h.behind hpos (.reference name) (pos + 1) (by omega)
    exact hwhole.mono (Nat.le_refl (pos + 1)) (by omega)
  · rename_i text hbracket
    obtain ⟨hpos, hdrop⟩ := drop_of_getElem? hbracket
    rw [hdrop, outcome_primary_leftBracket]
    exact .error
  · rename_i token hparen hname hbracket htoken
    obtain ⟨hpos, hdrop⟩ := drop_of_getElem? htoken
    obtain ⟨kind, text⟩ := token
    rw [hdrop, outcome_primary_literal]
    · cases literal? ⟨kind, text⟩ with
      | none => exact .error
      | some value =>
        cases value with
        | error cause => exact .error
        | ok value => exact .ok (Nat.le_refl (pos + 1)) (by omega)
    · rintro rfl
      exact hparen text rfl
    · rintro rfl
      exact hname text rfl
    · rintro rfl
      exact hbracket text rfl

theorem lands_arguments (hparen : kindAt tokens pos = some .leftParen)
    (h : Agrees context tokens read .arguments pos) :
    Lands tokens (pos + 1) (max pos tokens.length)
      (outcome (arguments context (tokens.drop (pos + 1)))) (read .arguments pos) := by
  rw [kindAt_eq] at hparen
  rw [Agrees, ofReading, if_pos hparen, List.tail_drop] at h
  exact h

theorem lands_call (name : String) (hparen : kindAt tokens pos = some .leftParen)
    (h : Agrees context tokens read .arguments pos) (all : List Value → List Value) :
    Lands tokens pos (max pos tokens.length)
      (outcome (arguments context (tokens.drop (pos + 1))) >>= fun values =>
        callWith context name (all values.1, values.2))
      (read .arguments pos >>= fun values =>
        Attempt.ofResult (context.call name (all values.1)) >>= fun answer =>
          return (.boolean answer, values.2)) := by
  refine Lands.bind (lands_arguments hparen h) ?_
  intro values next hlow hhigh
  apply Lands.ofResult
  intro answer
  exact .ok (by omega) hhigh

theorem lands_referenceAt (name : String) (names : List String)
    (h : pos < tokens.length → Agrees context tokens read .arguments pos) :
    Lands tokens pos (max pos tokens.length)
      (referenceFrom context name (names, tokens.drop pos))
      (referenceAt context tokens (read .arguments) name names pos) := by
  rw [referenceAt]
  split
  · rename_i hcall
    obtain ⟨hnames, hparen⟩ := hcall
    obtain ⟨before, method, rfl⟩ := (List.eq_nil_or_concat names).resolve_left hnames
    obtain ⟨hpos, text, hdrop⟩ := drop_of_kindAt hparen
    rw [hdrop, List.concat_eq_append, referenceFrom_method, List.dropLast_concat,
      List.getLastD_concat]
    apply Lands.ofResult
    intro receiver
    exact lands_call method hparen (h hpos) (receiver :: ·)
  · rename_i hstop
    rw [kindAt_eq] at hstop
    rw [referenceFrom_variable hstop]
    cases context.lookup (path (name :: names)) with
    | error cause => exact .error
    | ok value => exact .ok (Nat.le_refl pos) (by omega)

theorem agrees_reference {name : String}
    (h : CallsAgree context tokens read (.reference name) pos) :
    Agrees context tokens (turn context tokens read) (.reference name) pos := by
  have harguments := h.here .arguments (by simp [Reading.rank])
  rw [Agrees, ofReading, turn]
  split
  · rename_i hparen
    obtain ⟨hpos, text, hdrop⟩ := drop_of_kindAt hparen
    rw [hdrop, outcome_reference_leftParen]
    exact lands_call name hparen harguments id
  · rename_i hstop
    rw [kindAt_eq] at hstop
    rw [outcome_reference hstop]
    refine Lands.bind (h.here .names (by simp [Reading.rank])) ?_
    intro names next (hlow : pos ≤ next) hhigh
    have hcall : next < tokens.length → Agrees context tokens read .arguments next := by
      intro hnext
      rcases Nat.eq_or_lt_of_le hlow with rfl | hlater
      · exact harguments
      · exact h.behind (by omega) .arguments next hlater
    exact (lands_referenceAt name names hcall).mono hlow (by omega)

theorem agrees_names (h : CallsAgree context tokens read .names pos) :
    Agrees context tokens (turn context tokens read) .names pos := by
  rw [Agrees, ofReading, turn]
  split
  · rename_i hdot
    obtain ⟨hpos, text, hdrop⟩ := drop_of_kindAt hdot
    rw [hdrop]
    split
    · rename_i name hname
      obtain ⟨hname, hdrop'⟩ := drop_of_getElem? hname
      rw [hdrop', outcome_moreNames_dot]
      have hothers := h.behind hpos .names (pos + 2) (by omega)
      exact (Lands.map hothers).mono (show pos ≤ pos + 2 by omega) (by omega)
    · rename_i hother
      have hstop : nextKind (tokens.drop (pos + 1)) ≠ some .identifier := by
        rw [← kindAt_eq]
        intro hname
        obtain ⟨⟨kind, name⟩, htoken, rfl⟩ := Option.map_eq_some_iff.mp hname
        exact hother name htoken
      rw [outcome_moreNames_error hstop, foundAt_eq]
      exact .error
  · rename_i hstop
    rw [kindAt_eq] at hstop
    rw [outcome_moreNames_stop hstop]
    exact .ok (Nat.le_refl pos) (by omega)

theorem agrees_arguments (h : CallsAgree context tokens read .arguments pos) :
    Agrees context tokens (turn context tokens read) .arguments pos := by
  rw [Agrees, ofReading, turn, kindAt_eq, foundAt_eq]
  split
  · rename_i hopen
    rw [← kindAt_eq] at hopen
    obtain ⟨hpos, -⟩ := drop_of_kindAt hopen
    rw [List.tail_drop]
    split
    · rename_i hclose
      obtain ⟨hnext, text, hdrop⟩ := drop_of_kindAt hclose
      rw [hdrop, outcome_arguments_none]
      exact .ok (show pos + 1 ≤ pos + 2 by omega) (by omega)
    · rename_i hclose
      rw [kindAt_eq] at hclose
      rw [outcome_arguments_some hclose]
      have hwhole := h.behind hpos .argumentsFrom (pos + 1) (by omega)
      exact hwhole.mono (show pos + 1 ≤ pos + 1 + 1 by omega) (by omega)
  · exact .error

theorem agrees_array (h : CallsAgree context tokens read .array pos) :
    Agrees context tokens (turn context tokens read) .array pos := by
  rw [Agrees, ofReading, turn, kindAt_eq tokens pos, foundAt_eq]
  split
  · rename_i hopen
    rw [← kindAt_eq] at hopen
    obtain ⟨hpos, text, hdrop⟩ := drop_of_kindAt hopen
    rw [hdrop]
    split
    · rename_i hclose
      obtain ⟨hnext, text', hdrop'⟩ := drop_of_kindAt hclose
      rw [hdrop', outcome_argument_emptyArray]
      exact .ok (show pos + 1 ≤ pos + 2 by omega) (by omega)
    · rename_i hclose
      rw [kindAt_eq] at hclose
      rw [outcome_argument_array hclose]
      have hitems := h.behind hpos .itemsFrom (pos + 1) (by omega)
      exact (Lands.map hitems).mono (show pos + 1 ≤ pos + 1 + 1 by omega) (by omega)
  · exact .error

theorem lands_elementsAt {close : TokenKind} {what : Expectation} (value : Value)
    {more : List Token → Except Cause (List Value × List Token)}
    {moreAt : Nat → Attempt (List Value × Nat)} (hclose : close ≠ .comma)
    (hmore : pos < tokens.length → Lands tokens (pos + 2) (max (pos + 1) tokens.length)
      (more (tokens.drop (pos + 1))) (moreAt (pos + 1))) :
    Lands tokens (pos + 1) (max pos tokens.length)
      (elementsFrom close what more (value, tokens.drop pos))
      (elementsAt tokens close what moreAt value pos) := by
  rw [elementsAt]
  split
  · rename_i hcomma
    obtain ⟨hpos, text, hdrop⟩ := drop_of_kindAt hcomma
    rw [hdrop, elementsFrom_comma]
    exact (Lands.map (hmore hpos)).mono (by omega) (by omega)
  · rename_i hcomma
    split
    · rename_i hend
      obtain ⟨hpos, text, hdrop⟩ := drop_of_kindAt hend
      rw [hdrop, elementsFrom_close hclose]
      exact .ok (Nat.le_refl (pos + 1)) (by omega)
    · rename_i hend
      rw [kindAt_eq] at hcomma hend
      rw [elementsFrom_stop hcomma hend, foundAt_eq]
      exact .error

theorem lands_argumentAt (harray : Agrees context tokens read .array pos)
    (hprimary : Agrees context tokens read .primary pos) :
    Lands tokens (pos + 1) (max pos tokens.length) (outcome (argument context (tokens.drop pos)))
      (argumentAt tokens (read .array) (read .primary) pos) := by
  rw [argumentAt, kindAt_eq]
  split
  · rename_i hopen
    rw [Agrees, ofReading, if_pos hopen] at harray
    exact harray
  · rename_i hopen
    rw [outcome_argument_primary hopen]
    exact hprimary

theorem agrees_argumentsFrom (h : CallsAgree context tokens read .argumentsFrom pos) :
    Agrees context tokens (turn context tokens read) .argumentsFrom pos := by
  rw [Agrees, ofReading, outcome_argumentsFrom, turn]
  have hfirst := lands_argumentAt (h.here .array (by decide)) (h.here .primary (by decide))
  refine Lands.bind hfirst ?_
  intro first next hlow hhigh
  refine Lands.mono (lands_elementsAt first (by decide) ?_)
    (show pos + 1 ≤ next + 1 by omega) (by omega)
  intro hnext
  exact h.behind (by omega) .argumentsFrom (next + 1) (by omega)

theorem agrees_itemsFrom (h : CallsAgree context tokens read .itemsFrom pos) :
    Agrees context tokens (turn context tokens read) .itemsFrom pos := by
  rw [Agrees, ofReading, outcome_itemsFrom, turn]
  refine Lands.bind (h.here .primary (by decide)) ?_
  intro first next (hlow : pos < next) hhigh
  refine Lands.mono (lands_elementsAt first (by decide) ?_)
    (show pos + 1 ≤ next + 1 by omega) (by omega)
  intro hnext
  exact h.behind (by omega) .itemsFrom (next + 1) (by omega)

theorem agrees_turn (reading : Reading) (h : CallsAgree context tokens read reading pos) :
    Agrees context tokens (turn context tokens read) reading pos := by
  cases reading with
  | disjunction => exact agrees_disjunction h
  | disjunctionFrom left => exact agrees_disjunctionFrom h
  | conjunction => exact agrees_conjunction h
  | conjunctionFrom left => exact agrees_conjunctionFrom h
  | negation => exact agrees_negation h
  | comparison => exact agrees_comparison h
  | primary => exact agrees_primary h
  | reference name => exact agrees_reference h
  | names => exact agrees_names h
  | arguments => exact agrees_arguments h
  | argumentsFrom => exact agrees_argumentsFrom h
  | array => exact agrees_array h
  | itemsFrom => exact agrees_itemsFrom h

end

/-- The calls open at once are at most five for each token that remains, and the rank besides. -/
theorem agrees_readAt (context : Context) (tokens : List Token) (depth : Nat) :
    ∀ (reading : Reading) (pos : Nat), 5 * (tokens.length - pos) + reading.rank ≤ depth →
      Agrees context tokens (readAt context tokens depth) reading pos := by
  induction depth with
  | zero =>
    intro reading pos hdepth
    have hrank := reading.rank_pos
    omega
  | succ depth ih =>
    intro reading pos hdepth
    have hcalls : CallsAgree context tokens (readAt context tokens depth) reading pos := by
      constructor
      · intro other hlower
        exact ih other pos (by omega)
      · intro hpos other next hnext
        -- A token less is worth five calls, which is enough for any rank.
        have hother := other.rank_le
        have hrank := reading.rank_pos
        exact ih other next (by omega)
    exact agrees_turn reading hcalls

theorem endAt_eq (tokens : List Token) (truth : Bool) (pos : Nat) :
    endAt tokens (truth, pos) = .ofResult (atEnd (truth, tokens.drop pos)) := by
  cases htoken : tokens[pos]? with
  | none =>
    rw [endAt, htoken, List.drop_eq_nil_of_le (List.getElem?_eq_none_iff.mp htoken)]
    rfl
  | some token =>
    obtain ⟨-, hdrop⟩ := drop_of_getElem? htoken
    rw [endAt, htoken, hdrop]
    rfl

theorem evaluateAt_eq (context : Context) (tokens : List Token) {depth : Nat}
    (hdepth : 5 * tokens.length + 5 ≤ depth) :
    evaluateAt context tokens depth = .ofResult (evaluate context tokens) := by
  rw [evaluateAt]
  split
  · rename_i hnil
    rw [hnil, evaluate_nil]
    rfl
  · rename_i hne
    have hwhole := agrees_readAt context tokens depth .disjunction 0 (by simpa [Reading.rank])
    rw [Agrees, List.drop_zero, ofReading] at hwhole
    rw [evaluate_of_ne_nil hne]
    generalize outcome (disjunction context tokens) = left at hwhole
    generalize readAt context tokens depth .disjunction 0 = cursor at hwhole
    cases hwhole with
    | error => rfl
    | ok hlow hhigh => exact endAt_eq tokens _ _

/-- Any reading of any tokens, from any position, ends with a value or with a failure, as soon as
five calls for each token that remains, and five more, may be open at once. Then it agrees with
the reading of what remains; a whole reading that has a value has moved on, and not beyond the
tokens. So an expression has a truth or a failure, however malformed it is. -/
theorem readings_move_on_and_end (context : Context) (tokens : List Token) :
    (∀ (reading : Reading) (pos depth : Nat), 5 * (tokens.length - pos) + 5 ≤ depth →
      (∃ value next,
        readAt context tokens depth reading pos = .ofResult (.ok (value, next)) ∧
        ofReading context reading (tokens.drop pos) = .ok (value, tokens.drop next) ∧
        pos ≤ next ∧ (reading.isWhole = true → pos < next ∧ next ≤ tokens.length)) ∨
      ∃ cause,
        readAt context tokens depth reading pos = .ofResult (.error cause) ∧
        ofReading context reading (tokens.drop pos) = .error cause) ∧
    ∀ depth, 5 * tokens.length + 5 ≤ depth →
      evaluateAt context tokens depth = .ofResult (evaluate context tokens) := by
  constructor
  · intro reading pos depth hdepth
    have hrank := reading.rank_le
    have hagrees := agrees_readAt context tokens depth reading pos (by omega)
    rw [Agrees] at hagrees
    generalize ofReading context reading (tokens.drop pos) = left at hagrees ⊢
    generalize readAt context tokens depth reading pos = cursor at hagrees ⊢
    cases hagrees with
    | error => exact .inr ⟨_, rfl, rfl⟩
    | ok hlow hhigh =>
      refine .inl ⟨_, _, rfl, rfl, by omega, ?_⟩
      intro hwhole
      rw [Reading.width, if_pos hwhole] at hlow
      omega
  · intro depth hdepth
    exact evaluateAt_eq context tokens hdepth

/-- No text is read as these tokens: a truth that is spelled otherwise, and a bracket that closes
nothing. -/
def strayBracket : List Token := [⟨.boolean, "maybe"⟩, ⟨.rightBracket, "]"⟩]

/-- A disjunction ends in front of the bracket, so the whole is no expression. -/
theorem strayBracket_readings :
    let context : Context := ⟨⟨[]⟩, .standard⟩
    5 * strayBracket.length + 5 ≤ 15 ∧
      outcome (disjunction context strayBracket) = .ok (false, strayBracket.drop 1) ∧
      evaluate context strayBracket = .error (.unexpectedToken "]") := by
  intro context
  have hdepth : 5 * strayBracket.length + 5 ≤ 15 := by decide
  obtain ⟨hreadings, hwhole⟩ := readings_move_on_and_end context strayBracket
  have hcursor : readAt context strayBracket 15 .disjunction 0 = .ofResult (.ok (false, 1)) := by rfl
  have hreading : outcome (disjunction context strayBracket) = .ok (false, strayBracket.drop 1) := by
    obtain ⟨value, next, hread, hvalue, -⟩ | ⟨cause, hread, -⟩ :=
      hreadings .disjunction 0 15 hdepth
    · rw [hcursor] at hread
      cases hread
      exact hvalue
    · rw [hcursor] at hread
      cases hread
  have htruth : evaluateAt context strayBracket 15 = .ofResult (.error (.unexpectedToken "]")) := by
    rfl
  have hevaluate := hwhole 15 hdepth
  rw [htruth] at hevaluate
  exact ⟨hdepth, hreading, (Option.some.inj hevaluate).symm⟩

end CondDoc.Expression
