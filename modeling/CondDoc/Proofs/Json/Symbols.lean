import CondDoc.Proofs.Json.Text

namespace CondDoc.Json

namespace Symbol

/-- A symbol stands at the start of a text, in front of the rest. -/
def StandsAt (symbol : Symbol) (cs rest : List Char) : Prop :=
  ∃ c tail, cs = c :: tail ∧ isSpace c = false ∧ reading (next? c tail) = some (symbol, rest)

theorem list?_eq (cs : List Char) : list? cs =
    match cs.dropWhile isSpace with
    | [] => some []
    | c :: rest =>
      (reading (next? c rest)).bind fun read => (list? read.2).map (read.1 :: ·) := by
  rw [list?]
  split
  · next heq => rw [heq]
  · next c rest heq =>
    cases hnext : next? c rest with
    | none => simp [heq, hnext]
    | some step =>
      cases hmore : list? step.rest with
      | none => simp [heq, hnext, hmore]
      | some more => simp [heq, hnext, hmore]

theorem list?_of_standsAt {symbol : Symbol} {cs rest : List Char} (h : StandsAt symbol cs rest) :
    list? cs = (list? rest).map (symbol :: ·) := by
  obtain ⟨c, tail, rfl, hspace, hread⟩ := h
  rw [list?_eq, List.dropWhile_cons, hspace, if_neg Bool.false_ne_true]
  simp only [hread, Option.bind_some]

theorem list?_append_of_space {spaces : List Char} (h : ∀ c ∈ spaces, isSpace c = true)
    (rest : List Char) : list? (spaces ++ rest) = list? rest := by
  rw [list?_eq, List.dropWhile_append_of_pos h, ← list?_eq]

theorem isSpace_of_isDigit {c : Char} (h : c.isDigit = true) : isSpace c = false := by
  cases hspace : isSpace c with
  | false => rfl
  | true =>
    simp only [isSpace, Bool.or_eq_true, beq_iff_eq] at hspace
    rcases hspace with ((rfl | rfl) | rfl) | rfl
    · cases h
    · cases h
    · cases h
    · cases h

theorem find?_fixed_of_isDigit {c : Char} (h : c.isDigit = true) (rest : List Char) :
    fixed.find? (fun entry => entry.1.isPrefixOf (c :: rest)) = none := by
  have hfirst : ∀ entry ∈ fixed, entry.1.head?.any (fun first => !first.isDigit) = true := by
    decide
  rw [List.find?_eq_none]
  intro entry hentry hstart
  have hany := hfirst entry hentry
  cases hword : entry.1 with
  | nil =>
    rw [hword] at hany
    cases hany
  | cons first others =>
    rw [hword] at hany hstart
    rw [List.isPrefixOf_cons_cons, Bool.and_eq_true, beq_iff_eq] at hstart
    rw [List.head?_cons, Option.any_some, hstart.1, h] at hany
    cases hany

theorem find?_fixed_of_minus {c : Char} (h : c.isDigit = true) (rest : List Char) :
    fixed.find? (fun entry => entry.1.isPrefixOf ('-' :: c :: rest)) = none := by
  have hne : ('I' == c) = false := by
    rw [beq_eq_false_iff_ne]
    rintro rfl
    cases h
  simp [fixed, List.isPrefixOf, hne]

theorem standsAt_numeral {whole fraction text rest : List Char} {exponent : Option Int}
    (h : IsNumeral whole fraction exponent text) (hrest : Stops isNumeral rest)
    (negative : Bool) :
    StandsAt (numeral negative whole fraction exponent)
      (Number.signChars negative ++ text ++ rest) rest := by
  have hread := reading_number? h hrest negative
  obtain ⟨first, others, rfl, hfirst⟩ := exists_of_isNumeral h
  cases negative with
  | true =>
    refine ⟨'-', first :: (others ++ rest), rfl, by decide, ?_⟩
    rw [next?, find?_fixed_of_minus hfirst]
    exact hread
  | false =>
    refine ⟨first, others ++ rest, rfl, isSpace_of_isDigit hfirst, ?_⟩
    have hquote : first ≠ '\x22' := by
      rintro rfl
      cases hfirst
    rw [next?, find?_fixed_of_isDigit hfirst]
    simp only [if_neg hquote]
    exact hread

theorem standsAt_integer (n : Int) {rest : List Char} (hrest : Stops isNumeral rest) :
    StandsAt (.integer n) (Number.integerChars n ++ rest) rest := by
  have h := standsAt_numeral (isNumeral_toDigits n.natAbs) hrest (n < 0)
  have hchars : Number.integerChars n =
      Number.signChars (n < 0) ++ Nat.toDigits 10 n.natAbs := by
    by_cases hsign : n < 0
    · simp [Number.integerChars, Number.signChars, hsign]
    · simp [Number.integerChars, Number.signChars, hsign]
  rwa [numeral_toDigits, ← hchars] at h

theorem standsAt_number (x : Number) {rest : List Char} (hrest : Stops isNumeral rest) :
    StandsAt (.number x) (encodeNumber x ++ rest) rest := by
  cases x with
  | nan => exact ⟨_, _, rfl, by decide, rfl⟩
  | infinite negative =>
    cases negative with
    | true => exact ⟨_, _, rfl, by decide, rfl⟩
    | false => exact ⟨_, _, rfl, by decide, rfl⟩
  | finite negative size =>
    change StandsAt _ (Number.signChars negative ++ Number.sizeChars size ++ rest) rest
    by_cases hzero : size.units = 0
    · have hpoint : IsPoint ['0'] ['.', '0'] := .some (List.all_eq_true.1 (by decide))
      have h := standsAt_numeral (.mk .zero hpoint .none) hrest negative
      have hvalue : numeral negative ['0'] ['0'] none = .number (.finite negative .zero) :=
        congrArg Symbol.number (Number.ofDecimal_zero negative (-1))
      rw [hvalue, ← Magnitude.eq_zero hzero] at h
      rwa [Number.sizeChars, if_pos hzero]
    · obtain ⟨whole, fraction, exponent, hnumeral, hvalue⟩ :=
        denotes_chars (Magnitude.shortest_digits_ne hzero)
      have h := standsAt_numeral hnumeral hrest negative
      rw [hvalue, Magnitude.ofDecimal_shortest negative hzero] at h
      rwa [Number.sizeChars, if_neg hzero]

theorem standsAt_text (ascii : Bool) (s : String) (rest : List Char) :
    StandsAt (.text s) (encodeText ascii s ++ rest) rest := by
  obtain ⟨step, hstep, hvalue, hrest⟩ := exists_of_reading (reading_text? ascii s rest)
  refine ⟨'\x22', s.toList.flatMap (encodeChar ascii) ++ '\x22' :: rest, ?_, by decide, ?_⟩
  · simp [encodeText]
  · change reading ((text? _).map _) = _
    rw [hstep]
    simp [hvalue, hrest]

theorem list?_mark {c : Char} {symbol : Symbol} {rest : List Char} (hspace : isSpace c = false)
    (hread : reading (next? c rest) = some (symbol, rest)) :
    list? (c :: rest) = (list? rest).map (symbol :: ·) :=
  list?_of_standsAt ⟨c, rest, rfl, hspace, hread⟩

end Symbol

open Json.Symbol

theorem list?_line (layout : Layout) (level : Nat) (rest : List Char) :
    list? (layout.line level ++ rest) = list? rest := by
  apply list?_append_of_space
  unfold Layout.line
  split
  · simp
  · intro c hc
    rcases List.mem_cons.1 hc with rfl | hc
    · rfl
    · rw [List.eq_of_mem_replicate hc]
      rfl

theorem list?_line_mark (layout : Layout) (level : Nat) {c : Char} {symbol : Symbol}
    {rest : List Char} (hspace : isSpace c = false)
    (hread : reading (next? c rest) = some (symbol, rest)) :
    list? (layout.line level ++ c :: rest) = (list? rest).map (symbol :: ·) := by
  rw [list?_line]
  exact list?_mark hspace hread

theorem list?_colon (layout : Layout) (rest : List Char) :
    list? (layout.colon ++ rest) = (list? rest).map (.colon :: ·) := by
  unfold Layout.colon
  split
  · have hspaces : ∀ c ∈ [' '], isSpace c = true := List.all_eq_true.1 (by decide)
    rw [← list?_append_of_space hspaces rest]
    exact list?_mark (by decide) rfl
  · exact list?_mark (by decide) rfl

theorem stops_line (layout : Layout) (level : Nat) {rest : List Char}
    (hrest : Stops isNumeral rest) : Stops isNumeral (layout.line level ++ rest) := by
  unfold Layout.line
  split
  · exact hrest
  · exact Stops.cons_iff.2 (by decide)

theorem stops_encodeItems (layout : Layout) (level : Nat) (items : List Json) {rest : List Char}
    (hrest : Stops isNumeral rest) : Stops isNumeral (encodeItems layout level items ++ rest) := by
  cases items with
  | nil => exact hrest
  | cons item items =>
    rw [encodeItems]
    exact Stops.cons_iff.2 (by decide)

theorem stops_encodeEntries (layout : Layout) (level : Nat) (entries : List (String × Json))
    {rest : List Char} (hrest : Stops isNumeral rest) :
    Stops isNumeral (encodeEntries layout level entries ++ rest) := by
  cases entries with
  | nil => exact hrest
  | cons entry entries =>
    rw [encodeEntries]
    exact Stops.cons_iff.2 (by decide)

mutual

/-- The symbols that a value is written with. -/
def symbols : Json → List Symbol
  | .null => [.null]
  | .boolean b => [.boolean b]
  | .integer n => [.integer n]
  | .number x => [.number x]
  | .text s => [.text s]
  | .array [] => [.leftBracket, .rightBracket]
  | .array (item :: items) =>
    .leftBracket :: (symbols item ++ (itemSymbols items ++ [.rightBracket]))
  | .object [] => [.leftBrace, .rightBrace]
  | .object ((name, value) :: entries) =>
    .leftBrace :: .text name :: .colon ::
      (symbols value ++ (entrySymbols entries ++ [.rightBrace]))

/-- The symbols of the items after the first one. -/
def itemSymbols : List Json → List Symbol
  | [] => []
  | item :: items => .comma :: (symbols item ++ itemSymbols items)

/-- The symbols of the entries after the first one. -/
def entrySymbols : List (String × Json) → List Symbol
  | [] => []
  | (name, value) :: entries =>
    .comma :: .text name :: .colon :: (symbols value ++ entrySymbols entries)

end

mutual

/-- Whatever the layout, the text of a value consists of its symbols. -/
theorem list?_encode (layout : Layout) (level : Nat) (json : Json) (rest : List Char)
    (hrest : Stops isNumeral rest) :
    list? (encode layout level json ++ rest) = (list? rest).map (symbols json ++ ·) := by
  match json with
  | .null => exact list?_of_standsAt ⟨_, _, rfl, by decide, rfl⟩
  | .boolean true => exact list?_of_standsAt ⟨_, _, rfl, by decide, rfl⟩
  | .boolean false => exact list?_of_standsAt ⟨_, _, rfl, by decide, rfl⟩
  | .integer n => exact list?_of_standsAt (standsAt_integer n hrest)
  | .number x => exact list?_of_standsAt (standsAt_number x hrest)
  | .text s => exact list?_of_standsAt (standsAt_text layout.ascii s rest)
  | .array [] =>
    have hopen : list? ('[' :: ']' :: rest) = _ := list?_mark (by decide) rfl
    have hclose : list? (']' :: rest) = _ := list?_mark (by decide) rfl
    rw [encode, List.cons_append, List.cons_append, List.nil_append, hopen, hclose, Option.map_map]
    rfl
  | .array (item :: items) =>
    have hstop : Stops isNumeral (layout.line level ++ ']' :: rest) :=
      stops_line layout level (Stops.cons_iff.2 (by decide))
    have hclose : list? (layout.line level ++ ']' :: rest) = _ :=
      list?_line_mark layout level (by decide) rfl
    have hitems := list?_encodeItems layout (level + 1) items _ hstop
    have hitem := list?_encode layout (level + 1) item _
      (stops_encodeItems layout (level + 1) items hstop)
    simp only [encode, List.cons_append, List.append_assoc, List.nil_append]
    rw [list?_mark (by decide) rfl, list?_line, hitem, hitems, hclose]
    cases list? rest with
    | none => rfl
    | some others => simp [symbols]
  | .object [] =>
    have hopen : list? ('\x7b' :: '\x7d' :: rest) = _ := list?_mark (by decide) rfl
    have hclose : list? ('\x7d' :: rest) = _ := list?_mark (by decide) rfl
    rw [encode, List.cons_append, List.cons_append, List.nil_append, hopen, hclose, Option.map_map]
    rfl
  | .object ((name, value) :: entries) =>
    have hstop : Stops isNumeral (layout.line level ++ '\x7d' :: rest) :=
      stops_line layout level (Stops.cons_iff.2 (by decide))
    have hclose : list? (layout.line level ++ '\x7d' :: rest) = _ :=
      list?_line_mark layout level (by decide) rfl
    have hentries := list?_encodeEntries layout (level + 1) entries _ hstop
    have hvalue := list?_encode layout (level + 1) value _
      (stops_encodeEntries layout (level + 1) entries hstop)
    simp only [encode, List.cons_append, List.append_assoc, List.nil_append]
    rw [list?_mark (by decide) rfl, list?_line, list?_of_standsAt (standsAt_text _ name _),
      list?_colon, hvalue, hentries, hclose]
    cases list? rest with
    | none => rfl
    | some others => simp [symbols]

theorem list?_encodeItems (layout : Layout) (level : Nat) (items : List Json) (rest : List Char)
    (hrest : Stops isNumeral rest) :
    list? (encodeItems layout level items ++ rest) = (list? rest).map (itemSymbols items ++ ·) := by
  match items with
  | [] => exact Option.map_id'.symm
  | item :: items =>
    have hitems := list?_encodeItems layout level items rest hrest
    have hitem := list?_encode layout level item _ (stops_encodeItems layout level items hrest)
    simp only [encodeItems, List.cons_append, List.append_assoc]
    rw [list?_mark (by decide) rfl, list?_line, hitem, hitems]
    cases list? rest with
    | none => rfl
    | some others => simp [itemSymbols]

theorem list?_encodeEntries (layout : Layout) (level : Nat) (entries : List (String × Json))
    (rest : List Char) (hrest : Stops isNumeral rest) :
    list? (encodeEntries layout level entries ++ rest) =
      (list? rest).map (entrySymbols entries ++ ·) := by
  match entries with
  | [] => exact Option.map_id'.symm
  | (name, value) :: entries =>
    have hentries := list?_encodeEntries layout level entries rest hrest
    have hvalue := list?_encode layout level value _
      (stops_encodeEntries layout level entries hrest)
    simp only [encodeEntries, List.cons_append, List.append_assoc]
    rw [list?_mark (by decide) rfl, list?_line, list?_of_standsAt (standsAt_text _ name _),
      list?_colon, hvalue, hentries]
    cases list? rest with
    | none => rfl
    | some others => simp [entrySymbols]

end

end CondDoc.Json
