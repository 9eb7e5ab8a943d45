import CondDoc.Proofs.Document.Scan

namespace CondDoc

namespace Scan

/-- The lines on which the open blocks begin, innermost first. -/
def starts (scan : Scan) : List Nat := scan.opened.map (·.start)

/-- What one more line does to a scan, as far as lines are concerned: it leaves the blocks as they
are, begins a block or ends the innermost one. -/
inductive Moved (scan next : Scan) : Prop where
  | stays : next.starts = scan.starts → next.found = scan.found → Moved scan next
  | opens : next.starts = (scan.line + 1) :: scan.starts → next.found = scan.found →
      Moved scan next
  | closes {start : Nat} {branches : List Branch} : scan.starts = start :: next.starts →
      next.found = scan.found ++ [⟨start, (scan.line + 1 : Nat), branches⟩] → Moved scan next

/-- A failure on a line, and not at the end. -/
structure FailsOn (line : Nat) (failure : Failure) : Prop where
  line : failure.line = some (line : Int)
  failureClass : failure.failureClass = .directive ∨ failure.failureClass = .expression
  cause : failure.cause ≠ .unclosed

theorem yields_extend_start (block : OpenBlock) (tag : Tag) (guard : Guard) (line : Nat) :
    Yields (FailsOn line) (fun extended => extended.start = block.start)
      (block.extend tag guard line) := by
  unfold OpenBlock.extend
  split
  · exact .error ⟨rfl, .inl rfl, by simp⟩
  · exact .ok rfl

/-- A step fails on the line that it reads, or it moves on by this line. -/
theorem yields_moved (maxNesting : Nat) (scan : Scan) (directive : Option Directive) :
    Yields (FailsOn (scan.line + 1)) (fun next => next.line = scan.line + 1 ∧ scan.Moved next)
      (step maxNesting scan directive) := by
  obtain ⟨line, opened, found⟩ := scan
  cases directive with
  | none => exact .ok ⟨rfl, .stays rfl rfl⟩
  | some directive =>
    cases directive with
    | ifStart condition =>
      dsimp only [step]
      split
      · exact .error ⟨rfl, .inl rfl, by simp⟩
      split
      · exact .error ⟨rfl, .inr rfl, by simp⟩
      · exact .ok ⟨rfl, .opens rfl rfl⟩
    | elseIf condition =>
      cases opened with
      | nil => exact .error ⟨rfl, .inl rfl, by simp⟩
      | cons block outer =>
        dsimp only [step]
        split
        · exact .error ⟨rfl, .inr rfl, by simp⟩
        · apply (yields_extend_start block _ _ _).bind
          intro extended _ hstart
          exact .ok ⟨rfl, .stays (congrArg (· :: _) hstart) rfl⟩
    | otherwise =>
      cases opened with
      | nil => exact .error ⟨rfl, .inl rfl, by simp⟩
      | cons block outer =>
        apply (yields_extend_start block _ _ _).bind
        intro extended _ hstart
        exact .ok ⟨rfl, .stays (congrArg (· :: _) hstart) rfl⟩
    | close =>
      cases opened with
      | nil => exact .error ⟨rfl, .inl rfl, by simp⟩
      | cons block outer => exact .ok ⟨rfl, .closes rfl rfl⟩

variable {maxNesting : Nat} {scan next result : Scan} {directive : Option Directive}
  {directives : List (Option Directive)}

theorem moved_of_step (h : step maxNesting scan directive = .ok next) :
    next.line = scan.line + 1 ∧ scan.Moved next := by
  have hmoved := yields_moved maxNesting scan directive
  rw [h] at hmoved
  cases hmoved with
  | ok hmoved => exact hmoved

/-- What every step preserves holds after a run. -/
theorem run_induction {Invariant : Scan → Prop}
    (hstep : ∀ scan next : Scan, Invariant scan → next.line = scan.line + 1 → scan.Moved next →
      Invariant next)
    (hrun : run maxNesting scan directives = .ok result) (h : Invariant scan) :
    Invariant result := by
  induction directives generalizing scan with
  | nil =>
    obtain rfl := run_nil_eq_ok_iff.1 hrun
    exact h
  | cons directive directives ih =>
    rw [run_cons, bind_eq_ok_iff] at hrun
    obtain ⟨next, hnext, hrun⟩ := hrun
    obtain ⟨hline, hmoved⟩ := moved_of_step hnext
    exact ih hrun (hstep scan next h hline hmoved)

theorem line_of_run (hrun : run maxNesting scan directives = .ok result) :
    result.line = scan.line + directives.length := by
  induction directives generalizing scan with
  | nil =>
    obtain rfl := run_nil_eq_ok_iff.1 hrun
    rfl
  | cons directive directives ih =>
    rw [run_cons, bind_eq_ok_iff] at hrun
    obtain ⟨next, hnext, hrun⟩ := hrun
    rw [ih hrun, (moved_of_step hnext).1, List.length_cons]
    omega

/-- A run that fails does so on one of the lines, and gets through the lines in front of it. -/
theorem exists_of_run_eq_error {failure : Failure}
    (h : run maxNesting scan directives = .error failure) :
    ∃ n next, n < directives.length ∧ run maxNesting scan (directives.take n) = .ok next ∧
      run maxNesting scan (directives.take (n + 1)) = .error failure ∧
      FailsOn (scan.line + n + 1) failure := by
  induction directives generalizing scan with
  | nil => cases h
  | cons directive directives ih =>
    rw [run_cons] at h
    cases hstep : step maxNesting scan directive with
    | error failure' =>
      rw [hstep] at h
      cases h
      have hfails := (yields_moved maxNesting scan directive).failed_of_eq hstep
      refine ⟨0, scan, Nat.succ_pos _, rfl, ?_, hfails⟩
      rw [List.take_succ_cons, run_cons, hstep]
      rfl
    | ok next =>
      rw [hstep, ok_bind] at h
      obtain ⟨n, later, hn, hread, herror, hfails⟩ := ih h
      rw [(moved_of_step hstep).1] at hfails
      refine ⟨n + 1, later, Nat.succ_lt_succ hn, ?_, ?_, ?_⟩
      · rw [List.take_succ_cons, run_cons, hstep, ok_bind, hread]
      · rw [List.take_succ_cons, run_cons, hstep, ok_bind, herror]
      · have hline : scan.line + 1 + n + 1 = scan.line + (n + 1) + 1 := by omega
        rwa [hline] at hfails

/-- No line behind mends a failure. -/
theorem run_eq_error_of_prefix {failure : Failure} {longer : List (Option Directive)}
    (h : run maxNesting scan directives = .error failure) (hlonger : directives <+: longer) :
    run maxNesting scan longer = .error failure := by
  obtain ⟨behind, rfl⟩ := hlonger
  rw [run_append, h]
  rfl

/-- A block that begins inside another one begins behind it, and no block begins or ends on a line
that is still to be read. -/
structure Timely (scan : Scan) : Prop where
  ordered : scan.starts.Pairwise (· > ·)
  begun : ∀ start ∈ scan.starts, start ≤ scan.line
  ended : ∀ block ∈ scan.found, block.stop ≤ scan.line

theorem timely_start : start.Timely :=
  ⟨.nil, fun _ h => absurd h List.not_mem_nil, fun _ h => absurd h List.not_mem_nil⟩

theorem Timely.step (h : scan.Timely) (hline : next.line = scan.line + 1)
    (hmoved : scan.Moved next) : next.Timely := by
  have hended : ∀ block ∈ scan.found, block.stop ≤ next.line := by
    intro block hblock
    have := h.ended block hblock
    omega
  cases hmoved with
  | stays hstarts hfound =>
    refine ⟨hstarts ▸ h.ordered, ?_, hfound ▸ hended⟩
    intro start hstart
    have := h.begun start (hstarts ▸ hstart)
    omega
  | opens hstarts hfound =>
    have hlater : ∀ start ∈ scan.starts, scan.line + 1 > start :=
      fun start hstart => Nat.lt_succ_of_le (h.begun start hstart)
    refine ⟨?_, ?_, hfound ▸ hended⟩
    · rw [hstarts]
      exact .cons hlater h.ordered
    · rw [hstarts, hline]
      refine List.forall_mem_cons.2 ⟨Nat.le_refl _, ?_⟩
      exact fun start hstart => Nat.le_of_lt (hlater start hstart)
  | closes hstarts hfound =>
    have hordered := h.ordered
    have hbegun := h.begun
    rw [hstarts] at hordered hbegun
    refine ⟨hordered.of_cons, ?_, ?_⟩
    · intro start hstart
      have := hbegun start (List.mem_cons_of_mem _ hstart)
      omega
    · rw [hfound]
      refine List.forall_mem_append.2 ⟨hended, List.forall_mem_singleton.2 ?_⟩
      exact Int.ofNat_le.2 (Nat.le_of_eq hline.symm)

theorem Timely.run (h : scan.Timely) (hrun : Scan.run maxNesting scan directives = .ok result) :
    result.Timely :=
  run_induction (fun _ _ => Timely.step) hrun h

/-- What has become of a scan further down. The blocks that were open are so still or have ended
since; the blocks that have been found since were open before or have begun since. -/
structure Later (scan next : Scan) : Prop where
  line : scan.line ≤ next.line
  kept : ∀ start ∈ scan.starts,
    start ∈ next.starts ∨ ∃ block ∈ next.found, block.start = start ∧ (scan.line : Int) < block.stop
  opened : ∀ start ∈ next.starts, start ∈ scan.starts ∨ scan.line < start
  found : ∀ block ∈ next.found, block ∈ scan.found ∨
    ∃ start : Nat, block.start = start ∧ (start ∈ scan.starts ∨ scan.line < start)

theorem Later.refl (scan : Scan) : scan.Later scan :=
  ⟨Nat.le_refl _, fun _ h => .inl h, fun _ h => .inl h, fun _ h => .inl h⟩

theorem Later.step {later : Scan} (h : scan.Later next) (hline : later.line = next.line + 1)
    (hmoved : next.Moved later) : scan.Later later := by
  have hfurther : scan.line ≤ later.line := by
    have := h.line
    omega
  cases hmoved with
  | stays hstarts hfound =>
    exact ⟨hfurther, hstarts ▸ hfound ▸ h.kept, hstarts ▸ h.opened, hfound ▸ h.found⟩
  | opens hstarts hfound =>
    refine ⟨hfurther, ?_, ?_, hfound ▸ h.found⟩
    · rw [hstarts, hfound]
      exact fun start hstart => (h.kept start hstart).imp_left (List.mem_cons_of_mem _)
    · rw [hstarts]
      exact List.forall_mem_cons.2 ⟨.inr (Nat.lt_succ_of_le h.line), h.opened⟩
  | @closes closed branches hstarts hfound =>
    have hopened := h.opened
    rw [hstarts] at hopened
    obtain ⟨hclosed, hopened⟩ := List.forall_mem_cons.1 hopened
    refine ⟨hfurther, ?_, hopened, ?_⟩
    · intro start hstart
      rw [hfound]
      rcases h.kept start hstart with hkept | ⟨block, hblock, hfound⟩
      · rw [hstarts] at hkept
        rcases List.mem_cons.1 hkept with rfl | hkept
        · refine .inr ⟨_, List.mem_append_right _ List.mem_cons_self, rfl, ?_⟩
          exact Int.ofNat_lt.2 (Nat.lt_succ_of_le h.line)
        · exact .inl hkept
      · exact .inr ⟨block, List.mem_append_left _ hblock, hfound⟩
    · rw [hfound]
      exact List.forall_mem_append.2
        ⟨h.found, List.forall_mem_singleton.2 (.inr ⟨closed, rfl, hclosed⟩)⟩

theorem Later.run (hrun : Scan.run maxNesting scan directives = .ok result) : scan.Later result :=
  run_induction (fun _ _ => Later.step) hrun (Later.refl scan)

end Scan

/-- A block that has begun by the end of some lines and has not ended there. -/
def Block.OpenAfter (block : Block) (line : Nat) : Prop :=
  block.start ≤ line ∧ (line : Int) < block.stop

/-- The blocks that have been open are those which span the end of the lines that were read. -/
theorem Scan.Later.mem_starts_iff {scan result : Scan} (h : scan.Later result)
    (htimely : scan.Timely) (hclosed : result.opened = []) (start : Nat) :
    start ∈ scan.starts ↔
      ∃ block ∈ result.found, block.start = start ∧ block.OpenAfter scan.line := by
  constructor
  · intro hstart
    rcases h.kept start hstart with hkept | ⟨block, hblock, hbegins, hends⟩
    · rw [starts, hclosed] at hkept
      cases hkept
    · have hbegun := htimely.begun start hstart
      exact ⟨block, hblock, hbegins, by rw [hbegins]; exact Int.ofNat_le.2 hbegun, hends⟩
  · rintro ⟨block, hblock, hbegins, hbegun, hends⟩
    rcases h.found block hblock with hearlier | ⟨start', hstart', hopened⟩
    · have := htimely.ended block hearlier
      omega
    · obtain rfl : start' = start := by omega
      rcases hopened with hopened | hlater
      · exact hopened
      · omega

end CondDoc
