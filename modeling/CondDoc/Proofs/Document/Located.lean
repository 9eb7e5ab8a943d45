import CondDoc.Proofs.Document.Balanced
import CondDoc.Proofs.Document.Progress
import CondDoc.Proofs.Document.Render
import CondDoc.Proofs.Document.Shape
import CondDoc.Proofs.Expression.Failures

namespace CondDoc

/-- A failure that blames one of the directives that are listed. -/
structure Failure.Blames (sites : List (Int × Directive)) (failure : Failure) : Prop where
  failureClass : failure.failureClass = .directive ∨ failure.failureClass = .expression
  line : ∃ site ∈ sites, failure.line = some site.1

/-- A scan whose open blocks begin with directives that are listed. -/
def Scan.Started (sites : List (Int × Directive)) (scan : Scan) : Prop :=
  ∀ block ∈ scan.opened, ∃ directive, ((block.start : Int), directive) ∈ sites

section

variable {sites : List (Int × Directive)}

theorem Scan.started_iff {scan : Scan} :
    scan.Started sites ↔ ∀ start ∈ scan.starts, ∃ directive, ((start : Int), directive) ∈ sites := by
  rw [starts, List.forall_mem_map]
  rfl

theorem Scan.Started.moved {scan next : Scan} (h : scan.Started sites) (hmoved : scan.Moved next)
    (hsite : ∃ directive, (((scan.line + 1 : Nat) : Int), directive) ∈ sites) :
    next.Started sites := by
  rw [started_iff] at h ⊢
  cases hmoved with
  | stays hstarts _ => rwa [hstarts]
  | opens hstarts _ =>
    rw [hstarts]
    exact List.forall_mem_cons.2 ⟨hsite, h⟩
  | closes hstarts _ =>
    rw [hstarts] at h
    exact (List.forall_mem_cons.1 h).2

/-- A step fails on account of the directive it reads, which also begins the block it may open. -/
theorem Scan.yields_step (maxNesting : Nat) {scan : Scan} (hstarted : scan.Started sites)
    {directive : Option Directive}
    (hsite : ∀ d, directive = some d → (((scan.line + 1 : Nat) : Int), d) ∈ sites) :
    Yields (Failure.Blames sites) (fun next => next.line = scan.line + 1 ∧ next.Started sites)
      (step maxNesting scan directive) := by
  cases directive with
  | none => exact .ok ⟨rfl, hstarted⟩
  | some directive =>
    have hsite := hsite directive rfl
    apply (yields_moved maxNesting scan (some directive)).imp
    · exact fun failure hfails => ⟨hfails.failureClass, _, hsite, hfails.line⟩
    · exact fun next hmoved => ⟨hmoved.1, hstarted.moved hmoved.2 ⟨directive, hsite⟩⟩

theorem mem_numbered (read : List (Option Directive)) (directive : Directive)
    (rest : List (Option Directive)) :
    (((read.length + 1 : Nat) : Int), directive) ∈ numbered 0 (read ++ some directive :: rest) := by
  rw [numbered_append, Nat.zero_add]
  exact List.mem_append_right _ List.mem_cons_self

theorem Scan.yields_run (maxNesting : Nat) (read rest : List (Option Directive)) {scan : Scan}
    (hline : scan.line = read.length) (hstarted : scan.Started (numbered 0 (read ++ rest))) :
    Yields (Failure.Blames (numbered 0 (read ++ rest))) (Started (numbered 0 (read ++ rest)))
      (run maxNesting scan rest) := by
  induction rest generalizing read scan with
  | nil => exact .ok hstarted
  | cons directive rest ih =>
    rw [run_cons]
    have hsite : ∀ d, directive = some d →
        (((scan.line + 1 : Nat) : Int), d) ∈ numbered 0 (read ++ directive :: rest) := by
      rintro d rfl
      rw [hline]
      exact mem_numbered read d rest
    apply (yields_step maxNesting hstarted hsite).bind
    intro next _ hnext
    obtain ⟨hnextLine, hnextStarted⟩ := hnext
    rw [List.append_cons] at hnextStarted ⊢
    exact ih (read ++ [directive]) (by rw [hnextLine, hline, List.length_append]; rfl) hnextStarted

end

/-- A scan that fails blames a directive; one that ends too early blames the opening of a block. -/
theorem yields_blocks (options : Options) (text : String) :
    Yields (Failure.Blames (numbered 0 (directives options.parseFences (Text.lines text))))
      (fun _ => True) (blocks options text) := by
  have hstart : Scan.start.Started
      (numbered 0 ([] ++ directives options.parseFences (Text.lines text))) :=
    fun _ h => absurd h List.not_mem_nil
  apply (Scan.yields_run options.maxNesting [] _ rfl hstart).bind
  intro scan _ hstarted
  unfold Scan.finish
  split
  · exact .ok trivial
  · next block outer hopened =>
    obtain ⟨directive, hsite⟩ := hstarted block (hopened ▸ List.mem_cons_self)
    exact .error ⟨.inl rfl, _, hsite, rfl⟩

section

variable {context : Expression.Context}

theorem yields_choose (branches : List Branch) :
    Yields (fun failure => ∃ branch ∈ branches, branch.holds context = .error failure)
      (fun _ => True) (choose context branches) := by
  induction branches with
  | nil => exact .ok trivial
  | cons branch others ih =>
    rw [choose]
    cases hholds : branch.holds context with
    | error failure => exact .error ⟨branch, List.mem_cons_self, hholds⟩
    | ok answer =>
      cases answer with
      | true => exact .ok trivial
      | false =>
        change Yields _ _ (choose context others >>= _)
        cases hothers : choose context others with
        | ok result => exact .ok trivial
        | error failure =>
          obtain ⟨failing, hmem, hfailing⟩ := ih.failed_of_eq hothers
          exact .error ⟨failing, List.mem_cons_of_mem _ hmem, hfailing⟩

/-- Deciding fails only where the condition of a branch does. -/
theorem yields_decideAll (blocks : List Block) :
    Yields (fun failure => ∃ block ∈ blocks, ∃ branch ∈ block.branches,
      branch.holds context = .error failure) (fun _ => True) (decideAll context blocks) := by
  induction blocks with
  | nil => exact .ok trivial
  | cons block others ih =>
    rw [decideAll, Block.select]
    cases hchoose : choose context block.branches with
    | error failure =>
      exact .error ⟨block, List.mem_cons_self, (yields_choose _).failed_of_eq hchoose⟩
    | ok chosen =>
      change Yields _ _ (decideAll context others >>= _)
      cases hothers : decideAll context others with
      | ok decisions => exact .ok trivial
      | error failure =>
        obtain ⟨failing, hmem, hfailing⟩ := ih.failed_of_eq hothers
        exact .error ⟨failing, List.mem_cons_of_mem _ hmem, hfailing⟩

/-- A branch fails as its expression does by itself, and says where it stands. -/
theorem exists_of_holds_eq_error {branch : Branch} {failure : Failure}
    (h : branch.holds context = .error failure) :
    ∃ expression cause, branch.guard.expression? = some expression ∧
      Expression.evaluateText context expression = .error cause ∧ cause.InExpression ∧
      failure = ⟨cause, some branch.start, some expression⟩ := by
  cases hexpression : branch.guard.expression? with
  | none =>
    rw [holds_of_no_expression hexpression] at h
    cases h
  | some expression =>
    rw [holds_of_expression hexpression] at h
    cases hvalue : Expression.evaluateText context expression with
    | ok answer =>
      rw [hvalue] at h
      cases h
    | error cause =>
      have hcause := (Expression.yields_evaluateText context expression).failed_of_eq hvalue
      rw [hvalue] at h
      obtain rfl := Except.error.inj h
      exact ⟨expression, cause, rfl, hvalue, hcause, if_pos hcause⟩

end

/-- The directive of each branch stands where the branch begins. -/
theorem branch_written {options : Options} {text : String} {found : List Block}
    (h : blocks options text = .ok found) {block : Block} (hblock : block ∈ found)
    {branch : Branch} (hbranch : branch ∈ block.branches) :
    (branch.start, branch.guard.directive) ∈
      numbered 0 (directives options.parseFences (Text.lines text)) := by
  obtain ⟨tree, htree⟩ := exists_tree_of_blocks h
  obtain ⟨-, rfl⟩ := (blocks_eq_ok_iff htree).1 h
  have hperm := tree.sites_perm 0
  rw [htree, marks, map_directive_marksFrom] at hperm
  have hsite : (branch.start, branch.guard.directive) ∈ block.sites :=
    List.mem_append_left _ (List.mem_map_of_mem hbranch)
  exact hperm.subset (List.mem_flatMap.2 ⟨block, hblock, hsite⟩)

/-- Either the scan fails, or the expression of a branch that was found does. -/
theorem of_renderIn_eq_error {context : Expression.Context} {text : String} {failure : Failure}
    (h : renderIn context text = .error failure) :
    (blocks context.options text = .error failure ∧
      failure.Blames
        (numbered 0 (directives context.options.parseFences (Text.lines text)))) ∨
    ∃ (branch : Branch) (expression : String) (cause : Cause),
      (branch.start, branch.guard.directive) ∈
        numbered 0 (directives context.options.parseFences (Text.lines text)) ∧
      branch.guard.expression? = some expression ∧
      Expression.evaluateText context expression = .error cause ∧ cause.InExpression ∧
      failure = ⟨cause, some branch.start, some expression⟩ := by
  unfold renderIn at h
  cases hblocks : blocks context.options text with
  | error failure' =>
    rw [hblocks] at h
    cases h
    exact .inl ⟨rfl, (yields_blocks _ text).failed_of_eq hblocks⟩
  | ok found =>
    rw [hblocks, ok_bind, prune] at h
    cases hdecide : decideAll context found with
    | ok decisions =>
      rw [hdecide] at h
      cases h
    | error failure' =>
      rw [hdecide] at h
      cases h
      obtain ⟨block, hblock, branch, hbranch, hholds⟩ :=
        (yields_decideAll found).failed_of_eq hdecide
      obtain ⟨expression, cause, hexpression, hvalue, hcause, hfailure⟩ :=
        exists_of_holds_eq_error hholds
      exact .inr ⟨branch, expression, cause, branch_written hblocks hblock hbranch, hexpression,
        hvalue, hcause, hfailure⟩

theorem exists_line_of_renderIn {context : Expression.Context} {text : String} {failure : Failure}
    (h : renderIn context text = .error failure) : ∃ line, failure.line = some line := by
  rcases of_renderIn_eq_error h with ⟨-, -, site, -, hline⟩ | ⟨branch, -, -, -, -, -, -, rfl⟩
  · exact ⟨site.1, hline⟩
  · exact ⟨branch.start, rfl⟩

theorem exists_getElem_of_mem_numbered {before : Nat} {directives : List (Option Directive)}
    {site : Int × Directive} (h : site ∈ numbered before directives) :
    ∃ number : Nat, site.1 = ((before + number + 1 : Nat) : Int) ∧
      directives[number]? = some (some site.2) := by
  induction directives generalizing before with
  | nil => cases h
  | cons directive others ih =>
    have hlater : site ∈ numbered (before + 1) others → ∃ number : Nat,
        site.1 = ((before + number + 1 : Nat) : Int) ∧
          (directive :: others)[number]? = some (some site.2) := by
      intro hmem
      obtain ⟨number, hline, hdirective⟩ := ih hmem
      exact ⟨number + 1, by rw [hline]; omega, hdirective⟩
    cases directive with
    | none => exact hlater h
    | some directive =>
      rcases List.mem_cons.1 h with rfl | h
      · exact ⟨0, rfl, rfl⟩
      · exact hlater h

theorem exists_mark_of_mem_numbered {parseFences : Bool} {text : String} {site : Int × Directive}
    (h : site ∈ numbered 0 (directives parseFences (Text.lines text))) :
    ∃ (number : Nat) (line : String), site.1 = ((number + 1 : Nat) : Int) ∧
      (marks parseFences text)[number]? = some ⟨line, some site.2⟩ := by
  obtain ⟨number, hline, hdirective⟩ := exists_getElem_of_mem_numbered h
  rw [← map_directive_marksFrom, List.getElem?_map, Option.map_eq_some_iff] at hdirective
  obtain ⟨⟨line, directive⟩, hmark, rfl⟩ := hdirective
  exact ⟨number, line, by rw [hline, Nat.zero_add], hmark⟩

/-- With arguments that can be used, a rendering succeeds or fails in one of three classes. It blames
a line that counts as a directive, and if the blocks were found, it says of the expression of this
directive what evaluating it by itself says. All blocks that are built on the way pass the rules. -/
theorem render_succeeds_or_blames_directive (text : String) (arguments : Arguments)
    (options : Options) (resolver : Resolver)
    (harguments : Resolver.ofArguments arguments = .ok resolver) :
    ((∃ rendering, render text arguments options = .ok rendering) ∨
      ∃ (failure : Failure) (number : Nat) (line : String) (directive : Directive),
        render text arguments options = .error (.template failure) ∧
        (failure.failureClass = .directive ∨ failure.failureClass = .expression ∨
          failure.failureClass = .strictMode) ∧
        failure.line = some ((number + 1 : Nat) : Int) ∧
        (marks options.parseFences text)[number]? = some ⟨line, some directive⟩ ∧
        ((∃ found, blocks options text = .ok found) →
          ∃ expression, directive.expression? = some expression ∧ Text.Trimmed expression ∧
            failure.expression = some expression ∧
            Expression.evaluateText ⟨resolver, options⟩ expression = .error failure.cause)) ∧
    ∀ read scan, read <+: directives options.parseFences (Text.lines text) →
      Scan.run options.maxNesting .start read = .ok scan → ∀ block ∈ scan.found, block.Valid := by
  constructor
  · rw [render_of_ofArguments harguments]
    cases hrender : renderIn ⟨resolver, options⟩ text with
    | ok rendering => exact .inl ⟨rendering, rfl⟩
    | error failure =>
      rcases of_renderIn_eq_error hrender with ⟨hblocks, hclass, site, hsite, hline⟩ |
        ⟨branch, expression, cause, hsite, hexpression, hvalue, hcause, rfl⟩
      · obtain ⟨number, line, hnumber, hmark⟩ := exists_mark_of_mem_numbered hsite
        refine .inr ⟨failure, number, line, site.2, rfl, hclass.imp_right .inl,
          by rw [hline, hnumber], hmark, ?_⟩
        rintro ⟨found, hfound⟩
        cases hblocks.symm.trans hfound
      · obtain ⟨number, line, hnumber, hmark⟩ := exists_mark_of_mem_numbered hsite
        rw [← branch.guard.expression?_directive] at hexpression
        have htrimmed := trimmed_of_mem_directives (mem_of_mem_numbered hsite) hexpression
        exact .inr ⟨_, number, line, branch.guard.directive, rfl, .inr hcause.failureClass_eq,
          congrArg some hnumber, hmark, fun _ => ⟨expression, hexpression, htrimmed, rfl, hvalue⟩⟩
  · intro read scan _ hrun
    exact (Scan.sound_start.run hrun).found

/-- The expression is no more than a character that begins no token. -/
def doubtfulText : String := "a\n\x7b\x7b#if ?\x7d\x7d\nb\n\x7b\x7b/if\x7d\x7d"

theorem render_doubtfulText :
    Resolver.ofArguments (.data .null) = .ok ⟨[]⟩ ∧
      blocks .standard doubtfulText = .ok [⟨2, 4, [⟨.condition "?", 2, 3⟩]⟩] ∧
      render doubtfulText (.data .null) .standard =
        .error (.template ⟨.unexpectedCharacter '?' 1, some 2, some "?"⟩) ∧
      ∃ line directive, (marks false doubtfulText)[1]? = some ⟨line, some directive⟩ ∧
        directive.expression? = some "?" := by
  have hscan : blocks .standard doubtfulText = .ok [⟨2, 4, [⟨.condition "?", 2, 3⟩]⟩] := rfl
  have hlist : Token.list "?" = .error (.unexpectedCharacter '?' 1) := by
    change Token.listFrom 1 ['?'] = _
    rw [Token.listFrom_of_not_isBlank (by decide)]
    rfl
  have hvalue : Expression.evaluateText ⟨⟨[]⟩, .standard⟩ "?" =
      .error (.unexpectedCharacter '?' 1) := by
    rw [Expression.evaluateText, hlist]
    rfl
  have hrender : render doubtfulText (.data .null) .standard =
      .error (.template ⟨.unexpectedCharacter '?' 1, some 2, some "?"⟩) := by
    have hchoose : choose ⟨⟨[]⟩, .standard⟩ [⟨.condition "?", 2, 3⟩] =
        .error ⟨.unexpectedCharacter '?' 1, some 2, some "?"⟩ := by
      rw [choose, holds_of_expression rfl, hvalue]
      rfl
    rw [@render_of_ofArguments (.data .null) ⟨[]⟩ rfl, renderIn, hscan, ok_bind, prune, decideAll, Block.select, hchoose]
    rfl
  refine ⟨rfl, hscan, hrender, ?_⟩
  rcases (render_succeeds_or_blames_directive doubtfulText (.data .null) .standard ⟨[]⟩ rfl).1 with
    ⟨rendering, hok⟩ | ⟨failure, number, line, directive, herror, -, hline, hmark, hevaluated⟩
  · rw [hrender] at hok
    cases hok
  · obtain rfl := Error.template.inj (Except.error.inj (hrender.symm.trans herror))
    obtain ⟨expression, hexpression, -, hsame, -⟩ := hevaluated ⟨_, hscan⟩
    obtain rfl : number = 1 := by
      have := Option.some.inj hline
      omega
    obtain rfl := Option.some.inj hsame
    exact ⟨line, directive, hmark, hexpression⟩

end CondDoc
