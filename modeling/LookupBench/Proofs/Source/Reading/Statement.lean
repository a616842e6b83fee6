import LookupBench.Proofs.Source.Reading.Annotation
import LookupBench.Proofs.Source.Reading.CasePattern
import LookupBench.Source.Statement

/-!
# What statements have read

A statement that can be read in two ways has read what the way taken reads. From the innermost level
of nesting outwards, all parsers read trees between the places where they begin and end; so the
identifiers of a source without errors are at different places of it.
-/

namespace LookupBench.Source

variable {src : List Char}

/-! ### Imports -/

theorem reads_bound_dottedName (e : Expect) (f : Follow) (role : Role) (fuel : Nat) :
    Reads (dottedName e f role fuel : Parse src (Tree src)) fun t => [Tree.bound [t]] := by
  apply Reads.of_runs
  intro lo
  rw [dottedName]
  refine (reads_bound_name _ _).then fun n => (reads_dottedTail f _).then fun rest => ?_
  exact .pure_of fun _ h => h.bound_append.clause rfl rfl role

theorem reads_bound_importClause (e : Expect) (f : Follow) (fuel : Nat) :
    Reads (importClause e f fuel : Parse src (Tree src)) fun t => [Tree.bound [t]] := by
  apply Reads.of_runs
  intro lo
  rw [importClause]
  refine (reads_bound_dottedName e f _ _).then fun dotted => ?_
  refine (moves_acceptWord _ _).fork ?_ (.pure rfl)
  refine (reads_bound_name _ _).then fun n => ?_
  exact .pure_of fun _ h => h.bound_append.clause rfl rfl .name

theorem reads_bound_importClauses (f : Follow) (loop fuel : Nat) (e : Expect) :
    Reads (importClauses f loop fuel e : Parse src (List (Tree src)))
      fun ts => [Tree.bound ts] := by
  induction fuel generalizing e with
  | zero => exact reads_failure
  | succ fuel ih =>
      apply Reads.of_runs
      intro lo
      rw [importClauses]
      refine (reads_bound_importClause e f _).then fun t => (moves_accept _ _).fork ?_ (.pure rfl)
      refine (moves_peekWord _).then fun w => .ite (fun _ => .pure rfl) fun _ => ?_
      exact (ih _).then fun rest => .pure_of fun _ h => h.bound_append

theorem reads_bound_importedNames (loop : Nat) :
    Reads (importedNames loop : Parse src (List (Tree src))) fun ts => [Tree.bound ts] := by
  apply Reads.of_runs
  intro lo
  rw [importedNames]
  refine (moves_accept _ _).fork ?_ (reads_bound_importClauses _ _ _ _).last
  refine (reads_bound_importClauses _ _ _ _).then fun ts => ?_
  exact (moves_expect _ _).then fun _ => .pure rfl

theorem moves_importDots (fuel : Nat) : Moves (importDots fuel : Parse src Bool) := by
  induction fuel with
  | zero => exact reads_failure
  | succ fuel ih =>
      apply Reads.of_runs
      intro lo
      rw [importDots]
      exact (moves_accept _ _).fork (ih.then fun _ => .pure rfl) (.pure rfl)

theorem reads_fromImport (loop : Nat) :
    Reads (fromImport loop : Parse src (Tree src)) fun t => [t] := by
  apply Reads.of_runs
  intro lo
  rw [fromImport]
  refine (moves_acceptWord _ _).fork ?_ ?_
  · refine (moves_expectWord _ _).then fun _ => (reads_bound_importedNames _).then fun ts => ?_
    exact .pure_of fun _ h => h.declared rfl .plain
  · refine (moves_importDots _).then fun relative => (moves_peekWord _).then fun w => ?_
    extract_lets bare behind
    have hbehind : ∀ source, Runs lo [Tree.bound source] (behind source) fun t => [t] := by
      intro source
      refine (moves_expectWord _ _).then fun _ => ?_
      extract_lets source'
      have hsource : ∀ hi, Read lo [Tree.bound source] hi → Read lo [Tree.bound source'] hi := by
        intro hi h
        unfold source'
        split
        · exact h.clause rfl rfl .plain
        · exact h
      apply Runs.regroup hsource
      refine (moves_accept _ _).fork (.pure_of fun _ h => h.declared rfl .plain) ?_
      refine (reads_bound_importedNames _).then fun ts => ?_
      exact .pure_of fun _ h => h.bound_append.declared rfl .plain
    have hbare : Runs lo [] (pure []) fun source : List (Tree src) => [Tree.bound source] :=
      .pure_of fun _ h => Read.bound_nil h.le
    refine .ite (fun _ => hbare.bind hbehind) fun _ => ?_
    exact (reads_bound_dottedName _ _ _ _).then fun t => .bind (.pure rfl) hbehind

theorem reads_bound_names (fuel : Nat) :
    Reads (names fuel : Parse src (List (Tree src))) fun ts => [Tree.bound ts] := by
  induction fuel with
  | zero => exact reads_failure
  | succ fuel ih =>
      apply Reads.of_runs
      intro lo
      rw [names]
      refine (reads_bound_name _ _).then fun t => (moves_accept _ _).fork ?_ (.pure rfl)
      exact ih.then fun rest => .pure_of fun _ h => h.bound_append

/-! ### Ends of statements -/

theorem moves_statementEnd : Moves (statementEnd : Parse src Bool) := by
  apply Reads.of_runs
  intro lo
  rw [statementEnd]
  refine (moves_peek _).then fun next => ?_
  split
  · exact .pure rfl
  · refine (moves_expect _ _).then fun _ => (moves_peek _).then fun next => ?_
    split <;> exact .pure rfl

theorem moves_atArrow (e : Expect) : Moves (atArrow e : Parse src Bool) :=
  .of_runs fun _ => (moves_peekText e).then fun _ => .pure rfl

theorem moves_atExceptGroup (e : Expect) : Moves (atExceptGroup e : Parse src Bool) :=
  .of_runs fun _ => (moves_peekText e).then fun _ => .pure rfl

theorem Reads.finished {p : Parse src (List (Tree src))} (hp : Reads p id) :
    Reads (Level.finished p) (·.1) :=
  .of_runs fun _ => hp.then fun _ => moves_statementEnd.then fun _ => .pure rfl

namespace Level.Sound

variable {l : Level src} (hl : l.Sound)

include hl

/-! ### Assignments -/

theorem moreTargets (value : Bool) (fuel : Nat) :
    Reads (l.moreTargets value fuel) trees := by
  induction fuel with
  | zero => exact reads_failure
  | succ fuel ih =>
      apply Reads.of_runs
      intro lo
      rw [Level.moreTargets]
      refine (moves_startsOperand _ _).fork ?_ (.pure rfl)
      refine (hl.pattern _ _).then fun t => (moves_accept _ _).fork ?_ (.pure rfl)
      exact ih.then fun rest => .pure rfl

theorem expressionsOrTargets (value : Bool) (e : Expect) :
    Reads (l.expressionsOrTargets value e) fun r => trees r.1 := by
  apply Reads.of_runs
  intro lo
  rw [Level.expressionsOrTargets]
  refine (moves_peekText e).then fun cs => .either ?_ ?_
  · refine (hl.expressionList _ _ e).then fun ts => .ite (fun _ => ?_) fun _ => ?_
    · exact (moves_peekMark _ _).fork .failure (.pure rfl)
    · exact (moves_peekText _).then fun _ => .ite (fun _ => .failure) fun _ => .pure rfl
  · refine (hl.expression e _).then fun t => (moves_expect _ _).then fun _ => ?_
    refine (hl.moreTargets value _).then fun more => (moves_peekText _).then fun _ => ?_
    exact .ite (fun _ => .pure rfl) fun _ => .failure

theorem assignment (fuel : Nat) (value : Bool) (e : Expect) :
    Reads (l.assignment fuel value e) id := by
  induction fuel generalizing value e with
  | zero => exact reads_failure
  | succ fuel ih =>
      apply Reads.of_runs
      intro lo
      rw [Level.assignment]
      refine (moves_acceptWord _ _).fork ((hl.yieldRest _).then fun t => .pure rfl) ?_
      refine (hl.expressionsOrTargets value e).then fun ts => (moves_peekText _).then fun cs => ?_
      refine .ite (fun _ => .pure rfl) fun _ => .ite (fun _ => ?_) fun _ => ?_
      · refine (moves_pass _ _).then fun _ => (hl.annotation _ _ _).then fun type => ?_
        refine (moves_accept _ _).fork ?_ (.pure rfl)
        exact (ih _ _).then fun rest => .pure (by simp)
      · exact (moves_pass _ _).then fun _ => (ih _ _).then fun rest => .pure rfl

/-! ### Simple statements -/

theorem commaSeparated (f : Follow) (fuel : Nat) (e : Expect) :
    Reads (l.commaSeparated f fuel e) id := by
  induction fuel generalizing e with
  | zero => exact reads_failure
  | succ fuel ih =>
      apply Reads.of_runs
      intro lo
      rw [Level.commaSeparated]
      refine (hl.expression e f).then fun t => (moves_accept _ _).fork ?_ (.pure rfl)
      exact (ih _).then fun rest => .pure rfl

theorem optionalExpressions (f : Follow) : Reads (l.optionalExpressions f) id := by
  apply Reads.of_runs
  intro lo
  rw [Level.optionalExpressions]
  refine (moves_startsOperand _ _).fork ?_ (.pure rfl)
  exact (hl.expressionList f _ _).then fun ts => .pure rfl

theorem printRest (fuel : Nat) : Reads (l.printRest fuel) id := by
  induction fuel with
  | zero => exact reads_failure
  | succ fuel ih =>
      apply Reads.of_runs
      intro lo
      rw [Level.printRest]
      refine (moves_accept _ _).fork ((moves_startsOperand _ _).fork ?_ (.pure rfl)) (.pure rfl)
      exact (hl.expression _ _).then fun t => ih.then fun rest => .pure rfl

theorem printStatement (e : Expect) : Reads (l.printStatement e) (·.1) := by
  apply Reads.of_runs
  intro lo
  rw [Level.printStatement]
  refine .here fun start hstart => (moves_pass _ _).then fun _ => (moves_atArrow _).fork ?_ ?_
  · refine (moves_pass _ _).then fun _ => (Reads.finished (.of_runs fun lo => ?_)).last
    exact (hl.expression _ _).then fun t => (hl.printRest _).then fun rest => .pure rfl
  · refine .set hstart (.either (hl.assignment _ _ _).finished.last ?_)
    refine (moves_pass _ _).then fun _ => (moves_peekWord _).then fun w => ?_
    extract_lets behind
    have hbehind : ∀ u, Runs lo [] (behind u) (·.1) := by
      refine fun u => (Reads.finished (.of_runs fun lo => ?_)).last
      exact (hl.expressionList _ _ _).then fun ts => .pure rfl
    exact .ite (fun _ => .bind .failure hbehind) fun _ => hbehind ⟨⟩

theorem execStatement (e : Expect) : Reads (l.execStatement e) (·.1) := by
  apply Reads.of_runs
  intro lo
  rw [Level.execStatement]
  refine .either (hl.assignment _ _ _).finished.last ((moves_pass _ _).then fun _ => ?_)
  refine (Reads.finished (.of_runs fun lo => .peek fun next _ hquote => ?_)).last
  extract_lets behind
  have hbehind : ∀ code, Runs lo code (behind code) id := by
    intro code
    refine (moves_acceptWord _ _).fork ?_ (.pure rfl)
    exact (hl.commaSeparated _ _ _).then fun ts => .pure rfl
  split
  next q after _ => exact .set (hquote q after rfl) ((hl.pieces q _).then hbehind)
  next =>
    refine (moves_peekWord _).then fun w => .ite (fun _ => .bind .failure hbehind) fun _ => ?_
    exact (reads_name _ _).then fun t => .bind (.pure rfl) hbehind

theorem typeStatement (e : Expect) : Reads (l.typeStatement e) (·.1) := by
  apply Reads.of_runs
  intro lo
  rw [Level.typeStatement]
  refine .either ((moves_pass _ _).then fun _ => (moves_peekWord _).then fun w => ?_)
    (hl.assignment _ _ _).finished.last
  extract_lets behind
  have hbehind : ∀ u, Runs lo [] (behind u) (·.1) := by
    refine fun u => (Reads.finished (.of_runs fun lo => ?_)).last
    refine (hl.annotation _ _ _).then fun left => (moves_expect _ _).then fun _ => ?_
    exact (hl.annotation _ _ _).then fun right => .pure rfl
  exact .ite (fun _ => .bind .failure hbehind) fun _ => hbehind ⟨⟩

theorem raiseRest : Reads l.raiseRest id := by
  apply Reads.of_runs
  intro lo
  rw [Level.raiseRest]
  refine (hl.optionalExpressions _).then fun raised => (moves_acceptWord _ _).fork ?_ (.pure rfl)
  exact (hl.expression _ _).then fun t => .pure rfl

theorem simple (e : Expect) : Reads (l.simple e) (·.1) := by
  apply Reads.of_runs
  intro lo
  rw [Level.simple]
  refine (moves_peekWord e).then fun w => ?_
  extract_lets statement
  have hstatement : ∀ {p}, (∀ lo, Runs lo [] p id) → Runs lo [] (statement p) (·.1) :=
    fun hp => (moves_pass _ _).then fun _ => (Reads.of_runs hp).finished.last
  split
  · refine hstatement fun lo => (reads_bound_importClauses _ _ _ _).then fun ts => ?_
    exact .pure_of fun _ h => h.declared rfl .plain
  · exact hstatement fun lo => (reads_fromImport _).then fun t => .pure rfl
  · exact hstatement fun lo => (hl.commaSeparated _ _ _).last
  · exact hstatement fun lo => (hl.optionalExpressions _).last
  · exact hstatement fun lo => (hl.expressionList _ _ _).then fun ts => .pure rfl
  · exact hstatement fun lo => hl.raiseRest.last
  · exact hstatement fun lo => .pure rfl
  · exact hstatement fun lo => .pure rfl
  · exact hstatement fun lo => .pure rfl
  · refine hstatement fun lo => (reads_bound_names _).then fun ts => ?_
    exact .pure_of fun _ h => h.declared rfl .plain
  · refine hstatement fun lo => (reads_bound_names _).then fun ts => ?_
    exact .pure_of fun _ h => h.declared rfl .plain
  · exact (hl.printStatement e).last
  · exact (hl.execStatement e).last
  · exact (hl.typeStatement e).last
  · exact (hl.assignment _ _ e).finished.last

theorem simples (fuel : Nat) (e : Expect) : Reads (l.simples fuel e) id := by
  induction fuel generalizing e with
  | zero => exact reads_failure
  | succ fuel ih =>
      apply Reads.of_runs
      intro lo
      rw [Level.simples]
      refine (hl.simple e).then fun ts => .ite (fun _ => .pure rfl) fun _ => ?_
      exact (ih _).then fun rest => .pure rfl

/-! ### Compound statements -/

theorem block : Reads l.block fun t => [t] :=
  .of_runs fun _ => (moves_expect _ _).then fun _ => hl.suite.last

theorem conditionBlock (e : Expect) : Reads (l.conditionBlock e) id := by
  apply Reads.of_runs
  intro lo
  rw [Level.conditionBlock]
  exact (hl.expression e _).then fun t => hl.block.then fun body => .pure rfl

theorem elseBlock (nested : Bool) : Reads (l.elseBlock nested) id := by
  apply Reads.of_runs
  intro lo
  rw [Level.elseBlock]
  exact (moves_acceptWord _ _).fork (hl.block.then fun body => .pure rfl) (.pure rfl)

theorem elifBlocks (nested : Bool) (fuel : Nat) : Reads (l.elifBlocks nested fuel) id := by
  induction fuel with
  | zero => exact reads_failure
  | succ fuel ih =>
      apply Reads.of_runs
      intro lo
      rw [Level.elifBlocks]
      refine (moves_acceptWord _ _).fork ?_ (hl.elseBlock nested).last
      exact (hl.conditionBlock _).then fun t => ih.then fun rest => .pure rfl

theorem forRest (nested : Bool) : Reads (l.forRest nested) id := by
  apply Reads.of_runs
  intro lo
  rw [Level.forRest]
  refine (hl.targets _ _).then fun targets => (moves_expectWord _ _).then fun _ => ?_
  refine (hl.expressionList _ _ _).then fun ts => hl.block.then fun body => ?_
  exact (hl.elseBlock nested).then fun rest => .pure (by simp [trees])

theorem withRest : Reads l.withRest id := by
  apply Reads.of_runs
  intro lo
  rw [Level.withRest]
  exact (hl.expressionList _ _ _).then fun ts => hl.block.then fun body => .pure rfl

theorem definitionRest : Reads l.definitionRest id := by
  apply Reads.of_runs
  intro lo
  rw [Level.definitionRest]
  refine (reads_name _ _).then fun n => hl.typeParameters.then fun types => ?_
  refine (moves_expect _ _).then fun _ => (hl.parameterList _ _ _ _).then fun parameters => ?_
  extract_lets head behind
  have hhead : ∀ hi, Read lo ([n] ++ types ++ parameters) hi → Read lo head hi := by
    intro hi h
    exact h.replace_right fun _ h => h.node (Kind.fits_of_free rfl rfl _) .plain
  have hbehind : ∀ body, Runs lo (head ++ body) (behind body) id :=
    fun body => .pure_of fun _ h => h.node (Kind.fits_of_free rfl rfl _) .plain
  have htyped : ∀ constrained, Runs lo head (do
      let type ← l.annotation { quote := true } {} constrained
      return [type, ← l.block]) fun body => head ++ body := by
    intro constrained
    refine (hl.annotation _ _ _).then fun type => hl.block.then fun body => ?_
    exact .pure (by simp)
  refine .regroup hhead ((moves_accept _ _).fork ?_ ?_)
  · exact (Runs.either (htyped false) (htyped true)).bind hbehind
  · exact hl.block.then fun body => .bind (.pure rfl) hbehind

theorem classRest : Reads l.classRest id := by
  apply Reads.of_runs
  intro lo
  rw [Level.classRest]
  refine (reads_name _ _).then fun n => hl.typeParameters.then fun types => ?_
  refine (moves_accept _ _).then fun _ => ?_
  extract_lets behind
  have hbehind : ∀ bases, Runs lo (n :: types ++ bases) (behind bases) id := by
    intro bases
    refine .regroup (fun _ h => h.replace_right fun _ h => h.group) (hl.block.then fun body => ?_)
    refine .pure_of fun _ h => ?_
    have hnode := h.node (Kind.fits_of_free rfl rfl _ : Kind.classDefinition.Fits _) .plain
    simpa using hnode
  refine .ite (fun _ => (hl.arguments false).then hbehind) fun _ => ?_
  exact .bind (.pure (List.append_nil _)) hbehind

theorem finallyBlock (e : Expect) : Reads (l.finallyBlock e) id := by
  apply Reads.of_runs
  intro lo
  rw [Level.finallyBlock]
  exact (moves_acceptWord _ _).fork (hl.block.then fun body => .pure rfl) (.pure rfl)

theorem tryEnd (e : Expect) : Reads (l.tryEnd e) id := by
  apply Reads.of_runs
  intro lo
  rw [Level.tryEnd]
  refine (moves_acceptWord _ _).then fun _ => ?_
  extract_lets behind
  have hbehind : ∀ other, Runs lo other (behind other) id :=
    fun other => (hl.finallyBlock e).then fun rest => .pure rfl
  refine .ite (fun _ => ?_) fun _ => .bind (.pure rfl) hbehind
  exact hl.block.then fun body => .bind (.pure rfl) hbehind

theorem groupHandlers (e : Expect) (fuel : Nat) (first : Expect) :
    Reads (l.groupHandlers e fuel first) id := by
  induction fuel generalizing first with
  | zero => exact reads_failure
  | succ fuel ih =>
      apply Reads.of_runs
      intro lo
      rw [Level.groupHandlers]
      refine (moves_atExceptGroup _).fork ?_ (hl.tryEnd e).last
      refine (moves_pass _ _).then fun _ => (hl.conditionBlock _).then fun t => ?_
      exact (ih _).then fun rest => .pure rfl

theorem handlers (e : Expect) (fuel : Nat) (first : Expect) :
    Reads (l.handlers e fuel first) id := by
  induction fuel generalizing first with
  | zero => exact reads_failure
  | succ fuel ih =>
      apply Reads.of_runs
      intro lo
      rw [Level.handlers]
      refine (moves_acceptWord _ _).fork ?_ (hl.tryEnd e).last
      refine (moves_startsOperand _ _).then fun _ => ?_
      extract_lets behind
      have hbehind : ∀ caught, Runs lo caught (behind caught) id := by
        intro caught
        exact hl.block.then fun body => (ih _).then fun rest => .pure (by simp)
      refine .ite (fun _ => ?_) fun _ => .bind (.pure rfl) hbehind
      refine (hl.expression _ _).then fun t => (moves_accept _ _).fork ?_ ?_
      · exact (hl.expression _ _).then fun bound => .bind (.pure rfl) hbehind
      · exact .bind (.pure rfl) hbehind

theorem tryRest (nested : Bool) : Reads (l.tryRest nested) id := by
  apply Reads.of_runs
  intro lo
  rw [Level.tryRest]
  refine hl.block.then fun body => (moves_atExceptGroup _).fork ?_ ?_
  · exact (hl.groupHandlers _ _ _).then fun rest => .pure rfl
  · refine (moves_peekWord _).then fun w => .ite (fun _ => ?_) fun _ => ?_
    · exact (hl.handlers _ _ _).then fun rest => .pure rfl
    · exact (moves_expectWord _ _).then fun _ => hl.block.then fun rest => .pure rfl

theorem decorated (fuel : Nat) : Reads (l.decorated fuel) id := by
  induction fuel with
  | zero => exact reads_failure
  | succ fuel ih =>
      apply Reads.of_runs
      intro lo
      rw [Level.decorated]
      refine (hl.expression _ _).then fun t => (moves_peek _).then fun next => ?_
      split
      · refine (moves_accept _ _).fork ?_ ((moves_acceptWord _ _).fork ?_ ?_)
        · exact ih.then fun rest => .pure rfl
        · exact hl.classRest.then fun rest => .pure rfl
        · refine (moves_acceptWord _ _).then fun _ => (moves_expectWord _ _).then fun _ => ?_
          exact hl.definitionRest.then fun rest => .pure rfl
      · exact .failure

theorem casePatterns (fuel : Nat) (e : Expect) : Reads (l.casePatterns fuel e) id := by
  induction fuel generalizing e with
  | zero => exact reads_failure
  | succ fuel ih =>
      apply Reads.of_runs
      intro lo
      rw [Level.casePatterns]
      refine (hl.casePattern e _).then fun t => (moves_accept _ _).fork ?_ (.pure rfl)
      refine (moves_peekWord _).then fun w => (moves_peekMark _ _).then fun _ => ?_
      exact .ite (fun _ => .pure rfl) fun _ => (ih _).then fun rest => .pure rfl

theorem cases (fuel : Nat) : Reads (l.cases fuel) id := by
  induction fuel with
  | zero => exact reads_failure
  | succ fuel ih =>
      apply Reads.of_runs
      intro lo
      rw [Level.cases]
      refine (moves_peek _).then fun next => ?_
      split
      · exact moves_margins.then fun _ => .pure rfl
      · refine (moves_expectWord _ _).then fun _ => (hl.casePatterns _ _).then fun pattern => ?_
        refine (moves_acceptWord _ _).then fun _ => ?_
        extract_lets behind
        have hbehind : ∀ guard, Runs lo (pattern ++ guard) (behind guard) id := by
          intro guard
          exact hl.block.then fun body => ih.then fun rest => .pure (by simp)
        refine .ite (fun _ => ?_) fun _ => .bind (.pure (List.append_nil _)) hbehind
        exact (hl.expression _ _).then fun t => .bind (.pure rfl) hbehind

theorem matchRest : Reads l.matchRest id := by
  apply Reads.of_runs
  intro lo
  rw [Level.matchRest]
  refine (moves_peekWord _).then fun w => ?_
  extract_lets behind
  have hbehind : ∀ u, Runs lo [] (behind u) id := by
    intro u
    refine (hl.expressionList _ _ _).then fun ts => (moves_expect _ _).then fun _ => ?_
    refine (moves_peek _).then fun next => ?_
    split
    · exact .pure rfl
    · refine moves_margins.then fun _ => (hl.cases _).then fun rest => .pure rfl
    · exact .failure
  exact .ite (fun _ => .bind .failure hbehind) fun _ => hbehind ⟨⟩

theorem statement (nested : Bool) : Reads (l.statement nested) id := by
  apply Reads.of_runs
  intro lo
  rw [Level.statement]
  refine (moves_peekWord _).then fun w => ?_
  extract_lets behind
  have hbehind : ∀ {p}, Reads p id → Runs lo [] (behind p) id :=
    fun hp => (moves_pass _ _).then fun _ => hp.last
  split
  · refine hbehind (.of_runs fun lo => (hl.conditionBlock _).then fun t => ?_)
    exact (hl.elifBlocks nested _).then fun rest => .pure rfl
  · refine hbehind (.of_runs fun lo => (hl.conditionBlock _).then fun t => ?_)
    exact (hl.elseBlock nested).then fun rest => .pure rfl
  · exact hbehind (hl.forRest nested)
  · exact hbehind (hl.tryRest nested)
  · exact hbehind hl.withRest
  · exact hbehind hl.definitionRest
  · exact hbehind hl.classRest
  · refine .either ?_ (hbehind hl.matchRest)
    exact (hl.simples _ _).then fun ts => (moves_peekMark _ _).fork .failure (.pure rfl)
  · refine .here fun start hstart => (moves_pass _ _).then fun _ => ?_
    refine (moves_peekWord _).then fun next => ?_
    split
    · exact (moves_pass _ _).then fun _ => (hl.forRest nested).last
    · exact (moves_pass _ _).then fun _ => hl.withRest.last
    · exact (moves_pass _ _).then fun _ => hl.definitionRest.last
    · exact .set hstart (hl.simples _ _).last
  · exact (moves_accept _ _).fork (hl.decorated _).last (hl.simples _ _).last

theorem statements (nested : Bool) (fuel : Nat) : Reads (l.statements nested fuel) id := by
  induction fuel with
  | zero => exact reads_failure
  | succ fuel ih =>
      apply Reads.of_runs
      intro lo
      rw [Level.statements]
      refine (moves_peek _).then fun next => ?_
      split
      · refine .ite (fun _ => ?_) fun _ => .failure
        exact moves_margins.then fun _ => .pure rfl
      · exact .ite (fun _ => .failure) fun _ => .pure rfl
      · exact (hl.statement nested).then fun ts => ih.then fun rest => .pure rfl

theorem suiteHere : Reads l.suiteHere fun t => [t] := by
  apply Reads.of_runs
  intro lo
  rw [Level.suiteHere]
  refine (moves_peek _).then fun next => ?_
  split
  · refine moves_margins.then fun _ => (hl.statements _ _).then fun ts => ?_
    exact .pure_of fun _ h => h.group
  · exact .pure_of fun _ h => h.group
  · exact (hl.simples _ _).then fun ts => .pure_of fun _ h => h.group

end Level.Sound

/-! ### Sources -/

theorem sound_level (fuel n : Nat) : (level fuel n : Level src).Sound := by
  induction n with
  | zero => exact Level.sound_bottom
  | succ n ih =>
      exact ⟨fun e f => ih.expressionHere e f, fun e f => ih.patternHere e f,
        fun e f constrained => ih.annotationHere e f constrained, ih.suiteHere⟩

/-- A source without errors is read from its start to some place. -/
theorem exists_read_of_parse? {t : Tree src} (h : parse? src = some t) :
    ∃ high, Read (Cursor.start src).offset [t] high := by
  unfold parse? at h
  split at h
  next ts c hts =>
    cases h
    exact ⟨c.offset, ((sound_level _ _).statements _ _ _ ts c hts).group⟩
  next => cases h

/-- The identifiers of a source without errors stand at different places. -/
theorem distinct_of_parse? {t : Tree src} (h : parse? src = some t) : t.Distinct := by
  obtain ⟨high, hread⟩ := exists_read_of_parse? h
  exact hread.between.pairwise.2.imp fun hlt => hlt.ne

theorem shaped_of_parse? {t : Tree src} (h : parse? src = some t) : Tree.Shaped [t] :=
  let ⟨_, hread⟩ := exists_read_of_parse? h
  hread.shaped

example : (parse? (Char.ofNat 0xFEFF :: "\"a\"\nb\n".toList)).isSome = true := by decide +kernel

end LookupBench.Source
