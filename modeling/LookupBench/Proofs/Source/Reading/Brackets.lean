import LookupBench.Proofs.Source.Reading.Strings
import LookupBench.Source.Brackets

/-!
# What brackets have read

Collections, comprehensions, arguments and subscripts read their parts in order. Where a construct
goes back to read the same text otherwise, what it had read of it is gone.
-/

namespace LookupBench.Source

variable {src : List Char}

theorem moves_atClause (e : Expect) : Moves (atClause e : Parse src Bool) :=
  .of_runs fun _ => (moves_peekWord e).then fun _ => .pure rfl

theorem moves_namesArgument (e : Expect) : Moves (namesArgument e : Parse src Bool) := by
  apply Reads.of_runs
  intro lo
  rw [namesArgument]
  refine .here fun start hstart => (moves_peekWord e).then fun w => .ite (fun _ => ?_) fun _ => ?_
  · exact .pure rfl
  · refine (moves_pass _ _).then fun _ => (moves_peekText _).then fun mark => .set hstart ?_
    split <;> exact .pure rfl

namespace Level.Sound

variable {l : Level src} (hl : l.Sound)

include hl

/-! ### Comprehensions -/

theorem targets (fuel : Nat) (e : Expect) : Reads (l.targets fuel e) id := by
  induction fuel generalizing e with
  | zero => exact reads_failure
  | succ fuel ih =>
      apply Reads.of_runs
      intro lo
      rw [Level.targets]
      refine (hl.pattern e _).then fun t => (moves_accept _ _).fork ?_ (.pure rfl)
      refine (moves_startsOperand _ _).fork ?_ (.pure rfl)
      exact (ih _).then fun rest => .pure rfl

theorem iterated (fuel : Nat) (e : Expect) : Reads (l.iterated fuel e) id := by
  induction fuel generalizing e with
  | zero => exact reads_failure
  | succ fuel ih =>
      apply Reads.of_runs
      intro lo
      rw [Level.iterated]
      refine (hl.expression e _).then fun t => (moves_accept _ _).fork ?_ (.pure rfl)
      refine (moves_startsOperand _ _).fork ?_ (.pure rfl)
      exact (ih _).then fun rest => .pure rfl

theorem clauses (fuel : Nat) : Reads (l.clauses fuel) id := by
  induction fuel with
  | zero => exact reads_failure
  | succ fuel ih =>
      apply Reads.of_runs
      intro lo
      rw [Level.clauses]
      refine (moves_acceptWord _ _).fork ?_ ((moves_atClause _).fork ?_ (.pure rfl))
      · exact (hl.expression _ _).then fun t => ih.then fun rest => .pure rfl
      · refine (moves_acceptWord _ _).then fun async => ?_
        extract_lets behind
        have hbehind : ∀ u, Runs lo [] (behind u) id := by
          intro u
          refine (hl.targets _ _).then fun targets => (moves_expectWord _ _).then fun _ => ?_
          exact (hl.iterated _ _).then fun parts => ih.then fun rest => .pure rfl
        refine .ite (fun _ => ?_) fun _ => ?_
        · exact (moves_expectWord _ _).then hbehind
        · exact (moves_pass _ _).then hbehind

/-! ### Collections -/

theorem splat (f : Follow) (e : Expect) : Reads (l.splat f e) fun t => [t.tree] := by
  apply Reads.of_runs
  intro lo
  rw [Level.splat]
  refine (moves_expect _ _).then fun _ => (hl.expression _ f).then fun t => ?_
  exact .pure_of fun _ h => h.group

theorem element (f : Follow) (e : Expect) : Reads (l.element f e) fun r => [r.1.tree] := by
  apply Reads.of_runs
  intro lo
  rw [Level.element]
  have hplain : Runs lo [] (do return (← l.expression e f, true)) fun r => [r.1.tree] :=
    (hl.expression e f).then fun t => .pure rfl
  refine (moves_acceptWord _ _).fork ?_ ((moves_peekMark _ _).fork ?_ hplain)
  · exact (hl.yieldRest _).then fun t => .pure_of fun _ h => h.group
  · refine .here fun start hstart => (hl.splat f e).then fun t => (moves_atClause _).then fun _ => ?_
    exact .ite (fun _ => .set hstart hplain) fun _ => .pure rfl

theorem moreElements (close : Char) (fuel : Nat) :
    Reads (l.moreElements close fuel) fun ts => ts.map (·.tree) := by
  induction fuel with
  | zero => exact reads_failure
  | succ fuel ih =>
      apply Reads.of_runs
      intro lo
      rw [Level.moreElements]
      refine (moves_accept _ _).fork (.pure rfl) ?_
      refine (hl.element _ _).then fun t => (moves_accept _ _).fork ?_ ?_
      · exact ih.then fun rest => .pure rfl
      · exact (moves_expect _ _).then fun _ => .pure rfl

theorem elementsFrom {lo : Nat} (close : Char) (first : Term src) (body : Bool) :
    Runs lo [first.tree] (l.elementsFrom close first body) fun t => [t.tree] := by
  rw [Level.elementsFrom]
  refine (moves_atClause _).then fun _ => .ite (fun _ => ?_) fun _ => ?_
  · refine (hl.clauses _).then fun clauses => (moves_expect _ _).then fun _ => ?_
    exact .pure_of fun _ h => h.group
  · refine (moves_accept _ _).then fun _ => ?_
    extract_lets behind
    have hbehind : ∀ rest : List (Term src),
        Runs lo (first.tree :: rest.map (·.tree)) (behind rest) fun t => [t.tree] :=
      fun rest => .pure_of fun _ h => h.group
    refine .ite (fun _ => ?_) fun _ => ?_
    · exact (hl.moreElements _ _).last.bind hbehind
    · exact (moves_expect _ _).then fun _ => .bind (.pure rfl) hbehind

theorem collection (close : Char) : Reads (l.collection close) fun t => [t.tree] := by
  apply Reads.of_runs
  intro lo
  rw [Level.collection]
  refine (moves_accept _ _).fork (.pure_of fun _ h => h.group) ?_
  exact (hl.element _ _).then fun t => hl.elementsFrom close t.1 t.2

theorem entries (fuel : Nat) : Reads (l.entries fuel) id := by
  induction fuel with
  | zero => exact reads_failure
  | succ fuel ih =>
      apply Reads.of_runs
      intro lo
      rw [Level.entries]
      refine (moves_accept _ _).fork (.pure rfl) ((moves_accept _ _).then fun _ => ?_)
      extract_lets behind
      have hbehind : ∀ t, Runs lo t (behind t) id := by
        intro t
        refine (moves_accept _ _).fork ?_ ?_
        · exact ih.then fun rest => .pure rfl
        · exact (moves_expect _ _).then fun _ => .pure rfl
      refine .ite (fun _ => ?_) fun _ => ?_
      · exact (hl.expression _ _).then fun t => .bind (.pure rfl) hbehind
      · refine (hl.expression _ _).then fun key => (moves_expect _ _).then fun _ => ?_
        exact (hl.expression _ _).then fun value => .bind (.pure rfl) hbehind

theorem entriesFrom {lo : Nat} (first : List (Tree src)) :
    Runs lo first (l.entriesFrom first) fun t => [t.tree] := by
  rw [Level.entriesFrom]
  refine (moves_accept _ _).fork ?_ ?_
  · exact (hl.entries _).then fun rest => .pure_of fun _ h => h.group
  · exact (moves_expect _ _).then fun _ => .pure_of fun _ h => h.group

theorem entryFrom {lo : Nat} (key : Tree src) :
    Runs lo [key] (l.entryFrom key) fun t => [t.tree] := by
  rw [Level.entryFrom]
  refine (moves_expect _ _).then fun _ => (hl.expression _ _).then fun value => ?_
  refine (moves_atClause _).fork ?_ (hl.entriesFrom _)
  refine (hl.clauses _).then fun clauses => (moves_expect _ _).then fun _ => ?_
  exact .pure_of fun _ h => h.group

theorem braces : Reads l.braces fun t => [t.tree] := by
  apply Reads.of_runs
  intro lo
  rw [Level.braces]
  refine (moves_accept _ _).fork (.pure_of fun _ h => h.group) ?_
  refine (moves_accept _ _).fork ?_ ((moves_accept _ _).fork ?_ ?_)
  · exact (moves_expect _ _).then fun _ => .pure_of fun _ h => h.group
  · exact (hl.expression _ _).then fun t => hl.entriesFrom _
  · refine .here fun start hstart => (moves_peekMark _ _).then fun starred => ?_
    refine (hl.element _ _).then fun t => (moves_peekMark _ _).fork ?_ ?_
    · refine .ite (fun _ => ?_) fun _ => .ite (fun _ => hl.entryFrom _) fun _ => .failure
      exact .set hstart ((hl.expression _ _).then fun key => hl.entryFrom _)
    · exact (hl.elementsFrom _ _ _).bind fun t => .pure rfl

/-! ### Arguments -/

theorem argument (f : Follow) (e : Expect) : Reads (l.argument f e) fun r => [r.1] := by
  apply Reads.of_runs
  intro lo
  rw [Level.argument]
  refine (moves_accept _ _).fork ?_ ((moves_namesArgument _).fork ?_ ?_)
  · exact (hl.expression _ _).then fun t => .pure_of fun _ h => h.group
  · refine (reads_name _ _).then fun n => (moves_expect _ _).then fun _ => ?_
    refine (hl.expression _ _).then fun value => .pure_of fun _ h => ?_
    exact h.node (Kind.fits_of_free rfl rfl _) .plain
  · refine (moves_peekWord _).then fun w => .ite (fun _ => ?_) fun _ => ?_
    · exact (hl.expression _ _).then fun t => .pure rfl
    · exact (hl.element _ _).then fun t => .pure rfl

theorem moreArguments (fuel : Nat) : Reads (l.moreArguments fuel) id := by
  induction fuel with
  | zero => exact reads_failure
  | succ fuel ih =>
      apply Reads.of_runs
      intro lo
      rw [Level.moreArguments]
      refine (moves_accept _ _).fork (.pure rfl) ?_
      refine (hl.argument _ _).then fun t => (moves_accept _ _).fork ?_ ?_
      · exact ih.then fun rest => .pure rfl
      · exact (moves_expect _ _).then fun _ => .pure rfl

theorem arguments (call : Bool) : Reads (l.arguments call) id := by
  apply Reads.of_runs
  intro lo
  rw [Level.arguments]
  refine (moves_accept _ _).fork (.pure rfl) ((moves_accept _ _).fork ?_ ?_)
  · exact (moves_expect _ _).then fun _ => .pure rfl
  · refine (hl.argument _ _).then fun t => (moves_atClause _).then fun _ => ?_
    refine .ite (fun _ => ?_) fun _ => (moves_accept _ _).fork ?_ ?_
    · refine (hl.clauses _).then fun clauses => (moves_expect _ _).then fun _ => ?_
      exact .pure_of fun _ h => h.group
    · exact (hl.moreArguments _).then fun rest => .pure rfl
    · exact (moves_expect _ _).then fun _ => .pure rfl

/-! ### Subscripts -/

theorem slicePart (e : Expect) : Reads (l.slicePart e) id := by
  apply Reads.of_runs
  intro lo
  rw [Level.slicePart]
  refine (moves_startsOperand _ _).fork ?_ (.pure rfl)
  exact (hl.expression _ _).then fun t => .pure rfl

theorem subscript (e : Expect) : Reads (l.subscript e) id := by
  apply Reads.of_runs
  intro lo
  rw [Level.subscript]
  refine (hl.slicePart _).then fun low => (moves_accept _ _).fork ?_ ?_
  · refine (hl.slicePart _).then fun high => (moves_accept _ _).then fun _ => ?_
    extract_lets behind
    have hbehind : ∀ step, Runs lo (low ++ high ++ step) (behind step) id :=
      fun step => .pure_of fun _ h => h.group
    refine .ite (fun _ => ?_) fun _ => ?_
    · exact (hl.slicePart _).then hbehind
    · exact .bind (.pure (List.append_nil _)) hbehind
  · exact .ite (fun _ => .failure) fun _ => .pure rfl

theorem subscripts (fuel : Nat) (e : Expect) : Reads (l.subscripts fuel e) id := by
  induction fuel generalizing e with
  | zero => exact reads_failure
  | succ fuel ih =>
      apply Reads.of_runs
      intro lo
      rw [Level.subscripts]
      refine (hl.subscript _).then fun t => (moves_accept _ _).fork ?_ ?_
      · refine (moves_accept _ _).fork (.pure rfl) ?_
        exact (ih _).then fun rest => .pure rfl
      · exact (moves_expect _ _).then fun _ => .pure rfl

end Level.Sound

end LookupBench.Source
