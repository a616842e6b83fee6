import LookupBench.Proofs.Source.Reading.Strings
import LookupBench.Source.CasePattern

/-!
# What patterns of cases have read

The parts of a dotted name are names. What a pattern only compares with is passed, and read for its
interpolations only.
-/

namespace LookupBench.Source

variable {src : List Char}

/-- A name is bound in any construct whose identifiers are. -/
theorem reads_bound_name (e : Expect) (role : Role) :
    Reads (name e role : Parse src (Tree src)) fun t => [Tree.bound [t]] := by
  intro c t c' h
  refine Read.bound_iff.2 ⟨reads_name e role c t c' h, fun u hu kind hkind => ?_⟩
  obtain rfl := List.mem_singleton.1 hu
  simp [(name_isIdentifier h).1] at hkind

theorem reads_dottedTail (f : Follow) (fuel : Nat) :
    Reads (dottedTail f fuel : Parse src (List (Tree src))) fun ns => [Tree.bound ns] := by
  induction fuel with
  | zero => exact reads_failure
  | succ fuel ih =>
      apply Reads.of_runs
      intro lo
      rw [dottedTail]
      refine (moves_accept _ _).fork ?_ (.pure_of fun _ h => Read.bound_nil h.le)
      refine (reads_bound_name _ _).then fun n => ih.then fun rest => ?_
      exact .pure_of fun _ h => h.bound_append

theorem moves_number (e : Expect) : Moves (number e : Parse src Unit) := by
  apply Reads.of_runs
  intro lo
  rw [number]
  refine (moves_peekText e).then fun cs => .ite (fun _ => .failure) fun _ => ?_
  exact (moves_pass _ _).last

theorem moves_caseNumber (e : Expect) (f : Follow) : Moves (caseNumber e f : Parse src Unit) := by
  apply Reads.of_runs
  intro lo
  rw [caseNumber]
  refine (moves_number e).then fun _ => (moves_accept _ _).fork (moves_number _).last ?_
  exact (moves_accept _ _).fork (moves_number _).last (.pure rfl)

theorem reads_caseSplat (e : Expect) : Reads (caseSplat e : Parse src (List (Tree src))) id := by
  apply Reads.of_runs
  intro lo
  rw [caseSplat]
  refine (moves_accept _ _).then fun double => ?_
  extract_lets behind
  have hbehind : ∀ u, Runs lo [] (behind u) id := by
    intro u
    refine (moves_peekWord _).then fun w => (reads_name _ _).then fun t => ?_
    exact .ite (fun _ => .pure_of fun _ h => h.drop) fun _ => .pure rfl
  refine .ite (fun _ => ?_) fun _ => hbehind ⟨⟩
  exact (moves_expect _ _).then hbehind

theorem moves_atEntryEnd (e : Expect) : Moves (atEntryEnd e : Parse src Bool) :=
  .of_runs fun _ => (moves_peekMark _ _).then fun _ => (moves_peekMark _ _).then fun _ => .pure rfl

theorem reads_caseNames (f : Follow) (fuel : Nat) :
    Reads (caseNames f fuel : Parse src (List (Tree src))) id := by
  induction fuel with
  | zero => exact reads_failure
  | succ fuel ih =>
      apply Reads.of_runs
      intro lo
      rw [caseNames]
      refine (moves_acceptWord _ _).fork ?_ (.pure rfl)
      exact (reads_name _ _).then fun t => ih.then fun rest => .pure rfl

/-- The parsers for what stands inside patterns read trees between the places where they begin and
end. -/
structure CaseLevel.Sound (l : CaseLevel src) : Prop where
  level : l.level.Sound
  pattern (e : Expect) (f : Follow) : Reads (l.pattern e f) id
  simple (e : Expect) (f : Follow) : Reads (l.simple e f) id

namespace CaseLevel.Sound

variable {l : CaseLevel src} (hl : l.Sound)

include hl

theorem list (close : Char) (fuel : Nat) : Reads (l.list close fuel) id := by
  induction fuel with
  | zero => exact reads_failure
  | succ fuel ih =>
      apply Reads.of_runs
      intro lo
      rw [CaseLevel.list]
      refine (moves_accept _ _).fork (.pure rfl) ?_
      refine (hl.pattern _ _).then fun t => (moves_accept _ _).fork ?_ ?_
      · exact ih.then fun rest => .pure rfl
      · exact (moves_expect _ _).then fun _ => .pure rfl

theorem entries (fuel : Nat) : Reads (l.entries fuel) id := by
  induction fuel with
  | zero => exact reads_failure
  | succ fuel ih =>
      apply Reads.of_runs
      intro lo
      rw [CaseLevel.entries]
      refine (moves_accept _ _).fork (.pure rfl) (.here fun start hstart => ?_)
      refine (moves_peekMark _ _).then fun starred => ?_
      extract_lets close entry
      have hclose : ∀ t, Runs lo t (close t) id := by
        intro t
        refine (moves_accept _ _).fork ?_ ?_
        · exact ih.then fun rest => .pure rfl
        · exact (moves_expect _ _).then fun _ => .pure rfl
      have hentry : ∀ splat, Runs lo splat (entry splat) id := by
        intro splat
        refine (moves_atEntryEnd _).then fun ends => .ite (fun _ => ?_) fun _ => ?_
        · exact .bind (.pure rfl) hclose
        · refine .set hstart ((hl.simple _ _).then fun key => (moves_expect _ _).then fun _ => ?_)
          exact (hl.pattern _ _).then fun value => .bind (.pure rfl) hclose
      refine .ite (fun _ => ?_) fun _ => .bind (.pure rfl) hentry
      exact (reads_caseSplat _).then hentry

theorem alternative (e : Expect) (f : Follow) : Reads (l.alternative e f) id := by
  apply Reads.of_runs
  intro lo
  rw [CaseLevel.alternative]
  refine .peek fun next htoken hquote => ?_
  cases next with
  | quote q after => exact hl.level.strings f _ (hquote q after rfl)
  | token at_ =>
      have hskip : ∀ n, Read lo [] (at_.skip n).offset := fun n => (htoken at_ rfl).skip n
      dsimp only
      split
      · exact .set (hskip 1) (hl.list _ _).last
      · exact .set (hskip 1) (hl.list _ _).last
      · exact .set (hskip 1) (hl.entries _).last
      · exact (reads_caseSplat e).last
      · exact .set (hskip 1) ((moves_caseNumber _ f).then fun _ => .pure rfl)
      · refine .ite (fun _ => ?_) fun _ => ?_
        · exact (moves_caseNumber e f).then fun _ => .pure rfl
        · refine (reads_bound_name _ _).then fun t => .ite (fun _ => ?_) fun _ => ?_
          · exact .pure_of fun _ h => h.drop
          · refine (reads_dottedTail f _).then fun names => ?_
            have hdotted : ∀ hi, Read lo [Tree.bound [t], Tree.bound names] hi →
                Read lo [.node .dottedName .plain (t :: names)] hi :=
              fun _ h => h.bound_append.declared rfl .plain
            refine .regroup hdotted ((moves_accept _ _).fork ?_ (.pure rfl))
            exact (hl.list _ _).then fun rest => .pure rfl
  | _ => exact .failure

theorem alternatives (f : Follow) (fuel : Nat) (e : Expect) :
    Reads (l.alternatives f fuel e) id := by
  induction fuel generalizing e with
  | zero => exact reads_failure
  | succ fuel ih =>
      apply Reads.of_runs
      intro lo
      rw [CaseLevel.alternatives]
      refine (hl.alternative e f).then fun t => (moves_accept _ _).fork ?_ (.pure rfl)
      exact (ih _).then fun rest => .pure rfl

theorem patternHere (e : Expect) (f : Follow) : Reads (l.patternHere e f) id := by
  apply Reads.of_runs
  intro lo
  rw [CaseLevel.patternHere]
  refine .here fun start hstart => (moves_peekWord e).then fun w => ?_
  extract_lets behind
  have hbehind : ∀ key, Runs lo key (behind key) id := by
    intro key
    refine (hl.alternatives f _ _).then fun t => (reads_caseNames f _).then fun names => ?_
    exact .pure rfl
  refine .ite (fun _ => .bind (.pure rfl) hbehind) fun _ => ?_
  refine (reads_name _ _).then fun t => (moves_accept _ _).fork ?_ ?_
  · exact .bind (.pure rfl) hbehind
  · exact .set hstart (.bind (.pure rfl) hbehind)

end CaseLevel.Sound

theorem Level.Sound.caseLevel {l : Level src} (hl : l.Sound) (n : Nat) : (caseLevel l n).Sound := by
  induction n with
  | zero => exact ⟨hl, fun _ _ => reads_failure, fun _ _ => reads_failure⟩
  | succ n ih => exact ⟨hl, fun e f => ih.patternHere e f, fun e f => ih.alternatives f _ e⟩

theorem Level.Sound.casePattern {l : Level src} (hl : l.Sound) (e : Expect) (f : Follow) :
    Reads (l.casePattern e f) id :=
  (hl.caseLevel _).pattern e f

end LookupBench.Source
