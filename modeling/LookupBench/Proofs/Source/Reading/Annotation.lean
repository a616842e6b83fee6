import LookupBench.Proofs.Source.Reading.Expression
import LookupBench.Source.Annotation

/-!
# What types have read

Whether a star begins a type of its own is found out ahead and read from the start again.
-/

namespace LookupBench.Source

variable {src : List Char}

theorem moves_startsSplat (e : Expect) (f : Follow) : Moves (startsSplat e f : Parse src Bool) := by
  apply Reads.of_runs
  intro lo
  rw [startsSplat]
  refine .here fun start hstart => (moves_accept _ _).then fun starred => ?_
  extract_lets behind
  have hbehind : ∀ w, Runs lo [] (behind w) fun _ => [] := by
    intro w
    refine .ite (fun _ => .set hstart (.pure rfl)) fun _ => (moves_pass _ _).then fun _ => ?_
    exact (moves_peekText _).then fun text => .set hstart (.pure rfl)
  refine .ite (fun _ => ?_) fun _ => ?_
  · exact (moves_peekWord _).then hbehind
  · exact .bind (.pure rfl) hbehind

namespace Level.Sound

variable {l : Level src} (hl : l.Sound)

include hl

theorem typeArguments (fuel : Nat) (e : Expect) : Reads (l.typeArguments fuel e) id := by
  induction fuel generalizing e with
  | zero => exact reads_failure
  | succ fuel ih =>
      apply Reads.of_runs
      intro lo
      rw [Level.typeArguments]
      refine (hl.annotation e _ _).then fun t => (moves_accept _ _).fork ?_ ?_
      · refine (moves_accept _ _).fork (.pure rfl) ?_
        exact (ih _).then fun rest => .pure rfl
      · exact (moves_expect _ _).then fun _ => .pure rfl

theorem typeHead (e : Expect) (f : Follow) : Reads (l.typeHead e f) id := by
  apply Reads.of_runs
  intro lo
  rw [Level.typeHead]
  have hplain : Runs lo [] (do return [(← l.expression e f).tree]) id :=
    (hl.expression e f).then fun t => .pure rfl
  refine (moves_accept _ _).fork ?_ ((moves_startsSplat e f).fork ?_ ?_)
  · exact (reads_name _ _).then fun t => .pure rfl
  · exact (moves_expect _ _).then fun _ => (reads_name _ _).then fun t => .pure rfl
  · refine .here fun start hstart => (moves_peekWord e).then fun w => ?_
    refine .ite (fun _ => hplain) fun _ => (reads_name _ _).then fun t => ?_
    refine (moves_accept _ _).fork ?_ (.set hstart hplain)
    exact (hl.typeArguments _ _).then fun rest => .pure rfl

theorem typeTail (f : Follow) (constrained : Bool) (fuel : Nat) :
    Reads (l.typeTail f constrained fuel) id := by
  induction fuel with
  | zero => exact reads_failure
  | succ fuel ih =>
      apply Reads.of_runs
      intro lo
      rw [Level.typeTail]
      have hnext : Runs lo [] (do
          let t ← l.typeHead { quote := true } f
          return t ++ (← l.typeTail f constrained fuel)) id :=
        (hl.typeHead _ f).then fun t => ih.then fun rest => .pure rfl
      refine (moves_accept _ _).fork hnext ((moves_accept _ _).fork ?_ ?_)
      · exact (reads_name _ _).then fun t => ih.then fun rest => .pure rfl
      · exact .ite (fun _ => .pure rfl) fun _ => (moves_accept _ _).fork hnext (.pure rfl)

theorem annotationHere (e : Expect) (f : Follow) (constrained : Bool) :
    Reads (l.annotationHere e f constrained) fun t => [t] := by
  apply Reads.of_runs
  intro lo
  rw [Level.annotationHere]
  refine (hl.typeHead e f).then fun head => (hl.typeTail f _ _).then fun tail => ?_
  exact .pure_of fun _ h => h.group

theorem typeParameters : Reads l.typeParameters id := by
  apply Reads.of_runs
  intro lo
  rw [Level.typeParameters]
  exact (moves_accept _ _).fork (hl.typeArguments _ _).last (.pure rfl)

end Level.Sound

end LookupBench.Source
