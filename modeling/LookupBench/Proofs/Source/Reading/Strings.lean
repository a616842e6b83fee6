import LookupBench.Proofs.Source.Reading
import LookupBench.Source.Strings

/-!
# What strings have read

The pieces of a string lead on, and what has been read in it is what its interpolations hold.
-/

namespace LookupBench.Source

variable {src : List Char}

@[simp] theorem Term.tree_value (ts : List (Tree src)) : (Term.value ts).tree = .group ts := rfl

/-- The parsers for what stands inside constructs read trees between the places where they begin
and end. -/
structure Level.Sound (l : Level src) : Prop where
  expression (e : Expect) (f : Follow) : Reads (l.expression e f) fun t => [t.tree]
  pattern (e : Expect) (f : Follow) : Reads (l.pattern e f) fun t => [t.tree]
  annotation (e : Expect) (f : Follow) (constrained : Bool) :
    Reads (l.annotation e f constrained) fun t => [t]
  suite : Reads l.suite fun t => [t]

/-- With no nesting left, nothing is read. -/
theorem Level.sound_bottom : (Level.bottom : Level src).Sound where
  expression _ _ := reads_failure
  pattern _ _ := reads_failure
  annotation _ _ _ := reads_failure
  suite := reads_failure

theorem moves_startsOperand (e : Expect) (words : List String) :
    Moves (startsOperand e words : Parse src Bool) := by
  apply Reads.of_runs
  intro lo
  refine (moves_peek e).then fun next => ?_
  cases next with
  | token at_ => exact .ite (fun _ => .pure rfl) fun _ => .pure rfl
  | _ => exact .pure rfl

/-! ### Pieces -/

/-- Where the next piece of a string leads. -/
def Piece.after? : Piece src → Option (Cursor src)
  | .text after | .close after | .brace after => some after
  | .broken => none

theorem offset_of_oddPiece {c after : Cursor src} (h : (oddPiece c).after? = some after) :
    c.offset ≤ after.offset := by
  have hblanks := offset_passBlanks c
  unfold oddPiece at h
  dsimp only at h
  repeat' split at h
  all_goals first
    | cases h
      exact Nat.le_add_right _ _
    | cases h
      exact hblanks.trans (Nat.le_add_right _ _)
    | cases h

theorem offset_of_piece {q : Quote} {c after : Cursor src} (h : (piece q c).after? = some after) :
    c.offset ≤ after.offset := by
  have hplain : ∀ {after : Cursor src}, (piece.plain q c).after? = some after →
      c.offset ≤ after.offset := by
    intro after h
    unfold piece.plain at h
    split at h
    · cases h
      exact Nat.le_add_right _ _
    · cases h
      exact Nat.le_add_right _ _
    · exact offset_of_oddPiece h
  unfold piece at h
  repeat' split at h
  all_goals first
    | exact hplain h
    | cases h
      exact Nat.le_add_right _ _

theorem reads_formatSpec (l : Level src) {interpolation : Parse src (List (Tree src))}
    (h : Reads interpolation id) (fuel : Nat) : Reads (l.formatSpec interpolation fuel) id := by
  induction fuel with
  | zero => exact reads_failure
  | succ fuel ih =>
      apply Reads.of_runs
      intro lo
      rw [Level.formatSpec]
      refine .here fun start _ => .ite (fun _ => ?_) fun _ => ?_
      · exact (moves_modify fun c => Nat.le_add_right _ _).then fun _ => ih.last
      · refine (moves_accept _ _).fork ?_ (.pure rfl)
        exact h.then fun inner => ih.then fun rest => .pure rfl

namespace Level.Sound

variable {l : Level src} (hl : l.Sound)

include hl

theorem expressionList (f : Follow) (fuel : Nat) (e : Expect) :
    Reads (l.expressionList f fuel e) fun r => r.1.map (·.tree) := by
  induction fuel generalizing e with
  | zero => exact reads_failure
  | succ fuel ih =>
      apply Reads.of_runs
      intro lo
      rw [Level.expressionList]
      refine (hl.expression e f).then fun t => (moves_accept _ _).fork ?_ (.pure rfl)
      refine (moves_startsOperand _ _).fork ?_ (.pure rfl)
      exact (ih _).then fun rest => .pure rfl

theorem yieldRest (f : Follow) : Reads (l.yieldRest f) fun t => [t] := by
  apply Reads.of_runs
  intro lo
  rw [Level.yieldRest]
  refine (moves_acceptWord _ _).fork ?_ ((moves_startsOperand _ _).fork ?_ ?_)
  · exact (hl.expression _ f).then fun t => .pure_of fun _ h => h.group
  · exact (hl.expressionList f _ _).then fun ts => .pure_of fun _ h => h.group
  · exact .pure_of fun _ h => h.group

theorem interpolation (fuel : Nat) : Reads (l.interpolation fuel) id := by
  induction fuel with
  | zero => exact reads_failure
  | succ fuel ih =>
      apply Reads.of_runs
      intro lo
      rw [Level.interpolation]
      refine (moves_acceptWord _ _).then fun yields => ?_
      extract_lets e behind
      have hbehind : ∀ body, Runs lo body (behind body) id := by
        intro body
        refine (moves_accept _ _).then fun _ => (moves_peekText _).then fun cs => ?_
        extract_lets finish format
        have hfinish : ∀ spec, Runs lo (body ++ spec) (finish spec) id :=
          fun spec => (moves_expect _ _).then fun _ => .pure rfl
        have hformat : ∀ u, Runs lo body (format u) id := by
          intro u
          refine (moves_accept _ _).fork ?_ ?_
          · exact (reads_formatSpec l ih _).then hfinish
          · exact .bind (.pure (List.append_nil body)) hfinish
        split
        · exact .ite (fun _ => (moves_pass _ _).then hformat) fun _ => .bind .failure hformat
        · exact hformat ()
      refine .ite (fun _ => ?_) fun _ => ?_
      · exact (hl.yieldRest _).then fun t => .bind (.pure rfl) hbehind
      · exact (hl.expressionList _ _ _).then fun ts => .bind (.pure rfl) hbehind

theorem pieces (q : Quote) (fuel : Nat) : Reads (l.pieces q fuel) id := by
  induction fuel with
  | zero => exact reads_failure
  | succ fuel ih =>
      apply Reads.of_runs
      intro lo
      rw [Level.pieces]
      refine .here fun start hstart => ?_
      have hafter : ∀ {after}, (piece q start).after? = some after → Read lo [] after.offset :=
        fun h => hstart.mono (offset_of_piece h)
      cases hpiece : piece q start with
      | text after => exact .set (hafter (by rw [hpiece]; rfl)) ih.last
      | close after => exact .set (hafter (by rw [hpiece]; rfl)) (.pure rfl)
      | brace after =>
          refine .set (hafter (by rw [hpiece]; rfl)) ?_
          exact (hl.interpolation _).then fun inner => ih.then fun rest => .pure rfl
      | broken => exact .failure

/-- Strings are begun where layout has found the first. -/
theorem strings {lo : Nat} {before before' : List (Tree src)} (f : Follow) (fuel : Nat) {q : Quote}
    {after : Cursor src} (h : Read lo before after.offset) :
    Runs lo before' (l.strings f fuel q after) fun ts => before ++ ts := by
  induction fuel generalizing q after before before' with
  | zero => exact .failure
  | succ fuel ih =>
      rw [Level.strings]
      refine .set h ((hl.pieces q _).then fun inner => .peek fun next _ hquote => ?_)
      cases next with
      | quote q after =>
          refine .bind (ih (hquote q after rfl)) fun rest => .pure ?_
          rw [List.append_assoc]
          rfl
      | _ => exact .pure rfl

end Level.Sound

end LookupBench.Source
