import LookupBench.Proofs.Source.Reading.Brackets
import LookupBench.Source.Expression

/-!
# What expressions have read

Trailers bind to the operand in front of them, and a star takes a part of the chain: however that
is put together, the identifiers stay in order.
-/

namespace LookupBench.Source

variable {src : List Char}

/-! ### Other roles -/

namespace Tree

@[simp] theorem role_withRole (role : Role) (t : Tree src) : (t.withRole role).role = role := by
  cases t <;> rfl

@[simp] theorem names_withRole_cons (role : Role) (t : Tree src) (ts : List (Tree src)) :
    names (t.withRole role :: ts) = names (t :: ts) := by
  cases t <;> simp [withRole]

@[simp] theorem shaped_withRole_cons {role : Role} {t : Tree src} {ts : List (Tree src)} :
    Shaped (t.withRole role :: ts) ↔ Shaped (t :: ts) := by
  cases t <;> simp [withRole]

end Tree

theorem Read.withRole {lo hi : Nat} {t : Tree src} {ts : List (Tree src)}
    (h : Read lo (t :: ts) hi) (role : Role) : Read lo (t.withRole role :: ts) hi :=
  h.congr (by simp) (by simp [h.shaped])

/-! ### Chains -/

def Trailer.parts : Trailer src → List (Tree src)
  | .attribute name => [name]
  | .arguments parts => parts
  | .subscript parts => parts

namespace Read

variable {lo hi : Nat}

theorem trailer {t : Term src} {behind : Trailer src} (h : Read lo (t.tree :: behind.parts) hi) :
    Read lo [(behind.bind t).tree] hi := by
  cases behind with
  | «attribute» name => exact (h.withRole _).node (Kind.fits_of_free rfl rfl _) .plain
  | arguments parts =>
      have happend : Read lo ([t.tree] ++ parts) hi := h
      have hcall : Read lo [t.tree, .group parts] hi := happend.replace_right fun _ h => h.group
      exact (hcall.withRole _).node (Kind.fits_of_free rfl rfl _) .plain
  | subscript parts => exact h.group

theorem trailers {t : Term src} {behind : List (Trailer src)}
    (h : Read lo ([t.tree] ++ behind.flatMap Trailer.parts) hi) :
    Read lo [(behind.foldl Trailer.bind t).tree] hi := by
  induction behind generalizing t with
  | nil => exact h
  | cons first rest ih =>
      rw [List.flatMap_cons, ← List.append_assoc] at h
      exact ih (h.replace_left fun _ h => h.trailer)

theorem starChain {base t : Term src} {behind : List (Trailer src)}
    (h : Read lo ([base.tree] ++ behind.flatMap Trailer.parts) hi)
    (ht : starChain base behind = some t) : Read lo [t.tree] hi := by
  unfold Source.starChain at ht
  dsimp only at ht
  split at ht
  · cases ht
    exact h.trailers.group
  · split at ht
    · cases ht
      have hstarred : Read lo ([.group [base.tree]] ++ behind.flatMap Trailer.parts) hi :=
        h.replace_left fun _ h => h.group
      exact hstarred.trailers
    · split at ht
      · cases ht
      next place rest hrest =>
        cases ht
        -- up to the first place, and behind it
        have hsplit : behind = (behind.takeWhile (fun t => !t.isPlace) ++ [place]) ++ rest := by
          rw [List.append_assoc, List.singleton_append, ← hrest]
          exact (List.prefix_iff_eq_append.1 (List.takeWhile_prefix _)).symm
        rw [hsplit, List.flatMap_append, ← List.append_assoc] at h
        exact trailers (h.replace_left fun _ h => h.trailers.group)

end Read

theorem moves_awaits (f : Follow) : Moves (awaits f : Parse src Bool) :=
  .of_runs fun _ => (moves_peekMark _ _).fork (.pure rfl) (moves_startsOperand _ _).last

namespace Level.Sound

variable {l : Level src} (hl : l.Sound)

include hl

theorem atom (e : Expect) (f : Follow) : Reads (l.atom e f) fun t => [t.tree] := by
  apply Reads.of_runs
  intro lo
  rw [Level.atom]
  refine .peek fun next htoken hquote => ?_
  cases next with
  | quote q after =>
      refine (hl.strings f _ (hquote q after rfl)).bind fun ts => ?_
      exact .pure_of fun _ h => h.group
  | token at_ =>
      have hskip : ∀ n, Read lo [] (at_.skip n).offset := fun n => (htoken at_ rfl).skip n
      dsimp only
      split
      · exact .set (hskip 1) (hl.collection _).last
      · exact .set (hskip 1) (hl.collection _).last
      · exact .set (hskip 1) hl.braces.last
      · exact .set (hskip 3) (.pure_of fun _ h => h.group)
      · refine .ite (fun _ => ?_) fun _ => ?_
        · exact .set (hskip _) (.pure_of fun _ h => h.group)
        · refine (reads_name _ _).then fun t => .ite (fun _ => ?_) fun _ => .pure rfl
          exact .pure_of fun _ h => h.drop.group
  | _ => exact .failure

theorem trailers (f : Follow) (fuel : Nat) :
    Reads (l.trailers f fuel) fun ts => ts.flatMap Trailer.parts := by
  induction fuel with
  | zero => exact reads_failure
  | succ fuel ih =>
      apply Reads.of_runs
      intro lo
      rw [Level.trailers]
      refine (moves_accept _ _).fork ?_ ((moves_accept _ _).fork ?_ ?_)
      · exact (reads_name _ _).then fun n => ih.then fun rest => .pure rfl
      · exact (hl.arguments _).then fun parts => ih.then fun rest => .pure rfl
      · refine (moves_accept _ _).fork ?_ (.pure rfl)
        exact (hl.subscripts _ _).then fun parts => ih.then fun rest => .pure rfl

theorem starred (f : Follow) : Reads (l.starred f) fun t => [t.tree] := by
  apply Reads.of_runs
  intro lo
  rw [Level.starred]
  refine .here fun start hstart => (moves_acceptWord _ _).then fun awaited => ?_
  extract_lets chain behind
  have hchain : ∀ base, Runs lo [base.tree] (chain base) fun t => [t.tree] := by
    intro base
    refine (hl.trailers f _).then fun trailers => ?_
    split
    next t ht => exact .pure_of fun _ h => h.starChain ht
    next => exact .failure
  have hbehind : ∀ u, Runs lo [] (behind u) fun t => [t.tree] := by
    intro u
    refine .set hstart ((moves_accept _ _).fork ?_ ?_)
    · exact (hl.atom _ f).then fun t => .bind (.pure_of fun _ h => h.group) hchain
    · exact (hl.atom _ f).then hchain
  refine .ite (fun _ => ?_) fun _ => hbehind ⟨⟩
  exact (moves_awaits f).fork (.bind .failure hbehind) (hbehind ⟨⟩)

/-! ### Parameters -/

theorem starTarget (e : Expect) (f : Follow) : Reads (l.starTarget e f) fun t => [t] := by
  apply Reads.of_runs
  intro lo
  rw [Level.starTarget]
  exact (hl.pattern e f).then fun t => .ite (fun _ => .pure rfl) fun _ => .failure

theorem tuplePattern (fuel : Nat) : Reads (l.tuplePattern fuel) id := by
  induction fuel with
  | zero => exact reads_failure
  | succ fuel ih =>
      apply Reads.of_runs
      intro lo
      rw [Level.tuplePattern]
      refine (moves_accept _ _).fork (.pure rfl) ?_
      refine (hl.pattern _ _).then fun t => (moves_accept _ _).fork ?_ ?_
      · exact ih.then fun rest => .pure rfl
      · exact (moves_expect _ _).then fun _ => .pure rfl

end Level.Sound

def Parameter.trees : Parameter src → List (Tree src)
  | .name t | .tuple t | .starred t => [t]
  | .separator => []

/-- What a parameter has behind its name. -/
theorem Read.defaulted {lo hi : Nat} {t : Tree src} {behind : List (Tree src)}
    (h : Read lo (t :: behind) hi) {kind : Kind} (hkind : kind.isBinding = false) :
    Read lo [.node kind .plain (t.withRole .name :: behind)] hi :=
  (h.withRole .name).node (Kind.fits_of_takesDefault hkind (by simp)) .plain

namespace Level.Sound

variable {l : Level src} (hl : l.Sound)

include hl

theorem parameterHead (e : Expect) (f : Follow) :
    Reads (l.parameterHead e f) Parameter.trees := by
  apply Reads.of_runs
  intro lo
  rw [Level.parameterHead]
  refine (moves_accept _ _).fork ?_ ((moves_accept _ _).fork ?_ ((moves_accept _ _).fork ?_ ?_))
  · refine (hl.starTarget _ f).then fun t => .pure_of fun _ h => ?_
    exact h.node (Kind.fits_of_free rfl rfl _) .plain
  · refine (moves_startsOperand _ _).fork ?_ (.pure rfl)
    refine (hl.starTarget _ f).then fun t => .pure_of fun _ h => ?_
    exact h.node (Kind.fits_of_free rfl rfl _) .plain
  · exact .pure rfl
  · refine (moves_accept _ _).fork ?_ ((reads_name _ _).then fun t => .pure rfl)
    exact (hl.tuplePattern _).then fun ts => .pure_of fun _ h => h.group

theorem parameter (typed : Bool) (e : Expect) (f : Follow) :
    Reads (l.parameter typed e f) fun t => [t] := by
  apply Reads.of_runs
  intro lo
  unfold Level.parameter
  extract_lets behind type? value?
  have htype : Reads type? Option.toList := by
    apply Reads.of_runs
    intro lo
    refine .ite (fun _ => .pure rfl) fun _ => (moves_accept _ _).fork ?_ (.pure rfl)
    exact (hl.annotation _ f _).then fun type => .pure rfl
  have hvalue : Reads value? Option.toList := by
    apply Reads.of_runs
    intro lo
    refine (moves_accept _ _).fork ?_ (.pure rfl)
    exact (hl.expression _ f).then fun value => .pure rfl
  refine (hl.parameterHead e f).then fun head => ?_
  cases head with
  | separator => exact .pure_of fun _ h => h.group
  | starred t =>
      refine htype.then fun type => ?_
      cases type with
      | none => exact .pure rfl
      | some type => exact .pure_of fun _ h => h.node (Kind.fits_of_free rfl rfl _) .plain
  | tuple t =>
      refine hvalue.then fun value => ?_
      cases value with
      | none => exact .pure rfl
      | some value => exact .pure_of fun _ h => h.defaulted rfl
  | name t =>
      refine htype.then fun type => hvalue.then fun value => ?_
      cases type with
      | none =>
          cases value with
          | none => exact .pure rfl
          | some value => exact .pure_of fun _ h => h.defaulted rfl
      | some type =>
          cases value with
          | none => exact .pure_of fun _ h => h.node (Kind.fits_of_free rfl rfl _) .plain
          | some value => exact .pure_of fun _ h => h.defaulted rfl

theorem parameterList (typed : Bool) (close : Char) (f : Follow) (fuel : Nat) :
    Reads (l.parameterList typed close f fuel) id := by
  induction fuel with
  | zero => exact reads_failure
  | succ fuel ih =>
      apply Reads.of_runs
      intro lo
      rw [Level.parameterList]
      refine (moves_accept _ _).fork (.pure rfl) ?_
      refine (hl.parameter typed _ f).then fun t => (moves_accept _ _).fork ?_ ?_
      · exact ih.then fun rest => .pure rfl
      · exact (moves_expect _ _).then fun _ => .pure rfl

theorem lambda (f : Follow) : Reads (l.lambda f) fun t => [t.tree] := by
  apply Reads.of_runs
  intro lo
  rw [Level.lambda]
  refine (hl.parameterList _ _ _ _).then fun parameters => ?_
  refine (hl.expression _ _).then fun body => .pure_of fun _ h => ?_
  exact Read.group (h.replace_left fun _ h => h.node (Kind.fits_of_free rfl rfl _) .plain)

/-! ### Operators -/

theorem operand (f : Follow) (fuel : Nat) (place : Place) (e : Expect) :
    Reads (l.operand f fuel place e) fun t => [t.tree] := by
  have hchain : ∀ {lo} (e : Expect), Runs lo [] (Level.operand.chain l f e) fun t => [t.tree] := by
    intro lo e
    refine (hl.atom e f).then fun t => (hl.trailers f _).then fun behind => ?_
    exact .pure_of fun _ h => h.trailers
  induction fuel generalizing place e with
  | zero => exact reads_failure
  | succ fuel ih =>
      apply Reads.of_runs
      intro lo
      rw [Level.operand]
      refine (moves_peekText _).then fun cs => ?_
      cases cs with
      | nil => exact hchain e
      | cons c rest =>
          refine .ite (fun _ => ?_) fun _ => .ite (fun _ => ?_) fun _ => ?_
          · refine (moves_pass _ _).then fun _ => (ih _ _).then fun t => ?_
            exact .pure_of fun _ h => h.group
          · exact (moves_pass _ _).then fun _ => (hl.starred f).last
          · refine .ite (fun _ => ?_) fun _ => .ite (fun _ => ?_) fun _ => hchain e
            · exact (moves_pass _ _).then fun _ => (hl.lambda f).last
            · refine .here fun start hstart => (moves_pass _ _).then fun _ => ?_
              refine (moves_awaits f).fork ?_ (.set hstart (hchain e))
              exact (ih _ _).then fun t => .pure_of fun _ h => h.group

theorem operator (f : Follow) (named : Bool) :
    Reads (l.operator f named) fun next => (next.map (·.2)).getD [] := by
  apply Reads.of_runs
  intro lo
  rw [Level.operator]
  refine (moves_peekText _).then fun cs => .ite (fun _ => ?_) fun _ => .ite (fun _ => ?_) fun _ => ?_
  · exact (moves_pass _ _).then fun _ => .pure rfl
  · exact (moves_pass _ _).then fun _ => .pure rfl
  · refine .ite (fun _ => .pure rfl) fun _ => (moves_pass _ _).then fun _ => ?_
    refine .ite (fun _ => ?_) fun _ => .ite (fun _ => ?_) fun _ => ?_
    · exact (moves_expectWord _ _).then fun _ => .pure rfl
    · exact (moves_acceptWord _ _).then fun _ => .pure rfl
    · refine .ite (fun _ => .pure rfl) fun _ => .ite (fun _ => ?_) fun _ => .pure rfl
      refine (hl.expression _ _).then fun condition => ?_
      exact (moves_expectWord _ _).then fun _ => .pure rfl

theorem operations {lo : Nat} (f : Follow) (fuel : Nat) (done : Option (List (Tree src)))
    (place : Place) (e : Expect) :
    Runs lo (done.getD []) (l.operations f fuel done place e) fun t => [t.tree] := by
  induction fuel generalizing f done place e with
  | zero => exact .failure
  | succ fuel ih =>
      unfold Level.operations
      extract_lets behind
      have hbehind : ∀ negated, Runs lo (done.getD []) (behind negated) fun t => [t.tree] := by
        intro negated
        refine .ite (fun _ => ih _ (some (done.getD [])) _ _) fun _ => ?_
        refine (hl.operand f _ place e).then fun t => (hl.operator f _).then fun next => ?_
        cases next with
        | none =>
            cases done with
            | none => exact .pure rfl
            | some before =>
                refine .pure_of fun _ h => ?_
                simpa using h.group
        | some next => simpa using ih _ (some (done.getD [] ++ t.tree :: next.2)) next.1 _
      refine .ite (fun _ => ?_) fun _ => ?_
      · exact (moves_acceptWord _ _).then hbehind
      · exact .bind (.pure rfl) hbehind

theorem expressionHere (e : Expect) (f : Follow) : Reads (l.expressionHere e f) fun t => [t.tree] :=
  .of_runs fun _ => hl.operations f _ none _ e

theorem patternHere (e : Expect) (f : Follow) : Reads (l.patternHere e f) fun t => [t.tree] := by
  apply Reads.of_runs
  intro lo
  rw [Level.patternHere]
  exact (hl.operand f _ _ e).then fun t => .ite (fun _ => .pure rfl) fun _ => .failure

end Level.Sound

end LookupBench.Source
