import LookupBench.Proofs.Source.Shape
import LookupBench.Source.Parser

/-!
# What a parser has read

A parser that goes on behind trees that stand up to a place leaves trees that stand up to the place
where it ends. A parser is followed step by step with the trees that its steps have read so far. One
that goes back to a place it has kept has read, from there on, what was read when it kept the place.
-/

namespace LookupBench.Source

variable {src : List Char} {α β : Type} {lo : Nat} {before : List (Tree src)}

/-- The parser, begun behind the trees `before`, ends behind the trees `f a` for its result `a`. -/
def Runs (lo : Nat) (before : List (Tree src)) (p : Parse src α) (f : α → List (Tree src)) : Prop :=
  ∀ c a c', Read lo before c.offset → p c = some (a, c') → Read lo (f a) c'.offset

/-- The trees `f a` of a parser's result `a` stand between the places where it begins and ends. -/
def Reads (p : Parse src α) (f : α → List (Tree src)) : Prop :=
  ∀ c a c', p c = some (a, c') → Read c.offset (f a) c'.offset

/-- The parser goes on and reads no trees. -/
def Moves (p : Parse src α) : Prop := Reads p fun _ => []

/-! ### Steps -/

theorem bind_eq_some {p : Parse src α} {q : α → Parse src β} {c : Cursor src}
    {r : β × Cursor src} : (p >>= q) c = some r ↔ ∃ a c', p c = some (a, c') ∧ q a c' = some r := by
  constructor
  · intro h
    simp only [bind, StateT.bind] at h
    obtain ⟨⟨a, c'⟩, hp, hq⟩ := Option.bind_eq_some_iff.1 h
    exact ⟨a, c', hp, hq⟩
  · rintro ⟨a, c', hp, hq⟩
    exact Option.bind_eq_some_iff.2 ⟨(a, c'), hp, hq⟩

theorem Reads.of_runs {p : Parse src α} {f : α → List (Tree src)}
    (h : ∀ lo, Runs lo [] p f) : Reads p f :=
  fun c a c' heq => h c.offset c a c' (.nil le_rfl) heq

namespace Runs

variable {p : Parse src α} {f g : α → List (Tree src)} {q : α → Parse src β}
  {h : β → List (Tree src)}

theorem pure {a : α} (ha : f a = before) : Runs lo before (Pure.pure a) f := by
  intro c a' c' hread heq
  cases heq
  exact ha ▸ hread

/-- What has been read is put together otherwise. -/
theorem pure_of {a : α} (ha : ∀ hi, Read lo before hi → Read lo (f a) hi) :
    Runs lo before (Pure.pure a) f := by
  intro c a' c' hread heq
  cases heq
  exact ha _ hread

/-- What has been read is put together otherwise before the parser goes on. -/
theorem regroup {before' : List (Tree src)} (hbefore : ∀ hi, Read lo before hi → Read lo before' hi)
    (hp : Runs lo before' p f) : Runs lo before p f :=
  fun c a c' hread heq => hp c a c' (hbefore _ hread) heq

theorem failure : Runs lo before (failure : Parse src α) f := by
  intro c a c' _ heq
  cases heq

theorem bind (hp : Runs lo before p f) (hq : ∀ a, Runs lo (f a) (q a) h) :
    Runs lo before (p >>= q) h := by
  intro c b c' hread heq
  obtain ⟨a, c₁, hfirst, hrest⟩ := bind_eq_some.1 heq
  exact hq a c₁ b c' (hp c a c₁ hread hfirst) hrest

theorem ite {test : Prop} [Decidable test] {p p' : Parse src α} (hp : test → Runs lo before p f)
    (hp' : ¬ test → Runs lo before p' f) : Runs lo before (if test then p else p') f := by
  split
  next htest => exact hp htest
  next htest => exact hp' htest

theorem either {p p' : Parse src α} (hp : Runs lo before p f) (hp' : Runs lo before p' f) :
    Runs lo before (fun c => (p c).orElse fun _ => p' c) f := by
  intro c a c' hread heq
  dsimp only at heq
  cases hfirst : p c with
  | none =>
      rw [hfirst] at heq
      exact hp' c a c' hread heq
  | some r =>
      rw [hfirst] at heq
      obtain rfl := Option.some.inj heq
      exact hp c a c' hread hfirst

/-- The place is kept; what has been read up to it is known of it from then on. -/
theorem here {q : Cursor src → Parse src β}
    (hq : ∀ start : Cursor src, Read lo before start.offset → Runs lo before (q start) h) :
    Runs lo before (here >>= q) h :=
  fun c b c' hread heq => hq c hread c b c' hread heq

/-- Going to a place: what counts is what has been read up to there. -/
theorem set {start : Cursor src} {q : PUnit → Parse src β} {before' : List (Tree src)}
    (hstart : Read lo before start.offset) (hq : Runs lo before (q ⟨⟩) h) :
    Runs lo before' (MonadStateOf.set start >>= q) h :=
  fun _ b c' _ heq => hq start b c' hstart heq

end Runs

/-- A step that reads trees. -/
theorem Reads.then {p : Parse src α} {f : α → List (Tree src)} {q : α → Parse src β}
    {h : β → List (Tree src)} (hp : Reads p f)
    (hq : ∀ a, Runs lo (before ++ f a) (q a) h) : Runs lo before (p >>= q) h := by
  intro c b c' hread heq
  obtain ⟨a, c₁, hfirst, hrest⟩ := bind_eq_some.1 heq
  exact hq a c₁ b c' (hread.append (hp c a c₁ hfirst)) hrest

/-- The last step. -/
theorem Reads.last {p : Parse src α} {f : α → List (Tree src)} (hp : Reads p f) :
    Runs lo before p fun a => before ++ f a :=
  fun c a c' hread heq => hread.append (hp c a c' heq)

/-- A step that only goes on. -/
theorem Moves.then {p : Parse src α} {q : α → Parse src β} {h : β → List (Tree src)}
    (hp : Moves p) (hq : ∀ a, Runs lo before (q a) h) : Runs lo before (p >>= q) h := by
  intro c b c' hread heq
  obtain ⟨a, c₁, hfirst, hrest⟩ := bind_eq_some.1 heq
  exact hq a c₁ b c' (hread.mono (hp c a c₁ hfirst).le) hrest

/-- A test that only goes on, and what is done either way. -/
theorem Moves.fork {p : Parse src Bool} {q q' : Parse src β} {h : β → List (Tree src)}
    (hp : Moves p) (hq : Runs lo before q h) (hq' : Runs lo before q' h) :
    Runs lo before (p >>= fun test => if test = true then q else q') h :=
  hp.then fun _ => .ite (fun _ => hq) fun _ => hq'

theorem reads_failure {f : α → List (Tree src)} : Reads (failure : Parse src α) f :=
  .of_runs fun _ => .failure

theorem moves_modify {step : Cursor src → Cursor src}
    (h : ∀ c, c.offset ≤ (step c).offset) : Moves (modify step : Parse src PUnit) := by
  intro c a c' heq
  cases heq
  exact .nil (h c)

/-- Margins may be opened and closed. -/
theorem moves_margins {margins : Cursor src → List Nat} :
    Moves (modify fun c => { c with margins := margins c } : Parse src PUnit) :=
  moves_modify fun _ => le_rfl

/-! ### What comes next -/

theorem offset_passBlanks (c : Cursor src) : c.offset ≤ (passBlanks c).offset :=
  Nat.le_add_right _ _

theorem offset_of_layout {e : Expect} {c : Cursor src} {q : Quote} {after : Cursor src}
    (h : layout e c = .quote q after) : c.offset ≤ after.offset := by
  unfold layout at h
  split at h
  · cases h
  · dsimp only at h
    repeat' split at h
    all_goals first
      | cases h
        exact Nat.le_add_right _ _
      | cases h

/-- Looking ahead leads on. -/
theorem offset_of_lookWith {e : Expect} {n : Nat} {c : Cursor src} :
    (∀ at_, lookWith e n c = .token at_ → c.offset ≤ at_.offset) ∧
      ∀ q after, lookWith e n c = .quote q after → c.offset ≤ after.offset := by
  induction n generalizing c with
  | zero => simp [lookWith]
  | succ n ih =>
      have hblanks := offset_passBlanks c
      have hskip : ∀ size, (∀ at_, lookWith e n ((passBlanks c).skip size) = .token at_ →
            c.offset ≤ at_.offset) ∧
          ∀ q after, lookWith e n ((passBlanks c).skip size) = .quote q after →
            c.offset ≤ after.offset := by
        intro size
        have hsize : c.offset ≤ ((passBlanks c).skip size).offset :=
          hblanks.trans (Nat.le_add_right _ _)
        exact ⟨fun at_ h => hsize.trans (ih.1 at_ h), fun q after h => hsize.trans (ih.2 q after h)⟩
      rw [lookWith]
      cases hlayout : layout e c with
      | newline => simp
      | indent width => simp
      | dedent => simp
      | quote q after =>
          refine ⟨by simp, fun q' after' h => ?_⟩
          cases h
          exact offset_of_layout hlayout
      | nothing =>
          dsimp only
          split
          · simp
          · exact hskip _
          · split
            · exact hskip _
            · refine ⟨fun at_ h => ?_, by simp⟩
              cases h
              exact hblanks

theorem moves_peek (e : Expect) : Moves (peek e : Parse src (Look src)) := by
  intro c a c' heq
  cases heq
  exact .nil le_rfl

/-- A look at what comes next; what is behind a token or a quote has been read up to there too. -/
theorem Runs.peek {e : Expect} {q : Look src → Parse src β} {h : β → List (Tree src)}
    (hq : ∀ next, (∀ at_, next = .token at_ → Read lo before at_.offset) →
      (∀ quote after, next = .quote quote after → Read lo before after.offset) →
      Runs lo before (q next) h) :
    Runs lo before (peek e >>= q) h := by
  intro c b c' hread heq
  refine hq (look e c) (fun at_ hnext => ?_) (fun quote after hnext => ?_) c b c' hread heq
  · exact hread.mono (offset_of_lookWith.1 at_ hnext)
  · exact hread.mono (offset_of_lookWith.2 quote after hnext)

theorem Read.skip {at_ : Cursor src} (h : Read lo before at_.offset) (n : Nat) :
    Read lo before (at_.skip n).offset :=
  h.mono (Nat.le_add_right _ _)

theorem moves_peekText (e : Expect) : Moves (peekText e : Parse src (List Char)) := by
  apply Reads.of_runs
  intro lo
  refine (moves_peek e).then fun next => ?_
  split <;> exact .pure rfl

theorem moves_peekWord (e : Expect) : Moves (peekWord e : Parse src String) :=
  .of_runs fun _ => (moves_peekText e).then fun _ => .pure rfl

theorem moves_peekMark (e : Expect) (mark : List Char) : Moves (peekMark e mark : Parse src Bool) :=
  .of_runs fun _ => (moves_peekText e).then fun _ => .pure rfl

theorem moves_pass (e : Expect) (n : Nat) : Moves (pass e n : Parse src Unit) := by
  apply Reads.of_runs
  intro lo
  refine .peek fun next htoken _ => ?_
  cases next with
  | token at_ =>
      intro c a c' _ heq
      cases heq
      exact (htoken at_ rfl).skip n
  | _ => exact .failure

theorem moves_accept (e : Expect) (mark : List Char) : Moves (accept e mark : Parse src Bool) := by
  apply Reads.of_runs
  intro lo
  refine (moves_peekMark e mark).then fun found => .ite (fun _ => ?_) fun _ => .pure rfl
  exact (moves_pass e _).then fun _ => .pure rfl

theorem moves_expect (e : Expect) (mark : List Char) : Moves (expect e mark : Parse src Unit) := by
  apply Reads.of_runs
  intro lo
  exact (moves_accept e mark).then fun found => .ite (fun _ => .failure) fun _ => .pure rfl

theorem moves_acceptWord (e : Expect) (word : String) :
    Moves (acceptWord e word : Parse src Bool) := by
  apply Reads.of_runs
  intro lo
  refine (moves_peekWord e).then fun found => .ite (fun _ => ?_) fun _ => .pure rfl
  exact (moves_pass e _).then fun _ => .pure rfl

theorem moves_expectWord (e : Expect) (word : String) :
    Moves (expectWord e word : Parse src Unit) := by
  apply Reads.of_runs
  intro lo
  exact (moves_acceptWord e word).then fun found => .ite (fun _ => .failure) fun _ => .pure rfl

/-- A name is read where it stands. -/
theorem reads_name (e : Expect) (role : Role) :
    Reads (name e role : Parse src (Tree src)) fun t => [t] := by
  apply Reads.of_runs
  intro lo
  refine .peek fun next htoken _ => ?_
  cases next with
  | token at_ =>
      dsimp only
      split
      · exact .failure
      next hstands =>
        have hlo : lo ≤ at_.offset := (htoken at_ rfl).le
        have hsize : 0 < (nameAt at_.rest).length := List.length_pos_iff.2 hstands
        have hread : Read lo [.identifier role ⟨at_.offset, by rwa [← at_.rest_eq]⟩]
            (at_.skip (nameAt at_.rest).length).offset :=
          ⟨⟨hlo, Nat.add_le_add_left hsize _⟩, by simp⟩
        exact .set hread (.pure rfl)
  | _ => exact .failure

/-- A name that is read is an identifier. -/
theorem name_isIdentifier {e : Expect} {role : Role} {c c' : Cursor src} {t : Tree src}
    (h : name e role c = some (t, c')) : t.kind? = none ∧ t.role = role := by
  obtain ⟨next, c₁, -, h⟩ := bind_eq_some.1 h
  cases next with
  | token at_ =>
      dsimp only at h
      split at h
      · cases h
      · cases h
        exact ⟨rfl, rfl⟩
  | _ => cases h

end LookupBench.Source
