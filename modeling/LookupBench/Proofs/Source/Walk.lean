import LookupBench.Source.Walk
import Mathlib.Data.List.Pairwise

/-!
# What a walk meets

A walk goes down, right or up, and keeps nothing of what it has left. Here it is tied to the tree.
The number of trees that are still to come falls with each step, so no spot is met twice; and the
spots are those of the recursion over the tree. Behind a spot come those of its parts, and then all
others.
-/

namespace LookupBench.Source

variable {src : List Char}

theorem Tree.count_eq (t : Tree src) : t.count = countAll t.children + 1 := by
  cases t <;> simp [count, countAll, children]

namespace Spot

/-- Going down is going on to the first part, and else to what comes behind the spot. -/
theorem next?_eq (s : Spot src) :
    s.next? = onward? s.focus.children ((s.focus, s.right) :: s.above) := by
  rw [next?, down?]
  cases s.focus.children <;> rfl

theorem onward?_cons (t : Tree src) (rest : List (Tree src))
    (above : List (Tree src × List (Tree src))) :
    onward? (t :: rest) above = some ⟨t, rest, above⟩ := by
  cases above <;> rfl

/-! ### No spot twice -/

/-- The trees behind a place. -/
def outside (right : List (Tree src)) : List (Tree src × List (Tree src)) → Nat
  | [] => Tree.countAll right
  | (_, upRight) :: above => Tree.countAll right + outside upRight above

/-- The trees that are still to come at a spot, itself among them. -/
def remaining (s : Spot src) : Nat := s.focus.count + outside s.right s.above

theorem remaining_of_onward? {right : List (Tree src)} {above : List (Tree src × List (Tree src))}
    {s : Spot src} (h : onward? right above = some s) : s.remaining = outside right above := by
  induction above generalizing right with
  | nil =>
      cases right with
      | nil => simp [onward?] at h
      | cons t rest =>
          rw [onward?_cons] at h
          obtain rfl := Option.some.inj h
          rfl
  | cons up above ih =>
      cases right with
      | nil =>
          rw [ih h, outside, Tree.countAll, Nat.zero_add]
      | cons t rest =>
          rw [onward?_cons] at h
          obtain rfl := Option.some.inj h
          simp only [remaining, outside, Tree.countAll]
          omega

theorem remaining_of_next? {s s' : Spot src} (h : s.next? = some s') :
    s'.remaining + 1 = s.remaining := by
  rw [next?_eq] at h
  rw [remaining_of_onward? h, remaining, Tree.count_eq, outside]
  omega

end Spot

theorem pairwise_walkFrom (n : Nat) (s : Spot src) :
    (walkFrom n s).Pairwise fun first second => second.remaining < first.remaining := by
  have hle : ∀ (n : Nat) (s : Spot src), ∀ s' ∈ walkFrom n s, s'.remaining ≤ s.remaining := by
    intro n
    induction n with
    | zero => simp [walkFrom]
    | succ n ih =>
        intro s s' hs'
        rw [walkFrom] at hs'
        rcases List.mem_cons.1 hs' with rfl | hs'
        · exact Nat.le_refl _
        · split at hs'
          next next hnext =>
            have hstep := Spot.remaining_of_next? hnext
            have := ih next s' hs'
            omega
          next => simp at hs'
  induction n generalizing s with
  | zero => exact List.Pairwise.nil
  | succ n ih =>
      rw [walkFrom]
      split
      next next hnext =>
        refine List.pairwise_cons.2 ⟨fun s' hs' => ?_, ih next⟩
        have hstep := Spot.remaining_of_next? hnext
        have := hle n next s' hs'
        omega
      next => exact List.pairwise_singleton _ _

theorem nodup_walk (t : Tree src) : (walk t).Nodup := by
  apply (pairwise_walkFrom _ _).imp
  rintro s s' hlt rfl
  omega

/-! ### The recursion over the tree -/

mutual

/-- The spots within a tree that stands at a place. -/
def spotsOf (right : List (Tree src)) (above : List (Tree src × List (Tree src))) :
    Tree src → List (Spot src)
  | .identifier role n => [⟨.identifier role n, right, above⟩]
  | .node kind role children =>
    ⟨.node kind role children, right, above⟩ ::
      spotsAll ((.node kind role children, right) :: above) children

/-- The spots within trees that stand side by side. -/
def spotsAll (above : List (Tree src × List (Tree src))) : List (Tree src) → List (Spot src)
  | [] => []
  | t :: rest => spotsOf rest above t ++ spotsAll above rest

end

theorem spotsOf_eq (t : Tree src) (right : List (Tree src))
    (above : List (Tree src × List (Tree src))) :
    spotsOf right above t = ⟨t, right, above⟩ :: spotsAll ((t, right) :: above) t.children := by
  cases t <;> simp [spotsOf, spotsAll, Tree.children]

/-- What a walk meets in so many steps from a place on. -/
def ahead (n : Nat) (right : List (Tree src)) (above : List (Tree src × List (Tree src))) :
    List (Spot src) :=
  match Spot.onward? right above with
  | some s => walkFrom n s
  | none => []

theorem walkFrom_succ (n : Nat) (s : Spot src) :
    walkFrom (n + 1) s = s :: ahead n s.focus.children ((s.focus, s.right) :: s.above) := by
  rw [walkFrom, Spot.next?_eq]
  rfl

mutual

/-- A walk through a tree meets the spots within it, and goes on behind it. -/
theorem walkFrom_count (t : Tree src) (n : Nat) (right : List (Tree src))
    (above : List (Tree src × List (Tree src))) :
    walkFrom (t.count + n) ⟨t, right, above⟩ = spotsOf right above t ++ ahead n right above := by
  cases t with
  | identifier role name =>
      rw [Tree.count, Nat.add_comm, walkFrom_succ]
      rfl
  | node kind role children =>
      rw [Tree.count, Nat.add_right_comm, walkFrom_succ, spotsOf, List.cons_append]
      exact congrArg _ (ahead_countAll children n _)

theorem ahead_countAll (ts : List (Tree src)) (n : Nat)
    (above : List (Tree src × List (Tree src))) :
    ahead (Tree.countAll ts + n) ts above = spotsAll above ts ++ ahead n [] above := by
  cases ts with
  | nil => rw [Tree.countAll, Nat.zero_add, spotsAll, List.nil_append]
  | cons t rest =>
      rw [ahead, Spot.onward?_cons]
      simp only [Tree.countAll, Nat.add_assoc, spotsAll, List.append_assoc]
      rw [walkFrom_count t, ahead_countAll rest]

end

/-- A walk meets the spots of the recursion, in its order. -/
theorem walk_eq (t : Tree src) : walk t = spotsOf [] [] t := by
  have h := walkFrom_count t 0 [] []
  rwa [Nat.add_zero, show ahead 0 ([] : List (Tree src)) [] = [] from rfl, List.append_nil] at h

mutual

theorem map_focus_spotsOf (t : Tree src) (right : List (Tree src))
    (above : List (Tree src × List (Tree src))) :
    (spotsOf right above t).map (·.focus) = t.preorder := by
  cases t with
  | identifier role name => rfl
  | node kind role children =>
      rw [spotsOf, List.map_cons, map_focus_spotsAll children, Tree.preorder]

theorem map_focus_spotsAll (ts : List (Tree src)) (above : List (Tree src × List (Tree src))) :
    (spotsAll above ts).map (·.focus) = Tree.preorderAll ts := by
  cases ts with
  | nil => rfl
  | cons t rest =>
      rw [spotsAll, List.map_append, map_focus_spotsOf t, map_focus_spotsAll rest,
        Tree.preorderAll]

end

/-- A walk meets every tree within a tree, each before its parts and the parts in order. -/
theorem map_focus_walk (t : Tree src) : (walk t).map (·.focus) = t.preorder := by
  rw [walk_eq, map_focus_spotsOf]

/-! ### Behind a spot -/

theorem exists_mem_spotsAll {c : Tree src} {ts : List (Tree src)} (h : c ∈ ts)
    (above : List (Tree src × List (Tree src))) :
    ∃ right, (⟨c, right, above⟩ : Spot src) ∈ spotsAll above ts := by
  induction ts with
  | nil => simp at h
  | cons t rest ih =>
      rw [spotsAll]
      rcases List.mem_cons.1 h with rfl | h
      · exact ⟨rest, by simp [spotsOf_eq]⟩
      · obtain ⟨right, hmem⟩ := ih h
        exact ⟨right, List.mem_append_right _ hmem⟩

mutual

theorem exists_behind_of_spotsOf (t : Tree src) {right : List (Tree src)}
    {above : List (Tree src × List (Tree src))} {before after : List (Spot src)} {s : Spot src}
    (h : spotsOf right above t = before ++ s :: after) :
    ∃ rest, after = spotsAll ((s.focus, s.right) :: s.above) s.focus.children ++ rest := by
  have hparts : ∀ {before : List (Spot src)},
      spotsAll ((t, right) :: above) t.children = before ++ s :: after →
        ∃ rest, after = spotsAll ((s.focus, s.right) :: s.above) s.focus.children ++ rest := by
    intro before h
    cases t with
    | identifier role name => simp [Tree.children, spotsAll] at h
    | node kind role children => exact exists_behind_of_spotsAll children h
  rw [spotsOf_eq] at h
  rcases List.cons_eq_append_iff.1 h with ⟨-, hhere⟩ | ⟨before', -, hlater⟩
  · obtain ⟨rfl, rfl⟩ := List.cons.inj hhere
    exact ⟨[], (List.append_nil _).symm⟩
  · exact hparts hlater

theorem exists_behind_of_spotsAll (ts : List (Tree src))
    {above : List (Tree src × List (Tree src))} {before after : List (Spot src)} {s : Spot src}
    (h : spotsAll above ts = before ++ s :: after) :
    ∃ rest, after = spotsAll ((s.focus, s.right) :: s.above) s.focus.children ++ rest := by
  cases ts with
  | nil => simp [spotsAll] at h
  | cons t more =>
      rw [spotsAll] at h
      rcases List.append_eq_append_iff.1 h with ⟨lead, -, hmore⟩ | ⟨tail, hfirst, hmore⟩
      · exact exists_behind_of_spotsAll more hmore
      · cases tail with
        | nil =>
            have hmore' : spotsAll above more = [] ++ s :: after := hmore.symm
            exact exists_behind_of_spotsAll more hmore'
        | cons s' tail =>
            obtain ⟨rfl, rfl⟩ := List.cons.inj hmore
            obtain ⟨rest, rfl⟩ := exists_behind_of_spotsOf t hfirst
            exact ⟨_, List.append_assoc _ _ _⟩

end

/-- The parts of what a walk has met come later in it. -/
theorem exists_part_of_walk {t : Tree src} {before after : List (Spot src)} {s : Spot src}
    (h : walk t = before ++ s :: after) {c : Tree src} (hc : c ∈ s.focus.children) :
    ∃ right, (⟨c, right, (s.focus, s.right) :: s.above⟩ : Spot src) ∈ after := by
  rw [walk_eq] at h
  obtain ⟨rest, rfl⟩ := exists_behind_of_spotsOf t h
  obtain ⟨right, hmem⟩ := exists_mem_spotsAll hc ((s.focus, s.right) :: s.above)
  exact ⟨right, List.mem_append_left _ hmem⟩

end LookupBench.Source
