import LookupBench.Proofs.Source.Site

/-!
# The loop of a cursor

A walk takes one step from spot to spot. A cursor takes several: it goes down while it can, else to
the right, else up, and tries again from there; and it stops when it cannot go up any more. Whatever
a tree looks like, this loop comes to an end, after two turns for each tree within it, one to visit
it and one to leave it; and it visits the spots of the walk.

A place in a tree has an address: the numbers of the parts that lead to it. The spots of a walk are
those at all addresses, each once and in lexicographic order; so a tree comes before its parts, and
the parts come in order. Whatever is found in a tree is found at one of these addresses.
-/

namespace LookupBench.Source

variable {src : List Char}

/-! ### Turns of the loop -/

/-- The spot to the right of a spot. -/
def Spot.right? (s : Spot src) : Option (Spot src) :=
  match s.right with
  | [] => none
  | t :: rest => some ⟨t, rest, s.above⟩

/-- Where the loop is: at a spot that is to be visited, or at one whose parts have all been. -/
inductive Stage (src : List Char) where
  | visit (s : Spot src)
  | leave (s : Spot src)

/-- One turn. From a visit the cursor goes down if it can; a spot is left to the right, or else
upwards. -/
def Stage.next? : Stage src → Option (Stage src)
  | visit s =>
    match s.down? with
    | some part => some (visit part)
    | none => some (leave s)
  | leave s =>
    match s.right? with
    | some other => some (visit other)
    | none => s.up?.map leave

/-- From a stage the loop comes to its end in so many turns, and visits these spots. -/
inductive Loops : Nat → Stage src → List (Spot src) → Prop where
  | visit {n : Nat} {s : Spot src} {stage : Stage src} {spots : List (Spot src)}
      (hnext : (Stage.visit s).next? = some stage) (h : Loops n stage spots) :
      Loops (n + 1) (.visit s) (s :: spots)
  | leave {n : Nat} {s : Spot src} {stage : Stage src} {spots : List (Spot src)}
      (hnext : (Stage.leave s).next? = some stage) (h : Loops n stage spots) :
      Loops (n + 1) (.leave s) spots
  | stop {s : Spot src} (hnext : (Stage.leave s).next? = none) : Loops 1 (.leave s) []

/-- The loop has no choice. -/
theorem Loops.unique {n n' : Nat} {stage : Stage src} {spots spots' : List (Spot src)}
    (h : Loops n stage spots) (h' : Loops n' stage spots') : n = n' ∧ spots = spots' := by
  induction h generalizing n' spots' with
  | visit hnext _ ih =>
      cases h' with
      | visit hnext' h' =>
          obtain rfl := Option.some.inj (hnext.symm.trans hnext')
          obtain ⟨rfl, rfl⟩ := ih h'
          exact ⟨rfl, rfl⟩
  | leave hnext _ ih =>
      cases h' with
      | leave hnext' h' =>
          obtain rfl := Option.some.inj (hnext.symm.trans hnext')
          obtain ⟨rfl, rfl⟩ := ih h'
          exact ⟨rfl, rfl⟩
      | stop hnext' => cases hnext.symm.trans hnext'
  | stop hnext =>
      cases h' with
      | leave hnext' => cases hnext.symm.trans hnext'
      | stop => exact ⟨rfl, rfl⟩

/-- Where the loop goes on among the parts of a tree, with these still to be visited. -/
def Stage.among (p : Spot src) : List (Tree src) → Stage src
  | [] => leave p
  | t :: rest => visit ⟨t, rest, (p.focus, p.right) :: p.above⟩

theorem Stage.next?_visit (s : Spot src) : (visit s).next? = some (among s s.focus.children) := by
  rw [next?, Spot.down?]
  cases s.focus.children <;> rfl

theorem Stage.next?_leave (p : Spot src) (t : Tree src) (rest : List (Tree src)) :
    (leave ⟨t, rest, (p.focus, p.right) :: p.above⟩).next? = some (among p rest) := by
  cases rest <;> rfl

-- The induction is on the tree. That the loop comes to its end behind a tree is handed down to the
-- last of its parts, from which the cursor goes up.
mutual

/-- Until a tree is left, the spots within it are visited. -/
theorem loops_visit (t : Tree src) {n : Nat} {right : List (Tree src)}
    {above : List (Tree src × List (Tree src))} {spots : List (Spot src)}
    (h : Loops n (.leave ⟨t, right, above⟩) spots) :
    Loops (2 * Tree.countAll t.children + n + 1) (.visit ⟨t, right, above⟩)
      (spotsOf right above t ++ spots) := by
  cases t with
  | identifier role name =>
      have hvisit := Loops.visit (Stage.next?_visit ⟨.identifier role name, right, above⟩) h
      simpa [Tree.children, Tree.countAll, spotsOf] using hvisit
  | node kind role children =>
      rw [spotsOf]
      exact .visit (Stage.next?_visit _) (loops_among children h)

theorem loops_among (ts : List (Tree src)) {p : Spot src} {n : Nat} {spots : List (Spot src)}
    (h : Loops n (.leave p) spots) :
    Loops (2 * Tree.countAll ts + n) (.among p ts)
      (spotsAll ((p.focus, p.right) :: p.above) ts ++ spots) := by
  cases ts with
  | nil => simpa [Tree.countAll, spotsAll, Stage.among] using h
  | cons t rest =>
      have hleave := Loops.leave (Stage.next?_leave p t rest) (loops_among rest h)
      have hvisit := loops_visit t hleave
      have hturns : 2 * Tree.countAll (t :: rest) + n
          = 2 * Tree.countAll t.children + (2 * Tree.countAll rest + n + 1) + 1 := by
        rw [Tree.countAll, t.count_eq]
        omega
      rw [hturns, spotsAll, List.append_assoc]
      exact hvisit

end

/-- From the root of a tree the loop visits the spots of the walk. -/
theorem loops_root_iff {t : Tree src} {n : Nat} {spots : List (Spot src)} :
    Loops n (.visit (.root t)) spots ↔ n = 2 * t.count ∧ spots = walk t := by
  have hloops : Loops (2 * t.count) (.visit (.root t)) (walk t) := by
    have hend := loops_visit t (.stop (s := .root t) rfl)
    rw [List.append_nil, ← walk_eq] at hend
    rw [t.count_eq]
    exact hend
  constructor
  · exact fun h => h.unique hloops
  · rintro ⟨rfl, rfl⟩
    exact hloops

/-! ### Addresses -/

/-- A part of the tree at a spot, in its place. -/
def Spot.part? (s : Spot src) (i : Nat) : Option (Spot src) :=
  match s.focus.children.drop i with
  | [] => none
  | t :: rest => some ⟨t, rest, (s.focus, s.right) :: s.above⟩

/-- The spot at an address. -/
def Spot.below? (s : Spot src) : List Nat → Option (Spot src)
  | [] => some s
  | i :: address => (s.part? i).bind fun part => part.below? address

mutual

/-- The addresses within a tree, each before those that go on from it. -/
def Tree.addresses : Tree src → List (List Nat)
  | .identifier .. => [[]]
  | .node _ _ children => [] :: addressesAll 0 children

/-- The addresses within the parts of a tree from the one with a number on. -/
def Tree.addressesAll (i : Nat) : List (Tree src) → List (List Nat)
  | [] => []
  | t :: rest => t.addresses.map (i :: ·) ++ addressesAll (i + 1) rest

end

theorem Tree.addresses_eq (t : Tree src) : t.addresses = [] :: addressesAll 0 t.children := by
  cases t <;> simp [addresses, addressesAll, children]

theorem Tree.mem_addressesAll {ts : List (Tree src)} {i : Nat} {address : List Nat} :
    address ∈ addressesAll i ts ↔
      ∃ j a t, address = (i + j) :: a ∧ ts[j]? = some t ∧ a ∈ t.addresses := by
  induction ts generalizing i with
  | nil => simp [addressesAll]
  | cons t rest ih =>
      rw [addressesAll, List.mem_append, List.mem_map, ih]
      constructor
      · rintro (⟨a, ha, rfl⟩ | ⟨j, a, u, rfl, hu, ha⟩)
        · exact ⟨0, a, t, rfl, rfl, ha⟩
        · exact ⟨j + 1, a, u, by rw [Nat.add_right_comm, Nat.add_assoc], hu, ha⟩
      · rintro ⟨j, a, u, rfl, hu, ha⟩
        cases j with
        | zero =>
            obtain rfl := Option.some.inj hu
            exact .inl ⟨a, ha, rfl⟩
        | succ j => exact .inr ⟨j, a, u, by rw [Nat.add_right_comm, Nat.add_assoc], hu, ha⟩

mutual

theorem Tree.pairwise_addresses (t : Tree src) : t.addresses.Pairwise (· < ·) := by
  cases t with
  | identifier role name => exact List.pairwise_singleton _ _
  | node kind role children =>
      rw [addresses, List.pairwise_cons]
      refine ⟨fun address h => ?_, pairwise_addressesAll children 0⟩
      obtain ⟨j, a, t, rfl, -⟩ := mem_addressesAll.1 h
      exact List.nil_lt_cons _ _

theorem Tree.pairwise_addressesAll (ts : List (Tree src)) (i : Nat) :
    (addressesAll i ts).Pairwise (· < ·) := by
  cases ts with
  | nil => exact .nil
  | cons t rest =>
      rw [addressesAll, List.pairwise_append]
      refine ⟨?_, pairwise_addressesAll rest (i + 1), ?_⟩
      · rw [List.pairwise_map]
        exact (pairwise_addresses t).imp fun h => List.cons_lt_cons_iff.2 (.inr ⟨rfl, h⟩)
      · intro first hfirst second hsecond
        obtain ⟨a, -, rfl⟩ := List.mem_map.1 hfirst
        obtain ⟨j, b, u, rfl, -⟩ := mem_addressesAll.1 hsecond
        exact List.cons_lt_cons_iff.2 (.inl (by omega))

end

mutual

/-- The spots within a tree are those at its addresses, in order. -/
theorem map_below?_addresses (t : Tree src) (right : List (Tree src))
    (above : List (Tree src × List (Tree src))) :
    t.addresses.map (Spot.below? ⟨t, right, above⟩) = (spotsOf right above t).map some := by
  cases t with
  | identifier role name => rfl
  | node kind role children =>
      rw [Tree.addresses, spotsOf, List.map_cons, List.map_cons]
      exact congrArg _ (map_below?_addressesAll children rfl)

theorem map_below?_addressesAll (ts : List (Tree src)) {s : Spot src} {i : Nat}
    (h : s.focus.children.drop i = ts) :
    (Tree.addressesAll i ts).map s.below?
      = (spotsAll ((s.focus, s.right) :: s.above) ts).map some := by
  cases ts with
  | nil => rfl
  | cons t rest =>
      have hpart : s.part? i = some ⟨t, rest, (s.focus, s.right) :: s.above⟩ := by
        rw [Spot.part?, h]
      have hrest : s.focus.children.drop (i + 1) = rest := by
        rw [← List.tail_drop, h, List.tail_cons]
      have hfirst : s.below? ∘ (i :: ·) = Spot.below? ⟨t, rest, (s.focus, s.right) :: s.above⟩ := by
        funext address
        exact congrArg (Option.bind · _) hpart
      rw [Tree.addressesAll, spotsAll, List.map_append, List.map_append, List.map_map, hfirst,
        map_below?_addresses t, map_below?_addressesAll rest hrest]

end

theorem Tree.mem_addresses_iff {t : Tree src} {address : List Nat} (right : List (Tree src))
    (above : List (Tree src × List (Tree src))) :
    address ∈ t.addresses ↔ (Spot.below? ⟨t, right, above⟩ address).isSome := by
  constructor
  · intro h
    have hmem := List.mem_map_of_mem (f := Spot.below? ⟨t, right, above⟩) h
    rw [map_below?_addresses] at hmem
    obtain ⟨s, -, hs⟩ := List.mem_map.1 hmem
    rw [← hs, Option.isSome_some]
  · intro h
    induction address generalizing t right above with
    | nil => simp [t.addresses_eq]
    | cons i address ih =>
        rw [Spot.below?, Spot.part?] at h
        split at h
        next => cases h
        next c rest hdrop =>
          have hc : t.children[i]? = some c := by
            rw [← List.head?_drop, hdrop, List.head?_cons]
          rw [t.addresses_eq]
          refine List.mem_cons_of_mem _ (mem_addressesAll.2 ⟨i, address, c, ?_, hc, ih _ _ h⟩)
          rw [Nat.zero_add]

example : (Tree.group [.group [.group []], .group []] : Tree []).addresses
    = [[], [0], [0, 0], [1]] := rfl

/-! ### All that is found -/

/-- Spots that take in a tree: each of the trees within it, once, before its parts and these in
order. -/
structure Traverses (t : Tree src) (spots : List (Spot src)) : Prop where
  /-- They come in the order of the recursion over the tree. -/
  preorder : spots.map (·.focus) = t.preorder
  once : spots.Nodup
  /-- They are the spots at the addresses of the tree, in lexicographic order. -/
  placed : spots.map some = t.addresses.map (Spot.root t).below?
  ordered : t.addresses.Pairwise (· < ·)
  everywhere : ∀ address, address ∈ t.addresses ↔ ((Spot.root t).below? address).isSome

theorem traverses_walk (t : Tree src) : Traverses t (walk t) where
  preorder := map_focus_walk t
  once := nodup_walk t
  placed := by rw [walk_eq, Spot.root, map_below?_addresses]
  ordered := t.pairwise_addresses
  everywhere _ := Tree.mem_addresses_iff _ _

/-- What holds of a spot of a walk holds at an address. -/
theorem exists_mem_walk_iff {t : Tree src} {p : Spot src → Prop} :
    (∃ s ∈ walk t, p s) ↔ ∃ address s, (Spot.root t).below? address = some s ∧ p s := by
  have hplaced := (traverses_walk t).placed
  constructor
  · rintro ⟨s, hs, hp⟩
    have hmem : some s ∈ t.addresses.map (Spot.root t).below? :=
      hplaced ▸ List.mem_map_of_mem hs
    obtain ⟨address, -, haddress⟩ := List.mem_map.1 hmem
    exact ⟨address, s, haddress, hp⟩
  · rintro ⟨address, s, haddress, hp⟩
    have hin : address ∈ t.addresses :=
      ((traverses_walk t).everywhere address).2 (by rw [haddress, Option.isSome_some])
    have hmem : some s ∈ (walk t).map some :=
      hplaced ▸ List.mem_map.2 ⟨address, hin, haddress⟩
    obtain ⟨s', hs', heq⟩ := List.mem_map.1 hmem
    exact ⟨s, Option.some.inj heq ▸ hs', hp⟩

/-- The loop of a cursor comes to its end in every tree, in two turns for each tree within it, and
takes in all of them. So all imports are known, wherever they stand, and all that an occurrence can
come from is found. -/
theorem loop_complete (t : Tree src) :
    (∀ n spots, Loops n (.visit (.root t)) spots ↔ n = 2 * t.count ∧ spots = walk t) ∧
    Traverses t (walk t) ∧
    (∀ name, (name ∈ (importsIn t).names ↔
        ∃ address s, (Spot.root t).below? address = some s ∧ name ∈ (importsOf s.focus).names) ∧
      (name ∈ (importsIn t).modules ↔
        ∃ address s, (Spot.root t).below? address = some s ∧ name ∈ (importsOf s.focus).modules)) ∧
    ∀ o, o ∈ treeOccurrences t ↔
      ∃ address s, (Spot.root t).below? address = some s ∧
        ∃ n kind, Finds (importsIn t) s n kind ∧ isExcluded n.text = false ∧
          o = n.occurrence kind := by
  refine ⟨fun n spots => loops_root_iff, traverses_walk t, fun name => ⟨?_, ?_⟩, fun o => ?_⟩
  · rw [← exists_mem_walk_iff]
    simp [importsIn]
  · rw [← exists_mem_walk_iff]
    simp [importsIn]
  · rw [← exists_mem_walk_iff, treeOccurrences, List.mem_filterMap]
    simp only [occurrenceOf_eq_some_iff]

end LookupBench.Source
