import LookupBench.Proofs.Source.Site

/-!
# The shape of syntax trees

The identifiers of a tree stand in the source in the order of the tree, each behind the one before.
Clauses of imports and declarations hold identifiers and such clauses only, and what a default is for
comes first and has the role of a name. Trees that were read between two places of a source have
this shape; those read one behind the other have it together.
-/

namespace LookupBench.Source

variable {src : List Char}

/-! ### Parts of constructs -/

/-- Constructs whose identifiers are all bound: imports and their clauses, and declarations. -/
def Kind.isBinding : Kind → Bool
  | .dottedName | .aliasedImport | .importStatement | .importFromStatement | .relativeImport
  | .globalStatement | .nonlocalStatement => true
  | _ => false

/-- Parameters that have a default. -/
def Kind.hasDefault : Kind → Bool
  | .defaultParameter | .typedDefaultParameter => true
  | _ => false

/-- An identifier, or a construct whose identifiers are all bound. -/
def Tree.Binds (t : Tree src) : Prop := ∀ kind, t.kind? = some kind → kind.isBinding = true

/-- The parts of a construct are such as the grammar has them. -/
structure Kind.Fits (kind : Kind) (parts : List (Tree src)) : Prop where
  binds : kind.isBinding = true → ∀ t ∈ parts, t.Binds
  takesDefault : kind.hasDefault = true → ∀ t ∈ parts.head?, t.role = .name

theorem Kind.fits_of_free {kind : Kind} (hbinding : kind.isBinding = false)
    (hdefault : kind.hasDefault = false) (parts : List (Tree src)) : kind.Fits parts where
  binds h := by simp [hbinding] at h
  takesDefault h := by simp [hdefault] at h

theorem Kind.fits_of_takesDefault {kind : Kind} (hbinding : kind.isBinding = false)
    {parts : List (Tree src)} (h : ∀ t ∈ parts.head?, t.role = .name) : kind.Fits parts where
  binds h := by simp [hbinding] at h
  takesDefault _ := h

theorem Kind.fits_of_binds {kind : Kind} (hdefault : kind.hasDefault = false)
    {parts : List (Tree src)} (h : ∀ t ∈ parts, t.Binds) : kind.Fits parts where
  binds _ := h
  takesDefault h := by simp [hdefault] at h

namespace Tree

/-- Trees whose identifiers are all bound, put together. -/
def bound (ts : List (Tree src)) : Tree src := node .relativeImport .plain ts

/-- A construct fits its parts. -/
def Fits : Tree src → Prop
  | identifier .. => True
  | node kind _ parts => kind.Fits parts

/-- All constructs within trees fit their parts. -/
def Shaped (ts : List (Tree src)) : Prop := ∀ t ∈ preorderAll ts, t.Fits

@[simp] theorem shaped_nil : Shaped ([] : List (Tree src)) := by simp [Shaped, preorderAll]

@[simp] theorem shaped_append {ts us : List (Tree src)} :
    Shaped (ts ++ us) ↔ Shaped ts ∧ Shaped us := by
  simp [Shaped, preorderAll_append, or_imp, forall_and]

@[simp] theorem shaped_identifier_cons {role : Role} {n : Name src} {ts : List (Tree src)} :
    Shaped (identifier role n :: ts) ↔ Shaped ts := by
  simp [Shaped, preorderAll, preorder, Fits]

@[simp] theorem shaped_node_cons {kind : Kind} {role : Role} {parts ts : List (Tree src)} :
    Shaped (node kind role parts :: ts) ↔ kind.Fits parts ∧ Shaped parts ∧ Shaped ts := by
  simp [Shaped, preorderAll, preorder, Fits, or_imp, forall_and]

end Tree

/-! ### Trees between two places -/

/-- Names stand one behind the other between two places. -/
def Between (low : Nat) : List (Name src) → Nat → Prop
  | [], high => low ≤ high
  | n :: ns, high => low ≤ n.start ∧ Between (n.start + 1) ns high

theorem Between.le {low high : Nat} {ns : List (Name src)} (h : Between low ns high) :
    low ≤ high := by
  induction ns generalizing low with
  | nil => exact h
  | cons n ns ih =>
      have := ih h.2
      have := h.1
      omega

theorem Between.mono {low low' high high' : Nat} {ns : List (Name src)} (h : Between low ns high)
    (hlow : low' ≤ low) (hhigh : high ≤ high') : Between low' ns high' := by
  induction ns generalizing low low' with
  | nil => exact hlow.trans (Nat.le_trans h hhigh)
  | cons n ns ih => exact ⟨hlow.trans h.1, ih h.2 le_rfl⟩

theorem Between.append {low mid high : Nat} {ns ms : List (Name src)} (h : Between low ns mid)
    (h' : Between mid ms high) : Between low (ns ++ ms) high := by
  induction ns generalizing low with
  | nil => exact h'.mono h le_rfl
  | cons n ns ih => exact ⟨h.1, ih h.2⟩

theorem Between.of_append {low high : Nat} {ns ms : List (Name src)}
    (h : Between low (ns ++ ms) high) : ∃ mid, Between low ns mid ∧ Between mid ms high := by
  induction ns generalizing low with
  | nil => exact ⟨low, Nat.le_refl low, h⟩
  | cons n ns ih =>
      obtain ⟨mid, hns, hms⟩ := ih h.2
      exact ⟨mid, ⟨h.1, hns⟩, hms⟩

theorem Between.pairwise {low high : Nat} {ns : List (Name src)} (h : Between low ns high) :
    (∀ n ∈ ns, low ≤ n.start) ∧ ns.Pairwise fun n m => n.start < m.start := by
  induction ns generalizing low with
  | nil => simp
  | cons n ns ih =>
      obtain ⟨hall, hpairwise⟩ := ih h.2
      refine ⟨fun m hm => ?_, List.pairwise_cons.2 ⟨hall, hpairwise⟩⟩
      have hlow := h.1
      rcases List.mem_cons.1 hm with rfl | hm
      · exact hlow
      · have := hall m hm
        omega

/-- Trees that stand between two places, and have the shape of syntax trees. -/
structure Read (low : Nat) (ts : List (Tree src)) (high : Nat) : Prop where
  between : Between low (Tree.names ts) high
  shaped : Tree.Shaped ts

namespace Read

variable {low mid high high' : Nat} {ts us : List (Tree src)}

theorem nil (h : low ≤ high) : Read low ([] : List (Tree src)) high := ⟨h, Tree.shaped_nil⟩

theorem le (h : Read low ts high) : low ≤ high := h.between.le

theorem mono (h : Read low ts high) (hle : high ≤ high') : Read low ts high' :=
  ⟨h.between.mono le_rfl hle, h.shaped⟩

theorem append (h : Read low ts mid) (h' : Read mid us high) : Read low (ts ++ us) high :=
  ⟨by simpa using h.between.append h'.between, Tree.shaped_append.2 ⟨h.shaped, h'.shaped⟩⟩

/-- The same identifiers in another construct. -/
theorem congr (h : Read low ts high) (hnames : Tree.names us = Tree.names ts)
    (hshaped : Tree.Shaped us) : Read low us high :=
  ⟨hnames ▸ h.between, hshaped⟩

theorem node (h : Read low ts high) {kind : Kind} (hfits : kind.Fits ts) (role : Role) :
    Read low [.node kind role ts] high :=
  h.congr (by simp) (by simp [hfits, h.shaped])

theorem group (h : Read low ts high) : Read low [.group ts] high :=
  h.node (Kind.fits_of_free rfl rfl ts) .plain

/-- Trees may be dropped. -/
theorem drop (h : Read low ts high) : Read low ([] : List (Tree src)) high := nil h.le

theorem of_append (h : Read low (ts ++ us) high) : ∃ mid, Read low ts mid ∧ Read mid us high := by
  obtain ⟨hts, hus⟩ := Tree.shaped_append.1 h.shaped
  obtain ⟨mid, hlow, hhigh⟩ := Between.of_append (by simpa using h.between)
  exact ⟨mid, ⟨hlow, hts⟩, ⟨hhigh, hus⟩⟩

/-- The trees in front are put together otherwise. -/
theorem replace_left {ts' : List (Tree src)} (h : Read low (ts ++ us) high)
    (hts : ∀ mid, Read low ts mid → Read low ts' mid) : Read low (ts' ++ us) high := by
  obtain ⟨mid, hlow, hhigh⟩ := h.of_append
  exact (hts mid hlow).append hhigh

/-- The trees behind are put together otherwise. -/
theorem replace_right {us' : List (Tree src)} (h : Read low (ts ++ us) high)
    (hus : ∀ mid, Read mid us high → Read mid us' high) : Read low (ts ++ us') high := by
  obtain ⟨mid, hlow, hhigh⟩ := h.of_append
  exact hlow.append (hus mid hhigh)

/-! ### Trees whose identifiers are bound -/

/-- Such trees in one construct that says so. -/
theorem bound_iff : Read low [Tree.bound ts] high ↔ Read low ts high ∧ ∀ t ∈ ts, t.Binds := by
  constructor
  · intro h
    obtain ⟨hfits, hshaped, -⟩ := Tree.shaped_node_cons.1 h.shaped
    exact ⟨h.congr (by simp [Tree.bound]) hshaped, hfits.binds rfl⟩
  · rintro ⟨h, hbinds⟩
    exact h.node (Kind.fits_of_binds rfl hbinds) .plain

theorem bound_nil (h : low ≤ high) : Read low [Tree.bound ([] : List (Tree src))] high :=
  bound_iff.2 ⟨nil h, by simp⟩

theorem bound_append (h : Read low [Tree.bound ts, Tree.bound us] high) :
    Read low [Tree.bound (ts ++ us)] high := by
  have happend : Read low ([Tree.bound ts] ++ [Tree.bound us]) high := h
  obtain ⟨mid, hts, hus⟩ := happend.of_append
  obtain ⟨hts, hbinds⟩ := bound_iff.1 hts
  obtain ⟨hus, hbinds'⟩ := bound_iff.1 hus
  refine bound_iff.2 ⟨hts.append hus, fun t ht => ?_⟩
  exact (List.mem_append.1 ht).elim (hbinds t) (hbinds' t)

/-- In a construct of any kind that has no default. -/
theorem declared (h : Read low [Tree.bound ts] high) {kind : Kind}
    (hkind : kind.hasDefault = false) (role : Role) : Read low [.node kind role ts] high :=
  let ⟨hread, hbinds⟩ := bound_iff.1 h
  hread.node (Kind.fits_of_binds hkind hbinds) role

/-- A construct whose identifiers are all bound is itself such a tree. -/
theorem clause (h : Read low [Tree.bound ts] high) {kind : Kind} (hbinding : kind.isBinding = true)
    (hkind : kind.hasDefault = false) (role : Role) :
    Read low [Tree.bound [.node kind role ts]] high := by
  refine bound_iff.2 ⟨h.declared hkind role, fun t ht kind' hkind' => ?_⟩
  obtain rfl := List.mem_singleton.1 ht
  exact Option.some.inj hkind' ▸ hbinding

end Read

end LookupBench.Source
