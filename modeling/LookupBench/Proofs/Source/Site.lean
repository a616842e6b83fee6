import LookupBench.Proofs.Source.Occurrence
import LookupBench.Proofs.Source.Walk

/-!
# The identifiers that occurrences are about

Whatever construct gives an occurrence, it is about one identifier of the tree. Where no two
identifiers start at the same place of the source, the line and the column of an occurrence tell
which identifier that is, and with it which construct gave the occurrence.
-/

namespace LookupBench.Source

variable {src : List Char}

/-! ### Identifiers of trees -/

namespace Tree

def name? : Tree src → Option (Name src)
  | identifier _ n => some n
  | node .. => none

/-- The identifiers within trees, in order. -/
def names (ts : List (Tree src)) : List (Name src) := (preorderAll ts).filterMap name?

theorem preorderAll_append (ts us : List (Tree src)) :
    preorderAll (ts ++ us) = preorderAll ts ++ preorderAll us := by
  induction ts with
  | nil => rfl
  | cons t ts ih => rw [List.cons_append, preorderAll, preorderAll, ih, List.append_assoc]

@[simp] theorem names_nil : names ([] : List (Tree src)) = [] := rfl

@[simp] theorem names_identifier_cons (role : Role) (n : Name src) (ts : List (Tree src)) :
    names (identifier role n :: ts) = n :: names ts := rfl

@[simp] theorem names_append (ts us : List (Tree src)) : names (ts ++ us) = names ts ++ names us := by
  rw [names, preorderAll_append, List.filterMap_append]
  rfl

@[simp] theorem names_node_cons (kind : Kind) (role : Role) (children ts : List (Tree src)) :
    names (node kind role children :: ts) = names children ++ names ts := by
  simp only [names, preorderAll, preorder, List.filterMap_append]
  rfl

/-- No two identifiers start at the same place. -/
def Distinct (t : Tree src) : Prop := (names [t]).Pairwise fun n m => n.start ≠ m.start

end Tree

theorem names_walk (t : Tree src) :
    (walk t).filterMap (fun s => s.focus.name?) = Tree.names [t] := by
  rw [Tree.names, Tree.preorderAll, Tree.preorderAll, List.append_nil, ← map_focus_walk,
    List.filterMap_map]
  rfl

/-- The place of an identifier tells where in the tree it is. -/
theorem eq_of_start_eq {t : Tree src} (ht : t.Distinct) {s s' : Spot src} (hs : s ∈ walk t)
    (hs' : s' ∈ walk t) {n n' : Name src} (hn : s.focus.name? = some n)
    (hn' : s'.focus.name? = some n') (h : n.start = n'.start) : s = s' := by
  rw [Tree.Distinct, ← names_walk, List.pairwise_filterMap] at ht
  by_contra hne
  have : Std.Symm fun s s' : Spot src => ∀ n, s.focus.name? = some n →
      ∀ n', s'.focus.name? = some n' → n.start ≠ n'.start :=
    ⟨fun _ _ h n hn n' hn' heq => h n' hn' n hn heq.symm⟩
  exact ht.forall hs hs' hne n hn n' hn' h

/-! ### Places in the text -/

/-- Where a name starts is told by its line and its column. -/
theorem Name.start_eq {n m : Name src} (hrow : n.row = m.row) (hcolumn : n.column = m.column) :
    n.start = m.start := by
  have hle : ∀ {n m : Name src}, n.row = m.row → n.column = m.column → n.start ≤ m.start := by
    intro n m hrow hcolumn
    by_contra hlt
    obtain ⟨between, hbetween⟩ : src.take m.start <+: src.take n.start := by
      rw [show m.start = min m.start n.start by omega, ← List.take_take]
      exact List.take_prefix _ _
    have hinside : n.start < src.length := by
      by_contra hout
      have := n.stands
      simp [List.drop_of_length_le (Nat.le_of_not_lt hout), nameAt] at this
    have hne : between ≠ [] := by
      rintro rfl
      have := congrArg List.length hbetween
      simp at this
      omega
    -- no line ends between the two, so the columns differ
    have hline : '\n' ∉ between := by
      rw [row, row, ← hbetween, List.count_append] at hrow
      exact List.count_eq_zero.1 (by omega)
    rw [n.column_eq, m.column_eq, ← hbetween, lineLead_append_of_notMem _ hline,
      utf16Length_append] at hcolumn
    have := utf16Length_pos hne
    omega
  exact Nat.le_antisymm (hle hrow hcolumn) (hle hrow.symm hcolumn.symm)

/-! ### From an identifier to what found it -/

/-- The spot around a spot. -/
def Spot.up? (s : Spot src) : Option (Spot src) :=
  match s.above with
  | [] => none
  | (focus, right) :: above => some ⟨focus, right, above⟩

/-- Whether the identifier at a spot is used there, and not bound. -/
def Spot.IsUsed (s : Spot src) : Prop :=
  isReference s.focus.role s.parent? s.grandparent? = true

instance (s : Spot src) : Decidable s.IsUsed := inferInstanceAs (Decidable (_ = true))

def Spot.parentKind? (s : Spot src) : Option Kind := s.parent? >>= Tree.kind?

/-- Where the use of an identifier is found: at it, or at the attribute around it. -/
def Spot.useOf? (s : Spot src) : Option (Spot src) := if s.IsUsed then some s else s.up?

/-- Where the call of an identifier is found: at the call around it, or around its attribute. -/
def Spot.callOf? (s : Spot src) : Option (Spot src) :=
  if s.parentKind? = some .call then s.up? else s.up? >>= Spot.up?

theorem mem_of_part? {role : Role} {t c : Tree src} (h : t.part? role = some c) :
    c ∈ t.children ∧ c.role = role :=
  ⟨List.mem_of_find?_eq_some h, by simpa using List.find?_some h⟩

theorem exists_part_mem_walk {t : Tree src} {s : Spot src} (hs : s ∈ walk t) {c : Tree src}
    (hc : c ∈ s.focus.children) :
    ∃ right, (⟨c, right, (s.focus, s.right) :: s.above⟩ : Spot src) ∈ walk t := by
  obtain ⟨before, after, hwalk⟩ := List.append_of_mem hs
  obtain ⟨right, hmem⟩ := exists_part_of_walk hwalk hc
  exact ⟨right, by simp [hwalk, hmem]⟩

/-- Kinds of occurrences that say that a name is used. -/
def uses : List OccurrenceKind := [.name, .importedName, .attr, .importedAttr]

/-- Kinds of occurrences that say that something is called. -/
def calls : List OccurrenceKind := [.call, .importedCall, .attrCall, .importedAttrCall]

/-- What is found is about an identifier of the tree, from which the way back is known. -/
theorem exists_site {t : Tree src} {imports : Imports} {s : Spot src} (hs : s ∈ walk t)
    {n : Name src} {kind : OccurrenceKind} (h : Finds imports s n kind) :
    ∃ site ∈ walk t, site.focus.name? = some n ∧
      (kind ∈ uses ∧ site.useOf? = some s ∨ kind ∈ calls ∧ site.callOf? = some s) ∧
      (site.IsUsed ∨ site.parentKind? = some .attribute) := by
  cases h with
  | name hfocus hused =>
      have hsite : s.IsUsed := by rwa [Spot.IsUsed, hfocus]
      refine ⟨s, hs, by rw [hfocus]; rfl, .inl ⟨by split <;> decide, if_pos hsite⟩, .inl hsite⟩
  | @attr role r parts hfocus hpart =>
      obtain ⟨hmem, hr⟩ := mem_of_part? hpart
      obtain rfl : r = .attribute := hr
      obtain ⟨right, hsite⟩ := exists_part_mem_walk hs hmem
      have hbound : ¬ Spot.IsUsed
          (⟨.identifier .attribute n, right, (s.focus, s.right) :: s.above⟩ : Spot src) := by
        rw [hfocus]
        exact Bool.false_ne_true
      exact ⟨_, hsite, rfl, .inl ⟨by split <;> decide, if_neg hbound⟩, .inr (by rw [hfocus]; rfl)⟩
  | @call role r parts hfocus hcallee =>
      obtain ⟨right, hsite⟩ := exists_part_mem_walk hs (mem_of_part? hcallee).1
      refine ⟨_, hsite, rfl, .inr ⟨by split <;> decide, if_pos (by rw [hfocus]; rfl)⟩, .inl ?_⟩
      rw [hfocus]
      rfl
  | @attrCall role r parts callee hfocus hcallee hkind hpart =>
      obtain ⟨right, hmid⟩ := exists_part_mem_walk hs (mem_of_part? hcallee).1
      obtain ⟨right', hsite⟩ := exists_part_mem_walk hmid (mem_of_part? hpart).1
      have hnot : Spot.parentKind? (⟨.identifier r n, right', (callee, right) ::
          (s.focus, s.right) :: s.above⟩ : Spot src) = some .attribute := hkind
      exact ⟨_, hsite, rfl, .inr ⟨by split <;> decide, if_neg (by rw [hnot]; decide)⟩, .inr hnot⟩

/-- One identifier is found in use only once, and called only once. -/
theorem eq_of_finds {t : Tree src} (ht : t.Distinct) {imports : Imports} {s s' : Spot src}
    (hs : s ∈ walk t) (hs' : s' ∈ walk t) {n n' : Name src} {kind kind' : OccurrenceKind}
    (h : Finds imports s n kind) (h' : Finds imports s' n' kind')
    (hkinds : kind ∈ uses ∧ kind' ∈ uses ∨ kind ∈ calls ∧ kind' ∈ calls)
    (hstart : n.start = n'.start) : s = s' := by
  obtain ⟨site, hsite, hn, hback, -⟩ := exists_site hs h
  obtain ⟨site', hsite', hn', hback', -⟩ := exists_site hs' h'
  obtain rfl := eq_of_start_eq ht hsite hsite' hn hn' hstart
  have hapart : ∀ {k : OccurrenceKind}, k ∈ uses → k ∉ calls := by decide
  rcases hkinds with ⟨huse, huse'⟩ | ⟨hcall, hcall'⟩
  · have hfirst := (hback.resolve_right fun hcall => hapart huse hcall.1).2
    have hsecond := (hback'.resolve_right fun hcall => hapart huse' hcall.1).2
    exact Option.some.inj (hfirst.symm.trans hsecond)
  · have hfirst := (hback.resolve_left fun huse => hapart huse.1 hcall).2
    have hsecond := (hback'.resolve_left fun huse => hapart huse.1 hcall').2
    exact Option.some.inj (hfirst.symm.trans hsecond)

end LookupBench.Source
