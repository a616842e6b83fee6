import LookupBench.Proofs.Source.Reading.Statement
import LookupBench.Proofs.Source.Site

/-!
# Identifiers that are bound

Names of definitions and of keywords, the identifiers of imports and declarations, and parameters
are bound where they stand, and nothing is found there. Whether an identifier is bound is told from
the construct around it and the one around that. So a parameter is known for one if it is a name,
maybe with a star, a type or a default, and not if its names are within a tuple.
-/

namespace LookupBench

/-- An occurrence at the place of an identifier. -/
def Occurrence.IsAt {src : List Char} (o : Occurrence) (n : Source.Name src) : Prop :=
  o.line = n.row + 1 ∧ o.column = n.column

instance {src : List Char} (o : Occurrence) (n : Source.Name src) : Decidable (o.IsAt n) :=
  inferInstanceAs (Decidable (_ ∧ _))

namespace Source

variable {src : List Char}

/-! ### What is bound -/

def Kind.isNamed : Kind → Bool
  | .functionDefinition | .classDefinition | .keywordArgument => true
  | _ => false

def Kind.isParameters : Kind → Bool
  | .parameters | .lambdaParameters => true
  | _ => false

/-- Parameters with a type or a default, which stands behind the names they bind. -/
def Kind.isExtended : Kind → Bool
  | .typedParameter | .defaultParameter | .typedDefaultParameter => true
  | _ => false

def Kind.isSplat : Kind → Bool
  | .listSplatPattern | .dictionarySplatPattern => true
  | _ => false

namespace Tree

mutual

/-- The identifiers within a parameter, but for those of types and defaults. -/
def parameterNames : Tree src → List (Name src)
  | identifier _ n => [n]
  | node kind _ parts => parameterNamesAll kind.isExtended parts

/-- `head` tells whether what stands behind the first is a type or a default. -/
def parameterNamesAll (head : Bool) : List (Tree src) → List (Name src)
  | [] => []
  | t :: rest => t.parameterNames ++ if head then [] else parameterNamesAll false rest

end

/-- The name of a parameter that is a name, maybe behind stars. -/
def starredName? : Tree src → Option (Name src)
  | identifier _ n => some n
  | node kind _ [identifier _ n] => if kind.isSplat then some n else none
  | _ => none

/-- The name of a parameter that is a name, maybe with stars, a type or a default. -/
def parameterName? : Tree src → Option (Name src)
  | node .typedParameter _ (t :: _) => t.starredName?
  | node .defaultParameter _ (t :: _) | node .typedDefaultParameter _ (t :: _) => t.name?
  | t => t.starredName?

mutual

/-- The identifiers of a tuple and of the tuples in it. -/
def tupleNames : Tree src → List (Name src)
  | node .group _ parts => tupleNamesAll parts
  | _ => []

def tupleNamesAll : List (Tree src) → List (Name src)
  | [] => []
  | t :: rest => t.name?.toList ++ t.tupleNames ++ tupleNamesAll rest

end

/-- A parameter without its type and default. -/
def target : Tree src → Tree src
  | node kind role (t :: rest) => if kind.isExtended then t else node kind role (t :: rest)
  | t => t

/-- The identifiers that a construct binds. -/
def bindsHere : Tree src → List (Name src)
  | identifier .. => []
  | node kind role parts =>
    if kind.isNamed then (((node kind role parts).part? .name).bind name?).toList
    else if kind.isBinding then names parts
    else if kind.isParameters then parts.flatMap parameterNames
    else []

/-- The identifiers within parameters of a construct that are tuples. -/
def tuplesHere : Tree src → List (Name src)
  | identifier .. => []
  | node kind _ parts => if kind.isParameters then parts.flatMap fun p => p.target.tupleNames else []

/-- The identifiers within parameters of a construct that are more than a name. -/
def packsHere : Tree src → List (Name src)
  | identifier .. => []
  | node kind _ parts =>
    if kind.isParameters then
      (parts.filter fun p => p.parameterName?.isNone).flatMap parameterNames
    else []

/-- All identifiers within a tree that are bound where they stand. -/
def bindings (t : Tree src) : List (Name src) := t.preorder.flatMap bindsHere

/-- Those of them that stand within a tuple, or behind a star and not alone. -/
def packed (t : Tree src) : List (Name src) := t.preorder.flatMap packsHere

/-- Those that stand within a tuple. -/
def tupled (t : Tree src) : List (Name src) := t.preorder.flatMap tuplesHere

end Tree

/-! ### Where nothing is found -/

/-- The identifier at a spot is bound, and is no part of an attribute. -/
structure Spot.IsBound (s : Spot src) : Prop where
  unused : ¬ s.IsUsed
  apart : s.parentKind? ≠ some .attribute

/-- Nothing is found at the place of an identifier that is bound. -/
theorem not_isAt_of_isBound {t : Tree src} (ht : t.Distinct) {s : Spot src} (hs : s ∈ walk t)
    {n : Name src} (hn : s.focus.name? = some n) (hbound : s.IsBound) :
    ∀ o ∈ treeOccurrences t, ¬ o.IsAt n := by
  rintro o ho ⟨hline, hcolumn⟩
  obtain ⟨s', hs', hfound⟩ := List.mem_filterMap.1 ho
  obtain ⟨m, kind, hfinds, -, rfl⟩ := occurrenceOf_eq_some_iff.1 hfound
  obtain ⟨site, hsite, hm, -, huse⟩ := exists_site hs' hfinds
  have hstart : m.start = n.start := Name.start_eq (Nat.succ.inj hline) hcolumn
  obtain rfl := eq_of_start_eq ht hsite hs hm hn hstart
  exact huse.elim hbound.unused hbound.apart

theorem Spot.grandparent?_part (s : Spot src) (c : Tree src) (right : List (Tree src)) :
    grandparent? ⟨c, right, (s.focus, s.right) :: s.above⟩ = s.parent? := by
  obtain ⟨focus, right', above⟩ := s
  cases above <;> rfl

/-- An identifier that is a part of what a walk meets, where such a part is no reference. -/
theorem exists_isBound_of_part {t : Tree src} {s : Spot src} (hs : s ∈ walk t) {kind : Kind}
    {role role' : Role} {parts : List (Tree src)} (hfocus : s.focus = .node kind role parts)
    {n : Name src} (hc : .identifier role' n ∈ parts)
    (hunused : isReference role' (some (.node kind role parts)) s.parent? = false)
    (hkind : kind ≠ .attribute) : ∃ b ∈ walk t, b.focus.name? = some n ∧ b.IsBound := by
  have hpart : .identifier role' n ∈ s.focus.children := by rwa [hfocus]
  obtain ⟨right, hmem⟩ := exists_part_mem_walk hs hpart
  refine ⟨_, hmem, rfl, ?_, ?_⟩
  · rw [Spot.IsUsed, Spot.grandparent?_part, hfocus]
    exact ne_true_of_eq_false hunused
  · rw [Spot.parentKind?, hfocus]
    exact fun h => hkind (Option.some.inj h)

theorem fits_of_mem_walk {t : Tree src} (ht : Tree.Shaped [t]) {s : Spot src} (hs : s ∈ walk t) :
    s.focus.Fits := by
  apply ht
  rw [Tree.preorderAll, Tree.preorderAll, List.append_nil, ← map_focus_walk]
  exact List.mem_map_of_mem hs

theorem exists_spot_of_mem_flatMap {t : Tree src} {here : Tree src → List (Name src)} {n : Name src}
    (hn : n ∈ t.preorder.flatMap here) : ∃ s ∈ walk t, n ∈ here s.focus := by
  rw [← map_focus_walk, List.flatMap_map] at hn
  exact List.mem_flatMap.1 hn

/-! ### Clauses and declarations -/

theorem isReference_of_isBinding {kind : Kind} (h : kind.isBinding = true) (role role' : Role)
    (parts : List (Tree src)) (above : Option (Tree src)) :
    isReference role (some (.node kind role' parts)) above = false := by
  cases kind <;> first | rfl | cases h

/-- All identifiers within clauses of imports and declarations are bound. -/
theorem exists_isBound_of_isBinding {t : Tree src} (ht : Tree.Shaped [t]) {s : Spot src}
    (hs : s ∈ walk t) {kind : Kind} {role : Role} {parts : List (Tree src)}
    (hfocus : s.focus = .node kind role parts) (hbinding : kind.isBinding = true)
    {ts : List (Tree src)} (hts : ∀ c ∈ ts, c ∈ parts) {n : Name src} (hn : n ∈ Tree.names ts) :
    ∃ b ∈ walk t, b.focus.name? = some n ∧ b.IsBound := by
  match ts with
  | [] => simp at hn
  | c :: rest =>
      have hc : c ∈ parts := hts c List.mem_cons_self
      have hrest : n ∈ Tree.names rest → ∃ b ∈ walk t, b.focus.name? = some n ∧ b.IsBound :=
        exists_isBound_of_isBinding ht hs hfocus hbinding
          fun c hc => hts c (List.mem_cons_of_mem _ hc)
      match c with
      | .identifier role' m =>
          rcases List.mem_cons.1 hn with rfl | hn
          · apply exists_isBound_of_part hs hfocus hc (isReference_of_isBinding hbinding ..)
            rintro rfl
            cases hbinding
          · exact hrest hn
      | .node kind' role' parts' =>
          rw [Tree.names_node_cons] at hn
          rcases List.mem_append.1 hn with hn | hn
          · -- the part is itself such a clause
            have hpart : .node kind' role' parts' ∈ s.focus.children := by rwa [hfocus]
            obtain ⟨right, hmem⟩ := exists_part_mem_walk hs hpart
            have hfits : kind.Fits parts := by
              have := fits_of_mem_walk ht hs
              rwa [hfocus] at this
            have hbinding' := hfits.binds hbinding _ hc kind' rfl
            exact exists_isBound_of_isBinding ht hmem rfl hbinding' (fun c hc => hc) hn
          · exact hrest hn
termination_by Tree.countAll ts
decreasing_by
  · rw [Tree.countAll, Tree.count_eq]
    omega
  · rw [Tree.countAll, Tree.count]
    omega

/-! ### Parameters -/

theorem isReference_of_isParameterList {kind : Kind} (h : isParameterList kind = true)
    (role role' : Role) (parts : List (Tree src)) (above : Option (Tree src)) :
    isReference role (some (.node kind role' parts)) above = false := by
  cases kind <;> first | rfl | cases h

theorem isReference_of_isSplat {kind kind' : Kind} (h : kind.isSplat = true)
    (h' : isParameterList kind' = true) (role role' role'' : Role) (parts parts' : List (Tree src)) :
    isReference role (some (.node kind role' parts)) (some (.node kind' role'' parts')) = false := by
  cases kind <;> first | exact congrArg (!·) h' | cases h

/-- A parameter that is a name, maybe behind stars, is bound. -/
theorem exists_isBound_of_starredName {t : Tree src} {s : Spot src} (hs : s ∈ walk t) {kind : Kind}
    {role : Role} {parts : List (Tree src)} (hfocus : s.focus = .node kind role parts)
    (hlist : isParameterList kind = true) {p : Tree src} (hp : p ∈ parts) {n : Name src}
    (hn : p.starredName? = some n) : ∃ b ∈ walk t, b.focus.name? = some n ∧ b.IsBound := by
  unfold Tree.starredName? at hn
  split at hn
  next role' m =>
    cases hn
    apply exists_isBound_of_part hs hfocus hp (isReference_of_isParameterList hlist ..)
    rintro rfl
    cases hlist
  next kind' role' role'' m =>
    split at hn
    next hsplat =>
      cases hn
      have hpart : .node kind' role' [.identifier role'' n] ∈ s.focus.children := by rwa [hfocus]
      obtain ⟨right, hmem⟩ := exists_part_mem_walk hs hpart
      apply exists_isBound_of_part hmem rfl List.mem_cons_self
      · rw [Spot.parent?, hfocus]
        exact isReference_of_isSplat hsplat hlist ..
      · rintro rfl
        cases hsplat
    next => cases hn
  next => cases hn

/-- A parameter with a default is bound if it is a name. -/
theorem exists_isBound_of_hasDefault {t : Tree src} (ht : Tree.Shaped [t]) {s : Spot src}
    (hs : s ∈ walk t) {kind : Kind} {role : Role} {head : Tree src} {rest : List (Tree src)}
    (hfocus : s.focus = .node kind role (head :: rest)) (hkind : kind.hasDefault = true)
    {n : Name src} (hn : head.name? = some n) :
    ∃ b ∈ walk t, b.focus.name? = some n ∧ b.IsBound := by
  cases head with
  | node => cases hn
  | identifier role' m =>
      cases hn
      have hfits := fits_of_mem_walk ht hs
      rw [hfocus] at hfits
      obtain rfl : role' = .name := hfits.takesDefault hkind _ rfl
      apply exists_isBound_of_part hs hfocus List.mem_cons_self
      · cases kind <;> first | rfl | cases hkind
      · rintro rfl
        cases hkind

theorem exists_isBound_of_parameterName {t : Tree src} (ht : Tree.Shaped [t]) {s : Spot src}
    (hs : s ∈ walk t) {kind : Kind} {role : Role} {parts : List (Tree src)}
    (hfocus : s.focus = .node kind role parts) (hkind : kind.isParameters = true) {p : Tree src}
    (hp : p ∈ parts) {n : Name src} (hn : p.parameterName? = some n) :
    ∃ b ∈ walk t, b.focus.name? = some n ∧ b.IsBound := by
  have hpart : p ∈ s.focus.children := by rwa [hfocus]
  obtain ⟨right, hmem⟩ := exists_part_mem_walk hs hpart
  unfold Tree.parameterName? at hn
  split at hn
  · exact exists_isBound_of_starredName hmem rfl rfl List.mem_cons_self hn
  · exact exists_isBound_of_hasDefault ht hmem rfl rfl hn
  · exact exists_isBound_of_hasDefault ht hmem rfl rfl hn
  · have hlist : isParameterList kind = true := by
      cases kind <;> first | rfl | cases hkind
    exact exists_isBound_of_starredName hs hfocus hlist hp hn

namespace Tree

theorem parameterNames_of_name {t : Tree src} {n : Name src} (h : t.name? = some n) :
    t.parameterNames = [n] := by
  cases t with
  | identifier role m =>
      cases h
      rfl
  | node => cases h

theorem parameterNames_of_starredName {t : Tree src} {n : Name src} (h : t.starredName? = some n) :
    t.parameterNames = [n] := by
  unfold starredName? at h
  split at h
  · cases h
    rfl
  next kind role role' m =>
    split at h
    · cases h
      simp [parameterNames, parameterNamesAll]
    · cases h
  · cases h

/-- A parameter that is a name binds nothing else. -/
theorem parameterNames_of_parameterName {p : Tree src} {n : Name src}
    (h : p.parameterName? = some n) : p.parameterNames = [n] := by
  unfold parameterName? at h
  split at h
  · simp [parameterNames, parameterNamesAll, Kind.isExtended, parameterNames_of_starredName h]
  · simp [parameterNames, parameterNamesAll, Kind.isExtended, parameterNames_of_name h]
  · simp [parameterNames, parameterNamesAll, Kind.isExtended, parameterNames_of_name h]
  · exact parameterNames_of_starredName h

end Tree

/-! ### All that is bound -/

/-- The name of a definition or of a keyword is bound. -/
theorem exists_isBound_of_isNamed {t : Tree src} {s : Spot src} (hs : s ∈ walk t) {kind : Kind}
    {role : Role} {parts : List (Tree src)} (hfocus : s.focus = .node kind role parts)
    (hkind : kind.isNamed = true) {c : Tree src} (hc : s.focus.part? .name = some c) {n : Name src}
    (hn : c.name? = some n) : ∃ b ∈ walk t, b.focus.name? = some n ∧ b.IsBound := by
  obtain ⟨hpart, hrole⟩ := mem_of_part? hc
  cases c with
  | node => cases hn
  | identifier role' m =>
      cases hn
      obtain rfl : role' = .name := hrole
      rw [hfocus] at hpart
      apply exists_isBound_of_part hs hfocus hpart
      · cases kind <;> first | rfl | cases hkind
      · rintro rfl
        cases hkind

theorem exists_isBound_of_mem_bindsHere {t : Tree src} (ht : Tree.Shaped [t]) {s : Spot src}
    (hs : s ∈ walk t) {n : Name src} (hn : n ∈ s.focus.bindsHere) (hplain : n ∉ s.focus.packsHere) :
    ∃ b ∈ walk t, b.focus.name? = some n ∧ b.IsBound := by
  cases hfocus : s.focus with
  | identifier role m =>
      rw [hfocus] at hn
      simp [Tree.bindsHere] at hn
  | node kind role parts =>
      rw [hfocus, Tree.bindsHere] at hn
      rw [hfocus, Tree.packsHere] at hplain
      split at hn
      next hkind =>
        obtain ⟨c, hc, hname⟩ := Option.bind_eq_some_iff.1 (Option.mem_toList.1 hn)
        exact exists_isBound_of_isNamed hs hfocus hkind (hfocus ▸ hc) hname
      next =>
        split at hn
        next hkind => exact exists_isBound_of_isBinding ht hs hfocus hkind (fun c hc => hc) hn
        next =>
          split at hn
          next hkind =>
            rw [if_pos hkind] at hplain
            obtain ⟨p, hp, hn⟩ := List.mem_flatMap.1 hn
            cases hname : p.parameterName? with
            | none =>
                have hpacked : p ∈ parts.filter fun p => p.parameterName?.isNone :=
                  List.mem_filter.2 ⟨hp, by rw [hname]; rfl⟩
                exact absurd (List.mem_flatMap.2 ⟨p, hpacked, hn⟩) hplain
            | some m =>
                rw [Tree.parameterNames_of_parameterName hname, List.mem_singleton] at hn
                exact exists_isBound_of_parameterName ht hs hfocus hkind hp (hn ▸ hname)
          next => simp at hn

/-! ### Tuples -/

/-- An identifier in use is found, unless its name is excluded. -/
theorem found_of_isUsed {t : Tree src} {s : Spot src} (hs : s ∈ walk t) {n : Name src}
    (hn : s.focus.name? = some n) (hused : s.IsUsed) (hkept : isExcluded n.text = false) :
    ∃ o ∈ treeOccurrences t, o.IsAt n := by
  cases hfocus : s.focus with
  | node => simp [hfocus, Tree.name?] at hn
  | identifier role m =>
      obtain rfl : m = n := by simpa [hfocus, Tree.name?] using hn
      rw [Spot.IsUsed, hfocus] at hused
      have hfound : occurrenceOf (importsIn t) s = some (m.occurrence _) :=
        occurrenceOf_eq_some_iff.2 ⟨m, _, .name hfocus hused, hkept, rfl⟩
      exact ⟨_, List.mem_filterMap.2 ⟨s, hs, hfound⟩, rfl, rfl⟩

mutual

/-- The identifiers of a tuple are in use, as far as can be told from the tuple around them. -/
theorem found_of_mem_tupleNames (c : Tree src) {t : Tree src} {s : Spot src} (hs : s ∈ walk t)
    (hfocus : s.focus = c) {n : Name src} (hn : n ∈ c.tupleNames)
    (hkept : isExcluded n.text = false) : ∃ o ∈ treeOccurrences t, o.IsAt n := by
  cases c with
  | identifier role m => simp [Tree.tupleNames] at hn
  | node kind role parts =>
      cases kind with
      | group => exact found_of_mem_tupleNamesAll parts hs hfocus (fun c hc => hc) hn hkept
      | _ => simp [Tree.tupleNames] at hn

theorem found_of_mem_tupleNamesAll (ts : List (Tree src)) {t : Tree src} {s : Spot src}
    (hs : s ∈ walk t) {role : Role} {parts : List (Tree src)}
    (hfocus : s.focus = .node .group role parts) (hts : ∀ c ∈ ts, c ∈ parts) {n : Name src}
    (hn : n ∈ Tree.tupleNamesAll ts) (hkept : isExcluded n.text = false) :
    ∃ o ∈ treeOccurrences t, o.IsAt n := by
  cases ts with
  | nil => simp [Tree.tupleNamesAll] at hn
  | cons c rest =>
      have hc : c ∈ s.focus.children := by
        rw [hfocus]
        exact hts c List.mem_cons_self
      obtain ⟨right, hmem⟩ := exists_part_mem_walk hs hc
      rw [Tree.tupleNamesAll, List.mem_append, List.mem_append] at hn
      rcases hn with (hn | hn) | hn
      · refine found_of_isUsed hmem (Option.mem_toList.1 hn) ?_ hkept
        rw [Spot.IsUsed, Spot.parent?, hfocus]
        rfl
      · exact found_of_mem_tupleNames c hmem rfl hn hkept
      · exact found_of_mem_tupleNamesAll rest hs hfocus
          (fun c hc => hts c (List.mem_cons_of_mem _ hc)) hn hkept

end

/-- A parameter is met without its type and default too. -/
theorem exists_target_mem_walk {t : Tree src} {s : Spot src} (hs : s ∈ walk t) {p : Tree src}
    (hp : p ∈ s.focus.children) : ∃ s' ∈ walk t, s'.focus = p.target := by
  obtain ⟨right, hmem⟩ := exists_part_mem_walk hs hp
  unfold Tree.target
  split
  next kind role head rest =>
    split
    · obtain ⟨right', hmem'⟩ := exists_part_mem_walk hmem List.mem_cons_self
      exact ⟨_, hmem', rfl⟩
    · exact ⟨_, hmem, rfl⟩
  next => exact ⟨_, hmem, rfl⟩

theorem found_of_mem_tuplesHere {t : Tree src} {s : Spot src} (hs : s ∈ walk t) {n : Name src}
    (hn : n ∈ s.focus.tuplesHere) (hkept : isExcluded n.text = false) :
    ∃ o ∈ treeOccurrences t, o.IsAt n := by
  cases hfocus : s.focus with
  | identifier role m =>
      rw [hfocus] at hn
      simp [Tree.tuplesHere] at hn
  | node kind role parts =>
      rw [hfocus, Tree.tuplesHere] at hn
      split at hn
      next =>
        obtain ⟨p, hp, hn⟩ := List.mem_flatMap.1 hn
        have hpart : p ∈ s.focus.children := by rwa [hfocus]
        obtain ⟨s', hs', htarget⟩ := exists_target_mem_walk hs hpart
        exact found_of_mem_tupleNames p.target hs' htarget hn hkept
      next => simp at hn

/-- What is found at the identifiers that a tree binds: nothing, but for those within parameters that
are more than a name. Those within tuples are found, unless excluded. -/
structure Tree.HidesBindings (t : Tree src) : Prop where
  plain : ∀ n ∈ t.bindings, n ∉ t.packed → ∀ o ∈ treeOccurrences t, ¬ o.IsAt n
  tuples : ∀ n ∈ t.tupled, isExcluded n.text = false → ∃ o ∈ treeOccurrences t, o.IsAt n

theorem hidesBindings_of_shaped {t : Tree src} (hshaped : Tree.Shaped [t]) (hdistinct : t.Distinct) :
    t.HidesBindings where
  plain n hn hplain := by
    obtain ⟨s, hs, hn⟩ := exists_spot_of_mem_flatMap hn
    have hpacks : n ∉ s.focus.packsHere := by
      intro hpacks
      apply hplain
      rw [Tree.packed, ← map_focus_walk, List.flatMap_map]
      exact List.mem_flatMap.2 ⟨s, hs, hpacks⟩
    obtain ⟨b, hb, hname, hbound⟩ := exists_isBound_of_mem_bindsHere hshaped hs hn hpacks
    exact not_isAt_of_isBound hdistinct hb hname hbound
  tuples n hn hkept := by
    obtain ⟨s, hs, hn⟩ := exists_spot_of_mem_flatMap hn
    exact found_of_mem_tuplesHere hs hn hkept

/-- Whatever tree of the grammar's shape stands for a source, if its identifiers stand at different
places: nothing is found at those that it binds, but for those within parameters that are more than a
name. The tree of a source without errors is one of these. -/
theorem not_found_at_bindings :
    (∀ t : Tree src, Tree.Shaped [t] → t.Distinct → t.HidesBindings) ∧
      ∀ t : Tree src, parse? src = some t → t.HidesBindings :=
  ⟨fun _ hshaped hdistinct => hidesBindings_of_shaped hshaped hdistinct,
    fun _ h => hidesBindings_of_shaped (shaped_of_parse? h) (distinct_of_parse? h)⟩

/-- A source with bindings of all sorts, two of them within a tuple. -/
def mixedBindings : List Char :=
  "from a import b as c\nclass D(e, f=g):\n def h(i, (j, k), l=m, *n): global o\n".toList

theorem not_found_at_bindings_mixed :
    ∃ t : Tree mixedBindings, parse? _ = some t ∧ Tree.Shaped [t] ∧ t.Distinct ∧
      (t.bindings.filter (· ∉ t.packed)).map (·.text) =
        ["a", "b", "c", "a", "b", "c", "b", "D", "f", "h", "i", "l", "n", "o"] ∧
      (∀ n ∈ t.bindings, n ∉ t.packed → ∀ o ∈ treeOccurrences t, ¬ o.IsAt n) ∧
      t.tupled.map (·.text) = ["j", "k"] ∧
      ∀ n ∈ t.tupled, isExcluded n.text = false → ∃ o ∈ treeOccurrences t, o.IsAt n := by
  have hparse : (parse? mixedBindings).map
      (fun t => ((t.bindings.filter (· ∉ t.packed)).map (·.text), t.tupled.map (·.text))) =
      some (["a", "b", "c", "a", "b", "c", "b", "D", "f", "h", "i", "l", "n", "o"], ["j", "k"]) := by
    decide +kernel
  obtain ⟨t, ht, htexts⟩ := Option.map_eq_some_iff.1 hparse
  obtain ⟨hbindings, htupled⟩ := Prod.mk.inj htexts
  have hshaped := shaped_of_parse? ht
  have hdistinct := distinct_of_parse? ht
  have hplain := (not_found_at_bindings.1 t hshaped hdistinct).plain
  have htuples := (not_found_at_bindings.2 t ht).tuples
  exact ⟨t, ht, hshaped, hdistinct, hbindings, hplain, htupled, htuples⟩

/-- Parameters within a tuple are bound, and there are occurrences at them. -/
theorem tuple_parameters_found :
    ∃ t : Tree "def f((a, b)): pass\n".toList, parse? _ = some t ∧
      t.bindings.map (·.text) = ["f", "a", "b"] ∧
      treeOccurrences t = [⟨1, 7, "a", .name⟩, ⟨1, 10, "b", .name⟩] ∧
      ∃ n ∈ t.bindings, ∃ o ∈ treeOccurrences t, o.IsAt n := by
  have hparse : (parse? "def f((a, b)): pass\n".toList).any (fun t =>
      t.bindings.map (·.text) = ["f", "a", "b"] ∧
      treeOccurrences t = [⟨1, 7, "a", .name⟩, ⟨1, 10, "b", .name⟩] ∧
      ∃ n ∈ t.bindings, ∃ o ∈ treeOccurrences t, o.IsAt n) = true := by
    decide +kernel
  obtain ⟨t, ht, hfound⟩ := (Option.any_eq_true _ _).1 hparse
  exact ⟨t, ht, of_decide_eq_true hfound⟩

end Source

end LookupBench
