import LookupBench.Proofs.Source.Reading.Statement
import LookupBench.Proofs.Source.Site

/-!
# Calls and what they call

A call gives an occurrence, and so does what it calls: a name or an attribute, which the walk meets
later. Both are about the same identifier, so they agree on its place, its name and whether it was
imported; and there is no third, since an identifier is found in use only once.
-/

namespace LookupBench

def Occurrence.place (o : Occurrence) : Nat × Nat := (o.line, o.column)

/-- Kinds of occurrences for what an occurrence of a kind calls. -/
def OccurrenceKind.callees : OccurrenceKind → List OccurrenceKind
  | call | importedCall => [name, importedName]
  | attrCall | importedAttrCall => [attr, importedAttr]
  | _ => []

namespace Source

/-- Uses and calls have places of their own, and each call has its use behind it. -/
structure Mirrored (found : List Occurrence) : Prop where
  uses_once : ((found.filter fun o => o.kind ∈ uses).map (·.place)).Nodup
  calls_once : ((found.filter fun o => o.kind ∈ calls).map (·.place)).Nodup
  followed : ∀ before o after, found = before ++ o :: after → o.kind ∈ calls →
    ∃ p, (after.filter fun p =>
        p.kind ∈ o.kind.callees ∧ p.place = o.place ∧ p.token = o.token) = [p] ∧
      p.kind.isImported = o.kind.isImported

variable {src : List Char}

theorem mem_uses_of_mem_callees {called kind : OccurrenceKind} (h : kind ∈ called.callees) :
    kind ∈ uses := by
  revert kind
  cases called <;> decide

/-- Behind a call comes what it calls, found in use. -/
theorem exists_use_of_call {imports : Imports} {t : Tree src} {before after : List (Spot src)}
    {s : Spot src} (hwalk : walk t = before ++ s :: after) {n : Name src} {kind : OccurrenceKind}
    (h : Finds imports s n kind) (hcall : kind ∈ calls) :
    ∃ s' ∈ after, ∃ kind', Finds imports s' n kind' ∧ kind' ∈ kind.callees ∧
      kind'.isImported = kind.isImported := by
  cases h with
  | name hfocus hused => split at hcall <;> simp [calls] at hcall
  | attr hfocus hpart => split at hcall <;> simp [calls] at hcall
  | call hfocus hcallee =>
      obtain ⟨right, hmem⟩ := exists_part_of_walk hwalk (mem_of_part? hcallee).1
      refine ⟨_, hmem, _, .name rfl ?_, ?_, ?_⟩
      · rw [hfocus]
        rfl
      · split <;> decide
      · split <;> rfl
  | @attrCall role r parts callee hfocus hcallee hkind hpart =>
      obtain ⟨right, hmem⟩ := exists_part_of_walk hwalk (mem_of_part? hcallee).1
      obtain ⟨role', parts', rfl⟩ : ∃ role' parts', callee = .node .attribute role' parts' := by
        cases callee with
        | identifier => cases hkind
        | node kind' role' parts' =>
            obtain rfl := Option.some.inj hkind
            exact ⟨role', parts', rfl⟩
      refine ⟨_, hmem, _, .attr rfl hpart, ?_, ?_⟩
      · split <;> decide
      · split <;> rfl

/-- Two occurrences of one sort are at two places. -/
theorem pairwise_places {t : Tree src} (ht : t.Distinct) :
    (treeOccurrences t).Pairwise fun o p =>
      (o.kind ∈ uses ∧ p.kind ∈ uses ∨ o.kind ∈ calls ∧ p.kind ∈ calls) → o.place ≠ p.place := by
  have hspots := List.Pairwise.and_mem.1 (nodup_walk t)
  apply hspots.filterMap
  rintro s s' ⟨hs, hs', hne⟩ o ho p hp hkinds hplace
  obtain ⟨n, kind, hfinds, -, rfl⟩ := occurrenceOf_eq_some_iff.1 ho
  obtain ⟨n', kind', hfinds', -, rfl⟩ := occurrenceOf_eq_some_iff.1 hp
  obtain ⟨hrow, hcolumn⟩ := Prod.mk.inj hplace
  have hstart : n.start = n'.start := Name.start_eq (Nat.succ.inj hrow) hcolumn
  exact hne (eq_of_finds ht hs hs' hfinds hfinds' hkinds hstart)

theorem nodup_places {found : List Occurrence} {kinds : List OccurrenceKind}
    (h : found.Pairwise fun o p => o.kind ∈ kinds → p.kind ∈ kinds → o.place ≠ p.place) :
    ((found.filter fun o => o.kind ∈ kinds).map (·.place)).Nodup := by
  rw [List.Nodup, List.pairwise_map, List.pairwise_filter]
  apply h.imp
  intro o p hplaces ho hp
  exact hplaces (by simpa using ho) (by simpa using hp)

/-- A list has one item only if any two are alike. -/
theorem eq_singleton_of_pairwise {α : Type} {R : α → α → Prop} {items : List α}
    (h : items.Pairwise R) (hnone : ∀ a ∈ items, ∀ b ∈ items, ¬ R a b) {a : α} (ha : a ∈ items) :
    items = [a] := by
  cases items with
  | nil => simp at ha
  | cons b rest =>
      cases rest with
      | nil => rw [List.mem_singleton.1 ha]
      | cons c rest =>
          have hbc := (List.pairwise_cons.1 h).1 c List.mem_cons_self
          exact absurd hbc (hnone b (by simp) c (by simp))

/-- In a tree whose identifiers stand at different places, each call is followed by one use. -/
theorem mirrored_of_distinct {t : Tree src} (ht : t.Distinct) : Mirrored (treeOccurrences t) := by
  have hplaces := pairwise_places ht
  refine ⟨?_, ?_, ?_⟩
  · apply nodup_places
    exact hplaces.imp fun h ho hp => h (.inl ⟨ho, hp⟩)
  · apply nodup_places
    exact hplaces.imp fun h ho hp => h (.inr ⟨ho, hp⟩)
  · intro before o after hfound hcall
    -- the spots before, at and behind the call
    obtain ⟨spots, spots', hwalk, -, hrest⟩ := List.filterMap_eq_append_iff.1 hfound
    obtain ⟨skipped, s, later, rfl, -, hs, rfl⟩ := List.filterMap_eq_cons_iff.1 hrest
    obtain ⟨n, kind, hfinds, hkept, rfl⟩ := occurrenceOf_eq_some_iff.1 hs
    rw [← List.append_assoc] at hwalk
    obtain ⟨s', hs', kind', huse, hcallee, himported⟩ := exists_use_of_call hwalk hfinds hcall
    refine ⟨n.occurrence kind', ?_, himported⟩
    have hafter : (later.filterMap (occurrenceOf (importsIn t))).Pairwise fun o p =>
        (o.kind ∈ uses ∧ p.kind ∈ uses ∨ o.kind ∈ calls ∧ p.kind ∈ calls) → o.place ≠ p.place := by
      rw [hfound, List.pairwise_append] at hplaces
      exact (List.pairwise_cons.1 hplaces.2.1).2
    apply eq_singleton_of_pairwise (hafter.filter _)
    · intro o ho p hp hapart
      simp only [List.mem_filter, decide_eq_true_eq] at ho hp
      obtain ⟨-, hkind, hplace, -⟩ := ho
      obtain ⟨-, hkind', hplace', -⟩ := hp
      exact hapart (.inl ⟨mem_uses_of_mem_callees hkind, mem_uses_of_mem_callees hkind'⟩)
        (hplace.trans hplace'.symm)
    · have hfound' : occurrenceOf (importsIn t) s' = some (n.occurrence kind') :=
        occurrenceOf_eq_some_iff.2 ⟨n, kind', huse, hkept, rfl⟩
      simp only [List.mem_filter, decide_eq_true_eq]
      exact ⟨List.mem_filterMap.2 ⟨s', hs', hfound'⟩, hcallee, rfl, rfl⟩

/-- Calls mirror uses in every tree whose identifiers stand at different places, and so in every
source without errors. -/
theorem calls_mirror_uses :
    (∀ t : Tree src, t.Distinct → Mirrored (treeOccurrences t)) ∧
      ∀ source found, syntaxOccurrences source = some found → Mirrored found := by
  refine ⟨fun t ht => mirrored_of_distinct ht, fun source found h => ?_⟩
  obtain ⟨t, ht, rfl⟩ := Option.map_eq_some_iff.1 h
  exact mirrored_of_distinct (distinct_of_parse? ht)

/-- A call of the attribute of a call, and a tree put together by hand. -/
theorem calls_mirror_uses_chained :
    Mirrored [⟨2, 7, "g", .attrCall⟩, ⟨2, 7, "g", .attr⟩, ⟨2, 3, "f", .importedAttrCall⟩,
      ⟨2, 3, "f", .importedAttr⟩, ⟨2, 0, "os", .importedName⟩] ∧
    Mirrored (treeOccurrences (.node .call .plain
      [.identifier .function ⟨0, by decide⟩, .group []] : Tree ['f', '(', ')'])) := by
  have hfound : syntaxOccurrences "import os\nos.f().g()\n".toList =
      some [⟨2, 7, "g", .attrCall⟩, ⟨2, 7, "g", .attr⟩, ⟨2, 3, "f", .importedAttrCall⟩,
        ⟨2, 3, "f", .importedAttr⟩, ⟨2, 0, "os", .importedName⟩] := by
    decide +kernel
  refine ⟨(@calls_mirror_uses []).2 _ _ hfound, calls_mirror_uses.1 _ ?_⟩
  exact List.pairwise_singleton _ _

end Source

end LookupBench
