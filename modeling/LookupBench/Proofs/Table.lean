import LookupBench.Table
import Mathlib.Data.List.Basic
import Mathlib.Data.List.Nodup

/-!
# Looking up entries

A list of entries with distinct names is as good as a function from names to values: permuting it
changes no value. A table is determined by its values, so two tables in which every name has the
same value are the same.
-/

namespace LookupBench

variable {α β : Type}

theorem mem_of_entryOf? {name : String} {value : α} {entries : List (String × α)}
    (h : entryOf? name entries = some value) : (name, value) ∈ entries := by
  induction entries with
  | nil => simp [entryOf?] at h
  | cons e rest ih =>
      rw [entryOf?] at h
      split at h
      next heq =>
        cases h
        exact heq ▸ List.mem_cons_self
      next => exact List.mem_cons_of_mem _ (ih h)

theorem entryOf?_eq_some_iff {name : String} {value : α} {entries : List (String × α)}
    (hnodup : (entries.map Prod.fst).Nodup) :
    entryOf? name entries = some value ↔ (name, value) ∈ entries := by
  induction entries with
  | nil => simp [entryOf?]
  | cons e rest ih =>
      obtain ⟨hnot, hrest⟩ := List.nodup_cons.1 hnodup
      refine ⟨mem_of_entryOf?, fun hmem => ?_⟩
      rw [entryOf?]
      rcases List.mem_cons.1 hmem with heq | hmem
      · cases heq
        rw [if_pos rfl]
      · have hne : e.1 ≠ name := by
          rintro rfl
          exact hnot (List.mem_map.2 ⟨_, hmem, rfl⟩)
        rw [if_neg hne]
        exact (ih hrest).2 hmem

theorem entryOf?_eq_none_iff {name : String} {entries : List (String × α)} :
    entryOf? name entries = none ↔ name ∉ entries.map Prod.fst := by
  induction entries with
  | nil => simp [entryOf?]
  | cons e rest ih =>
      rw [entryOf?]
      split
      next heq => simp [heq]
      next hne =>
        rw [ih, List.map_cons, List.mem_cons, not_or]
        exact (and_iff_right (Ne.symm hne)).symm

theorem entryOf?_perm {entries entries' : List (String × α)} (hperm : entries.Perm entries')
    (hnodup : (entries.map Prod.fst).Nodup) (name : String) :
    entryOf? name entries = entryOf? name entries' := by
  have hnodup' : (entries'.map Prod.fst).Nodup := (hperm.map Prod.fst).nodup_iff.1 hnodup
  apply Option.ext
  intro value
  rw [entryOf?_eq_some_iff hnodup, entryOf?_eq_some_iff hnodup', hperm.mem_iff]

theorem entryOf?_map (f : α → β) (name : String) (entries : List (String × α)) :
    entryOf? name (entries.map fun e => (e.1, f e.2)) = (entryOf? name entries).map f := by
  induction entries with
  | nil => rfl
  | cons e rest ih =>
      simp only [List.map_cons, entryOf?]
      split
      · rfl
      · exact ih

theorem entryOf?_putEntry (name other : String) (value : α) (entries : List (String × α)) :
    entryOf? other (putEntry name value entries)
      = if name = other then some value else entryOf? other entries := by
  induction entries with
  | nil => rfl
  | cons e rest ih =>
      rw [putEntry]
      split
      · rfl
      · split
        next heq =>
          subst heq
          simp only [entryOf?]
          split <;> rfl
        next hne =>
          simp only [entryOf?, ih]
          split
          next heq =>
            subst heq
            rw [if_neg hne]
          next => rfl

namespace Table

theorem nodup_names (t : Table α) : t.names.Nodup := by
  unfold names
  rw [List.nodup_iff_pairwise_ne, List.pairwise_map]
  exact t.sorted.imp String.ne_of_lt

@[simp] theorem get?_empty (name : String) : (empty : Table α).get? name = none := rfl

theorem get?_put (name other : String) (value : α) (t : Table α) :
    (t.put name value).get? other = if name = other then some value else t.get? other :=
  entryOf?_putEntry name other value t.entries

theorem get?_of_mem_entries {t : Table α} {e : String × α} (h : e ∈ t.entries) :
    t.get? e.1 = some e.2 :=
  (entryOf?_eq_some_iff t.nodup_names).2 h

theorem mem_names_iff {name : String} {t : Table α} :
    name ∈ t.names ↔ (t.get? name).isSome = true := by
  rw [Option.isSome_iff_ne_none, Ne, get?, entryOf?_eq_none_iff, not_not]
  rfl

@[simp] theorem get?_map (f : α → β) (name : String) (t : Table α) :
    (t.map f).get? name = (t.get? name).map f :=
  entryOf?_map f name t.entries

@[simp] theorem names_map (f : α → β) (t : Table α) : (t.map f).names = t.names := by
  simp [names, map]

/-- Tables with the same value for each name are the same. -/
theorem ext_get? {t t' : Table α} (h : ∀ name, t.get? name = t'.get? name) : t = t' := by
  have hmem : ∀ e, e ∈ t.entries ↔ e ∈ t'.entries := by
    rintro ⟨name, value⟩
    rw [← entryOf?_eq_some_iff t.nodup_names, ← entryOf?_eq_some_iff t'.nodup_names]
    exact Eq.congr_left (h name)
  have hperm : t.entries.Perm t'.entries :=
    (List.perm_ext_iff_of_nodup t.nodup_names.of_map t'.nodup_names.of_map).2 hmem
  have heq : t.entries = t'.entries := by
    refine hperm.eq_of_pairwise (fun a b _ _ hab hba => ?_) t.sorted t'.sorted
    exact absurd (String.lt_trans hab hba) (String.lt_irrefl _)
  cases t
  cases t'
  cases heq
  rfl

theorem get?_ofList {name : String} {entries : List (String × α)}
    (hnodup : (entries.map Prod.fst).Nodup) :
    (ofList entries).get? name = entryOf? name entries := by
  suffices hfold : ∀ (entries : List (String × α)) (t : Table α), (entries.map Prod.fst).Nodup →
      (entries.foldl (fun t e => t.put e.1 e.2) t).get? name
        = (entryOf? name entries).or (t.get? name) by
    rw [ofList, hfold entries empty hnodup, get?_empty, Option.or_none]
  intro entries
  induction entries with
  | nil => intro t _; rfl
  | cons e rest ih =>
      intro t hnodup
      obtain ⟨hnot, hrest⟩ := List.nodup_cons.1 hnodup
      rw [List.foldl_cons, ih _ hrest, get?_put, entryOf?]
      split
      next heq =>
        have hnone : entryOf? name rest = none := entryOf?_eq_none_iff.2 (heq ▸ hnot)
        rw [hnone, Option.none_or, Option.some_or]
      next => rfl

theorem mem_of_mem_ofList {entries : List (String × α)} {e : String × α}
    (h : e ∈ (ofList entries).entries) : e ∈ entries := by
  suffices hfold : ∀ t : Table α, e ∈ (entries.foldl (fun t e => t.put e.1 e.2) t).entries →
      e ∈ t.entries ∨ e ∈ entries from (hfold empty h).resolve_left List.not_mem_nil
  clear h
  induction entries with
  | nil => exact fun t h => .inl h
  | cons e' rest ih =>
      intro t h
      rcases ih _ h with hput | hrest
      · rcases eq_or_mem_of_mem_putEntry hput with rfl | ht
        · exact .inr List.mem_cons_self
        · exact .inl ht
      · exact .inr (List.mem_cons_of_mem _ hrest)

/-- A table is made of its own entries. -/
theorem ofList_entries (t : Table α) : ofList t.entries = t :=
  ext_get? fun _ => get?_ofList t.nodup_names

end Table

end LookupBench
