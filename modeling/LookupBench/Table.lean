/-!
# Tables

Entries with distinct names, in the order of the names. Two tables with the same entries are the
same table, in whatever order the entries were put into it.
-/

namespace LookupBench

/-- Put an entry into its place among entries in order. An earlier one of the same name is
replaced. -/
def putEntry {α : Type} (name : String) (value : α) : List (String × α) → List (String × α)
  | [] => [(name, value)]
  | (n, v) :: rest =>
    if name < n then (name, value) :: (n, v) :: rest
    else if name = n then (name, value) :: rest
    else (n, v) :: putEntry name value rest

def entryOf? {α : Type} (name : String) : List (String × α) → Option α
  | [] => none
  | (n, v) :: rest => if n = name then some v else entryOf? name rest

theorem eq_or_mem_of_mem_putEntry {α : Type} {name : String} {value : α} {e : String × α} :
    ∀ {entries : List (String × α)}, e ∈ putEntry name value entries →
      e = (name, value) ∨ e ∈ entries
  | [], h => by simpa [putEntry] using h
  | (n, v) :: rest, h => by
    rw [putEntry] at h
    split at h
    · simpa using h
    · split at h
      · rcases List.mem_cons.1 h with h | h
        · exact .inl h
        · exact .inr (List.mem_cons_of_mem _ h)
      · rcases List.mem_cons.1 h with h | h
        · exact .inr (h ▸ List.mem_cons_self)
        · exact (eq_or_mem_of_mem_putEntry h).imp_right (List.mem_cons_of_mem _)

theorem pairwise_putEntry {α : Type} {name : String} {value : α} :
    ∀ {entries : List (String × α)}, entries.Pairwise (fun a b => a.1 < b.1) →
      (putEntry name value entries).Pairwise (fun a b => a.1 < b.1)
  | [], _ => by simp [putEntry]
  | (n, v) :: rest, h => by
    have ⟨above, later⟩ := List.pairwise_cons.1 h
    rw [putEntry]
    split
    next less =>
      refine List.pairwise_cons.2 ⟨fun e he => ?_, h⟩
      rcases List.mem_cons.1 he with rfl | he
      · exact less
      · exact String.lt_trans less (above e he)
    next notLess =>
      split
      next same => exact List.pairwise_cons.2 ⟨fun e he => same ▸ above e he, later⟩
      next other =>
        refine List.pairwise_cons.2 ⟨fun e he => ?_, pairwise_putEntry later⟩
        rcases eq_or_mem_of_mem_putEntry he with rfl | he
        · have le : n ≤ name := String.not_lt.1 notLess
          rcases Decidable.em (n < name) with lt | notLt
          · exact lt
          · exact absurd (String.le_antisymm le (String.not_lt.1 notLt)) (Ne.symm other)
        · exact above e he

structure Table (α : Type) where
  entries : List (String × α)
  sorted : entries.Pairwise fun a b => a.1 < b.1
  deriving DecidableEq

namespace Table

variable {α β : Type}

def empty : Table α := ⟨[], .nil⟩

instance : Inhabited (Table α) := ⟨empty⟩

def put (name : String) (value : α) (t : Table α) : Table α :=
  ⟨putEntry name value t.entries, pairwise_putEntry t.sorted⟩

def get? (name : String) (t : Table α) : Option α := entryOf? name t.entries

/-- The last entry of a name counts. -/
def ofList (entries : List (String × α)) : Table α :=
  entries.foldl (fun t (name, value) => t.put name value) empty

def names (t : Table α) : List String := t.entries.map (·.1)

def map (f : α → β) (t : Table α) : Table β :=
  ⟨t.entries.map fun (name, value) => (name, f value), by
    rw [List.pairwise_map]
    exact t.sorted⟩

end Table

end LookupBench
