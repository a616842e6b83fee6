import LookupBench.Benchmark.Run
import LookupBench.Proofs.Table

/-!
# What is put down for a server

Putting down the outcome of a session changes the entries of its server and nothing else. So what
stands for a server after a run follows from its own outcome and from what stood for it before; the
other servers, and the order in which all finish, have no part in it.
-/

namespace LookupBench

/-! ### The parts of an outcome -/

namespace SessionOutcome

def result : SessionOutcome → ServerCaseResult
  | completed lookup => .ofResult lookup
  | failed message => .failed message

/-- Why an outcome counts as unresolved, if it does, and the error that goes with it. -/
def unresolved : SessionOutcome → Option (UnresolvedReason × Option String)
  | completed lookup =>
    (ServerCaseResult.ofResult lookup).unresolvedReason.map fun reason => (reason, lookup.error)
  | failed message => some (.serverException, some message)

/-- The bucket of the server behind an outcome. -/
def count (outcome : SessionOutcome) (b : Bucket) : Bucket :=
  match outcome with
  | completed lookup => b.record lookup (ServerCaseResult.ofResult lookup).anyValid
  | failed _ => b.recordFailure

end SessionOutcome

namespace Tally

theorem add_eq (name : String) (outcome : SessionOutcome) (t : Tally) :
    t.add name outcome = (outcome.result,
      t.enter name outcome.result outcome.unresolved (outcome.count (t.bucket name))) := by
  cases outcome <;> rfl

/-! ### Entries after an entry -/

section Enter

variable (name other : String) (result : ServerCaseResult)
  (unresolved : Option (UnresolvedReason × Option String)) (b : Bucket) (t : Tally)

@[simp] theorem run_enter : (t.enter name result unresolved b).record.run = t.record.run := rfl

@[simp] theorem picked_enter :
    (t.enter name result unresolved b).record.picked = t.record.picked := rfl

theorem get?_results_enter :
    (t.enter name result unresolved b).record.results.get? other
      = if name = other then some result else t.record.results.get? other :=
  Table.get?_put name other result t.record.results

theorem get?_buckets_enter :
    (t.enter name result unresolved b).buckets.get? other
      = if name = other then some b else t.buckets.get? other :=
  Table.get?_put name other b t.buckets

theorem get?_unresolved_enter :
    (t.enter name result unresolved b).record.unresolved.get? other
      = if name = other then
          (unresolved.map fun u => ⟨t.record.picked, u.1, u.2⟩).or
            (t.record.unresolved.get? other)
        else t.record.unresolved.get? other := by
  cases unresolved with
  | none => simp [enter]
  | some u =>
      simp only [enter, Table.get?_put, Option.map_some, Option.some_or]

end Enter

/-! ### What stands for one server -/

/-- What is put down for a server: in the record of the run, and in its bucket. -/
structure Entry where
  result : Option ServerCaseResult
  unresolved : Option Unresolved
  bucket : Option Bucket

def entry (name : String) (t : Tally) : Entry where
  result := t.record.results.get? name
  unresolved := t.record.unresolved.get? name
  bucket := t.buckets.get? name

/-- What stands for a server behind an outcome of its own, in a run with this case. -/
def Entry.after (picked : PickedCase) (outcome : SessionOutcome) (e : Entry) : Entry where
  result := some outcome.result
  unresolved := (outcome.unresolved.map fun u => ⟨picked, u.1, u.2⟩).or e.unresolved
  bucket := some (outcome.count (e.bucket.getD .empty))

theorem entry_add (name other : String) (outcome : SessionOutcome) (t : Tally) :
    (t.add name outcome).2.entry other
      = if name = other then (t.entry other).after t.record.picked outcome
        else t.entry other := by
  rw [add_eq]
  simp only [entry, get?_results_enter, get?_buckets_enter, get?_unresolved_enter]
  split
  next heq =>
    subst heq
    rfl
  next => rfl

/-- What stands for a server that is not there. -/
def Entry.missing (picked : PickedCase) (message : String) (e : Entry) : Entry where
  result := some (.failed message)
  unresolved := some ⟨picked, .serverUnavailable, some message⟩
  bucket := some (e.bucket.getD .empty).recordFailure

theorem entry_absent (name other message : String) (t : Tally) :
    (t.absent name message).2.entry other
      = if name = other then (t.entry other).missing t.record.picked message
        else t.entry other := by
  simp only [absent, entry, get?_results_enter, get?_buckets_enter, get?_unresolved_enter]
  split
  next heq =>
    subst heq
    rfl
  next => rfl

/-- Tallies of one run with the same entry for each server are the same. -/
theorem ext_entry {t t' : Tally} (hrun : t.record.run = t'.record.run)
    (hpicked : t.record.picked = t'.record.picked) (hentry : ∀ name, t.entry name = t'.entry name) :
    t = t' := by
  obtain ⟨⟨run, picked, results, unresolved⟩, buckets⟩ := t
  obtain ⟨⟨run', picked', results', unresolved'⟩, buckets'⟩ := t'
  have hresults : results = results' :=
    Table.ext_get? fun name => congrArg Entry.result (hentry name)
  have hunresolved : unresolved = unresolved' :=
    Table.ext_get? fun name => congrArg Entry.unresolved (hentry name)
  have hbuckets : buckets = buckets' :=
    Table.ext_get? fun name => congrArg Entry.bucket (hentry name)
  cases hrun
  cases hpicked
  rw [hresults, hunresolved, hbuckets]

end Tally

/-! ### The servers that are not there -/

namespace Benchmark

open Tally

theorem picked_enterAbsent (servers : List Server) (t : Tally) :
    (enterAbsent servers t).2.record.picked = t.record.picked := by
  induction servers generalizing t with
  | nil => rfl
  | cons server rest ih => rw [enterAbsent, ih, absent, picked_enter]

theorem entry_enterAbsent_of_notMem (other : String) (servers : List Server) (t : Tally)
    (hnot : other ∉ servers.map (·.name)) :
    (enterAbsent servers t).2.entry other = t.entry other := by
  induction servers generalizing t with
  | nil => rfl
  | cons server rest ih =>
      obtain ⟨hne, hrest⟩ := not_or.1 (mt List.mem_cons.2 hnot)
      rw [enterAbsent, ih _ hrest, entry_absent, if_neg (Ne.symm hne)]

theorem entry_enterAbsent {server : Server} (servers : List Server) (t : Tally)
    (hnodup : (servers.map (·.name)).Nodup) (hmem : server ∈ servers) :
    (enterAbsent servers t).2.entry server.name
      = (t.entry server.name).missing t.record.picked (absentMessage server) := by
  induction servers generalizing t with
  | nil => cases hmem
  | cons first rest ih =>
      obtain ⟨hnot, hrest⟩ := List.nodup_cons.1 hnodup
      rcases List.mem_cons.1 hmem with rfl | hmem
      · rw [enterAbsent, entry_enterAbsent_of_notMem server.name rest _ hnot, entry_absent,
          if_pos rfl]
      · have hne : first.name ≠ server.name := fun heq =>
          hnot (List.mem_map.2 ⟨server, hmem, heq.symm⟩)
        rw [enterAbsent, ih _ hrest hmem, entry_absent, if_neg hne, absent, picked_enter]

end Benchmark

/-! ### The outcomes of a run, in the order in which the sessions finish -/

namespace Benchmark

open Tally

theorem run_enterAll (entries : List (String × SessionOutcome)) (t : Tally) :
    (enterAll entries t).2.record.run = t.record.run := by
  induction entries generalizing t with
  | nil => rfl
  | cons e rest ih => rw [enterAll, ih, add_eq, run_enter]

theorem picked_enterAll (entries : List (String × SessionOutcome)) (t : Tally) :
    (enterAll entries t).2.record.picked = t.record.picked := by
  induction entries generalizing t with
  | nil => rfl
  | cons e rest ih => rw [enterAll, ih, add_eq, picked_enter]

theorem entry_enterAll_of_notMem (other : String) (entries : List (String × SessionOutcome))
    (t : Tally) (hnot : other ∉ entries.map Prod.fst) :
    (enterAll entries t).2.entry other = t.entry other := by
  induction entries generalizing t with
  | nil => rfl
  | cons e rest ih =>
      obtain ⟨hne, hrest⟩ := not_or.1 (mt List.mem_cons.2 hnot)
      rw [enterAll, ih _ hrest, entry_add, if_neg (Ne.symm hne)]

/-- What stands for a server after a run follows from its own outcome and from what stood for it
before. -/
theorem entry_enterAll (other : String) (entries : List (String × SessionOutcome)) (t : Tally)
    (hnodup : (entries.map Prod.fst).Nodup) :
    (enterAll entries t).2.entry other
      = match entryOf? other entries with
        | some outcome => (t.entry other).after t.record.picked outcome
        | none => t.entry other := by
  induction entries generalizing t with
  | nil => rfl
  | cons e rest ih =>
      obtain ⟨name, outcome⟩ := e
      obtain ⟨hnot, hrest⟩ := List.nodup_cons.1 hnodup
      by_cases heq : name = other
      · subst heq
        rw [enterAll, entry_enterAll_of_notMem name rest _ hnot, entry_add, if_pos rfl, entryOf?,
          if_pos rfl]
      · rw [enterAll, ih _ hrest, entry_add, if_neg heq, add_eq, picked_enter, entryOf?,
          if_neg heq]

/-- The order in which the sessions of a run finish does not matter. -/
theorem enterAll_perm {entries entries' : List (String × SessionOutcome)}
    (hnodup : (entries.map Prod.fst).Nodup) (hperm : entries.Perm entries') (t : Tally) :
    (enterAll entries t).2 = (enterAll entries' t).2 := by
  have hnodup' : (entries'.map Prod.fst).Nodup := (hperm.map Prod.fst).nodup_iff.1 hnodup
  apply Tally.ext_entry
  · rw [run_enterAll, run_enterAll]
  · rw [picked_enterAll, picked_enterAll]
  · intro name
    rw [entry_enterAll name entries t hnodup, entry_enterAll name entries' t hnodup',
      entryOf?_perm hperm hnodup]

end Benchmark

end LookupBench
