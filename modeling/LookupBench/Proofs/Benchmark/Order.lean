import LookupBench.Proofs.Benchmark.Run
import LookupBench.Proofs.Benchmark.Tally

/-!
# The order in which sessions finish

The sessions of a run finish in some order, and the tally takes them in that order. The order leaves
no trace: not in the record of the run, not in the buckets, and so not in the report over all runs.
Nor does a server leave one in what is put down for another.
-/

namespace LookupBench.Benchmark

/-- Two ways for the sessions to finish that come to the same in every run come to the same. -/
theorem Setup.result_runs_congr (setup : Setup)
    {conduct : Nat → Case → List (String × SessionOutcome)}
    (h : ∀ run case t,
      (enterAll (setup.conduct run case) t).2 = (enterAll (conduct run case) t).2) :
    ∀ left run p,
      (setup.runs left run p).result = ({ setup with conduct }.runs left run p).result := by
  intro left
  induction left with
  | zero => intro run p; rfl
  | succ left ih =>
      intro run p
      simp only [runs]
      cases hpick : p.picker.pick setup.files with
      | mk outcome picker =>
          cases outcome with
          | error cause => rfl
          | ok case =>
              cases hrecord : CaseRecord.new run case with
              | error cause => simp only [hrecord]
              | ok record => simp only [hrecord, tally, h, ih]

/-- Sessions that finish in another order in each run come to the same report, or to its failure. -/
theorem result_run_of_perm {c : Circumstances} (honce : c.EachOnce) (config : Config)
    {conduct : Path → List Contender → Nat → Case → List (String × SessionOutcome)}
    (hperm : ∀ root contenders run case,
      (c.conduct root contenders run case).Perm (conduct root contenders run case)) :
    (run c config).result = (run { c with conduct } config).result := by
  rw [result_run, result_run]
  cases hprepare : prepare c.files (config.seed.getD c.seed) config with
  | error failure => rfl
  | ok ready =>
      obtain ⟨root, picker⟩ := ready
      have hnames := Config.nodup_serverNames (check_of_prepare hprepare)
      have hruns : ((c.setup config root).runs config.runs 0 (.opening config picker)).result
          = ((Circumstances.setup { c with conduct } config root).runs config.runs 0
              (.opening config picker)).result := by
        refine Setup.result_runs_congr _ (fun run case t => ?_) config.runs 0 _
        exact enterAll_perm (honce.nodup hnames root run case) (hperm root _ run case) t
      simp only [bind, Except.bind]
      rw [hruns]

/-- The order in which sessions finish leaves no trace, and no server leaves one in the entries of
another. -/
structure OrderFree : Prop where
  /-- In a run, taking the outcomes in another order comes to the same tally. -/
  order : ∀ (t : Tally) (entries entries' : List (String × SessionOutcome)),
    (entries.map Prod.fst).Nodup → entries.Perm entries' →
      (enterAll entries t).2 = (enterAll entries' t).2
  /-- What stands for a server after a run follows from what stood for it and from its own outcome,
  if it has one. All else may be different: the entries of other servers before, their outcomes,
  which of them take part, and the order of all. -/
  isolation : ∀ (name : String) (t t' : Tally) (entries entries' : List (String × SessionOutcome)),
    (entries.map Prod.fst).Nodup → (entries'.map Prod.fst).Nodup →
      t.record.picked = t'.record.picked → t.entry name = t'.entry name →
        entryOf? name entries = entryOf? name entries' →
          (enterAll entries t).2.entry name = (enterAll entries' t').2.entry name
  /-- In a benchmark, with another order in each run, the report is the same, or its failure. -/
  report : ∀ (config : Config) (c : Circumstances)
    (conduct : Path → List Contender → Nat → Case → List (String × SessionOutcome)),
    c.EachOnce →
      (∀ root contenders run case,
        (c.conduct root contenders run case).Perm (conduct root contenders run case)) →
        (Benchmark.run c config).result = (Benchmark.run { c with conduct } config).result

theorem orderFree : OrderFree := by
  constructor
  · intro t entries entries' hnodup hperm
    exact enterAll_perm hnodup hperm t
  · intro name t t' entries entries' hnodup hnodup' hpicked hentry houtcome
    rw [entry_enterAll name entries t hnodup, entry_enterAll name entries' t' hnodup', hpicked,
      hentry, houtcome]
  · exact fun config c conduct honce hperm => result_run_of_perm honce config hperm

theorem orderFree_small : (Benchmark.run small smallConfig).result
    = (Benchmark.run
        { small with
          conduct := fun root contenders run case =>
            (small.conduct root contenders run case).reverse } smallConfig).result :=
  orderFree.report smallConfig small _ eachOnce_small fun _ _ _ _ => (List.reverse_perm _).symm

end LookupBench.Benchmark
