import LookupBench.Proofs.Sampling.Case
import LookupBench.Proofs.Sampling.Discovery
import LookupBench.Sampling.Picker

/-!
# What is picked

Files that agree on the sources under a root give the same cases, draw for draw, and leave the
generator at the same word: a file is read, and its URI is written, by what its path leads to, and
no other file is looked at.
-/

namespace LookupBench

variable {files files' : Files}

theorem Case.ofOccurrence_congr {file : Path} (h : files.status file = files'.status file)
    (text : List Char) (o : Occurrence) :
    ofOccurrence files file text o = ofOccurrence files' file text o := by
  have hcanonical : files.canonical file = files'.canonical file := by
    rw [Files.canonical, h, Files.canonical]
  rw [ofOccurrence, Uri.ofPath, hcanonical]
  rfl

theorem Case.fromFile_congr {file : Path} (h : files.status file = files'.status file)
    (g : Random.Generator) : fromFile files file g = fromFile files' file g := by
  have hread : files.read file = files'.read file := by rw [Files.read, h, Files.read]
  simp only [fromFile, hread, ofOccurrence_congr h]

namespace Picker

theorem pickFrom_congr {sources : List Path}
    (h : ∀ q ∈ sources, files.status q = files'.status q) (limit tries : Nat)
    (last : Option SamplingFailure) (g : Random.Generator) :
    pickFrom files sources limit tries last g = pickFrom files' sources limit tries last g := by
  induction tries generalizing last g with
  | zero => rfl
  | succ tries ih =>
      rw [pickFrom, pickFrom]
      split
      next => rfl
      next file g' hchoose =>
        rw [Case.fromFile_congr (h file (Random.Generator.mem_of_choose hchoose))]
        split
        next => rfl
        next => exact ih _ _

theorem pick_congr {p : Picker} (h : ∀ q ∈ p.sources, files.status q = files'.status q) :
    p.pick files = p.pick files' := by
  rw [pick, pickFrom_congr h, pick]

theorem new_congr {root : Path} (h : files.sources root = files'.sources root) (seed : UInt64) :
    new files root seed = new files' root seed := by
  rw [new, h, new]

/-- A picker draws from the sources under its root. -/
theorem sources_of_new {root : Path} {seed : UInt64} {p : Picker}
    (h : new files root seed = .ok p) : p.sources = files.sources root := by
  unfold new at h
  dsimp only at h
  split at h
  · cases h
  · cases h
    rfl

theorem sources_pick (p : Picker) (files : Files) : (p.pick files).2.sources = p.sources := rfl

end Picker

end LookupBench
