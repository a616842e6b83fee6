import LookupBench.Proofs.Sampling.Picker
import LookupBench.Proofs.Source.Word

/-!
# Which file is picked

A picker goes through the files that it draws one behind the other until one has an occurrence. A
file without one takes nothing from the generator, so which files are drawn depends only on the
generator and the list of sources.
-/

namespace LookupBench

/-! ### Choices -/

namespace Random.Generator

theorem indexWithin_lt {n : Nat} (h : 0 < n) (tries : Nat) (g : Generator) :
    (indexWithin n tries g).1 < n := by
  induction tries generalizing g with
  | zero => exact h
  | succ tries ih =>
      rw [indexWithin]
      dsimp only
      split
      · have hword : g.next.1.toNat < 2 ^ 32 := UInt32.toNat_lt _
        apply Nat.div_lt_of_lt_mul
        exact Nat.mul_lt_mul_of_pos_right hword h
      · exact ih _

/-- There is always a choice among some. -/
theorem exists_choose {α : Type} {items : List α} (h : items ≠ []) (g : Generator) :
    ∃ a g', g.choose items = (some a, g') := by
  cases items with
  | nil => exact absurd rfl h
  | cons first rest =>
      have hlt := indexWithin_lt (Nat.succ_pos rest.length) tries g
      exact ⟨_, _, Prod.ext (List.getElem?_eq_getElem hlt) rfl⟩

end Random.Generator

/-! ### Occurrences -/

namespace Source

/-- Excluded names give no occurrences, neither in trees nor in lines. -/
theorem isExcluded_of_mem_occurrences {text : List Char} {o : Occurrence}
    (h : o ∈ occurrences text) : isExcluded o.token = false := by
  unfold occurrences at h
  split at h
  next first rest hsyntax =>
    obtain ⟨t, -, htree⟩ := Option.map_eq_some_iff.1 hsyntax
    rw [← htree] at h
    obtain ⟨s, -, hfound⟩ := List.mem_filterMap.1 h
    obtain ⟨n, kind, -, hkept, rfl⟩ := occurrenceOf_eq_some_iff.1 hfound
    exact hkept
  next =>
    obtain ⟨i, line, -, hline⟩ := mem_wordOccurrencesFrom_iff.1 h
    obtain ⟨lead, word, hword, rfl⟩ := mem_lineWords_iff.1 hline
    exact hword.worthwhile

end Source

/-- The occurrences in a file; none if it cannot be read. -/
def Files.occurrencesIn (files : Files) (file : Path) : List Occurrence :=
  match files.read file with
  | .error _ => []
  | .ok content => Source.occurrences (Utf8.decodeLossy content)

/-- Why a file yields no case. -/
def Files.refusal (files : Files) (file : Path) : SamplingFailure :=
  match files.read file with
  | .error cause => .unreadable file cause
  | .ok _ => .noOccurrences file

namespace Case

/-- A case is about an occurrence in a file that is worth looking up, of an imported name if the
file has any. -/
structure IsDrawn (files : Files) (file : Path) (case : Case) : Prop where
  file_eq : case.file = file
  exists_mem : ∃ o ∈ files.occurrencesIn file,
    case.position = ⟨(o.line : Int) - 1, o.column⟩ ∧ case.token = o.token ∧ case.kind = o.kind
  token : case.token ∉ excludedNames
  imported : (∃ o ∈ files.occurrencesIn file, o.kind.isImported = true) →
    case.kind.isImported = true

theorem preferred_ne_nil {found : List Occurrence} (h : found ≠ []) : preferred found ≠ [] := by
  unfold preferred
  dsimp only
  split
  · exact h
  next himported => simpa using himported

theorem isImported_of_mem_preferred {found : List Occurrence} {o : Occurrence}
    (h : o ∈ preferred found) (hany : ∃ p ∈ found, p.kind.isImported = true) :
    o.kind.isImported = true := by
  obtain ⟨p, hp, himported⟩ := hany
  have hmem : p ∈ found.filter (·.kind.isImported) := List.mem_filter.2 ⟨hp, himported⟩
  unfold preferred at h
  dsimp only at h
  split at h
  next hnone =>
    rw [List.isEmpty_iff.1 hnone] at hmem
    simp at hmem
  next => exact (List.mem_filter.1 h).2

/-- A file without occurrences is refused, and nothing is drawn for it. -/
theorem fromFile_of_nil {files : Files} {file : Path} (h : files.occurrencesIn file = [])
    (g : Random.Generator) : fromFile files file g = (.error (files.refusal file), g) := by
  cases hread : files.read file with
  | error cause => simp only [fromFile, Files.refusal, hread]
  | ok content =>
      simp only [Files.occurrencesIn, hread] at h
      simp only [fromFile, Files.refusal, hread, candidates_eq, h]
      rfl

/-- A file with occurrences yields a case. -/
theorem exists_fromFile_of_ne_nil {files : Files} {file : Path}
    (h : files.occurrencesIn file ≠ []) (g : Random.Generator) :
    ∃ case g', fromFile files file g = (.ok case, g') ∧ case.IsDrawn files file := by
  cases hread : files.read file with
  | error cause => simp [Files.occurrencesIn, hread] at h
  | ok content =>
      have hin : files.occurrencesIn file = candidates (Utf8.decodeLossy content) := by
        simp only [Files.occurrencesIn, hread, candidates_eq]
      rw [hin] at h
      obtain ⟨o, g', hchoose⟩ := Random.Generator.exists_choose (preferred_ne_nil h) g
      have hmem := Random.Generator.mem_of_choose hchoose
      have hfound := mem_of_mem_preferred hmem
      refine ⟨ofOccurrence files file (Utf8.decodeLossy content) o, g', ?_, rfl, ?_, ?_, ?_⟩
      · simp only [fromFile, hread, hchoose]
      · exact ⟨o, hin ▸ hfound, rfl, rfl, rfl⟩
      · rw [candidates_eq] at hfound
        have hkept := Source.isExcluded_of_mem_occurrences hfound
        rw [isExcluded, List.contains_eq_mem, decide_eq_false_iff_not] at hkept
        exact hkept
      · rw [hin]
        exact isImported_of_mem_preferred hmem

end Case

namespace Picker

/-- The first files that are drawn, each with the generator that its draw leaves behind. -/
def draws (sources : List Path) : Nat → Random.Generator → List (Path × Random.Generator)
  | 0, _ => []
  | n + 1, g =>
    match g.choose sources with
    | (none, _) => []
    | (some file, g) => (file, g) :: draws sources n g

theorem length_draws {sources : List Path} (h : sources ≠ []) (n : Nat) (g : Random.Generator) :
    (draws sources n g).length = n := by
  induction n generalizing g with
  | zero => rfl
  | succ n ih =>
      obtain ⟨file, g', hchoose⟩ := Random.Generator.exists_choose h g
      rw [draws, hchoose, List.length_cons, ih]

theorem mem_of_mem_draws {sources : List Path} {n : Nat} {g : Random.Generator}
    {d : Path × Random.Generator} (h : d ∈ draws sources n g) : d.1 ∈ sources := by
  induction n generalizing g with
  | zero => simp [draws] at h
  | succ n ih =>
      rw [draws] at h
      split at h
      · simp at h
      next file g' hchoose =>
        rcases List.mem_cons.1 h with rfl | h
        · exact Random.Generator.mem_of_choose hchoose
        · exact ih h

variable {files : Files} {sources : List Path}

/-- Files without occurrences are passed over; the first that has one yields the case. -/
theorem pickFrom_of_first {limit tries : Nat} {last : Option SamplingFailure}
    {g g' : Random.Generator} {skipped rest : List (Path × Random.Generator)} {file : Path}
    (h : draws sources tries g = skipped ++ (file, g') :: rest)
    (hskipped : ∀ d ∈ skipped, files.occurrencesIn d.1 = [])
    (hfile : files.occurrencesIn file ≠ []) :
    pickFrom files sources limit tries last g = Case.fromFile files file g' := by
  induction tries generalizing skipped last g with
  | zero => simp [draws] at h
  | succ tries ih =>
      rcases hchoose : g.choose sources with ⟨drawn?, g₁⟩
      rw [draws, hchoose] at h
      rw [pickFrom, hchoose]
      cases drawn? with
      | none => simp at h
      | some drawn =>
          dsimp only at h ⊢
          cases skipped with
          | nil =>
              obtain ⟨hhere, -⟩ := List.cons.inj h
              obtain ⟨rfl, rfl⟩ := Prod.mk.inj hhere
              obtain ⟨case, g₂, hcase, -⟩ := Case.exists_fromFile_of_ne_nil hfile g₁
              rw [hcase]
          | cons d skipped =>
              obtain ⟨rfl, hlater⟩ := List.cons.inj h
              rw [Case.fromFile_of_nil (hskipped _ List.mem_cons_self)]
              exact ih hlater fun d hd => hskipped d (List.mem_cons_of_mem _ hd)

/-- The failure of the last file that was drawn. -/
def lastRefusal (files : Files) (drawn : List (Path × Random.Generator)) :
    Option SamplingFailure :=
  drawn.getLast?.map fun d => files.refusal d.1

/-- What draws leave of a generator. -/
def leftBy (drawn : List (Path × Random.Generator)) (g : Random.Generator) : Random.Generator :=
  (drawn.getLast?.map (·.2)).getD g

theorem lastRefusal_cons (files : Files) (d : Path × Random.Generator)
    (rest : List (Path × Random.Generator)) :
    lastRefusal files (d :: rest) = (lastRefusal files rest).or (some (files.refusal d.1)) := by
  rw [lastRefusal, lastRefusal, List.getLast?_cons]
  cases rest.getLast? <;> rfl

theorem leftBy_cons (d : Path × Random.Generator) (rest : List (Path × Random.Generator))
    (g : Random.Generator) : leftBy (d :: rest) g = leftBy rest d.2 := by
  rw [leftBy, leftBy, List.getLast?_cons]
  cases rest.getLast? <;> rfl

/-- If no file has an occurrence, the last failure is kept. -/
theorem pickFrom_of_none {limit tries : Nat} {last : Option SamplingFailure}
    {g : Random.Generator} (h : ∀ d ∈ draws sources tries g, files.occurrencesIn d.1 = []) :
    pickFrom files sources limit tries last g =
      (.error (.exhausted limit
        ((((lastRefusal files (draws sources tries g)).or last).map (·.message)).getD "")),
        leftBy (draws sources tries g) g) := by
  induction tries generalizing last g with
  | zero => rfl
  | succ tries ih =>
      by_cases hsources : sources = []
      · subst hsources
        rfl
      · obtain ⟨file, g', hchoose⟩ := Random.Generator.exists_choose hsources g
        rw [draws, hchoose] at h ⊢
        rw [pickFrom, hchoose]
        dsimp only at h ⊢
        rw [Case.fromFile_of_nil (h _ List.mem_cons_self), lastRefusal_cons, leftBy_cons]
        dsimp only
        rw [ih fun d hd => h d (List.mem_cons_of_mem _ hd), Option.or_assoc]
        rfl

/-- The case of a pick comes from the first file, among as many draws as there are tries, that has
an occurrence. If there is none, the pick is given up with the failure of the last file. A file
without occurrences takes nothing from the generator. -/
theorem pick_first (p : Picker) (files : Files) :
    (p.sources ≠ [] → (draws p.sources p.maxTries p.generator).length = p.maxTries) ∧
    (∀ skipped file g rest,
      draws p.sources p.maxTries p.generator = skipped ++ (file, g) :: rest →
      (∀ d ∈ skipped, files.occurrencesIn d.1 = []) → files.occurrencesIn file ≠ [] →
      ∃ case g', Case.fromFile files file g = (.ok case, g') ∧
        p.pick files = (.ok case, { p with generator := g' }) ∧
        file ∈ p.sources ∧ case.IsDrawn files file) ∧
    ((∀ d ∈ draws p.sources p.maxTries p.generator, files.occurrencesIn d.1 = []) →
      p.pick files = (.error (.exhausted p.maxTries
          (((lastRefusal files (draws p.sources p.maxTries p.generator)).map (·.message)).getD "")),
        { p with generator := leftBy (draws p.sources p.maxTries p.generator) p.generator })) ∧
    ∀ file g, files.occurrencesIn file = [] →
      Case.fromFile files file g = (.error (files.refusal file), g) := by
  refine ⟨fun h => length_draws h _ _, fun skipped file g rest h hskipped hfile => ?_,
    fun h => ?_, fun file g h => Case.fromFile_of_nil h g⟩
  · obtain ⟨case, g', hcase, hdrawn⟩ := Case.exists_fromFile_of_ne_nil hfile g
    have hmem : (file, g) ∈ draws p.sources p.maxTries p.generator := by simp [h]
    refine ⟨case, g', hcase, ?_, mem_of_mem_draws hmem, hdrawn⟩
    rw [pick, pickFrom_of_first h hskipped hfile, hcase]
  · rw [pick, pickFrom_of_none h, Option.or_none]

def emptyFile : Path := Path.ofString "/a.py"

def fullFile : Path := Path.ofString "/b.py"

/-- An empty file and one that imports what it uses. -/
def pairedFiles : Files where
  root := .directory
    [(Path.ofString "a.py", .file [] false),
      (Path.ofString "b.py", .file (Utf8.encodeChars "import json\njson.dumps(self)\n".toList) false)]
  current := []

def pairedPicker (tries : Nat) : Picker := ⟨[emptyFile, fullFile], .ofSeed 6, tries⟩

def pairedDraws (tries : Nat) : List (Path × Random.Generator) :=
  draws [emptyFile, fullFile] tries (.ofSeed 6)

/-- The other file is drawn at the second try; with one try the pick is given up. -/
theorem pick_first_paired :
    (∃ skipped g case g', pairedDraws 2 = skipped ++ [(fullFile, g)] ∧
      skipped.map (·.1) = [emptyFile] ∧
      (pairedPicker 2).pick pairedFiles = (.ok case, { pairedPicker 2 with generator := g' }) ∧
      case.IsDrawn pairedFiles fullFile) ∧
    ((pairedPicker 1).pick pairedFiles).1 =
      .error (.exhausted 1 "no identifier tokens found in /a.py") := by
  have hnone : pairedFiles.occurrencesIn emptyFile = [] := by decide +kernel
  have hsome : pairedFiles.occurrencesIn fullFile ≠ [] := by decide +kernel
  constructor
  · have hdrawn : (pairedDraws 2).map (·.1) = [emptyFile] ++ [fullFile] := by decide +kernel
    obtain ⟨skipped, rest, hdraws, hskipped, hrest⟩ := List.map_eq_append_iff.1 hdrawn
    obtain ⟨⟨file, g⟩, rfl, rfl⟩ := List.map_eq_singleton_iff.1 hrest
    have hempty : ∀ file ∈ skipped.map (·.1), pairedFiles.occurrencesIn file = [] := by
      simp [hskipped, hnone]
    obtain ⟨case, g', -, hpick, -, hcase⟩ := (pick_first (pairedPicker 2) pairedFiles).2.1
      skipped fullFile g [] hdraws (fun d hd => hempty d.1 (List.mem_map_of_mem hd)) hsome
    exact ⟨skipped, g, case, g', hdraws, hskipped, hpick, hcase⟩
  · have hdrawn : (pairedDraws 1).map (·.1) = [emptyFile] := by decide +kernel
    have hempty : ∀ file ∈ (pairedDraws 1).map (·.1), pairedFiles.occurrencesIn file = [] := by
      simp [hdrawn, hnone]
    have hlast : (lastRefusal pairedFiles (pairedDraws 1)).map (·.message) =
        some "no identifier tokens found in /a.py" := by
      decide +kernel
    have hpick := (pick_first (pairedPicker 1) pairedFiles).2.2.1
      fun d hd => hempty d.1 (List.mem_map_of_mem hd)
    rw [hpick]
    change Except.error (SamplingFailure.exhausted 1
      (((lastRefusal pairedFiles (pairedDraws 1)).map (·.message)).getD "")) = _
    rw [hlast]
    rfl

end Picker

end LookupBench
