import LookupBench.Proofs.Source.Occurrence
import LookupBench.Sampling.Case

/-!
# Where cases point

Whatever a file holds and whichever occurrence is drawn, the position of a case is one that a server
finds in the text it is shown: the line is there, and the token begins at that column of it.
-/

namespace LookupBench

theorem Random.Generator.mem_of_choose {α : Type} {items : List α} {g g' : Random.Generator} {a : α}
    (h : g.choose items = (some a, g')) : a ∈ items := by
  unfold choose at h
  split at h
  · cases h
  · exact List.mem_of_getElem? (congrArg Prod.fst h)

/-- The token of a case stands in a text at the position of the case. -/
structure Case.StandsIn (case : Case) (text : String) : Prop where
  line_nonneg : 0 ≤ case.position.line
  line_lt : case.position.line < (linesOf text.toList).length
  lineText : (linesOf text.toList)[case.position.line.toNat]? = some case.lineText.toList
  character_nonneg : 0 ≤ case.position.character
  token_ne : case.token ≠ ""
  token : utf16 case.token.toList
    <+: (utf16 case.lineText.toList).drop case.position.character.toNat

namespace Case

theorem hasLine_of_standsIn {text : List Char} {o : Occurrence} (h : o.StandsIn text) :
    hasLine text o = true := by
  simp [hasLine, h.line_pos, h.line_le]

/-- No occurrence is on a line that is not there. -/
theorem candidates_eq (text : List Char) : candidates text = Source.occurrences text :=
  List.filter_eq_self.2 fun _ hmem => hasLine_of_standsIn (Source.standsIn_of_mem_occurrences hmem)

theorem mem_of_mem_preferred {found : List Occurrence} {o : Occurrence} (h : o ∈ preferred found) :
    o ∈ found := by
  unfold preferred at h
  dsimp only at h
  split at h
  · exact h
  · exact List.mem_of_mem_filter h

theorem ofOccurrence_standsIn (files : Files) (file : Path) {text : List Char} {o : Occurrence}
    (h : o.StandsIn text) : (ofOccurrence files file text o).StandsIn (String.ofList text) := by
  obtain ⟨line, hline, hunits⟩ := h.found
  have hpos := h.line_pos
  have hle := h.line_le
  have hrow : ((o.line : Int) - 1).toNat = o.line - 1 := by omega
  refine ⟨?_, ?_, ?_, Int.natCast_nonneg _, h.token_ne, ?_⟩
  · dsimp only [ofOccurrence]
    omega
  · rw [String.toList_ofList]
    dsimp only [ofOccurrence]
    omega
  · simp only [ofOccurrence, String.toList_ofList, hrow, hline, Option.getD_some]
  · simpa only [ofOccurrence, hline, Option.getD_some, String.toList_ofList, Int.toNat_natCast]
      using hunits

theorem ofOccurrence_preferred (files : Files) (file : Path) {text : List Char} {o : Occurrence}
    (h : o ∈ preferred (candidates text)) :
    (ofOccurrence files file text o).StandsIn (String.ofList text) := by
  have hmem := mem_of_mem_preferred h
  rw [candidates_eq] at hmem
  exact ofOccurrence_standsIn files file (Source.standsIn_of_mem_occurrences hmem)

/-- What a draw takes from a file is one of its occurrences. -/
theorem exists_of_fromFile {files : Files} {file : Path} {g : Random.Generator} {case : Case}
    (h : (fromFile files file g).1 = .ok case) :
    ∃ content, files.read file = .ok content ∧
      ∃ o ∈ preferred (candidates (Utf8.decodeLossy content)),
        case = ofOccurrence files file (Utf8.decodeLossy content) o := by
  unfold fromFile at h
  split at h
  · cases h
  next content hread =>
    dsimp only at h
    split at h
    · cases h
    next o g' hchoose =>
      exact ⟨content, hread, o, Random.Generator.mem_of_choose hchoose, (Except.ok.inj h).symm⟩

/-- A case that was drawn from a file points at its token, in the text that a session sends when the
file still holds what it held. So does one made of any other occurrence that could have been drawn,
by whatever generator, or of any that another tree of the text would give. And none is lost because
its line is not there, whether a tree or the words of the lines gave it. -/
theorem position_sound (files : Files) (file : Path) :
    (∀ (g : Random.Generator) (case : Case), (fromFile files file g).1 = .ok case →
      case.file = file ∧ ∃ content, files.read file = .ok content ∧
        case.StandsIn (Utf8.decodeStringLossy content)) ∧
    ∀ text : List Char,
      (∀ o ∈ preferred (candidates text),
        (ofOccurrence files file text o).StandsIn (String.ofList text)) ∧
      candidates text = Source.occurrences text ∧
      (∀ (t : Source.Tree text), (Source.treeOccurrences t).filter (hasLine text)
          = Source.treeOccurrences t ∧
        ∀ o ∈ Source.treeOccurrences t,
          (ofOccurrence files file text o).StandsIn (String.ofList text)) ∧
      (Source.wordOccurrences text).filter (hasLine text) = Source.wordOccurrences text := by
  refine ⟨fun g case h => ?_, fun text => ⟨?_, candidates_eq text, fun t => ⟨?_, ?_⟩, ?_⟩⟩
  · obtain ⟨content, hread, o, hmem, rfl⟩ := exists_of_fromFile h
    exact ⟨rfl, content, hread, ofOccurrence_preferred files file hmem⟩
  · exact fun o hmem => ofOccurrence_preferred files file hmem
  · exact List.filter_eq_self.2 fun o hmem =>
      hasLine_of_standsIn (Source.standsIn_of_mem_treeOccurrences hmem)
  · exact fun o hmem =>
      ofOccurrence_standsIn files file (Source.standsIn_of_mem_treeOccurrences hmem)
  · exact List.filter_eq_self.2 fun o hmem =>
      hasLine_of_standsIn (Source.standsIn_of_mem_wordOccurrences hmem)

/-- A file with a character outside the basic plane and a carriage return before its line feed. -/
def astralFiles : Files where
  root := .directory
    [(Path.ofString "m.py", .file (Utf8.encodeChars ['\'', '😀', '\'', ';', 'x', '\r', '\n']) false)]
  current := []

def astralCase : Case where
  file := Path.ofString "/m.py"
  uri := "file:///m.py"
  position := ⟨0, 5⟩
  token := "x"
  lineText := "'😀';x"
  kind := .name

theorem fromFile_astralFiles :
    (fromFile astralFiles (Path.ofString "/m.py") (.ofSeed 3)).1 = .ok astralCase := by
  decide +kernel

theorem position_sound_astralFiles :
    (fromFile astralFiles (Path.ofString "/m.py") (.ofSeed 3)).1 = .ok astralCase ∧
      ∃ content, astralFiles.read (Path.ofString "/m.py") = .ok content ∧
        astralCase.StandsIn (Utf8.decodeStringLossy content) :=
  ⟨fromFile_astralFiles,
    ((position_sound astralFiles (Path.ofString "/m.py")).1 _ _ fromFile_astralFiles).2⟩

end Case

end LookupBench
