import LookupBench.Proofs.Files.Direct
import LookupBench.Sampling.Discovery

/-!
# Where sources are found

A source is a file below the root, under the path that the names on the way to it make. Which
sources there are, and what each of them holds, follow from the tree at the root; whatever else the
files hold has no part in it.
-/

namespace LookupBench

open LookupBench.Path Node

theorem mem_inNameOrder {found : List (Bytes × List Path)} {q : Path} :
    q ∈ inNameOrder found ↔ ∃ e ∈ found, q ∈ e.2 := by
  simp [inNameOrder, List.mem_flatMap, List.mem_mergeSort]

variable {readable : Path → Bool}

theorem exists_of_mem_entrySources {p : Path} {entries : List (Bytes × Node)}
    {e : Bytes × List Path} (h : e ∈ entrySources readable p entries) :
    ∃ node, (e.1, node) ∈ entries ∧ ∀ q ∈ e.2, q ∈ sourcesAt readable (p.join e.1) node := by
  induction entries with
  | nil => simp [entrySources] at h
  | cons entry rest ih =>
      obtain ⟨name, node⟩ := entry
      rw [entrySources] at h
      rcases List.mem_cons.1 h with rfl | hrest
      · refine ⟨node, List.mem_cons_self, fun q hq => ?_⟩
        dsimp only at hq
        split at hq
        · cases hq
        · exact hq
      · obtain ⟨node', hmem, hall⟩ := ih hrest
        exact ⟨node', List.mem_cons_of_mem _ hmem, hall⟩

/-- A source below a tidy node is a file that names lead to from there. -/
theorem exists_of_mem_sourcesAt {node : Node} (h : node.Tidy) {names : List Bytes}
    (hnames : ∀ n ∈ names, IsName n) {q : Path} (hq : q ∈ sourcesAt readable (ofNames names) node) :
    ∃ below content executable, q = ofNames (names ++ below) ∧
      node.child? below = some (.file content executable) := by
  induction h generalizing names with
  | file content executable =>
      rw [sourcesAt] at hq
      split at hq
      · obtain rfl := List.mem_singleton.1 hq
        exact ⟨[], content, executable, by rw [List.append_nil], rfl⟩
      · cases hq
  | link target =>
      rw [sourcesAt] at hq
      cases hq
  | @directory entries hnodup hvalid hentries ih =>
      rw [sourcesAt] at hq
      split at hq
      case isFalse => cases hq
      rw [mem_inNameOrder] at hq
      obtain ⟨e, he, hqe⟩ := hq
      obtain ⟨node, hmem, hall⟩ := exists_of_mem_entrySources he
      have hname : IsName e.1 := hvalid _ hmem
      -- joining a name to a path of names gives a path of names, so the entry is in the same case
      have hq := hall q hqe
      rw [join_ofNames hnames hname] at hq
      have hlonger : ∀ n ∈ names ++ [e.1], IsName n := by
        simpa [or_imp, forall_and] using ⟨hnames, hname⟩
      obtain ⟨below, content, executable, rfl, hchild⟩ := ih _ hmem hlonger hq
      refine ⟨e.1 :: below, content, executable, by simp, ?_⟩
      exact child?_cons_eq_some_iff.2 ⟨entries, node, rfl, find?_of_mem hnodup hmem, hchild⟩

namespace Files

/-- The same tree stands at two paths, each in files of its own: the files are all the same, or at
least the paths lead to places of the same name that hold the same. -/
inductive SameTree : Files → Path → Files → Path → Prop where
  | refl (files : Files) (p : Path) : SameTree files p files p
  | tidy {files files' : Files} {p p' : Path} (htidy : files.root.Tidy) (htidy' : files'.root.Tidy)
      (hstatus : files.status p = files'.status p') : SameTree files p files' p'

/-- The sources under a root are the same, and so is what each of them leads to. -/
structure Agree (files files' : Files) (root : Path) : Prop where
  sources : files.sources root = files'.sources root
  status : ∀ q ∈ files.sources root, files.status q = files'.status q

variable {files files' : Files} {p p' : Path}

theorem SameTree.status (h : SameTree files p files' p') : files.status p = files'.status p' := by
  cases h with
  | refl => rfl
  | tidy htidy htidy' hstatus => exact hstatus

theorem Holds.sources {names : List Bytes} {entries : List (Bytes × Node)}
    (h : files.Holds names (.directory entries)) :
    files.sources (ofNames names) = match direct names (.directory entries) with
      | .error _ => []
      | .ok _ => sourcesAt isReadable (ofNames names) (.directory entries) := by
  rw [Files.sources, sourcesWhere, h.entry]
  cases direct names (.directory entries) <;> rfl

theorem SameTree.agree (h : SameTree files p files' p') {names : List Bytes}
    {entries : List (Bytes × Node)} (hroot : files.status p = .ok (names, .directory entries)) :
    Agree files files' (ofNames names) := by
  cases h with
  | refl => exact ⟨rfl, fun q _ => rfl⟩
  | tidy htidy htidy' hstatus =>
      have hholds := holds_of_status htidy hroot
      have hholds' := holds_of_status htidy' (hstatus ▸ hroot)
      refine ⟨hholds.sources.trans hholds'.sources.symm, fun q hq => ?_⟩
      have hnode := (htidy.child? hholds.child).2
      rw [hholds.sources] at hq
      split at hq
      · cases hq
      · obtain ⟨below, content, executable, rfl, hchild⟩ :=
          exists_of_mem_sourcesAt hnode hholds.valid hq
        rw [(hholds.below hnode hchild rfl).status, (hholds'.below hnode hchild rfl).status]

end Files

end LookupBench
