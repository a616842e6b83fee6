import LookupBench.Proofs.Files.Tree

/-!
# Direct paths

A path that names every directory on the way from the root, and nothing else, leads through no link.
So where it leads, and whether the system takes it at all, follow from the names and from what is
there; the rest of the tree has no part in it.
-/

namespace LookupBench

/-! ### Names -/

/-- What an entry of a directory can be called. -/
structure Path.IsName (name : Bytes) : Prop where
  ne_nil : name ≠ []
  ne_dot : name ≠ [Path.dot]
  ne_dots : name ≠ [Path.dot, Path.dot]
  noSlash : Path.slash ∉ name

namespace Path

theorem IsName.relative {name : Bytes} (h : IsName name) : isAbsolute name = false := by
  rw [isAbsolute, decide_eq_false_iff_not]
  exact fun hslash => h.noSlash (List.mem_of_head? hslash)

theorem IsName.getLast?_ne {name : Bytes} (h : IsName name) : name.getLast? ≠ some slash :=
  fun hslash => h.noSlash (List.mem_of_getLast? hslash)

theorem pieces_of_noSlash {name : Bytes} (h : slash ∉ name) : pieces name = [name] := by
  induction name with
  | nil => rfl
  | cons b rest ih =>
      obtain ⟨hb, hrest⟩ : slash ≠ b ∧ slash ∉ rest := by simpa using h
      simp [pieces, ih hrest, Ne.symm hb]

theorem pieces_append_slash {name : Bytes} (h : slash ∉ name) (rest : Bytes) :
    pieces (name ++ slash :: rest) = name :: pieces rest := by
  induction name with
  | nil => simp [pieces]
  | cons b more ih =>
      obtain ⟨hb, hmore⟩ : slash ≠ b ∧ slash ∉ more := by simpa using h
      simp [pieces, ih hmore, Ne.symm hb]

theorem pieces_names {names : List Bytes} {name : Bytes} (hname : slash ∉ name)
    (hnames : ∀ n ∈ names, slash ∉ n) :
    pieces (name ++ names.flatMap (slash :: ·)) = name :: names := by
  induction names generalizing name with
  | nil => simpa using pieces_of_noSlash hname
  | cons n names ih =>
      obtain ⟨hn, hnames⟩ := List.forall_mem_cons.1 hnames
      rw [List.flatMap_cons, List.cons_append, pieces_append_slash hname, ih hn hnames]

/-- The pieces of an absolute path of names: an empty one in front, and one behind if there is no
name. -/
theorem pieces_ofNames {names : List Bytes} (h : ∀ n ∈ names, slash ∉ n) :
    pieces (ofNames names) = [] :: if names.isEmpty then [[]] else names := by
  cases names with
  | nil => rfl
  | cons name names =>
      obtain ⟨hname, hnames⟩ := List.forall_mem_cons.1 h
      have hpath : ofNames (name :: names) = slash :: (name ++ names.flatMap (slash :: ·)) := rfl
      rw [hpath, pieces, if_pos rfl, pieces_names hname hnames]
      rfl

theorem components_ofNames {names : List Bytes} (h : ∀ n ∈ names, IsName n) :
    components (ofNames names) = names := by
  have hkept : (names.filter fun c => c ≠ [] && c ≠ [dot]) = names :=
    List.filter_eq_self.2 fun n hn => by simp [(h n hn).ne_nil, (h n hn).ne_dot]
  rw [components, pieces_ofNames fun n hn => (h n hn).noSlash]
  cases names with
  | nil => rfl
  | cons name names => exact hkept

theorem isAbsolute_ofNames (names : List Bytes) : isAbsolute (ofNames names) = true := by
  cases names <;> rfl

theorem ofNames_ne_nil (names : List Bytes) : ofNames names ≠ [] := by
  cases names <;> simp [ofNames]

theorem ofNames_concat (names : List Bytes) (name : Bytes) :
    ofNames (names ++ [name]) = names.flatMap (slash :: ·) ++ slash :: name := by
  simp [ofNames]

/-- A path of names does not end in a slash, unless it is the root. -/
theorem getLast?_ofNames {names : List Bytes} (h : ∀ n ∈ names, IsName n) (hne : names ≠ []) :
    (ofNames names).getLast? ≠ some slash := by
  obtain ⟨above, name, rfl⟩ := (List.eq_nil_or_concat names).resolve_left hne
  rw [List.concat_eq_append] at h ⊢
  have hname : IsName name := h name (by simp)
  rw [ofNames_concat, List.append_cons, List.getLast?_append_of_ne_nil _ hname.ne_nil]
  exact hname.getLast?_ne

theorem join_ofNames {names : List Bytes} {name : Bytes} (h : ∀ n ∈ names, IsName n)
    (hname : IsName name) : (ofNames names).join name = ofNames (names ++ [name]) := by
  cases names with
  | nil => simp [join, hname.relative, ofNames]
  | cons n names =>
      have hlast := getLast?_ofNames h (by simp)
      have hpath : ofNames (n :: names) = (n :: names).flatMap (slash :: ·) := rfl
      rw [join, if_neg (by simp [hname.relative, ofNames_ne_nil]), if_neg hlast, ofNames_concat, hpath]

end Path

/-! ### Trees as systems have them -/

namespace Node

open LookupBench.Path

/-- A tree whose directories hold each name once, and only names that entries can have. -/
inductive Tidy : Node → Prop where
  | file (content : Bytes) (executable : Bool) : Tidy (.file content executable)
  | link (target : Path) : Tidy (.link target)
  | directory {entries : List (Bytes × Node)} (hnodup : (entries.map Prod.fst).Nodup)
      (hnames : ∀ e ∈ entries, IsName e.1) (hentries : ∀ e ∈ entries, Tidy e.2) :
      Tidy (.directory entries)

variable {node inner : Node} {name : Bytes} {names : List Bytes}

theorem mem_of_find? {entries : List (Bytes × Node)} (h : find? name entries = some node) :
    (name, node) ∈ entries := by
  induction entries with
  | nil => cases h
  | cons e rest ih =>
      rw [find?] at h
      split at h
      next heq =>
        cases h
        exact heq ▸ List.mem_cons_self
      next => exact List.mem_cons_of_mem _ (ih h)

theorem find?_of_mem {entries : List (Bytes × Node)} (hnodup : (entries.map Prod.fst).Nodup)
    (h : (name, node) ∈ entries) : find? name entries = some node := by
  induction entries with
  | nil => cases h
  | cons e rest ih =>
      rw [List.map_cons, List.nodup_cons] at hnodup
      rcases List.mem_cons.1 h with rfl | hrest
      · simp [find?]
      · have hne : e.1 ≠ name := by
          rintro rfl
          exact hnodup.1 (List.mem_map.2 ⟨_, hrest, rfl⟩)
        rw [find?, if_neg hne, ih hnodup.2 hrest]

/-- What a tidy tree holds is tidy, and the names that lead to it are names. -/
theorem Tidy.child? (h : node.Tidy) (hchild : node.child? names = some inner) :
    (∀ n ∈ names, IsName n) ∧ inner.Tidy := by
  induction names generalizing node with
  | nil =>
      obtain rfl : node = inner := by simpa [Node.child?] using hchild
      exact ⟨List.forall_mem_nil _, h⟩
  | cons name names ih =>
      obtain ⟨entries, next, rfl, hfind, hnext⟩ := child?_cons_eq_some_iff.1 hchild
      cases h with
      | directory hnodup hnames hentries =>
          have hmem := mem_of_find? hfind
          obtain ⟨hvalid, hinner⟩ := ih (hentries _ hmem) hnext
          exact ⟨List.forall_mem_cons.2 ⟨hnames _ hmem, hvalid⟩, hinner⟩

/-- Anything that something lies below is a directory. -/
theorem target?_of_child? (h : node.child? names = some inner) (hinner : inner.target? = none) :
    node.target? = none := by
  cases names with
  | nil =>
      obtain rfl : node = inner := by simpa [Node.child?] using h
      exact hinner
  | cons name names =>
      obtain ⟨entries, -, rfl, -⟩ := child?_cons_eq_some_iff.1 h
      rfl

end Node

/-! ### Walking along names -/

namespace Files

open Node LookupBench.Path

/-- A file tree has something at the end of a list of names, and it is no link. -/
structure Holds (files : Files) (names : List Bytes) (node : Node) : Prop where
  root : files.root.isDirectory = true
  valid : ∀ n ∈ names, IsName n
  child : files.root.child? names = some node
  target : node.target? = none

/-- What a walk along names comes to: there is a limit to the length of a name, even of one that is
there. -/
def along (above names : List Bytes) (node : Node) : Except IoFailure Place :=
  if names.any (255 < ·.length) then .error .nameTooLong else .ok (.found (above ++ names) node)

/-- What looking up a path of names comes to. -/
def direct (names : List Bytes) (node : Node) : Except IoFailure Place :=
  if (ofNames names).contains 0 then .error .nulInName
  else if pathLimit ≤ (ofNames names).length then .error .nameTooLong
  else along [] names node

/-- A lookup of what is there. -/
def Lookup.Seeks (lookup : Lookup) : Prop := lookup = .entry ∨ lookup = .target

theorem Lookup.Seeks.refuses {lookup : Lookup} (h : lookup.Seeks) (rest : List Bytes) :
    lookup.refuses rest = false := by
  rcases h with rfl | rfl <;> rfl

theorem Lookup.Seeks.stopsAt {lookup : Lookup} (h : lookup.Seeks) {rest : List Bytes}
    (hstops : lookup.stopsAt rest = true) : rest = [] := by
  rcases h with rfl | rfl
  · exact List.isEmpty_iff.1 hstops
  · cases hstops

section Walk

variable {root node : Node} {lookup : Lookup}
  {follow : Path → List Bytes → List Bytes → Except IoFailure Place}

/-- Pieces that name nothing are passed in a directory. -/
theorem walkWith_nothing (hlookup : lookup.Seeks) {upward rest : List Bytes}
    {entries : List (Bytes × Node)}
    (hchild : root.child? upward.reverse = some (.directory entries)) :
    walkWith root lookup follow upward ([] :: rest) = walkWith root lookup follow upward rest := by
  rw [walkWith, step, hchild]
  simp [hlookup.refuses rest]

theorem walkWith_names (hlookup : lookup.Seeks) {names upward : List Bytes}
    (hnames : ∀ n ∈ names, IsName n) (hchild : root.child? (upward.reverse ++ names) = some node)
    (htarget : node.target? = none) :
    walkWith root lookup follow upward names = along upward.reverse names node := by
  induction names generalizing upward with
  | nil =>
      rw [List.append_nil] at hchild
      rw [walkWith, hchild]
      simp [along]
  | cons name names ih =>
      obtain ⟨hname, hnames⟩ := List.forall_mem_cons.1 hnames
      rw [child?_append] at hchild
      obtain ⟨here, hhere, hbelow⟩ := Option.bind_eq_some_iff.1 hchild
      obtain ⟨entries, next, rfl, hfind, hnext⟩ := child?_cons_eq_some_iff.1 hbelow
      have hstep : step root lookup upward name names =
          if 255 < name.length then .error .nameTooLong
          else enter lookup (name :: upward) names (some next) := by
        rw [step, hhere]
        simp [hlookup.refuses names, hname.ne_nil, hname.ne_dot, hname.ne_dots, hfind]
      rw [walkWith, hstep]
      by_cases hlong : 255 < name.length
      · simp [along, hlong]
      · rw [if_neg hlong, enter]
        have halong : along upward.reverse (name :: names) node =
            along (name :: upward).reverse names node := by
          simp [along, hlong]
        by_cases hstops : lookup.stopsAt names = true
        · -- the last name, and what it names is the answer
          obtain rfl := hlookup.stopsAt hstops
          obtain rfl : next = node := by simpa [child?] using hnext
          rw [if_pos hstops, halong]
          simp [along]
        · rw [if_neg hstops, target?_of_child? hnext htarget, halong]
          have hbelow' : root.child? ((name :: upward).reverse ++ names) = some node := by
            rw [List.reverse_cons, List.append_assoc, child?_append, hhere]
            exact hbelow
          exact ih hnames hbelow'

theorem exists_walk_eq (root : Node) (lookup : Lookup) (links : Nat) :
    ∃ follow, walk root lookup links = walkWith root lookup follow := by
  cases links <;> exact ⟨_, rfl⟩

end Walk

variable {files files' : Files} {names : List Bytes} {node : Node} {lookup : Lookup}

theorem Holds.locate (h : files.Holds names node) (hlookup : lookup.Seeks) :
    files.locate lookup (ofNames names) = direct names node := by
  obtain ⟨entries, hentries⟩ : ∃ entries, files.root = .directory entries := by
    cases hroot : files.root with
    | directory entries => exact ⟨entries, rfl⟩
    | file | link =>
        have hdirectory := h.root
        rw [hroot] at hdirectory
        cases hdirectory
  have hstart : files.root.child? ([] : List Bytes).reverse = some (.directory entries) := by
    simp [child?, hentries]
  obtain ⟨follow, hwalk⟩ := exists_walk_eq files.root lookup linkLimit
  have hpieces := pieces_ofNames fun n hn => (h.valid n hn).noSlash
  rw [Files.locate, direct, if_neg (by simp [ofNames_ne_nil] : ¬ (ofNames names).isEmpty = true),
    isAbsolute_ofNames, if_pos rfl, hwalk, hpieces, walkWith_nothing hlookup hstart]
  have hnames : walkWith files.root lookup follow [] (if names.isEmpty then [[]] else names)
      = along [] names node := by
    cases names with
    | nil =>
        rw [List.isEmpty_nil, if_pos rfl, walkWith_nothing hlookup hstart]
        exact walkWith_names hlookup (List.forall_mem_nil _) h.child h.target
    | cons name names => exact walkWith_names hlookup h.valid h.child h.target
  rw [hnames]

theorem along_eq_ok {above : List Bytes} {place : Place} (h : along above names node = .ok place) :
    place = .found (above ++ names) node := by
  unfold along at h
  split at h
  · cases h
  · exact (Except.ok.inj h).symm

theorem direct_eq_ok {place : Place} (h : direct names node = .ok place) :
    place = .found names node := by
  unfold direct at h
  split at h
  · cases h
  · split at h
    · cases h
    · exact along_eq_ok h

theorem Holds.status (h : files.Holds names node) :
    files.status (ofNames names) = (direct names node).map fun _ => (names, node) := by
  rw [Files.status, h.locate (.inr rfl)]
  cases hdirect : direct names node with
  | error e => rfl
  | ok place =>
      obtain rfl := direct_eq_ok hdirect
      rfl

theorem Holds.entry (h : files.Holds names node) :
    files.entry (ofNames names) = (direct names node).map fun _ => node := by
  rw [Files.entry, h.locate (.inl rfl)]
  cases hdirect : direct names node with
  | error e => rfl
  | ok place =>
      obtain rfl := direct_eq_ok hdirect
      rfl

/-- What a path leads to is where the tree has it. -/
theorem child?_of_status {p : Path} (h : files.status p = .ok (names, node)) :
    files.root.child? names = some node := by
  unfold Files.status at h
  split at h
  next => cases h
  next => cases h
  next hplace =>
    cases h
    exact lies_locate hplace

/-- A directory that some path leads to is where its own path leads to, when the tree is tidy. -/
theorem holds_of_status {p : Path} {entries : List (Bytes × Node)} (htidy : files.root.Tidy)
    (h : files.status p = .ok (names, .directory entries)) :
    files.Holds names (.directory entries) := by
  have hchild := child?_of_status h
  refine ⟨?_, (htidy.child? hchild).1, hchild, rfl⟩
  cases names with
  | nil =>
      obtain hroot : files.root = .directory entries := by simpa [child?] using hchild
      rw [hroot]
      rfl
  | cons name names =>
      obtain ⟨es, -, hroot, -⟩ := child?_cons_eq_some_iff.1 hchild
      rw [hroot]
      rfl

/-- What is below a directory is where the tree has it. -/
theorem Holds.below (h : files.Holds names node) (htidy : node.Tidy) {below : List Bytes}
    {inner : Node} (hinner : node.child? below = some inner) (htarget : inner.target? = none) :
    files.Holds (names ++ below) inner where
  root := h.root
  valid n hn := (List.mem_append.1 hn).elim (h.valid n) ((htidy.child? hinner).1 n)
  child := by
    rw [child?_append, h.child]
    exact hinner
  target := htarget

end Files

end LookupBench
