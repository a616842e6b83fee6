import LookupBench.Proofs.Files.Route
import LookupBench.Proofs.Sampling.Picker
import Mathlib.Data.List.Sort

/-!
# Which sources are found, and in which order

A walk sorts each directory on its own and passes over directories as it meets them. What comes of it
is said here of the whole tree: the sources are the files at the end of certain routes of names, and
the routes come in the order in which lists of names are compared, name by name. So the list depends
on nothing but what lies where, and not on how directories list their entries.
-/

namespace LookupBench

open LookupBench.Path Node

/-! ### The order of names -/

theorem bytesLe_iff {a b : Bytes} : bytesLe a b = true ↔ a ≤ b := by
  induction a generalizing b with
  | nil => simp [bytesLe]
  | cons x xs ih =>
      cases b with
      | nil => simp [bytesLe]
      | cons y ys => simp [bytesLe, List.cons_le_cons_iff, ih]

/-- The entries of a directory in the order of their names. -/
def byName (entries : List (Bytes × Node)) : List (Bytes × Node) :=
  entries.mergeSort fun a b => bytesLe a.1 b.1

theorem mem_byName {entries : List (Bytes × Node)} {e : Bytes × Node} :
    e ∈ byName entries ↔ e ∈ entries := List.mem_mergeSort

theorem pairwise_byName {entries : List (Bytes × Node)}
    (hnodup : (entries.map Prod.fst).Nodup) : (byName entries).Pairwise (·.1 < ·.1) := by
  have hle : (byName entries).Pairwise fun a b => bytesLe a.1 b.1 = true := by
    refine List.pairwise_mergeSort (fun a b c hab hbc => ?_) (fun a b => ?_) entries
    · rw [bytesLe_iff] at *
      exact List.le_trans hab hbc
    · rw [Bool.or_eq_true, bytesLe_iff, bytesLe_iff]
      exact List.le_total a.1 b.1
  have hne : (byName entries).Pairwise (·.1 ≠ ·.1) :=
    List.pairwise_map.1 (((List.mergeSort_perm entries _).map Prod.fst).nodup_iff.2 hnodup)
  exact hle.imp₂ (fun _ _ hab hne => Std.lt_of_le_of_ne (bytesLe_iff.1 hab) hne) hne

/-- Entries whose names come one after the other are the order of any way to list them. -/
theorem byName_eq_of_perm {entries sorted : List (Bytes × Node)} (hperm : entries.Perm sorted)
    (hsorted : sorted.Pairwise (·.1 < ·.1)) : byName entries = sorted := by
  have hnodup : (entries.map Prod.fst).Nodup :=
    (hperm.map Prod.fst).nodup_iff.2 (List.pairwise_map.2 (hsorted.imp Std.ne_of_lt))
  exact ((List.mergeSort_perm entries _).trans hperm).eq_of_pairwise
    (fun _ _ _ _ hab hba => (List.lt_asymm hab hba).elim) (pairwise_byName hnodup) hsorted

/-! ### Sources of a directory -/

/-- A route of names from a directory at a path to a source: a file with the right extension, on the
way to which no directory is passed over or cannot be read. -/
structure IsSource (readable : Path → Bool) (p : Path) (directory : Node)
    (route : List Bytes) : Prop where
  isFile : ∃ content executable, directory.child? route = some (.file content executable)
  extension : ∃ stem, stem ≠ [] ∧ route.getLast? = some (stem ++ dot :: sourceExtension)
  kept : ∀ name ∈ route.dropLast, isExcludedDirectory name = false
  read : ∀ above, above <+: route → above ≠ route → readable (p.extend above) = true

/-- What leads on from an entry of a directory at a path: a file with the right extension is a source
itself, and a directory that is not passed over leads to the sources below it. -/
inductive Leads (readable : Path → Bool) (p : Path) (name : Bytes) : Node → List Bytes → Prop where
  | file (content : Bytes) (executable : Bool)
      (hname : nameExtension name = some sourceExtension) :
      Leads readable p name (.file content executable) []
  | directory {entries : List (Bytes × Node)} {rest : List Bytes}
      (hkept : isExcludedDirectory name = false)
      (hrest : IsSource readable (p.join name) (.directory entries) rest) :
      Leads readable p name (.directory entries) rest

section Routes

variable {readable : Path → Bool} {p : Path} {entries : List (Bytes × Node)} {name : Bytes}
  {rest route : List Bytes}

theorem dot_notMem_sourceExtension : dot ∉ sourceExtension := by decide

theorem IsSource.ne_nil {node : Node} (h : IsSource readable p node route) : route ≠ [] := by
  rintro rfl
  obtain ⟨stem, -, hlast⟩ := h.extension
  cases hlast

theorem IsSource.leads (h : IsSource readable p (.directory entries) (name :: rest)) :
    readable p = true ∧ ∃ node, find? name entries = some node ∧
      Leads readable p name node rest := by
  obtain ⟨content, executable, hchild⟩ := h.isFile
  obtain ⟨_, next, heq, hfind, hnext⟩ := child?_cons_eq_some_iff.1 hchild
  cases heq
  refine ⟨h.read [] (List.nil_prefix) (List.cons_ne_nil _ _).symm, next, hfind, ?_⟩
  cases hrest : rest with
  | nil =>
      subst hrest
      obtain rfl : next = .file content executable := by simpa [child?] using hnext
      obtain ⟨stem, hstem, hlast⟩ := h.extension
      refine .file content executable ?_
      exact (nameExtension_eq_some_iff dot_notMem_sourceExtension).2
        ⟨stem, hstem, Option.some.inj hlast⟩
  | cons name' rest' =>
      rw [← hrest]
      obtain ⟨inner, _, rfl, -, -⟩ := child?_cons_eq_some_iff.1 (hrest ▸ hnext)
      have hne : rest ≠ [] := hrest ▸ List.cons_ne_nil _ _
      refine .directory (h.kept name ?_) ⟨⟨content, executable, hnext⟩, ?_, fun n hn => ?_, ?_⟩
      · rw [List.dropLast_cons_of_ne_nil hne]
        exact List.mem_cons_self
      · rw [← List.getLast?_cons_of_ne_nil hne]
        exact h.extension
      · refine h.kept n ?_
        rw [List.dropLast_cons_of_ne_nil hne]
        exact List.mem_cons_of_mem _ hn
      · intro above hprefix hshort
        exact h.read (name :: above) ((List.prefix_cons_inj name).2 hprefix) (by simpa using hshort)

theorem Leads.isSource (hread : readable p = true) {node : Node}
    (hfind : find? name entries = some node) (h : Leads readable p name node rest) :
    IsSource readable p (.directory entries) (name :: rest) := by
  cases h with
  | file content executable hname =>
      obtain ⟨stem, hstem, rfl⟩ :=
        (nameExtension_eq_some_iff dot_notMem_sourceExtension).1 hname
      refine ⟨⟨content, executable, child?_cons_eq_some_iff.2 ⟨_, _, rfl, hfind, rfl⟩⟩,
        ⟨stem, hstem, rfl⟩, nofun, fun above hprefix hshort => ?_⟩
      obtain rfl : above = [] := by
        rcases List.prefix_cons_iff.1 hprefix with rfl | ⟨more, rfl, hmore⟩
        · rfl
        · rw [List.prefix_nil.1 hmore] at hshort
          exact absurd rfl hshort
      exact hread
  | directory hkept hrest =>
      obtain ⟨content, executable, hchild⟩ := hrest.isFile
      refine ⟨⟨content, executable, child?_cons_eq_some_iff.2 ⟨_, _, rfl, hfind, hchild⟩⟩,
        ?_, fun n hn => ?_, fun above hprefix hshort => ?_⟩
      · obtain ⟨stem, hstem, hlast⟩ := hrest.extension
        refine ⟨stem, hstem, ?_⟩
        rw [List.getLast?_cons_of_ne_nil hrest.ne_nil]
        exact hlast
      · rw [List.dropLast_cons_of_ne_nil hrest.ne_nil] at hn
        rcases List.mem_cons.1 hn with rfl | hn
        · exact hkept
        · exact hrest.kept n hn
      · rcases List.prefix_cons_iff.1 hprefix with rfl | ⟨more, rfl, hmore⟩
        · exact hread
        · exact hrest.read more hmore (by simpa using hshort)

theorem isSource_cons_iff : IsSource readable p (.directory entries) (name :: rest) ↔
    readable p = true ∧ ∃ node, find? name entries = some node ∧ Leads readable p name node rest :=
  ⟨IsSource.leads, fun ⟨hread, _, hfind, h⟩ => h.isSource hread hfind⟩

end Routes

/-! ### Lists of paths -/

/-- The paths that routes from a path lead to: all routes of some kind, each once, in the order in
which lists of names are compared, name by name. -/
def Lists (p : Path) (wanted : List Bytes → Prop) (found : List Path) : Prop :=
  ∃ routes : List (List Bytes), found = routes.map p.extend ∧ routes.Pairwise (· < ·) ∧
    ∀ route, route ∈ routes ↔ wanted route

namespace Lists

variable {p : Path} {wanted wanted' : List Bytes → Prop} {found found' : List Path}

theorem congr (h : Lists p wanted found) (hwanted : ∀ route, wanted route ↔ wanted' route) :
    Lists p wanted' found := by
  obtain ⟨routes, hfound, hsorted, hmem⟩ := h
  exact ⟨routes, hfound, hsorted, fun route => (hmem route).trans (hwanted route)⟩

theorem none (h : ∀ route, ¬ wanted route) : Lists p wanted [] :=
  ⟨[], rfl, .nil, fun route => iff_of_false List.not_mem_nil (h route)⟩

/-- What is listed from a name on is listed from the path in front of it. -/
theorem behind {name : Bytes} (h : Lists (p.join name) wanted found) :
    Lists p (fun route => ∃ rest, route = name :: rest ∧ wanted rest) found := by
  obtain ⟨routes, rfl, hsorted, hmem⟩ := h
  refine ⟨routes.map (name :: ·), by simp [extend_cons], ?_, fun route => ?_⟩
  · rw [List.pairwise_map]
    exact hsorted.imp fun hless => List.cons_lt_cons_iff.2 (.inr ⟨rfl, hless⟩)
  · rw [List.mem_map]
    exact ⟨fun ⟨rest, hrest, heq⟩ => ⟨rest, heq.symm, (hmem rest).1 hrest⟩,
      fun ⟨rest, heq, hrest⟩ => ⟨rest, (hmem rest).2 hrest, heq.symm⟩⟩

/-- What lies behind names in order is listed in order. -/
theorem flatMap {es : List (Bytes × Node)} (hes : es.Pairwise (·.1 < ·.1))
    {wanted : Bytes × Node → List Bytes → Prop} {found : Bytes × Node → List Path}
    (h : ∀ e ∈ es, Lists (p.join e.1) (wanted e) (found e)) :
    Lists p (fun route => ∃ e ∈ es, ∃ rest, route = e.1 :: rest ∧ wanted e rest)
      (es.flatMap found) := by
  induction es with
  | nil => exact none (by simp)
  | cons e es ih =>
      obtain ⟨hless, hes⟩ := List.pairwise_cons.1 hes
      obtain ⟨hhead, hrest⟩ := List.forall_mem_cons.1 h
      obtain ⟨routes, hfound, hsorted, hmem⟩ := hhead.behind
      obtain ⟨routes', hfound', hsorted', hmem'⟩ := ih hes hrest
      refine ⟨routes ++ routes', by rw [List.flatMap_cons, hfound, hfound', List.map_append],
        List.pairwise_append.2 ⟨hsorted, hsorted', fun r hr r' hr' => ?_⟩, fun route => ?_⟩
      · obtain ⟨rest, rfl, -⟩ := (hmem r).1 hr
        obtain ⟨e', he', rest', rfl, -⟩ := (hmem' r').1 hr'
        exact List.cons_lt_cons_iff.2 (.inl (hless e' he'))
      · rw [List.mem_append, hmem, hmem']
        simp only [List.mem_cons, exists_eq_or_imp]

theorem unique (h : Lists p wanted found) (h' : Lists p wanted found') : found = found' := by
  obtain ⟨routes, rfl, hsorted, hmem⟩ := h
  obtain ⟨routes', rfl, hsorted', hmem'⟩ := h'
  rw [hsorted.eq_of_mem_iff hsorted' fun route => (hmem route).trans (hmem' route).symm]

theorem nodup (h : Lists p wanted found)
    (hwanted : ∀ route, wanted route → route ≠ [] ∧ ∀ n ∈ route, IsName n) : found.Nodup := by
  obtain ⟨routes, rfl, hsorted, hmem⟩ := h
  refine (List.nodup_map_iff_inj_on hsorted.nodup).2 fun r hr r' hr' heq => ?_
  obtain ⟨hne, hvalid⟩ := hwanted r ((hmem r).1 hr)
  obtain ⟨hne', hvalid'⟩ := hwanted r' ((hmem r').1 hr')
  exact extend_injective hvalid hvalid' hne hne' heq

theorem eq_nil_iff (h : Lists p wanted found) : found = [] ↔ ∀ route, ¬ wanted route := by
  obtain ⟨routes, rfl, -, hmem⟩ := h
  simp [List.eq_nil_iff_forall_not_mem, hmem]

end Lists

/-! ### The walk -/

/-- What the walk finds at an entry of a directory at a path. -/
def foundIn (readable : Path → Bool) (p : Path) (e : Bytes × Node) : List Path :=
  if e.2.isDirectory && isExcludedDirectory e.1 then []
  else sourcesAt readable (p.join e.1) e.2

section Walk

variable {readable : Path → Bool} {p : Path}

theorem entrySources_eq_map (entries : List (Bytes × Node)) :
    entrySources readable p entries = entries.map fun e => (e.1, foundIn readable p e) := by
  induction entries with
  | nil => rw [entrySources, List.map_nil]
  | cons e rest ih =>
      rw [entrySources, ih]
      rfl

theorem sourcesAt_directory (entries : List (Bytes × Node)) :
    sourcesAt readable p (.directory entries)
      = if readable p then (byName entries).flatMap (foundIn readable p) else [] := by
  have hsort : (entries.map fun e => (e.1, foundIn readable p e)).mergeSort
      (fun a b => bytesLe a.1 b.1) = (byName entries).map fun e => (e.1, foundIn readable p e) := by
    refine Eq.symm (List.map_mergeSort ?_)
    exact fun _ _ _ _ => rfl
  rw [sourcesAt, inNameOrder, entrySources_eq_map, hsort, List.flatMap_map]

/-- What the walk finds at an entry is what the entry leads to. -/
theorem lists_foundIn {name : Bytes} {node : Node} (hname : IsName name)
    (h : node.isDirectory = true → Lists (p.join name) (IsSource readable (p.join name) node)
      (sourcesAt readable (p.join name) node)) :
    Lists (p.join name) (Leads readable p name node) (foundIn readable p (name, node)) := by
  cases node with
  | link target =>
      have hfound : foundIn readable p (name, .link target) = [] := by
        simp [foundIn, isDirectory, sourcesAt]
      rw [hfound]
      exact .none fun route hleads => by cases hleads
  | file content executable =>
      have hfound : foundIn readable p (name, .file content executable)
          = if nameExtension name = some sourceExtension then [p.join name] else [] := by
        simp [foundIn, isDirectory, sourcesAt, hasExtension, fileName_join hname]
      rw [hfound]
      split
      next hextension =>
        refine ⟨[[]], rfl, List.pairwise_singleton _ _, fun route => ?_⟩
        rw [List.mem_singleton]
        exact ⟨fun heq => heq ▸ .file content executable hextension,
          fun hleads => by cases hleads; rfl⟩
      next hextension =>
        refine .none fun route hleads => ?_
        cases hleads with
        | file _ _ hname => exact hextension hname
  | directory entries =>
      cases hexcluded : isExcludedDirectory name with
      | true =>
          have hfound : foundIn readable p (name, .directory entries) = [] := by
            simp [foundIn, isDirectory, hexcluded]
          rw [hfound]
          refine .none fun route hleads => ?_
          cases hleads with
          | directory hkept => exact absurd (hexcluded.symm.trans hkept) (by decide)
      | false =>
          have hfound : foundIn readable p (name, .directory entries)
              = sourcesAt readable (p.join name) (.directory entries) := by
            simp [foundIn, hexcluded]
          rw [hfound]
          exact (h rfl).congr fun route => ⟨.directory hexcluded, fun hleads => by
            cases hleads with
            | directory _ hrest => exact hrest⟩

/-- The walk below a directory finds its sources. -/
theorem lists_sourcesAt {node : Node} (h : node.Tidy) (hdirectory : node.isDirectory = true) :
    Lists p (IsSource readable p node) (sourcesAt readable p node) := by
  induction h generalizing p with
  | file | link => cases hdirectory
  | @directory entries hnodup hnames hentries ih =>
      rw [sourcesAt_directory]
      split
      next hread =>
        have hfound : ∀ e ∈ byName entries, Lists (p.join e.1) (Leads readable p e.1 e.2)
            (foundIn readable p e) := fun e he =>
          have hmem := mem_byName.1 he
          lists_foundIn (hnames e hmem) (ih e hmem)
        have hlists := Lists.flatMap (p := p) (pairwise_byName hnodup) hfound
        refine hlists.congr fun route => ?_
        cases route with
        | nil => exact iff_of_false (by simp) fun h => h.ne_nil rfl
        | cons name rest =>
            rw [isSource_cons_iff]
            constructor
            · rintro ⟨⟨_, node⟩, he, _, ⟨⟩, hleads⟩
              exact ⟨hread, node, find?_of_mem hnodup (mem_byName.1 he), hleads⟩
            · rintro ⟨-, node, hfind, hleads⟩
              exact ⟨(name, node), mem_byName.2 (mem_of_find? hfind), rest, rfl, hleads⟩
      next hread =>
        exact .none fun route hsource =>
          hread (hsource.read [] List.nil_prefix hsource.ne_nil.symm)

end Walk

/-! ### The root -/

namespace Files

section Root

variable {root node : Node} {names : List Bytes}

/-- Looking at an entry comes to what following it comes to, or stops at a link. -/
def StopsAt (names : List Bytes) (node : Node) (outcome : Except IoFailure Place) : Prop :=
  outcome = .ok (.found names node) ∨ ∃ names target, outcome = .ok (.found names (.link target))

/-- Where a walk goes on behind an entry. -/
def Step.behind (upward : List Bytes) (node : Node) : Step :=
  match node.target? with
  | some target => .follow target
  | none => .pass upward

theorem enter_entry {upward rest : List Bytes} {found : Option Node} {s : Step}
    (h : enter .target upward rest found = .ok s) :
    enter .entry upward rest found = .ok s ∨
      rest = [] ∧ ∃ next, found = some next ∧ s = .behind upward next ∧
        enter .entry upward rest found = .ok (.arrive (.found upward.reverse next)) := by
  cases found with
  | none => exact .inl h
  | some next =>
      cases rest with
      | cons _ _ => exact .inl h
      | nil =>
          refine .inr ⟨rfl, next, rfl, ?_, rfl⟩
          rw [enter, if_neg (by simp [Lookup.stopsAt])] at h
          rw [Step.behind]
          cases hnext : next.target? with
          | none | some _ =>
              rw [hnext] at h
              exact (Except.ok.inj h).symm

/-- A component on the way is passed alike, unless it is the last one. -/
theorem step_entry {upward rest : List Bytes} {name : Bytes} {s : Step}
    (h : step root .target upward name rest = .ok s) :
    step root .entry upward name rest = .ok s ∨
      rest = [] ∧ ∃ next, root.child? (name :: upward).reverse = some next ∧
        s = .behind (name :: upward) next ∧ step root .entry upward name rest
          = .ok (.arrive (.found (name :: upward).reverse next)) := by
  unfold step at h ⊢
  cases hchild : root.child? upward.reverse with
  | none =>
      rw [hchild] at h
      cases h
  | some here =>
      rw [hchild] at h
      cases here with
      | file | link => cases h
      | directory entries =>
          dsimp only at h ⊢
          rw [if_neg (show ¬ Lookup.target.refuses rest = true from Bool.false_ne_true)] at h
          rw [if_neg (show ¬ Lookup.entry.refuses rest = true from Bool.false_ne_true)]
          split_ifs at h ⊢
          · exact .inl h
          · exact .inl h
          · rw [List.reverse_cons, child?_concat hchild, ← List.reverse_cons]
            exact enter_entry h

theorem stopsAt_walkWith
    {follow follow' : Path → List Bytes → List Bytes → Except IoFailure Place}
    (hfollow : ∀ {target upward rest}, follow target upward rest = .ok (.found names node) →
      StopsAt names node (follow' target upward rest)) :
    ∀ {components upward}, walkWith root .target follow upward components
        = .ok (.found names node) →
      StopsAt names node (walkWith root .entry follow' upward components) := by
  intro components
  induction components with
  | nil =>
      intro upward h
      rw [walkWith] at h ⊢
      exact .inl h
  | cons name rest ih =>
      intro upward h
      rw [walkWith] at h ⊢
      cases hstep : step root .target upward name rest with
      | error e =>
          rw [hstep] at h
          cases h
      | ok s =>
          rw [hstep] at h
          rcases step_entry hstep with hentry | ⟨rfl, next, hchild, rfl, hentry⟩
          · rw [hentry]
            cases s with
            | pass upward => exact ih h
            | follow target => exact hfollow h
            | arrive place => exact .inl h
          · -- the last component: what it names is the answer, or a link to the answer
            rw [hentry]
            cases next with
            | link target => exact .inr ⟨_, target, rfl⟩
            | file | directory =>
                dsimp only [Step.behind, target?] at h
                rw [walkWith, hchild] at h
                exact .inl h

theorem stopsAt_walk : ∀ {links upward components},
    walk root .target links upward components = .ok (.found names node) →
      StopsAt names node (walk root .entry links upward components) := by
  intro links
  induction links with
  | zero => exact fun h => stopsAt_walkWith (fun h => by cases h) h
  | succ links ih =>
      refine fun h => stopsAt_walkWith (fun {target upward rest} h => ?_) h
      split at h
      next => cases h
      next hempty =>
        rw [if_neg hempty]
        exact ih h

end Root

/-- A root that leads to a directory is that directory or a link on the way there. -/
theorem entry_of_status {files : Files} {p : Path} {names : List Bytes} {node : Node}
    (h : files.status p = .ok (names, node)) :
    files.entry p = .ok node ∨ ∃ target, files.entry p = .ok (.link target) := by
  have hplace : files.locate .target p = .ok (.found names node) := by
    unfold status at h
    split at h
    next => cases h
    next => cases h
    next hplace =>
      cases h
      exact hplace
  have hstops : StopsAt names node (files.locate .entry p) := by
    unfold locate at hplace ⊢
    split_ifs at hplace ⊢ <;> exact stopsAt_walk hplace
  rw [entry]
  rcases hstops with hfound | ⟨_, target, hlink⟩
  · rw [hfound]
    exact .inl rfl
  · rw [hlink]
    exact .inr ⟨target, rfl⟩

theorem sourcesWhere_eq {files : Files} {root : Path} {names : List Bytes}
    {entries : List (Bytes × Node)} (h : files.status root = .ok (names, .directory entries))
    (readable : Path → Bool) :
    files.sourcesWhere readable root = sourcesAt readable root (.directory entries) := by
  rw [sourcesWhere]
  rcases entry_of_status h with hentry | ⟨target, hentry⟩
  · rw [hentry]
  · rw [hentry, h]

end Files

/-! ### What the list depends on -/

/-- An entry without what it holds, if it is a directory. -/
def Node.bare : Node → Node
  | directory _ => directory []
  | other => other

/-- Two trees have the same entries in the same places. Each directory may list them in an order of
its own. -/
def Node.Relisted (node node' : Node) : Prop :=
  ∀ route, (node.child? route).map bare = (node'.child? route).map bare

theorem Node.Relisted.isSource {node node' : Node} (h : node.Relisted node')
    {readable : Path → Bool} {p : Path} {route : List Bytes}
    (hsource : IsSource readable p node route) : IsSource readable p node' route := by
  obtain ⟨content, executable, hchild⟩ := hsource.isFile
  refine ⟨⟨content, executable, ?_⟩, hsource.extension, hsource.kept, hsource.read⟩
  have hbare := h route
  rw [hchild] at hbare
  obtain ⟨inner, hinner, hsame⟩ := Option.map_eq_some_iff.1 hbare.symm
  cases inner with
  | file =>
      rw [hinner]
      exact congrArg some hsame
  | link | directory => cases hsame

theorem Node.Relisted.symm {node node' : Node} (h : node.Relisted node') : node'.Relisted node :=
  fun route => (h route).symm

theorem IsSource.valid {readable : Path → Bool} {p : Path} {node : Node} {route : List Bytes}
    (h : IsSource readable p node route) (htidy : node.Tidy) : ∀ n ∈ route, IsName n := by
  obtain ⟨content, executable, hchild⟩ := h.isFile
  exact (htidy.child? hchild).1

namespace Files

variable {files : Files} {root : Path} {names : List Bytes} {entries : List (Bytes × Node)}

/-- Below a root that leads to a directory, whatever its name, exactly the routes to sources are
found, each once and in the order of lists of names; without any, there is no picker. Another tree
with the same entries in the same places gives the same list. -/
theorem lists_sourcesWhere (hroot : files.status root = .ok (names, .directory entries))
    (htidy : (Node.directory entries).Tidy) (readable : Path → Bool) :
    Lists root (IsSource readable root (.directory entries))
        (files.sourcesWhere readable root) ∧
      (files.sourcesWhere readable root).Nodup ∧
      (∀ seed, Picker.new files root seed = .error (.noSources root) ↔
        ∀ route, ¬ IsSource isReadable root (.directory entries) route) ∧
      ∀ (files' : Files) (names' : List Bytes) (entries' : List (Bytes × Node)),
        files'.status root = .ok (names', .directory entries') →
          (Node.directory entries').Tidy →
            (Node.directory entries).Relisted (.directory entries') →
              files'.sourcesWhere readable root = files.sourcesWhere readable root := by
  have hlists (readable : Path → Bool) : Lists root
      (IsSource readable root (.directory entries)) (files.sourcesWhere readable root) := by
    rw [sourcesWhere_eq hroot]
    exact lists_sourcesAt htidy rfl
  refine ⟨hlists readable, (hlists readable).nodup fun route hsource =>
    ⟨hsource.ne_nil, hsource.valid htidy⟩, fun seed => ?_, ?_⟩
  · rw [← (hlists isReadable).eq_nil_iff, ← List.isEmpty_iff]
    unfold Picker.new
    dsimp only
    split
    next hempty => exact iff_of_true rfl hempty
    next hempty => exact iff_of_false nofun hempty
  · intro files' names' entries' hroot' htidy' hrelisted
    rw [sourcesWhere_eq hroot']
    exact ((lists_sourcesAt htidy' rfl).congr fun route =>
      ⟨hrelisted.symm.isSource, hrelisted.isSource⟩).unique (hlists readable)

/-- Entries out of order, one of them below a directory that is passed over, and a link back. -/
def scattered : List (Bytes × Node) :=
  [(ofString "b.py", .file [] false),
    (ofString "BUILD", .directory [(ofString "c.py", .file [] false)]),
    (ofString "a", .directory [(ofString "up", .link (ofString "..")),
      (ofString "z.py", .file [] false)]),
    (ofString "a.py", .file [] false)]

theorem tidy_scattered : (Node.directory scattered).Tidy := by
  have hname : ∀ name ∈ ["b.py", "BUILD", "a", "a.py", "c.py", "up", "z.py"].map ofString,
      IsName name := by
    simp only [List.map_cons, List.map_nil, List.forall_mem_cons]
    refine ⟨?_, ?_, ?_, ?_, ?_, ?_, ?_, nofun⟩ <;> constructor <;> decide +kernel
  refine .directory (by decide +kernel) ?_ ?_
  · simp only [scattered, List.forall_mem_cons]
    exact ⟨hname _ (by simp), hname _ (by simp), hname _ (by simp), hname _ (by simp), nofun⟩
  · simp only [scattered, List.forall_mem_cons]
    refine ⟨.file _ _, .directory (by decide +kernel) ?_ ?_, .directory (by decide +kernel) ?_ ?_,
      .file _ _, nofun⟩
    · exact List.forall_mem_cons.2 ⟨hname _ (by simp), nofun⟩
    · exact List.forall_mem_cons.2 ⟨.file _ _, nofun⟩
    · exact List.forall_mem_cons.2
        ⟨hname _ (by simp), List.forall_mem_cons.2 ⟨hname _ (by simp), nofun⟩⟩
    · exact List.forall_mem_cons.2 ⟨.link _, List.forall_mem_cons.2 ⟨.file _ _, nofun⟩⟩

theorem lists_sourcesWhere_scattered :
    Files.status ⟨.directory scattered, []⟩ [slash] = .ok ([], .directory scattered) ∧
      (Node.directory scattered).Tidy ∧
      Lists [slash] (IsSource isReadable [slash] (.directory scattered))
        (["/a/z.py", "/a.py", "/b.py"].map ofString) := by
  have hroot : Files.status ⟨.directory scattered, []⟩ [slash] = .ok ([], .directory scattered) :=
    rfl
  have hscattered : byName scattered = scattered.drop 1 ++ scattered.take 1 :=
    byName_eq_of_perm (show (scattered.take 1 ++ _).Perm _ from List.perm_append_comm)
      (by decide +kernel)
  have hbuild : foundIn isReadable [slash]
      (ofString "BUILD", .directory [(ofString "c.py", .file [] false)]) = [] :=
    if_pos (by decide +kernel)
  have hbelow : foundIn isReadable [slash] (ofString "a", .directory
      [(ofString "up", .link (ofString "..")), (ofString "z.py", .file [] false)])
        = [ofString "/a/z.py"] := by
    rw [foundIn, if_neg (by decide +kernel), sourcesAt_directory,
      byName_eq_of_perm (.refl _) (by decide +kernel)]
    decide +kernel
  have hsources : Files.sourcesWhere isReadable ⟨.directory scattered, []⟩ [slash]
      = ["/a/z.py", "/a.py", "/b.py"].map ofString := by
    rw [sourcesWhere_eq hroot, sourcesAt_directory, hscattered, if_pos (by decide +kernel)]
    simp only [scattered, List.drop_succ_cons, List.drop_zero, List.take_succ_cons, List.take_zero,
      List.cons_append, List.nil_append, List.flatMap_cons, hbuild, hbelow]
    decide +kernel
  exact ⟨hroot, tidy_scattered, hsources ▸ (lists_sourcesWhere hroot tidy_scattered isReadable).1⟩

end Files

end LookupBench
