import LookupBench.Files.Tree
import Mathlib.Data.List.Basic
import Mathlib.Tactic.SplitIfs

/-!
# Reading what was written

A file that was written is read under the path it was written to, whatever links lead there.
-/

namespace LookupBench

namespace Node

theorem find?_setEntry (name : Bytes) (node : Node) (entries : List (Bytes × Node)) :
    find? name (setEntry name node entries) = some node := by
  induction entries with
  | nil => simp [setEntry, find?]
  | cons e rest ih =>
      rw [setEntry]
      split
      next => simp [find?]
      next hne => simp [find?, hne, ih]

theorem find?_setEntry_of_ne {name other : Bytes} (h : other ≠ name) (node : Node)
    (entries : List (Bytes × Node)) :
    find? other (setEntry name node entries) = find? other entries := by
  induction entries with
  | nil => simp [setEntry, find?, h.symm]
  | cons e rest ih =>
      rw [setEntry]
      split
      next heq => simp [find?, heq, h.symm]
      next => simp [find?, ih]

theorem child?_cons_eq_some_iff {node inner : Node} {name : Bytes} {names : List Bytes} :
    node.child? (name :: names) = some inner ↔
      ∃ entries next, node = .directory entries ∧ find? name entries = some next ∧
        next.child? names = some inner := by
  cases node with
  | file | link => simp [child?]
  | directory entries => cases hfind : find? name entries <;> simp [child?, hfind]

theorem child?_append (above below : List Bytes) (node : Node) :
    node.child? (above ++ below) = (node.child? above).bind (·.child? below) := by
  induction above generalizing node with
  | nil => simp [child?]
  | cons a above ih =>
      cases node with
      | file | link => simp [child?]
      | directory entries =>
          cases hfind : find? a entries with
          | none => simp [child?, hfind]
          | some next => simpa [child?, hfind] using ih next

/-- One name further down. -/
theorem child?_concat {root : Node} {above : List Bytes} {entries : List (Bytes × Node)}
    (h : root.child? above = some (.directory entries)) (name : Bytes) :
    root.child? (above ++ [name]) = find? name entries := by
  rw [child?_append, h, Option.bind_some]
  cases hfind : find? name entries <;> simp [child?, hfind]

/-- What is below something is below a directory. -/
theorem exists_directory_of_child? {root node : Node} {above : List Bytes} {name : Bytes}
    (h : root.child? (above ++ [name]) = some node) :
    ∃ entries, root.child? above = some (.directory entries) := by
  rw [child?_append] at h
  obtain ⟨here, hhere, hbelow⟩ := Option.bind_eq_some_iff.1 h
  obtain ⟨entries, -, rfl, -⟩ := child?_cons_eq_some_iff.1 hbelow
  exact ⟨entries, hhere⟩

/-- On the way to an entry further down, only the entry passed changes. -/
theorem set_cons {node inner : Node} {name : Bytes} {rest : List Bytes}
    {entries : List (Bytes × Node)} (h : find? name entries = some inner) (hrest : rest ≠ []) :
    set node (name :: rest) (.directory entries)
      = .directory (setEntry name (set node rest inner) entries) := by
  cases rest with
  | nil => exact absurd rfl hrest
  | cons _ _ => simp only [set, h]

/-- Two trees that differ in one place. One holds a file there, the other nothing or another
file. -/
structure FilePut (old new : Node) (names : List Bytes) (content : Bytes) (executable : Bool) :
    Prop where
  before : old.child? names = none ∨ ∃ c x, old.child? names = some (.file c x)
  here : new.child? names = some (.file content executable)
  away : ∀ {other}, other ≠ names → new.child? other = old.child? other ∨
    ∃ es es', old.child? other = some (.directory es) ∧ new.child? other = some (.directory es')

namespace FilePut

variable {old new : Node} {names other : List Bytes} {content : Bytes} {executable : Bool}

theorem ne_of_directory (h : FilePut old new names content executable)
    {es : List (Bytes × Node)} (hother : old.child? other = some (.directory es)) :
    other ≠ names := by
  rintro rfl
  rcases h.before with hnone | ⟨c, x, hfile⟩
  · simp [hnone] at hother
  · simp [hfile] at hother

/-- A directory stays one. -/
theorem directory (h : FilePut old new names content executable) {es : List (Bytes × Node)}
    (hother : old.child? other = some (.directory es)) :
    ∃ es', new.child? other = some (.directory es') := by
  rcases h.away (h.ne_of_directory hother) with heq | ⟨-, es', -, hnew⟩
  · exact ⟨es, heq.trans hother⟩
  · exact ⟨es', hnew⟩

/-- Nothing goes away, and links lead where they led. -/
theorem kept (h : FilePut old new names content executable) {node : Node}
    (hother : old.child? other = some node) :
    ∃ node', new.child? other = some node' ∧ node'.target? = node.target? := by
  by_cases hne : other = names
  · subst hne
    refine ⟨_, h.here, ?_⟩
    rcases h.before with hnone | ⟨c, x, hfile⟩
    · simp [hnone] at hother
    · obtain rfl := Option.some.inj (hother.symm.trans hfile)
      rfl
  · rcases h.away hne with heq | ⟨es, es', hold, hnew⟩
    · exact ⟨node, heq.trans hother, rfl⟩
    · obtain rfl := Option.some.inj (hother.symm.trans hold)
      exact ⟨_, hnew, rfl⟩

end FilePut

theorem filePut_set {root : Node} {above : List Bytes} {entries : List (Bytes × Node)}
    (h : root.child? above = some (.directory entries)) {name : Bytes}
    (hbefore : find? name entries = none ∨ ∃ c x, find? name entries = some (.file c x))
    (content : Bytes) (executable : Bool) :
    FilePut root (set (.file content executable) (above ++ [name]) root) (above ++ [name]) content
      executable := by
  induction above generalizing root with
  | nil =>
      obtain rfl := Option.some.inj h
      refine ⟨by rwa [child?_concat h], ?_, fun {other} hne => ?_⟩
      · simp [set, child?, find?_setEntry]
      · cases other with
        | nil => exact .inr ⟨_, _, rfl, rfl⟩
        | cons x below =>
            left
            by_cases heq : x = name
            · obtain rfl := heq
              cases below with
              | nil => exact absurd rfl hne
              | cons y below =>
                  rcases hbefore with hnone | ⟨c, e, hfile⟩
                  · simp [set, child?, find?_setEntry, hnone]
                  · simp [set, child?, find?_setEntry, hfile]
            · simp [set, child?, find?_setEntry_of_ne heq]
  | cons a above ih =>
      cases root with
      | directory es =>
          rw [child?] at h
          cases hinner : find? a es with
          | none => rw [hinner] at h; cases h
          | some inner =>
              rw [hinner] at h
              have hput := ih h
              rw [List.cons_append, set_cons hinner (by simp)]
              refine ⟨?_, ?_, fun {other} hne => ?_⟩
              · simpa only [child?, hinner] using hput.before
              · simpa only [child?, find?_setEntry] using hput.here
              · cases other with
                | nil => exact .inr ⟨_, _, rfl, rfl⟩
                | cons x below =>
                    by_cases heq : x = a
                    · obtain rfl := heq
                      simpa only [child?, hinner, find?_setEntry] using
                        hput.away fun hbelow => hne (hbelow ▸ rfl)
                    · left
                      simp only [child?, find?_setEntry_of_ne heq]
      | file | link => cases h

/-- A file is replaced by another one. -/
theorem filePut_of_file {root : Node} {names : List Bytes} {c : Bytes} {x : Bool}
    (h : root.child? names = some (.file c x)) (content : Bytes) (executable : Bool) :
    FilePut root (set (.file content executable) names root) names content executable := by
  rcases List.eq_nil_or_concat names with rfl | ⟨above, name, rfl⟩
  · -- The whole tree is a file.
    obtain rfl := Option.some.inj h
    refine ⟨.inr ⟨c, x, rfl⟩, rfl, fun {other} hne => ?_⟩
    cases other with
    | nil => exact absurd rfl hne
    | cons _ _ => exact .inl rfl
  · rw [List.concat_eq_append] at h ⊢
    obtain ⟨entries, hentries⟩ := exists_directory_of_child? h
    rw [child?_concat hentries] at h
    exact filePut_set hentries (.inr ⟨c, x, h⟩) content executable

end Node

namespace Files

open Node

/-- A place is where the tree has it. -/
def Place.Lies (root : Node) : Place → Prop
  | found names node => root.child? names = some node
  | absent names => ∃ above name entries, names = above ++ [name] ∧
      root.child? above = some (.directory entries) ∧ find? name entries = none

def Place.names : Place → List Bytes
  | found names _ => names
  | absent names => names

section Lies

variable {root : Node} {lookup : Lookup}

theorem lies_enter {upward rest : List Bytes} {name : Bytes} {entries : List (Bytes × Node)}
    {place : Place} (hentries : root.child? upward.reverse = some (.directory entries))
    (h : enter lookup (name :: upward) rest (find? name entries) = .ok (.arrive place)) :
    place.Lies root := by
  cases hfind : find? name entries with
  | none =>
      rw [hfind, enter] at h
      split_ifs at h
      cases h
      exact ⟨_, _, entries, List.reverse_cons, hentries, hfind⟩
  | some node =>
      rw [hfind, enter] at h
      split_ifs at h
      · cases h
        rw [Place.Lies, List.reverse_cons, child?_concat hentries, hfind]
      · split at h <;> cases h

theorem lies_step {upward rest : List Bytes} {name : Bytes} {place : Place}
    (h : step root lookup upward name rest = .ok (.arrive place)) : place.Lies root := by
  unfold step at h
  split at h
  next => cases h
  next entries hentries =>
    split_ifs at h with hrefused hskip hup hlong
    · cases h
    · cases h
    · exact lies_enter hentries h
  next => cases h

theorem lies_walkWith {follow : Path → List Bytes → List Bytes → Except IoFailure Place}
    (hfollow : ∀ {target upward rest place}, follow target upward rest = .ok place →
      place.Lies root) :
    ∀ {components upward place}, walkWith root lookup follow upward components = .ok place →
      place.Lies root := by
  intro components
  induction components with
  | nil =>
      intro upward place h
      rw [walkWith] at h
      split at h
      next => cases h
      next node hnode =>
        cases h
        exact hnode
  | cons name rest ih =>
      intro upward place h
      rw [walkWith] at h
      split at h
      next => cases h
      next => exact ih h
      next => exact hfollow h
      next hstep =>
        cases h
        exact lies_step hstep

/-- A walk ends where the tree has something, or has room. -/
theorem lies_walk : ∀ {links upward components place},
    walk root lookup links upward components = .ok place → place.Lies root := by
  intro links
  induction links with
  | zero => exact fun h => lies_walkWith (fun h => by cases h) h
  | succ links ih =>
      refine fun h => lies_walkWith (fun {target upward rest place} h => ?_) h
      split at h
      next => cases h
      next => exact ih h

end Lies

/-! What leads to the place where a file is put leads to the file afterwards. -/

/-- The step that was taken, when the place where a walk arrived has become an entry. -/
def Step.again : Step → Step
  | arrive place => pass place.names.reverse
  | s => s

theorem eq_nil_of_enter {upward rest : List Bytes} {node : Option Node} {place : Place}
    (hrefused : ¬ Lookup.output.refuses rest = true)
    (h : enter .output upward rest node = .ok (.arrive place)) : rest = [] := by
  cases node with
  | none =>
      rw [enter] at h
      split_ifs at h with hall
      simpa [Lookup.refuses, hall] using hrefused
  | some node =>
      rw [enter, if_neg (by simp [Lookup.stopsAt])] at h
      split at h <;> cases h

/-- A file is put where the path ends. -/
theorem eq_nil_of_step {root : Node} {upward rest : List Bytes} {name : Bytes} {place : Place}
    (h : step root .output upward name rest = .ok (.arrive place)) : rest = [] := by
  unfold step at h
  split at h
  next => cases h
  next =>
    split_ifs at h with hrefused hskip hup hlong
    · cases h
    · cases h
    · exact eq_nil_of_enter hrefused h
  next => cases h

section Again

variable {old new : Node} {names : List Bytes} {content : Bytes} {executable : Bool}

theorem enter_again (hput : FilePut old new names content executable) {upward rest : List Bytes}
    {name : Bytes} {entries entries' : List (Bytes × Node)} {s : Step}
    (hentries : old.child? upward.reverse = some (.directory entries))
    (hentries' : new.child? upward.reverse = some (.directory entries'))
    (h : enter .output (name :: upward) rest (find? name entries) = .ok s)
    (hs : ∀ place, s = .arrive place → place.names = names) :
    enter .target (name :: upward) rest (find? name entries') = .ok s.again := by
  have hold := child?_concat hentries name
  have hnew := child?_concat hentries' name
  rw [← List.reverse_cons] at hold hnew
  cases hfind : find? name entries with
  | none =>
      rw [hfind, enter] at h
      split_ifs at h
      cases h
      have hnames : (name :: upward).reverse = names := hs _ rfl
      rw [← hnew, hnames, hput.here, Step.again, Place.names, ← hnames, List.reverse_reverse]
      rfl
  | some node =>
      obtain ⟨node', hnode', htarget⟩ := hput.kept (hold.trans hfind)
      rw [hfind, enter, if_neg (by simp [Lookup.stopsAt])] at h
      rw [← hnew, hnode', enter, if_neg (by simp [Lookup.stopsAt]), htarget]
      split at h
      next =>
        cases h
        rfl
      next =>
        cases h
        rfl

theorem step_again (hput : FilePut old new names content executable) {upward rest : List Bytes}
    {name : Bytes} {s : Step} (h : step old .output upward name rest = .ok s)
    (hs : ∀ place, s = .arrive place → place.names = names) :
    step new .target upward name rest = .ok s.again := by
  unfold step at h ⊢
  split at h
  next => cases h
  next entries hentries =>
    -- The directory passed is still one.
    obtain ⟨entries', hentries'⟩ := hput.directory hentries
    rw [hentries']
    dsimp only
    rw [if_neg (show ¬ Lookup.target.refuses rest = true from Bool.false_ne_true)]
    split_ifs at h ⊢ with hrefused hskip hup hlong
    · cases h; rfl
    · cases h; rfl
    · exact enter_again hput hentries hentries' h hs
  next => cases h

theorem walkWith_again (hput : FilePut old new names content executable)
    {follow follow' : Path → List Bytes → List Bytes → Except IoFailure Place}
    (hfollow : ∀ {target upward rest place}, follow target upward rest = .ok place →
      place.names = names →
      follow' target upward rest = .ok (.found names (.file content executable))) :
    ∀ {components upward place},
      walkWith old .output follow upward components = .ok place → place.names = names →
        walkWith new .target follow' upward components
          = .ok (.found names (.file content executable)) := by
  -- On the components left; double dots lead back, so the names passed are any.
  intro components
  induction components with
  | nil =>
      intro upward place h hnames
      rw [walkWith] at h
      split at h
      next => cases h
      next node hnode =>
        cases h
        obtain rfl : upward.reverse = names := hnames
        rw [walkWith, hput.here]
  | cons name rest ih =>
      intro upward place h hnames
      rw [walkWith] at h
      split at h
      next => cases h
      next hstep =>
        rw [walkWith, step_again hput hstep nofun]
        exact ih h hnames
      next hstep =>
        rw [walkWith, step_again hput hstep nofun]
        exact hfollow h hnames
      next hstep =>
        cases h
        -- The first walk ends here; the second one enters the file and has nothing left.
        obtain rfl := eq_nil_of_step hstep
        rw [walkWith, step_again hput hstep fun place heq => by cases heq; exact hnames, Step.again,
          hnames]
        simp only [walkWith, List.reverse_reverse, hput.here]

theorem walk_again (hput : FilePut old new names content executable) :
    ∀ {links upward components place},
      walk old .output links upward components = .ok place → place.names = names →
        walk new .target links upward components
          = .ok (.found names (.file content executable)) := by
  intro links
  induction links with
  | zero => exact fun h hnames => walkWith_again hput (fun h => by cases h) h hnames
  | succ links ih =>
      refine fun h hnames => walkWith_again hput (fun {target upward rest place} h hnames => ?_) h
        hnames
      split at h
      next => cases h
      next hne => exact (if_neg hne).trans (ih h hnames)

end Again

section Locate

variable {files : Files} {p : Path} {place : Place}

theorem lies_locate {lookup : Lookup} (h : files.locate lookup p = .ok place) :
    place.Lies files.root := by
  unfold locate at h
  split_ifs at h <;> exact lies_walk h

theorem locate_again {new : Node} {content : Bytes} {executable : Bool}
    (hput : FilePut files.root new place.names content executable)
    (h : files.locate .output p = .ok place) :
    Files.locate { files with root := new } .target p
      = .ok (.found place.names (.file content executable)) := by
  unfold locate at h ⊢
  split_ifs at h ⊢ <;> exact walk_again hput h rfl

/-- A file that was put where a path leads is read under that path. -/
theorem read_put {content : Bytes} {executable : Bool}
    (h : files.locate .output p = .ok place)
    (hput : FilePut files.root (Node.set (.file content executable) place.names files.root)
      place.names content executable) :
    (files.put place.names (.file content executable)).read p = .ok content := by
  have hplace : (files.put place.names (.file content executable)).locate .target p = _ :=
    locate_again hput h
  rw [read, status, hplace]

end Locate

/-- What was written is read. -/
theorem read_of_write {files files' : Files} {p : Path} {content : Bytes}
    (h : files.write p content = .ok files') : files'.read p = .ok content := by
  unfold write at h
  split at h
  next => cases h
  next => cases h
  next names c x hplace =>
    cases h
    exact read_put hplace (filePut_of_file (lies_locate hplace) content x)
  next => cases h
  next names hplace =>
    cases h
    obtain ⟨above, name, entries, rfl, hentries, hnone⟩ := lies_locate hplace
    exact read_put hplace (filePut_set hentries (.inl hnone) content false)

end Files

end LookupBench
