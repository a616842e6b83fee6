import LookupBench.Config.Options
import LookupBench.Proofs.Text.Blank
import Mathlib.Data.List.Induction
import Mathlib.Data.List.Nodup

/-!
# Servers on a command line

Entries on a command line give commands to servers by name. A server that is there keeps its place
and its settings, a new one goes behind all others. So however often a name is given, the servers are
those from before with the new names behind them, each once and in order of first appearance, and the
command of each is that of the last entry that names it.
-/

namespace LookupBench

section Steps

variable {ε α β : Type} {x : Except ε α} {f g : α → Except ε β}

theorem exists_of_bind_eq_ok {b : β} (h : x >>= f = .ok b) : ∃ a, x = .ok a ∧ f a = .ok b := by
  cases x with
  | error e => cases h
  | ok a => exact ⟨a, rfl, h⟩

theorem exists_of_bind_eq_error {e : ε} (h : x >>= f = .error e) :
    x = .error e ∨ ∃ a, x = .ok a ∧ f a = .error e := by
  cases x with
  | error e' =>
      cases h
      exact .inl rfl
  | ok a => exact .inr ⟨a, rfl, h⟩

theorem bind_congr_ok (h : ∀ a, x = .ok a → f a = g a) : x >>= f = x >>= g := by
  cases x with
  | error e => rfl
  | ok a => exact h a rfl

theorem exists_of_toOption_map {k : α → β} {b : β} (h : x.toOption.map k = some b) :
    ∃ a, x = .ok a ∧ k a = b := by
  cases x with
  | error e => cases h
  | ok a => exact ⟨a, rfl, Option.some.inj h⟩

end Steps

namespace Config

/-! ### Entries -/

/-- The name in an entry, and the command line behind its first equals sign. -/
def entryParts? (entry : String) : Option (String × String) :=
  (splitOnce '=' entry.toList).map fun (name, line) =>
    (String.ofList (trim name), String.ofList line)

/-- The entries that have an equals sign, in order. -/
def entriesOf (commands : List String) : List (String × String) := commands.filterMap entryParts?

/-- The command line of the last entry with a name. -/
def lastLine? (name : String) (entries : List (String × String)) : Option String :=
  (entries.findRev? fun e => e.1 = name).map (·.2)

theorem entryParts?_eq_some_iff {entry name line : String} :
    entryParts? entry = some (name, line) ↔ ∃ front, '=' ∉ front ∧
      entry.toList = front ++ '=' :: line.toList ∧ name = String.ofList (trim front) := by
  rw [entryParts?, Option.map_eq_some_iff]
  constructor
  · rintro ⟨⟨front, behind⟩, hsplit, heq⟩
    cases heq
    obtain ⟨heq, hnot⟩ := splitOnce_eq_some_iff.1 hsplit
    exact ⟨front, hnot, by rw [heq, String.toList_ofList], rfl⟩
  · rintro ⟨front, hnot, heq, rfl⟩
    exact ⟨(front, line.toList), splitOnce_eq_some_iff.2 ⟨heq, hnot⟩,
      congrArg (Prod.mk _) String.ofList_toList⟩

theorem serverOfEntry_eq_ok_iff {entry : String} {s : Server} :
    serverOfEntry entry = .ok s ↔ ∃ line, entryParts? entry = some (s.name, line) ∧
      shellWords? line = some (s.command :: s.arguments) ∧ s.settings = none := by
  unfold serverOfEntry entryParts?
  cases splitOnce '=' entry.toList with
  | none => simp
  | some parts =>
      obtain ⟨before, behind⟩ := parts
      simp only [Option.map_some, Option.some.injEq, Prod.mk.injEq, Server.ofCommandLine]
      constructor
      · intro h
        split at h
        · cases h
        · cases h
        next command arguments hwords =>
          cases h
          exact ⟨_, ⟨rfl, rfl⟩, hwords, rfl⟩
      · rintro ⟨line, ⟨hname, rfl⟩, hwords, hsettings⟩
        rw [hwords, hname, ← hsettings]
        rfl

/-! ### One server -/

def serverNamed? (name : String) (servers : List Server) : Option Server :=
  servers.find? fun s => s.name = name

theorem name_of_serverNamed? {name : String} {servers : List Server} {s : Server}
    (h : serverNamed? name servers = some s) : s.name = name := by
  simpa using List.find?_some h

theorem serverNamed?_eq_none_iff {name : String} {servers : List Server} :
    serverNamed? name servers = none ↔ name ∉ servers.map (·.name) := by
  simp [serverNamed?]

theorem serverNamed?_of_mem {servers : List Server} {s : Server}
    (hnodup : (servers.map (·.name)).Nodup) (hs : s ∈ servers) :
    serverNamed? s.name servers = some s := by
  cases hfind : serverNamed? s.name servers with
  | none => exact absurd (List.mem_map_of_mem hs) (serverNamed?_eq_none_iff.1 hfind)
  | some t =>
      have ht : t ∈ servers := List.mem_of_find?_eq_some hfind
      exact congrArg some (List.inj_on_of_nodup_map hnodup ht hs (name_of_serverNamed? hfind))

theorem serverNamed?_filter (p : String → Bool) (name : String) (servers : List Server) :
    serverNamed? name (servers.filter fun s => p s.name) =
      if p name then serverNamed? name servers else none := by
  unfold serverNamed?
  rw [List.find?_filter]
  by_cases hp : p name = true
  · rw [if_pos hp]
    congr 1
    funext s
    by_cases hname : s.name = name <;> simp [hname, hp]
  · rw [if_neg hp, List.find?_eq_none]
    rintro s - h
    simp only [decide_eq_true_eq] at h
    exact hp (h.2 ▸ h.1)

theorem names_putServer (s : Server) (servers : List Server) :
    (putServer s servers).map (·.name) =
      servers.map (·.name) ++ if s.name ∈ servers.map (·.name) then [] else [s.name] := by
  induction servers with
  | nil => simp [putServer]
  | cons t rest ih =>
      rw [putServer]
      by_cases hname : t.name = s.name
      · simp [hname]
      · rw [if_neg hname, List.map_cons, ih, List.map_cons, List.cons_append]
        simp [Ne.symm hname]

/-- A server is found with the new command and the settings from before, and all others as they
were. -/
theorem serverNamed?_putServer (s : Server) (servers : List Server) (name : String) :
    serverNamed? name (putServer s servers) =
      if s.name = name then
        some ((serverNamed? name servers).elim s fun t =>
          { t with command := s.command, arguments := s.arguments })
      else serverNamed? name servers := by
  unfold serverNamed?
  induction servers with
  | nil => by_cases hname : s.name = name <;> simp [putServer, hname]
  | cons t rest ih =>
      rw [putServer]
      by_cases hsame : t.name = s.name
      · by_cases hname : s.name = name <;> simp [hsame, hname]
      · rw [if_neg hsame, List.find?_cons, ih, List.find?_cons]
        by_cases hname : t.name = name
        · have hother : s.name ≠ name := fun h => hsame (hname.trans h.symm)
          simp [hname, hother]
        · simp [hname]

/-- A server that an entry describes has no settings of its own, so those from before stay. -/
theorem eq_of_serverNamed?_putServer {s t : Server} {servers : List Server}
    (hnone : s.settings = none) (h : serverNamed? s.name (putServer s servers) = some t) :
    t.command = s.command ∧ t.arguments = s.arguments ∧
      t.settings = (serverNamed? s.name servers).bind (·.settings) := by
  rw [serverNamed?_putServer, if_pos rfl, Option.some.injEq] at h
  subst h
  cases serverNamed? s.name servers with
  | none => exact ⟨rfl, rfl, hnone⟩
  | some old => exact ⟨rfl, rfl, rfl⟩

/-! ### All servers -/

/-- Names that are not there yet, each where it first appears. -/
def newNames (names added : List String) : List String :=
  added.eraseDups.filter fun name => name ∉ names

theorem newNames_concat (names added : List String) (name : String) :
    newNames names (added ++ [name]) =
      newNames names added ++ if name ∈ names ∨ name ∈ added then [] else [name] := by
  unfold newNames
  rw [List.eraseDups_append, List.filter_append]
  congr 1
  by_cases hadded : name ∈ added
  · simp [List.removeAll, hadded]
  · by_cases hnames : name ∈ names <;>
      simp [List.removeAll, List.eraseDups_cons, hadded, hnames]

theorem mem_append_newNames {names added : List String} {name : String} :
    name ∈ names ++ newNames names added ↔ name ∈ names ∨ name ∈ added := by
  simp only [newNames, List.mem_append, List.mem_filter, List.mem_eraseDups, decide_eq_true_eq]
  tauto

/-- The command of a server is that of the last entry that names it, or the one from before. Its
settings are those from before. -/
structure Described (entries : List (String × String)) (before : List Server) (s : Server) :
    Prop where
  command : match lastLine? s.name entries with
    | some line => shellWords? line = some (s.command :: s.arguments)
    | none => ∃ t, serverNamed? s.name before = some t ∧ s.command = t.command ∧
        s.arguments = t.arguments
  settings : s.settings = (serverNamed? s.name before).bind (·.settings)

/-- What entries make of servers. -/
structure Puts (commands : List String) (before after : List Server) : Prop where
  parts : ∀ entry ∈ commands, ∃ front line command arguments, '=' ∉ front ∧
    entry.toList = front ++ '=' :: line.toList ∧ shellWords? line = some (command :: arguments)
  names : after.map (·.name) = before.map (·.name)
    ++ newNames (before.map (·.name)) ((entriesOf commands).map Prod.fst)
  described : ∀ {name s}, serverNamed? name after = some s →
    Described (entriesOf commands) before s

theorem Described.of_serverNamed? {before : List Server} {name : String} {s : Server}
    (h : serverNamed? name before = some s) : Described [] before s := by
  obtain rfl := name_of_serverNamed? h
  refine ⟨⟨s, h, rfl, rfl⟩, ?_⟩
  rw [h, Option.bind_some]

theorem Puts.nil (before : List Server) : Puts [] before before where
  parts := by simp
  names := by simp [entriesOf, newNames]
  described := Described.of_serverNamed?

theorem entriesOf_concat (commands : List String) {entry : String} {part : String × String}
    (h : entryParts? entry = some part) :
    entriesOf (commands ++ [entry]) = entriesOf commands ++ [part] := by
  rw [entriesOf, List.filterMap_append, List.filterMap_cons_some h]
  rfl

theorem lastLine?_concat (entries : List (String × String)) (name name' line : String) :
    lastLine? name (entries ++ [(name', line)]) =
      if name' = name then some line else lastLine? name entries := by
  by_cases hname : name' = name <;> simp [lastLine?, List.findRev?_eq_find?_reverse, hname]

theorem Puts.settings_eq {commands : List String} {before after : List Server}
    (h : Puts commands before after) (name : String) :
    (serverNamed? name after).bind (·.settings) = (serverNamed? name before).bind (·.settings) := by
  cases hafter : serverNamed? name after with
  | none =>
      have hnew : name ∉ before.map (·.name) := by
        rw [serverNamed?_eq_none_iff, h.names, List.mem_append, not_or] at hafter
        exact hafter.1
      rw [serverNamed?_eq_none_iff.2 hnew]
  | some s =>
      have hsettings := (h.described hafter).settings
      rwa [name_of_serverNamed? hafter] at hsettings

/-- One more entry. -/
theorem Puts.concat {commands : List String} {before after : List Server} {entry : String}
    {s : Server} (h : Puts commands before after) (hentry : serverOfEntry entry = .ok s) :
    Puts (commands ++ [entry]) before (putServer s after) := by
  obtain ⟨line, hparts, hwords, hnone⟩ := serverOfEntry_eq_ok_iff.1 hentry
  have hentries := entriesOf_concat commands hparts
  refine ⟨fun e he => ?_, ?_, fun {name t} ht => ?_⟩
  · rcases List.mem_append.1 he with he | he
    · exact h.parts e he
    · obtain rfl := List.mem_singleton.1 he
      obtain ⟨front, hfront, heq, -⟩ := entryParts?_eq_some_iff.1 hparts
      exact ⟨front, line, _, _, hfront, heq, hwords⟩
  · have hmem : s.name ∈ after.map (·.name) ↔
        s.name ∈ before.map (·.name) ∨ s.name ∈ (entriesOf commands).map Prod.fst := by
      rw [h.names, mem_append_newNames]
    rw [names_putServer, hentries, List.map_append, List.map_singleton, newNames_concat,
      ← List.append_assoc, ← h.names]
    simp only [hmem]
  · obtain rfl := name_of_serverNamed? ht
    rw [hentries]
    by_cases hname : s.name = t.name
    · rw [← hname] at ht
      obtain ⟨hcommand, harguments, hsettings⟩ := eq_of_serverNamed?_putServer hnone ht
      refine ⟨?_, ?_⟩
      · rw [lastLine?_concat, if_pos hname, hcommand, harguments]
        exact hwords
      · rw [hsettings, h.settings_eq, hname]
    · rw [serverNamed?_putServer, if_neg hname] at ht
      obtain ⟨hcommand, hsettings⟩ := h.described ht
      exact ⟨by rwa [lastLine?_concat, if_neg hname], hsettings⟩

theorem putServers_concat {servers after : List Server} {commands : List String} {entry : String}
    (h : putServers servers (commands ++ [entry]) = .ok after) :
    ∃ middle s, putServers servers commands = .ok middle ∧ serverOfEntry entry = .ok s ∧
      after = putServer s middle := by
  unfold putServers at h ⊢
  rw [List.foldlM_append] at h
  obtain ⟨middle, hmiddle, h⟩ := exists_of_bind_eq_ok h
  rw [List.foldlM_cons] at h
  obtain ⟨_, hput, h⟩ := exists_of_bind_eq_ok h
  obtain ⟨s, hentry, hput⟩ := exists_of_bind_eq_ok hput
  cases hput
  cases h
  exact ⟨middle, s, hmiddle, hentry, rfl⟩

theorem puts_of_putServers {commands : List String} {before after : List Server}
    (h : putServers before commands = .ok after) : Puts commands before after := by
  induction commands using List.reverseRecOn generalizing after with
  | nil =>
      cases h
      exact .nil before
  | append_singleton commands entry ih =>
      obtain ⟨middle, s, hmiddle, hentry, rfl⟩ := putServers_concat h
      exact (ih hmiddle).concat hentry

/-! ### A choice of servers -/

/-- Whether a server is to be kept. -/
def isChosen (names : List String) (name : String) : Bool :=
  names.isEmpty || (!name.isEmpty && names.any fun raw => trimText raw = name)

theorem mem_wanted {names : List String} {name : String} :
    name ∈ wanted names ↔ name ≠ "" ∧ ∃ raw ∈ names, trimText raw = name := by
  simp only [wanted, List.mem_filter, List.mem_map, Bool.not_eq_true', and_comm,
    String.isEmpty_eq_false_iff, ne_eq]

theorem isChosen_eq_contains {names : List String} (h : names ≠ []) (name : String) :
    isChosen names name = (wanted names).contains name := by
  rw [Bool.eq_iff_iff, List.contains_iff_mem, mem_wanted]
  simp [isChosen, h]

theorem keepServers_eq_ok_iff {names : List String} {servers kept : List Server} :
    keepServers names servers = .ok kept ↔
      (∀ name ∈ wanted names, name ∈ servers.map (·.name)) ∧
        kept = servers.filter fun s => isChosen names s.name := by
  unfold keepServers
  by_cases hnames : names = []
  · subst hnames
    simp [wanted, isChosen, eq_comm]
  · have hpresent : ((wanted names).find? fun name => servers.all fun s => s.name ≠ name) = none ↔
        ∀ name ∈ wanted names, name ∈ servers.map (·.name) := by
      simp
    rw [if_neg (List.isEmpty_iff.not.2 hnames), ← hpresent]
    simp only [isChosen_eq_contains hnames]
    cases hfind : (wanted names).find? fun name => servers.all fun s => s.name ≠ name with
    | some name => simp
    | none => simp [eq_comm]

end Config

end LookupBench
