import LookupBench.Proofs.Config.Check
import LookupBench.Proofs.Config.Servers

/-!
# Configurations from a command line

What a configuration owes to the options and what to the file. The names of servers that are not to
index go two ways: one that an option gives is checked, one that only the file gives is left out
unless a server has it, whether or not the options make a choice of servers.
-/

namespace LookupBench

/-- A fault in what is configured, and not a file that cannot be read. -/
def OptionsFailure.IsFault : OptionsFailure → Prop
  | .config failure => ∃ fault, failure = .invalid fault
  | .noEquals _ | .unknownServer _ | .badSettings _ => True

theorem OptionsFailure.IsFault.message_eq {failure : OptionsFailure} (h : failure.IsFault) :
    ∃ detail, failure.message = "config error: " ++ detail := by
  cases failure with
  | config failure =>
      obtain ⟨fault, rfl⟩ := h
      exact ⟨_, rfl⟩
  | noEquals entry =>
      refine ⟨"--cmd expects NAME=COMMAND, got " ++ quoted entry, ?_⟩
      rw [← String.append_assoc]
      rfl
  | unknownServer name =>
      refine ⟨"no command configured for server " ++ quoted name ++ " (use --cmd " ++ name
        ++ "=...)", ?_⟩
      simp only [← String.append_assoc]
      rfl
  | badSettings cause =>
      refine ⟨"--settings-json must be valid JSON: " ++ cause.message, ?_⟩
      rw [← String.append_assoc]
      rfl

namespace Config

/-- The configuration that options start from: that of the file, or the defaults. -/
def Starts (files : Files) (options : Options) (file : Config) : Prop :=
  match options.config with
  | some path => load files path = .ok file
  | none => file = .new (Path.ofString ".") []

/-- A configuration that passes its check. -/
def checked (files : Files) (config : Config) : Except OptionsFailure Config := do
  (config.check files).mapError fun fault => .config (.invalid fault)
  return config

theorem ofOptions_of_starts {files : Files} {options : Options} {file : Config}
    (h : Starts files options file) :
    ofOptions files options = override options file >>= checked files := by
  unfold Starts at h
  unfold ofOptions
  cases hpath : options.config with
  | none =>
      rw [hpath] at h
      subst h
      rfl
  | some path =>
      rw [hpath] at h
      simp only [h]
      rfl

theorem exists_starts_of_ofOptions {files : Files} {options : Options} {config : Config}
    (h : ofOptions files options = .ok config) : ∃ file, Starts files options file := by
  unfold Starts
  unfold ofOptions at h
  cases hpath : options.config with
  | none => exact ⟨_, rfl⟩
  | some path =>
      simp only [hpath] at h
      obtain ⟨file, hload, -⟩ := exists_of_bind_eq_ok h
      cases hfile : load files path with
      | error cause =>
          rw [hfile] at hload
          cases hload
      | ok file => exact ⟨file, hfile⟩

theorem checked_eq_ok_iff {files : Files} {config config' : Config} :
    checked files config = .ok config' ↔ config' = config ∧ config.check files = .ok () := by
  unfold checked
  cases config.check files with
  | error fault => simp [bind, Except.bind, Except.mapError]
  | ok u => simp [bind, Except.bind, Except.mapError, pure, Except.pure, eq_comm]

/-! ### What the options override -/

def settingsWith (options : Options) (file : Config) : Except OptionsFailure (Option Json) :=
  match options.settings with
  | some text => (readSettings text).map some
  | none => .ok file.settings

/-- What options make of a file, given the servers and the settings. -/
def mergedWith (options : Options) (file : Config) (servers : List Server)
    (settings : Option Json) : Config where
  root := options.root.getD file.root
  servers := servers
  runs := options.runs.getD file.runs
  timeout := options.timeout.getD file.timeout
  startTimeout := options.startTimeout.getD file.startTimeout
  stopTimeout := file.stopTimeout
  settings := settings
  withoutIndexing := indexingWith { file with servers } options.withoutIndexing
  seed := options.seed.or file.seed
  output := options.output.or file.output
  trace := file.trace || options.trace
  warmup := options.warmup.getD file.warmup
  language := file.language

theorem override_eq (options : Options) (file : Config) :
    override options file = (do
      let put ← putServers file.servers options.commands
      let kept ← keepServers options.servers put
      let settings ← settingsWith options file
      return mergedWith options file kept settings) := by
  unfold override settingsWith
  cases options.settings <;> rfl

theorem settingsWith_eq_ok_iff {options : Options} {file : Config} {settings : Option Json} :
    settingsWith options file = .ok settings ↔ match options.settings with
      | some text => ∃ v, readSettings text = .ok v ∧ settings = some v
      | none => settings = file.settings := by
  unfold settingsWith
  cases options.settings with
  | none => simp [eq_comm]
  | some text => cases hread : readSettings text <;> simp [hread, Except.map, eq_comm]

/-! ### Servers that are not to index -/

theorem addNames_eq (names added : List String) :
    addNames names added = names ++ newNames names added := by
  induction added using List.reverseRecOn with
  | nil => simp [addNames, newNames]
  | append_singleton added name ih =>
      have hstep : addNames names (added ++ [name]) = if (addNames names added).contains name
          then addNames names added else addNames names added ++ [name] := by
        simp [addNames]
      rw [hstep, newNames_concat, ← List.append_assoc, ← ih]
      have hmem : name ∈ addNames names added ↔ name ∈ names ∨ name ∈ added := by
        rw [ih, mem_append_newNames]
      by_cases hname : name ∈ names ∨ name ∈ added <;> simp [hname, hmem]

theorem mem_indexingWith {config : Config} {added : List String} {name : String} :
    name ∈ config.indexingWith added ↔
      name ∈ added ∨ name ∈ config.withoutIndexing ∧ name ∈ config.serverNames := by
  rw [indexingWith, List.mem_filter, addNames_eq, mem_append_newNames]
  simp only [Bool.or_eq_true, List.contains_iff_mem]
  tauto

/-- A name that no server has and no option gives makes no difference. -/
theorem indexingWith_filter_ne (config : Config) {added : List String} {name : String}
    (hservers : name ∉ config.serverNames) (hadded : name ∉ added) :
    indexingWith { config with withoutIndexing := config.withoutIndexing.filter (· ≠ name) } added =
      config.indexingWith added := by
  have hnew : newNames (config.withoutIndexing.filter (· ≠ name)) added =
      newNames config.withoutIndexing added := by
    refine List.filter_congr fun other hother => ?_
    have hne : other ≠ name := fun h => hadded (h ▸ List.mem_eraseDups.1 hother)
    simp [hne]
  unfold indexingWith
  rw [addNames_eq, addNames_eq, hnew, List.filter_append, List.filter_append, List.filter_filter]
  congr 1
  refine List.filter_congr fun other _ => ?_
  by_cases hname : other = name
  · subst hname
    simp [hservers, hadded]
  · simp [hname, serverNames]

/-! ### The whole -/

/-- What the options and the file each have a say in. -/
structure Merges (options : Options) (file config : Config) : Prop where
  nodup : config.serverNames.Nodup
  serverNames : config.serverNames = (file.serverNames
    ++ newNames file.serverNames ((entriesOf options.commands).map Prod.fst)).filter
      (isChosen options.servers)
  /-- No entry is passed over, and no choice of a server. -/
  entries : ∀ entry ∈ options.commands, ∃ front line command arguments, '=' ∉ front ∧
    entry.toList = front ++ '=' :: line.toList ∧ shellWords? line = some (command :: arguments)
  choices : ∀ raw ∈ options.servers, trimText raw ≠ "" → trimText raw ∈ config.serverNames
  servers : ∀ s ∈ config.servers, Described (entriesOf options.commands) file.servers s
  root : config.root = options.root.getD file.root
  runs : config.runs = options.runs.getD file.runs
  timeout : config.timeout = options.timeout.getD file.timeout
  startTimeout : config.startTimeout = options.startTimeout.getD file.startTimeout
  stopTimeout : config.stopTimeout = file.stopTimeout
  settings : match options.settings with
    | some text => ∃ v, readSettings text = .ok v ∧ config.settings = some v
    | none => config.settings = file.settings
  seed : config.seed = options.seed.or file.seed
  output : config.output = options.output.or file.output
  warmup : config.warmup = options.warmup.getD file.warmup
  trace : config.trace = (file.trace || options.trace)
  language : config.language = file.language
  /-- The names that the options give, and those of the file that are kept. -/
  withoutIndexing : ∀ name, name ∈ config.withoutIndexing ↔
    name ∈ options.withoutIndexing ∨ name ∈ file.withoutIndexing ∧ name ∈ config.serverNames
  indexing_known : ∀ name ∈ config.withoutIndexing, name ∈ config.serverNames

theorem merges_of_override {files : Files} {options : Options} {file config : Config}
    (h : override options file = .ok config) (hcheck : config.check files = .ok ()) :
    Merges options file config := by
  rw [override_eq] at h
  obtain ⟨put, hput, h⟩ := exists_of_bind_eq_ok h
  obtain ⟨kept, hkeep, h⟩ := exists_of_bind_eq_ok h
  obtain ⟨settings, hsettings, h⟩ := exists_of_bind_eq_ok h
  cases h
  have hputs := puts_of_putServers hput
  obtain ⟨hpresent, hkept⟩ := keepServers_eq_ok_iff.1 hkeep
  have hnames : kept.map (·.name) = (put.map (·.name)).filter (isChosen options.servers) := by
    rw [hkept, List.filter_map]
    rfl
  have hnodup := nodup_serverNames hcheck
  have hnamed : ∀ s ∈ kept, serverNamed? s.name put = some s := by
    intro s hs
    have hfind := serverNamed?_of_mem hnodup hs
    have hchosen : isChosen options.servers s.name = true := by
      rw [hkept] at hs
      exact (List.mem_filter.1 hs).2
    rwa [mergedWith, hkept, serverNamed?_filter, if_pos hchosen] at hfind
  exact {
    nodup := hnodup
    serverNames := hnames.trans (congrArg _ hputs.names)
    entries := hputs.parts
    choices := fun raw hraw hsome => by
      have hwanted := mem_wanted.2 ⟨hsome, raw, hraw, rfl⟩
      show _ ∈ kept.map (·.name)
      rw [hnames, List.mem_filter]
      refine ⟨hpresent _ hwanted, ?_⟩
      rw [isChosen_eq_contains (List.ne_nil_of_mem hraw)]
      simpa using hwanted
    servers := fun s hs => hputs.described (hnamed s hs)
    root := rfl
    runs := rfl
    timeout := rfl
    startTimeout := rfl
    stopTimeout := rfl
    settings := settingsWith_eq_ok_iff.1 hsettings
    seed := rfl
    output := rfl
    warmup := rfl
    trace := rfl
    language := rfl
    withoutIndexing := fun name => mem_indexingWith
    indexing_known := fun name => mem_serverNames_of_check hcheck }

theorem merges_of_starts {files : Files} {options : Options} {file config : Config}
    (hstart : Starts files options file) (h : ofOptions files options = .ok config) :
    Merges options file config := by
  rw [ofOptions_of_starts hstart] at h
  obtain ⟨config', hoverride, h⟩ := exists_of_bind_eq_ok h
  obtain ⟨rfl, hcheck⟩ := checked_eq_ok_iff.1 h
  exact merges_of_override hoverride hcheck

theorem merges_of_ofOptions {files : Files} {options : Options} {config : Config}
    (h : ofOptions files options = .ok config) :
    ∃ file, Starts files options file ∧ Merges options file config := by
  obtain ⟨file, hstart⟩ := exists_starts_of_ofOptions h
  exact ⟨file, hstart, merges_of_starts hstart h⟩

def overlappingFiles : Files where
  root := .directory [(Path.ofString "bench.yaml", .file (Utf8.encode ("root: .\n"
    ++ "servers: [{name: pyright, cmd: p}, {name: ty, cmd: t}]\n"
    ++ "disable_indexing: [ty, pyright]\n")) false)]
  current := []

/-- Some names more than once, some with blanks around them, and one in other words each time. -/
def overlappingOptions : Options where
  config := some (Path.ofString "/bench.yaml")
  servers := [" ruff", "pyright", "ruff ", ""]
  commands := ["ruff=ruff server", "pyright=py 'two words'", "ruff = ruff-lsp"]
  runs := some 5
  withoutIndexing := ["ruff"]

theorem merges_of_ofOptions_overlapping :
    ∃ config, ofOptions overlappingFiles overlappingOptions = .ok config ∧
      (config.runs, config.withoutIndexing, config.servers.map fun s =>
        (s.name, s.command, s.arguments)) = (5, ["pyright", "ruff"],
          [("pyright", "py", ["two words"]), ("ruff", "ruff-lsp", [])]) ∧
      ∃ file, Starts overlappingFiles overlappingOptions file ∧
        Merges overlappingOptions file config := by
  have heval : (ofOptions overlappingFiles overlappingOptions).toOption.map (fun config =>
      (config.runs, config.withoutIndexing, config.servers.map fun s =>
        (s.name, s.command, s.arguments))) = some (5, ["pyright", "ruff"],
          [("pyright", "py", ["two words"]), ("ruff", "ruff-lsp", [])]) := by
    decide +kernel
  obtain ⟨config, hok, hvalues⟩ := exists_of_toOption_map heval
  exact ⟨config, hok, hvalues, merges_of_ofOptions hok⟩

/-! ### A name of no server -/

theorem isFault_of_serverOfEntry {entry : String} {failure : OptionsFailure}
    (h : serverOfEntry entry = .error failure) : failure.IsFault := by
  unfold serverOfEntry at h
  split at h
  · cases h
    trivial
  next name line _ =>
    cases hserver : Server.ofCommandLine (String.ofList (trim name)) (String.ofList line) with
    | error fault =>
        rw [hserver] at h
        cases h
        exact ⟨fault, rfl⟩
    | ok s =>
        rw [hserver] at h
        cases h

theorem isFault_of_putServers {servers : List Server} {commands : List String}
    {failure : OptionsFailure} (h : putServers servers commands = .error failure) :
    failure.IsFault := by
  unfold putServers at h
  induction commands generalizing servers with
  | nil => cases h
  | cons entry rest ih =>
      rw [List.foldlM_cons] at h
      rcases exists_of_bind_eq_error h with hentry | ⟨after, -, hrest⟩
      · rcases exists_of_bind_eq_error hentry with hentry | ⟨s, -, hput⟩
        · exact isFault_of_serverOfEntry hentry
        · cases hput
      · exact ih hrest

theorem isFault_of_keepServers {names : List String} {servers : List Server}
    {failure : OptionsFailure} (h : keepServers names servers = .error failure) :
    failure.IsFault := by
  unfold keepServers at h
  split at h
  · cases h
  · split at h
    · cases h
      trivial
    · cases h

theorem isFault_of_settingsWith {options : Options} {file : Config} {failure : OptionsFailure}
    (h : settingsWith options file = .error failure) : failure.IsFault := by
  unfold settingsWith readSettings at h
  split at h
  next text _ =>
    cases hread : Json.read .any (Utf8.encode text) with
    | error cause =>
        rw [hread] at h
        cases h
        trivial
    | ok v =>
        rw [hread] at h
        cases h
  · cases h

theorem isFault_of_override {options : Options} {file : Config} {failure : OptionsFailure}
    (h : override options file = .error failure) : failure.IsFault := by
  rw [override_eq] at h
  rcases exists_of_bind_eq_error h with hput | ⟨put, -, h⟩
  · exact isFault_of_putServers hput
  rcases exists_of_bind_eq_error h with hkeep | ⟨kept, -, h⟩
  · exact isFault_of_keepServers hkeep
  rcases exists_of_bind_eq_error h with hsettings | ⟨settings, -, h⟩
  · exact isFault_of_settingsWith hsettings
  · cases h

/-- Behind a file that can be read, whatever goes wrong is a fault in what is configured. -/
theorem isFault_of_ofOptions {files : Files} {options : Options} {file : Config}
    {failure : OptionsFailure} (hstart : Starts files options file)
    (h : ofOptions files options = .error failure) : failure.IsFault := by
  rw [ofOptions_of_starts hstart] at h
  rcases exists_of_bind_eq_error h with hoverride | ⟨config, -, hchecked⟩
  · exact isFault_of_override hoverride
  rcases exists_of_bind_eq_error hchecked with hcheck | ⟨_, -, h⟩
  · cases hfault : config.check files with
    | error fault =>
        rw [hfault] at hcheck
        cases hcheck
        exact ⟨fault, rfl⟩
    | ok u =>
        rw [hfault] at hcheck
        cases hcheck
  · cases h

/-- A name that no option gives and no server has makes no difference in a file. -/
theorem override_filter_ne {options : Options} {file : Config} {name : String}
    (hfile : name ∉ file.serverNames) (hentries : name ∉ (entriesOf options.commands).map Prod.fst)
    (hoptions : name ∉ options.withoutIndexing) :
    override options { file with withoutIndexing := file.withoutIndexing.filter (· ≠ name) } =
      override options file := by
  rw [override_eq, override_eq]
  refine bind_congr_ok fun put hput => bind_congr_ok fun kept hkeep =>
    bind_congr_ok fun settings _ => ?_
  have hkept : name ∉ kept.map (·.name) := by
    obtain ⟨-, rfl⟩ := keepServers_eq_ok_iff.1 hkeep
    intro hmem
    have hnames := (List.filter_sublist.map _).subset hmem
    rw [(puts_of_putServers hput).names, mem_append_newNames] at hnames
    exact hnames.elim hfile hentries
  exact congrArg (fun withoutIndexing => (pure
    { mergedWith options file kept settings with withoutIndexing } : Except OptionsFailure Config))
      (indexingWith_filter_ne { file with servers := kept } hkept hoptions)

/-- A name that only the file gives, and that no server has. The list of the file does not pass the
check. An option that gives the name as well gets it refused, but without one the options make what
they make of the file without the name. -/
theorem unknown_indexing {files : Files} {options : Options} {file : Config} {name : String}
    (hstart : Starts files options file) (hlisted : name ∈ file.withoutIndexing)
    (hfile : name ∉ file.serverNames)
    (hentries : name ∉ (entriesOf options.commands).map Prod.fst) :
    (∃ fault, file.check files = .error fault) ∧
      (name ∈ options.withoutIndexing → ∃ failure detail,
        ofOptions files options = .error failure ∧
          failure.message = "config error: " ++ detail) ∧
      (name ∉ options.withoutIndexing → ofOptions files options =
        override options { file with withoutIndexing := file.withoutIndexing.filter (· ≠ name) }
          >>= checked files) ∧
      ∀ config, ofOptions files options = .ok config → name ∉ config.withoutIndexing := by
  have hnone : ∀ config, ofOptions files options = .ok config → name ∉ config.withoutIndexing := by
    intro config h hmem
    have hmerges := merges_of_starts hstart h
    have hname := hmerges.indexing_known name hmem
    rw [hmerges.serverNames, List.mem_filter, mem_append_newNames] at hname
    exact hname.1.elim hfile hentries
  refine ⟨?_, fun hoptions => ?_, fun hoptions => ?_, hnone⟩
  · cases hcheck : file.check files with
    | error fault => exact ⟨fault, rfl⟩
    | ok _ => exact absurd (mem_serverNames_of_check hcheck hlisted) hfile
  · cases h : ofOptions files options with
    | error failure =>
        obtain ⟨detail, hdetail⟩ := (isFault_of_ofOptions hstart h).message_eq
        exact ⟨failure, detail, rfl, hdetail⟩
    | ok config =>
        have hlisted := ((merges_of_starts hstart h).withoutIndexing name).2 (.inl hoptions)
        exact absurd hlisted (hnone config h)
  · rw [override_filter_ne hfile hentries hoptions]
    exact ofOptions_of_starts hstart

def misspeltFiles : Files where
  root := .directory [(Path.ofString "bench.yaml", .file (Utf8.encode ("root: .\n"
    ++ "servers: [{name: pyright, cmd: p}]\ndisable_indexing: [pyrite]\n")) false)]
  current := []

def misspeltOptions : Options where
  config := some (Path.ofString "/bench.yaml")

theorem exists_starts_misspelt : ∃ file, Starts misspeltFiles misspeltOptions file ∧
    file.withoutIndexing = ["pyrite"] ∧ file.serverNames = ["pyright"] := by
  have heval : (load misspeltFiles (Path.ofString "/bench.yaml")).toOption.map (fun file =>
      (file.withoutIndexing, file.serverNames)) = some (["pyrite"], ["pyright"]) := by
    decide +kernel
  obtain ⟨file, hload, hvalues⟩ := exists_of_toOption_map heval
  obtain ⟨hlisted, hservers⟩ := Prod.mk.inj hvalues
  exact ⟨file, hload, hlisted, hservers⟩

theorem unknown_indexing_misspelt : ∃ file, Starts misspeltFiles misspeltOptions file ∧
    (∃ fault, file.check misspeltFiles = .error fault) ∧
      ofOptions misspeltFiles misspeltOptions = override misspeltOptions
        { file with withoutIndexing := file.withoutIndexing.filter (· ≠ "pyrite") }
          >>= checked misspeltFiles := by
  obtain ⟨file, hstart, hlisted, hservers⟩ := exists_starts_misspelt
  have hmem : "pyrite" ∈ file.withoutIndexing := by simp [hlisted]
  obtain ⟨hfault, -, hsame, -⟩ := unknown_indexing hstart hmem (by simp [hservers])
    (by simp [misspeltOptions, entriesOf])
  exact ⟨file, hstart, hfault, hsame (by simp [misspeltOptions])⟩

/-- The misspelt name gets lost, and the server that it was meant for indexes. -/
theorem misspelt_passes : ∃ file config, Starts misspeltFiles misspeltOptions file ∧
    misspeltOptions.servers = [] ∧ misspeltOptions.commands = [] ∧
      file.withoutIndexing = ["pyrite"] ∧ file.serverNames = ["pyright"] ∧
        ofOptions misspeltFiles misspeltOptions = .ok config ∧ config.withoutIndexing = [] := by
  obtain ⟨file, hstart, hlisted, hservers⟩ := exists_starts_misspelt
  have heval : (ofOptions misspeltFiles misspeltOptions).toOption.map (·.withoutIndexing) =
      some [] := by
    decide +kernel
  obtain ⟨config, hok, hnone⟩ := exists_of_toOption_map heval
  exact ⟨file, config, hstart, rfl, rfl, hlisted, hservers, hok, hnone⟩

end Config

end LookupBench
