import LookupBench.Proofs.Json.Layout
import LookupBench.Results.ReportFile

/-!
# Reports there and back

What is written for a report is read as that report, for every report that fits into its words: whole
numbers of 64 bits, and finite numbers. Each part of a report has a lemma of its own, put together
from those of its parts.
-/

namespace LookupBench

open Json

/-! ### Data there and back -/

namespace Json

/-- What is written for a value is read, by its shape, as data of that value. -/
def ReadsBack {α : Type} (depth : Nat) (shape : Shape) (write : α → Json) (read : Json → α)
    (a : α) : Prop :=
  ∃ w, ReadsAs depth shape (write a) w ∧ read w = a

section Scalars

variable {depth : Nat}

theorem readsAs_text (s : String) : ReadsAs depth .text (.string s) (.string s) :=
  (scalarReads_string (.inl rfl) s).readsAs ⟨nofun, nofun⟩

theorem readsAs_flag (b : Bool) : ReadsAs depth .flag (.bool b) (.bool b) :=
  (scalarReads_bool (.inl rfl) b).readsAs ⟨nofun, nofun⟩

theorem readsAs_natural (name : String) {n : Nat} (hn : n < 2 ^ 64) :
    ReadsAs depth (.natural name) (.int n) (.int n) := by
  have hword : isNat64 n = true := by
    simp only [isNat64, Bool.and_eq_true, decide_eq_true_eq]
    omega
  refine (scalarReads_int rfl (by omega) (by omega) ?_).readsAs ⟨nofun, nofun⟩
  rw [Shape.ofNumber, if_pos hword]

theorem isInt64_iff {i : Int} : isInt64 i = true ↔ -(2 ^ 63) ≤ i ∧ i < 2 ^ 63 := by
  simp [isInt64]

theorem ofNumber_integer {i : Int} (hi : isInt64 i = true) :
    Shape.ofNumber .integer (.int i) = .ok (.int i) := by
  rw [Shape.ofNumber, if_pos hi]

theorem readsAs_integer {i : Int} (hi : isInt64 i = true) :
    ReadsAs depth .integer (.int i) (.int i) := by
  have hbounds := isInt64_iff.1 hi
  exact (scalarReads_int rfl (by omega) (by omega) (ofNumber_integer hi)).readsAs ⟨nofun, nofun⟩

theorem scalarReads_binary64 {x : Binary64} (hx : x.isFinite = true) :
    ScalarReads .number (ofBinary64 x) (.float x) := by
  rw [ofBinary64, if_pos hx]
  exact scalarReads_float rfl hx rfl

theorem readsAs_number {x : Binary64} (hx : x.isFinite = true) :
    ReadsAs depth .number (ofBinary64 x) (.float x) :=
  (scalarReads_binary64 hx).readsAs ⟨nofun, nofun⟩

/-- A number that is missing or finite. -/
def FiniteOption (x? : Option Binary64) : Prop := ∀ x, x? = some x → x.isFinite = true

theorem readsBack_optionalNumber {x? : Option Binary64} (h : FiniteOption x?) :
    ReadsBack depth (.optional .number) (ofOption ofBinary64) (asOption asNumber) x? := by
  cases x? with
  | none => exact ⟨_, readsAs_null, rfl⟩
  | some x => exact ⟨_, (scalarReads_binary64 (h x rfl)).readsAs_optional ⟨nofun, nofun⟩, rfl⟩

theorem readsAs_optionalText (s : String) :
    ReadsAs depth (.optional .text) (.string s) (.string s) :=
  (scalarReads_string (.inl rfl) s).readsAs_optional ⟨nofun, nofun⟩

theorem readsBack_optionalText (s? : Option String) :
    ReadsBack depth (.optional .text) (ofOption .string) (asOption asText) s? := by
  cases s? with
  | none => exact ⟨_, readsAs_null, rfl⟩
  | some s => exact ⟨_, readsAs_optionalText s, rfl⟩

end Scalars

section Containers

variable {α : Type} {depth : Nat} {shape : Shape} {write : α → Json} {read : Json → α}

theorem readsBack_list {items : List α} (h : ∀ a ∈ items, ReadsBack depth shape write read a) :
    ReadsBack (depth + 1) (.list shape) (fun items => .array (items.map write)) (asList read)
      items := by
  have hall : ∃ ws, List.Forall₂ (ReadsAs depth shape) (items.map write) ws ∧
      ws.map read = items := by
    induction items with
    | nil => exact ⟨[], .nil, rfl⟩
    | cons a items ih =>
        obtain ⟨⟨w, hw, hread⟩, hitems⟩ := List.forall_mem_cons.1 h
        obtain ⟨ws, hws, hreads⟩ := ih hitems
        exact ⟨w :: ws, .cons hw hws, by rw [List.map_cons, hread, hreads]⟩
  obtain ⟨ws, hws, hreads⟩ := hall
  exact ⟨_, readsAs_list hws, hreads⟩

theorem readsBack_table {t : Table α} (h : ∀ e ∈ t.entries, ReadsBack depth shape write read e.2) :
    ReadsBack (depth + 1) (.table shape) (ofTable write) (asTable read) t := by
  have hall : ∃ ns : List (String × Json),
      List.Forall₂ (fun m n => n.1 = m.1 ∧ ReadsAs depth shape m.2 n.2)
        (t.entries.map fun e => (e.1, write e.2)) ns ∧
      ns.map (fun n => (n.1, read n.2)) = t.entries := by
    generalize t.entries = entries at h
    induction entries with
    | nil => exact ⟨[], .nil, rfl⟩
    | cons e entries ih =>
        obtain ⟨⟨w, hw, hread⟩, hentries⟩ := List.forall_mem_cons.1 h
        obtain ⟨ns, hns, hreads⟩ := ih hentries
        exact ⟨(e.1, w) :: ns, .cons ⟨rfl, hw⟩ hns, by rw [List.map_cons, hread, hreads]⟩
  obtain ⟨ns, hns, hreads⟩ := hall
  refine ⟨_, readsAs_table ?_ hns, ?_⟩
  · rw [List.pairwise_map]
    exact t.sorted
  · rw [asTable, hreads, Table.ofList_entries]

end Containers

end Json

/-! ### What fits -/

/-- A position of signed words of 64 bits. -/
structure Position.Fits (p : Position) : Prop where
  line : isInt64 p.line = true
  character : isInt64 p.character = true

structure PickedCase.Fits (c : PickedCase) : Prop where
  line : isInt64 c.line = true
  character : isInt64 c.character = true
  lineFromOne : isInt64 c.lineFromOne = true
  characterFromOne : isInt64 c.characterFromOne = true

structure LocationRecord.Fits (l : LocationRecord) : Prop where
  start : l.start.Fits
  stop : l.stop.Fits

structure ServerCaseResult.Fits (r : ServerCaseResult) : Prop where
  count : r.count < 2 ^ 64
  latency : FiniteOption r.latency
  locations : ∀ l ∈ r.locations, l.Fits

structure CaseRecord.Fits (c : CaseRecord) : Prop where
  run : c.run < 2 ^ 64
  picked : c.picked.Fits
  results : ∀ e ∈ c.results.entries, e.2.Fits
  unresolved : ∀ e ∈ c.unresolved.entries, e.2.picked.Fits

structure LatencyStats.Fits (s : LatencyStats) : Prop where
  count : s.count < 2 ^ 64
  p50 : FiniteOption s.p50
  p95 : FiniteOption s.p95
  min : FiniteOption s.min
  max : FiniteOption s.max
  mean : FiniteOption s.mean

structure ServerSummary.Fits (s : ServerSummary) : Prop where
  ok : s.ok < 2 ^ 64
  okPercent : s.okPercent.isFinite = true
  found : s.found < 2 ^ 64
  foundPercent : s.foundPercent.isFinite = true
  valid : s.valid < 2 ^ 64
  validPercent : s.validPercent.isFinite = true
  errors : s.errors < 2 ^ 64
  timeouts : s.timeouts < 2 ^ 64
  latency : s.latency.Fits

structure Report.Fits (r : Report) : Prop where
  seed : r.seed < 2 ^ 64
  runs : r.runs < 2 ^ 64
  cases : ∀ c ∈ r.cases, c.Fits
  summary : ∀ e ∈ r.summary.entries, e.2.Fits
  time : r.time.isFinite = true

/-! ### Part by part -/

variable (depth : Nat)

theorem Position.readsBack {p : Position} (h : p.Fits) :
    ReadsBack (depth + 1) shape toJson ofData p :=
  ⟨_, readsAs_record (.present (readsAs_integer h.line)
    (.present (readsAs_integer h.character) .nil)) (by decide), rfl⟩

theorem OccurrenceKind.ofLabel?_label (k : OccurrenceKind) : ofLabel? k.label = some k := by
  cases k <;> rfl

theorem OccurrenceKind.label_mem (k : OccurrenceKind) : k.label ∈ all.map label := by
  cases k <;> decide

theorem OccurrenceKind.ofData_toJson (k : OccurrenceKind) : ofData k.toJson = k := by
  rw [ofData, toJson, asText, asString?, Option.getD_some, ofLabel?_label, Option.getD_some]

theorem UnresolvedReason.ofLabel?_label (r : UnresolvedReason) : ofLabel? r.label = some r := by
  cases r <;> rfl

theorem UnresolvedReason.label_mem (r : UnresolvedReason) : r.label ∈ all.map label := by
  cases r <;> decide

theorem PickedCase.readsFields {c : PickedCase} (h : c.Fits) :
    ReadsFields depth fields c.members c.members c.members :=
  .present (readsAs_text _) <| .present (readsAs_text _) <| .present (readsAs_integer h.line) <|
  .present (readsAs_integer h.character) <| .present (readsAs_integer h.lineFromOne) <|
  .present (readsAs_integer h.characterFromOne) <| .present (readsAs_text _) <|
  .present (readsAs_choice c.kind.label_mem) <| .present (readsAs_text _) .nil

theorem PickedCase.ofData_members (c : PickedCase) (more : List (String × Json)) :
    ofData (.object (c.members ++ more)) = c := by
  have hkind : OccurrenceKind.ofData ((Json.object (c.members ++ more)).part "kind") = c.kind :=
    c.kind.ofData_toJson
  unfold ofData
  rw [hkind]
  rfl

theorem LocationRecord.readsBack {l : LocationRecord} (h : l.Fits) :
    ReadsBack (depth + 2) shape toJson ofData l := by
  obtain ⟨start, hstart, hstartBack⟩ := Position.readsBack depth h.start
  obtain ⟨stop, hstop, hstopBack⟩ := Position.readsBack depth h.stop
  refine ⟨_, readsAs_record (.present (readsAs_text l.uri) (.present hstart (.present hstop
    (.present (readsAs_flag l.valid) .nil)))) (by decide), ?_⟩
  exact congrArg₂ (LocationRecord.mk l.uri · · l.valid) hstartBack hstopBack

theorem ServerCaseResult.readsBack {r : ServerCaseResult} (h : r.Fits) :
    ReadsBack (depth + 4) shape toJson ofData r := by
  obtain ⟨latency, hlatency, hlatencyBack⟩ := readsBack_optionalNumber h.latency
  obtain ⟨error, herror, herrorBack⟩ := readsBack_optionalText r.error
  obtain ⟨locations, hlocations, hlocationsBack⟩ :=
    readsBack_list fun l hl => LocationRecord.readsBack depth (h.locations l hl)
  refine ⟨_, readsAs_record (.present (readsAs_flag r.ok) <| .present (readsAs_flag r.found) <|
    .present (readsAs_natural "usize" h.count) <| .present hlatency <| .present herror <|
    .present hlocations .nil) (by decide), ?_⟩
  obtain ⟨ok, found, count, latency?, error?, locs⟩ := r
  cases hlatencyBack
  cases herrorBack
  cases hlocationsBack
  rfl

namespace PickedCase

variable {depth}

theorem readsLater_text {key : String} (hkey : Shape.fieldShape key fields = some .text)
    (s : String) : ReadsLater depth fields (key, .string s) :=
  ⟨(scalarReads_string (.inr rfl) s).readsAs ⟨nofun, nofun⟩, .text, hkey, rfl⟩

theorem readsLater_integer {key : String} (hkey : Shape.fieldShape key fields = some .integer)
    {i : Int} (hi : isInt64 i = true) : ReadsLater depth fields (key, .int i) := by
  have hbounds := isInt64_iff.1 hi
  refine ⟨(scalarReads_int rfl (by omega) (by omega) rfl).readsAs ⟨nofun, nofun⟩, .integer, hkey,
    ?_⟩
  exact ofNumber_integer hi

theorem readsLater_kind (k : OccurrenceKind) : ReadsLater depth fields ("kind", k.toJson) := by
  refine ⟨(scalarReads_string (.inr rfl) k.label).readsAs ⟨nofun, nofun⟩, OccurrenceKind.shape,
    rfl, ?_⟩
  cases k <;> rfl

theorem readsLater {c : PickedCase} (h : c.Fits) :
    ∀ m ∈ c.members, ReadsLater depth fields m := by
  simp only [members, List.forall_mem_cons]
  exact ⟨readsLater_text rfl _, readsLater_text rfl _, readsLater_integer rfl h.line,
    readsLater_integer rfl h.character, readsLater_integer rfl h.lineFromOne,
    readsLater_integer rfl h.characterFromOne, readsLater_text rfl _, readsLater_kind _,
    readsLater_text rfl _, by simp⟩

end PickedCase

theorem Unresolved.readsBack {u : Unresolved} (h : u.picked.Fits) :
    ReadsBack (depth + 1) shape toJson ofData u := by
  obtain ⟨picked, reason, error?⟩ := u
  have hreason : ReadsAs depth UnresolvedReason.shape (.string reason.label)
      (.string reason.label) := readsAs_choice reason.label_mem
  have hback : ∀ error, ofData (.object (picked.members ++
      [("reason", .string reason.label), ("error", ofOption .string error)]))
        = ⟨picked, reason, error⟩ := fun error => by
    have hreasonBack : UnresolvedReason.ofData (.string reason.label) = reason := by
      rw [UnresolvedReason.ofData, asText, asString?, Option.getD_some,
        UnresolvedReason.ofLabel?_label, Option.getD_some]
    unfold ofData
    rw [PickedCase.ofData_members]
    change (⟨picked, UnresolvedReason.ofData (.string reason.label),
      (ofOption Json.string error).asOption asText⟩ : Unresolved) = _
    rw [hreasonBack]
    cases error <;> rfl
  cases error? with
  | none =>
      exact ⟨_, readsAs_merged (PickedCase.readsLater h) rfl
        (.present hreason (.absent rfl .nil)) (by decide), hback none⟩
  | some error =>
      exact ⟨_, readsAs_merged (PickedCase.readsLater h) rfl
        (.present hreason (.present (readsAs_optionalText error) .nil)) (by decide),
        hback (some error)⟩

theorem CaseRecord.readsBack {c : CaseRecord} (h : c.Fits) :
    ReadsBack (depth + 6) shape toJson ofData c := by
  obtain ⟨results, hresults, hresultsBack⟩ :=
    readsBack_table fun e he => ServerCaseResult.readsBack depth (h.results e he)
  obtain ⟨unresolved, hunresolved, hunresolvedBack⟩ :=
    readsBack_table fun e he => Unresolved.readsBack (depth + 3) (h.unresolved e he)
  have hpicked : ReadsAs (depth + 5) (.record "PickedCase" PickedCase.fields)
      (.object c.picked.members) (.object c.picked.members) :=
    readsAs_record (PickedCase.readsFields _ h.picked) (by decide)
  refine ⟨_, readsAs_record (.present (readsAs_natural "usize" h.run) <| .present hpicked <|
    .present hresults <| .present hunresolved .nil) (by decide), ?_⟩
  have hpickedBack := PickedCase.ofData_members c.picked []
  rw [List.append_nil] at hpickedBack
  exact congr (congrArg₂ (CaseRecord.mk c.run) hpickedBack hresultsBack) hunresolvedBack

theorem LatencyStats.readsBack {s : LatencyStats} (h : s.Fits) :
    ReadsBack (depth + 1) shape toJson ofData s := by
  obtain ⟨p50, hp50, hp50Back⟩ := readsBack_optionalNumber h.p50
  obtain ⟨p95, hp95, hp95Back⟩ := readsBack_optionalNumber h.p95
  obtain ⟨min, hmin, hminBack⟩ := readsBack_optionalNumber h.min
  obtain ⟨max, hmax, hmaxBack⟩ := readsBack_optionalNumber h.max
  obtain ⟨mean, hmean, hmeanBack⟩ := readsBack_optionalNumber h.mean
  refine ⟨_, readsAs_record (.present (readsAs_natural "usize" h.count) <| .present hp50 <|
    .present hp95 <| .present hmin <| .present hmax <| .present hmean .nil) (by decide), ?_⟩
  exact congr (congr (congr (congrArg₂ (LatencyStats.mk s.count) hp50Back hp95Back) hminBack)
    hmaxBack) hmeanBack

theorem ServerSummary.readsBack {s : ServerSummary} (h : s.Fits) :
    ReadsBack (depth + 2) shape toJson ofData s := by
  obtain ⟨latency, hlatency, hlatencyBack⟩ := LatencyStats.readsBack depth h.latency
  refine ⟨_, readsAs_record (.present (readsAs_natural "usize" h.ok) <|
    .present (readsAs_number h.okPercent) <| .present (readsAs_natural "usize" h.found) <|
    .present (readsAs_number h.foundPercent) <| .present (readsAs_natural "usize" h.valid) <|
    .present (readsAs_number h.validPercent) <| .present (readsAs_natural "usize" h.errors) <|
    .present (readsAs_natural "usize" h.timeouts) <| .present hlatency .nil) (by decide), ?_⟩
  exact congrArg (ServerSummary.mk s.ok s.okPercent s.found s.foundPercent s.valid s.validPercent
    s.errors s.timeouts) hlatencyBack

theorem Report.readsBack {r : Report} (h : r.Fits) :
    ReadsBack (depth + 8) shape toJson ofData r := by
  have hnames : ReadsBack (depth + 7) (.list .text) (fun items => .array (items.map .string))
      (asList asText) r.servers := readsBack_list fun s _ => ⟨_, readsAs_text s, rfl⟩
  obtain ⟨servers, hservers, hserversBack⟩ := hnames
  obtain ⟨cases, hcases, hcasesBack⟩ :=
    readsBack_list fun c hc => CaseRecord.readsBack depth (h.cases c hc)
  obtain ⟨summary, hsummary, hsummaryBack⟩ :=
    readsBack_table fun e he => ServerSummary.readsBack (depth + 4) (h.summary e he)
  refine ⟨_, readsAs_record (.present (readsAs_text r.root) <|
    .present (readsAs_natural "u64" h.seed) <| .present (readsAs_natural "usize" h.runs) <|
    .present hservers <| .present hcases <| .present hsummary <|
    .present (readsAs_number h.time) .nil) (by decide), ?_⟩
  obtain ⟨root, seed, runs, servers', cases', summary', time⟩ := r
  cases hserversBack
  cases hcasesBack
  cases hsummaryBack
  rfl

/-- A report that fits is read from its own text. -/
theorem Report.ofBytes_text {r : Report} (h : r.Fits) : ofBytes (Utf8.encode r.text) = .ok r := by
  obtain ⟨w, hreads, hback⟩ := readsBack 119 h
  rw [ofBytes, text, read_indentedText hreads, Except.map, hback]

end LookupBench
