import LookupBench.Proofs.Json.Yields
import LookupBench.Proofs.Results.RoundTrip

/-!
# Reports that are read

Data of the shape of a report makes a report that fits into its words, so whatever report a text
holds can be written and read again.
-/

namespace LookupBench

open Json

namespace Json

variable {v : Json}

/-! ### Parts of data -/

theorem FieldsConform.exists_entry {fields : List (String × Shape)}
    {members : List (String × Json)} (h : FieldsConform fields members) {key : String} {s : Shape}
    (hs : Shape.fieldShape key fields = some s) :
    ∃ v, entryOf? key members = some v ∧ Conforms s v := by
  induction fields generalizing members with
  | nil => cases hs
  | cons f fields ih =>
      cases h with
      | @cons name s' v _ members hvalue hrest =>
          rw [Shape.fieldShape] at hs
          rw [entryOf?]
          split at hs
          next heq =>
            cases hs
            exact ⟨v, if_pos heq, hvalue⟩
          next hne =>
            rw [if_neg hne]
            exact ih hrest hs

theorem Conforms.part {name : String} {fields : List (String × Shape)}
    (h : Conforms (.record name fields) v) (hnodup : (fields.map Prod.fst).Nodup) {key : String}
    {s : Shape} (hs : Shape.fieldShape key fields = some s) : Conforms s (v.part key) := by
  cases h with
  | record hfields =>
      obtain ⟨w, hentry, hw⟩ := (hfields hnodup).exists_entry hs
      rw [Json.part, get?, hentry]
      exact hw

theorem Conforms.innerPart {name : String} {inner own : List (String × Shape)}
    (h : Conforms (.merged name inner own) v) (hnodup : (inner.map Prod.fst).Nodup) {key : String}
    {s : Shape} (hs : Shape.fieldShape key
      (inner.filter fun f => (Shape.fieldShape f.1 own).isNone) = some s) :
    Conforms s (v.part key) := by
  cases h with
  | merged hinner hown =>
      obtain ⟨w, hentry, hw⟩ := (hinner hnodup).exists_entry hs
      rw [Json.part, get?, entryOf?_append, hentry]
      exact hw

theorem Conforms.isInt64_asInteger (h : Conforms .integer v) : isInt64 v.asInteger = true := by
  cases h with
  | integer hi => exact hi

theorem Conforms.asNatural_lt {name : String} (h : Conforms (.natural name) v) :
    v.asNatural < 2 ^ 64 := by
  cases h with
  | @natural _ i hi =>
      simp only [isNat64, Bool.and_eq_true, decide_eq_true_eq] at hi
      change i.toNat < 2 ^ 64
      omega

theorem Conforms.isFinite_asNumber (h : Conforms .number v) : v.asNumber.isFinite = true := by
  cases h with
  | number hx => exact hx

theorem Conforms.finiteOption (h : Conforms (.optional .number) v) :
    FiniteOption (v.asOption asNumber) := by
  cases h with
  | missing => exact nofun
  | present h =>
      cases h with
      | number hx =>
          intro y hy
          cases hy
          exact hx

section Containers

variable {α : Type} {P : α → Prop} {s : Shape} {read : Json → α}

theorem Conforms.forall_asList (h : Conforms (.list s) v) (hread : ∀ w, Conforms s w → P (read w)) :
    ∀ a ∈ v.asList read, P a := by
  cases h with
  | list hitems =>
      intro a ha
      obtain ⟨w, hw, rfl⟩ := List.mem_map.1 ha
      exact hread w (hitems w hw)

theorem Conforms.forall_asTable (h : Conforms (.table s) v)
    (hread : ∀ w, Conforms s w → P (read w)) : ∀ e ∈ (v.asTable read).entries, P e.2 := by
  cases h with
  | table hmembers =>
      intro e he
      obtain ⟨m, hm, rfl⟩ := List.mem_map.1 (Table.mem_of_mem_ofList he)
      exact hread m.2 (hmembers m hm)

end Containers

end Json

/-! ### Reports -/

variable {v : Json}

theorem Position.fits_ofData (h : Conforms shape v) : (ofData v).Fits where
  line := (h.part (by decide) rfl).isInt64_asInteger
  character := (h.part (by decide) rfl).isInt64_asInteger

/-- A case is made of its whole numbers alike, whatever object it shares. -/
theorem PickedCase.fits_ofData (h : ∀ key, Shape.fieldShape key fields = some .integer →
    Conforms .integer (v.part key)) : (ofData v).Fits where
  line := (h "line" rfl).isInt64_asInteger
  character := (h "character" rfl).isInt64_asInteger
  lineFromOne := (h "line_1b" rfl).isInt64_asInteger
  characterFromOne := (h "character_1b" rfl).isInt64_asInteger

theorem LocationRecord.fits_ofData (h : Conforms shape v) : (ofData v).Fits where
  start := Position.fits_ofData (h.part (by decide) rfl)
  stop := Position.fits_ofData (h.part (by decide) rfl)

theorem ServerCaseResult.fits_ofData (h : Conforms shape v) : (ofData v).Fits where
  count := (h.part (s := .natural "usize") (by decide) rfl).asNatural_lt
  latency := (h.part (by decide) rfl).finiteOption
  locations := (h.part (by decide) rfl).forall_asList fun _ => LocationRecord.fits_ofData

theorem Unresolved.fits_ofData (h : Conforms shape v) : (ofData v).picked.Fits :=
  PickedCase.fits_ofData fun _ hkey => h.innerPart (by decide) hkey

theorem CaseRecord.fits_ofData (h : Conforms shape v) : (ofData v).Fits where
  run := (h.part (s := .natural "usize") (by decide) rfl).asNatural_lt
  picked := by
    have hpicked : Conforms (.record "PickedCase" PickedCase.fields) (v.part "picked") :=
      h.part (by decide) rfl
    exact PickedCase.fits_ofData fun _ hkey => hpicked.part (by decide) hkey
  results := (h.part (by decide) rfl).forall_asTable fun _ => ServerCaseResult.fits_ofData
  unresolved := (h.part (by decide) rfl).forall_asTable (P := fun u : Unresolved => u.picked.Fits)
    fun _ => Unresolved.fits_ofData

theorem LatencyStats.fits_ofData (h : Conforms shape v) : (ofData v).Fits where
  count := (h.part (s := .natural "usize") (by decide) rfl).asNatural_lt
  p50 := (h.part (by decide) rfl).finiteOption
  p95 := (h.part (by decide) rfl).finiteOption
  min := (h.part (by decide) rfl).finiteOption
  max := (h.part (by decide) rfl).finiteOption
  mean := (h.part (by decide) rfl).finiteOption

theorem ServerSummary.fits_ofData (h : Conforms shape v) : (ofData v).Fits where
  ok := (h.part (s := .natural "usize") (by decide) rfl).asNatural_lt
  okPercent := (h.part (by decide) rfl).isFinite_asNumber
  found := (h.part (s := .natural "usize") (by decide) rfl).asNatural_lt
  foundPercent := (h.part (by decide) rfl).isFinite_asNumber
  valid := (h.part (s := .natural "usize") (by decide) rfl).asNatural_lt
  validPercent := (h.part (by decide) rfl).isFinite_asNumber
  errors := (h.part (s := .natural "usize") (by decide) rfl).asNatural_lt
  timeouts := (h.part (s := .natural "usize") (by decide) rfl).asNatural_lt
  latency := LatencyStats.fits_ofData (h.part (by decide) rfl)

theorem Report.fits_ofData (h : Conforms shape v) : (ofData v).Fits where
  seed := (h.part (s := .natural "u64") (by decide) rfl).asNatural_lt
  runs := (h.part (s := .natural "usize") (by decide) rfl).asNatural_lt
  cases := (h.part (by decide) rfl).forall_asList fun _ => CaseRecord.fits_ofData
  summary := (h.part (by decide) rfl).forall_asTable fun _ => ServerSummary.fits_ofData
  time := (h.part (by decide) rfl).isFinite_asNumber

theorem Report.fits_ofBytes {content : Bytes} {r : Report} (h : ofBytes content = .ok r) :
    r.Fits := by
  obtain ⟨v, hv, rfl⟩ := exists_of_map_eq_ok h
  exact fits_ofData (conforms_of_read hv)

end LookupBench
