import LookupBench.Proofs.Json.Layout
import LookupBench.Proofs.Number.Finite

/-!
# Data of a shape

Data conforms to a shape if numbers lie in their range, the fields of a record stand in declared
order with values of their shapes, and a choice is one of its labels. A record in which two fields
have one name says nothing about its data. Whatever value is brought into a shape, what comes of it
conforms.
-/

namespace LookupBench.Json

/-! ### Shapes of values -/

/-- A value with numbers that a text can have: whole ones of 64 bits, and finite ones. -/
inductive InRange : Json → Prop where
  | null : InRange .null
  | bool (b : Bool) : InRange (.bool b)
  | int {i : Int} (hlow : -(2 ^ 63) ≤ i) (hhigh : i < 2 ^ 64) : InRange (.int i)
  | float {x : Binary64} (h : x.isFinite = true) : InRange (.float x)
  | string (s : String) : InRange (.string s)
  | array {items : List Json} (h : ∀ v ∈ items, InRange v) : InRange (.array items)
  | object {members : List (String × Json)} (h : ∀ m ∈ members, InRange m.2) :
      InRange (.object members)

mutual

inductive Conforms : Shape → Json → Prop where
  | any {v : Json} (h : InRange v) : Conforms .any v
  | flag (b : Bool) : Conforms .flag (.bool b)
  | text (s : String) : Conforms .text (.string s)
  | natural {name : String} {i : Int} (h : isNat64 i = true) : Conforms (.natural name) (.int i)
  | integer {i : Int} (h : isInt64 i = true) : Conforms .integer (.int i)
  | number {x : Binary64} (h : x.isFinite = true) : Conforms .number (.float x)
  | missing {item : Shape} : Conforms (.optional item) .null
  | present {item : Shape} {v : Json} (h : Conforms item v) : Conforms (.optional item) v
  | list {item : Shape} {items : List Json} (h : ∀ v ∈ items, Conforms item v) :
      Conforms (.list item) (.array items)
  | table {item : Shape} {members : List (String × Json)} (h : ∀ m ∈ members, Conforms item m.2) :
      Conforms (.table item) (.object members)
  | record {name : String} {fields : List (String × Shape)} {members : List (String × Json)}
      (h : (fields.map Prod.fst).Nodup → FieldsConform fields members) :
      Conforms (.record name fields) (.object members)
  | merged {name : String} {inner own : List (String × Shape)} {ms ws : List (String × Json)}
      (hinner : (inner.map Prod.fst).Nodup →
        FieldsConform (inner.filter fun f => (Shape.fieldShape f.1 own).isNone) ms)
      (hown : (own.map Prod.fst).Nodup → FieldsConform own ws) :
      Conforms (.merged name inner own) (.object (ms ++ ws))
  | choice {labels : List String} {s : String} (h : s ∈ labels) :
      Conforms (.choice labels) (.string s)

inductive FieldsConform : List (String × Shape) → List (String × Json) → Prop where
  | nil : FieldsConform [] []
  | cons {key : String} {s : Shape} {v : Json} {fields : List (String × Shape)}
      {members : List (String × Json)} (hvalue : Conforms s v)
      (hrest : FieldsConform fields members) :
      FieldsConform ((key, s) :: fields) ((key, v) :: members)

end

theorem Conforms.of_required {v : Json} (shape : Shape) (h : Conforms shape.required v) :
    Conforms shape v := by
  fun_induction Shape.required shape with
  | case1 item ih => exact .present (ih h)
  | case2 shape _ => exact h

/-- The members that are fields have the shapes of the fields. -/
def MembersConform (fields : List (String × Shape)) (members : List (String × Json)) : Prop :=
  ∀ m ∈ members, ∀ s, Shape.fieldShape m.1 fields = some s → Conforms s m.2

theorem exists_of_map_eq_ok {ε α β : Type} {x : Except ε α} {f : α → β} {b : β}
    (h : x.map f = .ok b) : ∃ a, x = .ok a ∧ f a = b := by
  cases x with
  | error e => cases h
  | ok a =>
      cases h
      exact ⟨a, rfl, rfl⟩

theorem fieldsConform_of_arrange {members ws : List (String × Json)}
    {fields : List (String × Shape)} (hmembers : MembersConform fields members)
    (h : Shape.arrange members fields = .ok ws) (hnodup : (fields.map Prod.fst).Nodup) :
    FieldsConform fields ws := by
  -- A name leads to the first field that has it, so fields of one name would share a value.
  have hvalues : ∀ f ∈ fields, ∀ v, entryOf? f.1 members = some v → Conforms f.2 v := by
    intro f hf v hv
    refine hmembers (f.1, v) (mem_of_entryOf? hv) f.2 ?_
    rw [fieldShape_eq, entryOf?_eq_some_iff hnodup]
    exact hf
  clear hmembers hnodup
  induction fields generalizing ws with
  | nil =>
      rw [Shape.arrange] at h
      cases h
      exact .nil
  | cons f fields ih =>
      obtain ⟨key, s⟩ := f
      obtain ⟨hfirst, hlater⟩ := List.forall_mem_cons.1 hvalues
      rw [Shape.arrange] at h
      split at h
      next v hv =>
        obtain ⟨rest, hrest, rfl⟩ := exists_of_map_eq_ok h
        exact .cons (hfirst v hv) (ih hrest hlater)
      next =>
        split at h
        next hoptional =>
          obtain ⟨rest, hrest, rfl⟩ := exists_of_map_eq_ok h
          cases s with
          | optional item => exact .cons .missing (ih hrest hlater)
          | _ => cases hoptional
        next => cases h

/-! ### Values brought into a shape -/

theorem conforms_ofNumber {shape : Shape} {v w : Json} (hv : InRange v)
    (h : Shape.ofNumber shape v = .ok w) : Conforms shape w := by
  unfold Shape.ofNumber at h
  split at h
  next name i =>
    split at h
    next hword =>
      cases h
      exact .natural hword
    next => cases h
  next i =>
    split at h
    next hword =>
      cases h
      exact .integer hword
    next => cases h
  next i =>
    cases h
    cases hv with
    | int hlow hhigh => exact .number (Binary64.isFinite_ofInt (by omega))
  next x =>
    cases h
    cases hv with
    | float hx => exact .number hx
  next =>
    cases h
    exact .any hv
  next => cases h

theorem conforms_decodeChoice {loose : Bool} {labels : List String} {v w : Json}
    (h : Shape.decodeChoice loose labels v = .ok w) : Conforms (.choice labels) w := by
  unfold Shape.decodeChoice at h
  split at h
  next s =>
    split at h
    next hs =>
      cases h
      exact .choice (by simpa using hs)
    next => cases h
  next s v =>
    split at h
    next => cases h
    next hs =>
      have hs : s ∈ labels := by simpa using hs
      split at h
      next =>
        cases h
        exact .choice hs
      next =>
        split at h
        next =>
          cases h
          exact .choice hs
        next => cases h
      next => cases h
  next => cases h
  next => cases h

/-- What comes of a value has the shape that it was brought into. -/
def Decodes (v : Json) : Prop :=
  ∀ loose shape w, Shape.decode loose shape v = .ok w → Conforms shape w

section Decoding

variable {loose : Bool}

theorem conforms_decodeItems {item : Shape} {items ws : List Json} (hitems : ∀ v ∈ items, Decodes v)
    (h : Shape.decodeItems loose item items = .ok ws) : ∀ w ∈ ws, Conforms item w := by
  induction items generalizing ws with
  | nil =>
      rw [Shape.decodeItems] at h
      cases h
      exact nofun
  | cons v items ih =>
      obtain ⟨hfirst, hlater⟩ := List.forall_mem_cons.1 hitems
      rw [Shape.decodeItems] at h
      split at h
      next => cases h
      next w hw =>
        obtain ⟨rest, hrest, rfl⟩ := exists_of_map_eq_ok h
        exact List.forall_mem_cons.2 ⟨hfirst _ _ _ hw, ih hlater hrest⟩

theorem conforms_decodeTable {item : Shape} {members ws : List (String × Json)}
    (hmembers : ∀ m ∈ members, Decodes m.2)
    (h : Shape.decodeTable loose item members = .ok ws) : ∀ w ∈ ws, Conforms item w.2 := by
  induction members generalizing ws with
  | nil =>
      rw [Shape.decodeTable] at h
      cases h
      exact nofun
  | cons m members ih =>
      obtain ⟨hfirst, hlater⟩ := List.forall_mem_cons.1 hmembers
      rw [Shape.decodeTable] at h
      split at h
      next => cases h
      next w hw =>
        obtain ⟨rest, hrest, rfl⟩ := exists_of_map_eq_ok h
        exact List.forall_mem_cons.2 ⟨hfirst _ _ _ hw, ih hlater hrest⟩

theorem fieldsConform_decodeFields {arity : String} {index total : Nat}
    {fields : List (String × Shape)} {items : List Json} {ws : List (String × Json)}
    (hitems : ∀ v ∈ items, Decodes v)
    (h : Shape.decodeFields loose arity index total fields items = .ok ws) :
    FieldsConform fields ws := by
  induction items generalizing fields index ws with
  | nil =>
      rw [Shape.decodeFields] at h
      split at h
      next hnil =>
        cases h
        cases List.isEmpty_iff.1 hnil
        exact .nil
      next => cases h
  | cons v items ih =>
      obtain ⟨hfirst, hlater⟩ := List.forall_mem_cons.1 hitems
      cases fields with
      | nil =>
          rw [Shape.decodeFields] at h
          cases h
      | cons f fields =>
          obtain ⟨key, s⟩ := f
          rw [Shape.decodeFields] at h
          split at h
          next => cases h
          next w hw =>
            obtain ⟨rest, hrest, rfl⟩ := exists_of_map_eq_ok h
            exact .cons (hfirst _ _ _ hw) (ih hlater hrest)

theorem membersConform_decodeMembers {fields : List (String × Shape)} {seen : List String}
    {members ws : List (String × Json)} (hmembers : ∀ m ∈ members,
      Shape.fieldShape m.1 fields ≠ none → Decodes m.2)
    (h : Shape.decodeMembers loose fields seen members = .ok ws) : MembersConform fields ws := by
  induction members generalizing seen ws with
  | nil =>
      rw [Shape.decodeMembers] at h
      cases h
      exact List.forall_mem_nil _
  | cons m members ih =>
      obtain ⟨key, v⟩ := m
      obtain ⟨hfirst, hlater⟩ := List.forall_mem_cons.1 hmembers
      rw [Shape.decodeMembers] at h
      split at h
      next => exact ih hlater h
      next s hs =>
        split at h
        next => cases h
        next =>
          split at h
          next => cases h
          next w hw =>
            obtain ⟨rest, hrest, rfl⟩ := exists_of_map_eq_ok h
            have hdecodes : Decodes v := hfirst (hs ▸ Option.some_ne_none s)
            refine List.forall_mem_cons.2 ⟨fun s' hs' => ?_, ih hlater hrest⟩
            rw [hs] at hs'
            cases hs'
            exact hdecodes _ _ _ hw

theorem conforms_record {name : String} {fields : List (String × Shape)}
    {members ws : List (String × Json)} (hmembers : MembersConform fields members)
    (h : Shape.arrange members fields = .ok ws) : Conforms (.record name fields) (.object ws) :=
  .record fun hnodup => fieldsConform_of_arrange hmembers h hnodup

/-- The fields of two records that share an object: those that only the first one has are brought
into their shapes when the others are known. -/
theorem conforms_merged {name : String} {inner own : List (String × Shape)}
    {members others found ms ws : List (String × Json)} (hown : MembersConform own members)
    (harrange : Shape.arrange members own = .ok ws)
    (hothers : ∀ m ∈ others, Shape.fieldShape m.1 own = none → Decodes m.2)
    (hdecode : Shape.decodeMembers true
      (inner.filter fun f => (Shape.fieldShape f.1 own).isNone) [] others = .ok found)
    (hfound : Shape.arrange found
      (inner.filter fun f => (Shape.fieldShape f.1 own).isNone) = .ok ms) :
    Conforms (.merged name inner own) (.object (ms ++ ws)) := by
  refine .merged (fun hnodup => ?_) fun hnodup => fieldsConform_of_arrange hown harrange hnodup
  refine fieldsConform_of_arrange (membersConform_decodeMembers (fun m hm hfield => ?_) hdecode)
    hfound ((List.filter_sublist.map Prod.fst).nodup hnodup)
  -- What the second record takes never comes up here: its names are no fields that are left.
  obtain ⟨s, hs⟩ := Option.ne_none_iff_exists'.1 hfield
  rw [fieldShape_eq] at hs
  have hnone := (List.mem_filter.1 (mem_of_entryOf? hs)).2
  exact hothers m hm (Option.isNone_iff_eq_none.1 hnone)

end Decoding

/-- What a value that is neither null nor a container comes to. -/
def decodeScalar (loose : Bool) (shape : Shape) (v : Json) : Except Cause Json :=
  match shape, v with
  | .any, v => .ok v
  | .flag, .bool b => .ok (.bool b)
  | .text, .string s => .ok (.string s)
  | .natural name, v => Shape.ofNumber (.natural name) v
  | .integer, v => Shape.ofNumber .integer v
  | .number, v => Shape.ofNumber .number v
  | .choice labels, v => Shape.decodeChoice loose labels v
  | s, v => .error (.wrongType v.found s.expected)

theorem conforms_decodeScalar {loose : Bool} {shape : Shape} {v w : Json} (hv : InRange v)
    (h : decodeScalar loose shape.required v = .ok w) : Conforms shape w := by
  refine .of_required shape ?_
  generalize shape.required = s at h ⊢
  unfold decodeScalar at h
  split at h
  next =>
    cases h
    exact .any hv
  next b =>
    cases h
    exact .flag b
  next s =>
    cases h
    exact .text s
  next => exact conforms_ofNumber hv h
  next => exact conforms_ofNumber hv h
  next => exact conforms_ofNumber hv h
  next => exact conforms_decodeChoice h
  next => cases h

theorem decodes_array {items : List Json} (hin : InRange (.array items))
    (hitems : ∀ v ∈ items, Decodes v) : Decodes (.array items) := by
  intro loose shape w h
  refine .of_required shape ?_
  rw [Shape.decode.eq_def] at h
  dsimp only at h
  generalize shape.required = s at h ⊢
  split at h
  next =>
    cases h
    exact .any hin
  next item =>
    obtain ⟨ws, hws, rfl⟩ := exists_of_map_eq_ok h
    exact .list (conforms_decodeItems hitems hws)
  next name fields =>
    obtain ⟨ws, hws, rfl⟩ := exists_of_map_eq_ok h
    exact .record fun _ => fieldsConform_decodeFields hitems hws
  next labels => exact conforms_decodeChoice h
  next => cases h

theorem decodes_object {members : List (String × Json)} (hin : InRange (.object members))
    (hmembers : ∀ m ∈ members, Decodes m.2) : Decodes (.object members) := by
  intro loose shape w h
  refine .of_required shape ?_
  rw [Shape.decode.eq_def] at h
  dsimp only at h
  generalize shape.required = s at h ⊢
  split at h
  next =>
    cases h
    exact .any hin
  next item =>
    obtain ⟨ws, hws, rfl⟩ := exists_of_map_eq_ok h
    exact .table (conforms_decodeTable hmembers hws)
  next name fields =>
    split at h
    next => cases h
    next found hfound =>
      obtain ⟨ws, hws, rfl⟩ := exists_of_map_eq_ok h
      exact conforms_record (membersConform_decodeMembers (fun m hm _ => hmembers m hm) hfound) hws
  next name inner own =>
    split at h
    next => cases h
    next found hfound =>
      have hown := membersConform_decodeMembers (fun m hm _ => hmembers m hm) hfound
      split at h
      next => cases h
      next ws hws =>
        split at h
        next => cases h
        next others hothers =>
          obtain ⟨ms, hms, rfl⟩ := exists_of_map_eq_ok h
          exact conforms_merged hown hws (fun m hm _ => hmembers m hm) hothers hms
  next labels => exact conforms_decodeChoice h
  next => cases h

/-- A value with numbers in their range takes the shape that it is brought into. -/
theorem InRange.decodes {v : Json} (hv : InRange v) : Decodes v := by
  induction hv with
  | null =>
      intro loose shape w h
      rw [Shape.decode.eq_def] at h
      dsimp only at h
      split at h
      next =>
        cases h
        exact .any .null
      next =>
        cases h
        exact .missing
      next => exact conforms_decodeChoice h
      next => cases h
  | array hitems ih => exact decodes_array (.array hitems) ih
  | object hmembers ih => exact decodes_object (.object hmembers) ih
  | bool b =>
      intro loose shape w h
      rw [Shape.decode.eq_def] at h
      exact conforms_decodeScalar (.bool b) h
  | int hlow hhigh =>
      intro loose shape w h
      rw [Shape.decode.eq_def] at h
      exact conforms_decodeScalar (.int hlow hhigh) h
  | float hx =>
      intro loose shape w h
      rw [Shape.decode.eq_def] at h
      exact conforms_decodeScalar (.float hx) h
  | string s =>
      intro loose shape w h
      rw [Shape.decode.eq_def] at h
      exact conforms_decodeScalar (.string s) h

end LookupBench.Json
