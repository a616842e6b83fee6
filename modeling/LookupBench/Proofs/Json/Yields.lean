import LookupBench.Proofs.Json.Conforms

/-!
# What is read has its shape

Whatever text data is read from, it conforms to the shape it is read by. Each reader says what it
yields, and so the whole reader does, by induction on the work it may do.
-/

namespace LookupBench.Json

namespace Reader

variable {α β : Type} {P : α → Prop} {Q : β → Prop}

/-- Whatever a reader makes of its input has a property. -/
def Yields (P : α → Prop) (r : Reader α) : Prop := ∀ c a c', r c = .ok a c' → P a

theorem yields_any (r : Reader α) : Yields (fun _ => True) r := fun _ _ _ _ => trivial

theorem yields_pure {a : α} (h : P a) : Yields P (pure a) := by
  intro c a' c' heq
  cases heq
  exact h

theorem yields_bind {r : Reader β} {f : β → Reader α} (hr : Yields Q r)
    (hf : ∀ b, Q b → Yields P (f b)) : Yields P (r >>= f) := by
  intro c a c' heq
  simp only [bind, EStateM.bind] at heq
  split at heq
  next b s hfirst => exact hf b (hr c b s hfirst) s a c' heq
  next => cases heq

/-- What is read first says nothing about the rest. -/
theorem yields_then {r : Reader β} {f : β → Reader α} (hf : ∀ b, Yields P (f b)) :
    Yields P (r >>= f) :=
  yields_bind (yields_any r) fun b _ => hf b

theorem yields_refuse (cause : Cause) : Yields P (refuse cause) := fun _ _ _ heq => by cases heq

theorem yields_failHere (cause : Cause) : Yields P (failHere cause) := fun _ _ _ heq => by cases heq

theorem yields_failNext (cause : Cause) : Yields P (failNext cause) := fun _ _ _ heq => by cases heq

theorem yields_ite {c : Prop} [Decidable c] {r r' : Reader α} (hr : Yields P r)
    (hr' : Yields P r') : Yields P (if c then r else r') := by
  split
  · exact hr
  · exact hr'

theorem yields_placed {r : Reader α} (hr : Yields P r) : Yields P (placed r) := by
  intro c a c' heq
  unfold placed at heq
  split at heq
  next b s hfirst =>
    cases heq
    exact hr c a c' hfirst
  next => cases heq

theorem yields_closedBy {body : Reader α} {close : Reader Unit} (hbody : Yields P body) :
    Yields P (closedBy body close) := by
  intro c a c' heq
  unfold closedBy at heq
  split at heq
  next b s hfirst =>
    split at heq
    next =>
      cases heq
      exact hbody c a s hfirst
    next => cases heq
  next => split at heq <;> cases heq

theorem yields_of {result : Except Cause α} (h : ∀ a, result = .ok a → P a) :
    Yields P (of result) := by
  cases result with
  | ok a => exact yields_pure (h a rfl)
  | error cause => exact yields_refuse cause

/-! ### Numbers -/

theorem yields_finite (x : Binary64) : Yields InRange (finite x) := by
  unfold finite
  split
  next hx => exact yields_pure (.float hx)
  next => exact yields_failHere _

theorem inRange_zero (negative : Bool) : InRange (.float (.zero negative)) :=
  .float (Binary64.isFinite_zero negative)

/-- An exponent whose first digit is taken. -/
def exponentFrom (negative positive : Bool) (significand scale : Nat) (first : UInt8) (c : Cursor) :
    Reader Json := do
  let (value, count, outside) := exponentDigits (first.toNat - 48) c.rest
  modify (passed count)
  if outside then
    if significand ≠ 0 && positive then failHere .numberRange
    let _ ← digits
    pure (.float (.zero negative))
  else
    let e : Int := if positive then value else -value
    finite (Binary64.ofDecimal negative significand (e - scale))

theorem yields_exponentFrom (negative positive : Bool) (significand scale : Nat) (first : UInt8)
    (c : Cursor) : Yields InRange (exponentFrom negative positive significand scale first c) := by
  have hzero : Yields InRange (do
      let _ ← digits
      pure (.float (.zero negative))) := yields_then fun _ => yields_pure (inRange_zero negative)
  exact yields_then fun _ => yields_ite (yields_ite (yields_then fun _ => hzero) hzero)
    (yields_finite _)

theorem yields_signedExponent (negative positive : Bool) (significand scale : Nat) :
    Yields InRange (signedExponent negative positive significand scale) := by
  unfold signedExponent
  refine yields_then fun d? => ?_
  cases d? with
  | none => exact yields_failHere _
  | some d =>
      have hrest := yields_exponentFrom negative positive significand scale d
      exact yields_ite (yields_then fun _ => yields_then hrest) (yields_then hrest)

theorem yields_exponent (negative : Bool) (significand scale : Nat) :
    Yields InRange (exponent negative significand scale) := by
  have hrest := fun positive => yields_signedExponent negative positive significand scale
  unfold exponent
  exact yields_then fun _ => yields_then fun next =>
    yields_ite (yields_then fun _ => hrest _) (hrest _)

theorem yields_fraction (negative : Bool) (whole : Bytes) :
    Yields InRange (fraction negative whole) := by
  unfold fraction
  refine yields_then fun places => yields_ite (yields_then fun next => ?_) (yields_then fun next =>
    yields_ite (yields_exponent _ _ _) (yields_finite _))
  cases next with
  | none => exact yields_failNext _
  | some b => exact yields_failNext _

theorem yields_ofInteger (negative : Bool) (n : Nat) : Yields InRange (ofInteger negative n) := by
  unfold ofInteger
  split
  next hpositive =>
    simp only [Bool.and_eq_true, decide_eq_true_eq] at hpositive
    exact yields_pure (.int (by omega) (by omega))
  next =>
    split
    next hnegative =>
      simp only [Bool.and_eq_true, decide_eq_true_eq] at hnegative
      exact yields_pure (.int (by omega) (by omega))
    next => exact yields_finite _

/-- A number whose first digit is taken. -/
def numberFrom (negative : Bool) (first : UInt8) : Reader Json := do
  let whole := first :: (← moreDigits first)
  match ← peek with
  | some 46 => advance; fraction negative whole
  | next =>
    if isExponentMark next then exponent negative (decimal whole) 0
    else ofInteger negative (decimal whole)

theorem yields_numberFrom (negative : Bool) (first : UInt8) :
    Yields InRange (numberFrom negative first) := by
  refine yields_then fun more => yields_then fun next => ?_
  split
  · exact yields_then fun _ => yields_fraction _ _
  · exact yields_ite (yields_exponent _ _ _) (yields_ofInteger _ _)

theorem yields_number (negative : Bool) : Yields InRange (number negative) := by
  unfold number
  refine yields_then fun d? => ?_
  cases d? with
  | none => exact yields_failHere _
  | some d =>
      have hrest := yields_numberFrom negative d
      exact yields_ite (yields_then fun _ => hrest) hrest

/-! ### Scalars -/

/-- What has the wrong form is refused, whatever it is. -/
theorem yields_wrongForm (b : UInt8) (expected : String) : Yields P (wrongForm b expected) := by
  have hword : ∀ (w : Bytes) (cause : Cause), Yields P (do advance; word w; refuse cause) :=
    fun w cause => yields_then fun _ => yields_then fun _ => yields_refuse cause
  unfold wrongForm
  refine yields_ite (hword _ _) <| yields_ite (hword _ _) <| yields_ite (hword _ _) <|
    yields_ite ?_ <| yields_ite ?_ <| yields_ite ?_ <| yields_ite (yields_refuse _) <|
    yields_ite (yields_refuse _) (yields_failNext _)
  · exact yields_then fun _ => yields_then fun _ => yields_refuse _
  · exact yields_then fun _ => yields_refuse _
  · exact yields_then fun _ => yields_then fun _ => yields_refuse _

theorem yields_scalar (shape : Shape) (b : UInt8) : Yields (Conforms shape) (scalar shape b) := by
  have hnumber : ∀ negative, Yields (Conforms shape) (do
      of (Shape.ofNumber shape (← number negative))) := fun negative =>
    yields_bind (yields_number negative) fun v hv => yields_of fun w hw => conforms_ofNumber hv hw
  have hword : ∀ (w : Bytes) {v : Json}, Conforms shape v →
      Yields (Conforms shape) (do advance; word w; pure v) := fun w v hv =>
    yields_then fun _ => yields_then fun _ => yields_pure hv
  unfold scalar
  refine yields_ite (yields_ite (yields_then fun _ => hnumber _) (hnumber _)) ?_
  cases shape with
  | any =>
      exact yields_ite (hword _ (.any .null)) <| yields_ite (hword _ (.any (.bool true))) <|
        yields_ite (hword _ (.any (.bool false))) <|
        yields_ite (yields_then fun _ => yields_then fun s => yields_pure (.any (.string s)))
          (yields_failNext _)
  | flag =>
      exact yields_ite (hword _ (.flag true)) <| yields_ite (hword _ (.flag false))
        (yields_wrongForm _ _)
  | text =>
      exact yields_ite (yields_then fun _ => yields_then fun s => yields_pure (.text s))
        (yields_wrongForm _ _)
  | _ => exact yields_wrongForm _ _

theorem yields_label (labels : List String) :
    Yields (Conforms (.choice labels)) (label labels) := by
  refine yields_placed (yields_then fun b? => ?_)
  cases b? with
  | none => exact yields_failNext _
  | some b =>
      refine yields_ite (yields_then fun _ => yields_then fun s => ?_) (yields_wrongForm _ _)
      split
      next hs => exact yields_pure (.choice (by simpa using hs))
      next => exact yields_refuse _

/-- A choice as an object, whose opening brace comes next. -/
def choiceInObject (labels : List String) : Reader Json := do
  advance
  let chosen ← label labels
  colon
  nothing
  match ← peekToken with
  | none => failHere .endInObject
  | some b =>
    if b = 125 then advance; pure chosen
    else failHere .noValue

theorem yields_choiceInObject (labels : List String) :
    Yields (Conforms (.choice labels)) (choiceInObject labels) := by
  refine yields_then fun _ => yields_bind (yields_label labels) fun chosen hchosen =>
    yields_then fun _ => yields_then fun _ => yields_then fun b? => ?_
  cases b? with
  | none => exact yields_failHere _
  | some b => exact yields_ite (yields_then fun _ => yields_pure hchosen) (yields_failHere _)

theorem yields_choice (depth : Nat) (labels : List String) :
    Yields (Conforms (.choice labels)) (choice depth labels) := by
  unfold choice
  refine yields_then fun b? => ?_
  cases b? with
  | none => exact yields_failNext _
  | some b =>
      have hrest := yields_choiceInObject labels
      exact yields_ite (yields_label labels) <|
        yields_ite (yields_ite (yields_then fun _ => hrest) hrest) (yields_failNext _)

/-! ### Containers -/

/-- The members that were read for a shape, each by the shape of its key. -/
def MembersRead (shape : Shape) (members : List (String × Json)) : Prop :=
  ∀ m ∈ members, ∃ s, IsMember shape m.1 s ∧ Conforms s m.2

theorem mem_of_mem_sorted {members : List (String × Json)} {m : String × Json}
    (h : m ∈ sorted members) : m ∈ members := by
  suffices hfold : ∀ ms, m ∈ members.foldl (fun ms e => putEntry e.1 e.2 ms) ms →
      m ∈ ms ∨ m ∈ members from (hfold [] h).resolve_left nofun
  clear h
  induction members with
  | nil => exact fun ms h => .inl h
  | cons e members ih =>
      intro ms h
      rcases ih _ h with hms | hmembers
      · rcases eq_or_mem_of_mem_putEntry hms with rfl | hms
        · exact .inr List.mem_cons_self
        · exact .inl hms
      · exact .inr (List.mem_cons_of_mem _ hmembers)

theorem inRange_of_isMember {shape : Shape} {key : String} {s : Shape} {v : Json}
    (hmember : Member.repeatable .any = memberOf shape key) (hs : IsMember shape key s)
    (hv : Conforms s v) : InRange v := by
  rw [IsMember, ← hmember] at hs
  rcases hs with hs | hs
  · cases hs
  · cases hs
    cases hv with
    | any hv => exact hv

theorem MembersRead.membersConform {shape : Shape} {fields : List (String × Shape)}
    {members : List (String × Json)} (h : MembersRead shape members)
    (hfields : ∀ key s, Shape.fieldShape key fields = some s → memberOf shape key = .once s) :
    MembersConform fields members := by
  intro m hm s hs
  obtain ⟨s', hmember, hvalue⟩ := h m hm
  rw [IsMember, hfields m.1 s hs] at hmember
  rcases hmember with heq | heq
  · cases heq
    exact hvalue
  · cases heq

theorem conforms_assemble {shape : Shape} {members : List (String × Json)} {w : Json}
    (hshape : takesMembers shape = true) (hmembers : MembersRead shape members)
    (h : assemble shape members = .ok w) : Conforms shape w := by
  cases shape with
  | any =>
      cases h
      refine .any (.object fun m hm => ?_)
      obtain ⟨s, hs, hv⟩ := hmembers m (mem_of_mem_sorted hm)
      exact inRange_of_isMember rfl hs hv
  | table item =>
      cases h
      refine .table fun m hm => ?_
      obtain ⟨s, hs | hs, hv⟩ := hmembers m (mem_of_mem_sorted hm)
      · cases hs
      · cases hs
        exact hv
  | record name fields =>
      obtain ⟨ws, hws, rfl⟩ := exists_of_map_eq_ok h
      refine conforms_record (hmembers.membersConform fun key s hs => ?_) hws
      rw [memberOf, hs]
  | merged name inner own =>
      have hown : MembersConform own members := hmembers.membersConform fun key s hs => by
        rw [memberOf, hs]
      rw [assemble] at h
      simp only [bind, Except.bind, pure, Except.pure] at h
      split at h
      next => cases h
      next ws hws =>
        split at h
        next => cases h
        next found hfound =>
          split at h
          next => cases h
          next ms hms =>
            cases h
            refine conforms_merged hown hws (fun m hm hnone => ?_) hfound hms
            obtain ⟨s, hs, hv⟩ := hmembers m hm
            exact (inRange_of_isMember (by rw [memberOf, hnone]) hs hv).decodes
  | _ => cases hshape

/-- What the readers of shaped data yield with so much fuel. -/
structure Conforming (fuel : Nat) : Prop where
  value : ∀ depth shape, Yields (Conforms shape) (Reader.value fuel depth shape)
  items : ∀ depth item later,
    Yields (fun vs => ∀ v ∈ vs, Conforms item v) (Reader.items fuel depth item later)
  fieldItems : ∀ depth arity index fields,
    Yields (FieldsConform fields) (Reader.fieldItems fuel depth arity index fields)
  members : ∀ depth shape seen, Yields (MembersRead shape) (Reader.members fuel depth shape seen)

namespace Conforming

variable {fuel : Nat}

theorem items_succ (h : Conforming fuel) (depth : Nat) (item : Shape) (later : Bool) :
    Yields (fun vs => ∀ v ∈ vs, Conforms item v) (Reader.items (fuel + 1) depth item later) := by
  rw [Reader.items]
  refine yields_then fun another => yields_ite ?_ (yields_pure (List.forall_mem_nil _))
  exact yields_bind (h.value depth item) fun v hv =>
    yields_bind (h.items depth item true) fun vs hvs =>
      yields_pure (List.forall_mem_cons.2 ⟨hv, hvs⟩)

theorem fieldItems_succ (h : Conforming fuel) (depth : Nat) (arity : String) (index : Nat)
    (fields : List (String × Shape)) :
    Yields (FieldsConform fields) (Reader.fieldItems (fuel + 1) depth arity index fields) := by
  cases fields with
  | nil =>
      rw [Reader.fieldItems]
      exact yields_pure .nil
  | cons f fields =>
      obtain ⟨key, s⟩ := f
      rw [Reader.fieldItems]
      refine yields_then fun another => yields_ite ?_ (yields_refuse _)
      exact yields_bind (h.value depth s) fun v hv =>
        yields_bind (h.fieldItems depth arity (index + 1) fields) fun ms hms =>
          yields_pure (.cons hv hms)

theorem members_succ (h : Conforming fuel) (depth : Nat) (shape : Shape) (seen : List String) :
    Yields (MembersRead shape) (Reader.members (fuel + 1) depth shape seen) := by
  rw [Reader.members]
  refine yields_then fun another => yields_ite ?_ (yields_pure (List.forall_mem_nil _))
  refine yields_then fun _ => yields_then fun key => ?_
  have hmember : ∀ s, IsMember shape key s → Yields (MembersRead shape) (do
      colon
      let v ← Reader.value fuel depth s
      return (key, v) :: (← Reader.members fuel depth shape (key :: seen))) := fun s hs =>
    yields_then fun _ => yields_bind (h.value depth s) fun v hv =>
      yields_bind (h.members depth shape (key :: seen)) fun ms hms =>
        yields_pure (List.forall_mem_cons.2 ⟨⟨s, hs, hv⟩, hms⟩)
  cases hof : memberOf shape key with
  | once s =>
      have hs := hmember s (.inl hof)
      exact yields_ite (yields_then fun _ => hs) hs
  | repeatable s => exact hmember s (.inr hof)
  | ignored =>
      exact yields_then fun _ => yields_then fun _ => yields_then fun _ =>
        h.members depth shape (key :: seen)

/-- An array whose opening bracket is taken. -/
def arrayOf (fuel depth : Nat) (shape : Shape) : Reader Json :=
  match shape with
  | .record name fields => do
    let arity := Shape.arity name fields.length
    let members ← closedBy (Reader.fieldItems fuel depth arity 0 fields) endOfItems
    pure (.object members)
  | .list item => return .array (← closedBy (Reader.items fuel depth item false) endOfItems)
  | _ => return .array (← closedBy (Reader.items fuel depth .any false) endOfItems)

/-- An object whose opening brace is taken. -/
def objectOf (fuel depth : Nat) (shape : Shape) : Reader Json :=
  closedBy (do of (assemble shape (← Reader.members fuel depth shape []))) endOfMembers

theorem yields_arrayOf (h : Conforming fuel) (depth : Nat) {shape : Shape}
    (hshape : takesItems shape = true) : Yields (Conforms shape) (arrayOf fuel depth shape) := by
  cases shape with
  | any =>
      refine yields_bind (yields_closedBy (h.items depth .any false)) fun vs hvs => yields_pure ?_
      exact .any (.array fun v hv => by cases hvs v hv with | any hv => exact hv)
  | list item =>
      exact yields_bind (yields_closedBy (h.items depth item false)) fun vs hvs =>
        yields_pure (.list hvs)
  | record name fields =>
      exact yields_bind (yields_closedBy (h.fieldItems depth _ 0 fields)) fun ms hms =>
        yields_pure (.record fun _ => hms)
  | _ => cases hshape

theorem yields_objectOf (h : Conforming fuel) (depth : Nat) {shape : Shape}
    (hshape : takesMembers shape = true) : Yields (Conforms shape) (objectOf fuel depth shape) :=
  yields_closedBy <| yields_bind (h.members depth shape []) fun _ hms =>
    yields_of fun _ hw => conforms_assemble hshape hms hw

/-- Data of a shape that is neither optional nor a choice. -/
def direct (fuel depth : Nat) (shape : Shape) : Reader Json := placed do
  match ← peekToken with
  | none => failNext .endInValue
  | some b =>
    if b = 91 && takesItems shape then
      if depth = 0 then failNext .tooDeep
      advance
      arrayOf fuel (depth - 1) shape
    else if b = 123 && takesMembers shape then
      if depth = 0 then failNext .tooDeep
      advance
      objectOf fuel (depth - 1) shape
    else scalar shape b

theorem yields_direct (h : Conforming fuel) (depth : Nat) (shape : Shape) :
    Yields (Conforms shape) (direct fuel depth shape) := by
  refine yields_placed (yields_then fun b? => ?_)
  cases b? with
  | none => exact yields_failNext _
  | some b =>
      dsimp only
      split
      next hopen =>
        have hshape := (Bool.and_eq_true_iff.1 hopen).2
        have harray := yields_then (r := advance) fun _ => h.yields_arrayOf (depth - 1) hshape
        exact yields_ite (yields_then fun _ => harray) harray
      next =>
        split
        next hopen =>
          have hshape := (Bool.and_eq_true_iff.1 hopen).2
          have hobject := yields_then (r := advance) fun _ => h.yields_objectOf (depth - 1) hshape
          exact yields_ite (yields_then fun _ => hobject) hobject
        next => exact yields_scalar shape b

theorem value_succ (h : Conforming fuel) (depth : Nat) (shape : Shape) :
    Yields (Conforms shape) (Reader.value (fuel + 1) depth shape) := by
  cases shape with
  | optional item =>
      rw [Reader.value]
      have hnull : Yields (Conforms (.optional item)) (do
          advance
          word (Utf8.encode "ull")
          pure .null) := yields_then fun _ => yields_then fun _ => yields_pure .missing
      exact yields_then fun next => yields_ite hnull fun c v c' heq =>
        .present (h.value depth item c v c' heq)
  | choice labels =>
      rw [Reader.value]
      exact yields_choice depth labels
  | _ =>
      simp only [Reader.value]
      exact h.yields_direct depth _

end Conforming

theorem conforming (fuel : Nat) : Conforming fuel := by
  -- The four readers call each other with one unit less, so they are settled together.
  induction fuel with
  | zero =>
      constructor
      · intro depth shape
        rw [Reader.value]
        exact yields_failNext _
      · intro depth item later
        rw [Reader.items]
        exact yields_failNext _
      · intro depth arity index fields
        rw [Reader.fieldItems]
        exact yields_failNext _
      · intro depth shape seen
        rw [Reader.members]
        exact yields_failNext _
  | succ fuel ih => exact ⟨ih.value_succ, ih.items_succ, ih.fieldItems_succ, ih.members_succ⟩

end Reader

/-- What is read from a text has the shape that it is read by. -/
theorem conforms_of_read {shape : Shape} {input : Bytes} {v : Json}
    (h : read shape input = .ok v) : Conforms shape v := by
  have hwhole : Reader.Yields (Conforms shape) (Reader.whole shape depthLimit) := by
    refine Reader.yields_then fun c => ?_
    refine Reader.yields_bind ((Reader.conforming _).value depthLimit shape) fun v hv =>
      Reader.yields_then fun next => ?_
    cases next with
    | none => exact Reader.yields_pure hv
    | some b => exact Reader.yields_failNext _
  rw [read, readWithin] at h
  split at h
  next w c hw =>
    cases h
    exact hwhole _ _ _ hw
  next => cases h

end LookupBench.Json
