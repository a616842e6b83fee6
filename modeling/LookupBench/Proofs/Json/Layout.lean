import LookupBench.Proofs.Json.RoundTrip

/-!
# Indented texts read by their shapes

What is written for a value over several lines is read back, by the shape that is expected of it. The
blanks between the parts are passed, wherever the reader looks for the next part. The value that is
read may differ from the one that was written, since a reader puts data into its normal form.
-/

namespace LookupBench.Json

/-! ### Indented texts as octets -/

def octetsAt (level : Nat) (v : Json) : Bytes := Utf8.encodeChars (indented level v)

/-- The end of a line, and the blanks in front of the next. -/
def gap (level : Nat) : Bytes := 10 :: List.replicate (2 * level) 32

def Blank (bs : Bytes) : Prop := ∀ b ∈ bs, Cursor.isBlankByte b = true

theorem blank_gap (level : Nat) : Blank (gap level) := by
  intro b hb
  rcases List.mem_cons.1 hb with rfl | hb
  · rfl
  · rw [(List.mem_replicate.1 hb).2]
    rfl

theorem blank_nil : Blank [] := nofun

theorem blank_space : Blank [32] := by
  intro b hb
  rw [List.mem_singleton.1 hb]
  rfl

theorem encodeChars_newline (level : Nat) : Utf8.encodeChars (newline level) = gap level := by
  have hblanks : ∀ n, Utf8.encodeChars (List.replicate n ' ') = List.replicate n 32 := fun n => by
    induction n with
    | zero => rfl
    | succ n ih =>
        rw [List.replicate_succ, Utf8.encodeChars, ih]
        rfl
  rw [newline, Utf8.encodeChars, hblanks]
  rfl

/-- The items of an array, each on a line of its own. -/
def itemsAt (level : Nat) : Bool → List Json → Bytes
  | _, [] => []
  | later, x :: rest =>
    Reader.comma later ++ (gap level ++ (octetsAt level x ++ itemsAt level true rest))

/-- The members of an object, each on a line of its own. -/
def membersAt (level : Nat) : Bool → List (String × Json) → Bytes
  | _, [] => []
  | later, (k, x) :: rest =>
    Reader.comma later ++ (gap level ++ (Utf8.encodeChars (quote k) ++
      58 :: 32 :: (octetsAt level x ++ membersAt level true rest)))

/-- What stands in front of the end of a container. -/
def closing {α : Type} (level : Nat) : List α → Bytes
  | [] => []
  | _ :: _ => gap level

theorem blank_closing {α : Type} (level : Nat) (l : List α) : Blank (closing level l) := by
  cases l with
  | nil => exact blank_nil
  | cons _ _ => exact blank_gap level

theorem encodeChars_indentedItems (level : Nat) (items : List Json) :
    Utf8.encodeChars (indentedItems level items) = itemsAt level true items := by
  induction items with
  | nil => rfl
  | cons x rest ih =>
      simp only [indentedItems, itemsAt, Utf8.encodeChars_append, Utf8.encodeChars,
        List.cons_append, encodeChars_newline, ih, List.append_assoc]
      rfl

theorem encodeChars_indentedMembers (level : Nat) (members : List (String × Json)) :
    Utf8.encodeChars (indentedMembers level members) = membersAt level true members := by
  induction members with
  | nil => rfl
  | cons m rest ih =>
      obtain ⟨k, x⟩ := m
      simp only [indentedMembers, membersAt, Utf8.encodeChars_append, Utf8.encodeChars,
        List.cons_append, encodeChars_newline, ih, List.append_assoc]
      rfl

theorem octetsAt_array (level : Nat) (items : List Json) :
    octetsAt level (.array items)
      = 91 :: (itemsAt (level + 1) false items ++ (closing level items ++ [93])) := by
  cases items with
  | nil => rfl
  | cons x rest =>
      simp only [octetsAt, indented, itemsAt, closing, Utf8.encodeChars_append, Utf8.encodeChars,
        List.cons_append, encodeChars_newline, encodeChars_indentedItems, List.append_assoc]
      rfl

theorem octetsAt_object (level : Nat) (members : List (String × Json)) :
    octetsAt level (.object members)
      = 123 :: (membersAt (level + 1) false members ++ (closing level members ++ [125])) := by
  cases members with
  | nil => rfl
  | cons m rest =>
      obtain ⟨k, x⟩ := m
      simp only [octetsAt, indented, membersAt, closing, Utf8.encodeChars_append, Utf8.encodeChars,
        List.cons_append, encodeChars_newline, encodeChars_indentedMembers, List.append_assoc]
      rfl

/-- The text of a value, whatever blanks stand in front of it and whatever follows it, is read by a
shape as a value of that shape. -/
structure ReadsAs (depth : Nat) (shape : Shape) (v w : Json) : Prop where
  opening : ∀ level, ∃ b more, octetsAt level v = b :: more ∧ Cursor.isBlankByte b = false ∧ b ≠ 93
  reads : ∀ {level fuel : Nat} {lead rest : Bytes}, Blank lead →
    2 * (octetsAt level v).length ≤ fuel → Reader.EndsNumber rest →
    Reader.Reads (Reader.value fuel depth shape) (lead ++ (octetsAt level v ++ rest)) w rest

namespace Reader

variable {fuel depth level : Nat} {lead rest : Bytes} {shape : Shape}

/-! ### Blanks -/

theorem reads_peekToken_blank (hlead : Blank lead) {b : UInt8} (hb : Cursor.isBlankByte b = false)
    (rest : Bytes) : Reads peekToken (lead ++ b :: rest) (some b) (b :: rest) := by
  have hdrop : (lead ++ b :: rest).dropWhile Cursor.isBlankByte = b :: rest := by
    rw [List.dropWhile_append_of_pos hlead, List.dropWhile_cons_of_neg (by simp [hb])]
  intro line column
  have hskip := skipWhile_rest Cursor.isBlankByte (lead ++ b :: rest) line column
  rw [hdrop] at hskip
  simp only [peekToken, Cursor.skipBlank]
  generalize Cursor.skipWhile Cursor.isBlankByte (lead ++ b :: rest) line column = c at hskip
  obtain ⟨_, line', column'⟩ := c
  cases hskip
  exact ⟨line', column', rfl⟩

theorem endsNumber_blank (hlead : Blank lead) {b : UInt8} (hb : b ∈ [44, 93, 125]) (rest : Bytes) :
    EndsNumber (lead ++ b :: rest) := by
  cases lead with
  | nil => exact endsNumber_cons hb rest
  | cons c lead =>
      have hc := hlead c List.mem_cons_self
      simp only [Cursor.isBlankByte, Bool.or_eq_true, decide_eq_true_eq] at hc
      rintro _ ⟨⟩
      rcases hc with ((rfl | rfl) | rfl) | rfl <;> decide

/-! ### Items -/

theorem reads_anotherItem_gap {b : UInt8} (hblank : Cursor.isBlankByte b = false) (hclose : b ≠ 93)
    (later : Bool) (more : Bytes) :
    Reads (anotherItem later) (comma later ++ (gap level ++ b :: more)) true (b :: more) := by
  cases later with
  | false =>
      apply reads_bind (reads_peekToken_blank (blank_gap level) hblank more)
      dsimp only
      rw [if_neg hclose]
      exact reads_pure true _
  | true =>
      refine reads_bind (reads_peekToken (by decide) _) (reads_bind (reads_advance 44 _)
        (reads_bind (reads_peekToken_blank (blank_gap level) hblank more) ?_))
      dsimp only
      rw [if_neg hclose]
      exact reads_pure true _

theorem endsNumber_itemsAt (hlead : Blank lead) (items : List Json) (rest : Bytes) :
    EndsNumber (itemsAt level true items ++ (lead ++ 93 :: rest)) := by
  cases items with
  | nil => exact endsNumber_blank hlead (by decide) rest
  | cons x items => exact endsNumber_cons (b := 44) (by decide) _

theorem reads_itemsAt {item : Shape} (hlead : Blank lead) {xs ws : List Json}
    (h : List.Forall₂ (ReadsAs depth item) xs ws) (later : Bool)
    (hfuel : 2 * (itemsAt level later xs).length < fuel) :
    Reads (items fuel depth item later) (itemsAt level later xs ++ (lead ++ 93 :: rest)) ws
      (93 :: rest) := by
  induction h generalizing fuel later with
  | nil =>
      obtain ⟨fuel, rfl⟩ := Nat.exists_eq_add_of_lt (Nat.zero_lt_of_lt hfuel)
      rw [Nat.zero_add, items]
      exact reads_bind
        (reads_bind (reads_peekToken_blank hlead (by decide) rest) (reads_pure false _))
        (reads_pure _ _)
  | @cons x w xs ws hx hxs ih =>
      obtain ⟨fuel, rfl⟩ := Nat.exists_eq_add_of_lt (Nat.zero_lt_of_lt hfuel)
      simp only [itemsAt, gap, List.length_append, List.length_cons] at hfuel
      obtain ⟨b, more, htext, hblank, hclose⟩ := hx.opening level
      have hanother : Reads (anotherItem later)
          (comma later ++ (gap level ++ (octetsAt level x ++
            (itemsAt level true xs ++ (lead ++ 93 :: rest))))) true
          (octetsAt level x ++ (itemsAt level true xs ++ (lead ++ 93 :: rest))) := by
        rw [htext]
        exact reads_anotherItem_gap hblank hclose later _
      simp only [itemsAt, List.append_assoc]
      rw [Nat.zero_add, items]
      refine reads_bind hanother ?_
      exact reads_bind (hx.reads blank_nil (by omega) (endsNumber_itemsAt hlead xs rest))
        (reads_bind (ih true (by omega)) (reads_pure _ _))

/-! ### Members -/

theorem reads_anotherMember_gap (later : Bool) (more : Bytes) :
    Reads (anotherMember later) (comma later ++ (gap level ++ 34 :: more)) true (34 :: more) := by
  cases later with
  | false =>
      exact reads_bind (reads_peekToken_blank (blank_gap level) (by decide) more) (reads_pure true _)
  | true =>
      exact reads_bind (reads_peekToken (by decide) _) (reads_bind (reads_advance 44 _)
        (reads_bind (reads_peekToken_blank (blank_gap level) (by decide) more) (reads_pure true _)))

/-- The shape that a member is read by. -/
def IsMember (shape : Shape) (key : String) (s : Shape) : Prop :=
  memberOf shape key = .once s ∨ memberOf shape key = .repeatable s

/-- A member is read under its key. -/
structure MemberReads (depth : Nat) (shape : Shape) (m n : String × Json) : Prop where
  key : n.1 = m.1
  value : ∃ s, IsMember shape m.1 s ∧ ReadsAs depth s m.2 n.2

theorem endsNumber_membersAt (hlead : Blank lead) (members : List (String × Json)) (rest : Bytes) :
    EndsNumber (membersAt level true members ++ (lead ++ 125 :: rest)) := by
  cases members with
  | nil => exact endsNumber_blank hlead (by decide) rest
  | cons m members => exact endsNumber_cons (b := 44) (by decide) _

theorem reads_membersAt (hlead : Blank lead) {ms ns : List (String × Json)}
    (h : List.Forall₂ (MemberReads depth shape) ms ns) (hnodup : (ms.map Prod.fst).Nodup)
    (seen : List String) (hseen : ∀ m ∈ ms, m.1 ∉ seen)
    (hfuel : 2 * (membersAt level (!seen.isEmpty) ms).length < fuel) :
    Reads (members fuel depth shape seen)
      (membersAt level (!seen.isEmpty) ms ++ (lead ++ 125 :: rest)) ns (125 :: rest) := by
  induction h generalizing fuel seen with
  | nil =>
      obtain ⟨fuel, rfl⟩ := Nat.exists_eq_add_of_lt (Nat.zero_lt_of_lt hfuel)
      rw [Nat.zero_add, members]
      exact reads_bind
        (reads_bind (reads_peekToken_blank hlead (by decide) rest) (reads_pure false _))
        (reads_pure _ _)
  | @cons m n ms ns hm hms ih =>
      obtain ⟨fuel, rfl⟩ := Nat.exists_eq_add_of_lt (Nat.zero_lt_of_lt hfuel)
      obtain ⟨_, v⟩ := m
      obtain ⟨key, w⟩ := n
      obtain ⟨rfl, s, hmember, hvalue⟩ := hm
      obtain ⟨hkey, hnodup⟩ := List.nodup_cons.1 hnodup
      obtain ⟨hunseen, hseen⟩ := List.forall_mem_cons.1 hseen
      simp only [membersAt, gap, List.length_append, List.length_cons] at hfuel
      have hlater := ih hnodup (key :: seen) (fun m hmem hm => by
        rcases List.mem_cons.1 hm with heq | hm
        · exact hkey (heq ▸ List.mem_map.2 ⟨m, hmem, rfl⟩)
        · exact hseen m hmem hm) (show _ < fuel from by
            change 2 * (membersAt level true ms).length < fuel
            omega)
      have hcolon : ∀ tail, Reads colon (58 :: tail) () tail := fun tail =>
        reads_bind (reads_peekToken (by decide) tail) (reads_advance 58 tail)
      have hvalue : ReadsAs depth s v w := hvalue
      have hrest : Reads (do
            colon
            let v ← value fuel depth s
            return (key, v) :: (← members fuel depth shape (key :: seen)))
          (58 :: 32 :: (octetsAt level v ++ (membersAt level true ms ++ (lead ++ 125 :: rest))))
          ((key, w) :: ns) (125 :: rest) := by
        refine reads_bind (hcolon _) (reads_bind (hvalue.reads blank_space (by omega)
          (endsNumber_membersAt hlead ms rest)) (reads_bind hlater (reads_pure _ _)))
      simp only [membersAt, List.append_assoc, List.cons_append, encodeChars_quote]
      rw [Nat.zero_add, members]
      refine reads_bind (reads_anotherMember_gap _ _)
        (reads_bind (reads_advance 34 _) (reads_bind (reads_string key _) ?_))
      rcases hmember with honce | hrepeatable
      · rw [honce]
        dsimp only
        rw [if_neg (by simpa using hunseen)]
        exact hrest
      · rw [hrepeatable]
        exact hrest

/-! ### Values -/

/-- A shape that says by itself how a value starts. -/
def IsDirect (shape : Shape) : Prop :=
  (∀ item, shape ≠ .optional item) ∧ ∀ labels, shape ≠ .choice labels

variable {b : UInt8} {more : Bytes} {w : Json}

theorem reads_directValue (hdirect : IsDirect shape) (hlead : Blank lead)
    (hblank : Cursor.isBlankByte b = false) (hb : b ≠ 91 ∧ b ≠ 123)
    (h : Reads (scalar shape b) (b :: more) w rest) :
    Reads (value (fuel + 1) depth shape) (lead ++ b :: more) w rest := by
  cases shape with
  | optional item => exact absurd rfl (hdirect.1 item)
  | choice labels => exact absurd rfl (hdirect.2 labels)
  | _ =>
      simp only [value]
      refine reads_placed (reads_bind (reads_peekToken_blank hlead hblank more) ?_)
      dsimp only
      rw [if_neg (by simp [hb.1]), if_neg (by simp [hb.2])]
      exact h

theorem reads_listValue {item : Shape} {ws : List Json} (hlead : Blank lead)
    (h : Reads (Reader.items fuel depth item false) more ws (93 :: rest)) :
    Reads (value (fuel + 1) (depth + 1) (.list item)) (lead ++ 91 :: more) (.array ws) rest := by
  simp only [value]
  refine reads_placed (reads_bind (reads_peekToken_blank hlead (by decide) more) ?_)
  have hclose : Reads endOfItems (93 :: rest) () rest :=
    reads_bind (reads_peekToken (by decide) rest) (reads_advance 93 rest)
  exact reads_bind (reads_advance 91 more)
    (reads_bind (reads_closedBy h hclose) (reads_pure _ rest))

theorem reads_membersValue {ns : List (String × Json)} (hshape : takesMembers shape = true)
    (hlead : Blank lead) (hassemble : assemble shape ns = .ok w)
    (h : Reads (Reader.members fuel depth shape []) more ns (125 :: rest)) :
    Reads (value (fuel + 1) (depth + 1) shape) (lead ++ 123 :: more) w rest := by
  have hclose : Reads endOfMembers (125 :: rest) () rest :=
    reads_bind (reads_peekToken (by decide) rest) (reads_advance 125 rest)
  have hbody : Reads (do of (assemble shape (← Reader.members fuel depth shape []))) more w
      (125 :: rest) := by
    refine reads_bind h ?_
    rw [hassemble]
    exact reads_pure _ _
  have hopened : Reads (do
      advance
      closedBy (do of (assemble shape (← Reader.members fuel depth shape []))) endOfMembers)
      (123 :: more) w rest := reads_bind (reads_advance 123 more) (reads_closedBy hbody hclose)
  cases shape with
  | any | table | record | merged =>
      simp only [value]
      exact reads_placed (reads_bind (reads_peekToken_blank hlead (by decide) more) hopened)
  | _ => cases hshape

end Reader

/-! ### Containers -/

variable {depth : Nat}

theorem readsAs_list {item : Shape} {xs ws : List Json}
    (h : List.Forall₂ (ReadsAs depth item) xs ws) :
    ReadsAs (depth + 1) (.list item) (.array xs) (.array ws) := by
  refine ⟨fun level => ⟨91, _, octetsAt_array level xs, by decide, by decide⟩,
    fun {level fuel lead rest} hlead hfuel _ => ?_⟩
  rw [octetsAt_array, List.length_cons, List.length_append] at hfuel
  obtain ⟨fuel, rfl⟩ := Nat.exists_eq_succ_of_ne_zero (show fuel ≠ 0 by omega)
  rw [octetsAt_array, List.cons_append, List.append_assoc, List.append_assoc]
  exact Reader.reads_listValue hlead
    (Reader.reads_itemsAt (blank_closing level xs) h false (by omega))

theorem readsAs_members {shape : Shape} {ms ns : List (String × Json)} {w : Json}
    (hshape : Reader.takesMembers shape = true)
    (h : List.Forall₂ (Reader.MemberReads depth shape) ms ns) (hnodup : (ms.map Prod.fst).Nodup)
    (hassemble : Reader.assemble shape ns = .ok w) : ReadsAs (depth + 1) shape (.object ms) w := by
  refine ⟨fun level => ⟨123, _, octetsAt_object level ms, by decide, by decide⟩,
    fun {level fuel lead rest} hlead hfuel _ => ?_⟩
  rw [octetsAt_object, List.length_cons, List.length_append] at hfuel
  obtain ⟨fuel, rfl⟩ := Nat.exists_eq_succ_of_ne_zero (show fuel ≠ 0 by omega)
  rw [octetsAt_object, List.cons_append, List.append_assoc, List.append_assoc]
  exact Reader.reads_membersValue hshape hlead hassemble
    (Reader.reads_membersAt (blank_closing level ms) h hnodup [] (by simp)
      (show 2 * (membersAt (level + 1) false ms).length < fuel by omega))

/-- The entries of a table keep their order. -/
theorem readsAs_table {item : Shape} {ms ns : List (String × Json)}
    (order : ms.Pairwise (fun a b => a.1 < b.1))
    (h : List.Forall₂ (fun m n => n.1 = m.1 ∧ ReadsAs depth item m.2 n.2) ms ns) :
    ReadsAs (depth + 1) (.table item) (.object ms) (.object ns) := by
  have hkeys : ns.map Prod.fst = ms.map Prod.fst := by
    induction h with
    | nil => rfl
    | cons hm _ ih => rw [List.map_cons, List.map_cons, hm.1, ih (List.pairwise_cons.1 order).2]
  refine readsAs_members rfl (h.imp fun m n hmn => ⟨hmn.1, item, .inr rfl, hmn.2⟩) ?_ ?_
  · rw [List.nodup_iff_pairwise_ne, List.pairwise_map]
    exact order.imp String.ne_of_lt
  · have horder : ns.Pairwise (fun a b => a.1 < b.1) := by
      rw [← List.pairwise_map, hkeys, List.pairwise_map]
      exact order
    rw [Reader.assemble, sorted_of_pairwise horder]
    · simp
    · simp

/-! ### Scalars -/

section Scalars

variable {shape : Shape} {v w : Json}

/-- A text on one line is the same with and without blanks. -/
theorem ScalarReads.octetsAt_eq (h : ScalarReads shape v w) (level : Nat) :
    octetsAt level v = octets v := by
  obtain ⟨b, more, htext, -, hb, -⟩ := h.reads
  cases v with
  | array items =>
      rw [octets_array, List.cons_append] at htext
      rw [← (List.cons.inj htext).1] at hb
      exact absurd (by decide) hb
  | object members =>
      rw [octets_object, List.cons_append] at htext
      rw [← (List.cons.inj htext).1] at hb
      exact absurd (by decide) hb
  | bool b => cases b <;> rfl
  | null => rfl
  | int => rfl
  | float => rfl
  | string => rfl

theorem ScalarReads.opening (h : ScalarReads shape v w) (level : Nat) :
    ∃ b more, octetsAt level v = b :: more ∧ Cursor.isBlankByte b = false ∧ b ≠ 93 := by
  rw [h.octetsAt_eq]
  obtain ⟨b, more, htext, hblank, hb, -⟩ := h.reads
  simp only [List.mem_cons, List.not_mem_nil, or_false, not_or] at hb
  exact ⟨b, more, htext, hblank, hb.2.1⟩

theorem ScalarReads.reads_value (h : ScalarReads shape v w) (hdirect : Reader.IsDirect shape)
    (depth level fuel : Nat) {lead rest : Bytes} (hlead : Blank lead)
    (hrest : Reader.EndsNumber rest) :
    Reader.Reads (Reader.value (fuel + 1) depth shape) (lead ++ (octetsAt level v ++ rest)) w
      rest := by
  rw [h.octetsAt_eq]
  obtain ⟨b, more, htext, hblank, hb, hreads⟩ := h.reads
  simp only [List.mem_cons, List.not_mem_nil, or_false, not_or] at hb
  rw [htext, List.cons_append]
  exact Reader.reads_directValue hdirect hlead hblank ⟨hb.1, hb.2.2.2⟩ (hreads rest hrest)

theorem ScalarReads.readsAs (h : ScalarReads shape v w) (hdirect : Reader.IsDirect shape) :
    ReadsAs depth shape v w := by
  refine ⟨h.opening, fun {level fuel lead rest} hlead hfuel hrest => ?_⟩
  obtain ⟨b, more, htext, -⟩ := h.opening level
  rw [htext, List.length_cons] at hfuel
  obtain ⟨fuel, rfl⟩ := Nat.exists_eq_succ_of_ne_zero (show fuel ≠ 0 by omega)
  exact h.reads_value hdirect depth level fuel hlead hrest

theorem ScalarReads.readsAs_optional (h : ScalarReads shape v w) (hdirect : Reader.IsDirect shape) :
    ReadsAs depth (.optional shape) v w := by
  refine ⟨h.opening, fun {level fuel lead rest} hlead hfuel hrest => ?_⟩
  have hvalue := fun fuel => h.reads_value hdirect depth level fuel blank_nil hrest
  rw [h.octetsAt_eq] at hfuel hvalue ⊢
  obtain ⟨b, more, htext, hblank, hb, -⟩ := h.reads
  simp only [List.mem_cons, List.not_mem_nil, or_false, not_or] at hb
  rw [htext, List.length_cons] at hfuel
  obtain ⟨fuel, rfl⟩ : ∃ f, fuel = f + 2 := ⟨fuel - 2, by omega⟩
  rw [htext, List.cons_append, Reader.value]
  refine Reader.reads_bind (Reader.reads_peekToken_blank hlead hblank _) ?_
  rw [if_neg (by simpa using hb.2.2.1), ← List.cons_append, ← htext]
  exact hvalue fuel

theorem readsAs_null : ReadsAs depth (.optional shape) .null .null := by
  have htext : ∀ level, octetsAt level .null = 110 :: Utf8.encode "ull" := fun _ => rfl
  refine ⟨fun level => ⟨110, _, htext level, by decide, by decide⟩,
    fun {level fuel lead rest} hlead hfuel _ => ?_⟩
  rw [htext, List.length_cons] at hfuel
  obtain ⟨fuel, rfl⟩ := Nat.exists_eq_succ_of_ne_zero (show fuel ≠ 0 by omega)
  rw [htext, List.cons_append, Reader.value]
  exact Reader.reads_bind (Reader.reads_peekToken_blank hlead (by decide) _)
    (Reader.reads_bind (Reader.reads_advance 110 _)
      (Reader.reads_bind (Reader.reads_word _ rest) (Reader.reads_pure _ rest)))

theorem readsAs_choice {labels : List String} {s : String} (hs : s ∈ labels) :
    ReadsAs depth (.choice labels) (.string s) (.string s) := by
  have hscalar : ScalarReads .text (.string s) (.string s) := scalarReads_string (.inl rfl) s
  have htext : ∀ level, octetsAt level (.string s)
      = 34 :: (Utf8.encodeChars (s.toList.flatMap escape) ++ [34]) :=
    fun _ => Reader.encodeChars_quote s
  refine ⟨hscalar.opening, fun {level fuel lead rest} hlead hfuel _ => ?_⟩
  rw [htext, List.length_cons] at hfuel
  obtain ⟨fuel, rfl⟩ := Nat.exists_eq_succ_of_ne_zero (show fuel ≠ 0 by omega)
  rw [htext, List.cons_append, List.append_assoc, Reader.value]
  refine Reader.reads_bind (Reader.reads_peekToken_blank hlead (by decide) _) ?_
  refine Reader.reads_placed (Reader.reads_bind (Reader.reads_peekToken (by decide) _)
    (Reader.reads_bind (Reader.reads_advance 34 _)
      (Reader.reads_bind (Reader.reads_string s rest) ?_)))
  rw [if_pos (by simpa using hs)]
  exact Reader.reads_pure _ rest

end Scalars

/-! ### Records -/

theorem fieldShape_eq (key : String) (fields : List (String × Shape)) :
    Shape.fieldShape key fields = entryOf? key fields := by
  induction fields with
  | nil => rfl
  | cons f rest ih => rw [Shape.fieldShape, entryOf?, ih]

theorem entryOf?_cons_ne {α : Type} {key key' : String} (h : key' ≠ key) (v : α)
    (entries : List (String × α)) : entryOf? key ((key', v) :: entries) = entryOf? key entries :=
  if_neg h

theorem entryOf?_append {α : Type} (key : String) (entries entries' : List (String × α)) :
    entryOf? key (entries ++ entries') = (entryOf? key entries).or (entryOf? key entries') := by
  induction entries with
  | nil => rfl
  | cons e entries ih =>
      simp only [List.cons_append, entryOf?]
      split
      · rfl
      · exact ih

/-- Members with the keys of the fields are the fields. -/
theorem arrange_of_entries {members : List (String × Json)} {fields : List (String × Shape)}
    {ws : List (String × Json)} (hkeys : ws.map Prod.fst = fields.map Prod.fst)
    (hentries : ∀ m ∈ ws, entryOf? m.1 members = some m.2) :
    Shape.arrange members fields = .ok ws := by
  induction ws generalizing fields with
  | nil => rw [List.map_eq_nil_iff.1 hkeys.symm, Shape.arrange]
  | cons m ws ih =>
      obtain ⟨⟨key, s⟩, fields, rfl, hkey, hrest⟩ := List.map_eq_cons_iff.1 hkeys.symm
      obtain ⟨hm, hws⟩ := List.forall_mem_cons.1 hentries
      obtain rfl : key = m.1 := hkey
      rw [Shape.arrange, hm]
      dsimp only
      rw [ih hrest.symm hws]
      rfl

/-- The members that are written for some fields, as they are read, and in the normal form. An
optional field may be left out. -/
inductive ReadsFields (depth : Nat) : List (String × Shape) → List (String × Json) →
    List (String × Json) → List (String × Json) → Prop where
  | nil : ReadsFields depth [] [] [] []
  | present {key : String} {s : Shape} {v w : Json} {fields : List (String × Shape)}
      {ms ns ws : List (String × Json)} (hvalue : ReadsAs depth s v w)
      (hrest : ReadsFields depth fields ms ns ws) :
      ReadsFields depth ((key, s) :: fields) ((key, v) :: ms) ((key, w) :: ns) ((key, w) :: ws)
  | absent {key : String} {s : Shape} {fields : List (String × Shape)}
      {ms ns ws : List (String × Json)} (hoptional : s.isOptional = true)
      (hrest : ReadsFields depth fields ms ns ws) :
      ReadsFields depth ((key, s) :: fields) ms ns ((key, .null) :: ws)

namespace ReadsFields

variable {fields : List (String × Shape)} {ms ns ws : List (String × Json)}

theorem keys_eq (h : ReadsFields depth fields ms ns ws) : ns.map Prod.fst = ms.map Prod.fst := by
  induction h with
  | nil => rfl
  | present _ _ ih => rw [List.map_cons, List.map_cons, ih]
  | absent _ _ ih => exact ih

theorem keys_sublist (h : ReadsFields depth fields ms ns ws) :
    (ns.map Prod.fst).Sublist (fields.map Prod.fst) := by
  induction h with
  | nil => exact .slnil
  | present _ _ ih => exact ih.cons_cons _
  | absent _ _ ih => exact ih.cons _

/-- Each member that is written is one of the fields. -/
theorem memberReads (h : ReadsFields depth fields ms ns ws) {shape : Shape}
    (hmember : ∀ f ∈ fields, Reader.IsMember shape f.1 f.2) :
    List.Forall₂ (Reader.MemberReads depth shape) ms ns := by
  induction h with
  | nil => exact .nil
  | @present key s _ _ _ _ _ _ hvalue _ ih =>
      obtain ⟨hkey, hfields⟩ := List.forall_mem_cons.1 hmember
      exact .cons ⟨rfl, s, hkey, hvalue⟩ (ih hfields)
  | absent _ _ ih => exact ih (List.forall_mem_cons.1 hmember).2

/-- The fields are found among the members, whatever else there is. -/
theorem arrange (h : ReadsFields depth fields ms ns ws) (hnodup : (fields.map Prod.fst).Nodup)
    {members : List (String × Json)}
    (hsame : ∀ key ∈ fields.map Prod.fst, entryOf? key members = entryOf? key ns) :
    Shape.arrange members fields = .ok ws := by
  induction h with
  | nil => rfl
  | @present key s v w fields _ ns _ hvalue hrest ih =>
      obtain ⟨hkey, hnodup⟩ := List.nodup_cons.1 hnodup
      obtain ⟨hfirst, hlater⟩ := List.forall_mem_cons.1 hsame
      have harrange := ih hnodup fun key' hkey' => by
        have hne : key ≠ key' := by
          rintro rfl
          exact hkey hkey'
        rw [hlater key' hkey', entryOf?_cons_ne hne]
      rw [Shape.arrange, hfirst, entryOf?, if_pos rfl]
      dsimp only
      rw [harrange]
      rfl
  | @absent key s fields _ ns _ hoptional hrest ih =>
      obtain ⟨hkey, hnodup⟩ := List.nodup_cons.1 hnodup
      obtain ⟨hfirst, hlater⟩ := List.forall_mem_cons.1 hsame
      have hnone : entryOf? key ns = none :=
        entryOf?_eq_none_iff.2 fun hmem => hkey (hrest.keys_sublist.subset hmem)
      rw [Shape.arrange, hfirst, hnone]
      dsimp only
      rw [if_pos hoptional, ih hnodup hlater]
      rfl

end ReadsFields

theorem readsAs_record {name : String} {fields : List (String × Shape)}
    {ms ns ws : List (String × Json)} (h : ReadsFields depth fields ms ns ws)
    (hnodup : (fields.map Prod.fst).Nodup) :
    ReadsAs (depth + 1) (.record name fields) (.object ms) (.object ws) := by
  refine readsAs_members rfl (h.memberReads fun f hf => .inl ?_) ?_ ?_
  · rw [Reader.memberOf, fieldShape_eq, (entryOf?_eq_some_iff hnodup).2 hf]
  · rw [← h.keys_eq]
    exact h.keys_sublist.nodup hnodup
  · rw [Reader.assemble, h.arrange hnodup fun _ _ => rfl]
    rfl

/-- A member of a record that shares its object with another is read before its shape is known. -/
structure ReadsLater (depth : Nat) (fields : List (String × Shape)) (m : String × Json) : Prop where
  reads : ReadsAs depth .any m.2 m.2
  decodes : ∃ s, Shape.fieldShape m.1 fields = some s ∧ Shape.decode true s m.2 = .ok m.2

theorem decodeMembers_of_readsLater {fields : List (String × Shape)}
    {ms others : List (String × Json)} (h : ∀ m ∈ ms, ReadsLater depth fields m)
    (hothers : ∀ m ∈ others, Shape.fieldShape m.1 fields = none) (hnodup : (ms.map Prod.fst).Nodup)
    (seen : List String) (hseen : ∀ m ∈ ms, m.1 ∉ seen) :
    Shape.decodeMembers true fields seen (ms ++ others) = .ok ms := by
  induction ms generalizing seen with
  | nil =>
      induction others generalizing seen with
      | nil => rfl
      | cons m others ih =>
          obtain ⟨hm, hothers⟩ := List.forall_mem_cons.1 hothers
          rw [List.nil_append, Shape.decodeMembers, hm]
          exact ih hothers seen (by simp)
  | cons m ms ih =>
      obtain ⟨⟨-, s, hshape, hdecode⟩, hms⟩ := List.forall_mem_cons.1 h
      obtain ⟨hunseen, hseen⟩ := List.forall_mem_cons.1 hseen
      obtain ⟨hkey, hnodup⟩ := List.nodup_cons.1 hnodup
      have hlater := ih hms hnodup (m.1 :: seen) fun m' hmem hm' => by
        rcases List.mem_cons.1 hm' with heq | hm'
        · exact hkey (heq ▸ List.mem_map_of_mem hmem)
        · exact hseen m' hmem hm'
      rw [List.cons_append, Shape.decodeMembers, hshape]
      dsimp only
      rw [if_neg (by simpa using hunseen), hdecode]
      dsimp only
      rw [hlater]
      rfl

/-- Two records in one object. -/
theorem readsAs_merged {name : String} {inner own : List (String × Shape)}
    {innerMs ms ns ws : List (String × Json)} (hinner : ∀ m ∈ innerMs, ReadsLater depth inner m)
    (hkeys : innerMs.map Prod.fst = inner.map Prod.fst) (h : ReadsFields depth own ms ns ws)
    (hnodup : ((inner ++ own).map Prod.fst).Nodup) :
    ReadsAs (depth + 1) (.merged name inner own) (.object (innerMs ++ ms))
      (.object (innerMs ++ ws)) := by
  rw [List.map_append, List.nodup_append] at hnodup
  obtain ⟨hinnerNodup, hownNodup, hdisjoint⟩ := hnodup
  have hnotOwn : ∀ key ∈ inner.map Prod.fst, Shape.fieldShape key own = none := fun key hkey => by
    rw [fieldShape_eq, entryOf?_eq_none_iff]
    exact fun hmem => hdisjoint key hkey key hmem rfl
  have hinnerKey : ∀ m ∈ innerMs, m.1 ∈ inner.map Prod.fst := fun m hm =>
    hkeys ▸ List.mem_map_of_mem hm
  have hreads : List.Forall₂ (Reader.MemberReads depth (.merged name inner own)) (innerMs ++ ms)
      (innerMs ++ ns) := by
    refine List.rel_append (List.forall₂_same.2 fun m hm => ?_) (h.memberReads fun f hf => .inl ?_)
    · refine ⟨rfl, .any, .inr ?_, (hinner m hm).reads⟩
      rw [Reader.memberOf, hnotOwn m.1 (hinnerKey m hm)]
    · rw [Reader.memberOf, fieldShape_eq, (entryOf?_eq_some_iff hownNodup).2 hf]
  refine readsAs_members rfl hreads ?_ ?_
  · rw [List.map_append, hkeys, ← h.keys_eq]
    exact List.nodup_append.2 ⟨hinnerNodup, h.keys_sublist.nodup hownNodup, fun a ha b hb =>
      hdisjoint a ha b (h.keys_sublist.subset hb)⟩
  · have hinnerMs : (innerMs.map Prod.fst).Nodup := hkeys ▸ hinnerNodup
    have hown : Shape.arrange (innerMs ++ ns) own = .ok ws := h.arrange hownNodup fun key hkey => by
      have hnone : entryOf? key innerMs = none :=
        entryOf?_eq_none_iff.2 (hkeys ▸ fun hmem => hdisjoint key hmem key hkey rfl)
      rw [entryOf?_append, hnone, Option.none_or]
    have hfilter : inner.filter (fun f => (Shape.fieldShape f.1 own).isNone) = inner :=
      List.filter_eq_self.2 fun f hf => by
        rw [hnotOwn f.1 (List.mem_map_of_mem hf)]
        rfl
    have hothers : ∀ m ∈ ns, Shape.fieldShape m.1 inner = none := fun m hm => by
      rw [fieldShape_eq, entryOf?_eq_none_iff]
      exact fun hmem => hdisjoint m.1 hmem m.1
        (h.keys_sublist.subset (List.mem_map_of_mem hm)) rfl
    have hdecode := decodeMembers_of_readsLater hinner hothers hinnerMs [] (by simp)
    have harrange : Shape.arrange innerMs inner = .ok innerMs :=
      arrange_of_entries hkeys fun m hm => (entryOf?_eq_some_iff hinnerMs).2 hm
    rw [Reader.assemble]
    simp only [hown, hfilter, hdecode, harrange, bind, Except.bind, pure, Except.pure]

/-! ### Whole texts -/

/-- The indented text of a value is read as a text of its shape. -/
theorem read_indentedText {shape : Shape} {v w : Json} (h : ReadsAs depthLimit shape v w) :
    read shape (Utf8.encode v.indentedText) = .ok w := by
  have htext : Utf8.encode v.indentedText = octetsAt 0 v := by
    rw [Utf8.encode, indentedText, String.toList_ofList, octetsAt]
  have hread : Reader.Reads (Reader.whole shape depthLimit) (octetsAt 0 v) w [] := by
    refine Reader.reads_get fun c hc => ?_
    have hvalue : Reader.Reads (Reader.value (2 * c.rest.length + 2) depthLimit shape)
        (octetsAt 0 v) w [] := by
      rw [← List.append_nil (octetsAt 0 v), ← List.nil_append (octetsAt 0 v ++ [])]
      exact h.reads blank_nil (by rw [hc]; omega) Reader.endsNumber_nil
    exact Reader.reads_bind hvalue
      (Reader.reads_bind Reader.reads_peekToken_nil (Reader.reads_pure w []))
  obtain ⟨line, column, hread⟩ := hread 1 0
  rw [htext, read, readWithin, Cursor.start, hread]

end LookupBench.Json
