import LookupBench.Proofs.Json.Spelling
import LookupBench.Proofs.Json.StringText
import LookupBench.Proofs.Table

/-!
# JSON values there and back

What is written for a value without blanks is read as that value, for every value that can be held:
integers of 64 bits, finite numbers, any strings, and containers that do not nest too deep.
-/

namespace LookupBench.Json

/-- A value that can be held, with at most `depth` containers one inside the other. The members of an
object are in the order of their keys. -/
inductive Proper : Nat → Json → Prop where
  | null (depth : Nat) : Proper depth .null
  | bool (depth : Nat) (b : Bool) : Proper depth (.bool b)
  | int (depth : Nat) {i : Int} (low : -(2 ^ 63) ≤ i) (high : i < 2 ^ 64) : Proper depth (.int i)
  | float (depth : Nat) {x : Binary64} (finite : x.isFinite = true) : Proper depth (.float x)
  | string (depth : Nat) (s : String) : Proper depth (.string s)
  | array {depth : Nat} {items : List Json} (within : ∀ x ∈ items, Proper depth x) :
      Proper (depth + 1) (.array items)
  | object {depth : Nat} {members : List (String × Json)}
      (order : members.Pairwise (fun a b => a.1 < b.1)) (within : ∀ m ∈ members, Proper depth m.2) :
      Proper (depth + 1) (.object members)

/-! ### Texts as octets -/

def octets (v : Json) : Bytes := Utf8.encodeChars v.compact

/-- A member, without the comma. -/
def memberOctets (m : String × Json) : Bytes := Utf8.encodeChars (quote m.1) ++ 58 :: octets m.2

/-- The items behind the first. -/
def laterItems (items : List Json) : Bytes := items.flatMap fun x => 44 :: octets x

def laterMembers (members : List (String × Json)) : Bytes :=
  members.flatMap fun m => 44 :: memberOctets m

theorem laterItems_cons (x : Json) (items : List Json) :
    laterItems (x :: items) = 44 :: (octets x ++ laterItems items) := rfl

theorem laterMembers_cons (m : String × Json) (members : List (String × Json)) :
    laterMembers (m :: members) = 44 :: (memberOctets m ++ laterMembers members) := rfl

theorem encodeChars_member (k : String) (x : Json) :
    Utf8.encodeChars (quote k ++ ':' :: compact x) = memberOctets (k, x) :=
  Utf8.encodeChars_append ..

theorem encodeChars_compactItems (x : Json) (items : List Json) :
    Utf8.encodeChars (compactItems (x :: items)) = octets x ++ laterItems items := by
  induction items generalizing x with
  | nil => exact (List.append_nil _).symm
  | cons y items ih =>
      rw [compactItems.eq_3 x (y :: items) (by simp), Utf8.encodeChars_append]
      change octets x ++ 44 :: Utf8.encodeChars (compactItems (y :: items)) = _
      rw [ih]
      rfl

theorem encodeChars_compactMembers (m : String × Json) (members : List (String × Json)) :
    Utf8.encodeChars (compactMembers (m :: members)) = memberOctets m ++ laterMembers members := by
  induction members generalizing m with
  | nil =>
      obtain ⟨k, x⟩ := m
      rw [compactMembers, encodeChars_member]
      exact (List.append_nil _).symm
  | cons n members ih =>
      obtain ⟨k, x⟩ := m
      rw [compactMembers.eq_3 k x (n :: members) (by simp), Utf8.encodeChars_append,
        encodeChars_member]
      change _ ++ 44 :: Utf8.encodeChars (compactMembers (n :: members)) = _
      rw [ih]
      rfl

theorem octets_array (items : List Json) :
    octets (.array items) = 91 :: Utf8.encodeChars (compactItems items) ++ [93] := by
  rw [octets, compact, List.cons_append, Utf8.encodeChars, Utf8.encodeChars_append]
  rfl

theorem octets_object (members : List (String × Json)) :
    octets (.object members) = 123 :: Utf8.encodeChars (compactMembers members) ++ [125] := by
  rw [octets, compact, List.cons_append, Utf8.encodeChars, Utf8.encodeChars_append]
  rfl

/-! ### Members in order -/

theorem putEntry_of_above {α : Type} {k : String} {v : α} {entries : List (String × α)}
    (h : ∀ e ∈ entries, e.1 < k) : putEntry k v entries = entries ++ [(k, v)] := by
  induction entries with
  | nil => rfl
  | cons e rest ih =>
      obtain ⟨he, hrest⟩ := List.forall_mem_cons.1 h
      have hnot : ¬k < e.1 := fun hless => String.lt_irrefl _ (String.lt_trans hless he)
      have hne : k ≠ e.1 := by
        rintro rfl
        exact String.lt_irrefl _ he
      rw [putEntry, if_neg hnot, if_neg hne, ih hrest]
      rfl

theorem foldl_of_pairwise {put : List (String × Json) → String × Json → List (String × Json)}
    (hput : ∀ ms m, put ms m = putEntry m.1 m.2 ms) (later before : List (String × Json))
    (h : (before ++ later).Pairwise (fun a b => a.1 < b.1)) :
    later.foldl put before = before ++ later := by
  induction later generalizing before with
  | nil => exact (List.append_nil before).symm
  | cons m later ih =>
      have habove : ∀ e ∈ before, e.1 < m.1 := fun e he =>
        (List.pairwise_append.1 h).2.2 e he m List.mem_cons_self
      rw [List.foldl_cons, hput, putEntry_of_above habove, ih _ (by simpa using h),
        List.append_assoc]
      rfl

theorem sorted_of_pairwise {members : List (String × Json)}
    (h : members.Pairwise (fun a b => a.1 < b.1)) : Reader.sorted members = members :=
  foldl_of_pairwise (fun _ _ => rfl) members [] h

namespace Reader

/-! ### What may follow a value -/

theorem endsNumber_nil : EndsNumber [] := by
  intro b h
  cases h

theorem endsNumber_cons {b : UInt8} (hb : b ∈ [44, 93, 125]) (rest : Bytes) :
    EndsNumber (b :: rest) := by
  rintro _ ⟨⟩
  simp only [List.mem_cons, List.not_mem_nil, or_false] at hb
  rcases hb with rfl | rfl | rfl <;> decide

theorem endsNumber_laterItems (items : List Json) (rest : Bytes) :
    EndsNumber (laterItems items ++ 93 :: rest) := by
  cases items with
  | nil => exact endsNumber_cons (by decide) rest
  | cons x items => exact endsNumber_cons (by decide) _

theorem endsNumber_laterMembers (members : List (String × Json)) (rest : Bytes) :
    EndsNumber (laterMembers members ++ 125 :: rest) := by
  cases members with
  | nil => exact endsNumber_cons (by decide) rest
  | cons x members => exact endsNumber_cons (by decide) _

/-! ### One value -/

section Values

variable {fuel depth : Nat} {b : UInt8} {more rest : Bytes} {v : Json}

theorem reads_scalarValue (hblank : Cursor.isBlankByte b = false) (hb : b ≠ 91 ∧ b ≠ 123)
    (h : Reads (scalar .any b) (b :: more) v rest) :
    Reads (value (fuel + 1) depth .any) (b :: more) v rest := by
  simp only [value]
  refine reads_placed (reads_bind (reads_peekToken hblank more) ?_)
  dsimp only
  rw [if_neg (by simp [hb.1]), if_neg (by simp [hb.2])]
  exact h

theorem reads_arrayValue {items : List Json}
    (h : Reads (Reader.items fuel depth .any false) more items (93 :: rest)) :
    Reads (value (fuel + 1) (depth + 1) .any) (91 :: more) (.array items) rest := by
  simp only [value]
  refine reads_placed (reads_bind (reads_peekToken (by decide) more) ?_)
  have hclose : Reads endOfItems (93 :: rest) () rest :=
    reads_bind (reads_peekToken (by decide) rest) (reads_advance 93 rest)
  exact reads_bind (reads_advance 91 more)
    (reads_bind (reads_closedBy h hclose) (reads_pure _ rest))

theorem reads_objectValue {members : List (String × Json)}
    (order : members.Pairwise (fun a b => a.1 < b.1))
    (h : Reads (Reader.members fuel depth .any []) more members (125 :: rest)) :
    Reads (value (fuel + 1) (depth + 1) .any) (123 :: more) (.object members) rest := by
  simp only [value]
  refine reads_placed (reads_bind (reads_peekToken (by decide) more) ?_)
  have hclose : Reads endOfMembers (125 :: rest) () rest :=
    reads_bind (reads_peekToken (by decide) rest) (reads_advance 125 rest)
  have hassemble : Reads (of (assemble .any members)) (125 :: rest) (.object members)
      (125 :: rest) := by
    rw [assemble, sorted_of_pairwise order]
    · exact reads_pure _ _
    · simp
    · simp
  exact reads_bind (reads_advance 123 more) (reads_closedBy (reads_bind h hassemble) hclose)

end Values

end Reader

/-! ### Values within others -/

/-- The text of a value is read as the value, whatever follows. -/
structure ReadsItself (depth : Nat) (v : Json) : Prop where
  opening : ∃ b more, octets v = b :: more ∧ Cursor.isBlankByte b = false ∧ b ≠ 93
  reads : ∀ {fuel : Nat} {rest : Bytes}, 2 * (octets v).length ≤ fuel → Reader.EndsNumber rest →
    Reader.Reads (Reader.value fuel depth .any) (octets v ++ rest) v rest

theorem ReadsItself.length_pos {depth : Nat} {v : Json} (h : ReadsItself depth v) :
    0 < (octets v).length := by
  obtain ⟨b, more, htext, -⟩ := h.opening
  rw [htext]
  exact Nat.succ_pos _

namespace Reader

/-- The comma in front of all but the first. -/
def comma (later : Bool) : Bytes := if later then [44] else []

theorem reads_anotherItem {b : UInt8} (hblank : Cursor.isBlankByte b = false) (hclose : b ≠ 93)
    (later : Bool) (more : Bytes) :
    Reads (anotherItem later) (comma later ++ b :: more) true (b :: more) := by
  cases later with
  | false =>
      apply reads_bind (reads_peekToken hblank more)
      dsimp only
      rw [if_neg hclose]
      exact reads_pure true _
  | true =>
      refine reads_bind (reads_peekToken (by decide) (b :: more))
        (reads_bind (reads_advance 44 _) (reads_bind (reads_peekToken hblank more) ?_))
      dsimp only
      rw [if_neg hclose]
      exact reads_pure true _

theorem reads_anotherMember (later : Bool) (more : Bytes) :
    Reads (anotherMember later) (comma later ++ 34 :: more) true (34 :: more) := by
  cases later with
  | false => exact reads_bind (reads_peekToken (by decide) more) (reads_pure true _)
  | true =>
      exact reads_bind (reads_peekToken (by decide) (34 :: more))
        (reads_bind (reads_advance 44 _)
          (reads_bind (reads_peekToken (by decide) more) (reads_pure true _)))

section Containers

variable {fuel depth : Nat} {rest : Bytes}

/-! ### Items -/

theorem reads_noItem (later : Bool) (rest : Bytes) :
    Reads (items (fuel + 1) depth .any later) (93 :: rest) [] (93 :: rest) := by
  rw [items]
  exact reads_bind (reads_bind (reads_peekToken (by decide) rest) (reads_pure false _))
    (reads_pure _ _)

theorem reads_item {x : Json} {xs : List Json} {later : Bool} (h : ReadsItself depth x)
    (hfuel : 2 * (octets x).length ≤ fuel)
    (hlater : Reads (items fuel depth .any true) (laterItems xs ++ 93 :: rest) xs (93 :: rest)) :
    Reads (items (fuel + 1) depth .any later)
      (comma later ++ (octets x ++ (laterItems xs ++ 93 :: rest))) (x :: xs) (93 :: rest) := by
  obtain ⟨b, more, htext, hblank, hclose⟩ := h.opening
  have hanother : Reads (anotherItem later)
      (comma later ++ (octets x ++ (laterItems xs ++ 93 :: rest))) true
      (octets x ++ (laterItems xs ++ 93 :: rest)) := by
    rw [htext]
    exact reads_anotherItem hblank hclose later _
  rw [items]
  apply reads_bind hanother
  exact reads_bind (h.reads hfuel (endsNumber_laterItems xs rest))
    (reads_bind hlater (reads_pure _ _))

theorem reads_laterItems {xs : List Json} (h : ∀ x ∈ xs, ReadsItself depth x)
    (hfuel : 2 * (laterItems xs).length ≤ fuel) :
    Reads (items (fuel + 1) depth .any true) (laterItems xs ++ 93 :: rest) xs (93 :: rest) := by
  induction xs generalizing fuel with
  | nil => exact reads_noItem true rest
  | cons x xs ih =>
      obtain ⟨hx, hxs⟩ := List.forall_mem_cons.1 h
      rw [laterItems_cons, List.length_cons, List.length_append] at hfuel
      obtain ⟨fuel, rfl⟩ := Nat.exists_eq_succ_of_ne_zero (show fuel ≠ 0 by omega)
      rw [laterItems_cons, List.cons_append, List.append_assoc]
      exact reads_item hx (by omega) (ih hxs (by omega))

theorem reads_items {xs : List Json} (h : ∀ x ∈ xs, ReadsItself depth x)
    (hfuel : 2 * (Utf8.encodeChars (compactItems xs)).length ≤ fuel) :
    Reads (items (fuel + 1) depth .any false)
      (Utf8.encodeChars (compactItems xs) ++ 93 :: rest) xs (93 :: rest) := by
  cases xs with
  | nil => exact reads_noItem false rest
  | cons x xs =>
      obtain ⟨hx, hxs⟩ := List.forall_mem_cons.1 h
      have hpos := hx.length_pos
      rw [encodeChars_compactItems, List.length_append] at hfuel
      obtain ⟨fuel, rfl⟩ := Nat.exists_eq_succ_of_ne_zero (show fuel ≠ 0 by omega)
      rw [encodeChars_compactItems, List.append_assoc]
      exact reads_item hx (by omega) (reads_laterItems hxs (by omega))

/-! ### Members -/

theorem reads_noMember (seen : List String) (rest : Bytes) :
    Reads (members (fuel + 1) depth .any seen) (125 :: rest) [] (125 :: rest) := by
  rw [members]
  exact reads_bind (reads_bind (reads_peekToken (by decide) rest) (reads_pure false _))
    (reads_pure _ _)

theorem reads_member {m : String × Json} {ms : List (String × Json)} {seen : List String}
    (h : ReadsItself depth m.2) (hfuel : 2 * (octets m.2).length ≤ fuel)
    (hlater : Reads (members fuel depth .any (m.1 :: seen)) (laterMembers ms ++ 125 :: rest) ms
      (125 :: rest)) :
    Reads (members (fuel + 1) depth .any seen)
      (comma (!seen.isEmpty) ++ (memberOctets m ++ (laterMembers ms ++ 125 :: rest))) (m :: ms)
      (125 :: rest) := by
  have htext : memberOctets m ++ (laterMembers ms ++ 125 :: rest)
      = 34 :: (Utf8.encodeChars (m.1.toList.flatMap escape) ++ 34 :: 58 ::
          (octets m.2 ++ (laterMembers ms ++ 125 :: rest))) := by
    rw [memberOctets, encodeChars_quote]
    simp
  have hcolon : ∀ tail, Reads colon (58 :: tail) () tail := fun tail =>
    reads_bind (reads_peekToken (by decide) tail) (reads_advance 58 tail)
  rw [htext, members]
  refine reads_bind (reads_anotherMember _ _)
    (reads_bind (reads_advance 34 _) (reads_bind (reads_string m.1 _) ?_))
  exact reads_bind (hcolon _) (reads_bind (h.reads hfuel (endsNumber_laterMembers ms rest))
    (reads_bind hlater (reads_pure _ _)))

theorem reads_laterMembers {ms : List (String × Json)} (h : ∀ m ∈ ms, ReadsItself depth m.2)
    (hfuel : 2 * (laterMembers ms).length ≤ fuel) (key : String) (seen : List String) :
    Reads (members (fuel + 1) depth .any (key :: seen)) (laterMembers ms ++ 125 :: rest) ms
      (125 :: rest) := by
  induction ms generalizing fuel key seen with
  | nil => exact reads_noMember (key :: seen) rest
  | cons m ms ih =>
      obtain ⟨hm, hms⟩ := List.forall_mem_cons.1 h
      rw [laterMembers_cons, List.length_cons, List.length_append, memberOctets,
        List.length_append, List.length_cons] at hfuel
      obtain ⟨fuel, rfl⟩ := Nat.exists_eq_succ_of_ne_zero (show fuel ≠ 0 by omega)
      rw [laterMembers_cons, List.cons_append, List.append_assoc]
      exact reads_member hm (by omega) (ih hms (by omega) _ _)

theorem reads_members {ms : List (String × Json)} (h : ∀ m ∈ ms, ReadsItself depth m.2)
    (hfuel : 2 * (Utf8.encodeChars (compactMembers ms)).length ≤ fuel) :
    Reads (members (fuel + 1) depth .any [])
      (Utf8.encodeChars (compactMembers ms) ++ 125 :: rest) ms (125 :: rest) := by
  cases ms with
  | nil => exact reads_noMember [] rest
  | cons m ms =>
      obtain ⟨hm, hms⟩ := List.forall_mem_cons.1 h
      rw [encodeChars_compactMembers, List.length_append, memberOctets, List.length_append,
        List.length_cons] at hfuel
      obtain ⟨fuel, rfl⟩ := Nat.exists_eq_succ_of_ne_zero (show fuel ≠ 0 by omega)
      rw [encodeChars_compactMembers, List.append_assoc]
      exact reads_member hm (by omega) (reads_laterMembers hms (by omega) _ _)

end Containers

end Reader

/-! ### Every value -/

section Kinds

variable {depth : Nat}

theorem readsItself_scalar {v : Json} {b : UInt8} {w : Bytes} (htext : octets v = b :: w)
    (hblank : Cursor.isBlankByte b = false) (hb : b ≠ 91 ∧ b ≠ 123 ∧ b ≠ 93)
    (h : ∀ rest, Reader.EndsNumber rest →
      Reader.Reads (Reader.scalar .any b) (b :: (w ++ rest)) v rest) : ReadsItself depth v := by
  refine ⟨⟨b, w, htext, hblank, hb.2.2⟩, fun {fuel rest} hfuel hrest => ?_⟩
  rw [htext, List.length_cons] at hfuel
  obtain ⟨fuel, rfl⟩ := Nat.exists_eq_succ_of_ne_zero (show fuel ≠ 0 by omega)
  rw [htext]
  exact Reader.reads_scalarValue hblank ⟨hb.1, hb.2.1⟩ (h rest hrest)

theorem readsItself_null : ReadsItself depth .null := by
  apply readsItself_scalar (w := Utf8.encode "ull") rfl (by decide) (by decide)
  intro rest _
  exact Reader.reads_bind (Reader.reads_advance 110 _)
    (Reader.reads_bind (Reader.reads_word _ rest) (Reader.reads_pure _ rest))

/-- A value that the reader knows by its first octet, which is not that of a null. -/
structure ScalarReads (shape : Shape) (v w : Json) : Prop where
  reads : ∃ b more, octets v = b :: more ∧ Cursor.isBlankByte b = false ∧
    b ∉ [91, 93, 110, 123] ∧ ∀ rest, Reader.EndsNumber rest →
      Reader.Reads (Reader.scalar shape b) (b :: (more ++ rest)) w rest

theorem ScalarReads.readsItself {v : Json} (h : ScalarReads .any v v) : ReadsItself depth v := by
  obtain ⟨b, more, htext, hblank, hb, hreads⟩ := h.reads
  simp only [List.mem_cons, List.not_mem_nil, or_false, not_or] at hb
  exact readsItself_scalar htext hblank ⟨hb.1, hb.2.2.2, hb.2.1⟩ hreads

section Scalars

variable {shape : Shape} {v w : Json}

theorem scalarReads_bool (hshape : shape = .flag ∨ shape = .any) (b : Bool) :
    ScalarReads shape (.bool b) (.bool b) := by
  cases b with
  | true =>
      refine ⟨116, Utf8.encode "rue", rfl, by decide, by decide, fun rest _ => ?_⟩
      rcases hshape with rfl | rfl <;>
        exact Reader.reads_bind (Reader.reads_advance 116 _)
          (Reader.reads_bind (Reader.reads_word _ rest) (Reader.reads_pure _ rest))
  | false =>
      refine ⟨102, Utf8.encode "alse", rfl, by decide, by decide, fun rest _ => ?_⟩
      rcases hshape with rfl | rfl <;>
        exact Reader.reads_bind (Reader.reads_advance 102 _)
          (Reader.reads_bind (Reader.reads_word _ rest) (Reader.reads_pure _ rest))

theorem reads_ofNumber (h : Shape.ofNumber shape v = .ok w) (rest : Bytes) :
    Reader.Reads (Reader.of (Shape.ofNumber shape v)) rest w rest := by
  rw [h]
  exact Reader.reads_pure w rest

theorem scalarReads_number (hshape : Reader.takesNumber shape = true) {negative : Bool}
    {text : List Char} (htext : v.compact = Binary64.sign negative ++ text)
    (h : Reader.Spells negative text v) (hnumber : Shape.ofNumber shape v = .ok w) :
    ScalarReads shape v w := by
  cases negative with
  | true =>
      refine ⟨45, Utf8.encodeChars text, ?_, by decide, by decide, fun rest hrest => ?_⟩
      · rw [octets, htext]
        rfl
      · unfold Reader.scalar
        rw [hshape, if_pos rfl]
        exact Reader.reads_bind (Reader.reads_advance 45 _)
          (Reader.reads_bind (h.reads rest hrest) (reads_ofNumber hnumber rest))
  | false =>
      obtain ⟨c, hc, hdigit⟩ := h.leading
      obtain ⟨b, hb, hbDigit, -⟩ := Reader.encodeChar_digit hdigit
      obtain ⟨cs, rfl⟩ : ∃ cs, text = c :: cs := by
        cases text with
        | nil => cases hc
        | cons d cs => exact ⟨cs, by rw [Option.some.inj hc]⟩
      have hoctets : Utf8.encodeChars (c :: cs) = b :: Utf8.encodeChars cs := by
        rw [Utf8.encodeChars, hb]
        rfl
      have hne : ∀ b' : UInt8, Reader.isDigit b' = false → b ≠ b' := by
        rintro b' hb' rfl
        rw [hbDigit] at hb'
        cases hb'
      have hblank : Cursor.isBlankByte b = false := by
        simp [Cursor.isBlankByte, hne 32 (by decide), hne 10 (by decide), hne 9 (by decide),
          hne 13 (by decide)]
      refine ⟨b, Utf8.encodeChars cs, ?_, hblank, ?_, fun rest hrest => ?_⟩
      · rw [octets, htext, ← hoctets]
        rfl
      · simp [hne 91 (by decide), hne 93 (by decide), hne 110 (by decide), hne 123 (by decide)]
      · have hread := h.reads rest hrest
        rw [hoctets] at hread
        have hplain : b ≠ 45 := hne 45 (by decide)
        unfold Reader.scalar
        dsimp only
        rw [hshape, decide_eq_false hplain, hbDigit, if_neg hplain, if_pos (by rfl)]
        exact Reader.reads_bind hread (reads_ofNumber hnumber rest)

theorem scalarReads_int (hshape : Reader.takesNumber shape = true) {i : Int} (hlow : -(2 ^ 63) ≤ i)
    (hhigh : i < 2 ^ 64) (hnumber : Shape.ofNumber shape (.int i) = .ok w) :
    ScalarReads shape (.int i) w := by
  obtain ⟨htext, hspells⟩ := Reader.spells_intDigits hlow hhigh
  exact scalarReads_number hshape (by rw [compact, htext]) hspells hnumber

theorem scalarReads_float (hshape : Reader.takesNumber shape = true) {x : Binary64}
    (hfinite : x.isFinite = true) (hnumber : Shape.ofNumber shape (.float x) = .ok w) :
    ScalarReads shape (.float x) w := by
  obtain ⟨negative, text, htext, hspells⟩ := Reader.spells_jsonText hfinite
  exact scalarReads_number hshape (by rw [compact, htext]) hspells hnumber

theorem scalarReads_string (hshape : shape = .text ∨ shape = .any) (s : String) :
    ScalarReads shape (.string s) (.string s) := by
  have htext : octets (.string s) = 34 :: (Utf8.encodeChars (s.toList.flatMap escape) ++ [34]) :=
    Reader.encodeChars_quote s
  refine ⟨34, _, htext, by decide, by decide, fun rest _ => ?_⟩
  rw [List.append_assoc]
  rcases hshape with rfl | rfl <;>
    exact Reader.reads_bind (Reader.reads_advance 34 _)
      (Reader.reads_bind (Reader.reads_string s rest) (Reader.reads_pure _ rest))

end Scalars

theorem readsItself_array {items : List Json} (h : ∀ x ∈ items, ReadsItself depth x) :
    ReadsItself (depth + 1) (.array items) := by
  refine ⟨⟨91, _, octets_array items, by decide, by decide⟩, fun {fuel rest} hfuel _ => ?_⟩
  rw [octets_array, List.length_append, List.length_cons, List.length_singleton] at hfuel
  obtain ⟨fuel, rfl⟩ : ∃ f, fuel = f + 2 := ⟨fuel - 2, by omega⟩
  rw [octets_array, List.append_assoc]
  exact Reader.reads_arrayValue (Reader.reads_items h (by omega))

theorem readsItself_object {members : List (String × Json)}
    (order : members.Pairwise (fun a b => a.1 < b.1)) (h : ∀ m ∈ members, ReadsItself depth m.2) :
    ReadsItself (depth + 1) (.object members) := by
  refine ⟨⟨123, _, octets_object members, by decide, by decide⟩, fun {fuel rest} hfuel _ => ?_⟩
  rw [octets_object, List.length_append, List.length_cons, List.length_singleton] at hfuel
  obtain ⟨fuel, rfl⟩ : ∃ f, fuel = f + 2 := ⟨fuel - 2, by omega⟩
  rw [octets_object, List.append_assoc]
  exact Reader.reads_objectValue order (Reader.reads_members h (by omega))

end Kinds

theorem Proper.readsItself {depth : Nat} {v : Json} (h : Proper depth v) : ReadsItself depth v := by
  induction h with
  | null => exact readsItself_null
  | bool _ b => exact (scalarReads_bool (.inr rfl) b).readsItself
  | int _ low high => exact (scalarReads_int rfl low high rfl).readsItself
  | float _ finite => exact (scalarReads_float rfl finite rfl).readsItself
  | string _ s => exact (scalarReads_string (.inr rfl) s).readsItself
  | array _ ih => exact readsItself_array ih
  | object order _ ih => exact readsItself_object order ih

/-- The compact text of a value is a text of that value. -/
theorem ofBytes?_octets {v : Json} (h : Proper depthLimit v) : ofBytes? (octets v) = some v := by
  have hread : Reader.Reads (Reader.whole .any depthLimit) (octets v) v [] := by
    apply Reader.reads_get
    intro c hc
    rw [hc]
    have hvalue : Reader.Reads (Reader.value (2 * (octets v).length + 2) depthLimit .any)
        (octets v ++ []) v [] := h.readsItself.reads (by omega) Reader.endsNumber_nil
    rw [List.append_nil] at hvalue
    exact Reader.reads_bind hvalue
      (Reader.reads_bind Reader.reads_peekToken_nil (Reader.reads_pure v []))
  obtain ⟨line, column, hread⟩ := hread 1 0
  rw [ofBytes?, read, readWithin, Cursor.start, hread]
  rfl

end LookupBench.Json
