import LookupBench.Location
import LookupBench.Proofs.Json.Conforms
import LookupBench.Proofs.Number.Integer

/-!
# Locations in answers

An item of an answer says where a definition is by a text and four numbers, under keys that tell
its form: an item with both keys of a target is read by these alone, any other by the plain ones. What
an answer yields is the locations of its well-formed items in order, and each depends on its own item
only.

A coordinate is an integer that the item has as such or as a binary64 number, brought within signed
words of 64 bits. That changes no sign, so a location is valid if and only if its URI leads somewhere
and none of the four numbers is below zero.
-/

namespace LookupBench

open Binary64

/-! ### Numbers in items -/

namespace Json

/-- A number that is the integer `i`, whichever way it is written. -/
inductive StandsFor : Json → ℤ → Prop where
  | int (i : ℤ) : StandsFor (.int i) i
  | float {x : Binary64} {i : ℤ} (h : x.IsInteger i) : StandsFor (.float x) i

theorem StandsFor.unique {n : Json} {i j : ℤ} (hi : n.StandsFor i) (hj : n.StandsFor j) :
    i = j := by
  cases hi with
  | int => cases hj; rfl
  | float hi =>
      cases hj with
      | float hj => exact hi.unique hj

theorem InRange.get? {v w : Json} {key : String} (hv : InRange v) (h : v.get? key = some w) :
    InRange w := by
  cases hv with
  | object hmembers => exact hmembers _ (mem_of_entryOf? h)
  | _ => cases h

end Json

namespace Location

open Json

/-- An integer brought within signed words of 64 bits. -/
def withinWord (i : ℤ) : ℤ := max lowest (min i highest)

theorem withinWord_of_isInt64 {i : ℤ} (h : isInt64 i = true) : withinWord i = i := by
  simp only [isInt64, Bool.and_eq_true, decide_eq_true_eq] at h
  simp only [withinWord, lowest, highest]
  omega

theorem withinWord_of_le {i : ℤ} (h : 2 ^ 63 ≤ i) : withinWord i = highest := by
  simp only [withinWord, lowest, highest]
  omega

theorem withinWord_nonneg_iff {i : ℤ} : 0 ≤ withinWord i ↔ 0 ≤ i := by
  simp only [withinWord, lowest, highest]
  omega

/-- An integer past signed words is past them as a binary64 number, too. -/
theorem exists_isInteger_ofInt {i : ℤ} (hlow : 2 ^ 63 ≤ i) (hhigh : i < 2 ^ 64) :
    ∃ j, (Binary64.ofInt i).IsInteger j ∧ 2 ^ 63 ≤ j := by
  have heq : Binary64.ofInt i = Binary64.ofNat i.toNat := by
    rw [Binary64.ofInt, Binary64.ofNat, decide_eq_false (by omega)]
    congr 1
    omega
  obtain ⟨k, hk, hle⟩ := exists_isInteger_ofNat (n := i.toNat) (by omega) (by omega)
  exact ⟨k, heq ▸ hk, by exact_mod_cast hle⟩

theorem coordinate?_int {i : ℤ} (hlow : -(2 ^ 63) ≤ i) (hhigh : i < 2 ^ 64) :
    coordinate? (.int i) = some (withinWord i) := by
  by_cases hword : isInt64 i = true
  · rw [withinWord_of_isInt64 hword]
    simp only [coordinate?, asInt64?, hword, if_true, Option.some_or]
  · have hlarge : 2 ^ 63 ≤ i := by
      simp only [isInt64, Bool.and_eq_true, decide_eq_true_eq] at hword
      omega
    obtain ⟨j, hj, hle⟩ := exists_isInteger_ofInt hlarge hhigh
    have hinteger := toInt?_eq_some_iff.2 hj
    simp only [coordinate?, asInt64?, asBinary64?, if_neg hword, Option.none_or, Option.filter,
      hinteger, Option.isSome_some, if_true, Option.map_some, Option.some.injEq]
    rw [hj.truncateWithin, withinWord_of_le hlarge]
    exact withinWord_of_le hle

theorem coordinate?_float {x : Binary64} {c : ℤ} :
    coordinate? (.float x) = some c ↔ ∃ i, x.IsInteger i ∧ c = withinWord i := by
  simp only [coordinate?, asInt64?, asBinary64?, Option.none_or]
  constructor
  · intro h
    obtain ⟨y, hy, rfl⟩ := Option.map_eq_some_iff.1 h
    obtain ⟨hyx, hwhole⟩ := Option.filter_eq_some_iff.1 hy
    cases hyx
    obtain ⟨i, hi⟩ := Option.isSome_iff_exists.1 hwhole
    have hinteger := toInt?_eq_some_iff.1 hi
    exact ⟨i, hinteger, hinteger.truncateWithin _ _⟩
  · rintro ⟨i, hinteger, rfl⟩
    rw [Option.filter, toInt?_eq_some_iff.2 hinteger, Option.isSome_some, if_pos rfl,
      Option.map_some, hinteger.truncateWithin]
    rfl

/-- A coordinate is there if the number is an integer, and it is that integer brought within a
word. -/
theorem coordinate?_eq_some_iff {n : Json} (hn : InRange n) {c : ℤ} :
    coordinate? n = some c ↔ ∃ i, n.StandsFor i ∧ c = withinWord i := by
  cases hn with
  | int hlow hhigh =>
      rw [coordinate?_int hlow hhigh, Option.some.injEq]
      constructor
      · rintro rfl
        exact ⟨_, .int _, rfl⟩
      · rintro ⟨i, ⟨⟩, rfl⟩
        rfl
  | float =>
      rw [coordinate?_float]
      constructor
      · rintro ⟨i, hi, rfl⟩
        exact ⟨i, .float hi, rfl⟩
      · rintro ⟨i, hi | hi, rfl⟩
        exact ⟨i, hi, rfl⟩
  | _ =>
      constructor
      · rintro ⟨⟩
      · rintro ⟨i, ⟨⟩, -⟩

end Location

/-! ### Items -/

/-- The two ends of a range. -/
inductive Edge where
  | start
  | stop

inductive Axis where
  | line
  | character

def Edge.key : Edge → String
  | start => "start"
  | stop => "end"

def Axis.key : Axis → String
  | line => "line"
  | character => "character"

def Position.at (p : Position) : Axis → ℤ
  | .line => p.line
  | .character => p.character

def Range.at (r : Range) : Edge → Axis → ℤ
  | .start => r.start.at
  | .stop => r.stop.at

namespace Location

open Json

/-- The keys of an item's URI and range. -/
structure Keys where
  uri : String
  range : String

def targetKeys : Keys := ⟨"targetUri", "targetRange"⟩

def plainKeys : Keys := ⟨"uri", "range"⟩

/-- The keys that an item is read by. -/
def keysOf (item : Json) : Keys :=
  if (item.get? "targetUri").isSome ∧ (item.get? "targetRange").isSome then targetKeys
  else plainKeys

/-- What an item has at the place of a coordinate. -/
def numberAt (item : Json) (edge : Edge) (axis : Axis) : Option Json :=
  ((item.get? (keysOf item).range).bind (·.get? edge.key)).bind (·.get? axis.key)

/-- An object with a text for a URI and four integers. -/
structure WellFormed (item : Json) : Prop where
  object : ∃ members, item = .object members
  uri : ∃ s, item.get? (keysOf item).uri = some (.string s)
  numbers : ∀ edge axis, ∃ n i, numberAt item edge axis = some n ∧ n.StandsFor i

/-- The location of an item has the URI as it stands there, and the four integers brought within
words. -/
structure Denotes (item : Json) (l : Location) : Prop where
  uri : item.get? (keysOf item).uri = some (.string l.uri)
  coordinates : ∀ edge axis, ∃ n i, numberAt item edge axis = some n ∧ n.StandsFor i ∧
    l.range.at edge axis = withinWord i

theorem position?_eq_some_iff {v : Json} {p : Position} :
    position? v = some p ↔ ∀ axis, (v.get? axis.key).bind coordinate? = some (p.at axis) := by
  unfold position?
  constructor
  · intro h
    simp only [bind, Option.bind_eq_some_iff, pure, Option.some.injEq] at h
    obtain ⟨n, hn, line, hline, n', hn', character, hcharacter, rfl⟩ := h
    intro axis
    cases axis with
    | line => exact Option.bind_eq_some_iff.2 ⟨n, hn, hline⟩
    | character => exact Option.bind_eq_some_iff.2 ⟨n', hn', hcharacter⟩
  · intro h
    obtain ⟨n, hn, hline⟩ := Option.bind_eq_some_iff.1 (h .line)
    obtain ⟨n', hn', hcharacter⟩ := Option.bind_eq_some_iff.1 (h .character)
    simp only [Axis.key] at hn hn'
    simp only [hn, hn', hline, hcharacter, bind, Option.bind_some, pure]
    rfl

theorem range?_eq_some_iff {v : Json} {r : Range} :
    range? v = some r ↔ ∀ edge axis,
      ((v.get? edge.key).bind (·.get? axis.key)).bind coordinate? = some (r.at edge axis) := by
  have hedge : ∀ (edge : Edge) (p : Position), (v.get? edge.key).bind position? = some p ↔ ∀ axis,
      ((v.get? edge.key).bind (·.get? axis.key)).bind coordinate? = some (p.at axis) := by
    intro edge p
    cases v.get? edge.key with
    | none => exact ⟨nofun, fun h => nomatch h .line⟩
    | some w => exact position?_eq_some_iff
  unfold range?
  constructor
  · intro h
    simp only [bind, Option.bind_eq_some_iff, pure, Option.some.injEq] at h
    obtain ⟨w, hw, start, hstart, w', hw', stop, hstop, rfl⟩ := h
    intro edge
    cases edge with
    | start => exact (hedge .start start).1 (Option.bind_eq_some_iff.2 ⟨w, hw, hstart⟩)
    | stop => exact (hedge .stop stop).1 (Option.bind_eq_some_iff.2 ⟨w', hw', hstop⟩)
  · intro h
    obtain ⟨w, hw, hstart⟩ := Option.bind_eq_some_iff.1 ((hedge .start r.start).2 (h .start))
    obtain ⟨w', hw', hstop⟩ := Option.bind_eq_some_iff.1 ((hedge .stop r.stop).2 (h .stop))
    simp only [Edge.key] at hw hw'
    simp only [hw, hw', hstart, hstop, bind, Option.bind_some, pure]

theorem parts?_eq (item : Json) :
    parts? item = (item.get? (keysOf item).uri).bind fun uri =>
      (item.get? (keysOf item).range).map fun range => (uri, range) := by
  unfold parts? keysOf
  cases huri : item.get? "targetUri" with
  | none => simp [plainKeys, bind, Option.map_eq_bind]
  | some uri =>
      cases hrange : item.get? "targetRange" with
      | none => simp [plainKeys, bind, Option.map_eq_bind]
      | some range => simp [targetKeys, huri, hrange]

theorem numberAt_inRange {item n : Json} (hitem : InRange item) {edge : Edge} {axis : Axis}
    (h : numberAt item edge axis = some n) : InRange n := by
  simp only [numberAt, Option.bind_eq_some_iff] at h
  obtain ⟨v, ⟨w, hw, hv⟩, hn⟩ := h
  exact ((hitem.get? hw).get? hv).get? hn

/-- An item is taken for the location that it denotes, and for no other. -/
theorem ofItem?_eq_some_iff {item : Json} (hitem : InRange item) {l : Location} :
    ofItem? item = some l ↔ Denotes item l := by
  have hrange : (item.get? (keysOf item).range).bind range? = some l.range ↔ ∀ edge axis,
      ∃ n i, numberAt item edge axis = some n ∧ n.StandsFor i ∧
        l.range.at edge axis = withinWord i := by
    have hcoordinates : (item.get? (keysOf item).range).bind range? = some l.range ↔
        ∀ edge axis, (numberAt item edge axis).bind coordinate? = some (l.range.at edge axis) := by
      unfold numberAt
      cases item.get? (keysOf item).range with
      | none => exact ⟨nofun, fun h => nomatch h .start .line⟩
      | some v => exact range?_eq_some_iff
    rw [hcoordinates]
    refine forall_congr' fun edge => forall_congr' fun axis => ?_
    rw [Option.bind_eq_some_iff]
    constructor
    · rintro ⟨n, hn, hc⟩
      obtain ⟨i, hi, hc⟩ := (coordinate?_eq_some_iff (numberAt_inRange hitem hn)).1 hc
      exact ⟨n, i, hn, hi, hc⟩
    · rintro ⟨n, i, hn, hi, hc⟩
      exact ⟨n, hn, (coordinate?_eq_some_iff (numberAt_inRange hitem hn)).2 ⟨i, hi, hc⟩⟩
  have htext : ∀ {v : Json} {s : String}, v.asString? = some s ↔ v = .string s := by
    intro v s
    cases v <;> simp [asString?]
  unfold ofItem?
  rw [parts?_eq]
  constructor
  · intro h
    simp only [bind, Option.bind_eq_some_iff, pure, Option.map_eq_some_iff, Option.some.injEq] at h
    obtain ⟨_, ⟨u, hu, v, hv, rfl⟩, s, hs, r, hr, rfl⟩ := h
    exact ⟨htext.1 hs ▸ hu, hrange.1 (Option.bind_eq_some_iff.2 ⟨v, hv, hr⟩)⟩
  · rintro ⟨huri, hcoordinates⟩
    obtain ⟨v, hv, hr⟩ := Option.bind_eq_some_iff.1 (hrange.2 hcoordinates)
    simp [huri, hv, hr, asString?, bind]

theorem wellFormed_iff {item : Json} : WellFormed item ↔ ∃ l, Denotes item l := by
  constructor
  · rintro ⟨-, ⟨s, hs⟩, hnumbers⟩
    choose n i hn hi using hnumbers
    let corner (edge : Edge) : Position :=
      ⟨withinWord (i edge .line), withinWord (i edge .character)⟩
    refine ⟨⟨s, corner .start, corner .stop⟩, hs, fun edge axis =>
      ⟨n edge axis, i edge axis, hn edge axis, hi edge axis, ?_⟩⟩
    cases edge <;> cases axis <;> rfl
  · rintro ⟨l, huri, hcoordinates⟩
    refine ⟨?_, ⟨l.uri, huri⟩, fun edge axis => ?_⟩
    · cases item with
      | object members => exact ⟨members, rfl⟩
      | _ => cases huri
    · obtain ⟨n, i, hn, hi, -⟩ := hcoordinates edge axis
      exact ⟨n, i, hn, hi⟩

theorem ofItem?_eq_none_iff {item : Json} (hitem : InRange item) :
    ofItem? item = none ↔ ¬WellFormed item := by
  rw [wellFormed_iff, Option.eq_none_iff_forall_ne_some, not_exists]
  exact forall_congr' fun l => not_congr (ofItem?_eq_some_iff hitem)

/-! ### Answers -/

/-- Every well-formed item in turn gives the location that it denotes, and nothing else gives
any. -/
inductive Gathers : List Json → List Location → Prop where
  | nil : Gathers [] []
  | take {item : Json} {items : List Json} {l : Location} {ls : List Location}
      (h : Denotes item l) (rest : Gathers items ls) : Gathers (item :: items) (l :: ls)
  | skip {item : Json} {items : List Json} {ls : List Location}
      (h : ¬WellFormed item) (rest : Gathers items ls) : Gathers (item :: items) ls

theorem gathers_iff {items : List Json} (hitems : ∀ item ∈ items, InRange item)
    {ls : List Location} : Gathers items ls ↔ items.filterMap ofItem? = ls := by
  constructor
  · intro h
    induction h with
    | nil => rfl
    | take h _ ih =>
        obtain ⟨hitem, hitems⟩ := List.forall_mem_cons.1 hitems
        rw [List.filterMap_cons_some ((ofItem?_eq_some_iff hitem).2 h), ih hitems]
    | skip h _ ih =>
        obtain ⟨hitem, hitems⟩ := List.forall_mem_cons.1 hitems
        rw [List.filterMap_cons_none ((ofItem?_eq_none_iff hitem).2 h), ih hitems]
  · rintro rfl
    induction items with
    | nil => exact .nil
    | cons item items ih =>
        obtain ⟨hitem, hitems⟩ := List.forall_mem_cons.1 hitems
        cases h : ofItem? item with
        | none =>
            rw [List.filterMap_cons_none h]
            exact .skip ((ofItem?_eq_none_iff hitem).1 h) (ih hitems)
        | some l =>
            rw [List.filterMap_cons_some h]
            exact .take ((ofItem?_eq_some_iff hitem).1 h) (ih hitems)

/-- Null yields nothing, a value that is no array the same as an array of it alone, and a value that
is no object nothing at all. An array yields the locations that its well-formed items denote, in
order, so arrays one behind the other yield what each does, and a malformed item might as well not be
there. What an item has under other keys than those it is read by does not matter. -/
theorem answer_gathered {xs : List Json} (hxs : ∀ x ∈ xs, InRange x) (ys : List Json) :
    ofAnswer .null = [] ∧
    (∀ x : Json, x.asArray? = none → ofAnswer x = ofAnswer (.array [x])) ∧
    (∀ x : Json, x.asArray? = none → (∀ members, x ≠ .object members) → ofAnswer x = []) ∧
    (∀ ls, ofAnswer (.array xs) = ls ↔ Gathers xs ls) ∧
    ofAnswer (.array (xs ++ ys)) = ofAnswer (.array xs) ++ ofAnswer (.array ys) ∧
    (∀ item, InRange item → ¬WellFormed item →
      ofAnswer (.array (xs ++ item :: ys)) = ofAnswer (.array (xs ++ ys))) ∧
    ∀ item item' : Json, keysOf item = keysOf item' →
      item.get? (keysOf item).uri = item'.get? (keysOf item).uri →
      item.get? (keysOf item).range = item'.get? (keysOf item).range →
      ofAnswer (.array [item]) = ofAnswer (.array [item']) := by
  have hcons : ∀ item items, ofAnswer (.array (item :: items))
      = (ofItem? item).toList ++ ofAnswer (.array items) := by
    intro item items
    cases h : ofItem? item with
    | none => exact List.filterMap_cons_none h
    | some l => exact List.filterMap_cons_some h
  have happend : ∀ items items', ofAnswer (.array (items ++ items'))
      = ofAnswer (.array items) ++ ofAnswer (.array items') :=
    fun _ _ => List.filterMap_append
  refine ⟨rfl, fun x hx => ?_, fun x hx hnot => ?_, fun ls => (gathers_iff hxs).symm, happend xs ys,
    fun item hitem hbad => ?_, fun item item' hkeys huri hrange => ?_⟩
  · rw [hcons]
    cases x with
    | array => cases hx
    | null => rfl
    | _ => exact (List.append_nil _).symm
  · cases x with
    | array => cases hx
    | object members => exact absurd rfl (hnot members)
    | _ => rfl
  · rw [happend, hcons, (ofItem?_eq_none_iff hitem).2 hbad, happend]
    rfl
  · have hparts : parts? item = parts? item' := by
      rw [parts?_eq, parts?_eq, ← hkeys, huri, hrange]
    rw [hcons, hcons, ofItem?, ofItem?, hparts]

/-- A position, as an item has it. -/
def spot (line character : Json) : Json := .object [("character", character), ("line", line)]

/-- A range, as an item has it. -/
def span (start stop : Json) : Json := .object [("end", stop), ("start", start)]

theorem inRange_spot {line character : Json} (hline : InRange line)
    (hcharacter : InRange character) : InRange (spot line character) :=
  .object (List.forall_mem_cons.2 ⟨hcharacter, List.forall_mem_singleton.2 hline⟩)

theorem inRange_span {start stop : Json} (hstart : InRange start) (hstop : InRange stop) :
    InRange (span start stop) :=
  .object (List.forall_mem_cons.2 ⟨hstop, List.forall_mem_singleton.2 hstart⟩)

/-- An item of both forms, with a plain URI that is no text. Of the numbers of its target, the first
two are the largest integer that a text can have and the negative zero, the others ten to the 300th
and the least natural number that is none of the binary64 ones. -/
def twofold : Json :=
  .object [("range", span (spot (.int 1) (.int 1)) (spot (.int 1) (.int 1))),
    ("targetRange",
      span (spot (.int 18446744073709551615) (.float (.zero true)))
        (spot (.float ⟨0x7E37E43C8800759C⟩) (.int 9007199254740993))),
    ("targetUri", .string "file:///a.py"),
    ("uri", .int 7)]

/-- An item with half a line. -/
def halved : Json :=
  .object [("range", span (spot (.float ⟨0x3FE0000000000000⟩) (.int 0)) (spot (.int 1) (.int 0))),
    ("uri", .string "file:///b.py")]

theorem inRange_twofold : InRange twofold := by
  have hone : InRange (spot (.int 1) (.int 1)) :=
    inRange_spot (.int (by decide) (by decide)) (.int (by decide) (by decide))
  refine .object ?_
  simp only [List.forall_mem_cons]
  refine ⟨inRange_span hone hone, inRange_span ?_ ?_, .string _, .int (by decide) (by decide),
    List.forall_mem_nil _⟩
  · exact inRange_spot (.int (by decide) (by decide)) (.float (by decide))
  · exact inRange_spot (.float (by decide)) (.int (by decide) (by decide))

theorem inRange_halved : InRange halved := by
  refine .object ?_
  simp only [List.forall_mem_cons]
  refine ⟨inRange_span ?_ ?_, .string _, List.forall_mem_nil _⟩
  · exact inRange_spot (.float (by decide)) (.int (by decide) (by decide))
  · exact inRange_spot (.int (by decide) (by decide)) (.int (by decide) (by decide))

def twofoldLocation : Location :=
  ⟨"file:///a.py",
    ⟨⟨9223372036854775807, 0⟩, ⟨9223372036854775807, 9007199254740993⟩⟩⟩

theorem ofItem?_twofold : ofItem? twofold = some twofoldLocation := by decide +kernel

theorem answer_gathered_twofold :
    (∀ x ∈ [halved, twofold, .string "file:///a.py"], InRange x) ∧
      Gathers [halved, twofold, .string "file:///a.py"] [twofoldLocation] := by
  have hitems : ∀ x ∈ [halved, twofold, .string "file:///a.py"], InRange x := by
    simp only [List.forall_mem_cons]
    exact ⟨inRange_halved, inRange_twofold, .string _, List.forall_mem_nil _⟩
  refine ⟨hitems, ?_⟩
  obtain ⟨-, -, -, hgathers, -⟩ := answer_gathered hitems []
  exact (hgathers _).1 (by decide +kernel)

/-! ### Validity -/

theorem isNonNegative_iff {p : Position} : p.isNonNegative = true ↔ ∀ axis, 0 ≤ p.at axis := by
  simp only [Position.isNonNegative, Bool.and_eq_true, decide_eq_true_eq]
  exact ⟨fun h axis => by cases axis; exacts [h.1, h.2], fun h => ⟨h .line, h .character⟩⟩

theorem isValid_iff {l : Location} : l.isValid = true ↔
    (Uri.resolve? l.uri).isSome = true ∧ ∀ edge axis, 0 ≤ l.range.at edge axis := by
  simp only [isValid, isValidWith, Bool.and_eq_true, isNonNegative_iff, and_assoc]
  refine and_congr_right fun _ => ⟨fun h edge => ?_, fun h => ⟨h .start, h .stop⟩⟩
  cases edge
  exacts [h.1, h.2]

/-- The coordinates of an item's location are the integers that its four numbers stand for, brought
within signed words of 64 bits. None changes its sign, so the location is valid if and only if the
URI leads somewhere and none of the four numbers is below zero. -/
theorem isValid_of_numbers {item : Json} (hitem : InRange item) {l : Location}
    (h : ofItem? item = some l) :
    ∃ value : Edge → Axis → ℤ,
      (∀ edge axis, ∃ n, numberAt item edge axis = some n ∧ n.StandsFor (value edge axis)) ∧
      (∀ edge axis, l.range.at edge axis = max (-2 ^ 63) (min (value edge axis) (2 ^ 63 - 1))) ∧
      (∀ edge axis, l.range.at edge axis < 0 ↔ value edge axis < 0) ∧
      (l.isValid = true ↔
        (Uri.resolve? l.uri).isSome = true ∧ ∀ edge axis, 0 ≤ value edge axis) := by
  obtain ⟨-, hcoordinates⟩ := (ofItem?_eq_some_iff hitem).1 h
  choose n value hn hvalue hl using hcoordinates
  have hsign : ∀ edge axis, 0 ≤ l.range.at edge axis ↔ 0 ≤ value edge axis := by
    intro edge axis
    rw [hl edge axis]
    exact withinWord_nonneg_iff
  refine ⟨value, fun edge axis => ⟨n edge axis, hn edge axis, hvalue edge axis⟩, hl,
    fun edge axis => ?_, ?_⟩
  · rw [← not_le, ← not_le, hsign edge axis]
  · rw [isValid_iff]
    exact and_congr_right fun _ => forall_congr' fun edge => forall_congr' (hsign edge)

theorem isValid_of_numbers_twofold :
    InRange twofold ∧ ofItem? twofold = some twofoldLocation ∧
      ∃ value : Edge → Axis → ℤ, (∀ edge axis, 0 ≤ value edge axis) ∧
        (∃ n, numberAt twofold .start .character = some n ∧
          n.StandsFor (value .start .character)) ∧
        twofoldLocation.range.at .stop .line = min (value .stop .line) (2 ^ 63 - 1) := by
  refine ⟨inRange_twofold, ofItem?_twofold, ?_⟩
  obtain ⟨value, hnumbers, hcoordinates, -, hvalid⟩ :=
    isValid_of_numbers inRange_twofold ofItem?_twofold
  have hnonneg := (hvalid.1 (by decide +kernel)).2
  refine ⟨value, hnonneg, hnumbers .start .character, ?_⟩
  rw [hcoordinates]
  have hstop := hnonneg .stop .line
  omega

end Location

end LookupBench
