import LookupBench.Frame
import LookupBench.Proofs.Json.RoundTrip
import LookupBench.Proofs.Text.Blank

/-!
# Framed messages there and back

Messages that are written one behind the other are read as the same messages. Each is read up to the
end of its own frame, whatever stands behind it: the length in its header counts the octets of its
text, so that texts may hold header lines and blank lines of their own.
-/

namespace LookupBench

theorem isBlank_of_digit {c : Char} (h : isAsciiDigit c = true) : isBlank c = false := by
  obtain ⟨hlow, hhigh⟩ := isAsciiDigit_iff.1 h
  simp only [isBlank, Bool.or_eq_false_iff, Bool.and_eq_false_iff, decide_eq_false_iff_not]
  omega

namespace Frame

/-! ### Header lines -/

theorem splitLine_append {line : Bytes} (h : (10 : UInt8) ∉ line) (rest : Bytes) :
    splitLine (line ++ 10 :: rest) = (line ++ [10], rest) := by
  induction line with
  | nil => rfl
  | cons b line ih =>
      obtain ⟨hb, hline⟩ := not_or.1 (mt List.mem_cons.2 h)
      rw [List.cons_append, splitLine, if_neg (Ne.symm hb), ih hline]
      rfl

theorem parseNat64?_of_isNumeral {ds : List Char} (h : IsNumeral ds)
    (hn : decimalValue ds < 2 ^ 64) : parseNat64? ds = some (decimalValue ds) := by
  have hall : ds.all isAsciiDigit = true := List.all_eq_true.2 h.digits
  have hempty : ds.isEmpty = false := by simpa using h.nonempty
  unfold parseNat64?
  split
  next rest =>
    exact absurd (h.digits '+' List.mem_cons_self) (by decide)
  next =>
    dsimp only
    rw [hall, hempty, if_neg (by simp), if_pos hn]

def lengthWord : List Char :=
  ['C', 'o', 'n', 't', 'e', 'n', 't', '-', 'L', 'e', 'n', 'g', 't', 'h']

/-- The text of the line that gives a length. -/
def lengthLine (ds : List Char) : List Char := lengthWord ++ ':' :: ' ' :: ds

theorem trim_numeral {ds : List Char} (h : IsNumeral ds) : trim (' ' :: ds) = ds := by
  have hstart : trimStart ([' '] ++ ds) = ds := by
    rw [trimStart_append (List.forall_mem_singleton.2 rfl)]
    exact trimStart_of_head fun c hc => isBlank_of_digit (h.digits c (List.mem_of_head? hc))
  change trimEnd (trimStart ([' '] ++ ds)) = ds
  rw [hstart]
  exact trimEnd_of_getLast fun c hc => isBlank_of_digit (h.digits c (List.mem_of_getLast? hc))

theorem trim_lengthLine {ds : List Char} (h : IsNumeral ds) :
    trim (lengthLine ds ++ ['\r', '\n']) = lengthLine ds := by
  have hstart : trimStart (lengthLine ds ++ ['\r', '\n']) = lengthLine ds ++ ['\r', '\n'] := by
    apply trimStart_of_head
    intro c hc
    rw [← Option.some.inj hc]
    decide
  have hend : ∀ c ∈ ['\r', '\n'], isBlank c = true :=
    List.forall_mem_cons.2 ⟨rfl, List.forall_mem_singleton.2 rfl⟩
  rw [trim, hstart, trimEnd_append hend]
  apply trimEnd_of_getLast
  intro c hc
  change (lengthWord ++ ([':', ' '] ++ ds)).getLast? = some c at hc
  rw [← List.append_assoc, List.getLast?_append_of_ne_nil _ h.nonempty] at hc
  exact isBlank_of_digit (h.digits c (List.mem_of_getLast? hc))

theorem lengthOf?_lengthLine {ds : List Char} (h : IsNumeral ds) (hn : decimalValue ds < 2 ^ 64) :
    lengthOf? (lengthLine ds) = some (some (decimalValue ds)) := by
  have hcolon : ':' ∉ lengthWord := by decide
  have hname : (trim lengthWord).map lowerAscii = lengthName := by decide
  have hsplit : splitOnce ':' (lengthLine ds) = some (lengthWord, ' ' :: ds) :=
    splitOnce_append hcolon (' ' :: ds)
  rw [lengthOf?, hsplit]
  dsimp only
  rw [if_pos hname, trim_numeral h, parseNat64?_of_isNumeral h hn]

/-- The header that is written in front of a body. -/
def heading (n : Nat) : Bytes :=
  Utf8.encode "Content-Length: " ++ Utf8.encodeChars (Decimal.natDigits n) ++ [13, 10, 13, 10]

theorem write_eq (message : Json) :
    write message = heading message.octets.length ++ message.octets := rfl

theorem header_line {fuel : Nat} {inside : Bool} {length : Option Nat} {line text : Bytes}
    (hline : (10 : UInt8) ∉ line) {shown : List Char}
    (hshown : trim (Utf8.decodeLossy (line ++ [10])) = shown) :
    header (fuel + 1) inside length (line ++ 10 :: text)
      = if shown.isEmpty then if inside then some (length, text) else header fuel false length text
        else header fuel true ((lengthOf? shown).getD length) text := by
  have hsplit := splitLine_append hline text
  obtain ⟨b, more, hinput⟩ := List.exists_cons_of_ne_nil
    (show line ++ 10 :: text ≠ [] by simp)
  rw [hinput] at hsplit ⊢
  rw [header, hsplit]
  dsimp only
  rw [hshown]

theorem header_heading {n fuel : Nat} (hn : n < 2 ^ 64) (rest : Bytes) :
    header (fuel + 2) false none (heading n ++ rest) = some (some n, rest) := by
  obtain ⟨hds, hvalue⟩ := Decimal.isNumeral_natDigits n
  have hline : (10 : UInt8) ∉ Utf8.encode "Content-Length: "
      ++ Utf8.encodeChars (Decimal.natDigits n) ++ [13] := by
    intro hmem
    rcases List.mem_append.1 hmem with hmem | hmem
    · rcases List.mem_append.1 hmem with hmem | hmem
      · exact absurd hmem (by decide)
      · exact absurd (Json.Reader.isDigit_encodeChars hds.digits _ hmem) (by decide)
    · exact absurd hmem (by decide)
  have htext : Utf8.encode "Content-Length: " ++ Utf8.encodeChars (Decimal.natDigits n) ++ [13]
      ++ [10] = Utf8.encodeChars (lengthLine (Decimal.natDigits n) ++ ['\r', '\n']) := by
    have hword : Utf8.encode "Content-Length: " = Utf8.encodeChars (lengthWord ++ [':', ' ']) := by
      decide
    rw [hword, ← Utf8.encodeChars_append, List.append_assoc, List.append_assoc,
      Utf8.encodeChars_append (lengthLine _)]
    rfl
  have hinput : heading n ++ rest = Utf8.encode "Content-Length: "
      ++ Utf8.encodeChars (Decimal.natDigits n) ++ [13] ++ 10 :: ([13] ++ 10 :: rest) := by
    simp [heading]
  have hshown : trim (Utf8.decodeLossy (Utf8.encode "Content-Length: "
      ++ Utf8.encodeChars (Decimal.natDigits n) ++ [13] ++ [10]))
        = lengthLine (Decimal.natDigits n) := by
    rw [htext, Utf8.decodeLossy_encodeChars, trim_lengthLine hds]
  have hblank : trim (Utf8.decodeLossy ([13] ++ [10])) = [] := by decide
  rw [hinput, header_line hline hshown, if_neg (by simp [lengthLine, lengthWord]),
    lengthOf?_lengthLine hds (by rwa [hvalue]), hvalue, header_line (by decide) hblank]
  rfl

/-! ### One message -/

/-- Where there is memory for all that a buffer can hold, a body gets a buffer if it fits one. -/
theorem refusal?_capacity {n : Nat} (h : n < capacity) : refusal? capacity n = none := by
  rw [refusal?, if_neg (Nat.not_le.2 h), if_neg (Nat.not_le.2 h)]

/-- A message that can be sent: it can be held, does not nest deeper than readers go, and its text
fits a buffer. Writers put the text in a buffer first, so the last says no more than that they can
write it. -/
structure Sendable (message : Json) : Prop where
  proper : message.Proper Json.depthLimit
  fits : message.octets.length < capacity

theorem read_write {message : Json} (h : Sendable message) (rest : Bytes) :
    read (write message ++ rest) = .message message rest := by
  have hfits := h.fits
  have hlength : message.octets.length < 2 ^ 64 := hfits.trans (by decide)
  obtain ⟨fuel, hfuel⟩ : ∃ fuel, (write message ++ rest).length + 1 = fuel + 2 := by
    refine ⟨(write message ++ rest).length - 1, ?_⟩
    have : 0 < (write message ++ rest).length := by simp [write_eq, heading]
    omega
  rw [read, readWith, hfuel, write_eq, List.append_assoc, header_heading hlength]
  dsimp only
  rw [refusal?_capacity hfits]
  dsimp only
  rw [if_neg (by simp), List.take_left, List.drop_left, Json.ofBytes?_octets h.proper]

/-! ### A stream of messages -/

/-- The messages, each with the offset of the octet behind its frame, when the first frame stands at
`start`. -/
def framed : Nat → List Json → List (Json × Nat)
  | _, [] => []
  | start, message :: rest =>
    let finish := start + (write message).length
    (message, finish) :: framed finish rest

theorem readAllWith_writeAll {messages : List Json} {start fuel : Nat}
    (h : ∀ m ∈ messages, Sendable m) (hfuel : messages.length < fuel) :
    readAllWith capacity (start + (writeAll messages).length) fuel (writeAll messages)
      = (framed start messages, .finished) := by
  obtain ⟨fuel, rfl⟩ := Nat.exists_eq_succ_of_ne_zero (Nat.ne_zero_of_lt hfuel)
  induction messages generalizing start fuel with
  | nil => rfl
  | cons message rest ih =>
      obtain ⟨hmessage, hrest⟩ := List.forall_mem_cons.1 h
      have htext : writeAll (message :: rest) = write message ++ writeAll rest := rfl
      have htotal : start + (writeAll (message :: rest)).length
          = start + (write message).length + (writeAll rest).length := by
        rw [htext, List.length_append, Nat.add_assoc]
      rw [readAllWith, htotal, htext, read_write hmessage]
      dsimp only
      obtain ⟨fuel, rfl⟩ := Nat.exists_eq_succ_of_ne_zero
        (Nat.ne_zero_of_lt (Nat.lt_of_succ_lt_succ hfuel))
      rw [ih hrest fuel (Nat.lt_of_succ_lt_succ hfuel), Nat.add_sub_cancel, framed]

theorem length_le_writeAll (messages : List Json) :
    messages.length ≤ (writeAll messages).length := by
  induction messages with
  | nil => exact Nat.le_refl 0
  | cons message rest ih =>
      have hpos : 0 < (write message).length := by simp [write_eq, heading]
      rw [writeAll, List.flatMap_cons, List.length_append, List.length_cons]
      exact (Nat.add_comm _ _).trans_le (Nat.add_le_add hpos ih)

/-- Messages that can be sent are received as they were sent, each up to the end of its own frame,
and then the stream is over. -/
theorem readAll_writeAll {messages : List Json} (h : ∀ m ∈ messages, Sendable m) :
    readAll (writeAll messages) = (framed 0 messages, .finished) ∧
      ∀ m ∈ messages, ∀ rest, read (write m ++ rest) = .message m rest := by
  refine ⟨?_, fun m hm rest => read_write (h m hm) rest⟩
  have hall : readAllWith capacity (0 + (writeAll messages).length) _ (writeAll messages) = _ :=
    readAllWith_writeAll h (Nat.lt_succ_of_le (length_le_writeAll messages))
  rwa [Nat.zero_add] at hall

/-- Texts that look like frames, the ends of the range of integers, and a number with places. -/
def lookalikes : List Json :=
  [.object [("id", .int (2 ^ 64 - 1)), ("text", .string "Content-Length: 2\r\n\r\n\x7b\x7d")],
    .array [.int (-(2 ^ 63)), .float ⟨0x3fb999999999999a⟩, .array [], .null],
    .string "\r\n\r\n"]

theorem sendable_lookalikes : ∀ m ∈ lookalikes, Sendable m := by
  intro m hm
  simp only [lookalikes, List.mem_cons, List.not_mem_nil, or_false] at hm
  rcases hm with rfl | rfl | rfl
  · refine ⟨.object (by decide) fun m hm => ?_, by decide +kernel⟩
    simp only [List.mem_cons, List.not_mem_nil, or_false] at hm
    rcases hm with rfl | rfl
    · exact .int _ (by decide) (by decide)
    · exact .string _ _
  · refine ⟨.array fun x hx => ?_, by decide +kernel⟩
    simp only [List.mem_cons, List.not_mem_nil, or_false] at hx
    rcases hx with rfl | rfl | rfl | rfl
    · exact .int _ (by decide) (by decide)
    · exact .float _ (by decide)
    · exact .array fun x hx => absurd hx (by simp)
    · exact .null _
  · exact ⟨.string _ _, by decide +kernel⟩

theorem readAll_writeAll_lookalikes :
    (∀ m ∈ lookalikes, Sendable m) ∧
      readAll (writeAll lookalikes) = (framed 0 lookalikes, .finished) ∧
        (framed 0 lookalikes).map Prod.snd = [86, 142, 174] :=
  ⟨sendable_lookalikes, (readAll_writeAll sendable_lookalikes).1, by decide +kernel⟩

end Frame

end LookupBench
