import LookupBench.Proofs.Frame
import LookupBench.Proofs.Stream
import Mathlib.Data.List.TakeWhile

/-!
# Streams of blocks

What is read of a stream that is made up of blocks: of each block its message, if the body is one, and
nothing else. Headers that have nothing to do with the length, headers that are repeated, blank lines
in front and bodies that are no messages leave no trace in what is read of the other blocks.
-/

namespace LookupBench

theorem trim_newline (cs : List Char) : trim (cs ++ ['\n']) = trim cs := by
  have hfeed : ∀ c ∈ ['\n'], isBlank c = true := List.forall_mem_singleton.2 rfl
  by_cases h : ∀ c ∈ cs, isBlank c = true
  · rw [trim, trimStart_append h, trim, ← List.append_nil cs, trimStart_append h]
    rfl
  · have hne : cs.dropWhile isBlank ≠ [] := by
      rw [ne_eq, List.dropWhile_eq_nil_iff]
      exact h
    have hstart : trimStart (cs ++ ['\n']) = trimStart cs ++ ['\n'] := by
      rw [trimStart, List.dropWhile_append, if_neg (by simpa using hne)]
      rfl
    rw [trim, hstart, trimEnd_append hfeed, trim]

namespace Frame

/-- The text of a line that stands without its line feed. -/
def lineText (line : Bytes) : List Char := trim (Utf8.decodeLossy line)

def IsBlankLine (line : Bytes) : Prop := (10 : UInt8) ∉ line ∧ lineText line = []

def IsHeader (line : Bytes) : Prop := (10 : UInt8) ∉ line ∧ lineText line ≠ []

instance : DecidablePred IsBlankLine := fun _ => instDecidableAnd

instance : DecidablePred IsHeader := fun _ => instDecidableAnd

/-- What a header says of the length, if that is what it is named for. -/
def lengthValue? (line : Bytes) : Option (List Char) :=
  match splitOnce ':' (lineText line) with
  | some (name, value) =>
    if (trim name).map lowerAscii = lengthName then some (trim value) else none
  | none => none

/-- The length that headers give. The last header that is named for it counts, and gives none if its
value is no word of 64 bits. -/
def lengthIn (headers : List Bytes) : Option Nat :=
  (headers.filterMap lengthValue?).getLast?.bind parseNat64?

/-- Headers, a blank line behind them, and a body; blank lines may stand in front. The body is as long
as the headers say, and empty if they do not say it. -/
structure Block where
  front : List Bytes
  headers : List Bytes
  blank : Bytes
  body : Bytes
  isBlankLine_front : ∀ line ∈ front, IsBlankLine line
  isHeader_headers : ∀ line ∈ headers, IsHeader line
  headers_ne_nil : headers ≠ []
  isBlankLine_blank : IsBlankLine blank
  length_body : ∀ n ∈ lengthIn headers, n < capacity ∧ body.length = n
  body_eq_nil : lengthIn headers = none → body = []

def lines (ls : List Bytes) : Bytes := ls.flatMap fun line => line ++ [10]

namespace Block

def octets (b : Block) : Bytes := lines b.front ++ lines b.headers ++ b.blank ++ 10 :: b.body

/-- The message that the body is the text of, if it is one. -/
def message? (b : Block) : Option Json := Json.ofBytes? b.body

end Block

def stream (blocks : List Block) : Bytes := blocks.flatMap Block.octets

/-- The messages of blocks, each with the offset of the octet behind its block, when the first block
stands at `start`. -/
def placed : Nat → List Block → List (Json × Nat)
  | _, [] => []
  | start, b :: rest =>
    let finish := start + b.octets.length
    match b.message? with
    | some m => (m, finish) :: placed finish rest
    | none => placed finish rest

/-! ### Lines -/

section Lines

variable {line : Bytes} {inside : Bool} {length : Option Nat}

theorem firstLine_append (hline : (10 : UInt8) ∉ line) (rest : Bytes) :
    firstLine (line ++ 10 :: rest) = lineText line := by
  rw [firstLine, splitLine_append hline, Utf8.decodeLossy_newline, trim_newline, lineText]

theorem lengthOf?_lineText (line : Bytes) :
    lengthOf? (lineText line) = (lengthValue? line).map parseNat64? := by
  unfold lengthOf? lengthValue?
  cases splitOnce ':' (lineText line) with
  | none => rfl
  | some parts =>
      dsimp only
      split <;> rfl

theorem head_header (hline : IsHeader line) (rest : Bytes) :
    head inside length (line ++ 10 :: rest)
      = head true (((lengthValue? line).map parseNat64?).getD length) rest := by
  have htext : (lineText line).isEmpty = false := by simpa using hline.2
  rw [head_eq (by simp), firstLine_append hline.1, splitLine_append hline.1, htext,
    lengthOf?_lineText]
  rfl

theorem head_blankInside (hline : IsBlankLine line) (rest : Bytes) :
    head true length (line ++ 10 :: rest) = some (length, rest) := by
  rw [head_eq (by simp), firstLine_append hline.1, splitLine_append hline.1, hline.2]
  rfl

theorem head_blankOutside (hline : IsBlankLine line) (rest : Bytes) :
    head false length (line ++ 10 :: rest) = head false length rest := by
  rw [head_eq (by simp), firstLine_append hline.1, splitLine_append hline.1, hline.2]
  rfl

theorem lines_cons_append (line : Bytes) (ls : List Bytes) (rest : Bytes) :
    lines (line :: ls) ++ rest = line ++ 10 :: (lines ls ++ rest) := by
  simp [lines]

theorem head_front {front : List Bytes} (h : ∀ line ∈ front, IsBlankLine line) (rest : Bytes) :
    head false length (lines front ++ rest) = head false length rest := by
  induction front with
  | nil => rfl
  | cons line front ih =>
      obtain ⟨hline, hfront⟩ := List.forall_mem_cons.1 h
      rw [lines_cons_append, head_blankOutside hline, ih hfront]

/-- The length behind headers, when `length` is what was given before them. -/
def lengthBehind (length : Option Nat) (headers : List Bytes) : Option Nat :=
  match (headers.filterMap lengthValue?).getLast? with
  | some value => parseNat64? value
  | none => length

theorem lengthBehind_cons (length : Option Nat) (line : Bytes) (headers : List Bytes) :
    lengthBehind (((lengthValue? line).map parseNat64?).getD length) headers
      = lengthBehind length (line :: headers) := by
  unfold lengthBehind
  cases hvalue : lengthValue? line with
  | none =>
      rw [List.filterMap_cons_none hvalue]
      rfl
  | some value =>
      rw [List.filterMap_cons_some hvalue, List.getLast?_cons]
      cases (headers.filterMap lengthValue?).getLast? <;> rfl

theorem lengthBehind_none (headers : List Bytes) : lengthBehind none headers = lengthIn headers := by
  unfold lengthBehind lengthIn
  cases (headers.filterMap lengthValue?).getLast? <;> rfl

theorem head_headers {headers : List Bytes} (h : ∀ line ∈ headers, IsHeader line)
    (hinside : headers ≠ [] ∨ inside = true) {blank : Bytes} (hblank : IsBlankLine blank)
    (rest : Bytes) :
    head inside length (lines headers ++ (blank ++ 10 :: rest))
      = some (lengthBehind length headers, rest) := by
  induction headers generalizing inside length with
  | nil =>
      obtain rfl : inside = true := hinside.resolve_left fun hne => hne rfl
      exact head_blankInside hblank rest
  | cons line headers ih =>
      obtain ⟨hline, hheaders⟩ := List.forall_mem_cons.1 h
      rw [lines_cons_append, head_header hline, ih hheaders (.inr rfl), lengthBehind_cons]

end Lines

/-! ### One block -/

namespace Block

variable (b : Block) (rest : Bytes)

theorem head_octets :
    head false none (b.octets ++ rest) = some (lengthIn b.headers, b.body ++ rest) := by
  have htext : b.octets ++ rest
      = lines b.front ++ (lines b.headers ++ (b.blank ++ 10 :: (b.body ++ rest))) := by
    simp [octets]
  rw [htext, head_front b.isBlankLine_front,
    head_headers b.isHeader_headers (.inl b.headers_ne_nil) b.isBlankLine_blank, lengthBehind_none]

/-- A block with a message is read up to its own end, and one without is passed, whatever follows. -/
theorem read_octets : read (b.octets ++ rest) =
    match b.message? with
    | some m => .message m rest
    | none => read rest := by
  have hhead := b.head_octets rest
  have hlater := readsTo_read rest capacity
  cases hlength : lengthIn b.headers with
  | none =>
      have hbody : b.body = [] := b.body_eq_nil hlength
      have hnone : b.message? = none := by
        rw [message?, hbody]
        exact Option.isNone_iff_eq_none.1 (by decide +kernel)
      rw [hlength, hbody, List.nil_append] at hhead
      rw [hnone]
      exact (ReadsTo.noLength hhead hlater).eq
  | some n =>
      obtain ⟨hsmall, rfl⟩ := b.length_body n hlength
      rw [hlength] at hhead
      have hfits := refusal?_capacity hsmall
      have hthere : b.body.length ≤ (b.body ++ rest).length := by simp
      have htake : (b.body ++ rest).take b.body.length = b.body := List.take_left
      have hdrop : (b.body ++ rest).drop b.body.length = rest := List.drop_left
      cases hmessage : b.message? with
      | some m =>
          have hread := ReadsTo.message (m := m) hhead hfits hthere (htake.symm ▸ hmessage)
          rw [hdrop] at hread
          exact hread.eq
      | none =>
          exact (ReadsTo.noJson hhead hfits hthere (htake.symm ▸ hmessage)
            (hdrop.symm ▸ hlater)).eq

theorem length_octets_pos : 0 < b.octets.length := by simp [octets]

end Block

/-! ### A stream of blocks -/

theorem readAllWith_congr {input input' : Bytes} (h : read input = read input')
    (total fuel : Nat) :
    readAllWith capacity total (fuel + 1) input = readAllWith capacity total (fuel + 1) input' := by
  rw [readAllWith, readAllWith, h]

theorem readAllWith_stream {blocks : List Block} {start fuel : Nat} (hfuel : blocks.length < fuel) :
    readAllWith capacity (start + (stream blocks).length) fuel (stream blocks)
      = (placed start blocks, .finished) := by
  obtain ⟨fuel, rfl⟩ := Nat.exists_eq_succ_of_ne_zero (Nat.ne_zero_of_lt hfuel)
  induction blocks generalizing start fuel with
  | nil => rfl
  | cons b rest ih =>
      have htext : stream (b :: rest) = b.octets ++ stream rest := rfl
      have htotal : start + (stream (b :: rest)).length
          = start + b.octets.length + (stream rest).length := by
        rw [htext, List.length_append, Nat.add_assoc]
      have hlater : rest.length < fuel := Nat.lt_of_succ_lt_succ hfuel
      have hread := b.read_octets (stream rest)
      rw [htotal, htext, placed]
      cases hmessage : b.message? with
      | none =>
          rw [hmessage] at hread
          rw [readAllWith_congr hread, ih fuel (Nat.lt_succ_of_lt hlater)]
      | some m =>
          obtain ⟨fuel, rfl⟩ := Nat.exists_eq_succ_of_ne_zero (Nat.ne_zero_of_lt hlater)
          rw [hmessage] at hread
          rw [readAllWith, hread]
          dsimp only
          rw [ih fuel hlater, Nat.add_sub_cancel]

theorem length_le_stream (blocks : List Block) : blocks.length ≤ (stream blocks).length := by
  induction blocks with
  | nil => exact Nat.le_refl 0
  | cons b rest ih =>
      rw [stream, List.flatMap_cons, List.length_append, List.length_cons]
      exact (Nat.add_comm _ _).trans_le (Nat.add_le_add b.length_octets_pos ih)

theorem fst_placed (start : Nat) (blocks : List Block) :
    (placed start blocks).map Prod.fst = blocks.filterMap Block.message? := by
  induction blocks generalizing start with
  | nil => rfl
  | cons b rest ih =>
      rw [placed, List.filterMap_cons]
      cases b.message? with
      | none => exact ih _
      | some m => exact congrArg (m :: ·) (ih _)

/-- Of a stream of blocks the messages of the bodies are read, in order and nothing else, each up to
the end of its own block, and then the stream is over. So a block adds its own message, if it has one,
to what is read of the blocks before and behind it, and changes nothing in that. -/
theorem readAll_stream (blocks : List Block) :
    readAll (stream blocks) = (placed 0 blocks, .finished) ∧
      messages (stream blocks) = blocks.filterMap Block.message? ∧
      (∀ before b after, messages (stream (before ++ b :: after))
        = messages (stream before) ++ b.message?.toList ++ messages (stream after)) ∧
      ∀ (b : Block) (rest : Bytes), read (b.octets ++ rest) =
        match b.message? with
        | some m => .message m rest
        | none => read rest := by
  have hall : ∀ blocks, readAll (stream blocks) = (placed 0 blocks, .finished) := by
    intro blocks
    have hread : readAllWith capacity (0 + (stream blocks).length) _ (stream blocks) = _ :=
      readAllWith_stream (Nat.lt_succ_of_le (length_le_stream blocks))
    rwa [Nat.zero_add] at hread
  have hmessages : ∀ blocks, messages (stream blocks) = blocks.filterMap Block.message? := by
    intro blocks
    rw [messages, hall, fst_placed]
  refine ⟨hall blocks, hmessages blocks, fun before b after => ?_, Block.read_octets⟩
  rw [hmessages, hmessages, hmessages, List.filterMap_append, List.filterMap_cons, List.append_assoc]
  cases b.message? <;> rfl

/-- Blank lines in front, a name in mixed case with blanks around it, headers on both sides, and a
length that the last header takes back. -/
def crowded : Block where
  front := [[], [32, 13]]
  headers := ["Content-Length: 90", "X-Note: Content-Length: 3", "\t content-LENGTH :  +2\r",
    "no colon"].map Utf8.encode
  blank := [13]
  body := [91, 93]
  isBlankLine_front := by decide
  isHeader_headers := by decide
  headers_ne_nil := by decide
  isBlankLine_blank := by decide
  length_body := by decide
  body_eq_nil := by decide

example : crowded.message?.isSome = true ∧ lengthIn crowded.headers = some 2 := by decide +kernel

end Frame

end LookupBench
