import LookupBench.Json.Reader
import Mathlib.Data.List.Basic

/-!
# What a reader takes

A reader that succeeds on an input takes a piece off its front. The place it keeps of lines and
columns has no part in that, so it is left out here: `Reads r input a rest` says that `r`, wherever
it starts, makes `a` of the input and leaves `rest`.
-/

namespace LookupBench.Json.Reader

variable {α β : Type}

def Reads (r : Reader α) (input : Bytes) (a : α) (rest : Bytes) : Prop :=
  ∀ line column, ∃ line' column', r ⟨input, line, column⟩ = .ok a ⟨rest, line', column'⟩

/-! ### Readers one after the other -/

theorem reads_pure (a : α) (input : Bytes) : Reads (pure a) input a input :=
  fun line column => ⟨line, column, rfl⟩

theorem reads_bind {r : Reader α} {f : α → Reader β} {input middle rest : Bytes} {a : α} {b : β}
    (hr : Reads r input a middle) (hf : Reads (f a) middle b rest) :
    Reads (r >>= f) input b rest := by
  intro line column
  obtain ⟨line', column', hr⟩ := hr line column
  obtain ⟨line'', column'', hf⟩ := hf line' column'
  refine ⟨line'', column'', ?_⟩
  simp only [bind, EStateM.bind, hr, hf]

/-- A reader may look at what is left as a whole. -/
theorem reads_get {f : Cursor → Reader α} {input rest : Bytes} {a : α}
    (hf : ∀ c, c.rest = input → Reads (f c) input a rest) : Reads (get >>= f) input a rest := by
  intro line column
  exact hf ⟨input, line, column⟩ rfl line column

theorem reads_placed {r : Reader α} {input rest : Bytes} {a : α} (hr : Reads r input a rest) :
    Reads (placed r) input a rest := by
  intro line column
  obtain ⟨line', column', hr⟩ := hr line column
  exact ⟨line', column', by simp only [placed, hr]⟩

theorem reads_closedBy {body : Reader α} {close : Reader Unit} {input middle rest : Bytes} {a : α}
    (hbody : Reads body input a middle) (hclose : Reads close middle () rest) :
    Reads (closedBy body close) input a rest := by
  intro line column
  obtain ⟨line', column', hbody⟩ := hbody line column
  obtain ⟨line'', column'', hclose⟩ := hclose line' column'
  exact ⟨line'', column'', by simp only [closedBy, hbody, hclose]⟩

/-! ### Single octets -/

theorem reads_peek (input : Bytes) : Reads peek input input.head? input :=
  fun line column => ⟨line, column, rfl⟩

theorem reads_advance (b : UInt8) (rest : Bytes) : Reads advance (b :: rest) () rest := by
  intro line column
  simp only [advance, Cursor.advance]
  split
  · exact ⟨_, _, rfl⟩
  · exact ⟨_, _, rfl⟩

theorem reads_take (b : UInt8) (rest : Bytes) : Reads take (b :: rest) (some b) rest := by
  intro line column
  simp only [take, Cursor.advance]
  split
  · exact ⟨_, _, rfl⟩
  · exact ⟨_, _, rfl⟩

theorem reads_peekToken {b : UInt8} (hb : Cursor.isBlankByte b = false) (rest : Bytes) :
    Reads peekToken (b :: rest) (some b) (b :: rest) := by
  intro line column
  refine ⟨line, column, ?_⟩
  simp [peekToken, Cursor.skipBlank, Cursor.skipWhile, hb]

theorem reads_peekToken_nil : Reads peekToken [] none [] :=
  fun line column => ⟨line, column, rfl⟩

/-! ### Runs of octets -/

theorem reads_word (w rest : Bytes) : Reads (word w) (w ++ rest) () rest := by
  induction w with
  | nil => exact reads_pure () rest
  | cons b w ih =>
      apply reads_bind (reads_take b (w ++ rest))
      simp only [if_pos]
      exact ih

theorem skipWhile_rest (p : UInt8 → Bool) (input : Bytes) (line column : Nat) :
    (Cursor.skipWhile p input line column).rest = input.dropWhile p := by
  induction input generalizing line column with
  | nil => rfl
  | cons b rest ih =>
      rw [Cursor.skipWhile, List.dropWhile_cons]
      split
      · split <;> exact ih _ _
      · rfl

/-- What follows does not go on with a digit. -/
def EndsDigits (rest : Bytes) : Prop := ∀ b, rest.head? = some b → isDigit b = false

theorem takeWhile_digits {ds rest : Bytes} (hds : ∀ d ∈ ds, isDigit d = true)
    (hrest : EndsDigits rest) :
    (ds ++ rest).takeWhile isDigit = ds ∧ (ds ++ rest).dropWhile isDigit = rest := by
  rw [List.takeWhile_append_of_pos hds, List.dropWhile_append_of_pos hds]
  cases rest with
  | nil => simp
  | cons b rest => simp [hrest b rfl]

theorem reads_digits {ds rest : Bytes} (hds : ∀ d ∈ ds, isDigit d = true)
    (hrest : EndsDigits rest) : Reads digits (ds ++ rest) ds rest := by
  obtain ⟨htake, hdrop⟩ := takeWhile_digits hds hrest
  intro line column
  have hskip := skipWhile_rest isDigit (ds ++ rest) line column
  rw [hdrop] at hskip
  simp only [digits, htake]
  generalize Cursor.skipWhile isDigit (ds ++ rest) line column = c at hskip
  obtain ⟨_, line', column'⟩ := c
  cases hskip
  exact ⟨line', column', rfl⟩

theorem reads_passed (ds rest : Bytes) :
    Reads (modify (passed ds.length)) (ds ++ rest) () rest := by
  intro line column
  refine ⟨line, column + ds.length, ?_⟩
  change EStateM.Result.ok () (passed ds.length ⟨ds ++ rest, line, column⟩) = _
  rw [passed, List.drop_left]

end LookupBench.Json.Reader
