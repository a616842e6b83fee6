import LookupBench.Text.Utf8
import Mathlib.Data.List.Basic
import Mathlib.Tactic.SplitIfs

/-!
# UTF-8 there and back

The octets of a text, read again, are the text: each character is one piece of them, whatever
follows. An octet of a character outside ASCII is never one of ASCII. Octets that are no text are
shown piece by piece, and no piece goes on behind the end of its line.
-/

namespace LookupBench.Utf8

/-! ### Octets as numbers -/

theorem toNat_toUInt8 {n : Nat} (h : n < 256) : n.toUInt8.toNat = n := by
  simp [Nat.toUInt8, UInt8.toNat_ofNat', Nat.mod_eq_of_lt h]

/-- A character is never one half of a surrogate pair. -/
theorem toNat_bounds (c : Char) : c.toNat < 0xD800 ∨ 0xDFFF < c.toNat ∧ c.toNat < 0x110000 :=
  c.valid

theorem not_lt_ascii {b : UInt8} {n : Nat} (hb : b.toNat = n) (hn : 0x80 ≤ n) : ¬b < 0x80 := by
  rw [UInt8.lt_iff_toNat_lt, hb]
  exact Nat.not_lt.2 hn

/-! ### First octets -/

/-- What may follow a first octet, by its number. -/
theorem lead?_eq {b : UInt8} {n : Nat} (hb : b.toNat = n) :
    lead? b
      = if 0xC2 ≤ n ∧ n ≤ 0xDF then some (2, 0x80, 0xBF)
        else if n = 0xE0 then some (3, 0xA0, 0xBF)
        else if n = 0xED then some (3, 0x80, 0x9F)
        else if 0xE1 ≤ n ∧ n ≤ 0xEF then some (3, 0x80, 0xBF)
        else if n = 0xF0 then some (4, 0x90, 0xBF)
        else if 0xF1 ≤ n ∧ n ≤ 0xF3 then some (4, 0x80, 0xBF)
        else if n = 0xF4 then some (4, 0x80, 0x8F)
        else none := by
  simp only [lead?, UInt8.le_iff_toNat_le, ← UInt8.toNat_inj, hb]
  rfl

theorem isTail_of_toNat {b : UInt8} {n : Nat} (hb : b.toNat = n) (hlow : 0x80 ≤ n)
    (hhigh : n ≤ 0xBF) : isTail b = true := by
  simp only [isTail, UInt8.le_iff_toNat_le, hb, Bool.and_eq_true, decide_eq_true_eq]
  exact ⟨hlow, hhigh⟩

/-! ### Characters of each length -/

section Pieces

variable {n : Nat} (rest : Bytes)

theorem piece_two (hlow : 0x80 ≤ n) (hhigh : n < 0x800) :
    piece (0xC0 + n / 0x40).toUInt8 ((0x80 + n % 0x40).toUInt8 :: rest) = .char (Char.ofNat n) 2 := by
  have hb : (0xC0 + n / 0x40).toUInt8.toNat = 0xC0 + n / 0x40 := toNat_toUInt8 (by omega)
  have hb₂ : (0x80 + n % 0x40).toUInt8.toNat = 0x80 + n % 0x40 := toNat_toUInt8 (by omega)
  generalize (0xC0 + n / 0x40).toUInt8 = b at *
  generalize (0x80 + n % 0x40).toUInt8 = b₂ at *
  unfold piece
  rw [if_neg (not_lt_ascii hb (by omega)), lead?_eq hb, if_pos (by omega)]
  simp only [UInt8.lt_iff_toNat_lt, hb, hb₂, low, UInt8.reduceToNat]
  rw [if_neg (by omega), if_pos trivial]
  congr 2
  omega

theorem piece_three (hlow : 0x800 ≤ n) (hhigh : n < 0x10000) (hscalar : n < 0xD800 ∨ 0xDFFF < n) :
    piece (0xE0 + n / 0x1000).toUInt8
        ((0x80 + n / 0x40 % 0x40).toUInt8 :: (0x80 + n % 0x40).toUInt8 :: rest)
      = .char (Char.ofNat n) 3 := by
  have hb : (0xE0 + n / 0x1000).toUInt8.toNat = 0xE0 + n / 0x1000 := toNat_toUInt8 (by omega)
  have hb₂ : (0x80 + n / 0x40 % 0x40).toUInt8.toNat = 0x80 + n / 0x40 % 0x40 :=
    toNat_toUInt8 (by omega)
  have hb₃ : (0x80 + n % 0x40).toUInt8.toNat = 0x80 + n % 0x40 := toNat_toUInt8 (by omega)
  generalize (0xE0 + n / 0x1000).toUInt8 = b at *
  generalize (0x80 + n / 0x40 % 0x40).toUInt8 = b₂ at *
  generalize (0x80 + n % 0x40).toUInt8 = b₃ at *
  have htail : isTail b₃ = true := isTail_of_toNat hb₃ (by omega) (by omega)
  obtain ⟨low₂, high₂, hlead, hrange⟩ : ∃ low₂ high₂ : UInt8,
      lead? b = some (3, low₂, high₂) ∧ ¬(b₂ < low₂ ∨ high₂ < b₂) := by
    simp only [UInt8.lt_iff_toNat_lt, hb₂]
    rw [lead?_eq hb, if_neg (by omega)]
    by_cases hfirst : 0xE0 + n / 0x1000 = 0xE0
    · exact ⟨_, _, if_pos hfirst, by simp only [UInt8.reduceToNat]; omega⟩
    · rw [if_neg hfirst]
      by_cases hsurrogates : 0xE0 + n / 0x1000 = 0xED
      · exact ⟨_, _, if_pos hsurrogates, by simp only [UInt8.reduceToNat]; omega⟩
      · rw [if_neg hsurrogates, if_pos (by omega)]
        exact ⟨_, _, rfl, by simp only [UInt8.reduceToNat]; omega⟩
  unfold piece
  rw [if_neg (not_lt_ascii hb (by omega)), hlead]
  simp only [hrange, htail, hb, hb₂, hb₃, low, if_false, Bool.not_true, Bool.false_eq_true]
  rw [if_neg (by decide), if_pos trivial]
  congr 2
  omega

theorem piece_four (hlow : 0x10000 ≤ n) (hhigh : n < 0x110000) :
    piece (0xF0 + n / 0x40000).toUInt8 ((0x80 + n / 0x1000 % 0x40).toUInt8
        :: (0x80 + n / 0x40 % 0x40).toUInt8 :: (0x80 + n % 0x40).toUInt8 :: rest)
      = .char (Char.ofNat n) 4 := by
  have hb : (0xF0 + n / 0x40000).toUInt8.toNat = 0xF0 + n / 0x40000 := toNat_toUInt8 (by omega)
  have hb₂ : (0x80 + n / 0x1000 % 0x40).toUInt8.toNat = 0x80 + n / 0x1000 % 0x40 :=
    toNat_toUInt8 (by omega)
  have hb₃ : (0x80 + n / 0x40 % 0x40).toUInt8.toNat = 0x80 + n / 0x40 % 0x40 :=
    toNat_toUInt8 (by omega)
  have hb₄ : (0x80 + n % 0x40).toUInt8.toNat = 0x80 + n % 0x40 := toNat_toUInt8 (by omega)
  generalize (0xF0 + n / 0x40000).toUInt8 = b at *
  generalize (0x80 + n / 0x1000 % 0x40).toUInt8 = b₂ at *
  generalize (0x80 + n / 0x40 % 0x40).toUInt8 = b₃ at *
  generalize (0x80 + n % 0x40).toUInt8 = b₄ at *
  have htail₃ : isTail b₃ = true := isTail_of_toNat hb₃ (by omega) (by omega)
  have htail₄ : isTail b₄ = true := isTail_of_toNat hb₄ (by omega) (by omega)
  obtain ⟨low₂, high₂, hlead, hrange⟩ : ∃ low₂ high₂ : UInt8,
      lead? b = some (4, low₂, high₂) ∧ ¬(b₂ < low₂ ∨ high₂ < b₂) := by
    simp only [UInt8.lt_iff_toNat_lt, hb₂]
    rw [lead?_eq hb, if_neg (by omega), if_neg (by omega), if_neg (by omega), if_neg (by omega)]
    by_cases hfirst : 0xF0 + n / 0x40000 = 0xF0
    · exact ⟨_, _, if_pos hfirst, by simp only [UInt8.reduceToNat]; omega⟩
    · rw [if_neg hfirst]
      by_cases hmiddle : 0xF1 ≤ 0xF0 + n / 0x40000 ∧ 0xF0 + n / 0x40000 ≤ 0xF3
      · exact ⟨_, _, if_pos hmiddle, by simp only [UInt8.reduceToNat]; omega⟩
      · rw [if_neg hmiddle, if_pos (by omega)]
        exact ⟨_, _, rfl, by simp only [UInt8.reduceToNat]; omega⟩
  unfold piece
  rw [if_neg (not_lt_ascii hb (by omega)), hlead]
  simp only [hrange, htail₃, htail₄, hb, hb₂, hb₃, hb₄, low, if_false, Bool.not_true,
    Bool.false_eq_true]
  rw [if_neg (by decide), if_neg (by decide)]
  congr 2
  omega

end Pieces

/-! ### Texts -/

@[simp] theorem encodeChars_nil : encodeChars [] = [] := rfl

theorem encodeChars_append (cs ds : List Char) :
    encodeChars (cs ++ ds) = encodeChars cs ++ encodeChars ds := by
  induction cs with
  | nil => rfl
  | cons c cs ih => rw [List.cons_append, encodeChars, encodeChars, ih, List.append_assoc]

/-- The octets of a character are one piece, whatever follows. -/
theorem pieces_encodeChar (c : Char) (rest : Bytes) :
    ∃ size, pieces 0 (encodeChar c ++ rest) = .char c size :: pieces 0 rest := by
  have hbounds := toNat_bounds c
  unfold encodeChar
  dsimp only
  split
  next hone =>
    have hb : c.toNat.toUInt8.toNat = c.toNat := toNat_toUInt8 (by omega)
    refine ⟨1, ?_⟩
    have hless : c.toNat.toUInt8 < 0x80 := by
      rw [UInt8.lt_iff_toNat_lt, hb]
      exact hone
    simp only [List.cons_append, List.nil_append, pieces, piece, if_pos hless, hb, Char.ofNat_toNat]
  next hone =>
    split
    next htwo =>
      refine ⟨2, ?_⟩
      simp only [List.cons_append, List.nil_append, pieces]
      rw [piece_two rest (by omega) htwo, Char.ofNat_toNat]
      rfl
    next htwo =>
      split
      next hthree =>
        refine ⟨3, ?_⟩
        simp only [List.cons_append, List.nil_append, pieces]
        rw [piece_three rest (by omega) hthree (by omega), Char.ofNat_toNat]
        rfl
      next hthree =>
        refine ⟨4, ?_⟩
        simp only [List.cons_append, List.nil_append, pieces]
        rw [piece_four rest (by omega) (by omega), Char.ofNat_toNat]
        rfl

theorem decode?_encodeChars (cs : List Char) : decode? (encodeChars cs) = some cs := by
  induction cs with
  | nil => rfl
  | cons c cs ih =>
      obtain ⟨size, hpieces⟩ := pieces_encodeChar c (encodeChars cs)
      rw [decode?] at ih
      rw [decode?, encodeChars, hpieces, List.mapM_cons, ih]
      rfl

theorem decodeLossy_encodeChars (cs : List Char) : decodeLossy (encodeChars cs) = cs := by
  induction cs with
  | nil => rfl
  | cons c cs ih =>
      obtain ⟨size, hpieces⟩ := pieces_encodeChar c (encodeChars cs)
      rw [decodeLossy] at ih
      rw [decodeLossy, encodeChars, hpieces, List.map_cons, ih]
      rfl

theorem decodeString?_encode (s : String) : decodeString? (encode s) = some s := by
  rw [decodeString?, encode, decode?_encodeChars, Option.map_some, String.ofList_toList]

/-! ### Lines -/

/-- The octets of a piece. -/
def Piece.size : Piece → Nat
  | .char _ size | .broken size => size

theorem lead?_lowest {b lowest highest : UInt8} {size : Nat}
    (h : lead? b = some (size, lowest, highest)) : (10 : UInt8) < lowest := by
  unfold lead? at h
  repeat' split at h
  all_goals cases h
  all_goals decide

/-- A line feed is no part of the piece in front of it. -/
theorem piece_newline (b : UInt8) (rest more : Bytes) :
    piece b (rest ++ 10 :: more) = piece b rest ∧ (piece b rest).size ≤ rest.length + 1 := by
  unfold piece
  split
  · exact ⟨rfl, Nat.le_add_left 1 _⟩
  · cases hlead : lead? b with
    | none => exact ⟨rfl, Nat.le_add_left 1 _⟩
    | some bounds =>
        obtain ⟨size, lowest, highest⟩ := bounds
        have hnot : (10 : UInt8) < lowest := lead?_lowest hlead
        have htail : isTail 10 = false := by decide
        -- a piece ends at the fourth octet, so a longer rest is never seen
        rcases rest with _ | ⟨b₂, _ | ⟨b₃, _ | ⟨b₄, rest⟩⟩⟩
        · simp [hnot, Piece.size]
        · constructor
          · simp [htail]
          · dsimp only
            split_ifs <;> simp [Piece.size]
        · constructor
          · simp [htail]
          · dsimp only
            split_ifs <;> simp [Piece.size]
        · constructor
          · rfl
          · dsimp only
            split_ifs <;> simp [Piece.size]

theorem pieces_newline (line : Bytes) : ∀ skip ≤ line.length,
    pieces skip (line ++ [10]) = pieces skip line ++ [.char '\n' 1] := by
  induction line with
  | nil =>
      intro skip hskip
      obtain rfl := Nat.le_zero.1 hskip
      rfl
  | cons b rest ih =>
      intro skip hskip
      cases skip with
      | succ skip => exact ih skip (Nat.le_of_succ_le_succ hskip)
      | zero =>
          obtain ⟨hpiece, hsize⟩ := piece_newline b rest []
          rw [List.cons_append, pieces, pieces, hpiece]
          cases h : piece b rest with
          | char c size =>
              rw [h] at hsize
              dsimp only
              rw [ih (size - 1) (Nat.sub_le_of_le_add hsize)]
              rfl
          | broken size =>
              rw [h] at hsize
              dsimp only
              rw [ih (size - 1) (Nat.sub_le_of_le_add hsize)]
              rfl

/-- A line is shown the same with its line feed, whatever octets it is made of. -/
theorem decodeLossy_newline (line : Bytes) :
    decodeLossy (line ++ [10]) = decodeLossy line ++ ['\n'] := by
  rw [decodeLossy, pieces_newline line 0 (Nat.zero_le _), List.map_append]
  rfl

end LookupBench.Utf8
