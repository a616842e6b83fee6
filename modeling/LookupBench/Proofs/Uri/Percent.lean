import LookupBench.Proofs.Text.Utf8
import LookupBench.Uri.Percent

/-!
# Percent escapes there and back

Decoding takes back what encoding wrote, whatever stands behind it. What encoding writes is visible
ASCII in which nothing ends a segment of a path, a path, or a URL.
-/

namespace LookupBench.Uri

/-! ### Decoding without a bound on the steps -/

theorem decodeWith_plain {b : UInt8} (hb : b ≠ percent) (fuel : Nat) (rest : Bytes) :
    decodeWith (fuel + 1) (b :: rest) = b :: decodeWith fuel rest := by
  conv_lhs => unfold decodeWith
  exact if_neg hb

theorem decodeWith_escape {high low octet : UInt8} (h : escapeValue high low = some octet)
    (fuel : Nat) (rest : Bytes) :
    decodeWith (fuel + 1) (percent :: high :: low :: rest) = octet :: decodeWith fuel rest := by
  rw [decodeWith, if_pos rfl, h]

/-- Each step takes an octet, so steps beyond the number of octets make no difference. -/
theorem decodeWith_fuel {fuel fuel' : Nat} {bytes : Bytes} (h : bytes.length ≤ fuel)
    (h' : bytes.length ≤ fuel') : decodeWith fuel bytes = decodeWith fuel' bytes := by
  induction fuel generalizing fuel' bytes with
  | zero =>
      obtain rfl := List.length_eq_zero_iff.1 (Nat.le_zero.1 h)
      simp [decodeWith]
  | succ fuel ih =>
      cases bytes with
      | nil => simp [decodeWith]
      | cons b rest =>
          obtain ⟨fuel', rfl⟩ := Nat.exists_eq_succ_of_ne_zero (Nat.ne_zero_of_lt h')
          have hrest := ih (Nat.le_of_succ_le_succ h) (Nat.le_of_succ_le_succ h')
          unfold decodeWith
          rw [hrest]
          split
          · split
            next high low more =>
              simp only [List.length_cons] at h h'
              have hmore : decodeWith fuel more = decodeWith fuel' more := ih (by omega) (by omega)
              rw [hmore]
            next => rfl
          · rfl

theorem percentDecode_nil : percentDecode [] = [] := rfl

theorem percentDecode_cons {b : UInt8} (hb : b ≠ percent) (rest : Bytes) :
    percentDecode (b :: rest) = b :: percentDecode rest := decodeWith_plain hb _ rest

theorem percentDecode_escape {high low octet : UInt8} (h : escapeValue high low = some octet)
    (rest : Bytes) :
    percentDecode (percent :: high :: low :: rest) = octet :: percentDecode rest := by
  have hfuel : decodeWith (rest.length + 2) rest = decodeWith rest.length rest :=
    decodeWith_fuel (Nat.le_add_right _ 2) (Nat.le_refl _)
  exact (decodeWith_escape h _ rest).trans (congrArg (octet :: ·) hfuel)

/-! ### Digits and octets -/

theorem hexOctetValue_hexOctet : ∀ n < 16, hexOctetValue (hexOctet n) = some n := by decide

theorem escapeValue_hexOctet (b : UInt8) :
    escapeValue (hexOctet (b.toNat / 16)) (hexOctet (b.toNat % 16)) = some b := by
  have hb : b.toNat < 256 := b.toNat_lt
  rw [escapeValue, hexOctetValue_hexOctet _ (by omega), hexOctetValue_hexOctet _ (by omega)]
  dsimp only
  rw [Nat.div_add_mod', Nat.toUInt8_eq, UInt8.ofNat_toNat]

theorem percentDecode_encodeOctet (b : UInt8) (rest : Bytes) :
    percentDecode (encodeOctet b ++ rest) = b :: percentDecode rest := by
  unfold encodeOctet
  split
  next => exact percentDecode_escape (escapeValue_hexOctet b) rest
  next hplain =>
    refine percentDecode_cons (fun heq => hplain ?_) rest
    rw [heq]
    decide

theorem percentDecode_percentEncode_append (bytes rest : Bytes) :
    percentDecode (percentEncode bytes ++ rest) = bytes ++ percentDecode rest := by
  induction bytes with
  | nil => rfl
  | cons b bytes ih =>
      rw [percentEncode, List.flatMap_cons, List.append_assoc, percentDecode_encodeOctet,
        List.cons_append]
      exact congrArg (b :: ·) ih

theorem percentDecode_percentEncode (bytes : Bytes) :
    percentDecode (percentEncode bytes) = bytes := by
  have h := percentDecode_percentEncode_append bytes []
  rwa [List.append_nil, percentDecode_nil, List.append_nil] at h

/-! ### What encoding writes -/

/-- An octet that a segment of a path can hold as it is, or a percent sign. -/
def IsVisible (b : UInt8) : Prop := b = percent ∨ needsEscape b = false

theorem isVisible_hexOctet : ∀ n < 16, needsEscape (hexOctet n) = false := by decide

theorem isVisible_of_mem_percentEncode {bytes : Bytes} {b : UInt8} (h : b ∈ percentEncode bytes) :
    IsVisible b := by
  obtain ⟨octet, -, hb⟩ := List.mem_flatMap.1 h
  have hoctet : octet.toNat < 256 := octet.toNat_lt
  unfold encodeOctet at hb
  split at hb
  next =>
    simp only [List.mem_cons, List.not_mem_nil, or_false] at hb
    rcases hb with rfl | rfl | rfl
    · exact .inl rfl
    · exact .inr (isVisible_hexOctet _ (by omega))
    · exact .inr (isVisible_hexOctet _ (by omega))
  next hplain =>
    obtain rfl := List.mem_singleton.1 hb
    exact .inr (by simpa using hplain)

theorem percentEncode_ne_nil {bytes : Bytes} (h : bytes ≠ []) : percentEncode bytes ≠ [] := by
  intro hnil
  have hdecoded := percentDecode_percentEncode bytes
  rw [hnil, percentDecode_nil] at hdecoded
  exact h hdecoded.symm

end LookupBench.Uri
