import LookupBench.Json.Reader
import LookupBench.Number.Parse
import LookupBench.Proofs.Text.Utf8
import Mathlib.Data.List.Induction
import Mathlib.Tactic.Ring

/-!
# Decimal digits there and back

The digits of a natural number are read as that number, by those who read characters and by those
who read octets. They have no zero in front, unless they are one.
-/

namespace LookupBench

theorem isAsciiDigit_iff {c : Char} : isAsciiDigit c = true ↔ 48 ≤ c.toNat ∧ c.toNat ≤ 57 := by
  simp [isAsciiDigit, Char.le_def, UInt32.le_iff_toNat_le]

theorem decimalValue_concat (cs : List Char) (c : Char) :
    decimalValue (cs ++ [c]) = 10 * decimalValue cs + digitValue c := by
  rw [decimalValue, List.foldl_append]
  rfl

theorem decimalValue_append (cs ds : List Char) :
    decimalValue (cs ++ ds) = decimalValue cs * 10 ^ ds.length + decimalValue ds := by
  induction ds using List.reverseRecOn with
  | nil => simp [decimalValue]
  | append_singleton ds d ih =>
      rw [← List.append_assoc, decimalValue_concat, ih, decimalValue_concat, List.length_append,
        List.length_singleton, Nat.pow_succ]
      ring

theorem decimalValue_replicate_zero (n : Nat) : decimalValue (List.replicate n '0') = 0 := by
  induction n with
  | zero => rfl
  | succ n ih =>
      rw [List.replicate_succ', decimalValue_concat, ih]
      rfl

theorem digitValue_le {c : Char} (h : isAsciiDigit c = true) : digitValue c ≤ 9 := by
  have := isAsciiDigit_iff.1 h
  unfold digitValue
  omega

theorem decimalValue_lt {ds : List Char} (h : ∀ c ∈ ds, isAsciiDigit c = true) :
    decimalValue ds < 10 ^ ds.length := by
  induction ds using List.reverseRecOn with
  | nil => exact Nat.one_pos
  | append_singleton ds d ih =>
      have hd := digitValue_le (h d (by simp))
      have hds := ih fun c hc => h c (List.mem_append_left _ hc)
      rw [decimalValue_concat, List.length_append, List.length_singleton, Nat.pow_succ]
      omega

/-- Digits that are written for a number: nothing but digits, and no zero in front. -/
structure IsNumeral (ds : List Char) : Prop where
  digits : ∀ c ∈ ds, isAsciiDigit c = true
  nonempty : ds ≠ []
  leading : ds.head? = some '0' → ds = ['0']

theorem isNumeral_zero : IsNumeral ['0'] :=
  ⟨List.forall_mem_singleton.2 rfl, List.cons_ne_nil _ _, fun _ => rfl⟩

/-- A numeral that is not zero has no more digits than its size asks for. -/
theorem IsNumeral.pow_le {ds : List Char} (h : IsNumeral ds) (hne : ds ≠ ['0']) :
    10 ^ (ds.length - 1) ≤ decimalValue ds := by
  cases ds with
  | nil => exact absurd rfl h.nonempty
  | cons c ds =>
      have hdigit := isAsciiDigit_iff.1 (h.digits c List.mem_cons_self)
      have hc : c ≠ '0' := by
        rintro rfl
        exact hne (h.leading rfl)
      have hpos : 0 < digitValue c := by
        rw [Nat.pos_iff_ne_zero]
        intro hzero
        unfold digitValue at hzero
        apply hc
        rw [← Char.ofNat_toNat c, show c.toNat = 48 by omega]
      have hvalue := decimalValue_append [c] ds
      have hsingle : decimalValue [c] = digitValue c := by
        rw [decimalValue, List.foldl_cons, List.foldl_nil, Nat.mul_zero, Nat.zero_add]
      rw [List.singleton_append, hsingle] at hvalue
      rw [hvalue, List.length_cons, Nat.add_sub_cancel]
      exact Nat.le_add_right_of_le (Nat.le_mul_of_pos_left _ hpos)

theorem IsNumeral.append {ds more : List Char} (h : IsNumeral ds) (hne : ds ≠ ['0'])
    (hmore : ∀ c ∈ more, isAsciiDigit c = true) : IsNumeral (ds ++ more) := by
  refine ⟨fun c hc => (List.mem_append.1 hc).elim (h.digits c) (hmore c), by simp [h.nonempty],
    fun hhead => ?_⟩
  rw [List.head?_append_of_ne_nil _ h.nonempty] at hhead
  exact absurd (h.leading hhead) hne

theorem IsNumeral.take {ds : List Char} (h : IsNumeral ds) {n : Nat} (hn : n ≠ 0) :
    IsNumeral (ds.take n) := by
  cases ds with
  | nil => exact absurd rfl h.nonempty
  | cons c ds =>
      obtain ⟨n, rfl⟩ := Nat.exists_eq_succ_of_ne_zero hn
      refine ⟨fun d hd => h.digits d (List.mem_of_mem_take hd), by simp, fun hhead => ?_⟩
      have hall := h.leading (by simpa using hhead)
      simp only [List.cons.injEq] at hall
      rw [hall.1, hall.2]
      simp

namespace Decimal

theorem digitChar_spec : ∀ d < 10,
    isAsciiDigit (digitChar d) = true ∧ digitValue (digitChar d) = d ∧
      (digitChar d = '0' → d = 0) := by
  decide

theorem positiveDigits_spec (fuel n : Nat) (tail : List Char) (hn : n < 2 ^ fuel) :
    ∃ ds, positiveDigits fuel n tail = ds ++ tail ∧ (∀ c ∈ ds, isAsciiDigit c = true) ∧
      decimalValue ds = n ∧ (n = 0 → ds = []) ∧ (n ≠ 0 → ds ≠ [] ∧ ds.head? ≠ some '0') := by
  induction fuel generalizing n tail with
  | zero =>
      obtain rfl : n = 0 := by omega
      exact ⟨[], rfl, by simp, rfl, fun _ => rfl, fun h => absurd rfl h⟩
  | succ fuel ih =>
      rw [positiveDigits]
      split
      next hzero =>
        subst hzero
        exact ⟨[], rfl, by simp, rfl, fun _ => rfl, fun h => absurd rfl h⟩
      next hpos =>
        have hless : n / 10 < 2 ^ fuel := by
          rw [Nat.pow_succ] at hn
          omega
        obtain ⟨ds, hds, hdigits, hvalue, hempty, hleading⟩ :=
          ih (n / 10) (digitChar (n % 10) :: tail) hless
        obtain ⟨hdigit, hlast, hnotZero⟩ := digitChar_spec (n % 10) (Nat.mod_lt n (by omega))
        refine ⟨ds ++ [digitChar (n % 10)], by rw [hds]; simp, fun c hc => ?_, ?_,
          fun h => absurd h hpos, fun _ => ⟨by simp, ?_⟩⟩
        · rcases List.mem_append.1 hc with hc | hc
          · exact hdigits c hc
          · rwa [List.mem_singleton.1 hc]
        · rw [decimalValue_concat, hvalue, hlast]
          omega
        · by_cases hshort : n / 10 = 0
          · rw [hempty hshort]
            intro hhead
            have := hnotZero (Option.some.inj hhead)
            omega
          · obtain ⟨hds', hhead⟩ := hleading hshort
            rwa [List.head?_append_of_ne_nil _ hds']

theorem isNumeral_natDigits (n : Nat) : IsNumeral (natDigits n) ∧ decimalValue (natDigits n) = n := by
  unfold natDigits
  split
  next hzero =>
    subst hzero
    exact ⟨isNumeral_zero, rfl⟩
  next hpos =>
    obtain ⟨ds, hds, hdigits, hvalue, -, hleading⟩ :=
      positiveDigits_spec (n.log2 + 1) n [] Nat.lt_log2_self
    rw [hds, List.append_nil]
    obtain ⟨hne, hhead⟩ := hleading hpos
    exact ⟨⟨hdigits, hne, fun h => absurd h hhead⟩, hvalue⟩

end Decimal

/-! ### Digits as octets -/

namespace Utf8

theorem encodeChar_of_lt {c : Char} (h : c.toNat < 0x80) : encodeChar c = [c.toNat.toUInt8] := by
  rw [encodeChar]
  exact if_pos h

end Utf8

namespace Json.Reader

theorem isDigit_iff {b : UInt8} : isDigit b = true ↔ 48 ≤ b.toNat ∧ b.toNat ≤ 57 := by
  simp [isDigit, UInt8.le_iff_toNat_le]

theorem encodeChar_digit {c : Char} (h : isAsciiDigit c = true) :
    ∃ b, Utf8.encodeChar c = [b] ∧ isDigit b = true ∧ b.toNat - 48 = digitValue c := by
  obtain ⟨hlow, hhigh⟩ := isAsciiDigit_iff.1 h
  have hb : c.toNat.toUInt8.toNat = c.toNat := Utf8.toNat_toUInt8 (by omega)
  refine ⟨_, Utf8.encodeChar_of_lt (by omega), ?_, ?_⟩
  · rw [isDigit_iff, hb]
    exact ⟨hlow, hhigh⟩
  · rw [hb]
    rfl

theorem isDigit_encodeChars {ds : List Char} (h : ∀ c ∈ ds, isAsciiDigit c = true) :
    ∀ b ∈ Utf8.encodeChars ds, isDigit b = true := by
  induction ds with
  | nil =>
      intro b hb
      cases hb
  | cons c ds ih =>
      intro b hb
      obtain ⟨hc, hds⟩ := List.forall_mem_cons.1 h
      obtain ⟨d, hd, hdigit, -⟩ := encodeChar_digit hc
      rw [Utf8.encodeChars, hd] at hb
      rcases List.mem_cons.1 hb with rfl | hb
      · exact hdigit
      · exact ih hds b hb

theorem decimal_encodeChars {ds : List Char} (h : ∀ c ∈ ds, isAsciiDigit c = true) :
    decimal (Utf8.encodeChars ds) = decimalValue ds := by
  suffices hfold : ∀ (ds : List Char) (n : Nat), (∀ c ∈ ds, isAsciiDigit c = true) →
      (Utf8.encodeChars ds).foldl (fun n d => 10 * n + (d.toNat - 48)) n
        = ds.foldl (fun n c => 10 * n + digitValue c) n from hfold ds 0 h
  intro ds
  induction ds with
  | nil => intro n _; rfl
  | cons c ds ih =>
      intro n h
      obtain ⟨hc, hds⟩ := List.forall_mem_cons.1 h
      obtain ⟨d, hd, -, hvalue⟩ := encodeChar_digit hc
      rw [Utf8.encodeChars, hd, List.singleton_append, List.foldl_cons, List.foldl_cons, hvalue,
        ih _ hds]

theorem length_encodeChars_digits {ds : List Char} (h : ∀ c ∈ ds, isAsciiDigit c = true) :
    (Utf8.encodeChars ds).length = ds.length := by
  induction ds with
  | nil => rfl
  | cons c ds ih =>
      obtain ⟨hc, hds⟩ := List.forall_mem_cons.1 h
      obtain ⟨d, hd, -⟩ := encodeChar_digit hc
      rw [Utf8.encodeChars, hd, List.length_append, ih hds,
        List.length_singleton, List.length_cons, Nat.add_comm]

end Json.Reader

end LookupBench
