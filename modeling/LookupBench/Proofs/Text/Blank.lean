import LookupBench.Text.Blank
import Mathlib.Data.List.Basic

/-!
# Trimming and splitting

Blanks at the ends of a text are dropped by trimming and nothing else is; a text is split where a
separator stands first.
-/

namespace LookupBench

theorem trimStart_append {blanks : List Char} (h : ∀ c ∈ blanks, isBlank c = true)
    (cs : List Char) : trimStart (blanks ++ cs) = trimStart cs :=
  List.dropWhile_append_of_pos h

theorem trimStart_of_head {cs : List Char} (h : ∀ c, cs.head? = some c → isBlank c = false) :
    trimStart cs = cs := by
  cases cs with
  | nil => rfl
  | cons c cs => rw [trimStart, List.dropWhile_cons_of_neg (by simp [h c rfl])]

theorem trimEnd_append {blanks : List Char} (h : ∀ c ∈ blanks, isBlank c = true)
    (cs : List Char) : trimEnd (cs ++ blanks) = trimEnd cs := by
  rw [trimEnd, List.reverse_append,
    List.dropWhile_append_of_pos fun c hc => h c (List.mem_reverse.1 hc), trimEnd]

theorem trimEnd_of_getLast {cs : List Char} (h : ∀ c, cs.getLast? = some c → isBlank c = false) :
    trimEnd cs = cs := by
  rw [← List.reverse_reverse cs, trimEnd, List.reverse_reverse]
  congr 1
  exact trimStart_of_head fun c hc => h c (by rwa [List.head?_reverse] at hc)

theorem splitOnce_append {sep : Char} {before : List Char} (h : sep ∉ before)
    (behind : List Char) : splitOnce sep (before ++ sep :: behind) = some (before, behind) := by
  induction before with
  | nil => rw [List.nil_append, splitOnce, if_pos rfl]
  | cons c before ih =>
      obtain ⟨hc, hbefore⟩ := not_or.1 (mt List.mem_cons.2 h)
      rw [List.cons_append, splitOnce, if_neg (Ne.symm hc), ih hbefore]
      rfl

/-- A text is split at a separator with none in front of it. -/
theorem splitOnce_eq_some_iff {sep : Char} {cs before behind : List Char} :
    splitOnce sep cs = some (before, behind) ↔ cs = before ++ sep :: behind ∧ sep ∉ before := by
  constructor
  · intro h
    induction cs generalizing before with
    | nil => cases h
    | cons c rest ih =>
        rw [splitOnce] at h
        by_cases hc : c = sep
        · rw [if_pos hc] at h
          cases h
          exact ⟨by rw [hc, List.nil_append], List.not_mem_nil⟩
        · rw [if_neg hc] at h
          obtain ⟨⟨front, _⟩, hsplit, heq⟩ := Option.map_eq_some_iff.1 h
          cases heq
          obtain ⟨rfl, hnot⟩ := ih hsplit
          refine ⟨rfl, fun hmem => ?_⟩
          exact (List.mem_cons.1 hmem).elim (Ne.symm hc) hnot
  · rintro ⟨rfl, hnot⟩
    exact splitOnce_append hnot behind

end LookupBench
