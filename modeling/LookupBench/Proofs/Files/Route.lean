import LookupBench.Proofs.Files.Direct

/-!
# Names behind a path

Names are joined to any path, however it is written. All of them can be read off the result, so that
routes from one place are told apart by the paths they lead to; the last one is the name of the file,
and tells its extension.
-/

namespace LookupBench

namespace Path

/-- A path with names behind it. -/
def extend (p : Path) (route : List Bytes) : Path := route.foldl join p

theorem extend_cons (p : Path) (name : Bytes) (route : List Bytes) :
    p.extend (name :: route) = (p.join name).extend route := rfl

/-- The pieces of a path that stay in front when a name is joined to it. -/
def front (p : Path) : List Bytes :=
  if p = [] ∨ p.getLast? = some slash then (pieces p).dropLast else pieces p

theorem pieces_ne_nil (p : Path) : pieces p ≠ [] := by
  cases p with
  | nil => exact List.cons_ne_nil _ _
  | cons b rest =>
      rw [pieces]
      split
      · exact List.cons_ne_nil _ _
      · split <;> exact List.cons_ne_nil _ _

theorem pieces_append (p q : Path) : pieces (p ++ slash :: q) = pieces p ++ pieces q := by
  induction p with
  | nil => rfl
  | cons b rest ih =>
      by_cases hb : b = slash
      · simp [pieces, hb, ih]
      · obtain ⟨piece, more, hpieces⟩ := List.exists_cons_of_ne_nil (pieces_ne_nil rest)
        simp [pieces, hb, ih, hpieces]

theorem isAbsolute_append {p : Path} (h : p ≠ []) {q : Path} :
    (p ++ q).isAbsolute = p.isAbsolute := by
  rw [isAbsolute, List.head?_append_of_ne_nil _ h]
  rfl

/-- A slash at the end names nothing. -/
theorem components_append_slash {p : Path} : (p ++ [slash]).components = p.components := by
  have hpieces : pieces (p ++ [slash]) = pieces p ++ [[]] := pieces_append p []
  rw [components, hpieces, List.head?_append_of_ne_nil _ (pieces_ne_nil p), List.filter_append]
  simp [components]

section Join

variable {p : Path} {name : Bytes}

theorem pieces_join (h : IsName name) : pieces (p.join name) = front p ++ [name] := by
  have hname := pieces_of_noSlash h.noSlash
  rw [join, h.relative, Bool.false_or, front]
  by_cases hempty : p = []
  · subst hempty
    exact hname
  rw [if_neg (mt List.isEmpty_iff.1 hempty)]
  by_cases hslash : p.getLast? = some slash
  · obtain ⟨before, b, rfl⟩ := (List.eq_nil_or_concat p).resolve_left hempty
    rw [List.concat_eq_append, List.getLast?_concat] at hslash
    obtain rfl := Option.some.inj hslash
    have hpieces : pieces (before ++ [slash]) = pieces before ++ [[]] := pieces_append before []
    rw [List.concat_eq_append, List.getLast?_concat, if_pos rfl, if_pos (.inr rfl), hpieces,
      List.dropLast_concat, List.append_assoc, ← hname]
    exact pieces_append before name
  · rw [if_neg hslash, if_neg (not_or.2 ⟨hempty, hslash⟩), pieces_append, hname]

/-- Nothing of a path that ends in a name is lost when another name is joined to it. -/
theorem front_join (h : IsName name) : front (p.join name) = pieces (p.join name) := by
  obtain ⟨before, hjoin⟩ : ∃ before, p.join name = before ++ name := by
    unfold join
    split
    · exact ⟨[], rfl⟩
    · split
      · exact ⟨p, rfl⟩
      · exact ⟨p ++ [slash], by simp⟩
  rw [front, hjoin, if_neg]
  rintro (hnil | hslash)
  · exact h.ne_nil (List.append_eq_nil_iff.1 hnil).2
  · rw [List.getLast?_append_of_ne_nil _ h.ne_nil] at hslash
    exact h.getLast?_ne hslash

theorem pieces_extend {route : List Bytes} (h : ∀ n ∈ route, IsName n) (hne : route ≠ []) :
    pieces (p.extend route) = front p ++ route := by
  induction route generalizing p with
  | nil => exact absurd rfl hne
  | cons name route ih =>
      obtain ⟨hname, hroute⟩ := List.forall_mem_cons.1 h
      rw [extend_cons]
      by_cases hlast : route = []
      · rw [hlast]
        exact pieces_join hname
      · rw [ih hroute hlast, front_join hname, pieces_join hname, List.append_assoc,
          List.singleton_append]

/-- Different routes lead to different paths. -/
theorem extend_injective {route route' : List Bytes} (h : ∀ n ∈ route, IsName n)
    (h' : ∀ n ∈ route', IsName n) (hne : route ≠ []) (hne' : route' ≠ [])
    (heq : p.extend route = p.extend route') : route = route' := by
  have hpieces := congrArg pieces heq
  rwa [pieces_extend h hne, pieces_extend h' hne', List.append_cancel_left_eq] at hpieces

theorem fileName_join (h : IsName name) : (p.join name).fileName = some name := by
  have hlast : (p.join name).components.getLast? = some name := by
    have hkept : ([name].filter fun c => c ≠ [] && c ≠ [dot]) = [name] := by
      simp [h.ne_nil, h.ne_dot]
    rw [components, pieces_join h, List.filter_append, hkept]
    split
    · rw [← List.cons_append, List.getLast?_concat]
    · rw [List.getLast?_concat]
  rw [fileName, hlast]
  simp [h.ne_dot, h.ne_dots]

end Join

/-- A name has an extension if something stands in front of the last dot. -/
theorem nameExtension_eq_some_iff {name ext : Bytes} (hext : dot ∉ ext) :
    nameExtension name = some ext ↔ ∃ stem, stem ≠ [] ∧ name = stem ++ dot :: ext := by
  constructor
  · intro h
    unfold nameExtension at h
    dsimp only at h
    split at h
    next hlength =>
      rw [Option.some.injEq, List.reverse_eq_iff] at h
      have hsplit := List.takeWhile_append_dropWhile (p := (· ≠ dot)) (l := name.reverse)
      rw [h] at hsplit hlength
      rw [List.reverse_reverse] at hlength
      have hcount := congrArg List.length hsplit
      rw [List.length_append, List.length_reverse, List.length_reverse] at hcount
      cases hdrop : name.reverse.dropWhile (· ≠ dot) with
      | nil =>
          rw [hdrop, List.length_nil] at hcount
          omega
      | cons b more =>
          obtain rfl : b = dot := by
            have hhead := List.head?_dropWhile_not (· ≠ dot) name.reverse
            rw [hdrop] at hhead
            simpa using hhead
          rw [hdrop, List.length_cons] at hcount
          refine ⟨more.reverse, fun hnil => ?_, ?_⟩
          · rw [List.reverse_eq_nil_iff] at hnil
            rw [hnil, List.length_nil] at hcount
            omega
          · rw [hdrop] at hsplit
            simpa using (congrArg List.reverse hsplit).symm
    next => cases h
  · rintro ⟨stem, hstem, rfl⟩
    have hreverse : (stem ++ dot :: ext).reverse = ext.reverse ++ dot :: stem.reverse := by simp
    have htake : (stem ++ dot :: ext).reverse.takeWhile (· ≠ dot) = ext.reverse := by
      rw [hreverse, List.takeWhile_append_of_pos fun b hb => ?_,
        List.takeWhile_cons_of_neg (by simp), List.append_nil]
      rw [List.mem_reverse] at hb
      exact decide_eq_true fun heq => hext (heq ▸ hb)
    have hpos := List.length_pos_iff.2 hstem
    unfold nameExtension
    rw [htake, List.reverse_reverse]
    dsimp only
    rw [if_pos]
    rw [List.length_append, List.length_cons]
    omega

end Path

end LookupBench
