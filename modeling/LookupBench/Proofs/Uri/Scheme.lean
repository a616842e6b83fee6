import LookupBench.Location
import LookupBench.Proofs.Number.Digits
import LookupBench.Proofs.Text.Utf8
import Mathlib.Data.List.TakeWhile

/-!
# Texts that name a scheme

A text may name a scheme of two letters or more, and so cannot be meant for a path. Whether it is
taken for one all the same hangs on its host alone: where a URL must have a host and the text has
none that can be read, the text is no URL, and then it is a path like any other. Otherwise a scheme
other than `file` leads nowhere, and `file` leads to a path of its own, never to the text.
-/

namespace LookupBench.Uri

/-- A text that names a scheme, behind blanks and controls that do not count. -/
structure Named (text : String) (scheme rest : List Char) : Prop where
  spelled : ∃ lead, (∀ c ∈ lead, isEdge c = true) ∧ text.toList = lead ++ (scheme ++ ':' :: rest)
  letter : ∃ c more, scheme = c :: more ∧ isAsciiLetter c = true
  chars : ∀ c ∈ scheme, isSchemeChar c = true

/-- What counts of the text behind the colon. -/
def counted (rest : List Char) : List Char :=
  (rest.reverse.dropWhile isEdge).reverse.filter (!isDropped ·)

def fileWord : List Char := "file".toList

variable {toAscii : ToAscii}

/-- What stands behind two slashes of a file URL, up to the path. -/
def fileHost (text : List Char) : List Char := text.takeWhile (!endsAuthority true ·)

/-- What stands behind the colon of a scheme in lower case has no host where a URL must have
one. -/
inductive NoHost (toAscii : ToAscii) : List Char → List Char → Prop where
  /-- Behind two slashes of a file URL something stands that is neither a drive letter nor a
  host. -/
  | file {a b : Char} {rest : List Char} (ha : isSeparator a = true) (hb : isSeparator b = true)
      (hsome : fileHost rest ≠ []) (hdrive : isDrive (fileHost rest) = false)
      (hhost : host? toAscii (fileHost rest) = none) : NoHost toAscii fileWord (a :: b :: rest)
  /-- Schemes of the web have an authority with a host behind any number of slashes. -/
  | web {scheme rest : List Char} (hscheme : scheme ∈ specialSchemes)
      (hauthority : isAuthority toAscii true (rest.dropWhile isSeparator) = false) :
      NoHost toAscii scheme rest
  /-- Other schemes have an authority if two slashes announce it. -/
  | other {scheme rest : List Char} (hfile : scheme ≠ fileWord) (hweb : scheme ∉ specialSchemes)
      (hauthority : isAuthority toAscii false rest = false) :
      NoHost toAscii scheme ('/' :: '/' :: rest)

/-! ### The scheme of a text -/

theorem isAsciiLetter_iff {c : Char} : isAsciiLetter c = true ↔
    97 ≤ c.toNat ∧ c.toNat ≤ 122 ∨ 65 ≤ c.toNat ∧ c.toNat ≤ 90 := by
  simp [isAsciiLetter, Char.le_def, UInt32.le_iff_toNat_le]

/-- Nothing that a scheme is made of is stripped or dropped. -/
theorem toNat_of_isSchemeChar {c : Char} (h : isSchemeChar c = true) : 0x20 < c.toNat := by
  simp only [isSchemeChar, Bool.or_eq_true, decide_eq_true_eq] at h
  rcases h with (((h | h) | rfl) | rfl) | rfl
  · have := isAsciiLetter_iff.1 h
    omega
  · have := isAsciiDigit_iff.1 h
    omega
  all_goals decide

theorem isEdge_eq_false {c : Char} (h : 0x20 < c.toNat) : isEdge c = false := by
  simpa [isEdge] using h

theorem isDropped_eq_false {c : Char} (h : 0x20 < c.toNat) : isDropped c = false := by
  by_contra hdropped
  simp only [isDropped, Bool.not_eq_false, Bool.or_eq_true, decide_eq_true_eq] at hdropped
  rcases hdropped with (rfl | rfl) | rfl <;> exact absurd h (by decide)

section Named

variable {text : String} {scheme rest : List Char}

theorem dropWhile_append_cons {p : Char → Bool} {c : Char} (hc : p c = false) (cs ds : List Char) :
    (cs ++ c :: ds).dropWhile p = cs.dropWhile p ++ c :: ds := by
  rw [List.dropWhile_append, List.dropWhile_cons_of_neg (by simp [hc])]
  split
  next hnil => rw [List.isEmpty_iff.1 hnil, List.nil_append]
  next => rfl

theorem Named.relevant_eq (h : Named text scheme rest) :
    relevant text.toList = scheme ++ ':' :: counted rest := by
  obtain ⟨lead, hlead, htext⟩ := h.spelled
  obtain ⟨c, more, rfl, hletter⟩ := h.letter
  have hkept : ∀ d ∈ c :: more, 0x20 < d.toNat := fun d hd => toNat_of_isSchemeChar (h.chars d hd)
  have hfront : text.toList.dropWhile isEdge = (c :: more) ++ ':' :: rest := by
    rw [htext, List.dropWhile_append_of_pos hlead, List.cons_append,
      List.dropWhile_cons_of_neg (by simp [isEdge_eq_false (hkept c List.mem_cons_self)])]
  have hback : ((c :: more) ++ ':' :: rest).reverse.dropWhile isEdge
      = rest.reverse.dropWhile isEdge ++ ':' :: (c :: more).reverse := by
    rw [List.reverse_append, List.reverse_cons, List.append_assoc]
    exact dropWhile_append_cons (by decide) _ _
  have hscheme : (c :: more).filter (!isDropped ·) = c :: more :=
    List.filter_eq_self.2 fun d hd => by rw [isDropped_eq_false (hkept d hd)]; rfl
  rw [relevant, hfront, hback, List.reverse_append, List.reverse_cons, List.reverse_reverse,
    List.append_assoc, List.filter_append, hscheme]
  rfl

theorem Named.scheme?_eq (h : Named text scheme rest) :
    scheme? (relevant text.toList) = some (scheme.map lowerAscii, counted rest) := by
  obtain ⟨c, more, hscheme, hletter⟩ := h.letter
  have hdrop : (scheme ++ ':' :: counted rest).dropWhile isSchemeChar = ':' :: counted rest := by
    rw [List.dropWhile_append_of_pos h.chars, List.dropWhile_cons_of_neg (by decide)]
  have htake : (scheme ++ ':' :: counted rest).takeWhile isSchemeChar = scheme := by
    rw [List.takeWhile_append_of_pos h.chars, List.takeWhile_cons_of_neg (by decide),
      List.append_nil]
  rw [h.relevant_eq]
  subst hscheme
  unfold scheme?
  dsimp only [List.cons_append] at hdrop htake ⊢
  rw [hletter, hdrop, htake]
  rfl

/-- Something in the text is no blank, so it is not taken for an empty one. -/
theorem Named.not_blank (h : Named text scheme rest) : text.toList.all isBlank = false := by
  obtain ⟨lead, -, htext⟩ := h.spelled
  obtain ⟨c, more, rfl, hletter⟩ := h.letter
  have hc : isBlank c = false := by
    have := isAsciiLetter_iff.1 hletter
    simp only [isBlank, Bool.or_eq_false_iff, Bool.and_eq_false_iff, decide_eq_false_iff_not]
    omega
  rw [List.all_eq_false]
  exact ⟨c, by simp [htext], by simp [hc]⟩

/-- The text does not start like an absolute path. -/
theorem Named.head?_encode (h : Named text scheme rest) :
    (Utf8.encode text).head? ≠ some Path.slash := by
  obtain ⟨c, more, htext, hlow, hne⟩ :
      ∃ c more, text.toList = c :: more ∧ c.toNat < 0x80 ∧ c.toNat ≠ 47 := by
    obtain ⟨lead, hlead, htext⟩ := h.spelled
    obtain ⟨c, more, rfl, hletter⟩ := h.letter
    cases lead with
    | nil =>
        have := isAsciiLetter_iff.1 hletter
        exact ⟨c, _, htext, by omega, by omega⟩
    | cons d lead =>
        have hd : d.toNat ≤ 0x20 := by simpa [isEdge] using hlead d List.mem_cons_self
        exact ⟨d, _, htext, by omega, by omega⟩
  have hbyte : c.toNat.toUInt8.toNat = c.toNat := Utf8.toNat_toUInt8 (by omega)
  rw [Utf8.encode, htext, Utf8.encodeChars, Utf8.encodeChar, if_pos hlow]
  intro hslash
  have hfirst := congrArg UInt8.toNat (Option.some.inj hslash)
  rw [hbyte] at hfirst
  exact hne hfirst

end Named

/-! ### Paths of file URLs -/

/-- A file URL names an absolute path, or a place on another machine. -/
theorem isAbsolute_of_path? {path : List Char} {foreign : Bool} {p : Path}
    (h : path? (.file ('/' :: path) foreign) = some p) : p.isAbsolute = true := by
  cases foreign with
  | true => cases h
  | false =>
      obtain rfl := Option.some.inj h
      obtain ⟨more, hmore⟩ : ∃ more, percentDecode (Utf8.encodeChars ('/' :: path))
          = Path.slash :: more := ⟨_, rfl⟩
      rw [hmore, closeDrive]
      split
      · split <;> rfl
      · rfl

theorem noHost_file_iff {text : List Char} : NoHost toAscii fileWord text ↔ ∃ a b rest,
    text = a :: b :: rest ∧ (isSeparator a && isSeparator b) = true ∧
      isDrive (fileHost rest) = false ∧ fileHost rest ≠ [] ∧
      host? toAscii (fileHost rest) = none := by
  constructor
  · intro h
    cases h with
    | @file a b rest ha hb hsome hdrive hhost =>
        exact ⟨a, b, rest, rfl, by rw [ha, hb]; rfl, hdrive, hsome, hhost⟩
    | web hscheme => exact absurd hscheme (by decide)
    | other hfile => exact absurd rfl hfile
  · rintro ⟨a, b, rest, rfl, hslashes, hdrive, hsome, hhost⟩
    obtain ⟨ha, hb⟩ := Bool.and_eq_true_iff.1 hslashes
    exact .file ha hb hsome hdrive hhost

/-- What comes of a scheme in lower case and what counts of the text behind its colon. -/
inductive Parsed (toAscii : ToAscii) (scheme rest : List Char) : Option Uri → Prop where
  | noHost (hhost : NoHost toAscii scheme rest) : Parsed toAscii scheme rest none
  | path (hfile : scheme = fileWord) (hhost : ¬NoHost toAscii scheme rest) (path : List Char)
      (foreign : Bool) : Parsed toAscii scheme rest (some (.file ('/' :: path) foreign))
  | other (hfile : scheme ≠ fileWord) (hhost : ¬NoHost toAscii scheme rest) :
      Parsed toAscii scheme rest (some (.other scheme))

theorem parsed_build {text : List Char} (hhost : ¬NoHost toAscii fileWord text) (draft : Draft)
    (more : List Char) : Parsed toAscii fileWord text (some (build draft more)) :=
  .path rfl hhost _ _

/-- A text behind `file:` is refused if it has no host where it must have one, and otherwise it has
an absolute path. -/
theorem parsed_parseFile (toAscii : ToAscii) (text : List Char) :
    Parsed toAscii fileWord text (parseFile toAscii text) := by
  unfold parseFile
  split
  next a b rest =>
    split
    next hslashes =>
      dsimp only
      generalize hhost : (rest.takeWhile fun c => !endsAuthority true c) = host
      have hfound (hok : isDrive host = true ∨ host = [] ∨ host? toAscii host ≠ none) :
          ¬NoHost toAscii fileWord (a :: b :: rest) := by
        intro hnone
        obtain ⟨_, _, _, ⟨⟩, -, hdrive, hsome, hnone⟩ := noHost_file_iff.1 hnone
        rw [fileHost, hhost] at hdrive hsome hnone
        rcases hok with hok | hok | hok
        · exact absurd (hok.symm.trans hdrive) (by decide)
        · exact hsome hok
        · exact hok hnone
      split
      next hdrive => exact parsed_build (hfound (.inl hdrive)) _ _
      next hdrive =>
        split
        next hempty => exact parsed_build (hfound (.inr (.inl (List.isEmpty_iff.1 hempty)))) _ _
        next hempty =>
          split
          next hnone =>
            refine .noHost (noHost_file_iff.2 ⟨a, b, rest, rfl, hslashes, ?_⟩)
            rw [fileHost, hhost]
            exact ⟨by simpa using hdrive, by simpa using hempty, hnone⟩
          next name hname =>
            have hnot := hfound (.inr (.inr (by rw [hname]; exact nofun)))
            split
            · exact parsed_build hnot _ _
            · split
              · split
                · exact parsed_build hnot _ _
                · exact parsed_build hnot _ _
              · exact parsed_build hnot _ _
    next hslashes =>
      have hnot : ¬NoHost toAscii fileWord (a :: b :: rest) := fun hnone => by
        obtain ⟨_, _, _, ⟨⟩, hboth, -⟩ := noHost_file_iff.1 hnone
        exact hslashes hboth
      split
      · exact parsed_build hnot _ _
      · exact parsed_build hnot _ _
  next a =>
    have hnot : ¬NoHost toAscii fileWord [a] := fun hnone => by
      obtain ⟨_, _, _, ⟨⟩, -⟩ := noHost_file_iff.1 hnone
    split
    · exact parsed_build hnot _ _
    · exact parsed_build hnot _ _
  next =>
    have hnot : ¬NoHost toAscii fileWord [] := fun hnone => by
      obtain ⟨_, _, _, ⟨⟩, -⟩ := noHost_file_iff.1 hnone
    exact parsed_build hnot _ _

/-! ### What a text leads to -/

section Resolve

variable {text : String} {scheme rest : List Char}

theorem Named.parsed (h : Named text scheme rest) (toAscii : ToAscii) :
    Parsed toAscii (scheme.map lowerAscii) (counted rest) (parse? text.toList toAscii) := by
  unfold parse?
  rw [h.scheme?_eq]
  dsimp only
  generalize scheme.map lowerAscii = name
  generalize counted rest = behind
  split
  next hfile =>
    rw [hfile]
    exact parsed_parseFile toAscii behind
  next hfile =>
    split
    next hweb =>
      have hmem : name ∈ specialSchemes := List.contains_iff_mem.1 hweb
      split
      next hauthority =>
        refine .other hfile fun hnone => ?_
        cases hnone with
        | file => exact hfile rfl
        | web _ hnone => simp [hauthority] at hnone
        | other _ hnot => exact hnot hmem
      next hauthority => exact .noHost (.web hmem (by simpa using hauthority))
    next hweb =>
      have hnot : name ∉ specialSchemes := fun hmem => hweb (List.contains_iff_mem.2 hmem)
      split
      next more =>
        split
        next hauthority =>
          refine .other hfile fun hnone => ?_
          cases hnone with
          | file => exact hfile rfl
          | web hmem => exact hnot hmem
          | other _ _ hnone => simp [hauthority] at hnone
        next hauthority => exact .noHost (.other hfile hnot (by simpa using hauthority))
      next hslashes =>
        refine .other hfile fun hnone => ?_
        cases hnone with
        | file => exact hfile rfl
        | web hmem => exact hnot hmem
        | other => exact hslashes _ rfl

/-- What a text leads to that names a scheme of two letters or more. -/
theorem Named.resolve?_cases (h : Named text scheme rest) (hlong : 2 ≤ scheme.length)
    (toAscii : ToAscii) :
    (NoHost toAscii (scheme.map lowerAscii) (counted rest) ∧
        resolve? text toAscii = some (Utf8.encode text)) ∨
      ¬NoHost toAscii (scheme.map lowerAscii) (counted rest) ∧
        ∀ p, resolve? text toAscii = some p →
          scheme.map lowerAscii = fileWord ∧ p.isAbsolute = true := by
  have hparsed := h.parsed toAscii
  have hlong' : 2 ≤ (scheme.map lowerAscii).length := by rwa [List.length_map]
  unfold resolve?
  rw [h.not_blank, if_neg Bool.false_ne_true]
  generalize scheme.map lowerAscii = name at hparsed hlong' ⊢
  generalize parse? text.toList toAscii = parsed at hparsed
  cases hparsed with
  | noHost hhost => exact .inl ⟨hhost, rfl⟩
  | path hfile hhost path foreign =>
      exact .inr ⟨hhost, fun p hp => ⟨hfile, isAbsolute_of_path? hp⟩⟩
  | other hfile hhost =>
      refine .inr ⟨hhost, fun p hp => ?_⟩
      split at hp
      next heq =>
        cases heq
        exact absurd hlong' (Nat.not_succ_le_self 1)
      next heq =>
        cases heq
        cases hp
      next heq => cases heq

/-- Whatever names of hosts come to in ASCII: a text that names a scheme of two letters or more is
taken for a path if and only if it has no host where it must have one. All other texts of the kind lead
nowhere, and no location with one is valid, except that `file` leads to absolute paths, none of which
is the text. -/
theorem resolve?_named (toAscii : ToAscii) (h : Named text scheme rest)
    (hlong : 2 ≤ scheme.length) :
    (resolve? text toAscii = some (Utf8.encode text) ↔
        NoHost toAscii (scheme.map lowerAscii) (counted rest)) ∧
      (¬NoHost toAscii (scheme.map lowerAscii) (counted rest) →
        scheme.map lowerAscii ≠ fileWord → resolve? text toAscii = none ∧
          ∀ range, (Location.mk text range).isValidWith toAscii = false) ∧
      (¬NoHost toAscii (scheme.map lowerAscii) (counted rest) →
        ∀ p, resolve? text toAscii = some p → p.isAbsolute = true ∧ p ≠ Utf8.encode text) := by
  have hrelative : ∀ p : Path, p.isAbsolute = true → p ≠ Utf8.encode text := by
    rintro p hp rfl
    exact h.head?_encode (of_decide_eq_true hp)
  rcases h.resolve?_cases hlong toAscii with ⟨hhost, hself⟩ | ⟨hhost, hfile⟩
  · exact ⟨iff_of_true hself hhost, fun hnot => absurd hhost hnot, fun hnot => absurd hhost hnot⟩
  · refine ⟨iff_of_false (fun hself => ?_) hhost, fun _ hother => ?_, fun _ p hp => ?_⟩
    · exact hrelative _ (hfile _ hself).2 rfl
    · have hnone : resolve? text toAscii = none := by
        rw [Option.eq_none_iff_forall_ne_some]
        exact fun p hp => hother (hfile p hp).1
      exact ⟨hnone, fun range => by rw [Location.isValidWith, hnone]; rfl⟩
    · exact ⟨(hfile p hp).2, hrelative p (hfile p hp).2⟩

end Resolve

/-- A bracket that nothing closes. -/
def openBracket : String := "http://[::1"

theorem named_openBracket : Named openBracket "http".toList "//[::1".toList :=
  ⟨⟨[], nofun, by decide⟩, ⟨'h', "ttp".toList, by decide, by decide⟩,
    List.all_eq_true.1 (by decide)⟩

/-- Not all that names a scheme leads nowhere: what is no URL is a path, be it of the web or of
`file`, and a location there is valid. -/
theorem openBracket_resolves :
    Named openBracket "http".toList "//[::1".toList ∧ resolve? openBracket ≠ none ∧
      (Location.mk openBracket ⟨⟨0, 0⟩, ⟨0, 0⟩⟩).isValid = true ∧
      resolve? "file://[bad/a" = some (Utf8.encode "file://[bad/a") :=
  ⟨named_openBracket, by decide +kernel, by decide +kernel, by decide +kernel⟩

theorem resolve?_named_openBracket :
    Named openBracket "http".toList "//[::1".toList ∧ 2 ≤ "http".toList.length ∧
      resolve? openBracket = some (Utf8.encode openBracket) :=
  ⟨named_openBracket, by decide, (resolve?_named foldName? named_openBracket (by decide)).1.2
    (.web (by decide) (by decide +kernel))⟩

end LookupBench.Uri
