import LookupBench.Proofs.Files.Route
import LookupBench.Proofs.Sampling.Case
import LookupBench.Proofs.Uri.Percent
import LookupBench.Proofs.Uri.Scheme

/-!
# From paths to URLs and back

The URL of a place leads back to its path. A URL is read as a whole again: blanks around it are
stripped, its segments are taken apart, some vanish or take others back, and some look like drive
letters. None of this touches what was written, since every octet that could bring it about stands
in the URL as an escape. The one exception is a drive letter right behind the root that is written
with a bar: a bar is not escaped, and reading puts a colon in its place.
-/

namespace LookupBench

open LookupBench.Path

/-- The same path, however it is written: from the root or not, and the same components. -/
def Path.Same (p q : Path) : Prop := p.isAbsolute = q.isAbsolute ∧ p.components = q.components

namespace Uri

/-! ### Octets as characters -/

/-- The character that stands for an octet in a URL. -/
def shown (b : UInt8) : Char := Char.ofNat b.toNat

/-- A character that is part of a segment wherever it stands. -/
structure IsInner (c : Char) : Prop where
  visible : 0x20 < c.toNat
  separator : isSeparator c = false
  query : c ≠ '?'
  fragment : c ≠ '#'

instance (b : UInt8) : Decidable (IsVisible b) := inferInstanceAs (Decidable (_ ∨ _))

instance (c : Char) : Decidable (IsInner c) :=
  decidable_of_iff (0x20 < c.toNat ∧ isSeparator c = false ∧ c ≠ '?' ∧ c ≠ '#')
    ⟨fun ⟨hv, hs, hq, hf⟩ => ⟨hv, hs, hq, hf⟩, fun ⟨hv, hs, hq, hf⟩ => ⟨hv, hs, hq, hf⟩⟩

theorem toNat_shown : ∀ n < 256, (shown (UInt8.ofNat n)).toNat = n := by decide +kernel

theorem shown_injective : Function.Injective shown := fun b b' h => by
  have hnat : ∀ b : UInt8, (shown b).toNat = b.toNat := fun b => by
    have hb := toNat_shown b.toNat b.toNat_lt
    rwa [UInt8.ofNat_toNat] at hb
  exact UInt8.toNat_inj.1 (by rw [← hnat b, h, hnat b'])

theorem encodeChar_shown : ∀ n < 128, Utf8.encodeChar (shown (UInt8.ofNat n)) = [UInt8.ofNat n] := by
  decide +kernel

theorem isInner_shown : ∀ n < 256, IsVisible (UInt8.ofNat n) →
    n < 128 ∧ IsInner (shown (UInt8.ofNat n)) := by
  decide +kernel

theorem IsVisible.inner {b : UInt8} (h : IsVisible b) : b.toNat < 128 ∧ IsInner (shown b) := by
  have hb := isInner_shown b.toNat b.toNat_lt
  rw [UInt8.ofNat_toNat] at hb
  exact hb h

theorem encodeChars_map_shown {bytes : Bytes} (h : ∀ b ∈ bytes, b.toNat < 128) :
    Utf8.encodeChars (bytes.map shown) = bytes := by
  induction bytes with
  | nil => rfl
  | cons b bytes ih =>
      obtain ⟨hb, hbytes⟩ := List.forall_mem_cons.1 h
      have hfirst := encodeChar_shown b.toNat hb
      rw [UInt8.ofNat_toNat] at hfirst
      rw [List.map_cons, Utf8.encodeChars, hfirst, ih hbytes]
      rfl

/-! ### Segments -/

/-- A name as it stands in a URL. -/
def segment (name : Bytes) : List Char := (percentEncode name).map shown

/-- A letter and a bar, which read as a drive letter. -/
def IsBarred (name : Bytes) : Prop := ∃ c, isAsciiLetter (shown c) = true ∧ name = [c, 124]

/-- What a text of a URL stands for. -/
def meant (text : List Char) : Bytes := percentDecode (Utf8.encodeChars text)

section Segment

variable {name : Bytes}

theorem isInner_of_mem_segment {c : Char} (h : c ∈ segment name) : IsInner c := by
  obtain ⟨b, hb, rfl⟩ := List.mem_map.1 h
  exact (isVisible_of_mem_percentEncode hb).inner.2

theorem encodeChars_segment (name : Bytes) :
    Utf8.encodeChars (segment name) = percentEncode name :=
  encodeChars_map_shown fun _ hb => (isVisible_of_mem_percentEncode hb).inner.1

theorem meant_segment (name : Bytes) : meant (segment name) = name := by
  rw [meant, encodeChars_segment, percentDecode_percentEncode]

theorem meant_of_singleDots : ∀ text ∈ singleDots, meant text = [dot] := by decide +kernel

theorem meant_of_doubleDots : ∀ text ∈ doubleDots, meant text = [dot, dot] := by decide +kernel

/-- No name is taken for dots, however it is spelled. -/
theorem segment_not_dots (h : IsName name) :
    singleDots.contains (segment name) = false ∧ doubleDots.contains (segment name) = false := by
  simp only [← Bool.not_eq_true, List.contains_iff_mem]
  refine ⟨fun hdot => h.ne_dot ?_, fun hdots => h.ne_dots ?_⟩
  · rw [← meant_of_singleDots _ hdot, meant_segment]
  · rw [← meant_of_doubleDots _ hdots, meant_segment]

theorem segment_ne_nil (h : IsName name) : segment name ≠ [] :=
  mt List.map_eq_nil_iff.1 (percentEncode_ne_nil h.ne_nil)

theorem isBarred_of_segment {c : Char} (h : segment name = [c, '|'])
    (hletter : isAsciiLetter c = true) : IsBarred name := by
  obtain ⟨b, _, hencoded, rfl, hmore⟩ := List.map_eq_cons_iff.1 h
  obtain ⟨bar, _, rfl, hbar, hnil⟩ := List.map_eq_cons_iff.1 hmore
  obtain rfl := List.map_eq_nil_iff.1 hnil
  obtain rfl : bar = 124 := shown_injective hbar
  have hplain : b ≠ percent := by
    rintro rfl
    exact absurd hletter (by decide)
  refine ⟨b, hletter, ?_⟩
  rw [← percentDecode_percentEncode name, hencoded, percentDecode_cons hplain,
    percentDecode_cons (by decide), percentDecode_nil]

/-- A name that reads as a drive letter is written with a colon, unless it has a bar. -/
theorem eq_of_isDrive_segment (hbar : ¬IsBarred name) (h : isDrive (segment name) = true) :
    (segment name).take 1 ++ [':'] = segment name := by
  generalize hsegment : segment name = text at h
  match text, h with
  | [c, d], h =>
      simp only [isDrive, Bool.and_eq_true, Bool.or_eq_true, decide_eq_true_eq] at h
      obtain ⟨hletter, rfl | rfl⟩ := h
      · rfl
      · exact absurd (isBarred_of_segment hsegment hletter) hbar

end Segment

/-! ### Paths under construction -/

theorem addAll_inner {cs : List Char} (h : ∀ c ∈ cs, IsInner c) (draft : Draft)
    (segment rest : List Char) :
    draft.addAll segment (cs ++ rest) = draft.addAll (cs.reverse ++ segment) rest := by
  induction cs generalizing segment with
  | nil => rfl
  | cons c cs ih =>
      obtain ⟨hc, hcs⟩ := List.forall_mem_cons.1 h
      have hends : ¬(c = '?' ∨ c = '#') := not_or.2 ⟨hc.query, hc.fragment⟩
      rw [List.cons_append, Draft.addAll, hc.separator, if_neg Bool.false_ne_true,
        if_neg (by simpa using hends), ih hcs, List.reverse_cons, List.append_assoc]
      rfl

/-- A segment is put behind the path as it is. -/
theorem add_segment {name : Bytes} (h : IsName name) {draft : Draft} (hhost : draft.host = false)
    (hdrive : draft.path.length = 1 → ¬IsBarred name) (slash : Bool) :
    draft.add (segment name) slash
      = ⟨draft.path ++ segment name ++ if slash then ['/'] else [], false⟩ := by
  obtain ⟨hsingle, hdouble⟩ := segment_not_dots h
  unfold Draft.add
  rw [hsingle, hdouble, if_neg Bool.false_ne_true, if_neg Bool.false_ne_true, hhost]
  split
  next hfirst =>
    simp only [Bool.and_eq_true, decide_eq_true_eq] at hfirst
    have hcolon := eq_of_isDrive_segment (hdrive hfirst.1) hfirst.2
    conv_rhs => rw [← hcolon]
    simp
  next => rfl

/-- Names one after the other, with a slash in front of each. -/
def trail (names : List Bytes) : List Char := names.flatMap fun n => '/' :: segment n

theorem addAll_names {name : Bytes} {names : List Bytes} (hname : IsName name)
    (hnames : ∀ n ∈ names, IsName n) {draft : Draft} (hhost : draft.host = false)
    (hdrive : draft.path.length = 1 → ¬IsBarred name) (hsome : draft.path ≠ []) :
    draft.addAll [] (segment name ++ trail names)
      = ⟨draft.path ++ segment name ++ trail names, false⟩ := by
  induction names generalizing name draft with
  | nil =>
      rw [trail, List.flatMap_nil, addAll_inner fun _ hc => isInner_of_mem_segment hc,
        Draft.addAll, List.append_nil, List.reverse_reverse, add_segment hname hhost hdrive]
      rfl
  | cons next names ih =>
      obtain ⟨hnext, hnames⟩ := List.forall_mem_cons.1 hnames
      have htrail : trail (next :: names) = '/' :: (segment next ++ trail names) := rfl
      rw [htrail, addAll_inner fun _ hc => isInner_of_mem_segment hc, Draft.addAll,
        if_pos (by decide), List.append_nil, List.reverse_reverse, add_segment hname hhost hdrive,
        if_pos rfl]
      have hlong := List.length_pos_iff.2 hsome
      rw [ih hnext hnames rfl (fun hone => ?_) (by simp)]
      · simp
      · simp at hone
        omega

/-- What is written for names below the root. -/
def written (names : List Bytes) : List Char := if names.isEmpty then ['/'] else trail names

theorem build_written {names : List Bytes} (h : ∀ n ∈ names, IsName n)
    (hdrive : ∀ n ∈ names.head?, ¬IsBarred n) :
    build ⟨[], false⟩ (written names) = .file (written names) false := by
  have hroot : Draft.add ⟨[], false⟩ [] true = ⟨['/'], false⟩ := rfl
  cases names with
  | nil => decide
  | cons name names =>
      obtain ⟨hname, hnames⟩ := List.forall_mem_cons.1 h
      have hwritten : written (name :: names) = '/' :: (segment name ++ trail names) := rfl
      obtain ⟨c, more, hsegment⟩ := List.exists_cons_of_ne_nil (segment_ne_nil hname)
      have hc : c ≠ '/' := fun heq => by
        have hinner := isInner_of_mem_segment (hsegment ▸ List.mem_cons_self : c ∈ segment name)
        exact absurd hinner.separator (by rw [heq]; decide)
      have hadded : Draft.addAll ⟨['/'], false⟩ [] (segment name ++ trail names)
          = ⟨['/'] ++ segment name ++ trail names, false⟩ :=
        addAll_names hname hnames rfl (fun _ => hdrive name rfl) (by simp)
      rw [build, hwritten, Draft.addAll, if_pos (by decide), List.reverse_nil, hroot, hadded]
      simp [Draft.finish, hsegment, hc]

/-! ### The URL as a whole -/

theorem isInner_or_slash_of_mem_written {names : List Bytes} {c : Char} (h : c ∈ written names) :
    c = '/' ∨ IsInner c := by
  cases names with
  | nil => exact .inl (List.mem_singleton.1 h)
  | cons name names =>
      obtain ⟨n, -, hn⟩ := List.mem_flatMap.1 h
      exact (List.mem_cons.1 hn).imp id isInner_of_mem_segment

theorem visible_of_mem_written {names : List Bytes} {c : Char} (h : c ∈ written names) :
    0x20 < c.toNat := by
  rcases isInner_or_slash_of_mem_written h with rfl | hinner
  · decide
  · exact hinner.visible

/-- Nothing is stripped from visible characters. -/
theorem counted_of_visible {text : List Char} (h : ∀ c ∈ text, 0x20 < c.toNat) :
    counted text = text := by
  have hkept : text.reverse.dropWhile isEdge = text.reverse := by
    rw [List.dropWhile_eq_self_iff]
    intro hpos
    have hlast := isEdge_eq_false (h _ (List.mem_reverse.1 (List.getElem_mem hpos)))
    rw [hlast]
    exact Bool.false_ne_true
  rw [counted, hkept, List.reverse_reverse, List.filter_eq_self]
  intro c hc
  rw [isDropped_eq_false (h c hc)]
  rfl

/-- The URL of names below the root. -/
def urlText (names : List Bytes) : String := String.ofList (fileScheme ++ written names)

theorem named_urlText (names : List Bytes) :
    Named (urlText names) fileWord ('/' :: '/' :: written names) :=
  ⟨⟨[], List.forall_mem_nil _, by rw [urlText, String.toList_ofList]; rfl⟩,
    ⟨'f', "ile".toList, by decide, by decide⟩, List.all_eq_true.1 (by decide)⟩

theorem written_eq_cons (names : List Bytes) : ∃ more, written names = '/' :: more := by
  cases names <;> exact ⟨_, rfl⟩

theorem parse?_urlText (names : List Bytes) :
    parse? (urlText names).toList = some (build ⟨[], false⟩ (written names)) := by
  have hvisible : ∀ c ∈ '/' :: '/' :: written names, 0x20 < c.toNat :=
    List.forall_mem_cons.2 ⟨by decide, List.forall_mem_cons.2
      ⟨by decide, fun _ hc => visible_of_mem_written hc⟩⟩
  have hscheme := (named_urlText names).scheme?_eq
  rw [counted_of_visible hvisible] at hscheme
  obtain ⟨more, hmore⟩ := written_eq_cons names
  unfold parse?
  rw [hscheme]
  dsimp only
  rw [if_pos (by decide), parseFile, if_pos (by decide), hmore]
  rfl

theorem resolve?_urlText (names : List Bytes) :
    resolve? (urlText names) = (build ⟨[], false⟩ (written names)).path? := by
  unfold resolve?
  rw [(named_urlText names).not_blank, if_neg Bool.false_ne_true, parse?_urlText]
  rfl

/-! ### Back to a path -/

theorem add_host {draft : Draft} (h : draft.host = false) (segment : List Char) (slash : Bool) :
    (draft.add segment slash).host = false := by
  unfold Draft.add
  dsimp only
  split
  · exact h
  · split
    · exact h
    · split
      · rfl
      · exact h

theorem addAll_host {draft : Draft} (h : draft.host = false) (segment text : List Char) :
    (draft.addAll segment text).host = false := by
  induction text generalizing draft segment with
  | nil => exact add_host h _ _
  | cons c text ih =>
      rw [Draft.addAll]
      split_ifs
      · exact ih (add_host h _ _) _
      · exact add_host h _ _
      · exact ih h _

/-- The URL of names leads somewhere, whatever they are. -/
theorem isSome_resolve?_urlText (names : List Bytes) : (resolve? (urlText names)).isSome = true := by
  have hhost : ((Draft.addAll ⟨[], false⟩ [] (written names)).finish).host = false :=
    addAll_host rfl [] (written names)
  rw [resolve?_urlText, build, hhost]
  rfl

theorem encodeChars_written (names : List Bytes) :
    Utf8.encodeChars (written names) = ofNames (names.map percentEncode) := by
  have htrail : Utf8.encodeChars (trail names) = (names.map percentEncode).flatMap (slash :: ·) := by
    induction names with
    | nil => rfl
    | cons name names ih =>
        have hcons : trail (name :: names) = '/' :: (segment name ++ trail names) := rfl
        rw [hcons, Utf8.encodeChars, Utf8.encodeChars_append, encodeChars_segment, ih]
        rfl
  cases names with
  | nil => rfl
  | cons name names => exact htrail

theorem meant_written (names : List Bytes) : meant (written names) = ofNames names := by
  have htrail : percentDecode ((names.map percentEncode).flatMap (slash :: ·))
      = names.flatMap (slash :: ·) := by
    induction names with
    | nil => rfl
    | cons name names ih =>
        rw [List.map_cons, List.flatMap_cons, List.cons_append, percentDecode_cons (by decide),
          percentDecode_percentEncode_append, ih]
        rfl
  rw [meant, encodeChars_written]
  cases names with
  | nil => decide
  | cons name names => exact htrail

/-- The path can be read off the URL. -/
theorem ofNames_eq_of_urlText_eq {names names' : List Bytes} (h : urlText names = urlText names') :
    ofNames names = ofNames names' := by
  have hwritten : written names = written names' :=
    List.append_cancel_left (String.ofList_injective h)
  rw [← meant_written names, hwritten, meant_written]

theorem closeDrive_cases (p : Path) : closeDrive p = p ∨ closeDrive p = p ++ [slash] := by
  unfold closeDrive
  split
  · split
    · exact .inr rfl
    · exact .inl rfl
  · exact .inl rfl

/-- The slash behind a drive letter adds nothing to a path. -/
theorem same_closeDrive {p : Path} (hne : p ≠ []) : Path.Same (closeDrive p) p := by
  rcases closeDrive_cases p with hself | hslash
  · exact ⟨by rw [hself], by rw [hself]⟩
  · rw [hslash]
    exact ⟨isAbsolute_append hne, components_append_slash⟩

theorem resolve?_urlText_names {names : List Bytes} (h : ∀ n ∈ names, IsName n)
    (hdrive : ∀ n ∈ names.head?, ¬IsBarred n) :
    ∃ r, resolve? (urlText names) = some r ∧ r.Same (ofNames names) := by
  refine ⟨closeDrive (meant (written names)), ?_, ?_⟩
  · rw [resolve?_urlText, build_written h hdrive]
    rfl
  · rw [meant_written]
    exact same_closeDrive (ofNames_ne_nil names)

/-! ### Places -/

section Place

variable {files : Files} {p q : Path}

theorem exists_names_of_canonical (htidy : files.root.Tidy) (h : files.canonical p = .ok q) :
    ∃ names, q = ofNames names ∧ ∀ n ∈ names, IsName n := by
  unfold Files.canonical at h
  cases hstatus : files.status p with
  | error e =>
      rw [hstatus] at h
      cases h
  | ok place =>
      obtain ⟨names, node⟩ := place
      rw [hstatus] at h
      obtain rfl := Except.ok.inj h
      exact ⟨names, rfl, (htidy.child? (Files.child?_of_status hstatus)).1⟩

theorem ofPath_of_canonical {names : List Bytes} (h : files.canonical p = .ok (ofNames names))
    (hnames : ∀ n ∈ names, IsName n) : ofPath files p = urlText names := by
  have htrail : (names.flatMap fun n => slash :: percentEncode n).map shown = trail names :=
    List.map_flatMap
  have hwritten : writePath (ofNames names) = fileScheme ++ written names := by
    rw [writePath, components_ofNames hnames]
    cases names with
    | nil => rfl
    | cons name names => exact congrArg (fileScheme ++ ·) htrail
  unfold ofPath
  rw [h]
  dsimp only
  rw [isAbsolute_ofNames, if_pos rfl, hwritten, urlText]

theorem canonical_of_read {content : Bytes} (h : files.read p = .ok content) :
    ∃ q, files.canonical p = .ok q := by
  unfold Files.read at h
  unfold Files.canonical
  cases hstatus : files.status p with
  | error e =>
      rw [hstatus] at h
      cases h
  | ok place => exact ⟨_, rfl⟩

/-- The URL of a place leads back to its path, unless the first name is a letter and a bar. Two URLs
are the same only if they are of the same place. And every location under the URL of a case is
valid, if no coordinate of it is negative. -/
theorem ofPath_leads_back (htidy : files.root.Tidy) (hp : files.canonical p = .ok q) :
    ((∀ n ∈ q.components.head?, ¬IsBarred n) →
        ∃ r, resolve? (ofPath files p) = some r ∧ r.Same q) ∧
      (∀ p' q', files.canonical p' = .ok q' → (ofPath files p = ofPath files p' ↔ q = q')) ∧
      ∀ file g case, (Case.fromFile files file g).1 = .ok case →
        ∀ range, range.start.isNonNegative = true → range.stop.isNonNegative = true →
          (Location.mk case.uri range).isValid = true := by
  obtain ⟨names, rfl, hnames⟩ := exists_names_of_canonical htidy hp
  have hurl := ofPath_of_canonical hp hnames
  refine ⟨fun hdrive => ?_, fun p' q' hp' => ?_,
    fun file g case hcase range hstart hstop => ?_⟩
  · rw [components_ofNames hnames] at hdrive
    rw [hurl]
    exact resolve?_urlText_names hnames hdrive
  · obtain ⟨names', rfl, hnames'⟩ := exists_names_of_canonical htidy hp'
    rw [hurl, ofPath_of_canonical hp' hnames']
    refine ⟨ofNames_eq_of_urlText_eq, fun heq => ?_⟩
    rw [← components_ofNames hnames, heq, components_ofNames hnames']
  · obtain ⟨content, hread, o, -, rfl⟩ := Case.exists_of_fromFile hcase
    obtain ⟨place, hplace⟩ := canonical_of_read hread
    obtain ⟨above, rfl, habove⟩ := exists_names_of_canonical htidy hplace
    have huri : (Case.ofOccurrence files file (Utf8.decodeLossy content) o).uri = urlText above :=
      ofPath_of_canonical hplace habove
    rw [Location.isValid, Location.isValidWith, huri, isSome_resolve?_urlText, hstart, hstop]
    rfl

end Place

/-- A name with about everything that a URL escapes, and an octet that is no UTF-8. -/
def awkwardName : Bytes := Path.ofString " #?\\\t%2e%2e" ++ [0xFF]

/-- A file of that name in a directory that is called like a drive. -/
def awkwardFiles : Files where
  root := .directory [(Path.ofString "c:",
    .directory [(awkwardName, .file (Path.ofString "x = 1") false)])]
  current := []

def awkwardPath : Path := ofNames [Path.ofString "c:", awkwardName]

def awkwardCase : Case where
  file := awkwardPath
  uri := "file:///c:/%20%23%3F%5C%09%252e%252e%FF"
  position := ⟨0, 0⟩
  token := "x"
  lineText := "x = 1"
  kind := .name

theorem tidy_awkwardFiles : awkwardFiles.root.Tidy := by
  have hname : IsName awkwardName := ⟨by decide, by decide, by decide, by decide⟩
  have hdrive : IsName (Path.ofString "c:") := ⟨by decide, by decide, by decide, by decide⟩
  refine .directory (by decide) (List.forall_mem_singleton.2 hdrive)
    (List.forall_mem_singleton.2 ?_)
  exact .directory (by decide) (List.forall_mem_singleton.2 hname)
    (List.forall_mem_singleton.2 (.file _ _))

theorem canonical_awkwardFiles : awkwardFiles.canonical awkwardPath = .ok awkwardPath := by
  decide +kernel

theorem fromFile_awkwardFiles :
    (Case.fromFile awkwardFiles awkwardPath (.ofSeed 3)).1 = .ok awkwardCase := by
  decide +kernel

theorem ofPath_leads_back_awkwardFiles :
    awkwardFiles.root.Tidy ∧ awkwardFiles.canonical awkwardPath = .ok awkwardPath ∧
      (∃ r, resolve? (ofPath awkwardFiles awkwardPath) = some r ∧ r.Same awkwardPath) ∧
      ofPath awkwardFiles awkwardPath ≠ ofPath awkwardFiles [slash] ∧
      (Location.mk awkwardCase.uri ⟨⟨0, 0⟩, ⟨0, 1⟩⟩).isValid = true := by
  obtain ⟨hback, hsame, hvalid⟩ := ofPath_leads_back tidy_awkwardFiles canonical_awkwardFiles
  refine ⟨tidy_awkwardFiles, canonical_awkwardFiles, hback ?_, ?_, ?_⟩
  · rintro _ hn ⟨c, -, rfl⟩
    have hcolon : ∀ n ∈ awkwardPath.components.head?, n.getLast? = some 58 := by decide
    have hbar : (124 : UInt8) = 58 := Option.some.inj (hcolon _ hn)
    exact absurd hbar (by decide)
  · have hroot : awkwardFiles.canonical [slash] = .ok [slash] := by decide +kernel
    exact fun heq => absurd ((hsame _ _ hroot).1 heq) (by decide)
  · exact hvalid _ _ _ fromFile_awkwardFiles _ (by decide) (by decide)

end Uri

end LookupBench
