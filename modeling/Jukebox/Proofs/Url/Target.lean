import Jukebox.Proofs.Url.FormReading
import Jukebox.Url.Reader

/-!
# What a request line names

A server takes the target of a request apart at the first question mark, and what is before it at the slashes.  In an
address that was read, and in what is made of it by adding segments and pairs, no part contains a character that would
be taken for a separator or end the line, so the server finds the segments and the query of the address (`Printable`).
-/

namespace Jukebox

namespace Url

/-! ### Characters -/

/-- The characters of a path segment. -/
def isSegmentChar (c : Char) : Bool := !inPath c && c ≠ '/'

/-- The characters of a query. -/
def isQueryChar (c : Char) : Bool := !inQuery c

private theorem not_isControl_of_isPlain {c : Char} (h : Form.isPlain c = true) : isControl c = false := by
  have hle : ∀ {a b : Char}, a ≤ b → a.toNat ≤ b.toNat := fun h => UInt32.le_iff_toNat_le.mp h
  have hbounds : '*'.toNat ≤ c.toNat ∧ c.toNat ≤ 'z'.toNat := by
    simp only [Form.isPlain, Bool.or_eq_true, Bool.and_eq_true, decide_eq_true_eq, List.mem_cons, List.not_mem_nil,
      or_false] at h
    rcases h with ((⟨hlow, hhigh⟩ | ⟨hlow, hhigh⟩) | ⟨hlow, hhigh⟩) | rfl | rfl | rfl | rfl
    · exact ⟨Nat.le_trans (by decide) (hle hlow), hle hhigh⟩
    · exact ⟨Nat.le_trans (by decide) (hle hlow), Nat.le_trans (hle hhigh) (by decide)⟩
    · exact ⟨Nat.le_trans (by decide) (hle hlow), Nat.le_trans (hle hhigh) (by decide)⟩
    all_goals decide
  have hstar : '*'.toNat = 0x2a := rfl
  have hz : 'z'.toNat = 0x7a := rfl
  simp only [isControl, Bool.or_eq_false_iff, decide_eq_false_iff_not]
  omega

private theorem isSegmentChar_of_isPlain {c : Char} (h : Form.isPlain c = true) : isSegmentChar c = true := by
  have hcontrol := not_isControl_of_isPlain h
  have hne : ∀ d, Form.isPlain d = false → c ≠ d := fun d => Form.ne_of_isPlain h
  simp [isSegmentChar, inPath, inFragment, hcontrol, hne ' ' rfl, hne '"' rfl, hne '<' rfl, hne '>' rfl,
    hne '\x60' rfl, hne '#' rfl, hne '?' rfl, hne '\x7b' rfl, hne '\x7d' rfl, hne '/' rfl]

private theorem isQueryChar_of_isPlain {c : Char} (h : Form.isPlain c = true) : isQueryChar c = true := by
  have hcontrol := not_isControl_of_isPlain h
  have hne : ∀ d, Form.isPlain d = false → c ≠ d := fun d => Form.ne_of_isPlain h
  simp [isQueryChar, inQuery, hcontrol, hne ' ' rfl, hne '"' rfl, hne '<' rfl, hne '>' rfl, hne '#' rfl,
    hne '\'' rfl]

private theorem mem_percentEncode {encoded : Char → Bool} {cs : List Char} {d : Char}
    (h : d ∈ percentEncode encoded cs) :
    (d ∈ cs ∧ encoded d = false) ∨ d = '%' ∨ Form.isPlain d = true := by
  obtain ⟨c, hc, hd⟩ := List.mem_flatMap.mp h
  split at hd
  · exact .inr (Form.mem_percentChar hd)
  · rename_i hplain
    obtain rfl := List.mem_singleton.mp hd
    exact .inl ⟨hc, Bool.eq_false_iff.mpr hplain⟩

/-! ### Addresses whose parts keep to their characters -/

/-- No segment of a path contains a character that would end it. -/
def Segments (path : List (List Char)) : Prop := ∀ segment ∈ path, ∀ c ∈ segment, isSegmentChar c = true

/-- Neither the path nor the query contains a character that would end a part of it. -/
structure Printable (u : Url) : Prop where
  path : Segments u.path
  query : ∀ query ∈ u.query, ∀ c ∈ query, isQueryChar c = true

private theorem Segments.append {path rest : List (List Char)} (h : Segments path) (hrest : Segments rest) :
    Segments (path ++ rest) := fun segment hsegment =>
  (List.mem_append.mp hsegment).elim (h segment) (hrest segment)

private theorem Segments.of_subset {path rest : List (List Char)} (h : Segments path) (hsub : rest ⊆ path) :
    Segments rest :=
  fun segment hsegment => h segment (hsub hsegment)

private theorem segments_singleton {segment : List Char} (h : ∀ c ∈ segment, isSegmentChar c = true) :
    Segments [segment] :=
  fun _ hsegment => List.mem_singleton.mp hsegment ▸ h

private theorem segments_empty : Segments [[]] := segments_singleton (by simp)

/-- A raw segment is brought to the characters of segments. -/
private theorem isSegmentChar_percentEncode {encoded : Char → Bool}
    (hencoded : ∀ c, encoded c = false → inPath c = false)
    {raw : List Char} (hraw : ∀ c ∈ raw, encoded c = false → c ≠ '/') :
    ∀ c ∈ percentEncode encoded raw, isSegmentChar c = true := by
  intro c hc
  rcases mem_percentEncode hc with ⟨hmem, hplain⟩ | rfl | hplain
  · simp [isSegmentChar, hencoded c hplain, hraw c hmem hplain]
  · decide
  · exact isSegmentChar_of_isPlain hplain

private theorem segments_shorten {path : List (List Char)} (h : Segments path) : Segments (shorten path) := by
  rw [shorten]
  split
  · exact h
  · exact h.of_subset (List.dropLast_subset _)

private theorem segments_readSegments {raws : List (List Char)} (hraws : ∀ raw ∈ raws, ∀ c ∈ raw, c ≠ '/')
    {path : List (List Char)} (h : Segments path) : Segments (readSegments path raws) := by
  have hencode : ∀ raw ∈ raws, Segments [percentEncode inPath raw] := fun raw hraw =>
    segments_singleton (isSegmentChar_percentEncode (fun _ hc => hc) fun c hc _ => hraws raw hraw c hc)
  induction raws generalizing path with
  | nil => exact h
  | cons raw rest ih =>
    have hsegment := hencode raw List.mem_cons_self
    have ih' := fun {path} (h : Segments path) => ih (fun r hr => hraws r (List.mem_cons_of_mem _ hr)) h
      fun r hr => hencode r (List.mem_cons_of_mem _ hr)
    cases rest with
    | nil =>
      rw [readSegments]
      split
      · exact (segments_shorten h).append segments_empty
      · split
        · exact h.append segments_empty
        · exact h.append hsegment
    | cons next rest =>
      rw [readSegments]
      · split
        · exact ih' (segments_shorten h)
        · split
          · exact ih' h
          · exact ih' (h.append hsegment)
      · simp

private theorem segments_readPath (cs : List Char) : Segments (readPath cs) := by
  refine segments_readSegments (fun raw hraw c hc => ?_) (fun _ h => nomatch h)
  have hslash := Text.not_mem_splitAt hraw c hc
  rintro rfl
  exact absurd hslash (by decide)

private theorem isQueryChar_percentEncode (cs : List Char) : ∀ c ∈ percentEncode inQuery cs, isQueryChar c = true := by
  intro c hc
  rcases mem_percentEncode hc with ⟨-, hplain⟩ | rfl | hplain
  · simp [isQueryChar, hplain]
  · decide
  · exact isQueryChar_of_isPlain hplain

/-- What is read is printable. -/
theorem printable_readAfterScheme {scheme : Scheme} {cs : List Char} {u : Url}
    (h : readAfterScheme scheme cs = .ok u) : u.Printable := by
  simp only [readAfterScheme, bind, Except.bind, pure, Except.pure] at h
  split at h
  · cases h
  · split at h
    · cases h
    · cases h
      refine ⟨segments_readPath _, fun query hquery => ?_⟩
      simp only at hquery
      split at hquery
      · cases hquery
        exact isQueryChar_percentEncode _
      · cases hquery

theorem Printable.dropEmptySegment {u : Url} (h : u.Printable) : u.dropEmptySegment.Printable := by
  rw [Url.dropEmptySegment]
  split
  · exact ⟨h.path.of_subset (List.dropLast_subset _), h.query⟩
  · exact h

theorem Printable.push {u : Url} (h : u.Printable) (segment : String) : (u.push segment).Printable := by
  have hencoded : Segments [percentEncode inPathSegment segment.toList] := by
    refine segments_singleton (isSegmentChar_percentEncode (fun c hc => ?_) fun c _ hc => ?_)
    · simp only [inPathSegment, Bool.or_eq_false_iff] at hc
      exact hc.1
    · rintro rfl
      exact absurd hc (by decide)
  refine ⟨?_, h.query⟩
  simp only [Url.push]
  split
  · exact hencoded
  · exact h.path.append hencoded

private theorem isQueryChar_encodePair (pair : String × String) : ∀ c ∈ Form.encodePair pair, isQueryChar c = true := by
  have hencode : ∀ s : String, ∀ c ∈ Form.encode s, isQueryChar c = true := by
    intro s c hc
    rcases Form.mem_encode hc with rfl | rfl | hplain
    · decide
    · decide
    · exact isQueryChar_of_isPlain hplain
  intro c hc
  rcases List.mem_append.mp hc with hc | hc
  · exact hencode _ c hc
  · rcases List.mem_cons.mp hc with rfl | hc
    · decide
    · exact hencode _ c hc

private theorem isQueryChar_appendPairs {query : List Char} (h : ∀ c ∈ query, isQueryChar c = true)
    (pairs : List (String × String)) : ∀ c ∈ Form.appendPairs query pairs, isQueryChar c = true := by
  induction pairs generalizing query with
  | nil => exact h
  | cons pair pairs ih =>
    refine ih ?_
    rw [Form.appendPair]
    split
    · exact isQueryChar_encodePair pair
    · intro c hc
      rcases List.mem_append.mp hc with hc | hc
      · exact h c hc
      · rcases List.mem_cons.mp hc with rfl | hc
        · decide
        · exact isQueryChar_encodePair pair c hc

theorem Printable.addPairs {u : Url} (h : u.Printable) (pairs : List (String × String)) :
    (u.addPairs pairs).Printable where
  path := h.path
  query := by
    rintro query ⟨⟩
    refine isQueryChar_appendPairs ?_ pairs
    cases hquery : u.query with
    | none => simp
    | some query => exact h.query query hquery

/-! ### Taking a target apart -/

/-- The segments that a server finds in a target. -/
def targetPath (target : String) : List (List Char) :=
  (Text.splitAt (· = '/') (target.toList.takeWhile (· ≠ '?'))).drop 1

/-- The query that a server finds in a target. -/
def targetQuery (target : String) : List Char := (target.toList.dropWhile (· ≠ '?')).drop 1

private theorem splitAt_pathChars {path : List (List Char)} (h : Segments path) :
    Text.splitAt (· = '/') (path.flatMap ('/' :: ·)) = [] :: path := by
  induction path with
  | nil => rfl
  | cons segment path ih =>
    have hsegment : ∀ c ∈ segment, decide (c = '/') = false := by
      intro c hc
      have hchar := h segment List.mem_cons_self c hc
      simp only [isSegmentChar, Bool.and_eq_true, decide_eq_true_eq] at hchar
      exact decide_eq_false hchar.2
    have hrest := ih (h.of_subset (List.subset_cons_self _ _))
    -- the induction gives the pieces from the next slash on
    have hsplit : Text.splitAt (· = '/') (segment ++ path.flatMap ('/' :: ·)) = segment :: path := by
      cases path with
      | nil => rw [List.flatMap_nil, List.append_nil, Text.splitAt_eq_singleton hsegment]
      | cons next path =>
        rw [List.flatMap_cons, List.cons_append] at hrest ⊢
        rw [Text.splitAt_append (by decide), Text.splitAt_eq_singleton hsegment, List.singleton_append]
        rw [Text.splitAt, if_pos (by decide)] at hrest
        rw [List.cons.inj hrest |>.2]
    rw [List.flatMap_cons, List.cons_append, Text.splitAt, if_pos (by decide), hsplit]

private theorem Printable.mem_pathChars {u : Url} (h : u.Printable) {c : Char} (hc : c ∈ u.pathChars) :
    c = '/' ∨ isSegmentChar c = true := by
  obtain ⟨segment, hsegment, hc⟩ := List.mem_flatMap.mp hc
  exact (List.mem_cons.mp hc).imp_right (h.path segment hsegment c)

/-- The path of a target ends at the first question mark. -/
private theorem Printable.split_target {u : Url} (h : u.Printable) :
    u.target.toList.takeWhile (· ≠ '?') = u.pathChars ∧ u.target.toList.dropWhile (· ≠ '?') = u.queryChars := by
  have hpath : ∀ c ∈ u.pathChars, decide (c ≠ '?') = true := by
    intro c hc
    refine decide_eq_true ?_
    rintro rfl
    rcases h.mem_pathChars hc with heq | hchar
    · exact absurd heq (by decide)
    · exact absurd hchar (by decide)
  rw [target, String.toList_ofList, List.takeWhile_append_of_pos hpath, List.dropWhile_append_of_pos hpath]
  cases hquery : u.query <;> simp [queryChars, hquery]

theorem Printable.targetPath_target {u : Url} (h : u.Printable) : targetPath u.target = u.path := by
  rw [targetPath, h.split_target.1, pathChars, splitAt_pathChars h.path, List.drop_one, List.tail_cons]

theorem Printable.targetQuery_target {u : Url} (h : u.Printable) : targetQuery u.target = u.query.getD [] := by
  rw [targetQuery, h.split_target.2]
  cases hquery : u.query <;> simp [queryChars, hquery]

/-- A target has no spaces, controls or line breaks, nothing beyond ASCII, and no fragment. -/
theorem Printable.mem_target {u : Url} (h : u.Printable) {c : Char} (hc : c ∈ u.target.toList) :
    0x20 < c.toNat ∧ c.toNat < 0x7f ∧ c ≠ '#' := by
  have hclean : isControl c = false ∧ c ≠ ' ' ∧ c ≠ '#' := by
    rw [target, String.toList_ofList] at hc
    rcases List.mem_append.mp hc with hc | hc
    · rcases h.mem_pathChars hc with rfl | hchar
      · decide
      · simp only [isSegmentChar, inPath, inFragment, Bool.and_eq_true, Bool.not_eq_true', Bool.or_eq_false_iff,
          decide_eq_false_iff_not, List.mem_cons, not_or] at hchar
        exact ⟨hchar.1.1.1, hchar.1.1.2.1, hchar.1.2.1⟩
    · cases hquery : u.query with
      | none => simp [queryChars, hquery] at hc
      | some query =>
        rw [queryChars, hquery] at hc
        rcases List.mem_cons.mp hc with rfl | hc
        · decide
        · have hchar := h.query query hquery c hc
          simp only [isQueryChar, inQuery, Bool.not_eq_true', Bool.or_eq_false_iff, decide_eq_false_iff_not,
            List.mem_cons, not_or] at hchar
          exact ⟨hchar.1, hchar.2.1, hchar.2.2.2.1⟩
  obtain ⟨hcontrol, hspace, hhash⟩ := hclean
  have hne : c.toNat ≠ 0x20 := fun heq => hspace (Char.toNat_inj.mp heq)
  simp only [isControl, Bool.or_eq_false_iff, decide_eq_false_iff_not] at hcontrol
  exact ⟨by omega, by omega, hhash⟩

end Url

end Jukebox
