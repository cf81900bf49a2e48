import Jukebox.Proofs.Json.Tokens

/-!
# Reading back what was written

The compact and the pretty form differ in their blanks only, so both are one writer with a layout, and one induction
over values shows that the reader finds in either the value that was written (`read_compact`, `read_pretty`).  Doubles
are left out: what their written form is read as depends on rounding.
-/

namespace Jukebox.Json

/-! ### Values that can be read back -/

mutual

/-- Whether a value is made of null, truth values, texts and integers of 64 bits. -/
def isExact : Json → Bool
  | integer i => -2 ^ 63 ≤ i && i < 2 ^ 64
  | array items => itemsExact items
  | object members => membersExact members
  | fraction _ | unreadable => false
  | null | bool _ | text _ => true

def itemsExact : List Json → Bool
  | [] => true
  | item :: rest => item.isExact && itemsExact rest

def membersExact : List (String × Json) → Bool
  | [] => true
  | (_, value) :: rest => value.isExact && membersExact rest

end

/-! ### Layouts -/

/-- Where a writer puts blanks: before what stands on a line of its own, and after a colon. -/
structure Layout where
  line : Nat → List Char
  gap : List Char
  line_blank : ∀ level, ∀ c ∈ line level, isBlank c = true
  gap_blank : ∀ c ∈ gap, isBlank c = true

namespace Layout

/-- No blanks at all. -/
def dense : Layout := ⟨fun _ => [], [], by simp, by simp⟩

@[simp] theorem dense_line (level : Nat) : dense.line level = [] := rfl

@[simp] theorem dense_gap : dense.gap = [] := rfl

/-- Each item and member on a line of its own. -/
def airy : Layout where
  line := newLine
  gap := [' ']
  line_blank := by
    intro level c hc
    rcases List.mem_cons.mp hc with rfl | hc
    · rfl
    · rw [List.eq_of_mem_replicate hc]
      rfl
  gap_blank := by simp [isBlank]

@[simp] theorem airy_line : airy.line = newLine := rfl

@[simp] theorem airy_gap : airy.gap = [' '] := rfl

mutual

/-- The written form of a value inside `level` other values. -/
def chars (l : Layout) (level : Nat) : Json → List Char
  | array [] => ['[', ']']
  | array (item :: rest) =>
    '[' :: (l.line (level + 1) ++ l.chars (level + 1) item ++ l.items (level + 1) rest ++ l.line level ++ [']'])
  | object [] => ['\x7b', '\x7d']
  | object ((name, value) :: rest) =>
    '\x7b' :: (l.line (level + 1) ++ quote name ++ ':' :: (l.gap ++ l.chars (level + 1) value
      ++ l.members (level + 1) rest ++ l.line level ++ ['\x7d']))
  | v => atomChars v

/-- Further items, each after a comma. -/
def items (l : Layout) (level : Nat) : List Json → List Char
  | [] => []
  | item :: rest => ',' :: (l.line level ++ l.chars level item ++ l.items level rest)

/-- Further members, each after a comma. -/
def members (l : Layout) (level : Nat) : List (String × Json) → List Char
  | [] => []
  | (name, value) :: rest =>
    ',' :: (l.line level ++ quote name ++ ':' :: (l.gap ++ l.chars level value ++ l.members level rest))

end

mutual

private theorem chars_dense (level : Nat) : ∀ v, dense.chars level v = compactChars v
  | array [] => rfl
  | array (item :: rest) => by
    simp [chars, compactChars, chars_dense (level + 1) item, items_dense (level + 1) rest]
  | object [] => rfl
  | object ((name, value) :: rest) => by
    simp [chars, compactChars, chars_dense (level + 1) value, members_dense (level + 1) rest]
  | null | bool _ | integer _ | fraction _ | text _ | unreadable => rfl

theorem items_dense (level : Nat) : ∀ vs, dense.items level vs = compactItems vs
  | [] => rfl
  | item :: rest => by simp [items, compactItems, chars_dense level item, items_dense level rest]

theorem members_dense (level : Nat) : ∀ ms, dense.members level ms = compactMembers ms
  | [] => rfl
  | (name, value) :: rest => by
    simp [members, compactMembers, chars_dense level value, members_dense level rest]

end

mutual

private theorem chars_airy (level : Nat) : ∀ v, airy.chars level v = prettyChars level v
  | array [] => rfl
  | array (item :: rest) => by
    simp [chars, prettyChars, chars_airy (level + 1) item, items_airy (level + 1) rest]
  | object [] => rfl
  | object ((name, value) :: rest) => by
    simp [chars, prettyChars, chars_airy (level + 1) value, members_airy (level + 1) rest]
  | null | bool _ | integer _ | fraction _ | text _ | unreadable => rfl

theorem items_airy (level : Nat) : ∀ vs, airy.items level vs = prettyItems level vs
  | [] => rfl
  | item :: rest => by simp [items, prettyItems, chars_airy level item, items_airy level rest]

theorem members_airy (level : Nat) : ∀ ms, airy.members level ms = prettyMembers level ms
  | [] => rfl
  | (name, value) :: rest => by
    simp [members, prettyMembers, chars_airy level value, members_airy level rest]

end

end Layout

/-! ### Blanks -/

private theorem skipBlanks_append {blank : List Char} (h : ∀ c ∈ blank, isBlank c = true) (cs : List Char) :
    skipBlanks (blank ++ cs) = skipBlanks cs := List.dropWhile_append_of_pos h

private theorem skipBlanks_cons {c : Char} (h : isBlank c = false) (cs : List Char) :
    skipBlanks (c :: cs) = c :: cs := by
  rw [skipBlanks, List.dropWhile_cons_of_neg (by simp [h])]

private theorem value_append {blank : List Char} (h : ∀ c ∈ blank, isBlank c = true) (fuel : Nat) (cs : List Char) :
    value fuel (blank ++ cs) = value fuel cs := by
  cases fuel with
  | zero => rfl
  | succ fuel => rw [value, value, skipBlanks_append h]

/-- A number stops at blanks, and at the commas and closing brackets after them. -/
private theorem stops_append {blank : List Char} (h : ∀ c ∈ blank, isBlank c = true) {cs : List Char} (hcs : Stops cs) :
    Stops (blank ++ cs) := by
  cases blank with
  | nil => exact hcs
  | cons c blank =>
    intro c' hc'
    cases hc'
    have hblank := h c List.mem_cons_self
    simp only [isBlank, Bool.or_eq_true, decide_eq_true_eq] at hblank
    rcases hblank with ((rfl | rfl) | rfl) | rfl <;> rfl

/-! ### Values inside a layout -/

/-- Reading finds a value again where a layout wrote it, up to where a number stops. -/
def ReadsBack (l : Layout) (v : Json) : Prop :=
  ∀ level fuel rest, (l.chars level v).length < fuel → Stops rest →
    value fuel (l.chars level v ++ rest) = some (v, rest)

/-- What is written is longer than nothing, so the reader has a step to make. -/
private theorem readsBack_of_succ {l : Layout} {v : Json} (h : ∀ level fuel rest, (l.chars level v).length ≤ fuel →
    Stops rest → value (fuel + 1) (l.chars level v ++ rest) = some (v, rest)) : ReadsBack l v := by
  intro level fuel rest hfuel hstops
  obtain ⟨fuel, rfl⟩ := Nat.exists_eq_add_one.mpr (Nat.zero_lt_of_lt hfuel)
  exact h level fuel rest (Nat.le_of_lt_succ hfuel) hstops

/-- Reading a value looks past the blanks in front of it. -/
private theorem ReadsBack.value_append {l : Layout} {v : Json} (hv : ReadsBack l v) {blank : List Char}
    (h : ∀ c ∈ blank, isBlank c = true) {level fuel : Nat} (hfuel : (l.chars level v).length < fuel)
    {rest : List Char} (hrest : Stops rest) :
    value fuel (blank ++ (l.chars level v ++ rest)) = some (v, rest) := by
  rw [Json.value_append h, hv level fuel rest hfuel hrest]

private theorem exists_integerChars_cons (i : Int) :
    ∃ c cs, integerChars i = c :: cs ∧ (c = '-' ∨ c.isDigit = true) := by
  by_cases hneg : i < 0
  · exact ⟨'-', _, if_pos hneg, .inl rfl⟩
  · obtain ⟨c, cs, hcons⟩ := List.exists_cons_of_ne_nil (Nat.toDigits_ne_nil (n := i.natAbs) (b := 10))
    have hdigit : c.isDigit = true :=
      Nat.isDigit_of_mem_toDigits (by decide) (by decide) (hcons ▸ List.mem_cons_self)
    exact ⟨c, cs, by rw [integerChars, if_neg hneg, hcons], .inr hdigit⟩

private theorem isBlank_of_number {c : Char} (h : c = '-' ∨ c.isDigit = true) : isBlank c = false := by
  cases hblank : isBlank c with
  | false => rfl
  | true =>
    simp only [isBlank, Bool.or_eq_true, decide_eq_true_eq] at hblank
    rcases hblank with ((rfl | rfl) | rfl) | rfl <;> exact absurd h (by decide)

/-- What starts a written number starts no other value. -/
private theorem value_of_number {c : Char} (h : c = '-' ∨ c.isDigit = true) (fuel : Nat) (cs : List Char) :
    value (fuel + 1) (c :: cs) = (number (c :: cs)).map fun (n, rest) => (n.toJson, rest) := by
  rw [value, skipBlanks_cons (isBlank_of_number h)]
  split
  case h_7 => rfl
  all_goals
    rename_i heq
    cases heq
    exact absurd h (by decide)

private theorem readsBack_integer (l : Layout) {i : Int} (hlow : -2 ^ 63 ≤ i) (hhigh : i < 2 ^ 64) :
    ReadsBack l (integer i) := by
  refine readsBack_of_succ fun level fuel rest _ hstops => ?_
  obtain ⟨c, cs, hwritten, hc⟩ := exists_integerChars_cons i
  show value (fuel + 1) (integerChars i ++ rest) = some (integer i, rest)
  rw [hwritten, List.cons_append, value_of_number hc, ← List.cons_append, ← hwritten,
    number_integerChars i hstops, Option.map_some]
  exact congrArg (fun v => some (v, rest)) (toJson_decimalDigits hlow hhigh)

private theorem readsBack_text (l : Layout) (s : String) : ReadsBack l (text s) := by
  refine readsBack_of_succ fun level fuel rest _ _ => ?_
  obtain ⟨tail, hquote, hstring⟩ := string_quote s rest
  show value (fuel + 1) (quote s ++ rest) = some (text s, rest)
  rw [hquote, value, skipBlanks_cons rfl]
  simp [hstring]

private theorem readsBack_null (l : Layout) : ReadsBack l null := readsBack_of_succ fun _ _ _ _ _ => rfl

private theorem readsBack_bool (l : Layout) (b : Bool) : ReadsBack l (bool b) := by
  refine readsBack_of_succ fun level fuel rest _ _ => ?_
  cases b <;> rfl

/-- A written value starts with neither a blank nor a closing bracket. -/
private theorem exists_chars_cons (l : Layout) (level : Nat) {v : Json} (h : v.isExact = true) :
    ∃ c cs, l.chars level v = c :: cs ∧ isBlank c = false ∧ c ≠ ']' := by
  match v, h with
  | null, _ => exact ⟨_, _, rfl, rfl, by decide⟩
  | bool true, _ => exact ⟨_, _, rfl, rfl, by decide⟩
  | bool false, _ => exact ⟨_, _, rfl, rfl, by decide⟩
  | integer i, _ =>
    obtain ⟨c, cs, hwritten, hc⟩ := exists_integerChars_cons i
    refine ⟨c, cs, hwritten, isBlank_of_number hc, ?_⟩
    rintro rfl
    exact absurd hc (by decide)
  | text s, _ => exact ⟨_, _, rfl, rfl, by decide⟩
  | array [], _ => exact ⟨_, _, rfl, rfl, by decide⟩
  | array (item :: rest), _ => exact ⟨_, _, by rw [Layout.chars], rfl, by decide⟩
  | object [], _ => exact ⟨_, _, rfl, rfl, by decide⟩
  | object ((name, value) :: rest), _ => exact ⟨_, _, by rw [Layout.chars], rfl, by decide⟩

/-! ### Arrays and objects -/

/-- A number stops at what follows an item. -/
private theorem stops_items (l : Layout) (level : Nat) (rest : List Json) {cs : List Char} (h : Stops cs) :
    Stops (l.items level rest ++ cs) := by
  cases rest with
  | nil => exact h
  | cons item rest =>
    rw [Layout.items]
    rintro c ⟨⟩
    rfl

/-- A number stops at what follows a member. -/
private theorem stops_members (l : Layout) (level : Nat) (rest : List (String × Json)) {cs : List Char} (h : Stops cs) :
    Stops (l.members level rest ++ cs) := by
  cases rest with
  | nil => exact h
  | cons m rest =>
    rw [Layout.members]
    rintro c ⟨⟩
    rfl

private theorem items_close {fuel : Nat} {cs rest after : List Char} {v : Json} (hv : value fuel cs = some (v, rest))
    (hclose : skipBlanks rest = ']' :: after) : items (fuel + 1) cs = some ([v], after) := by
  simp [items, hv, hclose]

private theorem items_comma {fuel : Nat} {cs rest after : List Char} {v : Json} (hv : value fuel cs = some (v, rest))
    (hcomma : skipBlanks rest = ',' :: after) :
    items (fuel + 1) cs = (items fuel after).map fun (vs, rest) => (v :: vs, rest) := by
  simp [items, hv, hcomma]

/-- Items are read back up to the closing bracket, each with a count that bounds what is written after it. -/
private theorem items_chars (l : Layout) (level : Nat) {blank : List Char} (hblank : ∀ c ∈ blank, isBlank c = true)
    (after : List Char) (rest : List Json) : ∀ (item : Json), (∀ v ∈ item :: rest, ReadsBack l v) →
    ∀ fuel, (l.chars level item).length + (l.items level rest).length + 1 < fuel →
    ∀ front : List Char, (∀ c ∈ front, isBlank c = true) →
      items fuel (front ++ (l.chars level item ++ (l.items level rest ++ (blank ++ ']' :: after)))) =
        some (item :: rest, after) := by
  have hstops : Stops (blank ++ ']' :: after) := stops_append hblank (by rintro c ⟨⟩; rfl)
  -- by induction on the items that follow: an item costs one step, and its comma alone is as long
  induction rest with
  | nil =>
    intro item h fuel hfuel front hfront
    obtain ⟨fuel, rfl⟩ := Nat.exists_eq_add_one.mpr (Nat.zero_lt_of_lt hfuel)
    have hlength : (l.chars level item).length < fuel := by omega
    have hitem := (h item List.mem_cons_self).value_append hfront hlength (stops_items l level [] hstops)
    refine items_close hitem ?_
    rw [Layout.items, List.nil_append, skipBlanks_append hblank, skipBlanks_cons rfl]
  | cons next rest ih =>
    intro item h fuel hfuel front hfront
    obtain ⟨fuel, rfl⟩ := Nat.exists_eq_add_one.mpr (Nat.zero_lt_of_lt hfuel)
    have hlength : (l.chars level item).length < fuel := by omega
    have hitem := (h item List.mem_cons_self).value_append hfront hlength (stops_items l level (next :: rest) hstops)
    rw [Layout.items] at hitem hfuel ⊢
    simp only [List.length_cons, List.length_append] at hfuel
    simp only [List.cons_append, List.append_assoc] at hitem ⊢
    rw [items_comma hitem (skipBlanks_cons rfl _), ih next (fun v hv => h v (List.mem_cons_of_mem _ hv)) fuel
      (by omega) (l.line level) (l.line_blank level), Option.map_some]

private theorem value_bracket {cs rest : List Char} {c : Char} (hcs : skipBlanks cs = c :: rest) (hc : c ≠ ']') (fuel :
    Nat) :
    value (fuel + 1) ('[' :: cs) = (items fuel (c :: rest)).map fun (vs, rest) => (array vs, rest) := by
  rw [value, skipBlanks_cons rfl]
  simp only [hcs]
  split
  · rename_i heq
    cases heq
    exact absurd rfl hc
  · rfl

private theorem readsBack_array (l : Layout) {vs : List Json} (hexact : itemsExact vs = true)
    (h : ∀ v ∈ vs, ReadsBack l v) : ReadsBack l (array vs) := by
  refine readsBack_of_succ fun level fuel rest hfuel _ => ?_
  cases vs with
  | nil => rfl
  | cons item vs =>
    have hitem : item.isExact = true := by
      simp only [itemsExact, Bool.and_eq_true] at hexact
      exact hexact.1
    obtain ⟨c, cs, hwritten, hc, hclose⟩ := exists_chars_cons l (level + 1) hitem
    rw [Layout.chars] at hfuel ⊢
    simp only [List.length_cons, List.length_append, List.length_nil] at hfuel
    have hitems := items_chars l (level + 1) (l.line_blank level) rest vs item h fuel (by omega) [] (by simp)
    rw [List.nil_append] at hitems
    simp only [List.cons_append, List.append_assoc, List.nil_append]
    rw [hwritten, List.cons_append] at hitems ⊢
    rw [value_bracket ((skipBlanks_append (l.line_blank _) _).trans (skipBlanks_cons hc _)) hclose, hitems,
      Option.map_some]

private theorem members_append {blank : List Char} (h : ∀ c ∈ blank, isBlank c = true) (fuel : Nat) (cs : List Char) :
    members fuel (blank ++ cs) = members fuel cs := by
  cases fuel with
  | zero => rfl
  | succ fuel => rw [members, members, skipBlanks_append h]

private theorem members_close {fuel : Nat} {cs rest after : List Char} {v : Json} (hv : value fuel cs = some (v, rest))
    (hclose : skipBlanks rest = '\x7d' :: after) (name : String) :
    members (fuel + 1) (quote name ++ ':' :: cs) = some ([(some name, v)], after) := by
  obtain ⟨tail, hquote, hstring⟩ := string_quote name (':' :: cs)
  have hcolon : skipBlanks (':' :: cs) = ':' :: cs := skipBlanks_cons rfl cs
  rw [hquote, members, skipBlanks_cons rfl]
  simp [hstring, hcolon, hv, hclose]

private theorem members_comma {fuel : Nat} {cs rest after : List Char} {v : Json} (hv : value fuel cs = some (v, rest))
    (hcomma : skipBlanks rest = ',' :: after) (name : String) :
    members (fuel + 1) (quote name ++ ':' :: cs) =
      (members fuel after).map fun (ms, rest) => ((some name, v) :: ms, rest) := by
  obtain ⟨tail, hquote, hstring⟩ := string_quote name (':' :: cs)
  have hcolon : skipBlanks (':' :: cs) = ':' :: cs := skipBlanks_cons rfl cs
  rw [hquote, members, skipBlanks_cons rfl]
  simp [hstring, hcolon, hv, hcomma]

/-- Members are read back up to the closing brace, each with a count that bounds what is written after it. -/
private theorem members_chars (l : Layout) (level : Nat) {blank : List Char} (hblank : ∀ c ∈ blank, isBlank c = true)
    (after : List Char) (rest : List (String × Json)) :
    ∀ (name : String) (v : Json), (∀ m ∈ (name, v) :: rest, ReadsBack l m.2) →
    ∀ fuel, (l.chars level v).length + (l.members level rest).length + 1 < fuel →
      members fuel (quote name ++ ':' :: (l.gap ++ (l.chars level v ++
        (l.members level rest ++ (blank ++ '\x7d' :: after))))) =
          some (((name, v) :: rest).map fun m => (some m.1, m.2), after) := by
  have hstops : Stops (blank ++ '\x7d' :: after) := stops_append hblank (by rintro c ⟨⟩; rfl)
  induction rest with
  | nil =>
    intro name v h fuel hfuel
    obtain ⟨fuel, rfl⟩ := Nat.exists_eq_add_one.mpr (Nat.zero_lt_of_lt hfuel)
    have hread : ReadsBack l v := h (name, v) List.mem_cons_self
    have hlength : (l.chars level v).length < fuel := by omega
    have hv := hread.value_append l.gap_blank hlength (stops_members l level [] hstops)
    refine members_close hv ?_ name
    rw [Layout.members, List.nil_append, skipBlanks_append hblank, skipBlanks_cons rfl]
  | cons next rest ih =>
    intro name v h fuel hfuel
    obtain ⟨fuel, rfl⟩ := Nat.exists_eq_add_one.mpr (Nat.zero_lt_of_lt hfuel)
    have hread : ReadsBack l v := h (name, v) List.mem_cons_self
    have hlength : (l.chars level v).length < fuel := by omega
    have hv := hread.value_append l.gap_blank hlength (stops_members l level (next :: rest) hstops)
    rw [Layout.members] at hv hfuel ⊢
    simp only [List.length_cons, List.length_append] at hfuel
    simp only [List.cons_append, List.append_assoc] at hv ⊢
    rw [members_comma hv (skipBlanks_cons rfl _), members_append (l.line_blank level),
      ih next.1 next.2 (fun m hm => h m (List.mem_cons_of_mem _ hm)) fuel (by omega), Option.map_some]
    rfl

private theorem ofMembers_map_some (ms : List (String × Json)) :
    ofMembers (ms.map fun m => (some m.1, m.2)) = object ms := by
  have hread : (ms.map fun m => (some m.1, m.2)).mapM (fun m => m.1.map (·, m.2)) = some ms := by
    induction ms with
    | nil => rfl
    | cons m ms ih => simp [ih]
  unfold ofMembers
  split
  · rename_i members heq
    rw [Option.some.inj (heq.symm.trans hread)]
  · rename_i heq
    cases heq.symm.trans hread

private theorem value_brace {cs rest : List Char} {c : Char} (hcs : skipBlanks cs = c :: rest) (hc : c ≠ '\x7d')
    (fuel : Nat) :
    value (fuel + 1) ('\x7b' :: cs) = (members fuel (c :: rest)).map fun (ms, rest) => (ofMembers ms, rest) := by
  rw [value, skipBlanks_cons rfl]
  simp only [hcs]
  split
  · rename_i heq
    cases heq
    exact absurd rfl hc
  · rfl

private theorem readsBack_object (l : Layout) {ms : List (String × Json)} (h : ∀ m ∈ ms, ReadsBack l m.2) :
    ReadsBack l (object ms) := by
  refine readsBack_of_succ fun level fuel rest hfuel _ => ?_
  rcases ms with _ | ⟨⟨name, v⟩, ms⟩
  · rfl
  · rw [Layout.chars] at hfuel ⊢
    simp only [List.length_cons, List.length_append, List.length_nil] at hfuel
    have hmembers := members_chars l (level + 1) (l.line_blank level) rest ms name v h fuel (by omega)
    obtain ⟨tail, hquote, -⟩ := string_quote name (':' :: (l.gap ++ (l.chars (level + 1) v ++
      (l.members (level + 1) ms ++ (l.line level ++ '\x7d' :: rest)))))
    simp only [List.cons_append, List.append_assoc, List.nil_append]
    rw [hquote] at hmembers ⊢
    rw [value_brace ((skipBlanks_append (l.line_blank _) _).trans (skipBlanks_cons rfl _)) (by decide), hmembers,
      Option.map_some]
    exact congrArg (fun v => some (v, rest)) (ofMembers_map_some _)

mutual

private theorem readsBack (l : Layout) : ∀ v : Json, v.isExact = true → ReadsBack l v
  | null, _ => readsBack_null l
  | bool b, _ => readsBack_bool l b
  | integer i, h => by
    simp only [isExact, Bool.and_eq_true, decide_eq_true_eq] at h
    exact readsBack_integer l h.1 h.2
  | fraction _, h => by cases h
  | text s, _ => readsBack_text l s
  | array vs, h => readsBack_array l h (readsBack_items l vs h)
  | object ms, h => readsBack_object l (readsBack_members l ms h)
  | unreadable, h => by cases h

theorem readsBack_items (l : Layout) : ∀ vs, itemsExact vs = true → ∀ v ∈ vs, ReadsBack l v
  | [], _, _, hv => nomatch hv
  | item :: rest, h, v, hv => by
    simp only [itemsExact, Bool.and_eq_true] at h
    rcases List.mem_cons.mp hv with hv | hv
    · rw [hv]
      exact readsBack l item h.1
    · exact readsBack_items l rest h.2 v hv

theorem readsBack_members (l : Layout) : ∀ ms, membersExact ms = true → ∀ m ∈ ms, ReadsBack l m.2
  | [], _, _, hm => nomatch hm
  | (name, value) :: rest, h, m, hm => by
    simp only [membersExact, Bool.and_eq_true] at h
    rcases List.mem_cons.mp hm with hm | hm
    · rw [hm]
      exact readsBack l value h.1
    · exact readsBack_members l rest h.2 m hm

end

/-! ### Whole texts -/

private theorem readChars_chars (l : Layout) {v : Json} (h : v.isExact = true) : readChars (l.chars 0 v) = some v := by
  have hread := readsBack l v h 0 ((l.chars 0 v).length + 1) [] (Nat.lt_succ_self _) (by simp [Stops])
  rw [List.append_nil] at hread
  simp [readChars, hread, skipBlanks]

/-- A value is read back from its compact text. -/
theorem read_compact {v : Json} (h : v.isExact = true) : read v.compact = some v := by
  rw [read, compact, String.toList_ofList, ← Layout.chars_dense 0, readChars_chars _ h]

/-- A value is read back from its pretty text. -/
theorem read_pretty {v : Json} (h : v.isExact = true) : read v.pretty = some v := by
  rw [read, pretty, String.toList_ofList, ← Layout.chars_airy 0, readChars_chars _ h]

end Jukebox.Json
