import Jukebox.Preferences.Basic
import Jukebox.Proofs.Preferences.Durability

/-!
# What is remembered

A preference passes through two layers of JSON: its compact text is a string in the pretty object that the file holds.
As long as writes succeed, each getter gives back what was last set under its key, or the default after the key was
reset, over any sequence of updates and of openings of the file in between (`remembers`).
-/

namespace Jukebox

open Json

/-! ### Values and their JSON -/

private theorem asNat?_nat {n bound : Nat} (h : n < bound) : asNat? bound (.nat n) = some n := by
  rw [Json.nat, asNat?, if_pos ⟨Int.natCast_nonneg n, by exact_mod_cast h⟩, Int.toNat_natCast]

private theorem asNullable?_nat {n bound : Nat} (h : n < bound) :
    asNullable? (asNat? bound) (.nat n) = some (some n) := by
  have hread : asNat? bound (.nat n) = some n := asNat?_nat h
  show (asNat? bound (.nat n)).map some = some (some n)
  rw [hread, Option.map_some]

private theorem bind_fields {α β : Type} (x : Fields α) (f : α → Fields β) (source : Source) :
    (x >>= f) source = (x source).bind fun (a, source) => f a source := rfl

private theorem map_fields {α β : Type} (f : α → β) (x : Fields α) (source : Source) :
    (f <$> x) source = (x source).map fun (a, source) => (f a, source) := by
  show (x source).bind _ = _
  cases x source <;> rfl

private theorem ConcertSearch.ofJson?_toJson {c : ConcertSearch} (h : c.radius < word32) :
    ofJson? c.toJson = some c := by
  have hfields : ∀ read : Json → Option Nat, read (.nat c.radius) = some c.radius → (asRecord? do
      return ({
        city := ← defaulted "city" preset.city asText?
        country := ← defaulted "country" preset.country asText?
        radius := ← defaulted "radius" preset.radius read } : ConcertSearch)) c.toJson = some c := by
    intro read hread
    simp [toJson, asRecord?, bind_fields, map_fields, defaulted, field, asText?, hread]
  exact hfields (asNat? word32) (asNat?_nat h)

private theorem Recommender.ofJson?_toJson (r : Recommender) : ofJson? r.toJson = some r := rfl

private theorem ConcertSearch.isExact_toJson {c : ConcertSearch} (h : c.radius < word32) : c.toJson.isExact = true := by
  have hradius : (Json.nat c.radius).isExact = true := by
    simp only [word32, Nat.pow_eq] at h
    simp only [Json.nat, isExact, Bool.and_eq_true, decide_eq_true_eq]
    omega
  simp [toJson, isExact, membersExact, hradius]

namespace Preferences

/-! ### Updates -/

/-- What a user of the preferences can do to them. -/
inductive Update where
  | concert (city country : String) (radius : UInt32)
  | recommender (r : Recommender)
  | volume (level : UInt8)
  | reset (key : String)

namespace Update

def key : Update → String
  | concert .. => concertKey
  | recommender _ => recommenderKey
  | volume _ => volumeKey
  | reset key => key

/-- The value that an update puts under its key. -/
def value : Update → Option Json
  | concert city country radius => some (ConcertSearch.toJson ⟨city, country, radius.toNat⟩)
  | recommender r => some r.toJson
  | volume level => some (.nat level.toNat)
  | reset _ => none

def apply (s : Store) : Update → Store × Except ClientError Unit
  | concert city country radius => setConcert ⟨city, country, radius.toNat⟩ s
  | recommender r => setRecommender r s
  | volume level => Preferences.setVolume level.toNat s
  | reset key => Preferences.reset key s

/-- The change of the store that an update makes. -/
def change (u : Update) : Store.Change :=
  match u.value with
  | some v => .set u.key v.compact
  | none => .remove u.key

private theorem apply_eq (u : Update) (s : Store) : u.apply s = u.change.apply s := by cases u <;> rfl

private theorem change_key (u : Update) : u.change.key = u.key := by cases u <;> rfl

private theorem change_result (u : Update) : u.change.result = u.value.map compact := by cases u <;> rfl

/-- Every value that is put under a key is read back from its text. -/
private theorem read_value (u : Update) : (u.value.map compact).bind Json.read = u.value := by
  have hexact : ∀ v ∈ u.value, v.isExact = true := by
    rintro v hv
    cases u with
    | concert city country radius =>
      cases hv
      exact ConcertSearch.isExact_toJson radius.toNat_lt
    | recommender r =>
      cases hv
      rfl
    | volume level =>
      cases hv
      have hlevel := level.toNat_lt
      simp only [Json.nat, isExact, Bool.and_eq_true, decide_eq_true_eq]
      omega
    | reset key => cases hv
  cases hvalue : u.value with
  | none => rfl
  | some v => exact read_compact (hexact v hvalue)

end Update

/-- What the getters answer. -/
structure Remembered where
  concert : ConcertSearch
  recommender : Recommender
  volume : Option Nat

namespace Remembered

/-- The defaults. -/
def preset : Remembered := ⟨.preset, .preset, none⟩

/-- What the getters answer about a store. -/
def ofStore (s : Store) : Remembered := ⟨Preferences.concert s, Preferences.recommender s, Preferences.volume s⟩

/-- A value that is set takes the place of the one before; a reset brings back the default. -/
def update (now : Remembered) : Update → Remembered
  | .concert city country radius => { now with concert := ⟨city, country, radius.toNat⟩ }
  | .recommender r => { now with recommender := r }
  | .volume level => { now with volume := some (min level.toNat Volume.maxLevel) }
  | .reset key =>
    if key = concertKey then { now with concert := .preset }
    else if key = recommenderKey then { now with recommender := .preset }
    else if key = volumeKey then { now with volume := none }
    else now

end Remembered

/-- An update, or opening the file again. -/
inductive Step where
  | update (u : Update)
  | reopen

def Step.run (s : Store) : Step → Except ClientError Store
  | update u => (u.apply s).2.map fun _ => (u.apply s).1
  | reopen => s.reopen

/-- The updates among some steps. -/
def Step.update? : Step → Option Update
  | update u => some u
  | reopen => none

/-- Updates of preferences that start in memory, or with a file and its content, if it exists; the file may be opened
again at any point. -/
inductive History where
  | memory (updates : List Update)
  | file (content : Option String) (steps : List Step)

namespace History

/-- The store at the start. -/
def start : History → Except ClientError Store
  | memory _ => .ok Store.inMemory
  | file (some content) _ => Store.openFile true (.text content)
  | file none _ => Store.openFile true .nothing

def steps : History → List Step
  | memory updates => updates.map .update
  | file _ steps => steps

def updates (h : History) : List Update := h.steps.filterMap Step.update?

/-- The store at the end. -/
def run (h : History) : Except ClientError Store := h.start.bind fun s => h.steps.foldlM Step.run s

/-- What the getters answer at the start: the defaults, unless there is a file already. -/
def initial : History → Remembered
  | memory _ | file none _ => .preset
  | file (some content) _ => .ofStore ⟨(Store.decode? content).getD [], .memory⟩

end History

/-! ### One step -/

/-- A store whose writes succeed: one in memory, or one with a file that holds what memory holds. -/
inductive Reliable : Bool → Store → Prop where
  | memory (entries : List (String × String)) : Reliable false ⟨entries, .memory⟩
  | file {s : Store} (filed : s.Filed) (saved : s.Saved) (writable : ∃ content, s.backing = .file content true) :
    Reliable true s

variable {s : Store} {filed : Bool}

private theorem Reliable.apply (h : Reliable filed s) (c : Store.Change) :
    (c.apply s).2 = .ok () ∧ (c.apply s).1.entries = c.edit s.entries ∧ Reliable filed (c.apply s).1 := by
  cases h with
  | memory entries =>
    cases c with
    | set key value => exact ⟨rfl, rfl, .memory _⟩
    | remove key =>
      cases hpresent : ((⟨entries, .memory⟩ : Store).get? key).isSome with
      | true =>
        have happly : (⟨entries, .memory⟩ : Store).remove key = (⟨entries.filter (·.1 ≠ key), .memory⟩, .ok ()) := by
          rw [Store.remove, if_pos hpresent, Store.flush]
        simp only [Store.Change.apply, happly]
        exact ⟨trivial, rfl, .memory _⟩
      | false =>
        have happly : (⟨entries, .memory⟩ : Store).remove key = (⟨entries, .memory⟩, .ok ()) := by
          rw [Store.remove, if_neg (by simp [hpresent])]
        have hedit : (Store.Change.remove key).edit entries = entries :=
          Store.Change.edit_of_not_writes (s := ⟨entries, .memory⟩) hpresent
        simp only [Store.Change.apply, happly, hedit]
        exact ⟨trivial, trivial, .memory _⟩
  | file hfiled hsaved hwritable =>
    obtain ⟨content, hbacking⟩ := hwritable
    have hpermit : s.permit true = s := by
      obtain ⟨entries, backing⟩ := s
      cases hbacking
      rfl
    have happly : c.apply s = s.attempt (c, true) := by rw [Store.attempt, hpermit]
    have hsaved' : (s.attempt (c, true)).1.Saved := Store.saved_attempts hfiled hsaved [(c, true)] (by simp)
    have hfiled' : (s.attempt (c, true)).1.Filed := hfiled.attempt (c, true)
    rw [happly]
    refine ⟨?_, ?_, .file hfiled' hsaved' ?_⟩ <;> rw [Store.attempt_eq hbacking]
    · simp
    · exact ⟨_, rfl⟩

private theorem Reliable.get?_apply (h : Reliable filed s) (u : Update) (key : String) :
    (u.apply s).1.get? key = if key = u.key then u.value.map compact else s.get? key := by
  obtain ⟨-, hentries, -⟩ := h.apply u.change
  rw [u.apply_eq, Store.get?, hentries, Store.Change.lookup_edit, u.change_key, u.change_result, Store.get?]

/-- What is loaded after an update is the value it put there. -/
private theorem Reliable.load?_apply {α : Type} (h : Reliable filed s) (u : Update) (read : Json → Option α)
    (key : String) :
    load? read key (u.apply s).1 = if key = u.key then u.value.bind read else load? read key s := by
  rw [load?, h.get?_apply]
  split
  · rw [u.read_value]
  · rfl

/-- The keys are three. -/
private theorem keys_distinct :
    concertKey ≠ recommenderKey ∧ concertKey ≠ volumeKey ∧ recommenderKey ≠ volumeKey := by decide

private theorem Reliable.ofStore_apply (h : Reliable filed s) (u : Update) :
    Remembered.ofStore (u.apply s).1 = (Remembered.ofStore s).update u := by
  obtain ⟨hcr, hcv, hrv⟩ := keys_distinct
  have hload : ∀ {α : Type} (read : Json → Option α) key, load? read key (u.apply s).1 =
      if key = u.key then u.value.bind read else load? read key s := fun read key => h.load?_apply u read key
  rw [Remembered.ofStore, concert, recommender, volume, hload, hload, hload]
  cases u with
  | concert city country radius =>
    have hread : (Update.concert city country radius).value.bind ConcertSearch.ofJson? =
        some ⟨city, country, radius.toNat⟩ := by
      rw [Update.value, Option.bind_some, ConcertSearch.ofJson?_toJson radius.toNat_lt]
    rw [hread]
    simp [Update.key, Remembered.update, Remembered.ofStore, concert, recommender, volume, hcr.symm, hcv.symm]
  | recommender r =>
    have hread : (Update.recommender r).value.bind Recommender.ofJson? = some r := Recommender.ofJson?_toJson r
    rw [hread]
    simp [Update.key, Remembered.update, Remembered.ofStore, concert, recommender, volume, hcr, hrv.symm]
  | volume level =>
    have hread : (Update.volume level).value.bind (asNullable? (asNat? byte)) = some (some level.toNat) := by
      have hlevel : level.toNat < byte := level.toNat_lt
      rw [Update.value, Option.bind_some, asNullable?_nat hlevel]
    rw [hread]
    simp [Update.key, Remembered.update, Remembered.ofStore, concert, recommender, volume, hcv, hrv]
  | reset key =>
    simp only [Update.key, Update.value, Option.bind_none, eq_comm (b := key)]
    by_cases hconcert : key = concertKey
    · simp [hconcert, hcr, hcv, Remembered.update, Remembered.ofStore, recommender, volume]
    by_cases hrecommender : key = recommenderKey
    · simp [hrecommender, hcr.symm, hrv, Remembered.update, Remembered.ofStore, concert, volume]
    by_cases hvolume : key = volumeKey
    · simp [hvolume, hcv.symm, hrv.symm, Remembered.update, Remembered.ofStore, concert, recommender]
    · simp [hconcert, hrecommender, hvolume, Remembered.update, Remembered.ofStore, concert, recommender, volume]

private theorem ofStore_congr {s t : Store} (h : s.entries = t.entries) : Remembered.ofStore s = .ofStore t := by
  have hget : s.get? = t.get? := by
    funext key
    rw [Store.get?, h, Store.get?]
  simp only [Remembered.ofStore, concert, recommender, volume, load?, hget]

/-! ### Runs -/

private theorem Reliable.reopen (h : Reliable true s) :
    ∃ s', s.reopen = .ok s' ∧ Reliable true s' ∧ s'.entries = s.entries := by
  cases h with
  | file hfiled hsaved hwritable =>
    rw [Store.saved_iff] at hsaved
    refine ⟨_, s.reopen_eq, ?_, hsaved⟩
    have hopen : Store.openFile true s.found = .ok _ := s.reopen_eq
    exact .file (Store.filed_openFile hopen) (Store.saved_openFile hopen) ⟨_, rfl⟩

/-- One step takes the getters from what they answer to what they answer after its update, if it has one. -/
private theorem Reliable.run_step (h : Reliable filed s) (step : Step) (hreopen : step = .reopen → filed = true) :
    ∃ s', step.run s = .ok s' ∧ Reliable filed s' ∧
      Remembered.ofStore s' = step.update?.toList.foldl Remembered.update (.ofStore s) := by
  cases step with
  | update u =>
    obtain ⟨hok, -, hreliable⟩ := h.apply u.change
    rw [← u.apply_eq] at hok hreliable
    exact ⟨(u.apply s).1, by rw [Step.run, hok]; rfl, hreliable, h.ofStore_apply u⟩
  | reopen =>
    obtain rfl := hreopen rfl
    obtain ⟨s', hs', hreliable, hentries⟩ := h.reopen
    exact ⟨s', hs', hreliable, ofStore_congr hentries⟩

private theorem Reliable.run_steps {steps : List Step} (hreopen : .reopen ∈ steps → filed = true)
    (h : Reliable filed s) :
    ∃ s', steps.foldlM Step.run s = .ok s' ∧ Reliable filed s' ∧
      Remembered.ofStore s' = (steps.filterMap Step.update?).foldl Remembered.update (.ofStore s) := by
  induction steps generalizing s with
  | nil => exact ⟨s, rfl, h, rfl⟩
  | cons step steps ih =>
    obtain ⟨s₁, hrun₁, hreliable₁, hof₁⟩ := h.run_step step fun heq => hreopen (heq ▸ List.mem_cons_self)
    obtain ⟨s₂, hrun₂, hreliable₂, hof₂⟩ := ih (fun hmem => hreopen (List.mem_cons_of_mem _ hmem)) hreliable₁
    refine ⟨s₂, ?_, hreliable₂, ?_⟩
    · rw [List.foldlM_cons, hrun₁]
      exact hrun₂
    · rw [hof₂, hof₁]
      cases step <;> rfl

private theorem Reliable.openFile (found : Store.Found) {s : Store} (h : Store.openFile true found = .ok s) :
    Reliable true s := by
  refine .file (Store.filed_openFile h) (Store.saved_openFile h) ?_
  cases found <;> cases h <;> exact ⟨_, rfl⟩

/-- A history starts with a store whose writes succeed, and never opens again what has no file. -/
private theorem History.exists_start (h : History) : ∃ s filed, h.start = .ok s ∧ Reliable filed s ∧
    (.reopen ∈ h.steps → filed = true) ∧ Remembered.ofStore s = h.initial := by
  cases h with
  | memory updates => exact ⟨_, false, rfl, .memory [], by simp [steps], rfl⟩
  | file content steps =>
    cases content with
    | none => exact ⟨_, true, rfl, .openFile .nothing rfl, fun _ => rfl, rfl⟩
    | some content => exact ⟨_, true, rfl, .openFile (.text content) rfl, fun _ => rfl, rfl⟩

/-- Over any updates of a store whose writes succeed, and any openings of its file in between, each getter answers what
was last set under its key, or the default since the last reset of the key; and an update leaves alone what is stored
under every other key. -/
theorem remembers (h : History) : ∃ s, h.run = .ok s ∧
    Remembered.ofStore s = h.updates.foldl Remembered.update h.initial ∧
    ∀ (u : Update) (key : String), (u.apply s).2 = .ok () ∧
      (u.apply s).1.get? key = if key = u.key then u.value.map compact else s.get? key := by
  obtain ⟨s₀, filed, hstart, hreliable₀, hreopen, hinitial⟩ := h.exists_start
  obtain ⟨s, hrun, hreliable, hof⟩ := hreliable₀.run_steps hreopen
  refine ⟨s, by rw [History.run, hstart]; exact hrun, by rw [hof, hinitial]; rfl, fun u key => ⟨?_, ?_⟩⟩
  · rw [u.apply_eq]
    exact (hreliable.apply u.change).1
  · exact hreliable.get?_apply u key

end Preferences

end Jukebox
