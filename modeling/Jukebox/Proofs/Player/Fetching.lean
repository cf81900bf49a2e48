import Jukebox.Proofs.Lyrics.Cache
import Jukebox.Proofs.Player.Strides

/-!
# Fetching lyrics

A request for lyrics ends in the cache, at a fetch that is under way, or in a new fetch (`requested`).  So while no
lyrics arrive, the tracks whose lyrics are being fetched are joined by those for which a fetch is handed out, each once
and none that is in the cache (`Fetching`).  Only lyrics that arrive end a fetch (`Fetches.act`).
-/

namespace Jukebox

/-- Lyrics of a track have arrived, or word that it has none. -/
def Notice.answers (trackId : String) : Notice → Bool
  | .lyrics id _ => id = trackId
  | _ => false

namespace Player

/-- Lyrics of a track arrive, or word that it has none. -/
def Action.answers (trackId : String) : Action → Bool
  | .notice n => n.answers trackId
  | _ => false

/-- What is handed out when something happens. -/
def errands (p : Player) (action : Action) : List Task := (p.act action).tasks.drop p.tasks.length

/-- The player that has looked into its cache for the lyrics of a track. -/
def consulted (trackId : String) (p : Player) : Player := { p with cache := (p.cache.get p.clock trackId).1 }

/-- The ways a request for lyrics can go. -/
inductive Requested (p : Player) (trackId : String) (shown : Bool) : Player → Prop where
  | found {lyrics : Lyrics} (hfound : (p.cache.get p.clock trackId).2 = some lyrics) : Requested p trackId shown
      (if shown then { p.consulted trackId with lyrics := some lyrics }.emit (.lyricsReady trackId)
        else p.consulted trackId)
  | pending (hmissing : p.cache.contains p.clock trackId = false) (hfetching : trackId ∈ p.inFlight) :
      Requested p trackId shown (p.consulted trackId)
  | fetch (hmissing : p.cache.contains p.clock trackId = false) (hnew : trackId ∉ p.inFlight) :
      Requested p trackId shown
        ({ p.consulted trackId with inFlight := trackId :: p.inFlight }.spawn (.lyrics trackId))

/-- What becomes of the fetches while no lyrics arrive. -/
structure Fetching (handed : List Task) (p p' : Player) : Prop where
  tasks : p'.tasks = p.tasks ++ handed
  answered : ∀ task ∈ handed, task.isAnswered = true
  /-- A fetch that is handed out is under way. -/
  inFlight : ∀ trackId, p'.inFlight.count trackId = p.inFlight.count trackId + handed.count (.lyrics trackId)
  nodup : p.inFlight.Nodup → p'.inFlight.Nodup
  /-- What is in the cache is not fetched. -/
  missing : ∀ trackId, .lyrics trackId ∈ handed → p.cache.contains p.clock trackId = false
  contains : ∀ trackId, p'.cache.contains p'.clock trackId = p.cache.contains p.clock trackId

/-- What becomes of the fetches when something happens. -/
structure Account (action : Action) (handed : List Task) (p p' : Player) : Prop where
  tasks : p'.tasks = p.tasks ++ handed
  kinds : ∀ task ∈ handed, task.isAnswered = true ∨ task.isReport = true
  /-- Lyrics that arrive end the fetch of a track. -/
  inFlight : ∀ trackId, p'.inFlight.count trackId =
    (if action.answers trackId then 0 else p.inFlight.count trackId) + handed.count (.lyrics trackId)
  nodup : p.inFlight.Nodup → p'.inFlight.Nodup
  missing : ∀ trackId, .lyrics trackId ∈ handed → p.cache.contains p.clock trackId = false

variable {p p' q : Player} {handed handed' : List Task} {action : Action}

theorem requested (p : Player) (trackId : String) (shown : Bool) :
    Requested p trackId shown (p.requestLyrics trackId shown) := by
  cases hfound : (p.cache.get p.clock trackId).2 with
  | some lyrics =>
    have he : p.requestLyrics trackId shown =
        if shown then { p.consulted trackId with lyrics := some lyrics }.emit (.lyricsReady trackId)
        else p.consulted trackId := by
      simp only [requestLyrics, hfound]
      rfl
    rw [he]
    exact .found hfound
  | none =>
    have hmissing := Lyrics.Cache.get_eq_none_iff.1 hfound
    have he : p.requestLyrics trackId shown = if trackId ∈ p.inFlight then p.consulted trackId
        else { p.consulted trackId with inFlight := trackId :: p.inFlight }.spawn (.lyrics trackId) := by
      simp only [requestLyrics, hfound]
      rfl
    rw [he]
    split
    · rename_i hfetching
      exact .pending hmissing hfetching
    · rename_i hnew
      exact .fetch hmissing hnew

/-! ### What becomes of the fetches -/

namespace Fetching

private theorem refl (p : Player) : Fetching [] p p :=
  ⟨(List.append_nil _).symm, nofun, fun _ => rfl, id, nofun, fun _ => rfl⟩

private theorem trans (h : Fetching handed p q) (h' : Fetching handed' q p') : Fetching (handed ++ handed') p p' where
  tasks := by rw [h'.tasks, h.tasks, List.append_assoc]
  answered task htask := (List.mem_append.1 htask).elim (h.answered task) (h'.answered task)
  inFlight trackId := by rw [h'.inFlight, h.inFlight, List.count_append, Nat.add_assoc]
  nodup := h'.nodup ∘ h.nodup
  missing trackId htask := (List.mem_append.1 htask).elim (h.missing trackId)
    fun htask => (h.contains trackId).symm.trans (h'.missing trackId htask)
  contains trackId := (h'.contains trackId).trans (h.contains trackId)

private theorem of_songbook {lyrics : Option Lyrics} (hsongbook : p'.songbook = { p.songbook with lyrics := lyrics })
    (htasks : p'.tasks = p.tasks ++ handed)
    (hhanded : ∀ task ∈ handed, task.isAnswered = true ∧ ∀ trackId, task ≠ .lyrics trackId) :
    Fetching handed p p' := by
  have hcache : p'.cache = p.cache := congrArg Songbook.cache hsongbook
  have hclock : p'.clock = p.clock := congrArg Songbook.clock hsongbook
  have hinFlight : p'.inFlight = p.inFlight := congrArg Songbook.inFlight hsongbook
  refine ⟨htasks, fun task htask => (hhanded task htask).1, fun trackId => ?_, fun h => hinFlight ▸ h, ?_, ?_⟩
  · have hnone : handed.count (.lyrics trackId) = 0 := List.count_eq_zero.2 fun htask => (hhanded _ htask).2 trackId rfl
    rw [hinFlight, hnone, Nat.add_zero]
  · exact fun trackId htask => absurd rfl ((hhanded _ htask).2 trackId)
  · intro trackId
    rw [hcache, hclock]

end Fetching

private theorem fetching_consulted (p : Player) (trackId : String) : Fetching [] p (p.consulted trackId) where
  tasks := (List.append_nil _).symm
  answered := nofun
  inFlight _ := rfl
  nodup := id
  missing := nofun
  contains := Lyrics.Cache.contains_get p.cache p.clock trackId

private theorem Requested.fetching {trackId : String} {shown : Bool} (h : Requested p trackId shown p') :
    ∃ handed, Fetching handed p p' := by
  have hconsulted := fetching_consulted p trackId
  cases h with
  | found hfound =>
    refine ⟨[], ?_⟩
    cases shown with
    | true => exact ⟨(List.append_nil _).symm, nofun, fun _ => rfl, id, nofun, hconsulted.contains⟩
    | false => exact hconsulted
  | pending hmissing hfetching => exact ⟨[], hconsulted⟩
  | fetch hmissing hnew =>
    refine ⟨[.lyrics trackId], ?_⟩
    constructor
    · rfl
    · simp [Task.isAnswered]
    · intro id
      simp [spawn, List.count_cons]
    · exact List.nodup_cons.2 ∘ .intro hnew
    · intro id hid
      obtain rfl : id = trackId := by simpa using hid
      exact hmissing
    · exact hconsulted.contains

private theorem answered_of_incidental {task : Task} (h : task.isIncidental = true) :
    task.isAnswered = true ∧ ∀ trackId, task ≠ .lyrics trackId := by
  unfold Task.isIncidental at h
  split at h
  · exact ⟨rfl, nofun⟩
  · exact ⟨rfl, nofun⟩
  · cases h

private theorem Calm.fetching (h : Calm p p') : ∃ handed, Fetching handed p p' := by
  obtain ⟨tasks, htasks, hincidental⟩ := h.tasks
  exact ⟨tasks, .of_songbook h.songbook htasks fun task htask => answered_of_incidental (hincidental task htask)⟩

private theorem fetching_prefetchNextLyrics (p : Player) : ∃ handed, Fetching handed p p.prefetchNextLyrics := by
  rcases p.prefetchNextLyrics_cases with he | ⟨trackId, he⟩ <;> rw [he]
  · exact ⟨[], .refl p⟩
  · exact (p.requested trackId false).fetching

private theorem fetching_stop (p : Player) : Fetching [] p p.stop :=
  .of_songbook p.songbook_stop (p.tasks_stop.trans (List.append_nil _).symm) nofun

private theorem fetching_loading (p : Player) (track : Track) (slot : Option Slot) :
    Fetching [] p (p.loading track slot) :=
  .of_songbook (p.songbook_loading track slot) ((p.tasks_loading track slot).trans (List.append_nil _).symm) nofun

private theorem fetching_reminder (p : Player) (delay : Duration) (token : Nat) :
    Fetching [.timer delay (.progressDue token)] p (p.spawn (.timer delay (.progressDue token))) :=
  .of_songbook rfl rfl (by simp [Task.isAnswered])

private theorem fetching_bindAndPlay (p : Player) (track : Track) (slot : Option Slot) (autoplay : Bool) :
    ∃ handed, Fetching handed p (p.bindAndPlay track slot autoplay) := by
  obtain ⟨q, delay, hcalm, he⟩ := p.bindAndPlay_calm track slot autoplay
  obtain ⟨bound, hbound⟩ := hcalm.fetching
  obtain ⟨asked, hasked⟩ := (q.requested track.id true).fetching
  obtain ⟨ahead, hahead⟩ := fetching_prefetchNextLyrics (q.requestLyrics track.id true)
  have hfetched := (((fetching_loading p track slot).trans hbound).trans hasked).trans hahead
  rw [he]
  exact ⟨_, hfetched.trans (fetching_reminder _ delay p.nextToken)⟩

private theorem Stride.fetching (h : Stride p p') : ∃ handed, Fetching handed p p' := by
  cases h with
  | calm h => exact h.fetching
  | halt => exact ⟨[], fetching_stop p⟩
  | change track slot autoplay => exact fetching_bindAndPlay p track slot autoplay
  | prefetch => exact fetching_prefetchNextLyrics p

theorem Strides.fetching (h : Strides p p') : ∃ handed, Fetching handed p p' := by
  induction h with
  | refl => exact ⟨[], .refl p⟩
  | tail _ hlast ih =>
    obtain ⟨handed, hfirst⟩ := ih
    obtain ⟨handed', hlast⟩ := hlast.fetching
    exact ⟨_, hfirst.trans hlast⟩

/-! ### Whatever happens -/

private theorem Fetching.account (h : Fetching handed p p') (hanswers : ∀ trackId, action.answers trackId = false) :
    Account action handed p p' where
  tasks := h.tasks
  kinds task htask := .inl (h.answered task htask)
  inFlight trackId := by rw [h.inFlight, hanswers, if_neg Bool.false_ne_true]
  nodup := h.nodup
  missing := h.missing

theorem songbook_handleLyrics_some (p : Player) (trackId : String) (lyrics : Lyrics) :
    (p.handleLyrics trackId (some lyrics)).songbook =
      { lyrics := if p.loadedId = some trackId then some lyrics else p.lyrics
        cache := p.cache.insert p.clock trackId lyrics
        inFlight := p.inFlight.filter (· ≠ trackId)
        clock := p.clock } := by
  unfold handleLyrics
  dsimp only
  split
  · rename_i hloaded
    rw [if_pos (show p.loadedId = some trackId from hloaded)]
    rfl
  · rename_i hloaded
    rw [if_neg (show ¬p.loadedId = some trackId from hloaded)]
    rfl

private theorem account_handleLyrics (p : Player) (trackId : String) (lyrics : Option Lyrics) :
    Account (.notice (.lyrics trackId lyrics)) [] p (p.handleLyrics trackId lyrics) := by
  have hinFlight : (p.handleLyrics trackId lyrics).inFlight = p.inFlight.filter (· ≠ trackId) := by
    cases lyrics with
    | none => rfl
    | some lyrics => exact congrArg Songbook.inFlight (p.songbook_handleLyrics_some trackId lyrics)
  refine ⟨by simp, nofun, fun id => ?_, fun h => hinFlight ▸ h.filter _, nofun⟩
  rw [hinFlight]
  by_cases hid : id = trackId
  · have hgone : (p.inFlight.filter (· ≠ trackId)).count id = 0 := List.count_eq_zero.2 (by simp [hid])
    rw [hgone]
    simp [Action.answers, Notice.answers, hid]
  · simp [Action.answers, Notice.answers, hid, Ne.symm hid, List.count_filter]

private theorem account_report (p : Player) (token : Nat) (trackId : String) :
    Account (.notice (.progressDue token)) [.report trackId] p (p.spawn (.report trackId)) :=
  ⟨rfl, by simp [Task.isReport], fun _ => rfl, id, by simp⟩

private theorem Effect.account (h : Effect p action p') : ∃ handed, Account action handed p p' := by
  cases h with
  | drain => exact ⟨[], (List.append_nil _).symm, nofun, fun _ => rfl, id, nofun⟩
  | wait span => exact ⟨[], (List.append_nil _).symm, nofun, fun _ => rfl, id, nofun⟩
  | learn trackId lyrics => exact ⟨[], account_handleLyrics p trackId lyrics⟩
  | report => exact ⟨_, account_report p _ _⟩
  | strides h hdrain hlyrics =>
    obtain ⟨handed, hfetching⟩ := h.fetching
    refine ⟨handed, hfetching.account fun trackId => ?_⟩
    cases action with
    | notice notice =>
      cases notice with
      | lyrics id lyrics => exact absurd rfl (hlyrics id lyrics)
      | _ => rfl
    | _ => rfl

theorem errands_of_tasks (h : (p.act action).tasks = p.tasks ++ handed) : p.errands action = handed := by
  rw [errands, h, List.drop_left]

theorem account_act (p : Player) (action : Action) : Account action (p.errands action) p (p.act action) := by
  obtain ⟨handed, h⟩ := (effect_act p action).account
  rw [errands_of_tasks h.tasks]
  exact h

theorem tasks_act (p : Player) (action : Action) : (p.act action).tasks = p.tasks ++ p.errands action :=
  (account_act p action).tasks

/-! ### Binds -/

/-- A bind fetches the lyrics of its track unless they are in the cache or a fetch for them is under way. -/
private theorem fetch_bindAndPlay {track : Track} (hmissing : p.cache.contains p.clock track.id = false)
    (hnew : track.id ∉ p.inFlight) (slot : Option Slot) (autoplay : Bool) : ∃ handed,
      (p.bindAndPlay track slot autoplay).tasks = p.tasks ++ handed ∧ .lyrics track.id ∈ handed := by
  obtain ⟨q, delay, hcalm, he⟩ := p.bindAndPlay_calm track slot autoplay
  have hsongbook : q.songbook = { p.songbook with lyrics := none } :=
    hcalm.songbook.trans (p.songbook_loading track slot)
  have hcache : q.cache = p.cache := congrArg Songbook.cache hsongbook
  have hclock : q.clock = p.clock := congrArg Songbook.clock hsongbook
  have hinFlight : q.inFlight = p.inFlight := congrArg Songbook.inFlight hsongbook
  obtain ⟨bound, hbound, -⟩ := hcalm.tasks
  have hasked : (q.requestLyrics track.id true).tasks = q.tasks ++ [.lyrics track.id] := by
    have hrequested := q.requested track.id true
    generalize q.requestLyrics track.id true = p' at hrequested ⊢
    cases hrequested with
    | found hfound =>
      rw [← hcache, ← hclock, ← Lyrics.Cache.get_eq_none_iff, hfound] at hmissing
      cases hmissing
    | pending _ hfetching => exact absurd (hinFlight ▸ hfetching) hnew
    | fetch => rfl
  obtain ⟨ahead, hahead⟩ := fetching_prefetchNextLyrics (q.requestLyrics track.id true)
  refine ⟨bound ++ [.lyrics track.id] ++ ahead ++ [.timer delay (.progressDue p.nextToken)], ?_, by simp⟩
  rw [he]
  show (q.requestLyrics track.id true).prefetchNextLyrics.tasks ++ _ = _
  rw [hahead.tasks, hasked, hbound, p.tasks_loading]
  simp

theorem lyrics_mem_errands_play {track : Track} (hmissing : p.cache.contains p.clock track.id = false)
    (hnew : track.id ∉ p.inFlight) (draw : Draw) :
    .lyrics track.id ∈ p.errands (.command (.play draw track none)) := by
  obtain ⟨handed, htasks, hhanded⟩ := fetch_bindAndPlay (p := p.observing) hmissing hnew none true
  have herrands : p.errands (.command (.play draw track none)) = handed := errands_of_tasks htasks
  rwa [herrands]

end Player

end Jukebox
