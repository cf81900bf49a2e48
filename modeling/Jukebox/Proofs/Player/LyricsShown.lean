import Jukebox.Proofs.Player.Fetching

/-!
# The lyrics that are shown

Lyrics are known by their track, not by the bind for which they were fetched.  They may come from the cache, from a
fetch that was started for an earlier bind or ahead of time, and after any number of changes of track.  All the same,
what is stored and what is shown is always what arrived last for a track (`Versed`), and the lyrics of what is loaded
are there, on their way, or known to be missing since it was bound (`lyrics_shown`).
-/

namespace Jukebox.Player

/-- The lyrics that arrive for a track. -/
def Action.learned (trackId : String) : Action → Option Lyrics
  | .notice (.lyrics id (some lyrics)) => if id = trackId then some lyrics else none
  | _ => none

/-- The lyrics that have arrived last for a track. -/
def latestLyrics (actions : List Action) (trackId : String) : Option Lyrics :=
  (actions.filterMap (Action.learned trackId)).getLast?

/-- The lyrics that have arrived last for a track, once something more has happened. -/
def Action.updates (action : Action) (latest : String → Option Lyrics) (trackId : String) : Option Lyrics :=
  (action.learned trackId).or (latest trackId)

/-- A bind is known to lack lyrics, or word of it comes while it is loaded. -/
def Action.misses (action : Action) (p : Player) (missed : Bind → Prop) (b : Bind) : Prop :=
  missed b ∨ action = .notice (.lyrics b.track.id none) ∧ p.bound = some b

/-- A fetch for a track has been handed out during a run, and has not been answered since. -/
def Awaited (config : Config) (actions : List Action) (trackId : String) : Prop :=
  ∃ earlier action later, actions = earlier ++ action :: later ∧
    .lyrics trackId ∈ ((new config).run earlier).errands action ∧ ∀ a ∈ later, a.answers trackId = false

/-- While a bind was loaded, word has come that its track has no lyrics. -/
def Failed (config : Config) (actions : List Action) (b : Bind) : Prop :=
  ∃ earlier later, actions = earlier ++ .notice (.lyrics b.track.id none) :: later ∧
    ((new config).run earlier).bound = some b

/-- What is stored and shown is what arrived last, and what is not there is fetched or known to be missing. -/
structure Versed (latest : String → Option Lyrics) (missed : Bind → Prop) (p : Player) : Prop where
  stored : ∀ item ∈ p.cache.items, latest item.trackId = some item.lyrics
  shown : ∀ lyrics, p.lyrics = some lyrics → ∃ b, p.bound = some b ∧ latest b.track.id = some lyrics
  sought : ∀ b, p.bound = some b → p.lyrics = none → b.track.id ∈ p.inFlight ∨ missed b

variable {p p' : Player} {latest : String → Option Lyrics} {missed : Bind → Prop} {action : Action}

namespace Versed

private theorem of_eq (h : Versed latest missed p) (hsongbook : p'.songbook = p.songbook)
    (hbound : p'.bound = p.bound) :
    Versed latest missed p' := by
  have hlyrics : p'.lyrics = p.lyrics := congrArg Songbook.lyrics hsongbook
  have hcache : p'.cache = p.cache := congrArg Songbook.cache hsongbook
  have hinFlight : p'.inFlight = p.inFlight := congrArg Songbook.inFlight hsongbook
  exact ⟨hcache ▸ h.stored, by rw [hlyrics, hbound]; exact h.shown, by rw [hlyrics, hbound, hinFlight]; exact h.sought⟩

private theorem consulted (h : Versed latest missed p) (trackId : String) :
    Versed latest missed (p.consulted trackId) :=
  ⟨fun item hitem => h.stored item (Lyrics.Cache.mem_items_of_get hitem), h.shown, h.sought⟩

/-- What is found in the cache is what arrived last. -/
private theorem latest_of_get (h : Versed latest missed p) {trackId : String} {lyrics : Lyrics}
    (hfound : (p.cache.get p.clock trackId).2 = some lyrics) : latest trackId = some lyrics := by
  obtain ⟨item, hitem, rfl, rfl⟩ := Lyrics.Cache.exists_item_of_get hfound
  exact h.stored item hitem

/-- A request ahead of time does not touch what is shown. -/
private theorem request (h : Versed latest missed p) {trackId : String} (hp' : Requested p trackId false p') :
    Versed latest missed p' := by
  have hconsulted := h.consulted trackId
  cases hp' with
  | found => exact hconsulted
  | pending => exact hconsulted
  | fetch =>
    exact ⟨hconsulted.stored, hconsulted.shown, fun b hb hnone =>
      (hconsulted.sought b hb hnone).imp (List.mem_cons_of_mem _) id⟩

private theorem prefetchNextLyrics (h : Versed latest missed p) : Versed latest missed p.prefetchNextLyrics := by
  rcases p.prefetchNextLyrics_cases with he | ⟨trackId, he⟩ <;> rw [he]
  · exact h
  · exact h.request (p.requested trackId false)

private theorem stop (h : Versed latest missed p) : Versed latest missed p.stop := by
  have hcache : p.stop.cache = p.cache := congrArg Songbook.cache p.songbook_stop
  have hlyrics : p.stop.lyrics = none := congrArg Songbook.lyrics p.songbook_stop
  have hbound : p.stop.bound = none := bound_eq_none.2 (loaded_stop p)
  refine ⟨hcache ▸ h.stored, fun lyrics hsome => ?_, fun b hb => ?_⟩
  · rw [hlyrics] at hsome
    cases hsome
  · rw [hbound] at hb
    cases hb

private theorem loading (h : Versed latest missed p) (track : Track) (slot : Option Slot) :
    Versed latest (fun _ => True) (p.loading track slot) := by
  have hcache : (p.loading track slot).cache = p.cache := congrArg Songbook.cache (p.songbook_loading track slot)
  have hlyrics : (p.loading track slot).lyrics = none := congrArg Songbook.lyrics (p.songbook_loading track slot)
  refine ⟨hcache ▸ h.stored, fun lyrics hsome => ?_, fun _ _ _ => .inr trivial⟩
  rw [hlyrics] at hsome
  cases hsome

/-- A request for the lyrics of what is loaded shows them, or leaves them on their way. -/
private theorem request_shown (h : Versed latest (fun _ => True) p) {b : Bind} (hb : p.bound = some b)
    (hp' : Requested p b.track.id true p') : Versed latest missed p' := by
  have hconsulted := h.consulted b.track.id
  have hsought : ∀ {inFlight : List String}, b.track.id ∈ inFlight → ∀ b', p.bound = some b' → p.lyrics = none →
      b'.track.id ∈ inFlight ∨ missed b' := by
    intro inFlight hfetching b' hb' _
    obtain rfl := Option.some.inj (hb.symm.trans hb')
    exact .inl hfetching
  cases hp' with
  | @found lyrics hfound =>
    refine ⟨hconsulted.stored, fun lyrics' hsome => ⟨b, hb, ?_⟩, fun _ _ hnone' => absurd hnone' nofun⟩
    rw [← hsome]
    exact h.latest_of_get hfound
  | pending _ hfetching => exact ⟨hconsulted.stored, hconsulted.shown, hsought hfetching⟩
  | fetch => exact ⟨hconsulted.stored, hconsulted.shown, hsought List.mem_cons_self⟩

private theorem bindAndPlay (h : Versed latest missed p) (track : Track) (slot : Option Slot) (autoplay : Bool) :
    Versed latest missed (p.bindAndPlay track slot autoplay) := by
  obtain ⟨q, delay, hcalm, he⟩ := p.bindAndPlay_calm track slot autoplay
  have hq : Versed latest (fun _ => True) q := (h.loading track slot).of_eq hcalm.songbook hcalm.bound
  have hasked : Versed latest missed (q.requestLyrics track.id true) :=
    hq.request_shown (hcalm.bound.trans (p.bound_loading track slot)) (q.requested track.id true)
  rw [he]
  exact hasked.prefetchNextLyrics.of_eq rfl rfl

private theorem stride (h : Versed latest missed p) (hstride : Stride p p') : Versed latest missed p' := by
  cases hstride with
  | calm hcalm => exact h.of_eq hcalm.songbook hcalm.bound
  | halt => exact h.stop
  | change track slot autoplay => exact h.bindAndPlay track slot autoplay
  | prefetch => exact h.prefetchNextLyrics

private theorem strides (h : Versed latest missed p) (hstrides : Strides p p') : Versed latest missed p' := by
  induction hstrides with
  | refl => exact h
  | tail _ hlast ih => exact ih.stride hlast

/-! ### Lyrics that arrive -/

/-- Word that a track has no lyrics ends the fetch for it. -/
private theorem miss (h : Versed latest missed p) (trackId : String) :
    Versed latest (fun b => missed b ∨ b.track.id = trackId ∧ p.bound = some b) (p.handleLyrics trackId none) := by
  refine ⟨h.stored, h.shown, fun b hb hnone => ?_⟩
  rcases h.sought b hb hnone with hfetching | hmissed
  · by_cases hid : b.track.id = trackId
    · exact .inr (.inr ⟨hid, hb⟩)
    · exact .inl (List.mem_filter.2 ⟨hfetching, decide_eq_true hid⟩)
  · exact .inr (.inl hmissed)

/-- Lyrics that arrive are stored in place of earlier ones, and shown if their track is loaded. -/
private theorem hit (h : Versed latest missed p) (trackId : String) (lyrics : Lyrics) :
    Versed (fun id => if trackId = id then some lyrics else latest id) missed
      (p.handleLyrics trackId (some lyrics)) := by
  have hsongbook := p.songbook_handleLyrics_some trackId lyrics
  have hbound : (p.handleLyrics trackId (some lyrics)).bound = p.bound :=
    bound_of_transport (transport_handleLyrics p trackId (some lyrics))
  have hid : ∀ b, p.bound = some b → (p.loadedId = some trackId ↔ trackId = b.track.id) := by
    intro b hb
    obtain ⟨l, hl, rfl⟩ := Option.map_eq_some_iff.1 hb
    simp [loadedId, hl, Loaded.bind, eq_comm]
  have hlyrics := congrArg Songbook.lyrics hsongbook
  have hcache := congrArg Songbook.cache hsongbook
  have hinFlight := congrArg Songbook.inFlight hsongbook
  dsimp only [songbook] at hlyrics hcache hinFlight
  constructor
  · intro item hitem
    rw [hcache] at hitem
    rcases Lyrics.Cache.mem_items_of_insert hitem with rfl | ⟨hitem, hother⟩
    · exact if_pos rfl
    · rw [if_neg (Ne.symm hother)]
      exact h.stored item hitem
  · intro lyrics' hsome
    rw [hlyrics] at hsome
    rw [hbound]
    split at hsome
    · rename_i hloaded
      obtain ⟨l, hl, hlid⟩ := Option.map_eq_some_iff.1 hloaded
      exact ⟨l.bind, by simp [bound, hl], (if_pos hlid.symm).trans hsome⟩
    · rename_i hloaded
      obtain ⟨b, hb, hlatest⟩ := h.shown lyrics' hsome
      exact ⟨b, hb, (if_neg (mt (hid b hb).2 hloaded)).trans hlatest⟩
  · intro b hb hnone
    rw [hbound] at hb
    rw [hlyrics] at hnone
    rw [hinFlight]
    split at hnone
    · cases hnone
    · rename_i hloaded
      have hother : b.track.id ≠ trackId := fun he => hloaded ((hid b hb).2 he.symm)
      exact (h.sought b hb hnone).imp_left fun hfetching => List.mem_filter.2 ⟨hfetching, decide_eq_true hother⟩

private theorem of_silent (h : Versed latest missed p') (hnone : ∀ trackId, action.learned trackId = none) :
    Versed (action.updates latest) (action.misses p missed) p' := by
  have hlatest : action.updates latest = latest := by
    funext trackId
    rw [Action.updates, hnone, Option.none_or]
  rw [hlatest]
  exact ⟨h.stored, h.shown, fun b hb hlyrics => (h.sought b hb hlyrics).imp_right .inl⟩

private theorem effect (h : Versed latest missed p) (heffect : Effect p action p') :
    Versed (action.updates latest) (action.misses p missed) p' := by
  cases heffect with
  | drain => exact .of_silent (h.of_eq rfl rfl) fun _ => rfl
  | wait span =>
    have hlater : Versed latest missed { p with clock := p.clock + span } := ⟨h.stored, h.shown, h.sought⟩
    exact hlater.of_silent fun _ => rfl
  | learn trackId lyrics =>
    cases lyrics with
    | none =>
      have hmiss := h.miss trackId
      refine ⟨hmiss.stored, hmiss.shown, fun b hb hnone => (hmiss.sought b hb hnone).imp_right (Or.imp_right ?_)⟩
      rintro ⟨rfl, hbound⟩
      exact ⟨rfl, hbound⟩
    | some lyrics =>
      have hhit := h.hit trackId lyrics
      have hlatest : (Action.notice (.lyrics trackId (some lyrics))).updates latest =
          fun id => if trackId = id then some lyrics else latest id := by
        funext id
        show (if trackId = id then some lyrics else none).or (latest id) = _
        split <;> rfl
      rw [hlatest]
      exact ⟨hhit.stored, hhit.shown, fun b hb hnone => (hhit.sought b hb hnone).imp_right .inl⟩
  | report => exact .of_silent (h.of_eq rfl rfl) fun _ => rfl
  | strides hstrides _ hlyrics =>
    refine (h.strides hstrides).of_silent fun trackId => ?_
    unfold Action.learned
    split
    · exact absurd rfl (hlyrics _ _)
    · rfl

end Versed

/-! ### Runs -/

private theorem latestLyrics_concat (actions : List Action) (action : Action) :
    latestLyrics (actions ++ [action]) = action.updates (latestLyrics actions) := by
  funext trackId
  unfold latestLyrics Action.updates
  rw [List.filterMap_append, List.getLast?_append]
  cases h : action.learned trackId <;> simp [h]

private theorem Failed.concat {config : Config} {actions : List Action} {b : Bind}
    (h : action.misses ((new config).run actions) (Failed config actions) b) :
    Failed config (actions ++ [action]) b := by
  rcases h with ⟨earlier, later, rfl, hb⟩ | ⟨rfl, hb⟩
  · exact ⟨earlier, later ++ [action], by simp, hb⟩
  · exact ⟨actions, [], rfl, hb⟩

private theorem versed_run (config : Config) (actions : List Action) :
    Versed (latestLyrics actions) (Failed config actions) ((new config).run actions) := by
  induction actions using List.reverseRecOn with
  | nil => exact ⟨nofun, nofun, nofun⟩
  | append_singleton actions action ih =>
    have hnext := ih.effect (effect_act _ action)
    rw [run_append, latestLyrics_concat]
    exact ⟨hnext.stored, hnext.shown, fun b hb hnone => (hnext.sought b hb hnone).imp_right Failed.concat⟩

/-- What is under way has been handed out, and not been answered since. -/
private theorem awaited_of_mem_inFlight {config : Config} {actions : List Action} {trackId : String}
    (h : trackId ∈ ((new config).run actions).inFlight) : Awaited config actions trackId := by
  induction actions using List.reverseRecOn with
  | nil => cases h
  | append_singleton actions action ih =>
    rw [run_append] at h
    have hcount := (account_act ((new config).run actions) action).inFlight trackId
    by_cases hhanded : .lyrics trackId ∈ ((new config).run actions).errands action
    · exact ⟨actions, action, [], rfl, hhanded, nofun⟩
    · -- it was under way before, and this is no answer
      rw [List.count_eq_zero.2 hhanded, Nat.add_zero] at hcount
      have hpos := List.count_pos_iff.2 h
      cases hanswers : action.answers trackId with
      | true =>
        rw [hanswers, if_pos rfl] at hcount
        exact absurd hcount (Nat.ne_of_gt hpos)
      | false =>
        rw [hanswers, if_neg Bool.false_ne_true] at hcount
        obtain ⟨earlier, action', later, rfl, hhanded', hlater⟩ := ih (List.count_pos_iff.1 (hcount ▸ hpos))
        refine ⟨earlier, action', later ++ [action], by simp, hhanded', fun a ha => ?_⟩
        rcases List.mem_append.1 ha with ha | ha
        · exact hlater a ha
        · rwa [List.mem_singleton.1 ha]

/-- Lyrics that are shown are those of the loaded track, as they arrived last, wherever they came from.  Where a track
is loaded and none are shown, a fetch for them is under way, or word has come since the bind that there are none. -/
theorem lyrics_shown (config : Config) (actions : List Action) :
    (∀ lyrics, ((new config).run actions).lyrics = some lyrics → ∃ b,
      ((new config).run actions).bound = some b ∧ latestLyrics actions b.track.id = some lyrics) ∧
    (∀ b, ((new config).run actions).bound = some b → ((new config).run actions).lyrics = none →
      (b.track.id ∈ ((new config).run actions).inFlight ∧ Awaited config actions b.track.id) ∨
        Failed config actions b) := by
  have hversed := versed_run config actions
  refine ⟨hversed.shown, fun b hb hnone => ?_⟩
  exact (hversed.sought b hb hnone).imp_left fun hfetching => ⟨hfetching, awaited_of_mem_inFlight hfetching⟩

end Jukebox.Player
