import Mathlib.Data.List.Infix
import Mathlib.Data.List.Nodup
import Mathlib.Data.List.Range
import Jukebox.Proofs.Player.Steps

/-!
# The discipline of streams

What a player asks of the device follows a discipline (`Device.Disciplined`): at most one stream is held at a time,
before a bind every earlier stream has been paused and released, and a released stream is never asked for anything
again.  The requests made so far together with the stream still held form a small grammar (`Device.Orderly`), which
every step of a player continues; the discipline is read off the grammar.
-/

namespace Jukebox.Device

/-- The stream given out by a request to bind. -/
def Call.given : Call → Option Nat
  | .bind handle _ _ => some handle
  | _ => none

/-- The stream of which something is asked. -/
def Call.target : Call → Option Nat
  | .bind .. | .bindFailed _ => none
  | .start h | .startRejected h | .pause h | .release h | .seek h _ | .seekFailed h | .gain h _ => some h

def Call.isBind : Call → Bool
  | .bind .. | .bindFailed _ => true
  | _ => false

/-- The streams given out, in order. -/
def given (calls : List Call) : List Nat := calls.filterMap Call.given

/-- The streams given out and not released. -/
def unreleased (calls : List Call) : List Nat := (given calls).filter fun h => .release h ∉ calls

/-- What is required of the requests to the device.  Each requirement speaks about any point among the requests: the
requests before it, and the one made there. -/
structure Disciplined (calls : List Call) : Prop where
  /-- A handle names one stream. -/
  distinct : (given calls).Nodup
  /-- At most one stream is held at any point. -/
  single : ∀ before, before <+: calls → (unreleased before).length ≤ 1
  /-- Before a bind, granted or not, every earlier stream has been paused and then released. -/
  bind : ∀ before call, before ++ [call] <+: calls → call.isBind = true →
    ∀ h ∈ given before, [.pause h, .release h] <:+: before
  /-- Only a stream that is held is asked for anything. -/
  held : ∀ before call h, before ++ [call] <+: calls → call.target = some h → h ∈ unreleased before
  once : ∀ h, calls.count (.release h) ≤ 1
  /-- Nothing is asked of a released stream. -/
  gone : ∀ before h after, calls = before ++ .release h :: after → ∀ call ∈ after, call.target ≠ some h

/-- The requests made so far, and the stream held after them. -/
inductive Orderly : List Call → Option Nat → Prop where
  | nil : Orderly [] none
  | refuse {calls : List Call} (trackId : String) (h : Orderly calls none) :
      Orderly (calls ++ [.bindFailed trackId]) none
  | bind {calls : List Call} (resource : Nat) (trackId : String) (h : Orderly calls none) :
      Orderly (calls ++ [.bind (given calls).length resource trackId]) (some (given calls).length)
  | use {calls : List Call} {handle : Nat} {call : Call} (h : Orderly calls (some handle))
      (htarget : call.target = some handle) (hkeep : ∀ handle, call ≠ .release handle) :
      Orderly (calls ++ [call]) (some handle)
  | release {calls : List Call} {handle : Nat} (h : Orderly calls (some handle))
      (hpaused : calls.getLast? = some (.pause handle)) : Orderly (calls ++ [.release handle]) none

/-! ### The grammar -/

variable {calls : List Call} {held : Option Nat}

@[simp] theorem given_concat (calls : List Call) (call : Call) :
    given (calls ++ [call]) = given calls ++ call.given.toList := by
  cases h : call.given <;> simp [given, h]

private theorem given_of_target {call : Call} {h : Nat} (htarget : call.target = some h) : call.given = none := by
  cases call <;> first | rfl | cases htarget

private theorem not_isBind_of_target {call : Call} {h : Nat} (htarget : call.target = some h) :
    call.isBind = false := by
  cases call <;> first | rfl | cases htarget

/-- Handles are numbered in the order in which they are given out. -/
private theorem Orderly.given_eq (h : Orderly calls held) : given calls = List.range (given calls).length := by
  induction h with
  | nil => rfl
  | refuse trackId _ ih => simpa [Call.given] using ih
  | bind resource trackId _ ih =>
    simp only [given_concat, Call.given, Option.toList_some, List.length_append, List.length_singleton]
    rw [List.range_succ, ← ih]
  | use _ htarget _ ih => simpa [given_of_target htarget] using ih
  | release _ _ ih => simpa [Call.given] using ih

private theorem Orderly.nodup_given (h : Orderly calls held) : (given calls).Nodup := by
  rw [h.given_eq]
  exact List.nodup_range

theorem Orderly.length_not_mem_given (h : Orderly calls held) : (given calls).length ∉ given calls := by
  intro hmem
  rw [h.given_eq, List.mem_range] at hmem
  simp at hmem

/-- The stream that is held has been given out. -/
private theorem Orderly.held_mem (h : Orderly calls held) : ∀ handle ∈ held, handle ∈ given calls := by
  induction h with
  | nil => simp
  | refuse trackId _ ih => simp
  | bind resource trackId _ ih => simp [Call.given]
  | use _ htarget _ ih => simpa [given_of_target htarget] using ih
  | release _ _ ih => simp

/-- Only what was given out is released. -/
private theorem Orderly.given_of_release (h : Orderly calls held) {handle : Nat} (hrelease : .release handle ∈ calls) :
    handle ∈ given calls := by
  induction h with
  | nil => cases hrelease
  | refuse trackId _ ih => simpa [Call.given] using ih (by simpa using hrelease)
  | bind resource trackId _ ih => simpa using .inl (ih (by simpa using hrelease))
  | use _ htarget hkeep ih =>
    simpa [given_of_target htarget] using ih (by simpa [(hkeep handle).symm] using hrelease)
  | release hopen _ ih =>
    rcases List.mem_append.1 hrelease with hrelease | hrelease
    · simpa [Call.given] using ih hrelease
    · obtain rfl : handle = _ := by simpa using hrelease
      simpa [Call.given] using hopen.held_mem _ rfl

/-- What is not released is the stream that is held. -/
theorem Orderly.unreleased_eq (h : Orderly calls held) : unreleased calls = held.toList := by
  induction h with
  | nil => rfl
  | refuse trackId _ ih => simpa [unreleased, Call.given] using ih
  | @bind calls resource trackId hcalls ih =>
    have hfresh : .release (given calls).length ∉ calls := by
      intro hrelease
      exact hcalls.length_not_mem_given (hcalls.given_of_release hrelease)
    simpa [unreleased, Call.given, hfresh] using ih
  | use _ htarget hkeep ih =>
    simpa [unreleased, given_of_target htarget, (hkeep _).symm] using ih
  | @release calls handle _ _ ih =>
    have hrest : unreleased (calls ++ [.release handle]) = (unreleased calls).filter (· ≠ handle) := by
      simp [unreleased, Call.given, List.filter_filter, Bool.and_comm]
    rw [hrest, ih]
    simp

/-- A stream given out earlier is still held, or has been paused and then released. -/
private theorem Orderly.infix_of_given (h : Orderly calls held) {handle : Nat} (hgiven : handle ∈ given calls) :
    held = some handle ∨ [.pause handle, .release handle] <:+: calls := by
  have hgrow : ∀ {calls : List Call} {call : Call}, [.pause handle, .release handle] <:+: calls →
      [.pause handle, .release handle] <:+: calls ++ [call] := fun hinfix => hinfix.trans (List.infix_append' [] _ _)
  induction h with
  | nil => cases hgiven
  | refuse trackId _ ih =>
    exact .inr (hgrow ((ih (by simpa [Call.given] using hgiven)).resolve_left nofun))
  | bind resource trackId _ ih =>
    rw [given_concat, List.mem_append] at hgiven
    rcases hgiven with hgiven | hgiven
    · exact .inr (hgrow ((ih hgiven).resolve_left nofun))
    · exact .inl (by simpa [Call.given, eq_comm] using hgiven)
  | use _ htarget _ ih => exact (ih (by simpa [given_of_target htarget] using hgiven)).imp_right hgrow
  | @release calls handle' hopen hpaused ih =>
    right
    rcases ih (by simpa [Call.given] using hgiven) with hheld | hinfix
    · obtain rfl := Option.some.inj hheld
      obtain ⟨before, rfl⟩ := List.getLast?_eq_some_iff.1 hpaused
      exact ⟨before, [], by simp⟩
    · exact hgrow hinfix

/-- What the last request says about the stream held before it. -/
private theorem Orderly.of_concat {call : Call} (h : Orderly (calls ++ [call]) held) :
    ∃ before, Orderly calls before ∧ (call.isBind = true → before = none) ∧
      ∀ handle, call.target = some handle → before = some handle := by
  generalize hcalls : calls ++ [call] = all at h
  cases h with
  | nil => simp at hcalls
  | refuse trackId h =>
    obtain ⟨rfl, rfl⟩ := List.append_singleton_inj.1 hcalls
    exact ⟨none, h, fun _ => rfl, nofun⟩
  | bind resource trackId h =>
    obtain ⟨rfl, rfl⟩ := List.append_singleton_inj.1 hcalls
    exact ⟨none, h, fun _ => rfl, nofun⟩
  | use h htarget hkeep =>
    obtain ⟨rfl, rfl⟩ := List.append_singleton_inj.1 hcalls
    refine ⟨_, h, ?_, fun handle hhandle => htarget.symm.trans hhandle⟩
    intro hbind
    rw [not_isBind_of_target htarget] at hbind
    cases hbind
  | release h hpaused =>
    obtain ⟨rfl, rfl⟩ := List.append_singleton_inj.1 hcalls
    exact ⟨_, h, nofun, fun handle hhandle => hhandle⟩

private theorem Orderly.of_prefix {before : List Call} (h : Orderly calls held) (hbefore : before <+: calls) :
    ∃ held', Orderly before held' := by
  obtain ⟨after, rfl⟩ := hbefore
  induction after using List.reverseRecOn generalizing held with
  | nil => exact ⟨held, by simpa using h⟩
  | append_singleton after call ih =>
    rw [← List.append_assoc] at h
    obtain ⟨_, h, -⟩ := h.of_concat
    exact ih h

theorem Orderly.mem_unreleased {before : List Call} {call : Call} {handle : Nat} (h : Orderly calls held)
    (hbefore : before ++ [call] <+: calls) (htarget : call.target = some handle) : handle ∈ unreleased before := by
  obtain ⟨_, hcall⟩ := h.of_prefix hbefore
  obtain ⟨held', hbefore, -, hheld⟩ := hcall.of_concat
  rw [hbefore.unreleased_eq, hheld handle htarget]
  exact List.mem_singleton_self handle

private theorem Orderly.not_released (h : Orderly calls (some handle)) : .release handle ∉ calls := by
  have hmem : handle ∈ unreleased calls := by simp [h.unreleased_eq]
  simpa using (List.mem_filter.1 hmem).2

private theorem Orderly.count_release (h : Orderly calls held) (handle : Nat) : calls.count (.release handle) ≤ 1 := by
  induction h with
  | nil => simp
  | refuse trackId _ ih => simpa using ih
  | bind resource trackId _ ih => simpa using ih
  | use _ _ hkeep ih => simpa [hkeep handle] using ih
  | @release calls handle' hopen _ ih =>
    rw [List.count_append]
    by_cases hsame : handle' = handle
    · subst hsame
      simp [List.count_eq_zero.2 hopen.not_released]
    · simpa [hsame] using ih

private theorem Orderly.disciplined (h : Orderly calls held) : Disciplined calls where
  distinct := h.nodup_given
  single before hbefore := by
    obtain ⟨held', hheld⟩ := h.of_prefix hbefore
    rw [hheld.unreleased_eq]
    cases held' <;> simp
  bind before call hbefore hbind handle hgiven := by
    obtain ⟨_, hcall⟩ := h.of_prefix hbefore
    obtain ⟨held', hbefore, hnone, -⟩ := hcall.of_concat
    rw [hnone hbind] at hbefore
    exact (hbefore.infix_of_given hgiven).resolve_left nofun
  held before call handle hbefore htarget := h.mem_unreleased hbefore htarget
  once := h.count_release
  gone before handle after hsplit call hcall htarget := by
    -- at the later request the stream would still have to be held
    obtain ⟨between, rest, rfl⟩ := List.append_of_mem hcall
    have hprefix : (before ++ .release handle :: between) ++ [call] <+: calls := ⟨rest, by simp [hsplit]⟩
    have hmem := h.mem_unreleased hprefix htarget
    simp [unreleased] at hmem

end Jukebox.Device

namespace Jukebox

/-! ### What the device answers -/

namespace Device

/-- The device after a request of the stream that is held. -/
def Uses (handle : Nat) (d d' : Device) : Prop :=
  ∃ call, call.target = some handle ∧ (∀ handle, call ≠ .release handle) ∧ d'.calls = d.calls ++ [call] ∧
    d'.resources = d.resources

variable (d : Device) (handle : Nat)

theorem uses_start : Uses handle d (d.start handle).1 := by
  unfold start
  dsimp only
  split
  · exact ⟨.startRejected handle, rfl, nofun, rfl, rfl⟩
  · exact ⟨.start handle, rfl, nofun, rfl, rfl⟩

theorem uses_seek (position : Duration) : Uses handle d (d.seek handle position).1 := by
  unfold seek
  dsimp only
  split
  · exact ⟨.seekFailed handle, rfl, nofun, rfl, rfl⟩
  · exact ⟨.seek handle position, rfl, nofun, rfl, rfl⟩

theorem uses_pause : Uses handle d (d.pause handle) := ⟨.pause handle, rfl, nofun, rfl, rfl⟩

theorem uses_setGain (volume : Volume) : Uses handle d (d.setGain handle volume) :=
  ⟨.gain handle volume, rfl, nofun, rfl, rfl⟩

variable {d handle} {d' : Device} {resource : Nat} {trackId : String}

theorem of_bind_ok (h : d.bind resource trackId = (d', .ok handle)) :
    handle = d.resources.length ∧ d'.calls = d.calls ++ [.bind handle resource trackId] ∧
      d'.resources = d.resources ++ [resource] := by
  unfold bind at h
  dsimp only at h
  split at h
  · cases h
  · cases h
    exact ⟨rfl, rfl, rfl⟩

theorem of_bind_error {e : PlaybackError} (h : d.bind resource trackId = (d', .error e)) :
    d'.calls = d.calls ++ [.bindFailed trackId] ∧ d'.resources = d.resources := by
  unfold bind at h
  dsimp only at h
  split at h
  · cases h
    exact ⟨rfl, rfl⟩
  · cases h

end Device

/-! ### The player -/

namespace Player

/-- The requests of a player are orderly, and the stream held is the one of the loaded track. -/
structure Tidy (p : Player) : Prop where
  calls : Device.Orderly p.device.calls p.handle
  resources : p.device.resources.length = (Device.given p.device.calls).length

variable {p p' : Player}

theorem Tidy.congr (h : p.Tidy) (hdevice : p'.device = p.device) (hhandle : p'.handle = p.handle) : p'.Tidy := by
  constructor
  · rw [hdevice, hhandle]
    exact h.calls
  · rw [hdevice]
    exact h.resources

private theorem Tidy.of_transport (h : p.Tidy) (htransport : p'.transport = p.transport) : p'.Tidy :=
  h.congr (device_of_transport htransport) (handle_of_transport htransport)

theorem Tidy.with_queue (h : p.Tidy) (queue : Queue) : Tidy { p with queue := queue } := h.congr rfl rfl

theorem Tidy.use (h : p.Tidy) {handle : Nat} (hhandle : p.handle = some handle) (hhandle' : p'.handle = some handle)
    (huse : Device.Uses handle p.device p'.device) : p'.Tidy := by
  obtain ⟨call, htarget, hkeep, hcalls, hresources⟩ := huse
  have horderly := h.calls
  rw [hhandle] at horderly
  constructor
  · rw [hcalls, hhandle']
    exact horderly.use htarget hkeep
  · rw [hcalls, hresources, h.resources]
    simp [Device.given_of_target htarget]

/-- A stream that is given up has been paused. -/
theorem Tidy.unload (h : p.Tidy) (hdevice : p'.device = p.unload.device) (hloaded : p'.handle = none) : p'.Tidy := by
  have horderly := h.calls
  have hresources := h.resources
  unfold Player.unload at hdevice
  cases hhandle : p.handle with
  | none =>
    rw [hhandle] at hdevice
    exact h.congr hdevice (hloaded.trans hhandle.symm)
  | some handle =>
    rw [hhandle] at hdevice horderly
    have hcalls : p'.device.calls = (p.device.calls ++ [.pause handle]) ++ [.release handle] := by
      rw [hdevice]
      rfl
    have hsame : p'.device.resources = p.device.resources := by
      rw [hdevice]
      rfl
    have hpaused : Device.Orderly (p.device.calls ++ [.pause handle]) (some handle) :=
      horderly.use rfl fun _ hpause => nomatch hpause
    constructor
    · rw [hcalls, hloaded]
      exact hpaused.release List.getLast?_concat
    · rw [hcalls, hsame, hresources, Device.given_concat, Device.given_concat]
      simp [Device.Call.given]

private theorem Tidy.applyGain (h : p.Tidy) : p.applyGain.Tidy := by
  unfold Player.applyGain
  split
  · rename_i handle hhandle
    exact h.use hhandle hhandle (Device.uses_setGain _ _ _)
  · exact h

private theorem Tidy.setVolume (h : p.Tidy) (level : Int) : (p.setVolume level).Tidy := by
  have hvolume : Tidy { p with volume := .ofInt level } := h.congr rfl rfl
  unfold Player.setVolume
  dsimp only
  split
  · exact hvolume.applyGain.congr rfl rfl
  · exact hvolume.applyGain

/-- The device refuses to bind. -/
private theorem Tidy.refuse (h : p.Tidy) (hhandle : p.handle = none) {device : Device} {resource : Nat}
    {trackId : String}
    {e : PlaybackError} (hbind : p.device.bind resource trackId = (device, .error e)) :
    Tidy { p with device := device } := by
  obtain ⟨hcalls, hresources⟩ := Device.of_bind_error hbind
  have horderly := h.calls
  rw [hhandle] at horderly
  constructor
  · show Device.Orderly device.calls p.handle
    rw [hcalls, hhandle]
    exact horderly.refuse trackId
  · show device.resources.length = (Device.given device.calls).length
    rw [hcalls, hresources, h.resources]
    simp [Device.Call.given]

/-- The device binds a stream, which is held from then on. -/
private theorem Tidy.bind (h : p.Tidy) (hhandle : p.handle = none) {device : Device} {resource handle : Nat}
    {trackId : String}
    (hbind : p.device.bind resource trackId = (device, .ok handle)) (hdevice : p'.device = device)
    (hhandle' : p'.handle = some handle) : p'.Tidy := by
  obtain ⟨hfresh, hcalls, hresources⟩ := Device.of_bind_ok hbind
  have horderly := h.calls
  rw [hhandle] at horderly
  rw [h.resources] at hfresh
  constructor
  · rw [hdevice, hhandle', hcalls, hfresh]
    exact horderly.bind resource trackId
  · rw [hdevice, hcalls, hresources, List.length_append, h.resources]
    simp [Device.Call.given]

private theorem Tidy.step (hstep : Step p p') (h : p.Tidy) : p'.Tidy := by
  cases hstep with
  | complain message => exact h.congr rfl rfl
  | enter state _ => exact h.congr (device_setState p state) (handle_setState p state)
  | tint accent => exact h.of_transport (transport_setAccent p accent)
  | observe => exact h.congr rfl rfl
  | halt => exact h.unload (device_stop p) (by simp [Player.handle])
  | load track slot => exact h.unload (device_setState _ _) rfl
  | @refuse l device e hl hhandle hbind => exact h.refuse (by simp [Player.handle, hl, hhandle]) hbind
  | @bind l device handle hl hhandle hbind =>
    have hbound : Tidy { p with device := device, loaded := some { l with handle := some handle } } :=
      h.bind (by simp [Player.handle, hl, hhandle]) hbind rfl rfl
    exact hbound.use rfl rfl (Device.uses_setGain _ _ _)
  | start hh => exact h.use hh hh (Device.uses_start _ _)
  | hush hh => exact h.use hh hh (Device.uses_pause _ _)
  | seek hh position => exact h.use hh hh (Device.uses_seek _ _ position)
  | turn level => exact h.setVolume level
  | place _ position => exact h.congr rfl rfl
  | measure _ duration => exact h.congr rfl rfl
  | replay _ => exact h.congr (device_setState _ _) (handle_setState _ _)
  | arm => exact h.congr (device_armRetry p) (handle_armRetry p)
  | disarm => exact h.congr rfl (handle_disarmRetry p)
  | fetch _ => exact h.of_transport (transport_requestLyrics p _ _)
  | learn trackId lyrics => exact h.of_transport (transport_handleLyrics p trackId lyrics)
  | cover _ _ => exact h.congr rfl rfl
  | schedule _ => exact h.congr rfl rfl
  | report _ _ => exact h.congr rfl rfl
  | arrange binds starts seeks => exact ⟨h.calls, h.resources⟩
  | wait span => exact h.congr rfl rfl

private theorem Tidy.move (hmove : Move p p') (h : p.Tidy) : p'.Tidy := by
  cases hmove with
  | step hstep => exact h.step hstep
  | edit operation => exact h.with_queue _
  | tellQueue => exact h.congr rfl rfl

private theorem tidy_new (config : Config) : (new config).Tidy := ⟨.nil, rfl⟩

theorem Reachable.tidy (h : p.Reachable) : p.Tidy := h.keep tidy_new (fun hp => hp.congr rfl rfl) Tidy.move

/-- Over every run the requests to the device are disciplined, and while nothing is loaded no stream is held. -/
theorem disciplined_run (config : Config) (actions : List Action) :
    Device.Disciplined ((new config).run actions).device.calls ∧
      (((new config).run actions).loaded = none → Device.unreleased ((new config).run actions).device.calls = []) := by
  have h : ((new config).run actions).Tidy := Reachable.tidy ⟨config, actions, rfl⟩
  refine ⟨h.calls.disciplined, ?_⟩
  intro hloaded
  rw [h.calls.unreleased_eq]
  simp [Player.handle, hloaded]

end Player

end Jukebox
