import Hardess.Lib.JsMap
import Hardess.Lib.Machine
import Hardess.Shared.Config

/-!
# The config store

`ModuleConfigStore` of `src/runtime/config/store.ts` as a machine. A load is in flight from the call
of `performReload` to the moment where `reload` continues behind its `await`; a publication awaits
its subscribers one by one.

* `ConfigStoreState.rounds` are the publications that are awaiting a subscriber; a subscriber that
  throws is one whose promise is rejected before anything else happens;
* `unserved` counts the reloads that were requested since the load in flight began, and `lost` those
  that no load followed;
* `lost_eq_zero_iff`: nothing is lost exactly when no request is waiting at the end of a failed load,
  or of a load that a disposed store has still in flight.
-/

namespace Hardess

/-! ### The store -/

/-- What a store is built with, and the number of its subscribers. -/
structure ModuleConfigStore where
  /-- `basename(absolutePath)`. -/
  targetFile : JsString
  exportName : JsString := js "hardessConfig"
  isUrl : JsString → Bool
  listeners : ℕ

/-- `parseConfigModuleExport`, on the exports of a module. -/
def parseConfigModuleExport (isUrl : JsString → Bool) (exportName : JsString)
    (moduleExports : JsMap JsString HardessConfig) : Option HardessConfig :=
  ((moduleExports.get exportName).or (moduleExports.get (js "default"))).bind
    (parseHardessConfig isUrl)

/-- Who awaits a publication. -/
inductive Publisher
  | performReload
  | applyConfig
  deriving DecidableEq

/-- `publishConfig`, awaiting the subscriber at a position; publications are numbered from one. -/
structure PublishRound where
  number : ℕ
  publisher : Publisher
  config : HardessConfig
  awaiting : ℕ

/-- What `reloadInFlight` is. -/
inductive ReloadInFlight
  | loading
  | publishing
  | settled (ok : Bool)
  deriving DecidableEq

/-- A call of a subscriber. -/
structure ListenerCall where
  number : ℕ
  config : HardessConfig

/-- The state of a store. -/
structure ConfigStoreState where
  currentConfig : Option HardessConfig := none
  watching : Bool := false
  disposed : Bool := false
  reloadInFlight : Option ReloadInFlight := none
  reloadQueued : Bool := false
  watchDebounceTimer : Bool := false
  rounds : List PublishRound := []
  /-- The number of publications. -/
  published : ℕ := 0
  /-- The last call of each subscriber. -/
  lastCall : JsMap ℕ ListenerCall := .empty
  /-- The subscribers that have thrown. -/
  threw : List ℕ := []
  unserved : ℕ := 0
  lost : ℕ := 0

/-- What happens to a store. -/
inductive ConfigEvent
  | reload
  | applyConfig (config : HardessConfig)
  /-- The module of the load in flight has been imported; `none`: that threw. -/
  | loaded (moduleExports : Option (JsMap JsString HardessConfig))
  /-- The subscriber that a publication awaits returns, or throws. -/
  | settle (number : ℕ) (ok : Bool)
  /-- `reload` continues after the load in flight. -/
  | resume
  | watch
  | change (filename : Option JsString)
  /-- The debounce timer fires. -/
  | debounced
  | dispose

namespace ModuleConfigStore

variable (store : ModuleConfigStore)

/-- `reload`, up to its first `await`. -/
def reload (s : ConfigStoreState) : ConfigStoreState :=
  if s.reloadInFlight.isSome then { s with reloadQueued := true, unserved := s.unserved + 1 }
  else { s with reloadInFlight := some .loading }

/-- A publication ends. -/
def finish (s : ConfigStoreState) (publisher : Publisher) (ok : Bool) : ConfigStoreState :=
  match publisher with
  | .performReload => { s with reloadInFlight := some (.settled ok) }
  | .applyConfig => s

/-- The loop of `publishConfig`: the subscriber at the position is called, if there is one. -/
def callListener (s : ConfigStoreState) (round : PublishRound) : ConfigStoreState :=
  if round.awaiting < store.listeners then
    { s with
      lastCall := s.lastCall.set round.awaiting ⟨round.number, round.config⟩
      rounds := s.rounds ++ [round] }
  else finish s round.publisher true

/-- `publishConfig`, up to its first `await`. -/
def publishConfig (s : ConfigStoreState) (publisher : Publisher) (config : HardessConfig) :
    ConfigStoreState :=
  store.callListener { s with currentConfig := some config, published := s.published + 1 }
    ⟨s.published + 1, publisher, config, 0⟩

/-- A publication after a subscriber that it awaited. -/
def settle (s : ConfigStoreState) (round : PublishRound) (ok : Bool) : ConfigStoreState :=
  let rest := s.rounds.filter fun other => other.number ≠ round.number
  if ok then
    store.callListener { s with rounds := rest } { round with awaiting := round.awaiting + 1 }
  else finish { s with rounds := rest, threw := round.awaiting :: s.threw } round.publisher false

/-- `applyConfig`, up to its first `await`. -/
def applyConfig (s : ConfigStoreState) (config : HardessConfig) : ConfigStoreState :=
  match parseHardessConfig store.isUrl config with
  | none => s
  | some parsed => store.publishConfig s .applyConfig parsed

/-- `performReload` after the import. -/
def loaded (s : ConfigStoreState) (moduleExports : Option (JsMap JsString HardessConfig)) :
    ConfigStoreState :=
  match moduleExports.bind (parseConfigModuleExport store.isUrl store.exportName) with
  | none => { s with reloadInFlight := some (.settled false) }
  | some config =>
    store.publishConfig { s with reloadInFlight := some .publishing } .performReload config

/-- `reload` after its `await`: the loop goes on, or the `finally` block runs. -/
def resume (s : ConfigStoreState) (ok : Bool) : ConfigStoreState :=
  if ok && s.reloadQueued && !s.disposed then
    { s with reloadQueued := false, reloadInFlight := some .loading, unserved := 0 }
  else { s with reloadInFlight := none, unserved := 0, lost := s.lost + s.unserved }

/-- `scheduleReload`, from the watcher. -/
def scheduleReload (s : ConfigStoreState) (filename : Option JsString) : ConfigStoreState :=
  if filename.any fun changedFile => changedFile ≠ [] && changedFile ≠ store.targetFile then s
  else if s.disposed then s
  else { s with watchDebounceTimer := true }

/-- What an event does. -/
def step (s : ConfigStoreState) : ConfigEvent → ConfigStoreState
  | .reload => reload s
  | .applyConfig config => store.applyConfig s config
  | .loaded moduleExports =>
    if s.reloadInFlight = some .loading then store.loaded s moduleExports else s
  | .settle number ok =>
    match s.rounds.find? fun round => round.number = number with
    | none => s
    | some round => store.settle s round ok
  | .resume =>
    match s.reloadInFlight with
    | some (.settled ok) => resume s ok
    | _ => s
  | .watch => { s with watching := true }
  | .change filename => if s.watching then store.scheduleReload s filename else s
  | .debounced =>
    if s.watchDebounceTimer then reload { s with watchDebounceTimer := false } else s
  | .dispose => { s with watching := false, disposed := true, watchDebounceTimer := false }

/-! ### Requested reloads -/

/-- Requests wait only while a load is in flight, and as long as none was lost the flag says whether
any does. -/
def Queued (s : ConfigStoreState) : Prop :=
  (s.reloadInFlight = none → s.unserved = 0) ∧ (s.lost = 0 → (s.reloadQueued ↔ 0 < s.unserved))

/-- What a step does not change about the requests. -/
structure KeepsRequests (s s' : ConfigStoreState) : Prop where
  queued : s'.reloadQueued = s.reloadQueued
  unserved : s'.unserved = s.unserved
  lost : s'.lost = s.lost
  inFlight : s'.reloadInFlight = none → s.reloadInFlight = none

/-- The condition on a step: `reload` does not end with a request waiting. -/
def NoneWaiting (s : ConfigStoreState) (e : ConfigEvent) : Prop :=
  match e, s.reloadInFlight with
  | .resume, some (.settled ok) => ok = false ∨ s.disposed → s.reloadQueued = false
  | _, _ => True

instance (s : ConfigStoreState) (e : ConfigEvent) : Decidable (NoneWaiting s e) := by
  unfold NoneWaiting
  split <;> infer_instance

variable {store} {s s' : ConfigStoreState}

theorem KeepsRequests.refl (s : ConfigStoreState) : KeepsRequests s s := ⟨rfl, rfl, rfl, id⟩

theorem KeepsRequests.trans {s'' : ConfigStoreState} (h : KeepsRequests s s')
    (h' : KeepsRequests s' s'') : KeepsRequests s s'' where
  queued := h'.queued.trans h.queued
  unserved := h'.unserved.trans h.unserved
  lost := h'.lost.trans h.lost
  inFlight := h.inFlight ∘ h'.inFlight

theorem KeepsRequests.queued_of (h : KeepsRequests s s') (hs : Queued s) : Queued s' := by
  refine ⟨fun hnone => ?_, fun hlost => ?_⟩
  · rw [h.unserved]
    exact hs.1 (h.inFlight hnone)
  · rw [h.queued, h.unserved]
    exact hs.2 (h.lost ▸ hlost)

theorem keepsRequests_finish (s : ConfigStoreState) (publisher : Publisher) (ok : Bool) :
    KeepsRequests s (finish s publisher ok) := by
  cases publisher with
  | performReload => exact ⟨rfl, rfl, rfl, by simp [finish]⟩
  | applyConfig => exact .refl s

theorem keepsRequests_callListener (s : ConfigStoreState) (round : PublishRound) :
    KeepsRequests s (store.callListener s round) := by
  unfold callListener
  split_ifs
  · exact ⟨rfl, rfl, rfl, id⟩
  · exact keepsRequests_finish s _ _

theorem keepsRequests_publishConfig (s : ConfigStoreState) (publisher : Publisher)
    (config : HardessConfig) : KeepsRequests s (store.publishConfig s publisher config) := by
  refine KeepsRequests.trans ?_ (keepsRequests_callListener _ _)
  exact ⟨rfl, rfl, rfl, id⟩

/-- The events that neither request a reload nor let `reload` continue. -/
theorem keepsRequests_step (s : ConfigStoreState) {e : ConfigEvent}
    (he : e ≠ .reload ∧ e ≠ .resume ∧ e ≠ .debounced) : KeepsRequests s (store.step s e) := by
  cases e with
  | reload => exact absurd rfl he.1
  | resume => exact absurd rfl he.2.1
  | debounced => exact absurd rfl he.2.2
  | applyConfig config =>
    simp only [step, applyConfig]
    cases parseHardessConfig store.isUrl config with
    | none => exact .refl s
    | some parsed => exact keepsRequests_publishConfig s _ _
  | loaded moduleExports =>
    simp only [step]
    split_ifs
    · unfold loaded
      cases moduleExports.bind (parseConfigModuleExport store.isUrl store.exportName) with
      | none => exact ⟨rfl, rfl, rfl, by simp⟩
      | some config =>
        refine KeepsRequests.trans ?_ (keepsRequests_publishConfig _ _ _)
        exact ⟨rfl, rfl, rfl, by simp⟩
    · exact .refl s
  | settle number ok =>
    simp only [step]
    cases s.rounds.find? fun round => round.number = number with
    | none => exact .refl s
    | some round =>
      simp only [settle]
      split_ifs
      · refine KeepsRequests.trans ?_ (keepsRequests_callListener _ _)
        exact ⟨rfl, rfl, rfl, id⟩
      · refine KeepsRequests.trans ?_ (keepsRequests_finish _ _ _)
        exact ⟨rfl, rfl, rfl, id⟩
  | watch => exact ⟨rfl, rfl, rfl, id⟩
  | change filename =>
    simp only [step, scheduleReload]
    split_ifs <;> exact ⟨rfl, rfl, rfl, id⟩
  | dispose => exact ⟨rfl, rfl, rfl, id⟩

theorem queued_reload (h : Queued s) : Queued (reload s) := by
  unfold reload
  split_ifs with hflight
  · refine ⟨fun hnone => ?_, fun _ => by simp⟩
    simp only at hnone
    simp [hnone] at hflight
  · have hnone : s.reloadInFlight = none := by simpa using hflight
    exact ⟨fun hsome => by simp at hsome, h.2⟩

theorem queued_resume (h : Queued s) (ok : Bool) : Queued (resume s ok) := by
  unfold resume
  split_ifs with hloop
  · exact ⟨fun _ => rfl, fun _ => by simp⟩
  · refine ⟨fun _ => rfl, fun hlost => ?_⟩
    simp only at hlost ⊢
    have hwaiting := h.2 (by omega)
    rw [hwaiting]
    omega

/-- **The requests** after every step. -/
theorem queued_step (h : Queued s) (e : ConfigEvent) : Queued (store.step s e) := by
  cases e with
  | reload => exact queued_reload h
  | debounced =>
    simp only [step]
    split_ifs
    · exact queued_reload (KeepsRequests.queued_of ⟨rfl, rfl, rfl, id⟩ h)
    · exact h
  | resume =>
    simp only [step]
    split
    · exact queued_resume h _
    · exact h
  | applyConfig config => exact (keepsRequests_step s (by simp)).queued_of h
  | loaded moduleExports => exact (keepsRequests_step s (by simp)).queued_of h
  | settle number ok => exact (keepsRequests_step s (by simp)).queued_of h
  | watch => exact (keepsRequests_step s (by simp)).queued_of h
  | change filename => exact (keepsRequests_step s (by simp)).queued_of h
  | dispose => exact (keepsRequests_step s (by simp)).queued_of h

theorem lost_reload (s : ConfigStoreState) : (reload s).lost = s.lost := by
  unfold reload
  split_ifs <;> rfl

/-- `reload` loses nothing when it continues exactly when it goes on or nothing waits. -/
theorem lost_resume_iff (h : Queued s) (ok : Bool) :
    (resume s ok).lost = 0 ↔
      s.lost = 0 ∧ (ok = false ∨ s.disposed → s.reloadQueued = false) := by
  unfold resume
  split_ifs with hloop
  · simp only [Bool.and_eq_true, Bool.not_eq_true'] at hloop
    obtain ⟨⟨rfl, -⟩, hdisposed⟩ := hloop
    simp [hdisposed]
  · have hends : s.reloadQueued → ok = false ∨ s.disposed := by
      intro hqueued
      simp only [hqueued, Bool.and_true, Bool.and_eq_true, Bool.not_eq_true', not_and,
        Bool.not_eq_false] at hloop
      cases ok with
      | false => exact .inl rfl
      | true => exact .inr (hloop rfl)
    constructor
    · intro hlost
      simp only at hlost
      have hwaiting := h.2 (by omega)
      have hqueued : ¬s.reloadQueued := by
        rw [hwaiting]
        omega
      exact ⟨by omega, fun _ => by simpa using hqueued⟩
    · rintro ⟨hlost, hnone⟩
      have hqueued : ¬s.reloadQueued := fun hq => by simp [hnone (hends hq)] at hq
      rw [h.2 hlost] at hqueued
      simp only
      omega

/-- **When one step loses a request.** -/
theorem lost_step_iff (h : Queued s) (e : ConfigEvent) :
    (store.step s e).lost = 0 ↔ s.lost = 0 ∧ NoneWaiting s e := by
  -- only a `resume` can lose requests
  have hkept : ∀ e, (store.step s e).lost = s.lost → NoneWaiting s e →
      ((store.step s e).lost = 0 ↔ s.lost = 0 ∧ NoneWaiting s e) := by
    intro e heq hwaiting
    rw [heq]
    exact ⟨fun hlost => ⟨hlost, hwaiting⟩, And.left⟩
  cases e with
  | resume =>
    simp only [step, NoneWaiting]
    cases hflight : s.reloadInFlight with
    | none => simp
    | some flight =>
      cases flight with
      | settled ok => exact lost_resume_iff h ok
      | loading => simp
      | publishing => simp
  | reload => exact hkept _ (lost_reload s) trivial
  | debounced =>
    refine hkept _ ?_ trivial
    simp only [step]
    split_ifs
    · exact lost_reload _
    · rfl
  | applyConfig config => exact hkept _ (keepsRequests_step s (by simp)).lost trivial
  | loaded moduleExports => exact hkept _ (keepsRequests_step s (by simp)).lost trivial
  | settle number ok => exact hkept _ (keepsRequests_step s (by simp)).lost trivial
  | watch => exact hkept _ (keepsRequests_step s (by simp)).lost trivial
  | change filename => exact hkept _ (keepsRequests_step s (by simp)).lost trivial
  | dispose => exact hkept _ (keepsRequests_step s (by simp)).lost trivial

variable (store) in
/-- **No requested reload is lost** in a run exactly when `reload` never ends with a request
waiting: none behind a load that failed, and none behind one that a disposed store has in flight. -/
theorem lost_eq_zero_iff (es : List ConfigEvent) :
    (Machine.run store.step {} es).lost = 0 ↔ Machine.Along store.step NoneWaiting {} es := by
  have hstart : Queued {} := ⟨fun _ => rfl, fun _ => by simp⟩
  have hqueued : ∀ s e, Queued s → Queued (store.step s e) := fun _ e hs => queued_step hs e
  have hrun := Machine.run_iff_along (P := fun s => s.lost = 0) hstart hqueued
    (fun _ e hs => lost_step_iff hs e) es
  simpa using hrun

/-- A store of `hardess.config.ts` with some subscribers. -/
def simple (listeners : ℕ) : ModuleConfigStore where
  targetFile := js "hardess.config.ts"
  isUrl _ := true
  listeners

/-- The reload behind a load that fails is not performed. -/
theorem lost_failedLoad : ¬∀ (store : ModuleConfigStore) (es : List ConfigEvent),
    (Machine.run store.step {} es).lost = 0 := by
  intro h
  have hlost := h (simple 0) [.reload, .reload, .loaded none, .resume]
  revert hlost
  decide

end ModuleConfigStore

end Hardess
