import Hardess.Config.ModuleConfigStore

/-!
# Subscribers of the config store

A publication sets the current configuration and then awaits its subscribers one by one, so two
publications may overtake each other.

* `Told`: a subscriber knows the current configuration, or the newest publication has still to call
  it;
* `Orderly`: an older publication calls no subscriber that the newest one has called, and what throws
  in the newest one has nobody behind it who has not thrown;
* `allCurrent_run`: in an orderly run every subscriber that has not thrown ends up with the
  current configuration.
-/

namespace Hardess

namespace ModuleConfigStore

variable (store : ModuleConfigStore)

/-! ### The invariant -/

/-- Where the newest publication stands with a subscriber that has not thrown. -/
def Told (s : ConfigStoreState) (j : ℕ) : Prop :=
  (∃ call ∈ s.lastCall.get j, call.number = s.published) ∨
    ∃ round ∈ s.rounds, round.number = s.published ∧ round.awaiting < j

/-- What holds of the publications. -/
structure Publishing (s : ConfigStoreState) : Prop where
  /-- The publications that are awaiting a subscriber have numbers of their own. -/
  nodup : (s.rounds.map (·.number)).Nodup
  number_le : ∀ round ∈ s.rounds, round.number ≤ s.published
  config : ∀ round ∈ s.rounds, round.number = s.published → s.currentConfig = some round.config
  call_le : ∀ j, ∀ call ∈ s.lastCall.get j, call.number ≤ s.published
  call_config : ∀ j, ∀ call ∈ s.lastCall.get j, call.number = s.published →
    s.currentConfig = some call.config
  told : 0 < s.published → ∀ j < store.listeners, j ∉ s.threw → Told s j
  unpublished : s.published = 0 →
    s.rounds = [] ∧ s.currentConfig = none ∧ ∀ j, s.lastCall.get j = none

/-- What holds just before a publication calls the subscriber at its position. -/
structure Calling (s : ConfigStoreState) (round : PublishRound) : Prop where
  published_pos : 0 < s.published
  nodup : (s.rounds.map (·.number)).Nodup
  notMem : round.number ∉ s.rounds.map (·.number)
  number_le : ∀ other ∈ s.rounds, other.number ≤ s.published
  round_le : round.number ≤ s.published
  config : ∀ other ∈ s.rounds, other.number = s.published → s.currentConfig = some other.config
  round_config : round.number = s.published → s.currentConfig = some round.config
  call_le : ∀ j, ∀ call ∈ s.lastCall.get j, call.number ≤ s.published
  call_config : ∀ j, ∀ call ∈ s.lastCall.get j, call.number = s.published →
    s.currentConfig = some call.config
  told : ∀ j < store.listeners, j ∉ s.threw →
    Told s j ∨ round.number = s.published ∧ round.awaiting ≤ j
  /-- An older publication does not undo what the newest one told. -/
  older : round.number ≠ s.published →
    ∀ call ∈ s.lastCall.get round.awaiting, call.number ≠ s.published

/-- The condition on a step. -/
def Orderly (s : ConfigStoreState) : ConfigEvent → Prop
  | .settle number ok => ∀ round ∈ s.rounds, round.number = number →
    (ok → number ≠ s.published →
        ∀ call ∈ s.lastCall.get (round.awaiting + 1), call.number ≠ s.published) ∧
      (¬ok → number = s.published → ∀ j < store.listeners, round.awaiting < j → j ∈ s.threw)
  | _ => True

instance (s : ConfigStoreState) (e : ConfigEvent) : Decidable (store.Orderly s e) := by
  unfold Orderly
  cases e <;> infer_instance

/-- All calls have settled. -/
def Quiet (s : ConfigStoreState) : Prop := s.rounds = [] ∧ s.reloadInFlight = none

instance (s : ConfigStoreState) : Decidable (Quiet s) := by
  unfold Quiet
  cases s.rounds <;> infer_instance

/-! ### Steps -/

variable {store} {s s' : ConfigStoreState}

/-- Two states with the same publications. -/
structure SamePublications (s s' : ConfigStoreState) : Prop where
  rounds : s'.rounds = s.rounds
  published : s'.published = s.published
  lastCall : s'.lastCall = s.lastCall
  threw : s'.threw = s.threw
  currentConfig : s'.currentConfig = s.currentConfig

theorem Publishing.of_same (hs : store.Publishing s) (h : SamePublications s s') :
    store.Publishing s' := by
  obtain ⟨hrounds, hpublished, hlast, hthrew, hconfig⟩ := h
  constructor <;> simp only [Told, hrounds, hpublished, hlast, hthrew, hconfig]
  · exact hs.nodup
  · exact hs.number_le
  · exact hs.config
  · exact hs.call_le
  · exact hs.call_config
  · exact hs.told
  · exact hs.unpublished

theorem samePublications_finish (s : ConfigStoreState) (publisher : Publisher) (ok : Bool) :
    SamePublications s (finish s publisher ok) := by
  cases publisher <;> exact ⟨rfl, rfl, rfl, rfl, rfl⟩

theorem samePublications_reload (s : ConfigStoreState) : SamePublications s (reload s) := by
  unfold reload
  split_ifs <;> exact ⟨rfl, rfl, rfl, rfl, rfl⟩

theorem samePublications_resume (s : ConfigStoreState) (ok : Bool) :
    SamePublications s (resume s ok) := by
  unfold resume
  split_ifs <;> exact ⟨rfl, rfl, rfl, rfl, rfl⟩

/-- What was known of a subscriber stays known while others are called. -/
theorem Told.call {j : ℕ} {round : PublishRound} (h : Told s j) (hj : j ≠ round.awaiting) :
    Told { s with
      lastCall := s.lastCall.set round.awaiting ⟨round.number, round.config⟩
      rounds := s.rounds ++ [round] } j := by
  obtain ⟨call, hcall, hnumber⟩ | ⟨other, hother, hnewest⟩ := h
  · refine .inl ⟨call, ?_, hnumber⟩
    rw [Option.mem_def, JsMap.get_set_of_ne _ hj]
    exact hcall
  · exact .inr ⟨other, List.mem_append_left _ hother, hnewest⟩

/-- **The subscriber at the position is called.** -/
theorem publishing_callListener {round : PublishRound} (h : store.Calling s round) :
    store.Publishing (store.callListener s round) := by
  unfold callListener
  split_ifs with hlt
  · refine ⟨?_, ?_, ?_, ?_, ?_, ?_, fun hzero => absurd hzero h.published_pos.ne'⟩
    · rw [List.map_append, List.map_singleton, ← List.concat_eq_append]
      exact h.nodup.concat h.notMem
    · intro other hother
      obtain hother | hother := List.mem_append.1 hother
      · exact h.number_le other hother
      · obtain rfl := List.mem_singleton.1 hother
        exact h.round_le
    · intro other hother
      obtain hother | hother := List.mem_append.1 hother
      · exact h.config other hother
      · obtain rfl := List.mem_singleton.1 hother
        exact h.round_config
    · intro j call hcall
      simp only [Option.mem_def, JsMap.get_set] at hcall
      split_ifs at hcall with hj
      · obtain rfl := Option.some.inj hcall
        exact h.round_le
      · exact h.call_le j call hcall
    · intro j call hcall
      simp only [Option.mem_def, JsMap.get_set] at hcall
      split_ifs at hcall with hj
      · obtain rfl := Option.some.inj hcall
        exact h.round_config
      · exact h.call_config j call hcall
    · intro _ j hj hthrew
      -- the subscriber that is called now, or one that was called before or will be
      by_cases hposition : j = round.awaiting
      · subst hposition
        by_cases hnewest : round.number = s.published
        · exact .inl ⟨_, JsMap.get_set_self _ _ _, hnewest⟩
        · -- an older publication: the newest one has still to come
          obtain hcalled | ⟨other, hother, hlast⟩ :=
            (h.told _ hj hthrew).resolve_right fun hr => hnewest hr.1
          · obtain ⟨call, hcall, hnumber⟩ := hcalled
            exact absurd hnumber (h.older hnewest call hcall)
          · exact .inr ⟨other, List.mem_append_left _ hother, hlast⟩
      · -- it has been told already, or this round still comes to it
        obtain htold | ⟨hnewest, hle⟩ := h.told j hj hthrew
        · exact htold.call hposition
        · exact .inr ⟨round, by simp, hnewest, by omega⟩
  · -- no subscriber is left
    refine Publishing.of_same ?_ (samePublications_finish s _ _)
    refine ⟨h.nodup, h.number_le, h.config, h.call_le, h.call_config, ?_,
      fun hzero => absurd hzero h.published_pos.ne'⟩
    intro _ j hj hthrew
    exact (h.told j hj hthrew).resolve_right fun hr => by omega

/-- **A new publication.** -/
theorem publishing_publishConfig (h : store.Publishing s) (publisher : Publisher)
    (config : HardessConfig) : store.Publishing (store.publishConfig s publisher config) := by
  refine publishing_callListener ?_
  refine ⟨Nat.succ_pos _, h.nodup, ?_, ?_, le_rfl, ?_, fun _ => rfl, ?_, ?_, ?_, ?_⟩
  · intro hmem
    obtain ⟨other, hother, hnumber⟩ := List.mem_map.1 hmem
    have hle := h.number_le other hother
    simp only at hnumber
    omega
  · exact fun other hother => (h.number_le other hother).trans (Nat.le_succ _)
  · intro other hother hnumber
    have hle := h.number_le other hother
    simp only at hnumber
    omega
  · exact fun j call hcall => (h.call_le j call hcall).trans (Nat.le_succ _)
  · intro j call hcall hnumber
    have hle := h.call_le j call hcall
    simp only at hnumber
    omega
  · exact fun j _ _ => .inr ⟨rfl, Nat.zero_le j⟩
  · exact fun hne => absurd rfl hne

/-- **A subscriber returns or throws.** -/
theorem publishing_settle (h : store.Publishing s) {round : PublishRound} (hround : round ∈ s.rounds)
    {ok : Bool} (horderly : store.Orderly s (.settle round.number ok)) :
    store.Publishing (store.settle s round ok) := by
  obtain ⟨holder, hlast⟩ := horderly round hround rfl
  have hpos : 0 < s.published := by
    by_contra hzero
    have hnone := (h.unpublished (by omega)).1
    simp [hnone] at hround
  -- the publications that are left
  have hrest : ∀ other ∈ s.rounds.filter fun other => other.number ≠ round.number,
      other ∈ s.rounds := fun other hother => (List.mem_filter.1 hother).1
  have hnodup : ((s.rounds.filter fun other => other.number ≠ round.number).map
      (·.number)).Nodup := h.nodup.sublist (List.filter_sublist.map _)
  have hleft : ∀ j, j < store.listeners → j ∉ s.threw →
      Told { s with rounds := s.rounds.filter fun other => other.number ≠ round.number } j ∨
        round.number = s.published ∧ round.awaiting < j := by
    intro j hj hthrew
    obtain hcalled | ⟨other, hother, hnewest, hlt⟩ := h.told hpos j hj hthrew
    · exact .inl (.inl hcalled)
    · by_cases hsame : other.number = round.number
      · obtain rfl := List.inj_on_of_nodup_map h.nodup hother hround hsame
        exact .inr ⟨hnewest, hlt⟩
      · exact .inl (.inr ⟨other, List.mem_filter.2 ⟨hother, by simpa using hsame⟩, hnewest, hlt⟩)
  simp only [settle]
  split_ifs with hok
  · refine publishing_callListener ?_
    refine ⟨hpos, hnodup, ?_, fun other hother => h.number_le other (hrest other hother),
      h.number_le round hround, fun other hother => h.config other (hrest other hother),
      h.config round hround, h.call_le, h.call_config, ?_, holder hok⟩
    · intro hmem
      obtain ⟨other, hother, hnumber⟩ := List.mem_map.1 hmem
      simpa [hnumber] using (List.mem_filter.1 hother).2
    · intro j hj hthrew
      exact (hleft j hj hthrew).imp_right fun hr => ⟨hr.1, hr.2⟩
  · refine Publishing.of_same ?_ (samePublications_finish _ _ _)
    refine ⟨hnodup, fun other hother => h.number_le other (hrest other hother),
      fun other hother => h.config other (hrest other hother), h.call_le, h.call_config, ?_,
      fun hzero => absurd hzero hpos.ne'⟩
    intro _ j hj hthrew
    rw [List.mem_cons, not_or] at hthrew
    refine (hleft j hj hthrew.2).resolve_right ?_
    rintro ⟨hnewest, hlt⟩
    exact hthrew.2 (hlast hok hnewest j hj hlt)

/-- The publications after an orderly step. -/
theorem publishing_step (h : store.Publishing s) {e : ConfigEvent} (he : store.Orderly s e) :
    store.Publishing (store.step s e) := by
  cases e with
  | reload => exact h.of_same (samePublications_reload s)
  | applyConfig config =>
    simp only [step, applyConfig]
    cases parseHardessConfig store.isUrl config with
    | none => exact h
    | some parsed => exact publishing_publishConfig h _ _
  | loaded moduleExports =>
    simp only [step]
    split_ifs
    · unfold loaded
      cases moduleExports.bind (parseConfigModuleExport store.isUrl store.exportName) with
      | none => exact h.of_same ⟨rfl, rfl, rfl, rfl, rfl⟩
      | some config =>
        -- the flag of the reload is no part of the publications
        have hflight : store.Publishing { s with reloadInFlight := some .publishing } :=
          h.of_same ⟨rfl, rfl, rfl, rfl, rfl⟩
        exact publishing_publishConfig hflight _ _
    · exact h
  | settle number ok =>
    simp only [step]
    cases hfind : s.rounds.find? fun round => round.number = number with
    | none => exact h
    | some round =>
      obtain rfl : round.number = number := by simpa using List.find?_some hfind
      exact publishing_settle h (List.mem_of_find?_eq_some hfind) he
  | resume =>
    simp only [step]
    split
    · exact h.of_same (samePublications_resume s _)
    · exact h
  | watch => exact h.of_same ⟨rfl, rfl, rfl, rfl, rfl⟩
  | change filename =>
    refine h.of_same ?_
    simp only [step, scheduleReload]
    split_ifs <;> exact ⟨rfl, rfl, rfl, rfl, rfl⟩
  | debounced =>
    simp only [step]
    split_ifs
    · have hfired : store.Publishing { s with watchDebounceTimer := false } :=
        h.of_same ⟨rfl, rfl, rfl, rfl, rfl⟩
      exact hfired.of_same (samePublications_reload _)
    · exact h
  | dispose => exact h.of_same ⟨rfl, rfl, rfl, rfl, rfl⟩

/-! ### Runs -/

variable (store) in
/-- Every subscriber that has not thrown was last called with what `getConfig` returns. -/
def AllCurrent (s : ConfigStoreState) : Prop :=
  ∀ j < store.listeners, j ∉ s.threw → (s.lastCall.get j).map (·.config) = s.currentConfig

/-- **Subscribers end up with the live configuration** in every orderly run, once all calls have
settled. -/
theorem allCurrent_run {es : List ConfigEvent}
    (h : Machine.Along store.step store.Orderly {} es)
    (hquiet : Quiet (Machine.run store.step {} es)) :
    store.AllCurrent (Machine.run store.step {} es) := by
  have hstart : store.Publishing {} := by
    refine ⟨by simp, ?_, ?_, ?_, ?_, ?_, fun _ => ⟨rfl, rfl, fun _ => rfl⟩⟩ <;> simp
  have hrun := h.invariant hstart fun _ _ hs he => publishing_step hs he
  intro j hj hthrew
  by_cases hzero : (Machine.run store.step {} es).published = 0
  · obtain ⟨-, hconfig, hnone⟩ := hrun.unpublished hzero
    rw [hconfig, hnone j, Option.map_none]
  · obtain ⟨call, hcall, hnumber⟩ | ⟨round, hround, -⟩ :=
      hrun.told (Nat.pos_of_ne_zero hzero) j hj hthrew
    · rw [hrun.call_config j call hcall hnumber, Option.mem_def.1 hcall, Option.map_some]
    · simp [hquiet.1] at hround

/-- A configuration with one pipeline. -/
def onePipeline : HardessConfig where
  pipelines :=
    [{ id := js "p", matchPrefix := js "/p"
       downstream :=
        { origin := js "http://a", connectTimeoutMs := .ofNat 1000
          responseTimeoutMs := .ofNat 1000 } }]

/-- Two publications, one after the other. -/
theorem allCurrent_inTurn :
    (simple 2).AllCurrent (Machine.run (simple 2).step {}
      [.applyConfig ⟨[]⟩, .settle 1 true, .settle 1 true,
        .applyConfig onePipeline, .settle 2 true, .settle 2 true]) :=
  allCurrent_run (by decide +kernel) (by decide +kernel)

/-- Two publications that overlap: the second subscriber is told the older one last. -/
theorem not_allCurrent_overlapping : ¬∀ (store : ModuleConfigStore) (es : List ConfigEvent),
    Quiet (Machine.run store.step {} es) → store.AllCurrent (Machine.run store.step {} es) := by
  intro h
  have hcurrent := h (simple 2)
    [.applyConfig ⟨[]⟩, .applyConfig onePipeline, .settle 2 true, .settle 2 true,
      .settle 1 true, .settle 1 true] (by decide +kernel) 1 (by decide) (by decide +kernel)
  -- compare the numbers of pipelines
  have hlengths := congrArg (Option.map fun config => config.pipelines.length) hcurrent
  revert hlengths
  decide +kernel

end ModuleConfigStore

end Hardess
