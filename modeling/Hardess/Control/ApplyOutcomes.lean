import Hardess.Control.RegistryEdits
import Hardess.Control.RuntimeHostAdapter
import Hardess.Control.ServiceModuleRuns

/-!
# Applying a desired state: all or nothing

`applyDesiredHostState` writes the registry, the trust, the configuration and the topology
one after another, and undoes nothing when a later step rejects.

* `failsAt` is the step at which a call rejects;
* `Rewrites` says, from the call and the adapter before it, that a store is given what it holds; for
  the registry it speaks of the edits of the modules up to the first action that is taken;
* `RuntimeHostAdapter.allOrNothing_iff` combines the two.
-/

namespace Hardess

open KeyEdits (Restores executed)

variable {η : Type}

@[simp] theorem toBool_ok {ε α : Type*} (a : α) : (Except.ok a : Except ε α).toBool = true := rfl

@[simp] theorem toBool_error {ε α : Type*} (e : ε) : (Except.error e : Except ε α).toBool = false :=
  rfl

@[simp] theorem toBool_map {ε α β : Type*} (f : α → β) (x : Except ε α) :
    (x.map f).toBool = x.toBool := by
  cases x <;> rfl

/-- The steps of `applyDesiredHostState` that can reject. -/
inductive ApplyStep
  | buildConfig
  | prepareModules
  | registerModules
  | parseConfig
  | configListeners
  | topologyListeners
  deriving DecidableEq

/-- What `applyDesiredHostState` writes to. -/
inductive Store
  | registry
  | trust
  | config
  | topology
  deriving DecidableEq

/-- The stores that have been written when a step is reached. -/
def ApplyStep.writtenBefore : ApplyStep → List Store
  | .buildConfig | .prepareModules => []
  | .registerModules => [.registry]
  | .parseConfig => [.registry, .trust]
  | .configListeners => [.registry, .trust, .config]
  | .topologyListeners => [.registry, .trust, .config, .topology]

namespace RuntimeHostAdapter

variable (platform : AdapterPlatform) (options : RuntimeHostAdapterOptions)
  (adapter : RuntimeHostAdapter η) (call : ApplyCall η)

/-- The arguments of the call of `applyAssignments`. -/
def applyInput (states : AssignmentStates) : ServiceModuleManager.ApplyInput η where
  attempts := call.serviceAttempts
  assignmentStates := states
  revisionGenerationId := call.revisionGenerationId
  previousAssignmentStates := some adapter.assignmentStates
  now := call.now

/-- The call of `prepareAssignments`, if there is a manager. -/
def prepareModules (states : AssignmentStates) :
    AssignmentStates × Except JsString (List (NextModule η)) :=
  if options.managesServiceModules then
    prepareAssignments platform.computeDigest call.now call.serviceAttempts .empty states
  else (states, .ok [])

/-- The step that rejects when `pipelines` have been built. -/
def failsAfterBuild (states : AssignmentStates) (pipelines : List PipelineConfig) :
    Option ApplyStep :=
  if (prepareModules platform options call states).2.isOk = false then some .prepareModules
  else if (adapter.applyModules platform options call states).2.2.isOk = false then
    some .registerModules
  else if (parseHardessConfig platform.isUrl ⟨pipelines⟩).isNone then some .parseConfig
  else if call.configListenersReturn = false then some .configListeners
  else if call.topologyListenersReturn = false then some .topologyListeners
  else none

/-- The step at which a call rejects. -/
def failsAt : Option ApplyStep :=
  match buildConfig options call with
  | (_, .error _) => some .buildConfig
  | (states, .ok pipelines) => adapter.failsAfterBuild platform options call states pipelines

/-- The configuration that is built. -/
def builtConfig : HardessConfig := ⟨((buildConfig options call).2.toOption).getD []⟩

/-- Two registries with the same hooks. -/
def SameHooks (a b : ServerProtocolRegistry η) : Prop := ∀ key, a.actions.get key = b.actions.get key

/-- What the call writes to a store is what the store holds: the last edit of every key of the
registry that takes place gives the key the hooks it has, and the trust, the configuration and the
topology of the desired state are the live ones. -/
def Rewrites : Store → Prop
  | .registry => options.managesServiceModules = true →
    ∀ ms ∈ modulesOf platform.computeDigest call.serviceAttempts,
      Restores adapter.manager.registry.actions.get
        (executed adapter.manager.registry.actions.get
          (adapter.manager.edits options.drains call.now call.revisionGenerationId
            (some adapter.assignmentStates) ms))
  | .trust => applyRuntimeAuthTrust call.desired.runtimeAuthTrust = adapter.trust
  | .config => (buildConfig options call).2 = .ok adapter.config.pipelines
  | .topology => call.desired.topology = adapter.topology

/-- A call that rejects leaves the four stores as they were. -/
def AllOrNothing : Prop :=
  let (after, resolves) := adapter.applyDesiredHostState platform options call
  resolves = false →
    SameHooks after.manager.registry adapter.manager.registry ∧ after.trust = adapter.trust ∧
      after.config = adapter.config ∧ after.topology = adapter.topology

/-! ### What a call leaves -/

/-- The manager when the modules have been applied. -/
def appliedManager : ServiceModuleManager η :=
  (adapter.applyModules platform options call (buildConfig options call).1).1

/-- The adapter when a call rejects at a step. -/
def stoppedAt : ApplyStep → RuntimeHostAdapter η
  | .buildConfig | .prepareModules => adapter
  | .registerModules => { adapter with manager := adapter.appliedManager platform options call }
  | .parseConfig =>
    { adapter with
      manager := adapter.appliedManager platform options call
      trust := applyRuntimeAuthTrust call.desired.runtimeAuthTrust }
  | .configListeners =>
    { adapter with
      manager := adapter.appliedManager platform options call
      trust := applyRuntimeAuthTrust call.desired.runtimeAuthTrust
      config := builtConfig options call }
  | .topologyListeners =>
    { adapter with
      manager := adapter.appliedManager platform options call
      trust := applyRuntimeAuthTrust call.desired.runtimeAuthTrust
      config := builtConfig options call
      topology := call.desired.topology }

/-- The adapter when a call resolves. -/
def resolved : RuntimeHostAdapter η where
  manager := adapter.appliedManager platform options call
  trust := applyRuntimeAuthTrust call.desired.runtimeAuthTrust
  config := builtConfig options call
  topology := call.desired.topology
  lastDesired := some call.desired
  assignmentStates := activateStates call.now
    (adapter.applyModules platform options call (buildConfig options call).1).2.1

variable {platform options adapter call}

/-- With a manager the modules fail to be prepared and nothing changes, or they are applied. -/
theorem applyModules_cases (hm : options.managesServiceModules = true)
    (adapter : RuntimeHostAdapter η) (call : ApplyCall η) (states : AssignmentStates) :
    (∃ states' message,
      prepareModules platform options call states = (states', .error message) ∧
      adapter.applyModules platform options call states =
        (adapter.manager, states', .error message)) ∨
    ∃ ms, prepareModules platform options call states = (states, .ok ms) ∧
      modulesOf platform.computeDigest call.serviceAttempts = some ms ∧
      adapter.applyModules platform options call states =
        adapter.manager.applyPrepared options.drains (adapter.applyInput call states) states
          ms := by
  unfold prepareModules applyModules
  rw [if_pos hm, if_pos hm]
  exact adapter.manager.applyAssignments_cases options.drains (adapter.applyInput call states)

/-- A preparation that fails leaves the manager alone. -/
theorem applyModules_of_prepare {states : AssignmentStates}
    (h : (prepareModules platform options call states).2.isOk = false) :
    (adapter.applyModules platform options call states).1 = adapter.manager ∧
      (adapter.applyModules platform options call states).2.2.isOk = false := by
  by_cases hm : options.managesServiceModules = true
  · obtain ⟨states', message, -, hfails⟩ | ⟨ms, hprepare, -, -⟩ :=
      @applyModules_cases _ platform _ hm adapter call states
    · rw [hfails]
      exact ⟨rfl, rfl⟩
    · rw [hprepare] at h
      cases h
  · rw [prepareModules, if_neg hm] at h
    cases h

/-- What `applyDesiredHostState` does, by the step at which it rejects. -/
theorem applyDesiredHostState_eq :
    adapter.applyDesiredHostState platform options call =
      ((adapter.failsAt platform options call).elim (adapter.resolved platform options call)
          (adapter.stoppedAt platform options call),
        (adapter.failsAt platform options call).isNone) := by
  unfold applyDesiredHostState failsAt
  unfold resolved stoppedAt appliedManager builtConfig
  cases hb : buildConfig options call with
  | mk states result =>
    cases result with
    | error message => rfl
    | ok pipelines =>
      simp only [failsAfterBuild]
      by_cases hp : (prepareModules platform options call states).2.isOk = false
      · -- nothing is registered when a module cannot be prepared
        have hunchanged : (adapter.applyModules platform options call states).1 = adapter.manager ∧
            (adapter.applyModules platform options call states).2.2.isOk = false :=
          applyModules_of_prepare hp
        obtain ⟨hmanager, hfails⟩ := hunchanged
        cases hm : adapter.applyModules platform options call states with
        | mk manager rest =>
          obtain ⟨states', modules⟩ := rest
          rw [hm] at hmanager hfails
          cases modules with
          | ok _ => cases hfails
          | error message =>
            obtain rfl : manager = adapter.manager := hmanager
            simp [hp]
      · cases hm : adapter.applyModules platform options call states with
        | mk manager rest =>
          obtain ⟨states', modules⟩ := rest
          cases modules with
          | error message => simp [hp]
          | ok _ =>
            unfold parseHardessConfig
            by_cases hparse : pipelines.all (·.accepted platform.isUrl) <;>
              cases hc : call.configListenersReturn <;>
              cases ht : call.topologyListenersReturn <;>
              simp [hp, hparse, Except.toOption]

theorem SameHooks.refl (registry : ServerProtocolRegistry η) : SameHooks registry registry :=
  fun _ => rfl

/-- A call that rejects later has built a configuration. -/
theorem builtConfig_eq_iff (h : adapter.failsAt platform options call ≠ some .buildConfig)
    (config : HardessConfig) :
    builtConfig options call = config ↔ (buildConfig options call).2 = .ok config.pipelines := by
  unfold failsAt at h
  unfold builtConfig
  cases hb : buildConfig options call with
  | mk states result =>
    cases result with
    | error message => simp [hb] at h
    | ok pipelines =>
      obtain ⟨live⟩ := config
      simp [Except.toOption]

/-- A call that rejects after the preparation of its modules has prepared them. -/
theorem isOk_prepareModules {step : ApplyStep}
    (h : adapter.failsAt platform options call = some step) (hb : step ≠ .buildConfig)
    (hp : step ≠ .prepareModules) :
    (prepareModules platform options call (buildConfig options call).1).2.isOk = true := by
  unfold failsAt at h
  cases hbuilt : buildConfig options call with
  | mk states result =>
    rw [hbuilt] at h
    cases result with
    | error message => exact absurd (Option.some.inj h).symm hb
    | ok pipelines =>
      dsimp only at h
      by_cases hok : (prepareModules platform options call states).2.isOk = false
      · rw [failsAfterBuild, if_pos hok] at h
        exact absurd (Option.some.inj h).symm hp
      · simpa using hok

/-- When the modules have been prepared, the registry is as it was exactly when it is rewritten. -/
theorem sameHooks_iff
    (h : (prepareModules platform options call (buildConfig options call).1).2.isOk = true) :
    SameHooks (adapter.appliedManager platform options call).registry adapter.manager.registry ↔
      adapter.Rewrites platform options call .registry := by
  unfold appliedManager Rewrites
  by_cases hm : options.managesServiceModules = true
  · obtain ⟨states', message, hfails, -⟩ | ⟨ms, -, hmodules, happlies⟩ :=
      @applyModules_cases _ platform _ hm adapter call (buildConfig options call).1
    · rw [hfails] at h
      cases h
    · rw [happlies, hmodules]
      simp only [hm, forall_const, Option.mem_some_iff, forall_eq']
      exact ServiceModuleManager.applyPrepared_restores_iff _ _ ms
  · rw [applyModules, if_neg hm]
    exact iff_of_true (SameHooks.refl _) fun h => absurd h hm

/-- **Applying is all or nothing** exactly when the stores that were written before the step
that rejects are written with what they hold. -/
theorem allOrNothing_iff (platform : AdapterPlatform) (options : RuntimeHostAdapterOptions)
    (adapter : RuntimeHostAdapter η) (call : ApplyCall η) :
    adapter.AllOrNothing platform options call ↔
      ∀ step ∈ adapter.failsAt platform options call, ∀ store ∈ step.writtenBefore,
        adapter.Rewrites platform options call store := by
  unfold AllOrNothing
  rw [applyDesiredHostState_eq]
  cases hfails : adapter.failsAt platform options call with
  | none => simp
  | some step =>
    simp only [Option.elim_some, Option.isNone_some, forall_const, Option.mem_some_iff,
      forall_eq']
    have hbuilt : step ≠ .buildConfig → (builtConfig options call = adapter.config ↔
        (buildConfig options call).2 = .ok adapter.config.pipelines) := by
      intro hne
      have hlater : adapter.failsAt platform options call ≠ some .buildConfig := by
        simpa [hfails] using hne
      exact builtConfig_eq_iff hlater adapter.config
    -- the registry is written from the registrations on
    have hregistry : step ≠ .buildConfig → step ≠ .prepareModules →
        (SameHooks (adapter.appliedManager platform options call).registry
          adapter.manager.registry ↔ adapter.Rewrites platform options call .registry) :=
      fun hb hp => sameHooks_iff (isOk_prepareModules hfails hb hp)
    cases step with
    | buildConfig => simp [stoppedAt, ApplyStep.writtenBefore, SameHooks.refl]
    | prepareModules => simp [stoppedAt, ApplyStep.writtenBefore, SameHooks.refl]
    | registerModules => simp [stoppedAt, ApplyStep.writtenBefore, hregistry]
    | parseConfig =>
      simp only [stoppedAt, hregistry (by simp) (by simp)]
      simp [ApplyStep.writtenBefore, Rewrites]
    | configListeners =>
      simp only [stoppedAt, hregistry (by simp) (by simp), hbuilt (by simp)]
      simp [ApplyStep.writtenBefore, Rewrites]
    | topologyListeners =>
      simp only [stoppedAt, hregistry (by simp) (by simp), hbuilt (by simp)]
      simp [ApplyStep.writtenBefore, Rewrites]

/-! ### A call that is refused -/

/-- Options of a host with a manager. -/
def hostOptions : RuntimeHostAdapterOptions where
  hostId := js "h1"
  managesServiceModules := true
  drains := true

/-- A platform with the digests of two packages. -/
def hostPlatform : AdapterPlatform where
  computeDigest := ServiceModuleManager.pqDigest
  isUrl := fun _ => true

/-- The adapter of a host that has just started. -/
def fresh : RuntimeHostAdapter η := ⟨.initial [], none, ⟨[]⟩, none, none, .empty⟩

/-- A call that assigns service modules. -/
def serviceCall (attempts : List (Attempt ℕ)) : ApplyCall ℕ where
  desired :=
    { hostId := js "h1", revision := js "r", assignments := attempts.map (·.assignment) }
  staged := fun _ => .error []
  loaded := fun i => (attempts[i]?.map (·.loaded)).getD (.error [])
  configListenersReturn := true
  topologyListenersReturn := true
  now := 0

/-- Two assignments exchange their protocols: the call rejects, and the protocol of the first
is gone. -/
theorem not_allOrNothing_exchange :
    ¬((fresh.applyDesiredHostState hostPlatform hostOptions (serviceCall
        [ServiceModuleManager.serviceAttempt "a1" "p",
          ServiceModuleManager.serviceAttempt "a2" "q"])).1).AllOrNothing hostPlatform hostOptions
      (serviceCall [ServiceModuleManager.serviceAttempt "a1" "q",
        ServiceModuleManager.serviceAttempt "a2" "p"]) := by
  intro h
  have hreject : ((((fresh.applyDesiredHostState hostPlatform hostOptions (serviceCall
        [ServiceModuleManager.serviceAttempt "a1" "p",
          ServiceModuleManager.serviceAttempt "a2" "q"])).1).applyDesiredHostState hostPlatform
      hostOptions (serviceCall [ServiceModuleManager.serviceAttempt "a1" "q",
        ServiceModuleManager.serviceAttempt "a2" "p"])).2) = false := by
    decide +kernel
  have hkey := (h hreject).1 (keyOf (js "p") (js "1") (js "send"))
  revert hkey
  decide +kernel

end RuntimeHostAdapter

end Hardess
