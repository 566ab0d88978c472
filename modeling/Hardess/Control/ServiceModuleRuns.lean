import Hardess.Control.Reconciliation

/-!
# Runs of the service module manager

Any sequence of `applyAssignments` calls and drain timers, from a registry with the static
modules. A call with valid modules reaches its target when its assignments are
`Reconcilable`; two assignments that exchange their protocols are not
(`not_reachesTarget_exchange`).
-/

namespace Hardess

open ServerProtocolRegistry (Holds registerAll)

variable {η : Type}

/-- What happens to a manager. A call takes effect when its preparation is over. -/
inductive ManagerEvent (η : Type)
  | apply (input : ServiceModuleManager.ApplyInput η)
  | drainTimerFires (timer : ℕ) (assignmentId : JsString)

/-- The call of an event. -/
def ManagerEvent.input : ManagerEvent η → Option (ServiceModuleManager.ApplyInput η)
  | .apply input => some input
  | .drainTimerFires _ _ => none

namespace ServiceModuleManager

section Runs

variable (computeDigest : JsString → JsString → JsString → List JsString → JsString)
  (drains : Bool) (statics : List (HardessServiceModule η))

/-- The manager at the start. -/
def initial : ServiceModuleManager η := ⟨(registerAll .empty statics).1, .empty, .empty, 0⟩

/-- One event. -/
def step (mgr : ServiceModuleManager η) : ManagerEvent η → ServiceModuleManager η
  | .apply input => (mgr.applyAssignments computeDigest drains input).1
  | .drainTimerFires timer assignmentId => mgr.drainTimerFires timer assignmentId

/-- The protocol versions of the modules are pairwise distinct, and none is static. -/
def Valid (ms : List (NextModule η)) : Prop :=
  (ms.Pairwise fun m m' => ¬(m.protocol = m'.protocol ∧ m.version = m'.version)) ∧
    ∀ m ∈ ms, ∀ N ∈ statics, ¬(N.protocol = m.protocol ∧ N.version = m.version)

instance (ms : List (NextModule η)) : Decidable (Valid statics ms) :=
  inferInstanceAs (Decidable (_ ∧ _))

/-- The third pass will find every module free of conflicts: the assignment ids are
distinct, no two key prefixes of different assignments meet unless the protocol versions are
equal, and no protocol version is held by an assignment that comes later in the list. -/
def Reconcilable (mgr : ServiceModuleManager η) (ms : List (NextModule η)) : Prop :=
  (ms.map (·.assignmentId)).Nodup ∧
    (ms.Pairwise fun m m' => ¬m.module.Clash m'.module) ∧
    (∀ m ∈ ms, ∀ N ∈ statics, ¬N.Clash m.module) ∧
    (∀ m ∈ ms, ∀ e ∈ mgr.activeByAssignmentId.entries, e.1 ≠ m.assignmentId →
      e.2.module.Clash m.module → e.2.protocol = m.protocol ∧ e.2.version = m.version) ∧
    (∀ m ∈ ms, ∀ e ∈ mgr.drainingByAssignmentId.entries, e.1 ≠ m.assignmentId →
      e.2.module.Clash m.module → e.2.protocol = m.protocol ∧ e.2.version = m.version) ∧
    ms.Pairwise fun m later => ∀ a ∈ mgr.activeByAssignmentId.get later.assignmentId,
      ¬(a.protocol = m.protocol ∧ a.version = m.version)

instance (mgr : ServiceModuleManager η) (ms : List (NextModule η)) :
    Decidable (Reconcilable statics mgr ms) :=
  inferInstanceAs (Decidable (_ ∧ _ ∧ _ ∧ _ ∧ _ ∧ _))

/-- The condition on an event: a call whose modules are valid gives them packages of
different names, and what a call gets prepared is reconcilable. -/
def Orderly (mgr : ServiceModuleManager η) (e : ManagerEvent η) : Prop :=
  ∀ input ∈ e.input,
    (∀ ms ∈ modulesOf computeDigest input.attempts, Valid statics ms →
      (ms.map (·.packageId)).Nodup) ∧
    ∀ ms ∈ (prepareAssignments computeDigest input.now input.attempts .empty
      input.assignmentStates).2.toOption, Reconcilable statics mgr ms

instance (mgr : ServiceModuleManager η) (e : ManagerEvent η) :
    Decidable (Orderly computeDigest statics mgr e) :=
  inferInstanceAs (Decidable (∀ _ ∈ e.input, _ ∧ _))

/-- A call whose modules stage and validate reaches its target: it returns, and the registry
resolves exactly the static actions, those of its modules and those of the modules that are
draining. -/
def ReachesTarget (mgr : ServiceModuleManager η) (e : ManagerEvent η) : Prop :=
  ∀ input ∈ e.input, ∀ ms ∈ modulesOf computeDigest input.attempts, Valid statics ms →
    (mgr.applyAssignments computeDigest drains input).2.2 = .ok () ∧
    ∀ key h, (step computeDigest drains mgr e).registry.actions.get key = some h ↔
      (∃ M ∈ statics, M.hooksAt key = some h) ∨ (∃ m ∈ ms, m.module.hooksAt key = some h) ∨
        ∃ id d, (step computeDigest drains mgr e).drainingByAssignmentId.get id = some d ∧
          d.module.hooksAt key = some h

end Runs

variable {computeDigest : JsString → JsString → JsString → List JsString → JsString}
  {drains : Bool} {statics : List (HardessServiceModule η)} {mgr : ServiceModuleManager η}

theorem sound_initial (hstart : (registerAll .empty statics).2) :
    Sound statics (initial statics) := by
  refine ⟨?_, ?_, ?_, ?_⟩
  · have howned : (initial statics).owned = fun _ => none := by
      funext id
      simp [owned, initial]
    rw [howned]
    exact ServerProtocolRegistry.holds_registerAll hstart
  all_goals
    intro id a h
    simp [initial] at h

/-- The first two passes leave a manager in which every module has its turn. -/
theorem turns_of_reconcilable (drains : Bool) (hs : Sound statics mgr) {ms : List (NextModule η)}
    (hr : Reconcilable statics mgr ms) (previous : Option AssignmentStates) :
    Turns ((mgr.drainRemoved drains previous (ms.map (·.assignmentId))).dropConflicts ms).owned
      ms := by
  obtain ⟨hnodup, hclash, -, hactive, hdraining, hlater⟩ := hr
  obtain ⟨hs₁, hshrinks₁, hkept⟩ := hs.drainRemoved drains previous (ms.map (·.assignmentId))
  obtain ⟨-, hshrinks₂, -, hconflict⟩ := hs₁.dropConflicts ms
  have hshrinks := hshrinks₁.trans hshrinks₂
  have hassigned := fun id a ha => hkept id a (hshrinks₂.active id a ha)
  generalize (mgr.drainRemoved drains previous (ms.map (·.assignmentId))).dropConflicts ms =
    mgr' at hshrinks hconflict hassigned ⊢
  -- what is owned and meets a module has its protocol version
  have hsame : ∀ m ∈ ms, ∀ id M, mgr.owned id = some M → id ≠ m.assignmentId →
      M.Clash m.module → M.protocol = m.protocol ∧ M.version = m.version := by
    intro m hm id M hM hne hc
    unfold owned at hM
    cases ha : mgr.activeByAssignmentId.get id with
    | some a =>
      obtain rfl : a.module = M := by simpa [ha] using hM
      exact hactive m hm _ (JsMap.get_eq_some_iff.1 ha) hne hc
    | none =>
      obtain ⟨d, hd, rfl⟩ := Option.map_eq_some_iff.1 (by simpa [ha] using hM)
      exact hdraining m hm _ (JsMap.get_eq_some_iff.1 hd) hne hc
  -- so a draining module that is left meets only the module of its own assignment
  have hdrained : ∀ m ∈ ms, ∀ id M, mgr'.owned id = some M → id ≠ m.assignmentId →
      M.Clash m.module → ∃ a, mgr'.activeByAssignmentId.get id = some a ∧ a.module = M := by
    intro m hm id M hM hne hc
    have hpv := hsame m hm id M (hshrinks.owned id M hM) hne hc
    unfold owned at hM
    cases ha : mgr'.activeByAssignmentId.get id with
    | some a => exact ⟨a, rfl, by simpa [ha] using hM⟩
    | none =>
      obtain ⟨d, hd, rfl⟩ := Option.map_eq_some_iff.1 (by simpa [ha] using hM)
      exact absurd (hconflict m hm id d hd hpv.1 hpv.2) hne
  refine turns_of_forall hnodup hclash ?_ fun m hm id M hM hid hc => ?_
  · have hdistinct := List.pairwise_map.1 hnodup
    refine (hlater.and hdistinct).imp_of_mem fun hm _ h M hM hc => ?_
    obtain ⟨a, ha, rfl⟩ := hdrained _ hm _ M hM h.2.symm hc
    exact h.1 a (hshrinks.active _ a ha) (hsame _ hm _ _ (hshrinks.owned _ _ hM) h.2.symm hc)
  · have hne : id ≠ m.assignmentId := fun h => hid (h ▸ List.mem_map_of_mem hm)
    obtain ⟨a, ha, -⟩ := hdrained m hm id M hM hne hc
    exact hid (hassigned id a ha)

/-- What a call does when its preparation succeeds with reconcilable modules. -/
theorem applyPrepared_of_reconcilable (drains : Bool) (hs : Sound statics mgr)
    (input : ApplyInput η) (states : AssignmentStates) {ms : List (NextModule η)} (hcoherent : ∀ m ∈ ms, m.Coherent)
    (hr : Reconcilable statics mgr ms) :
    ∃ mgr' states', mgr.applyPrepared drains input states ms = (mgr', states', .ok ()) ∧
      Sound statics mgr' ∧
      ∀ id M, (∃ a, mgr'.activeByAssignmentId.get id = some a ∧ a.module = M) ↔
        ∃ m ∈ ms, m.assignmentId = id ∧ m.module = M := by
  have hturns := turns_of_reconcilable drains hs hr input.previousAssignmentStates
  obtain ⟨hs₁, -, hkept⟩ := hs.drainRemoved drains input.previousAssignmentStates
    (ms.map (·.assignmentId))
  obtain ⟨hs₂, hshrinks₂, -, -⟩ := hs₁.dropConflicts ms
  obtain ⟨mgr', states', happly, hs', hactive, hrest⟩ := hs₂.applyNexts hcoherent hr.2.2.1 hr.1
    hturns input.now input.revisionGenerationId input.previousAssignmentStates states
  refine ⟨mgr', states', happly, hs', fun id M => ⟨?_, ?_⟩⟩
  · rintro ⟨a, ha, rfl⟩
    have hmem : id ∈ ms.map (·.assignmentId) := by
      by_contra hid
      rw [hrest id hid] at ha
      exact hid (hkept id a (hshrinks₂.active id a ha))
    obtain ⟨m, hm, rfl⟩ := List.mem_map.1 hmem
    rw [hactive m hm] at ha
    obtain rfl := Option.some.inj ha
    exact ⟨m, hm, rfl, (module_activate (hcoherent m hm) _ _ _).symm⟩
  · rintro ⟨m, hm, rfl, rfl⟩
    exact ⟨_, hactive m hm, module_activate (hcoherent m hm) _ _ _⟩

/-- The registry of a sound manager, by what is active and what drains. -/
theorem Sound.get_iff (hs : Sound statics mgr) (key : JsString) (h : η) :
    mgr.registry.actions.get key = some h ↔ (∃ M ∈ statics, M.hooksAt key = some h) ∨
      (∃ id a, mgr.activeByAssignmentId.get id = some a ∧ a.module.hooksAt key = some h) ∨
      ∃ id d, mgr.drainingByAssignmentId.get id = some d ∧ d.module.hooksAt key = some h := by
  rw [hs.holds.get_iff]
  refine or_congr Iff.rfl ⟨?_, ?_⟩
  · rintro ⟨id, M, hM, hat⟩
    unfold owned at hM
    cases ha : mgr.activeByAssignmentId.get id with
    | some a =>
      obtain rfl : a.module = M := by simpa [ha] using hM
      exact .inl ⟨id, a, ha, hat⟩
    | none =>
      obtain ⟨d, hd, rfl⟩ := Option.map_eq_some_iff.1 (by simpa [ha] using hM)
      exact .inr ⟨id, d, hd, hat⟩
  · rintro (⟨id, a, ha, hat⟩ | ⟨id, d, hd, hat⟩)
    · exact ⟨id, _, owned_of_active ha, hat⟩
    · exact ⟨id, _, hs.owned_of_draining hd, hat⟩

theorem sound_step (hs : Sound statics mgr) {e : ManagerEvent η}
    (ho : Orderly computeDigest statics mgr e) :
    Sound statics (step computeDigest drains mgr e) := by
  cases e with
  | drainTimerFires timer id => exact hs.drainTimerFires timer id
  | apply input =>
    obtain ⟨-, hr⟩ := ho input rfl
    obtain ⟨states, message, -, hfails⟩ | ⟨ms, hprepare, hmodules, happlies⟩ :=
      mgr.applyAssignments_cases drains input
    · rw [step, hfails]
      exact hs
    · obtain ⟨mgr', states', happly, hs', -⟩ := applyPrepared_of_reconcilable drains
        hs input input.assignmentStates (coherent_of_modulesOf hmodules)
        (hr ms (by simp [hprepare, Except.toOption]))
      rw [step, happlies, happly]
      exact hs'

theorem reachesTarget_of_orderly (hs : Sound statics mgr) {e : ManagerEvent η}
    (ho : Orderly computeDigest statics mgr e) : ReachesTarget computeDigest drains statics mgr e := by
  intro input hinput ms hms hvalid
  obtain ⟨hpackages, hr⟩ := ho input hinput
  have hprepare : prepareAssignments computeDigest input.now input.attempts .empty
      input.assignmentStates = (input.assignmentStates, .ok ms) :=
    prepareAssignments_of_modulesOf hms (hpackages ms hms hvalid) fun m _ => by simp
  obtain ⟨mgr', states', happly, hs', hactive⟩ := applyPrepared_of_reconcilable drains
    hs input input.assignmentStates (coherent_of_modulesOf hms)
    (hr ms (by simp [hprepare, Except.toOption]))
  have happly' : mgr.applyAssignments computeDigest drains input = (mgr', states', .ok ()) := by
    simp only [applyAssignments, hprepare, happly]
  have hstep : step computeDigest drains mgr e = mgr' := by
    cases e with
    | drainTimerFires timer id => cases hinput
    | apply input' =>
      obtain rfl := Option.some.inj hinput
      simp only [step, happly']
  refine ⟨by rw [happly'], fun key h => ?_⟩
  rw [hstep, hs'.get_iff]
  refine or_congr Iff.rfl (or_congr ⟨?_, ?_⟩ Iff.rfl)
  · rintro ⟨id, a, ha, hat⟩
    obtain ⟨m, hm, -, hmodule⟩ := (hactive id a.module).1 ⟨a, ha, rfl⟩
    exact ⟨m, hm, hmodule ▸ hat⟩
  · rintro ⟨m, hm, hat⟩
    obtain ⟨a, ha, hmodule⟩ := (hactive m.assignmentId m.module).2 ⟨m, hm, rfl, rfl⟩
    exact ⟨_, a, ha, hmodule ▸ hat⟩

/-- **Reconciliation reaches its target** at every call of an orderly run. -/
theorem along_reachesTarget (hstart : (registerAll .empty statics).2)
    {events : List (ManagerEvent η)}
    (h : Machine.Along (step computeDigest drains) (Orderly computeDigest statics)
      (initial statics) events) :
    Machine.Along (step computeDigest drains) (ReachesTarget computeDigest drains statics)
      (initial statics) events :=
  h.imp (sound_initial hstart) (fun _ _ hs ho => sound_step hs ho)
    fun _ _ hs ho => reachesTarget_of_orderly hs ho

/-! ### Protocols that change hands -/

/-- The digest of two packages. -/
def pqDigest (packageId _ _ : JsString) (_ : List JsString) : JsString :=
  if packageId = js "p@1" then
    js "sha256:c2e8b6d310ca3b7c960d7c37897873095db269362b5e1798d96afef2b5097f8f"
  else js "sha256:9eabaea6e67f59a6611c4783b0786a80a31977848ebf99683e32449c61278d80"

/-- An assignment of a protocol with one action, staged and loaded. -/
def serviceAttempt (assignmentId protocol : String) : Attempt ℕ where
  assignment :=
    { assignmentId := js assignmentId, hostId := js "h1", deploymentId := js "d1"
      deploymentKind := .serviceModule, declaredVersion := js "1"
      artifact := { manifestId := js protocol, sourceUri := js "https://host/module.ts" }
      serviceModule := some
        { entry := js "module.ts"
          protocolPackage :=
            { packageId := js protocol ++ js "@1", protocol := js protocol, version := js "1"
              actions := [js "send"]
              digest := pqDigest (js protocol ++ js "@1") [] [] [] } } }
  loaded := .ok ([js "srv", js protocol, js "module.ts"],
    ⟨js protocol, js "1", JsMap.empty.set (js "send") 0⟩)

/-- A call with these assignments. -/
def serviceInput (attempts : List (Attempt ℕ)) : ApplyInput ℕ where
  attempts
  assignmentStates := .empty
  revisionGenerationId := js "admin:r"
  previousAssignmentStates := none
  now := 0

/-- The second assignment takes over the protocol of the first, which is removed. -/
theorem along_reachesTarget_takeover :
    Machine.Along (step pqDigest true) (ReachesTarget pqDigest true []) (initial [])
      [.apply (serviceInput [serviceAttempt "a1" "p", serviceAttempt "a2" "q"]),
        .apply (serviceInput [serviceAttempt "a2" "p"]), .drainTimerFires 0 (js "a1")] :=
  along_reachesTarget rfl
    ⟨by decide +kernel, by decide +kernel, by decide +kernel, trivial⟩

/-- Two assignments exchange their protocols. -/
def exchange : ApplyInput ℕ :=
  serviceInput [serviceAttempt "a1" "q", serviceAttempt "a2" "p"]

/-- The exchange is refused: the first assignment finds `q` registered by the second. -/
theorem not_reachesTarget_exchange :
    ¬Machine.Along (step pqDigest true) (ReachesTarget pqDigest true []) (initial [])
      [.apply (serviceInput [serviceAttempt "a1" "p", serviceAttempt "a2" "q"]),
        .apply exchange] := by
  intro h
  have hvalid : (modulesOf pqDigest exchange.attempts).any fun ms => Valid [] ms := by
    decide +kernel
  cases hms : modulesOf pqDigest exchange.attempts with
  | none => simp [hms] at hvalid
  | some ms =>
    have hok := (h.2.1 exchange rfl ms hms (by simpa [hms] using hvalid)).1
    have hfails : ((((initial []).step pqDigest true (.apply (serviceInput
        [serviceAttempt "a1" "p", serviceAttempt "a2" "q"]))).applyAssignments pqDigest true
          exchange).2.2).isOk = false := by
      decide +kernel
    rw [hok] at hfails
    cases hfails

end ServiceModuleManager

end Hardess
