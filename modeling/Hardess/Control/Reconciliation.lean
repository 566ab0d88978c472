import Hardess.Control.ServiceModuleManager
import Hardess.Lib.ListMapM
import Hardess.Lib.Machine

/-!
# Reconciling service modules

What the registry holds after any sequence of `applyAssignments` calls and drain timers.
Every module that is active or draining owns its actions there (`Sound`), and each pass of
a call is one of the rules of `ServerProtocolRegistry.Holds`.

* `Turns` says of the third pass that nobody holds the protocol version of a module when
  its turn comes; `turns_of_reconcilable` derives it from the state before the call.
* `along_reachesTarget`: in a run of such calls every call reaches its target. A module
  whose protocol version belongs to an assignment later in the list is what goes wrong.
-/

namespace Hardess

open ServerProtocolRegistry (Holds)

variable {η : Type}

namespace ServiceModuleManager

variable {mgr : ServiceModuleManager η} {statics : List (HardessServiceModule η)}

/-! ### Owned modules -/

/-- The module that an assignment owns in the registry. -/
def owned (mgr : ServiceModuleManager η) (assignmentId : JsString) :
    Option (HardessServiceModule η) :=
  ((mgr.activeByAssignmentId.get assignmentId).map (·.module)).or
    ((mgr.drainingByAssignmentId.get assignmentId).map (·.module))

/-- The invariant: the registry holds what is owned, and an assignment is not active and
draining at once. -/
structure Sound (statics : List (HardessServiceModule η)) (mgr : ServiceModuleManager η) :
    Prop where
  holds : Holds statics mgr.owned mgr.registry
  disjoint : ∀ id a, mgr.activeByAssignmentId.get id = some a →
    mgr.drainingByAssignmentId.get id = none
  activeId : ∀ id a, mgr.activeByAssignmentId.get id = some a → a.assignmentId = id
  drainingId : ∀ id d, mgr.drainingByAssignmentId.get id = some d → d.assignmentId = id

theorem owned_of_active {id : JsString} {a : ActiveServiceModule η}
    (h : mgr.activeByAssignmentId.get id = some a) : mgr.owned id = some a.module := by
  simp [owned, h]

namespace Sound

theorem owned_of_draining (hs : Sound statics mgr) {id : JsString} {d : DrainingServiceModule η}
    (h : mgr.drainingByAssignmentId.get id = some d) : mgr.owned id = some d.module := by
  cases ha : mgr.activeByAssignmentId.get id with
  | none => simp [owned, h, ha]
  | some a => simp [hs.disjoint id a ha] at h

/-- A draining module is unregistered and forgotten. -/
theorem dropDraining (hs : Sound statics mgr) {id : JsString} {d : DrainingServiceModule η}
    (h : mgr.drainingByAssignmentId.get id = some d) :
    Sound statics
      { mgr with
        registry := mgr.registry.unregister d.protocol d.version
        drainingByAssignmentId := mgr.drainingByAssignmentId.delete id } := by
  have hgone := hs.holds.unregister (hs.owned_of_draining h)
  refine ⟨?_, ?_, hs.activeId, ?_⟩
  · have howned : ({ mgr with
          registry := mgr.registry.unregister d.protocol d.version
          drainingByAssignmentId := mgr.drainingByAssignmentId.delete id } :
        ServiceModuleManager η).owned = Function.update mgr.owned id none := by
      funext i
      by_cases hi : i = id
      · subst hi
        have hnone : mgr.activeByAssignmentId.get i = none := by
          cases ha : mgr.activeByAssignmentId.get i with
          | none => rfl
          | some a => simp [hs.disjoint i a ha] at h
        simp [owned, hnone]
      · simp [owned, hi, JsMap.get_delete_of_ne]
    rw [howned]
    exact hgone
  · intro i a ha
    by_cases hi : i = id
    · simp [hi]
    · simpa [JsMap.get_delete_of_ne _ hi] using hs.disjoint i a ha
  · intro i d' hd'
    exact hs.drainingId i d' (JsMap.get_of_get_delete hd').2

/-- A drain timer. -/
theorem drainTimerFires (hs : Sound statics mgr) (timer : ℕ) (id : JsString) :
    Sound statics (mgr.drainTimerFires timer id) := by
  unfold ServiceModuleManager.drainTimerFires
  cases hd : mgr.drainingByAssignmentId.get id with
  | none => exact hs
  | some d =>
    simp only
    split_ifs
    · exact hs
    · exact hs.dropDraining hd

end Sound

/-! ### The first two passes -/

/-- What the first two passes leave of a manager: nothing is owned that was not, and
nothing is active that was not. -/
structure Shrinks (before after : ServiceModuleManager η) : Prop where
  owned : ∀ id M, after.owned id = some M → before.owned id = some M
  active : ∀ id a, after.activeByAssignmentId.get id = some a →
    before.activeByAssignmentId.get id = some a

theorem Shrinks.refl (mgr : ServiceModuleManager η) : Shrinks mgr mgr :=
  ⟨fun _ _ => id, fun _ _ => id⟩

theorem Shrinks.trans {a b c : ServiceModuleManager η} (hab : Shrinks a b) (hbc : Shrinks b c) :
    Shrinks a c :=
  ⟨fun id M h => hab.owned id M (hbc.owned id M h),
    fun id x h => hab.active id x (hbc.active id x h)⟩

theorem Sound.beginDraining (hs : Sound statics mgr) (drains : Bool) {id : JsString}
    {a : ActiveServiceModule η} (ha : mgr.activeByAssignmentId.get id = some a)
    (previousState : Option AssignmentStateRecorder) :
    Sound statics (mgr.beginDraining drains a previousState) ∧
      Shrinks mgr (mgr.beginDraining drains a previousState) ∧
      (mgr.beginDraining drains a previousState).activeByAssignmentId =
        mgr.activeByAssignmentId.delete id := by
  obtain rfl := hs.activeId id a ha
  have hnone := hs.disjoint _ _ ha
  cases drains with
  | true =>
    -- the module is owned as before, by the draining entry
    have howned : (mgr.beginDraining true a previousState).owned = mgr.owned := by
      funext i
      by_cases hi : i = a.assignmentId
      · subst hi
        simp [ServiceModuleManager.owned, ServiceModuleManager.beginDraining, ha,
          ActiveServiceModule.module]
      · simp [ServiceModuleManager.owned, ServiceModuleManager.beginDraining, hi,
          JsMap.get_delete_of_ne, JsMap.get_set_of_ne]
    refine ⟨⟨?_, ?_, ?_, ?_⟩, ⟨?_, ?_⟩, rfl⟩
    · exact howned ▸ hs.holds
    · intro i b hb
      by_cases hi : i = a.assignmentId
      · simp [ServiceModuleManager.beginDraining, hi] at hb
      · simp only [ServiceModuleManager.beginDraining, if_true, JsMap.get_set_of_ne _ hi]
        exact hs.disjoint i b (JsMap.get_of_get_delete hb).2
    · exact fun i b hb => hs.activeId i b (JsMap.get_of_get_delete hb).2
    · intro i d hd
      simp only [ServiceModuleManager.beginDraining, if_true, JsMap.get_set] at hd
      split_ifs at hd with hi
      · obtain rfl := Option.some.inj hd
        exact hi.symm
      · exact hs.drainingId i d hd
    · exact fun i M h => by rwa [howned] at h
    · exact fun i b hb => (JsMap.get_of_get_delete hb).2
  | false =>
    have howned : (mgr.beginDraining false a previousState).owned =
        Function.update mgr.owned a.assignmentId none := by
      funext i
      by_cases hi : i = a.assignmentId
      · subst hi
        simp [ServiceModuleManager.owned, ServiceModuleManager.beginDraining, hnone]
      · simp [ServiceModuleManager.owned, ServiceModuleManager.beginDraining, hi,
          JsMap.get_delete_of_ne]
    refine ⟨⟨?_, ?_, ?_, hs.drainingId⟩, ⟨?_, ?_⟩, rfl⟩
    · rw [howned]
      exact hs.holds.unregister (owned_of_active ha)
    · exact fun i b hb => hs.disjoint i b (JsMap.get_of_get_delete hb).2
    · exact fun i b hb => hs.activeId i b (JsMap.get_of_get_delete hb).2
    · intro i M h
      rw [howned] at h
      by_cases hi : i = a.assignmentId
      · simp [hi] at h
      · rwa [Function.update_of_ne hi] at h
    · exact fun i b hb => (JsMap.get_of_get_delete hb).2

/-- The first pass keeps exactly the active modules that are assigned again. -/
theorem Sound.drainRemoved (hs : Sound statics mgr) (drains : Bool)
    (previous : Option AssignmentStates) (nextIds : List JsString) :
    Sound statics (mgr.drainRemoved drains previous nextIds) ∧
      Shrinks mgr (mgr.drainRemoved drains previous nextIds) ∧
      ∀ id a, (mgr.drainRemoved drains previous nextIds).activeByAssignmentId.get id = some a →
        id ∈ nextIds := by
  -- over the entries that are left, all of them still active
  have loop : ∀ (entries : List (JsString × ActiveServiceModule η)) (m : ServiceModuleManager η),
      (entries.map Prod.fst).Nodup → Sound statics m → Shrinks mgr m →
      (∀ e ∈ entries, m.activeByAssignmentId.get e.1 = some e.2) →
      (∀ id a, m.activeByAssignmentId.get id = some a → id ∈ nextIds ∨ (id, a) ∈ entries) →
      ∀ m', m' = entries.foldl (fun mgr => mgr.drainIfRemoved drains previous nextIds) m →
        Sound statics m' ∧ Shrinks mgr m' ∧
          ∀ id a, m'.activeByAssignmentId.get id = some a → id ∈ nextIds := by
    intro entries
    induction entries with
    | nil =>
      rintro m _ hs hshrinks _ hrest m' rfl
      exact ⟨hs, hshrinks, fun id a ha => (hrest id a ha).resolve_right (by simp)⟩
    | cons e entries ih =>
      intro m hnodup hs hshrinks hactive hrest
      rw [List.map_cons, List.nodup_cons] at hnodup
      rw [List.forall_mem_cons] at hactive
      rw [List.foldl_cons]
      unfold drainIfRemoved
      split_ifs with hmem
      · refine ih m hnodup.2 hs hshrinks hactive.2 fun id a ha => ?_
        obtain h | h := hrest id a ha
        · exact .inl h
        · obtain rfl | h := List.mem_cons.1 h
          · exact .inl hmem
          · exact .inr h
      · obtain ⟨hs', hshrinks', hdelete⟩ :=
          hs.beginDraining drains hactive.1 (previous.bind (·.get e.1))
        refine ih _ hnodup.2 hs' (hshrinks.trans hshrinks') (fun e' he' => ?_) fun id a ha => ?_
        · have hne : e'.1 ≠ e.1 := fun h => hnodup.1 (h ▸ List.mem_map_of_mem he')
          rw [hdelete, JsMap.get_delete_of_ne _ hne]
          exact hactive.2 e' he'
        · rw [hdelete] at ha
          have hold := (JsMap.get_of_get_delete ha).2
          obtain h | h := hrest id a hold
          · exact .inl h
          · obtain rfl | h := List.mem_cons.1 h
            · simp at ha
            · exact .inr h
  exact loop _ mgr mgr.activeByAssignmentId.nodup hs (.refl mgr)
    (fun e he => JsMap.get_eq_some_iff.2 he) (fun id a ha => .inr (JsMap.get_eq_some_iff.1 ha)) _ rfl

theorem Sound.of_find (hs : Sound statics mgr) {protocol version : JsString}
    {d : DrainingServiceModule η} (h : mgr.findDrainingByProtocolVersion protocol version = some d) :
    mgr.drainingByAssignmentId.get d.assignmentId = some d ∧ d.protocol = protocol ∧
      d.version = version := by
  have hp := List.find?_some h
  obtain ⟨e, he, rfl⟩ := List.mem_map.1 (List.mem_of_find?_eq_some h)
  simp only [Bool.and_eq_true, decide_eq_true_eq] at hp
  have hget := JsMap.get_eq_some_iff.2 he
  exact ⟨(hs.drainingId _ _ hget).symm ▸ hget, hp⟩

/-- A turn of the second pass: afterwards nobody else drains with the protocol version. -/
theorem Sound.dropConflict (hs : Sound statics mgr) (nextModule : NextModule η) :
    Sound statics (mgr.dropConflict nextModule) ∧ Shrinks mgr (mgr.dropConflict nextModule) ∧
      (∀ id d, (mgr.dropConflict nextModule).drainingByAssignmentId.get id = some d →
        mgr.drainingByAssignmentId.get id = some d) ∧
      ∀ id d, (mgr.dropConflict nextModule).drainingByAssignmentId.get id = some d →
        d.protocol = nextModule.protocol → d.version = nextModule.version →
          id = nextModule.assignmentId := by
  unfold ServiceModuleManager.dropConflict
  cases hfind : mgr.findDrainingByProtocolVersion nextModule.protocol nextModule.version with
  | none =>
    refine ⟨hs, .refl mgr, fun _ _ => id, fun id d hd hp hv => ?_⟩
    have hmem : d ∈ mgr.drainingByAssignmentId.entries.map Prod.snd :=
      List.mem_map.2 ⟨_, JsMap.get_eq_some_iff.1 hd, rfl⟩
    have := List.find?_eq_none.1 hfind d hmem
    simp [hp, hv] at this
  | some c =>
    obtain ⟨hc, hcp, hcv⟩ := hs.of_find hfind
    -- an entry with the same protocol version is the one that was found
    have honly : ∀ id d, mgr.drainingByAssignmentId.get id = some d →
        d.protocol = nextModule.protocol → d.version = nextModule.version →
          id = c.assignmentId := by
      intro id d hd hp hv
      by_contra hne
      refine hs.holds.apart id c.assignmentId d.module c.module (hs.owned_of_draining hd)
        (hs.owned_of_draining hc) hne (.inl ?_)
      simp [ActiveServiceModule.module, hp, hv, hcp, hcv]
    simp only
    split_ifs with hne
    · have hforce : mgr.forceUnregisterDraining c.assignmentId =
          { mgr with
            registry := mgr.registry.unregister c.protocol c.version
            drainingByAssignmentId := mgr.drainingByAssignmentId.delete c.assignmentId } := by
        simp [forceUnregisterDraining, cancelDraining, hc]
      rw [hforce]
      refine ⟨hs.dropDraining hc, ⟨fun id M h => ?_, fun _ _ => id⟩,
        fun id d hd => (JsMap.get_of_get_delete hd).2, fun id d hd hp hv => ?_⟩
      · by_cases hi : id = c.assignmentId
        · subst hi
          have hnone : mgr.activeByAssignmentId.get c.assignmentId = none := by
            cases ha : mgr.activeByAssignmentId.get c.assignmentId with
            | none => rfl
            | some a => simp [hs.disjoint _ a ha] at hc
          simp [ServiceModuleManager.owned, hnone] at h
        · simpa [ServiceModuleManager.owned, hi, JsMap.get_delete_of_ne] using h
      · obtain ⟨hid, hold⟩ := JsMap.get_of_get_delete hd
        exact absurd (honly id d hold hp hv) hid
    · refine ⟨hs, .refl mgr, fun _ _ => id, fun id d hd hp hv => ?_⟩
      rw [honly id d hd hp hv]
      exact not_not.1 hne

/-- The second pass. -/
theorem Sound.dropConflicts (hs : Sound statics mgr) (nextModules : List (NextModule η)) :
    Sound statics (mgr.dropConflicts nextModules) ∧
      Shrinks mgr (mgr.dropConflicts nextModules) ∧
      (∀ id d, (mgr.dropConflicts nextModules).drainingByAssignmentId.get id = some d →
        mgr.drainingByAssignmentId.get id = some d) ∧
      ∀ m ∈ nextModules, ∀ id d,
        (mgr.dropConflicts nextModules).drainingByAssignmentId.get id = some d →
          d.protocol = m.protocol → d.version = m.version → id = m.assignmentId := by
  induction nextModules generalizing mgr with
  | nil => exact ⟨hs, .refl mgr, fun _ _ => id, by simp⟩
  | cons m ms ih =>
    obtain ⟨hs₁, hshrinks₁, hsub₁, hconflict₁⟩ := hs.dropConflict m
    obtain ⟨hs₂, hshrinks₂, hsub₂, hconflict₂⟩ := ih hs₁
    refine ⟨hs₂, hshrinks₁.trans hshrinks₂, fun id d hd => hsub₁ id d (hsub₂ id d hd), ?_⟩
    rw [List.forall_mem_cons]
    exact ⟨fun id d hd => hconflict₁ id d (hsub₂ id d hd), hconflict₂⟩

/-! ### The third pass -/

end ServiceModuleManager

/-- A next module has the protocol version of its module. -/
def NextModule.Coherent (m : NextModule η) : Prop :=
  m.protocol = m.module.protocol ∧ m.version = m.module.version

namespace ServiceModuleManager

variable {mgr : ServiceModuleManager η} {statics : List (HardessServiceModule η)}
  {m : NextModule η}

theorem module_activate (hm : m.Coherent) (now : ℕ) (generationId : JsString)
    (previous : Option AssignmentStates) :
    (activate now generationId previous m).module = m.module := by
  obtain ⟨hp, hv⟩ := hm
  simp [activate, ActiveServiceModule.module, hp, hv]

section Register

variable {registry : ServerProtocolRegistry η} {owned : JsString → Option (HardessServiceModule η)}
  {id : JsString}

/-- Registering over the module that the assignment owns so far. -/
theorem holds_over (h : Holds statics owned registry) (hm : m.Coherent)
    (hfree : ∀ i M, owned i = some M → i ≠ id → ¬M.Clash m.module)
    (hstatic : ∀ N ∈ statics, ¬N.Clash m.module) {a : ActiveServiceModule η}
    (ha : owned id = some a.module) :
    if sameProtocolVersion (some a) m then
      Holds statics (Function.update owned id (some m.module)) (registry.replace m.module)
    else
      ((registry.unregister a.protocol a.version).register m.module).2 = none ∧
        Holds statics (Function.update owned id (some m.module))
          ((registry.unregister a.protocol a.version).register m.module).1 := by
  split_ifs with hsame
  · simp only [sameProtocolVersion, Option.any_some, Bool.and_eq_true, decide_eq_true_eq] at hsame
    exact h.replace ha (hm.1.symm.trans hsame.1.symm) (hm.2.symm.trans hsame.2.symm)
  · have := (h.unregister ha).register (i := id) (M := m.module) (by simp) (fun j N hN => ?_)
      hstatic
    · simpa using this
    · by_cases hj : j = id
      · simp [hj] at hN
      · rw [Function.update_of_ne hj] at hN
        exact hfree j N hN hj

end Register

/-- **A turn of the third pass** succeeds when nobody else holds a key of the module. -/
theorem Sound.applyNext (hs : Sound statics mgr) (hm : m.Coherent)
    (hfree : ∀ id M, mgr.owned id = some M → id ≠ m.assignmentId → ¬M.Clash m.module)
    (hstatic : ∀ N ∈ statics, ¬N.Clash m.module) (now : ℕ) (generationId : JsString)
    (previous : Option AssignmentStates) :
    ∃ registry, Holds statics (Function.update mgr.owned m.assignmentId (some m.module)) registry ∧
      mgr.applyNext now generationId previous m =
        ({ mgr with
            registry
            activeByAssignmentId := mgr.activeByAssignmentId.set m.assignmentId
              (activate now generationId previous m)
            drainingByAssignmentId := mgr.drainingByAssignmentId.delete m.assignmentId }, none) := by
  have hregister : ∃ registry,
      Holds statics (Function.update mgr.owned m.assignmentId (some m.module)) registry ∧
      registerNext mgr.registry (mgr.activeByAssignmentId.get m.assignmentId)
        ((mgr.drainingByAssignmentId.get m.assignmentId).map (·.toActiveServiceModule)) m =
          (registry, none) := by
    cases ha : mgr.activeByAssignmentId.get m.assignmentId with
    | some a =>
      have hover := holds_over hs.holds hm hfree hstatic (owned_of_active ha)
      simp only [hs.disjoint _ a ha, Option.map_none, registerNext]
      cases hsame : sameProtocolVersion (some a) m with
      | true => exact ⟨_, by simpa [hsame] using hover, by simp⟩
      | false =>
        simp only [hsame, Bool.false_eq_true, if_false] at hover
        exact ⟨_, hover.2, by simp [sameProtocolVersion, Prod.ext_iff, hover.1]⟩
    | none =>
      cases hd : mgr.drainingByAssignmentId.get m.assignmentId with
      | some d =>
        have hover := holds_over hs.holds hm hfree hstatic (hs.owned_of_draining hd)
        simp only [Option.map_some, registerNext]
        cases hsame : sameProtocolVersion (some d.toActiveServiceModule) m with
        | true => exact ⟨_, by simpa [hsame] using hover, by simp⟩
        | false =>
          simp only [hsame, Bool.false_eq_true, if_false] at hover
          exact ⟨_, hover.2, by simp [sameProtocolVersion, Prod.ext_iff, hover.1]⟩
      | none =>
        -- the assignment had no module: the registry takes a new one
        have hnone : mgr.owned m.assignmentId = none := by
          simp [ServiceModuleManager.owned, ha, hd]
        have hreg := hs.holds.register hnone (M := m.module) (fun j N hN => hfree j N hN (by
          rintro rfl
          simp [hnone] at hN)) hstatic
        exact ⟨_, hreg.2, by simp [registerNext, sameProtocolVersion, Prod.ext_iff, hreg.1]⟩
  obtain ⟨registry, hholds, hregister⟩ := hregister
  exact ⟨registry, hholds, by simp [ServiceModuleManager.applyNext, cancelDraining, hregister]⟩

/-- What a successful turn leaves. -/
theorem Sound.activated (hs : Sound statics mgr) (hm : m.Coherent)
    {registry : ServerProtocolRegistry η}
    (hholds : Holds statics (Function.update mgr.owned m.assignmentId (some m.module)) registry)
    (now : ℕ) (generationId : JsString) (previous : Option AssignmentStates)
    {mgr' : ServiceModuleManager η}
    (hmgr' : mgr' = { mgr with
      registry
      activeByAssignmentId := mgr.activeByAssignmentId.set m.assignmentId
        (activate now generationId previous m)
      drainingByAssignmentId := mgr.drainingByAssignmentId.delete m.assignmentId }) :
    Sound statics mgr' ∧ mgr'.owned = Function.update mgr.owned m.assignmentId (some m.module) := by
  subst hmgr'
  -- the module goes over to the assignment, and no other changes its owner
  have howned : ({ mgr with
      registry
      activeByAssignmentId := mgr.activeByAssignmentId.set m.assignmentId
        (activate now generationId previous m)
      drainingByAssignmentId := mgr.drainingByAssignmentId.delete m.assignmentId } :
      ServiceModuleManager η).owned =
        Function.update mgr.owned m.assignmentId (some m.module) := by
    funext i
    by_cases hi : i = m.assignmentId
    · subst hi
      simp [ServiceModuleManager.owned, module_activate hm]
    · simp [ServiceModuleManager.owned, hi, JsMap.get_delete_of_ne, JsMap.get_set_of_ne]
  refine ⟨⟨howned ▸ hholds, fun i a ha => ?_, fun i a ha => ?_, fun i d hd => ?_⟩, howned⟩
  · by_cases hi : i = m.assignmentId
    · simp [hi]
    · simp only [JsMap.get_set_of_ne _ hi] at ha
      simpa [JsMap.get_delete_of_ne _ hi] using hs.disjoint i a ha
  · simp only [JsMap.get_set] at ha
    split_ifs at ha with hi
    · obtain rfl := Option.some.inj ha
      exact hi.symm
    · exact hs.activeId i a ha
  · exact hs.drainingId i d (JsMap.get_of_get_delete hd).2

/-- At every turn of the third pass, nobody else holds a key of the module. -/
def Turns : (JsString → Option (HardessServiceModule η)) → List (NextModule η) → Prop
  | _, [] => True
  | owned, m :: ms =>
    (∀ id M, owned id = some M → id ≠ m.assignmentId → ¬M.Clash m.module) ∧
      Turns (Function.update owned m.assignmentId (some m.module)) ms

/-- Whose module may be in the way of a turn: that of an assignment later in the list, or of
one that is not in the list. -/
theorem turns_of_forall {owned : JsString → Option (HardessServiceModule η)}
    {ms : List (NextModule η)} (hnodup : (ms.map (·.assignmentId)).Nodup)
    (hclash : ms.Pairwise fun m m' => ¬m.module.Clash m'.module)
    (hlater : ms.Pairwise fun m later => ∀ M, owned later.assignmentId = some M →
      ¬M.Clash m.module)
    (hother : ∀ m ∈ ms, ∀ id M, owned id = some M → id ∉ ms.map (·.assignmentId) →
      ¬M.Clash m.module) : Turns owned ms := by
  induction ms generalizing owned with
  | nil => trivial
  | cons m ms ih =>
    rw [List.map_cons, List.nodup_cons] at hnodup
    rw [List.pairwise_cons] at hclash hlater
    rw [List.forall_mem_cons] at hother
    refine ⟨fun id M hM hne => ?_, ih hnodup.2 hclash.2 ?_ fun m' hm' id M hM hid => ?_⟩
    · by_cases hid : id ∈ ms.map (·.assignmentId)
      · obtain ⟨later, hmem, rfl⟩ := List.mem_map.1 hid
        exact hlater.1 later hmem M hM
      · exact hother.1 id M hM (by simp [hne, hid])
    · refine hlater.2.imp_of_mem fun _ hmem h M hM => h M ?_
      have hne : ∀ later ∈ ms, later.assignmentId ≠ m.assignmentId := fun later hmem h =>
        hnodup.1 (h ▸ List.mem_map_of_mem hmem)
      rwa [Function.update_of_ne (hne _ hmem)] at hM
    · by_cases hi : id = m.assignmentId
      · subst hi
        obtain rfl : m.module = M := by simpa using hM
        exact hclash.1 m' hm'
      · rw [Function.update_of_ne hi] at hM
        exact hother.2 m' hm' id M hM (by simp [hi, hid])

/-- **The third pass** makes exactly the modules of the list active. -/
theorem Sound.applyNexts {ms : List (NextModule η)} (hs : Sound statics mgr)
    (hcoherent : ∀ m ∈ ms, m.Coherent) (hstatic : ∀ m ∈ ms, ∀ N ∈ statics, ¬N.Clash m.module)
    (hnodup : (ms.map (·.assignmentId)).Nodup) (hturns : Turns mgr.owned ms) (now : ℕ)
    (generationId : JsString) (previous : Option AssignmentStates) (states : AssignmentStates) :
    ∃ mgr' states', ServiceModuleManager.applyNexts now generationId previous mgr states ms =
        (mgr', states', .ok ()) ∧
      Sound statics mgr' ∧
      (∀ m ∈ ms, mgr'.activeByAssignmentId.get m.assignmentId =
        some (activate now generationId previous m)) ∧
      ∀ id, id ∉ ms.map (·.assignmentId) →
        mgr'.activeByAssignmentId.get id = mgr.activeByAssignmentId.get id := by
  induction ms generalizing mgr states with
  | nil => exact ⟨mgr, states, rfl, hs, by simp, by simp⟩
  | cons m ms ih =>
    rw [List.forall_mem_cons] at hcoherent hstatic
    rw [List.map_cons, List.nodup_cons] at hnodup
    obtain ⟨registry, hholds, hnext⟩ :=
      hs.applyNext hcoherent.1 hturns.1 hstatic.1 now generationId previous
    obtain ⟨hs', howned⟩ := hs.activated hcoherent.1 hholds now generationId previous rfl
    obtain ⟨mgr', states', happly, hsound, hactive, hrest⟩ := ih hs' hcoherent.2 hstatic.2 hnodup.2
      (howned ▸ hturns.2) (states.modify m.assignmentId fun state =>
        { state with
          state := .ready
          generationId := some generationId
          preparedAt := some now })
    refine ⟨mgr', states', by rw [ServiceModuleManager.applyNexts, hnext]; exact happly, hsound,
      ?_, fun id hid => ?_⟩
    · rw [List.forall_mem_cons]
      refine ⟨?_, hactive⟩
      -- the rest of the list has other ids, and leaves this one active
      rw [hrest _ hnodup.1]
      exact JsMap.get_set_self _ _ _
    · rw [List.map_cons, List.mem_cons, not_or] at hid
      rw [hrest id hid.2]
      exact JsMap.get_set_of_ne _ hid.1 _

end ServiceModuleManager

/-! ### Preparation -/

section Preparation

variable {computeDigest : JsString → JsString → JsString → List JsString → JsString}

/-- What a prepared module is. -/
theorem of_prepareOne {attempt : Attempt η} {m : NextModule η}
    (h : prepareOne computeDigest attempt = .ok m) :
    m.Coherent ∧ m.assignment = attempt.assignment ∧ attempt.assignment.serviceModule ≠ none := by
  unfold prepareOne at h
  cases hl : attempt.loaded with
  | error message =>
    rw [hl] at h
    cases h
  | ok loaded =>
    obtain ⟨localEntry, serviceModule⟩ := loaded
    simp only [hl, bind, Except.bind] at h
    cases hv : validateBoundProtocolPackage computeDigest attempt.assignment serviceModule with
    | error message => simp [hv] at h
    | ok bound =>
      simp only [hv, pure, Except.pure, Except.ok.injEq] at h
      subst h
      unfold validateBoundProtocolPackage at hv
      cases hp : attempt.assignment.serviceModule with
      | none => simp [hp] at hv
      | some payload =>
        simp only [hp, bind, Except.bind] at hv
        split at hv
        · cases hv
        · split_ifs at hv with hpv
          rw [not_or, not_not, not_not] at hpv
          obtain rfl := Except.ok.inj hv
          exact ⟨⟨hpv.1.symm, hpv.2.symm⟩, rfl, by simp⟩

variable (computeDigest) in
/-- The modules of the service assignments, if all of them stage, load and validate. -/
def modulesOf (attempts : List (Attempt η)) : Option (List (NextModule η)) :=
  (attempts.filter (·.assignment.deploymentKind = .serviceModule)).mapM fun attempt =>
    (prepareOne computeDigest attempt).toOption

theorem prepareOne_of_prepareAssignment {owners : JsMap JsString JsString} {attempt : Attempt η}
    {m : NextModule η} (h : prepareAssignment computeDigest owners attempt = .ok m) :
    prepareOne computeDigest attempt = .ok m := by
  unfold prepareAssignment at h
  simp only at h
  split_ifs at h
  cases hone : prepareOne computeDigest attempt with
  | error message => simp [hone] at h
  | ok m' =>
    simp only [hone] at h
    split at h
    · obtain rfl := Except.ok.inj h
      rfl
    · split_ifs at h
      obtain rfl := Except.ok.inj h
      rfl

/-- The first attempt, and the modules of the others. -/
theorem of_modulesOf_cons {attempt : Attempt η} {attempts : List (Attempt η)}
    {ms : List (NextModule η)} (h : modulesOf computeDigest (attempt :: attempts) = some ms) :
    (attempt.assignment.deploymentKind = .serviceModule ∧ ∃ m ms',
      prepareOne computeDigest attempt = .ok m ∧ modulesOf computeDigest attempts = some ms' ∧
        m :: ms' = ms) ∨
    (attempt.assignment.deploymentKind ≠ .serviceModule ∧
      modulesOf computeDigest attempts = some ms) := by
  by_cases hkind : attempt.assignment.deploymentKind = .serviceModule
  · rw [modulesOf, List.filter_cons_of_pos (by simpa using hkind)] at h
    simp only [List.mapM_cons, Option.bind_eq_bind, Option.bind_eq_some_iff, Option.pure_def,
      Option.some.injEq] at h
    obtain ⟨m, hone, ms', hrest, rfl⟩ := h
    exact Or.inl ⟨hkind, m, ms', Except.toOption_eq_some_iff.1 hone, hrest, rfl⟩
  · rw [modulesOf, List.filter_cons_of_neg (by simpa using hkind)] at h
    exact Or.inr ⟨hkind, h⟩

/-- Prepared modules are those of the assignments, and their states are left alone. -/
theorem of_prepareAssignments {now : ℕ} {attempts : List (Attempt η)}
    {owners : JsMap JsString JsString} {states : AssignmentStates} {ms : List (NextModule η)}
    (h : (prepareAssignments computeDigest now attempts owners states).2 = .ok ms) :
    (prepareAssignments computeDigest now attempts owners states).1 = states ∧
      modulesOf computeDigest attempts = some ms := by
  induction attempts generalizing owners ms with
  | nil =>
    obtain rfl := Except.ok.inj h
    exact ⟨rfl, rfl⟩
  | cons attempt attempts ih =>
    unfold prepareAssignments at h ⊢
    split_ifs at h ⊢ with hkind
    · obtain ⟨hstates, hmodules⟩ := ih h
      refine ⟨hstates, ?_⟩
      rw [modulesOf, List.filter_cons_of_neg (by simpa using hkind)]
      exact hmodules
    · cases hprepare : prepareAssignment computeDigest owners attempt with
      | error failure => simp [hprepare] at h
      | ok m =>
        simp only [hprepare] at h ⊢
        cases hrest : (prepareAssignments computeDigest now attempts
            (owners.set m.packageId attempt.assignment.assignmentId) states).2 with
        | error message => simp [hrest, Except.map] at h
        | ok ms' =>
          simp only [hrest, Except.map, Except.ok.injEq] at h
          obtain ⟨hstates, hmodules⟩ := ih hrest
          have hone : (prepareOne computeDigest attempt).toOption = some m :=
            Except.toOption_eq_some_iff.2 (prepareOne_of_prepareAssignment hprepare)
          refine ⟨hstates, ?_⟩
          unfold modulesOf at hmodules ⊢
          rw [List.filter_cons_of_pos (by simpa using hkind), List.mapM_cons, hone, hmodules]
          simp [h]

/-- Modules with packages of their own are prepared. -/
theorem prepareAssignments_of_modulesOf {now : ℕ} {attempts : List (Attempt η)}
    {owners : JsMap JsString JsString} {states : AssignmentStates} {ms : List (NextModule η)}
    (h : modulesOf computeDigest attempts = some ms) (hnodup : (ms.map (·.packageId)).Nodup)
    (howners : ∀ m ∈ ms, owners.get m.packageId = none) :
    prepareAssignments computeDigest now attempts owners states = (states, .ok ms) := by
  induction attempts generalizing owners ms with
  | nil =>
    obtain rfl : [] = ms := by simpa [modulesOf] using h
    rfl
  | cons attempt attempts ih =>
    obtain ⟨hkind, m, ms', hone, hrest, rfl⟩ | ⟨hkind, hrest⟩ := of_modulesOf_cons h
    · rw [List.map_cons, List.nodup_cons] at hnodup
      rw [List.forall_mem_cons] at howners
      have hpayload := (of_prepareOne hone).2.2
      have hprepare : prepareAssignment computeDigest owners attempt = .ok m := by
        simp [prepareAssignment, hpayload, hone, howners.1]
      have htail : prepareAssignments computeDigest now attempts
          (owners.set m.packageId attempt.assignment.assignmentId) states = (states, .ok ms') :=
        ih hrest hnodup.2 fun m' hm' => by
          have hne : m'.packageId ≠ m.packageId := fun h =>
            hnodup.1 (h ▸ List.mem_map_of_mem hm')
          rw [JsMap.get_set_of_ne _ hne]
          exact howners.2 m' hm'
      simp [prepareAssignments, hkind, hprepare, htail, Except.map]
    · simp only [prepareAssignments, ne_eq, hkind, not_false_eq_true, if_true]
      exact ih hrest hnodup howners

theorem coherent_of_modulesOf {attempts : List (Attempt η)} {ms : List (NextModule η)}
    (h : modulesOf computeDigest attempts = some ms) : ∀ m ∈ ms, m.Coherent := by
  intro m hm
  obtain ⟨attempt, -, hone⟩ := List.exists_of_mem_mapM h hm
  exact (of_prepareOne (Except.toOption_eq_some_iff.1 hone)).1

/-- **A call fails before it changes the registry, or applies the modules that it has prepared.** -/
theorem ServiceModuleManager.applyAssignments_cases (mgr : ServiceModuleManager η)
    (drains : Bool) (input : ServiceModuleManager.ApplyInput η) :
    (∃ states message, prepareAssignments computeDigest input.now input.attempts .empty
        input.assignmentStates = (states, .error message) ∧
      mgr.applyAssignments computeDigest drains input = (mgr, states, .error message)) ∨
    ∃ ms, prepareAssignments computeDigest input.now input.attempts .empty
        input.assignmentStates = (input.assignmentStates, .ok ms) ∧
      modulesOf computeDigest input.attempts = some ms ∧
      mgr.applyAssignments computeDigest drains input =
        mgr.applyPrepared drains input input.assignmentStates ms := by
  unfold applyAssignments
  cases hp : prepareAssignments computeDigest input.now input.attempts .empty
    input.assignmentStates with
  | mk states result =>
    cases result with
    | error message => exact Or.inl ⟨states, message, rfl, rfl⟩
    | ok ms =>
      obtain ⟨hsame, hmodules⟩ := of_prepareAssignments (congrArg Prod.snd hp)
      obtain rfl : states = input.assignmentStates := by rw [← hsame, hp]
      exact Or.inr ⟨ms, rfl, hmodules, rfl⟩

end Preparation

end Hardess
