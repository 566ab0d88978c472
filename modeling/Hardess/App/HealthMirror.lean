import Hardess.App.PeerHealth
import Hardess.App.RoutingApp

/-!
# The health of the peers as the routing sees it

The app of `src/runtime/app.ts` writes every snapshot of its health store into the topology store,
which the routing reads. A peer that is declared dead is disconnected there and then, so that the
subscription runs again inside of itself; a new topology prunes the two tables one after the other.

* `ClusterPeerHealthStore.Tells`: what changes in the statuses is what the listeners are told;
* `ComposedApp`: the app with both stores; `call` says how deep the subscription may run inside of
  itself, and `call_two` that two levels are enough;
* `toRuntimeApp_step`: without the topology store it is the `RuntimeApp`;
* **`routing_mirrors_health`**: after every run the two stores agree on every peer.
-/

namespace Hardess

namespace ClusterPeerHealthStore

variable {st st' : ClusterPeerHealthStore}

/-! ### What the listeners are told -/

theorem getStatus_setEntry (e : ClusterPeerHealthEntry) (n : JsString) :
    (st.setEntry e).getStatus n = if n = e.nodeId then e.status else st.getStatus n := by
  simp only [getStatus, setEntry, JsMap.get_set]
  split_ifs <;> rfl

@[simp] theorem getStatus_emit (e : ClusterPeerHealthEntry) (n : JsString) :
    (st.emit e).getStatus n = st.getStatus n := rfl

@[simp] theorem getStatus_clearTimeout (timer : Option ℕ) (n : JsString) :
    (st.clearTimeout timer).getStatus n = st.getStatus n := by
  simp [getStatus]

@[simp] theorem getStatus_ensureSuspectTimer (m : JsString) (detail : Option JsString)
    (n : JsString) : (st.ensureSuspectTimer m detail).getStatus n = st.getStatus n := by
  unfold ensureSuspectTimer
  cases he : st.entries.get m with
  | none => rfl
  | some current =>
    dsimp only
    split_ifs
    · rfl
    · -- arming the timer rewrites the entry with the status it has
      simp only [getStatus, JsMap.get_set]
      split_ifs with hn
      · rw [hn, he]
        rfl
      · rfl

/-- `getOrCreateEntry` finds the status, or creates an entry of the status `unknown`. -/
theorem entry_status (n : JsString) : (st.entry n).status = st.getStatus n := by
  unfold entry getStatus
  cases st.entries.get n <;> rfl

/-- The listeners are told what has changed: nothing, or the status of one peer. -/
def Tells (st st' : ClusterPeerHealthStore) : Prop :=
  (st'.emitted = st.emitted ∧ ∀ n, st'.getStatus n = st.getStatus n) ∨
    ∃ snapshot : ClusterPeerHealthSnapshot, st'.emitted = st.emitted ++ [snapshot] ∧
      ∀ n, st'.getStatus n = if n = snapshot.nodeId then snapshot.status else st.getStatus n

theorem Tells.refl : Tells st st := .inl ⟨rfl, fun _ => rfl⟩

/-- The entry of a peer can be rewritten in silence if it keeps its status. -/
theorem tells_setEntry {e : ClusterPeerHealthEntry} {n : JsString} (hn : e.nodeId = n)
    (hs : e.status = (st.entry n).status) : Tells st (st.setEntry e) := by
  refine .inl ⟨rfl, fun m => ?_⟩
  rw [getStatus_setEntry]
  split_ifs with hm
  · rw [hs, entry_status, hm, hn]
  · rfl

/-- An entry that takes a status is emitted with it. -/
theorem tells_emit {e : ClusterPeerHealthEntry} (hemitted : st'.emitted = st.emitted)
    (h : ∀ n, st'.getStatus n = if n = e.nodeId then e.status else st.getStatus n) :
    Tells st (st'.emit e) :=
  .inr ⟨e.toClusterPeerHealthSnapshot,
    congrArg (· ++ [e.toClusterPeerHealthSnapshot]) hemitted, h⟩

theorem tells_applyLocalStatus (e : ClusterPeerHealthEntry) (status : ReportedStatus)
    (detail : Option JsString) : Tells st (st.applyLocalStatus e status detail) := by
  unfold applyLocalStatus
  refine tells_emit (clearTimeout_emitted e.deadTimer) fun n => ?_
  rw [getStatus_setEntry, getStatus_clearTimeout]

/-- The timer that is armed after the snapshot changes no status. -/
theorem Tells.ensureSuspectTimer (h : Tells st st') (n : JsString) (detail : Option JsString) :
    Tells st (st'.ensureSuspectTimer n detail) := by
  unfold Tells at h ⊢
  simpa using h

/-- From a store with the same statuses that has emitted the same. -/
theorem Tells.of_same {mid : ClusterPeerHealthStore} (h : Tells mid st')
    (hemitted : mid.emitted = st.emitted) (hstatus : ∀ n, mid.getStatus n = st.getStatus n) :
    Tells st st' := by
  unfold Tells at h ⊢
  simpa only [hemitted, hstatus] using h

theorem tells_markDead {n : JsString} (hn : (st.entry n).nodeId = n) (detail : Option JsString) :
    Tells st (st.markDead n detail) := by
  unfold markDead
  dsimp only
  split_ifs
  · exact .refl
  · exact tells_setEntry hn rfl
  · exact tells_applyLocalStatus _ _ _

theorem tells_applyRumor (hg : st.Good) (rumor : ClusterPeerHealthRumor)
    (reportedByNodeId : JsString) : Tells st (st.applyRumor rumor reportedByNodeId) := by
  unfold applyRumor
  by_cases hk : st.isUnknownPeer rumor.nodeId = true
  · rw [if_pos hk]
    exact .refl
  rw [if_neg hk]
  dsimp only
  by_cases hr : (!shouldApplyRumor (st.entry rumor.nodeId) rumor) = true
  · rw [if_pos hr]
    split_ifs
    · exact tells_setEntry (entry_nodeId hg _) rfl
    · exact .refl
  · rw [if_neg hr]
    refine tells_emit ?_ fun n => ?_
    · rw [apply_ite emitted]
      simp [setEntry]
    · rw [apply_ite (getStatus · n), getStatus_ensureSuspectTimer, ite_self, getStatus_setEntry,
        getStatus_clearTimeout]

theorem tells_timerFires (hg : st.Good) (h : ℕ) : Tells st (st.timerFires h) := by
  unfold timerFires
  cases ht : st.timers.get h with
  | none => exact .refl
  | some t =>
    dsimp only
    split_ifs with hdue
    · cases he : st.entries.get t.nodeId with
      | none => exact .inl ⟨rfl, fun _ => rfl⟩
      | some latest =>
        have hkey : latest.nodeId = t.nodeId := hg.key _ _ he
        dsimp only
        split_ifs with hs
        · exact .inl ⟨rfl, fun _ => rfl⟩
        · -- the handle leaves the entry first, and then the peer is declared dead
          refine (tells_markDead ?_ _).of_same rfl fun n => ?_
          · simp [entry, setEntry, hkey]
          · rw [getStatus_setEntry]
            split_ifs with hn
            · rw [hn, hkey]
              simp [getStatus, he]
            · rfl
    · exact .refl

/-- The calls that keep the known peers. -/
def Event.KeepsPeers : Event → Prop
  | .noteKnownPeers _ => False
  | .dispose => False
  | _ => True

/-- **A call that keeps the known peers tells its listeners every change of a status.** -/
theorem step_tells (hg : st.Good) {c : Event} (hc : c.KeepsPeers) : Tells st (st.step c) := by
  cases c with
  | noteKnownPeers nodeIds => exact hc.elim
  | dispose => exact hc.elim
  | markAlive n detail =>
    show Tells st (st.markAlive n detail)
    unfold markAlive
    dsimp only
    split_ifs
    · exact .refl
    · exact tells_setEntry (entry_nodeId hg n) rfl
    · exact tells_applyLocalStatus _ _ _
  | markSuspect n detail =>
    show Tells st (st.markSuspect n detail)
    unfold markSuspect
    dsimp only
    split_ifs
    · exact .refl
    · refine Tells.ensureSuspectTimer ?_ _ _
      exact tells_setEntry (entry_nodeId hg n) rfl
    · exact (tells_applyLocalStatus _ _ _).ensureSuspectTimer _ _
  | markDead n detail => exact tells_markDead (entry_nodeId hg n) detail
  | applyRumor rumor by' => exact tells_applyRumor hg rumor by'
  | timerFires h => exact tells_timerFires hg h
  | advance ms => exact .inl ⟨rfl, fun _ => rfl⟩

/-- `noteKnownPeers` forgets the peers that are not among the given ones, and tells nobody. -/
theorem getStatus_noteKnownPeers (nodeIds : List JsString) (n : JsString) :
    (st.noteKnownPeers nodeIds).getStatus n =
      if n ∈ nodeIds then st.getStatus n else .unknown := by
  have hget : (st.noteKnownPeers nodeIds).entries.get n =
      if n ∈ nodeIds then st.entries.get n else none :=
    (st.entries.get_filter_keys (fun n => decide (n ∈ nodeIds)) n).trans (by simp)
  unfold getStatus
  rw [hget]
  split_ifs <;> rfl

end ClusterPeerHealthStore

/-! ### The record of the topology store -/

namespace RuntimeTopologyStore

variable (store : RuntimeTopologyStore)

/-- The status that is recorded of a peer. -/
def recordedStatus (nodeId : JsString) : ClusterPeerHealthStatus :=
  (store.runtimePeerHealthByNodeId.get nodeId).getD .unknown

theorem recordedStatus_set (nodeId : JsString) (status : ClusterPeerHealthStatus) (n : JsString) :
    (store.setRuntimePeerHealth nodeId status).recordedStatus n =
      if n = nodeId then status else store.recordedStatus n := by
  simp only [recordedStatus, setRuntimePeerHealth, JsMap.get_set]
  split_ifs <;> rfl

theorem recordedStatus_clear (nodeIds : List JsString) (n : JsString) :
    (store.clearRuntimePeerHealth nodeIds).recordedStatus n =
      if n ∈ nodeIds then store.recordedStatus n else .unknown := by
  have hget : (store.clearRuntimePeerHealth nodeIds).runtimePeerHealthByNodeId.get n =
      if n ∈ nodeIds then store.runtimePeerHealthByNodeId.get n else none :=
    (store.runtimePeerHealthByNodeId.get_filter_keys (fun n => nodeIds.contains n) n).trans
      (by simp)
  unfold recordedStatus
  rw [hget]
  split_ifs <;> rfl

end RuntimeTopologyStore

/-! ### The app with both stores -/

/-- The app with the topology store that its subscriptions write. -/
structure ComposedApp extends RuntimeApp where
  nodeId : JsString
  topologyStore : RuntimeTopologyStore

namespace ComposedApp

open RuntimeApp (HealthCall)

/-- `createRuntimeApp`, with the static peers of its options. -/
def create (options : ClusterNetworkOptions) (precedes : JsString → JsString → Bool)
    (peers : List ClusterPeerNode) (peerSuspectTimeoutMs clock : ℕ) : ComposedApp where
  toRuntimeApp := RuntimeApp.create options peers peerSuspectTimeoutMs clock
  nodeId := options.nodeId
  topologyStore := { precedes }

/-- The listener of `clusterPeerHealth.subscribe`: it writes the record before it disconnects the
peer. `again` is a call of the store that the network makes while it is disconnected. -/
def onPeerHealth (again : ComposedApp → HealthCall → ComposedApp) (app : ComposedApp)
    (snapshot : ClusterPeerHealthSnapshot) : ComposedApp :=
  if app.disposed then app
  else
    let app₁ := { app with
      topologyStore := app.topologyStore.setRuntimePeerHealth snapshot.nodeId snapshot.status }
    if snapshot.status = .dead then
      let network := app₁.clusterNetwork.step
        (.disconnectPeer snapshot.nodeId (js "cluster peer marked dead"))
      (network.effects.filterMap ClusterEffect.observed).foldl again
        { app₁ with clusterNetwork := network }
    else app₁

/-- A call of the store and what it sets off, the subscription inside of itself as deep as `depth`
says. -/
def call : ℕ → ComposedApp → HealthCall → ComposedApp
  | 0, app, _ => app
  | depth + 1, app, c =>
    let health := app.clusterPeerHealth.step c
    (health.emitted.drop app.clusterPeerHealth.emitted.length).foldl (onPeerHealth (call depth))
      { app with clusterPeerHealth := health }

/-- A call of the `peerHealthObserver`. -/
inductive Observation
  | markAlive (nodeId : JsString) (detail : Option JsString)
  | markSuspect (nodeId : JsString) (detail : Option JsString)
  | applyRumor (rumor : ClusterPeerHealthRumor) (fromNodeId : JsString)

/-- The observation as a call of the store. -/
def Observation.toCall : Observation → HealthCall
  | .markAlive nodeId detail => .markAlive nodeId detail
  | .markSuspect nodeId detail => .markSuspect nodeId detail
  | .applyRumor rumor fromNodeId => .applyRumor rumor fromNodeId

/-- What can happen until the app is disposed: an observation or a rumor, an event of the network
with all that it reports, a timer of the store, the clock, a new topology. -/
inductive Event
  | observe (observation : Observation)
  | network (e : ClusterNetwork.Event)
  | timerFires (handle : ℕ)
  | advance (ms : ℕ)
  | setTopology (hosts : List MembershipHost)

variable (app : ComposedApp)

/-- The listener of `topologyStore.subscribe`. -/
def onTopology : ComposedApp :=
  if app.disposed then app
  else
    let dynamicPeers := app.topologyStore.listClusterPeers app.nodeId
    let app₁ := call 2 app (.noteKnownPeers (dynamicPeers.map ClusterPeerNode.nodeId))
    { app₁ with
      topologyStore :=
        app₁.topologyStore.clearRuntimePeerHealth (dynamicPeers.map ClusterPeerNode.nodeId)
      clusterNetwork := app₁.clusterNetwork.step (.setPeers dynamicPeers) }

/-- One event. -/
def step (app : ComposedApp) : Event → ComposedApp
  | .observe observation => call 2 app observation.toCall
  | .network e =>
    let network := app.clusterNetwork.step e
    (network.effects.filterMap ClusterEffect.observed).foldl (call 2)
      { app with clusterNetwork := network }
  | .timerFires handle => call 2 app (.timerFires handle)
  | .advance ms => call 2 app (.advance ms)
  | .setTopology hosts =>
    onTopology { app with topologyStore := app.topologyStore.setTopology hosts }

/-! ### How deep the subscription runs -/

variable {app : ComposedApp} {c : HealthCall} {again : ComposedApp → HealthCall → ComposedApp}

/-- The health store is in order, and the subscriptions are there. -/
structure Live (app : ComposedApp) : Prop where
  health : app.clusterPeerHealth.Good
  listens : app.disposed = false

/-- A call of the health store keeps it in order. -/
theorem Live.hears (h : app.Live) (c : HealthCall) :
    Live { app with clusterPeerHealth := app.clusterPeerHealth.step c } :=
  ⟨(ClusterPeerHealthStore.peer_step h.health c).1, h.listens⟩

theorem live_onPeerHealth (hagain : ∀ app c, Live app → Live (again app c)) (h : app.Live)
    (snapshot : ClusterPeerHealthSnapshot) : (onPeerHealth again app snapshot).Live := by
  unfold onPeerHealth
  dsimp only
  split_ifs
  · exact h
  · exact List.foldlRecOn _ _ ⟨h.health, h.listens⟩ fun app happ c _ => hagain app c happ
  · exact ⟨h.health, h.listens⟩

theorem live_call (depth : ℕ) : ∀ (app : ComposedApp) (c : HealthCall), app.Live →
    (call depth app c).Live := by
  induction depth with
  | zero => exact fun _ _ h => h
  | succ depth ih =>
    intro app c h
    exact List.foldlRecOn _ _ (h.hears c) fun app happ snapshot _ =>
      live_onPeerHealth ih happ snapshot

/-- Marks of life and of suspicion, which are all that the network reports of a peer that it
disconnects. -/
def IsMark : HealthCall → Prop
  | .markAlive _ _ => True
  | .markSuspect _ _ => True
  | _ => False

theorem marks_of_disconnect (network : ClusterNetwork) (nodeId reason : JsString) :
    ∀ c ∈ (network.step (.disconnectPeer nodeId reason)).effects.filterMap ClusterEffect.observed,
      IsMark c := by
  intro c hc
  obtain ⟨effect, hmem, hobs⟩ := List.mem_filterMap.1 hc
  have hblames := (@ClusterNetwork.blames_disconnectPeer network.cleared nodeId reason).mem rfl
    effect hmem
  cases effect with
  | markAlive n detail => cases hobs; trivial
  | markSuspect n detail => cases hobs; trivial
  | applyRumor rumor fromNodeId => exact hblames.elim
  | _ => cases hobs

/-- A mark declares no peer dead. -/
theorem ne_dead_of_mark (h : app.Live) (hc : IsMark c) {snapshot : ClusterPeerHealthSnapshot}
    (hmem : snapshot ∈
      (app.clusterPeerHealth.step c).emitted.drop app.clusterPeerHealth.emitted.length) :
    snapshot.status ≠ .dead := by
  intro hs
  rcases ClusterPeerHealthStore.step_announces h.health c with heq | ⟨s, heq, hdead⟩
  · rw [heq, List.drop_length] at hmem
    cases hmem
  · rw [heq, List.drop_left] at hmem
    obtain rfl := List.mem_singleton.1 hmem
    have ho := hdead hs
    cases c with
    | markAlive m detail =>
      exact absurd (ClusterPeerHealthStore.localOutcome_become ho) (by decide)
    | markSuspect m detail =>
      exact absurd (ClusterPeerHealthStore.localOutcome_become ho) (by decide)
    | _ => exact hc

/-- Of peers that are not dead the subscription only keeps the record. -/
theorem foldl_onPeerHealth_of_ne_dead {snapshots : List ClusterPeerHealthSnapshot}
    (hs : ∀ snapshot ∈ snapshots, snapshot.status ≠ .dead) :
    ∀ app : ComposedApp, app.disposed = false →
      snapshots.foldl (onPeerHealth again) app = { app with
        topologyStore := snapshots.foldl (fun store snapshot =>
          store.setRuntimePeerHealth snapshot.nodeId snapshot.status) app.topologyStore } := by
  induction snapshots with
  | nil => exact fun _ _ => rfl
  | cons snapshot rest ih =>
    intro app hl
    obtain ⟨hne, hrest⟩ := List.forall_mem_cons.1 hs
    have hone : onPeerHealth again app snapshot = { app with
        topologyStore :=
          app.topologyStore.setRuntimePeerHealth snapshot.nodeId snapshot.status } := by
      unfold onPeerHealth
      rw [if_neg (by simp [hl]), if_neg hne]
    rw [List.foldl_cons, hone]
    exact ih hrest _ hl

/-- After a mark only the record changes besides the store, at any depth. -/
theorem call_mark (h : app.Live) (hc : IsMark c) : ∃ topologyStore, ∀ depth,
    call (depth + 1) app c = { app with
      clusterPeerHealth := app.clusterPeerHealth.step c, topologyStore } :=
  ⟨_, fun _ => foldl_onPeerHealth_of_ne_dead (fun _ => ne_dead_of_mark h hc) _ h.listens⟩

theorem foldl_marks (h : app.Live) (depth : ℕ) {calls : List HealthCall}
    (hcalls : ∀ c ∈ calls, IsMark c) :
    calls.foldl (call (depth + 1)) app = calls.foldl (call 1) app := by
  refine (List.foldl_rel (r := fun x y : ComposedApp => x.Live ∧ x = y) ⟨h, rfl⟩ ?_).2
  rintro c hmem app _ ⟨h, rfl⟩
  obtain ⟨topologyStore, heq⟩ := call_mark h (hcalls c hmem)
  exact ⟨live_call _ app c h, (heq depth).trans (heq 0).symm⟩

/-- The subscription, on which the network calls the store back with marks alone. -/
theorem onPeerHealth_depth (h : app.Live) (depth : ℕ) (snapshot : ClusterPeerHealthSnapshot) :
    onPeerHealth (call (depth + 1)) app snapshot = onPeerHealth (call 1) app snapshot := by
  unfold onPeerHealth
  dsimp only
  split_ifs
  · rfl
  · refine foldl_marks ?_ depth (marks_of_disconnect _ _ _)
    exact ⟨h.health, h.listens⟩
  · rfl

/-- **Two levels are enough: the subscription runs inside of itself once at most.** -/
theorem call_two (h : app.Live) (depth : ℕ) (c : HealthCall) :
    call (depth + 2) app c = call 2 app c := by
  refine (List.foldl_rel (r := fun x y : ComposedApp => x.Live ∧ x = y) ⟨h.hears c, rfl⟩ ?_).2
  rintro snapshot - app _ ⟨h, rfl⟩
  exact ⟨live_onPeerHealth (live_call _) h snapshot, onPeerHealth_depth h depth snapshot⟩

/-! ### Without the topology store -/

theorem notify_fst (app : RuntimeApp) (snapshots : List ClusterPeerHealthSnapshot) :
    (app.notify snapshots).1 = snapshots.foldl (Machine.next RuntimeApp.onPeerHealth) app := by
  induction snapshots generalizing app with
  | nil => rfl
  | cons snapshot rest ih => exact ih _

/-- The two apps side by side. -/
def Forgets (app : ComposedApp) (app' : RuntimeApp) : Prop :=
  app.Live ∧ app.toRuntimeApp = app'

theorem toRuntimeApp_marks {calls : List HealthCall} (hcalls : ∀ c ∈ calls, IsMark c) :
    ∀ app : ComposedApp, app.Live →
      (calls.foldl (call 1) app).toRuntimeApp = { app.toRuntimeApp with
        clusterPeerHealth :=
          Machine.run ClusterPeerHealthStore.step app.clusterPeerHealth calls } := by
  induction calls with
  | nil => exact fun _ _ => rfl
  | cons c calls ih =>
    intro app h
    obtain ⟨hc, hrest⟩ := List.forall_mem_cons.1 hcalls
    obtain ⟨topologyStore, heq⟩ := call_mark h hc
    rw [List.foldl_cons, ih hrest _ (live_call 1 app c h), heq 0]
    rfl

theorem toRuntimeApp_onPeerHealth (h : app.Live) (snapshot : ClusterPeerHealthSnapshot) :
    (onPeerHealth (call 1) app snapshot).toRuntimeApp =
      (app.toRuntimeApp.onPeerHealth snapshot).1 := by
  unfold onPeerHealth RuntimeApp.onPeerHealth
  rw [if_neg (by simp [h.listens])]
  dsimp only
  by_cases hd : snapshot.status = .dead
  · rw [if_pos hd, if_pos ⟨h.listens, hd⟩]
    refine toRuntimeApp_marks (marks_of_disconnect _ _ _) _ ?_
    exact ⟨h.health, h.listens⟩
  · rw [if_neg hd, if_neg fun hboth => hd hboth.2]

theorem toRuntimeApp_call (h : app.Live) (c : HealthCall) :
    (call 2 app c).toRuntimeApp = (app.toRuntimeApp.call c).1 := by
  refine Eq.trans ?_ (notify_fst _ _).symm
  refine (List.foldl_rel (r := Forgets) ⟨h.hears c, rfl⟩ ?_).2
  rintro snapshot - app _ ⟨h, rfl⟩
  exact ⟨live_onPeerHealth (live_call 1) h snapshot, toRuntimeApp_onPeerHealth h snapshot⟩

theorem toRuntimeApp_calls (h : app.Live) (calls : List HealthCall) :
    (calls.foldl (call 2) app).toRuntimeApp =
      Machine.run (Machine.next RuntimeApp.call) app.toRuntimeApp calls := by
  refine (List.foldl_rel (r := Forgets) ⟨h, rfl⟩ ?_).2
  rintro c - app _ ⟨h, rfl⟩
  exact ⟨live_call 2 app c h, toRuntimeApp_call h c⟩

theorem toRuntimeApp_onTopology (h : app.Live) : app.onTopology.toRuntimeApp =
    (app.toRuntimeApp.step (.topology (app.topologyStore.listClusterPeers app.nodeId))).1 := by
  unfold onTopology
  rw [RuntimeApp.step, if_neg (by simp [h.listens]), if_neg (by simp [h.listens])]
  dsimp only
  rw [← toRuntimeApp_call h]

/-- The event of the app without the topology store; the observation of the observer is a call. -/
def Event.forget (app : ComposedApp) : Event → Option RuntimeApp.Event
  | .observe _ => none
  | .network e => some (.network e)
  | .timerFires handle => some (.timerFires handle)
  | .advance ms => some (.advance ms)
  | .setTopology hosts =>
    some (.topology ((app.topologyStore.setTopology hosts).listClusterPeers app.nodeId))

/-- **Without the topology store every step is one of the `RuntimeApp`.** -/
theorem toRuntimeApp_step (h : app.Live) {e : Event} {e' : RuntimeApp.Event}
    (he : e.forget app = some e') :
    (app.step e).toRuntimeApp = (app.toRuntimeApp.step e').1 := by
  cases e with
  | observe observation => cases he
  | network e =>
    cases he
    exact @toRuntimeApp_calls { app with clusterNetwork := app.clusterNetwork.step e }
      ⟨h.health, h.listens⟩ _
  | timerFires handle => cases he; exact toRuntimeApp_call h _
  | advance ms => cases he; exact toRuntimeApp_call h _
  | setTopology hosts =>
    cases he
    exact @toRuntimeApp_onTopology
      { app with topologyStore := app.topologyStore.setTopology hosts } ⟨h.health, h.listens⟩

/-! ### The record is what the store says -/

/-- The record is what the health store says of every peer. -/
structure Mirrors (app : ComposedApp) : Prop extends app.Live where
  recorded : ∀ n, app.topologyStore.recordedStatus n = app.clusterPeerHealth.getStatus n

/-- What the network reports keeps the known peers. -/
theorem keepsPeers_of_observed {effect : ClusterEffect} (h : effect.observed = some c) :
    c.KeepsPeers := by
  cases effect <;> cases h <;> trivial

/-- The reports of the network, one after the other. -/
theorem mirrors_foldl (hagain : ∀ app c, Mirrors app → c.KeepsPeers → Mirrors (again app c))
    (h : app.Mirrors) (effects : List ClusterEffect) :
    ((effects.filterMap ClusterEffect.observed).foldl again app).Mirrors := by
  refine List.foldlRecOn _ _ h fun app happ c hc => ?_
  obtain ⟨effect, -, hobs⟩ := List.mem_filterMap.1 hc
  exact hagain app c happ (keepsPeers_of_observed hobs)

/-- The listener writes the snapshot before it disconnects the peer, and what the network reports
meanwhile is written in its turn. -/
theorem mirrors_onPeerHealth
    (hagain : ∀ app c, Mirrors app → c.KeepsPeers → Mirrors (again app c))
    {snapshot : ClusterPeerHealthSnapshot} (h : app.Live)
    (hnew : ∀ n, app.clusterPeerHealth.getStatus n =
      if n = snapshot.nodeId then snapshot.status else app.topologyStore.recordedStatus n) :
    (onPeerHealth again app snapshot).Mirrors := by
  have hset (n : JsString) :
      (app.topologyStore.setRuntimePeerHealth snapshot.nodeId snapshot.status).recordedStatus n =
        app.clusterPeerHealth.getStatus n := by
    rw [RuntimeTopologyStore.recordedStatus_set, hnew]
  unfold onPeerHealth
  rw [if_neg (by simp [h.listens])]
  dsimp only
  split_ifs
  · refine mirrors_foldl hagain ?_ _
    exact ⟨⟨h.health, h.listens⟩, hset⟩
  · exact ⟨⟨h.health, h.listens⟩, hset⟩

/-- **A call that keeps the known peers keeps the record, at any depth.** -/
theorem mirrors_call (depth : ℕ) : ∀ (app : ComposedApp) (c : HealthCall), app.Mirrors →
    c.KeepsPeers → (call depth app c).Mirrors := by
  induction depth with
  | zero => exact fun _ _ h _ => h
  | succ depth ih =>
    intro app c h hc
    rcases ClusterPeerHealthStore.step_tells h.health hc with ⟨heq, hsame⟩ | ⟨snapshot, heq, hnew⟩
    · -- nobody is told, and nothing has changed
      rw [call, heq, List.drop_length]
      exact ⟨h.hears c, fun n => (h.recorded n).trans (hsame n).symm⟩
    · rw [call, heq, List.drop_left]
      refine mirrors_onPeerHealth ih (h.hears c) fun n => (hnew n).trans ?_
      rw [h.recorded]

/-- The two tables are pruned to the same peers, of which nobody is told. -/
theorem mirrors_onTopology (h : app.Mirrors) : app.onTopology.Mirrors := by
  have hquiet (nodeIds : List JsString) : call 2 app (.noteKnownPeers nodeIds) =
      { app with clusterPeerHealth := app.clusterPeerHealth.noteKnownPeers nodeIds } := by
    show List.foldl _ _ (List.drop _ app.clusterPeerHealth.emitted) = _
    rw [List.drop_length]
    rfl
  unfold onTopology
  rw [if_neg (by simp [h.listens])]
  dsimp only
  rw [hquiet]
  refine ⟨⟨(ClusterPeerHealthStore.spec_noteKnownPeers h.health _).1, h.listens⟩, fun n => ?_⟩
  dsimp only
  rw [RuntimeTopologyStore.recordedStatus_clear, ClusterPeerHealthStore.getStatus_noteKnownPeers,
    h.recorded]

theorem mirrors_step (h : app.Mirrors) (e : Event) : (app.step e).Mirrors := by
  cases e with
  | observe observation =>
    have hc : observation.toCall.KeepsPeers := by cases observation <;> trivial
    exact mirrors_call 2 _ _ h hc
  | network e =>
    exact @mirrors_foldl { app with clusterNetwork := app.clusterNetwork.step e } _
      (mirrors_call 2) ⟨⟨h.health, h.listens⟩, h.recorded⟩ _
  | timerFires handle => exact mirrors_call 2 _ _ h trivial
  | advance ms => exact mirrors_call 2 _ _ h trivial
  | setTopology hosts => exact mirrors_onTopology ⟨⟨h.health, h.listens⟩, h.recorded⟩

theorem mirrors_create (options : ClusterNetworkOptions) (precedes : JsString → JsString → Bool)
    (peers : List ClusterPeerNode) (peerSuspectTimeoutMs clock : ℕ) :
    (create options precedes peers peerSuspectTimeoutMs clock).Mirrors := by
  refine ⟨⟨(RuntimeApp.sound_create options peers peerSuspectTimeoutMs clock).health, rfl⟩,
    fun n => ?_⟩
  show ClusterPeerHealthStatus.unknown = ClusterPeerHealthStore.getStatus _ n
  rw [create, RuntimeApp.create, ClusterPeerHealthStore.getStatus_noteKnownPeers]
  split_ifs <;> rfl

/-- **In every state between events the topology store has recorded of every peer, known or not, the
status that the health store has of it.** -/
theorem routing_mirrors_health (options : ClusterNetworkOptions)
    (precedes : JsString → JsString → Bool) (peers : List ClusterPeerNode)
    (peerSuspectTimeoutMs clock : ℕ) (es : List Event) (n : JsString) :
    let app := Machine.run step (create options precedes peers peerSuspectTimeoutMs clock) es
    app.topologyStore.recordedStatus n = app.clusterPeerHealth.getStatus n :=
  (Machine.run_invariant (mirrors_create options precedes peers peerSuspectTimeoutMs clock)
    (fun _ e h => mirrors_step h e) es).recorded n

/-- A peer that has a channel is declared dead, and suspect again when its channel is closed. -/
example : (Machine.run step
    (create { nodeId := js "a" } (fun _ _ => true) [⟨js "b", js "http://b"⟩] 5000 0)
    [.network (.openServerSocket 0),
      .network (.messageServerSocket 0 (ClusterSocketMessage.hello (js "b") none).toJson.stringify),
      .observe (.markSuspect (js "b") none), .advance 5000,
      .timerFires 0]).topologyStore.recordedStatus (js "b") = .suspect := by
  decide +kernel

end ComposedApp

end Hardess
