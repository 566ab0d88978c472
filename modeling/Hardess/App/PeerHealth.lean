import Hardess.Cluster.Reports
import Hardess.Cluster.Suspicion

/-!
# The health of the peers of an app

`createRuntimeApp` of `src/runtime/app.ts` gives its cluster network the health store as observer,
and subscribes to the store: a peer that is declared dead is disconnected. `disconnectPeer` reports a
peer whose channel it closes suspect, so the subscription calls the store back.

* `RuntimeApp`: the store, the network and the subscription; each step puts out the calls of the
  store in their order, those of the subscription included;
* `KeepsDead`: a call leaves a dead peer dead, or is evidence of life, or drops the peer;
* `Spares`: the calls after which the subscription stays quiet and no dead peer turns suspect;
* **`dead_until_evidence`**: in a run whose events spare the dead peers, every call keeps them dead.

The rumors that the subscription broadcasts leave with `ensureChannel` events of the network, and
what `peerHealthSnapshotProvider` gives comes with its `healthChanged` events.
-/

namespace Hardess

deriving instance DecidableEq for ClusterPeerHealthStore.Event

/-- The part of an app that is about the health of its peers. -/
structure RuntimeApp where
  clusterPeerHealth : ClusterPeerHealthStore
  clusterNetwork : ClusterNetwork
  disposed : Bool := false

namespace RuntimeApp

/-- A call of the health store. -/
abbrev HealthCall := ClusterPeerHealthStore.Event

/-- `createRuntimeApp`. -/
def create (options : ClusterNetworkOptions) (peers : List ClusterPeerNode)
    (peerSuspectTimeoutMs clock : ℕ) : RuntimeApp where
  clusterPeerHealth :=
    (ClusterPeerHealthStore.create peerSuspectTimeoutMs clock).noteKnownPeers
      (peers.map ClusterPeerNode.nodeId)
  clusterNetwork := (ClusterNetwork.create options).setPeers peers

variable (app : RuntimeApp)

/-- The listener of `clusterPeerHealth.subscribe`, with the calls by which the network reports to
the store what it does. These are about a suspect peer, on which the listener does nothing more. -/
def onPeerHealth (snapshot : ClusterPeerHealthSnapshot) : RuntimeApp × List HealthCall :=
  if app.disposed = false ∧ snapshot.status = .dead then
    let network := app.clusterNetwork.step
      (.disconnectPeer snapshot.nodeId (js "cluster peer marked dead"))
    let calls := network.effects.filterMap ClusterEffect.observed
    ({ app with
      clusterNetwork := network
      clusterPeerHealth := Machine.run ClusterPeerHealthStore.step app.clusterPeerHealth calls },
      calls)
  else (app, [])

/-- The listener on the snapshots that a call emitted. -/
def notify (app : RuntimeApp) : List ClusterPeerHealthSnapshot → RuntimeApp × List HealthCall
  | [] => (app, [])
  | snapshot :: rest =>
    let (app₁, calls) := app.onPeerHealth snapshot
    let (app₂, calls') := app₁.notify rest
    (app₂, calls ++ calls')

/-- One call of the store, with the calls that the subscription makes back. -/
def call (c : HealthCall) : RuntimeApp × List HealthCall :=
  let health := app.clusterPeerHealth.step c
  let (app', calls) := { app with clusterPeerHealth := health }.notify
    (health.emitted.drop app.clusterPeerHealth.emitted.length)
  (app', c :: calls)

/-- What can happen: an event of the network, a timer of the store, the clock, a change of the
topology, and `dispose`. -/
inductive Event
  | network (e : ClusterNetwork.Event)
  | timerFires (handle : ℕ)
  | advance (ms : ℕ)
  | topology (peers : List ClusterPeerNode)
  | dispose

/-- One event, with the calls of the store in their order. -/
def step : Event → RuntimeApp × List HealthCall
  | .network e =>
    let network := app.clusterNetwork.step e
    let app₁ := { app with clusterNetwork := network }
    let calls := network.effects.filterMap ClusterEffect.observed
    (Machine.run (Machine.next call) app₁ calls, Machine.outputs call app₁ calls)
  | .timerFires handle => app.call (.timerFires handle)
  | .advance ms => app.call (.advance ms)
  | .topology peers =>
    if app.disposed then (app, [])
    else
      let (app', calls) := app.call (.noteKnownPeers (peers.map ClusterPeerNode.nodeId))
      ({ app' with clusterNetwork := app'.clusterNetwork.step (.setPeers peers) }, calls)
  | .dispose =>
    let (app', calls) := { app with disposed := true }.call .dispose
    ({ app' with clusterNetwork := app'.clusterNetwork.step .dispose }, calls)

end RuntimeApp

/-! ### What a call does to a dead peer -/

namespace ClusterPeerHealthStore

variable {st : ClusterPeerHealthStore} {c : Event}

/-- The call is evidence that the peer lives, or drops it: an alive observation, a rumor with a newer
incarnation, a known set without it, the end of the store. -/
def Releases (st : ClusterPeerHealthStore) (n : JsString) : Event → Prop
  | .markAlive m _ => m = n
  | .applyRumor rumor _ =>
      rumor.nodeId = n ∧ (st.entry n).incarnation.lt rumor.incarnation = true
  | .noteKnownPeers nodeIds => n ∉ nodeIds
  | .dispose => True
  | _ => False

/-- A dead peer stays dead, unless the call is evidence that it lives or drops it. -/
def KeepsDead (st : ClusterPeerHealthStore) (c : Event) : Prop :=
  ∀ n, st.getStatus n = .dead → (st.step c).getStatus n = .dead ∨ st.Releases n c

theorem status_entry {n : JsString} (h : st.getStatus n = .dead) :
    (st.entry n).status = .dead := by
  unfold getStatus at h
  unfold entry
  cases he : st.entries.get n with
  | none =>
    rw [he] at h
    cases h
  | some e =>
    rw [he] at h
    exact h

/-- Of a dead peer only rumors with a newer incarnation are applied. -/
theorem newer_of_shouldApplyRumor {current : ClusterPeerHealthEntry}
    {rumor : ClusterPeerHealthRumor} (hdead : current.status = .dead)
    (h : shouldApplyRumor current rumor = true) :
    current.incarnation.lt rumor.incarnation = true := by
  by_contra hlt
  unfold shouldApplyRumor at h
  rw [hdead, if_neg (by decide), if_neg hlt] at h
  have hrank : ¬statusRank .dead < statusRank rumor.status.toStatus := by
    cases rumor.status <;> decide
  split_ifs at h
  exact hrank (by simpa using h)

theorem getStatus_step (hg : st.Good) (n : JsString) (c : Event) :
    (st.step c).getStatus n =
      match st.outcome n c with
      | .keep => st.getStatus n
      | .remove => .unknown
      | .become status => status.toStatus := by
  rw [getStatus_eq_peer, getStatus_eq_peer, (peer_step hg c).2]
  cases st.outcome n c <;> rfl

theorem releases_of_remove {n : JsString} (h : st.outcome n c = .remove) : st.Releases n c := by
  cases c with
  | noteKnownPeers nodeIds =>
    simp only [outcome] at h
    split_ifs at h with hn
    exact hn
  | dispose => trivial
  | markAlive m detail => simp only [outcome, localOutcome] at h; split_ifs at h
  | markSuspect m detail => simp only [outcome, localOutcome] at h; split_ifs at h
  | markDead m detail => simp only [outcome, localOutcome] at h; split_ifs at h
  | applyRumor rumor by' => simp only [outcome, rumorOutcome] at h; split_ifs at h
  | timerFires handle =>
    simp only [outcome] at h
    split at h
    · split_ifs at h
    · cases h
  | advance ms => cases h

/-- A local observation makes a peer what it was observed to be. -/
theorem localOutcome_become {n m : JsString} {status status' : ReportedStatus} {again : Prop}
    [Decidable again]
    (h : (if m = n then st.localOutcome m status again else .keep) = .become status') :
    status = status' := by
  unfold localOutcome at h
  split_ifs at h
  cases h
  rfl

theorem releases_of_alive {n : JsString} (hdead : st.getStatus n = .dead)
    (h : st.outcome n c = .become .alive) : st.Releases n c := by
  cases c with
  | markAlive m detail =>
    simp only [outcome] at h
    split_ifs at h with hm
    exact hm
  | applyRumor rumor by' =>
    simp only [outcome, rumorOutcome] at h
    split_ifs at h with hm _ hr
    subst hm
    exact ⟨rfl, newer_of_shouldApplyRumor (status_entry hdead) hr⟩
  | noteKnownPeers nodeIds => simp only [outcome] at h; split_ifs at h
  | dispose => cases h
  | markSuspect m detail => exact absurd (localOutcome_become h) (by decide)
  | markDead m detail => exact absurd (localOutcome_become h) (by decide)
  | timerFires handle =>
    simp only [outcome] at h
    split at h
    · split_ifs at h
      cases h
    · cases h
  | advance ms => cases h

/-- Only a suspect observation takes a dead peer back to suspicion on no evidence of life. -/
theorem keepsDead_of_not_suspect (hg : st.Good)
    (h : ∀ n detail, c = .markSuspect n detail → st.getStatus n ≠ .dead) : st.KeepsDead c := by
  intro n hdead
  rw [getStatus_step hg]
  cases ho : st.outcome n c with
  | keep => exact .inl hdead
  | remove => exact .inr (releases_of_remove ho)
  | become status =>
    cases status with
    | alive => exact .inr (releases_of_alive hdead ho)
    | dead => exact .inl rfl
    | suspect =>
      have hs := (outcome_eq_suspect_iff n c).1 ho
      cases c with
      | markSuspect m detail =>
        obtain ⟨rfl, -⟩ := hs
        exact absurd hdead (h _ detail rfl)
      | applyRumor rumor by' =>
        obtain ⟨hn, -, -, hr⟩ := hs
        exact .inr ⟨hn, newer_of_shouldApplyRumor (status_entry hdead) hr⟩
      | _ => exact hs.elim

/-! ### What a call announces -/

/-- At most one snapshot is emitted, and it meets `P`. -/
def Announces (P : ClusterPeerHealthSnapshot → Prop) (st st' : ClusterPeerHealthStore) : Prop :=
  st'.emitted = st.emitted ∨ ∃ snapshot, st'.emitted = st.emitted ++ [snapshot] ∧ P snapshot

@[simp] theorem ensureSuspectTimer_emitted (n : JsString) (detail : Option JsString) :
    (st.ensureSuspectTimer n detail).emitted = st.emitted := by
  unfold ensureSuspectTimer
  split
  · rfl
  · split_ifs <;> rfl

theorem emit_announces {st' : ClusterPeerHealthStore} {P : ClusterPeerHealthSnapshot → Prop}
    {e : ClusterPeerHealthEntry} (h : st'.emitted = st.emitted)
    (hP : P e.toClusterPeerHealthSnapshot) : Announces P st (st'.emit e) :=
  .inr ⟨_, congrArg (· ++ [e.toClusterPeerHealthSnapshot]) h, hP⟩

theorem applyLocalStatus_announces {e : ClusterPeerHealthEntry} {status : ReportedStatus}
    {P : ClusterPeerHealthSnapshot → Prop}
    (hP : ∀ snapshot : ClusterPeerHealthSnapshot, snapshot.nodeId = e.nodeId →
      snapshot.status = status.toStatus → P snapshot) (detail : Option JsString) :
    Announces P st (st.applyLocalStatus e status detail) := by
  unfold applyLocalStatus
  exact emit_announces (clearTimeout_emitted e.deadTimer) (hP _ rfl rfl)

theorem markDead_announces {P : ClusterPeerHealthSnapshot → Prop} {n : JsString}
    {detail : Option JsString}
    (hP : ∀ snapshot : ClusterPeerHealthSnapshot, snapshot.nodeId = (st.entry n).nodeId →
      st.localOutcome n .dead ((st.entry n).detail = detail) = .become .dead → P snapshot) :
    Announces P st (st.markDead n detail) := by
  unfold markDead
  by_cases hk : st.isUnknownPeer n = true
  · rw [if_pos hk]
    exact .inl rfl
  · rw [if_neg hk]
    dsimp only
    split_ifs with hc
    · exact .inl rfl
    · exact applyLocalStatus_announces
        (fun _ hn _ => hP _ hn (localOutcome_new (by simpa using hk) hc)) _

/-- A call announces that a peer is dead only if it makes it dead. -/
theorem step_announces (hg : st.Good) (c : Event) :
    Announces (fun snapshot => snapshot.status = .dead →
      st.outcome snapshot.nodeId c = .become .dead) st (st.step c) := by
  cases c with
  | noteKnownPeers nodeIds => exact .inl rfl
  | dispose => exact .inl rfl
  | advance ms => exact .inl rfl
  | markAlive n detail =>
    show Announces _ st (st.markAlive n detail)
    unfold markAlive
    dsimp only
    split_ifs
    · exact .inl rfl
    · exact .inl rfl
    · exact applyLocalStatus_announces (fun _ _ hs hd => by rw [hs] at hd; cases hd) _
  | markSuspect n detail =>
    show Announces _ st (st.markSuspect n detail)
    unfold markSuspect Announces
    dsimp only
    rw [apply_ite emitted, ensureSuspectTimer_emitted]
    split_ifs
    · exact .inl rfl
    · exact .inl rfl
    · exact applyLocalStatus_announces (fun _ _ hs hd => by rw [hs] at hd; cases hd) _
  | markDead n detail =>
    refine markDead_announces fun snapshot hn ho _ => ?_
    rw [hn, entry_nodeId hg]
    simpa [outcome] using ho
  | applyRumor rumor by' =>
    show Announces _ st (st.applyRumor rumor by')
    unfold applyRumor
    by_cases hk : st.isUnknownPeer rumor.nodeId = true
    · rw [if_pos hk]
      exact .inl rfl
    rw [if_neg hk]
    dsimp only
    by_cases hr : shouldApplyRumor (st.entry rumor.nodeId) rumor = true
    · rw [hr, if_neg (by decide)]
      refine emit_announces (by rw [apply_ite emitted]; simp [setEntry]) fun hdead => ?_
      have hid : (st.entry rumor.nodeId).nodeId = rumor.nodeId := entry_nodeId hg _
      -- a rumor that makes it dead says so itself
      have hstatus : rumor.status = .dead := by
        cases hs : rumor.status <;> simp_all [ReportedStatus.toStatus]
      simp [outcome, rumorOutcome, hid, hk, hr, hstatus]
    · rw [if_pos (by simpa using hr)]
      split_ifs
      · exact .inl rfl
      · exact .inl rfl
  | timerFires handle =>
    show Announces _ st (st.timerFires handle)
    unfold timerFires
    cases ht : st.timers.get handle with
    | none => exact .inl rfl
    | some t =>
      dsimp only
      split_ifs with hdue
      · cases he : st.entries.get t.nodeId with
        | none => exact .inl rfl
        | some latest =>
          dsimp only
          split_ifs
          · exact .inl rfl
          · refine @markDead_announces (setEntry { st with timers := st.timers.delete handle }
              { latest with deadTimer := none }) _ _ _ fun snapshot hn _ _ => ?_
            -- the entry is under the node of the timer
            have hkey : latest.nodeId = t.nodeId := hg.key _ _ he
            have hnode : snapshot.nodeId = t.nodeId := by
              rw [hn]
              simp [entry, setEntry, hkey]
            simp [outcome, ht, hnode, hdue]
      · exact .inl rfl

end ClusterPeerHealthStore

/-! ### Runs of the app -/

namespace RuntimeApp

open ClusterPeerHealthStore (KeepsDead)

variable {app : RuntimeApp}

/-- The store is in order, and so is the network. -/
structure Sound (app : RuntimeApp) : Prop where
  health : app.clusterPeerHealth.Good
  network : app.clusterNetwork.Sound

theorem network_sound {st : ClusterNetwork} (h : st.Sound) (e : ClusterNetwork.Event) :
    (st.step e).Sound := (ClusterNetwork.step_evolves h e).sound

theorem sound_create (options : ClusterNetworkOptions) (peers : List ClusterPeerNode)
    (peerSuspectTimeoutMs clock : ℕ) : (create options peers peerSuspectTimeoutMs clock).Sound where
  health := (ClusterPeerHealthStore.spec_noteKnownPeers
    (ClusterPeerHealthStore.good_create _ _) _).1
  network := network_sound (ClusterNetwork.sound_create options) (.setPeers peers)

/-- What the listener makes of a snapshot: it runs the store through the calls it puts out. -/
theorem onPeerHealth_spec (h : app.Sound) (snapshot : ClusterPeerHealthSnapshot) :
    (app.onPeerHealth snapshot).1.Sound ∧
      (app.onPeerHealth snapshot).1.clusterPeerHealth =
        Machine.run ClusterPeerHealthStore.step app.clusterPeerHealth
          (app.onPeerHealth snapshot).2 := by
  unfold onPeerHealth
  dsimp only
  split_ifs
  · exact ⟨⟨ClusterPeerHealthStore.good_run h.health _,
      network_sound h.network (.disconnectPeer _ _)⟩, rfl⟩
  · exact ⟨h, rfl⟩

theorem notify_spec (h : app.Sound) (snapshots : List ClusterPeerHealthSnapshot) :
    (app.notify snapshots).1.Sound ∧
      (app.notify snapshots).1.clusterPeerHealth =
        Machine.run ClusterPeerHealthStore.step app.clusterPeerHealth (app.notify snapshots).2 := by
  induction snapshots generalizing app with
  | nil => exact ⟨h, rfl⟩
  | cons snapshot rest ih =>
    obtain ⟨h₁, hrun₁⟩ := onPeerHealth_spec h snapshot
    obtain ⟨h₂, hrun₂⟩ := ih h₁
    refine ⟨h₂, ?_⟩
    rw [hrun₁, ← Machine.run_append] at hrun₂
    exact hrun₂

/-- A call and what follows it, as calls of the store. -/
theorem call_spec (h : app.Sound) (c : HealthCall) :
    (app.call c).1.Sound ∧ (app.call c).1.clusterPeerHealth =
      Machine.run ClusterPeerHealthStore.step app.clusterPeerHealth (app.call c).2 :=
  @notify_spec { app with clusterPeerHealth := app.clusterPeerHealth.step c }
    ⟨(ClusterPeerHealthStore.peer_step h.health c).1, h.network⟩ _

/-- The calls of the store, one after the other. -/
theorem calls_spec (h : app.Sound) (calls : List HealthCall) :
    (Machine.run (Machine.next call) app calls).Sound ∧
      (Machine.run (Machine.next call) app calls).clusterPeerHealth =
        Machine.run ClusterPeerHealthStore.step app.clusterPeerHealth
          (Machine.outputs call app calls) := by
  induction calls generalizing app with
  | nil => exact ⟨h, rfl⟩
  | cons c calls ih =>
    obtain ⟨h₁, hrun₁⟩ := call_spec h c
    obtain ⟨h₂, hrun₂⟩ := ih h₁
    refine ⟨h₂, ?_⟩
    rw [Machine.run_cons, Machine.outputs, Machine.run_append]
    exact hrun₂.trans (congrArg (Machine.run _ · _) hrun₁)

/-- **Every step runs the store through exactly the calls that it puts out.** -/
theorem step_spec (h : app.Sound) (e : Event) :
    (app.step e).1.Sound ∧ (app.step e).1.clusterPeerHealth =
      Machine.run ClusterPeerHealthStore.step app.clusterPeerHealth (app.step e).2 := by
  cases e with
  | network e =>
    exact @calls_spec { app with clusterNetwork := app.clusterNetwork.step e }
      ⟨h.health, network_sound h.network e⟩ _
  | timerFires handle => exact call_spec h _
  | advance ms => exact call_spec h _
  | topology peers =>
    unfold step
    split_ifs
    · exact ⟨h, rfl⟩
    · obtain ⟨h₁, hrun⟩ := call_spec h (.noteKnownPeers (peers.map ClusterPeerNode.nodeId))
      exact ⟨⟨h₁.health, network_sound h₁.network (.setPeers peers)⟩, hrun⟩
  | dispose =>
    obtain ⟨h₁, hrun⟩ := @call_spec { app with disposed := true } ⟨h.health, h.network⟩ .dispose
    exact ⟨⟨h₁.health, network_sound h₁.network .dispose⟩, hrun⟩

/-! ### The condition -/

/-- The call does not report a dead peer suspect, and declares no peer dead that has a channel while
the app listens. -/
def Spares (app : RuntimeApp) (st : ClusterPeerHealthStore) (c : HealthCall) : Prop :=
  (∀ n detail, c = .markSuspect n detail → st.getStatus n ≠ .dead) ∧
    (app.disposed = false → ∀ n, st.outcome n c = .become .dead →
      app.clusterNetwork.channelsByNodeId.get n = none)

/-- The event makes the network report no dead peer suspect, and neither its gossip nor its timer
declares a peer dead that has a channel while the app listens. -/
def SparesDead (app : RuntimeApp) : Event → Prop
  | .network e =>
    (∀ n, app.clusterNetwork.Suspects n e → app.clusterPeerHealth.getStatus n ≠ .dead) ∧
      Machine.Along ClusterPeerHealthStore.step app.Spares app.clusterPeerHealth
        (app.clusterNetwork.gossip e)
  | .timerFires handle => app.Spares app.clusterPeerHealth (.timerFires handle)
  | _ => True

/-- The peer has no channel: the listener only stops its probe. -/
theorem onPeerHealth_of_no_channel {snapshot : ClusterPeerHealthSnapshot}
    (h : app.disposed = false → snapshot.status = .dead →
      app.clusterNetwork.channelsByNodeId.get snapshot.nodeId = none) :
    (app.onPeerHealth snapshot).2 = [] ∧
      (app.onPeerHealth snapshot).1.disposed = app.disposed ∧
      (app.onPeerHealth snapshot).1.clusterNetwork.channelsByNodeId =
        app.clusterNetwork.channelsByNodeId := by
  unfold onPeerHealth
  split_ifs with hc
  · have hchannels : (app.clusterNetwork.cleared.clearPendingProbe
        snapshot.nodeId).channelsByNodeId = app.clusterNetwork.channelsByNodeId :=
      ClusterNetwork.eq_of_tables ClusterNetwork.channelsByNodeId (fun _ => rfl)
        (ClusterNetwork.tables_clearPendingProbe snapshot.nodeId)
    have hstep : app.clusterNetwork.step
        (.disconnectPeer snapshot.nodeId (js "cluster peer marked dead")) =
        app.clusterNetwork.cleared.clearPendingProbe snapshot.nodeId := by
      show app.clusterNetwork.cleared.disconnectPeer _ _ = _
      unfold ClusterNetwork.disconnectPeer
      dsimp only
      rw [hchannels, h hc.1 hc.2]
    dsimp only
    rw [hstep, ClusterNetwork.effects_clearPendingProbe]
    exact ⟨rfl, rfl, hchannels⟩
  · exact ⟨rfl, rfl, rfl⟩

/-- None of the peers declared dead has a channel. -/
theorem notify_of_no_channel {snapshots : List ClusterPeerHealthSnapshot}
    (h : ∀ snapshot ∈ snapshots, app.disposed = false → snapshot.status = .dead →
      app.clusterNetwork.channelsByNodeId.get snapshot.nodeId = none) :
    (app.notify snapshots).2 = [] ∧ (app.notify snapshots).1.disposed = app.disposed ∧
      (app.notify snapshots).1.clusterNetwork.channelsByNodeId =
        app.clusterNetwork.channelsByNodeId := by
  induction snapshots generalizing app with
  | nil => exact ⟨rfl, rfl, rfl⟩
  | cons snapshot rest ih =>
    obtain ⟨hnone, hd, hc⟩ := onPeerHealth_of_no_channel (h snapshot (List.mem_cons_self ..))
    obtain ⟨hnone', hd', hc'⟩ := @ih (app.onPeerHealth snapshot).1 fun s hs => by
      rw [hd, hc]
      exact h s (List.mem_cons_of_mem _ hs)
    refine ⟨?_, hd'.trans hd, hc'.trans hc⟩
    show (app.onPeerHealth snapshot).2 ++ ((app.onPeerHealth snapshot).1.notify rest).2 = []
    rw [hnone, hnone', List.append_nil]

/-- A call that spares the dead peers is not followed by another one. -/
theorem call_of_spares (h : app.Sound) {c : HealthCall} (hs : app.Spares app.clusterPeerHealth c) :
    (app.call c).2 = [c] ∧ (app.call c).1.Spares = app.Spares := by
  have hnew : ∀ snapshot ∈
      (app.clusterPeerHealth.step c).emitted.drop app.clusterPeerHealth.emitted.length,
      app.disposed = false → snapshot.status = .dead →
        app.clusterNetwork.channelsByNodeId.get snapshot.nodeId = none := by
    intro snapshot hmem hlisten hd
    rcases ClusterPeerHealthStore.step_announces h.health c with heq | ⟨s, heq, hdead⟩
    · rw [heq, List.drop_length] at hmem
      cases hmem
    · rw [heq, List.drop_left] at hmem
      obtain rfl := List.mem_singleton.1 hmem
      exact hs.2 hlisten _ (hdead hd)
  obtain ⟨hnone, hd, hc⟩ := @notify_of_no_channel
    { app with clusterPeerHealth := app.clusterPeerHealth.step c } _ hnew
  refine ⟨congrArg (c :: ·) hnone, ?_⟩
  have hd' : (app.call c).1.disposed = app.disposed := hd
  have hc' : (app.call c).1.clusterNetwork.channelsByNodeId =
      app.clusterNetwork.channelsByNodeId := hc
  funext st c'
  rw [Spares, Spares, hd', hc']

/-- Calls that spare the dead peers are the only calls, and keep them dead. -/
theorem calls_of_spares (calls : List HealthCall) : ∀ app : RuntimeApp, app.Sound →
    Machine.Along ClusterPeerHealthStore.step app.Spares app.clusterPeerHealth calls →
    Machine.Along ClusterPeerHealthStore.step KeepsDead app.clusterPeerHealth
      (Machine.outputs call app calls) := by
  induction calls with
  | nil => intro _ _ _; trivial
  | cons c calls ih =>
    rintro app h ⟨hc, hrest⟩
    obtain ⟨h₁, hrun⟩ := call_spec h c
    obtain ⟨hone, hsame⟩ := call_of_spares h hc
    rw [hone] at hrun
    rw [Machine.outputs, hone]
    refine ⟨ClusterPeerHealthStore.keepsDead_of_not_suspect h.health hc.1, ?_⟩
    have hstep : (Machine.next call app c).clusterPeerHealth = app.clusterPeerHealth.step c := hrun
    rw [← hstep]
    refine ih _ h₁ ?_
    rw [hstep]
    exact hsame ▸ hrest

/-- Marks of life, and of suspicion on peers that are not dead, spare the dead ones. -/
theorem along_of_blames {calls : List HealthCall} : ∀ {st : ClusterPeerHealthStore}, st.Good →
    (∀ c ∈ calls, (∃ n detail, c = .markAlive n detail) ∨
      ∃ n detail, c = .markSuspect n detail ∧ st.getStatus n ≠ .dead) →
    Machine.Along ClusterPeerHealthStore.step app.Spares st calls := by
  induction calls with
  | nil => intro _ _ _; trivial
  | cons c calls ih =>
    intro st hg hall
    -- no such call makes a peer dead
    have hnever (n : JsString) : st.outcome n c ≠ .become .dead := by
      intro ho
      rcases hall c (List.mem_cons_self ..) with ⟨m, detail, rfl⟩ | ⟨m, detail, rfl, -⟩
      · exact absurd (ClusterPeerHealthStore.localOutcome_become ho) (by decide)
      · exact absurd (ClusterPeerHealthStore.localOutcome_become ho) (by decide)
    refine ⟨⟨?_, fun _ n ho => absurd ho (hnever n)⟩,
      ih (ClusterPeerHealthStore.peer_step hg c).1 fun c' hc' => ?_⟩
    · rintro n detail rfl
      rcases hall _ (List.mem_cons_self ..) with ⟨m, detail', heq⟩ | ⟨m, detail', heq, hne⟩
      · cases heq
      · cases heq
        exact hne
    · refine (hall c' (List.mem_cons_of_mem _ hc')).imp id ?_
      rintro ⟨n, detail, rfl, hne⟩
      refine ⟨n, detail, rfl, ?_⟩
      rw [ClusterPeerHealthStore.getStatus_step hg]
      cases ho : st.outcome n c with
      | keep => exact hne
      | remove => simp
      | become status =>
        cases status with
        | alive => simp [ReportedStatus.toStatus]
        | suspect => simp [ReportedStatus.toStatus]
        | dead => exact absurd ho (hnever n)

/-- One event that spares the dead peers keeps them dead, call by call. -/
theorem keepsDead_step (h : app.Sound) {e : Event} (hs : app.SparesDead e) :
    Machine.Along ClusterPeerHealthStore.step KeepsDead app.clusterPeerHealth (app.step e).2 := by
  have hcall {app : RuntimeApp} (h : app.Sound) {c : HealthCall}
      (hs : app.Spares app.clusterPeerHealth c) :
      Machine.Along ClusterPeerHealthStore.step KeepsDead app.clusterPeerHealth (app.call c).2 := by
    rw [(call_of_spares h hs).1]
    exact ⟨ClusterPeerHealthStore.keepsDead_of_not_suspect h.health hs.1, trivial⟩
  cases e with
  | network e =>
    obtain ⟨hsuspect, hgossip⟩ := hs
    refine calls_of_spares _ { app with clusterNetwork := app.clusterNetwork.step e }
      ⟨h.health, network_sound h.network e⟩ ?_
    rcases ClusterNetwork.step_reports h.network e with ⟨heq, hchannels⟩ | hblames
    · -- the table of channels is the same, and what is spared depends on nothing else
      have hsame : Spares { app with clusterNetwork := app.clusterNetwork.step e } = app.Spares := by
        funext st c
        simp only [Spares, hchannels]
      rw [hsame, heq]
      exact hgossip
    · refine along_of_blames h.health fun c hc => ?_
      obtain ⟨effect, hmem, hobs⟩ := List.mem_filterMap.1 hc
      have hb := hblames effect hmem
      cases effect with
      | markAlive n detail => exact .inl ⟨n, _, (Option.some.inj hobs).symm⟩
      | markSuspect n detail =>
        exact .inr ⟨n, _, (Option.some.inj hobs).symm, hsuspect n hb⟩
      | applyRumor rumor fromNodeId => exact hb.elim
      | _ => cases hobs
  | timerFires handle => exact hcall h hs
  | advance ms => exact hcall h ⟨by simp, fun _ n ho => by cases ho⟩
  | topology peers =>
    unfold step
    split_ifs
    · trivial
    · refine hcall h ⟨by simp, fun _ n ho => ?_⟩
      simp only [ClusterPeerHealthStore.outcome] at ho
      split_ifs at ho
  | dispose =>
    have hquiet : Spares { app with disposed := true } app.clusterPeerHealth .dispose :=
      ⟨by simp, by simp⟩
    exact @hcall { app with disposed := true } ⟨h.health, h.network⟩ _ hquiet

/-- **In every run of the app whose events spare the dead peers, no call of the store takes a dead
peer back without evidence that it lives.** -/
theorem dead_until_evidence (options : ClusterNetworkOptions) (peers : List ClusterPeerNode)
    (peerSuspectTimeoutMs clock : ℕ) (es : List Event)
    (h : Machine.Along (Machine.next step) SparesDead
      (create options peers peerSuspectTimeoutMs clock) es) :
    Machine.Along ClusterPeerHealthStore.step KeepsDead
      (create options peers peerSuspectTimeoutMs clock).clusterPeerHealth
      (Machine.outputs step (create options peers peerSuspectTimeoutMs clock) es) :=
  Machine.along_outputs (fun _ e hs => (step_spec hs e).2) (fun _ e hs => (step_spec hs e).1)
    (fun _ _ hs hC => keepsDead_step hs hC) es _ (sound_create _ _ _ _) h

/-- An app that knows one peer. -/
def knowsBob : RuntimeApp :=
  create { nodeId := js "a" } [⟨js "b", js "http://b"⟩] 5000 0

/-- The peer is declared dead after its timeout, and comes back when a request to it succeeds. -/
def bobComesBack : List Event :=
  [.network (.httpFailed (js "b") (js "http_locate")), .advance 5000, .timerFires 0,
    .network (.httpOk (js "b") (js "locate"))]

theorem dead_until_evidence_bob :
    Machine.Along (Machine.next step) SparesDead knowsBob bobComesBack ∧
      Machine.Along ClusterPeerHealthStore.step KeepsDead knowsBob.clusterPeerHealth
        (Machine.outputs step knowsBob bobComesBack) := by
  have hspares : Machine.Along (Machine.next step) SparesDead knowsBob bobComesBack := by
    refine ⟨⟨?_, trivial⟩, trivial, ⟨?_, fun _ n _ => rfl⟩, ⟨?_, trivial⟩, trivial⟩
    · rintro n rfl
      decide
    · rintro n detail ⟨⟩
    · rintro n ⟨⟩
  exact ⟨hspares, dead_until_evidence _ _ _ _ _ hspares⟩

/-- The peer has a channel when it is declared dead. -/
def bobHasChannel : List Event :=
  [.network (.openServerSocket 0),
    .network (.messageServerSocket 0 (ClusterSocketMessage.hello (js "b") none).toJson.stringify),
    .network (.httpFailed (js "b") (js "http_locate")), .advance 5000, .timerFires 0]

/-- The calls of the store in that run. -/
def bobsCalls : List HealthCall :=
  [.markAlive (js "b") (some (js "hello")), .markSuspect (js "b") (some (js "http_locate")),
    .advance 5000, .timerFires 0]

/-- Disconnecting the dead peer makes it suspect. -/
theorem dead_bob_suspect :
    ¬∀ options peers peerSuspectTimeoutMs clock es,
      Machine.Along ClusterPeerHealthStore.step KeepsDead
        (create options peers peerSuspectTimeoutMs clock).clusterPeerHealth
        (Machine.outputs step (create options peers peerSuspectTimeoutMs clock) es) := by
  intro h
  have hcalls : Machine.outputs step knowsBob bobHasChannel = bobsCalls ++
      [.markSuspect (js "b") (some (js "cluster peer marked dead"))] := by decide +kernel
  have hkeeps := Machine.along_iff.1 (h { nodeId := js "a" } [⟨js "b", js "http://b"⟩] 5000 0
    bobHasChannel) bobsCalls _ [] hcalls
  rcases hkeeps (js "b") (by decide +kernel) with hdead | hreleases
  · exact absurd hdead (by decide +kernel)
  · exact hreleases

end RuntimeApp

end Hardess
