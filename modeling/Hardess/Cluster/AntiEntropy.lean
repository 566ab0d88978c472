import Hardess.Cluster.HealthOrder
import Hardess.Cluster.Reports

/-!
# One anti-entropy exchange

A node sends a digest of its health entries; the receiver asks for those that its own entries do not
cover, and applies what it gets back as rumors. What is asked for is decided with one copy of the
ranking rules, what is applied with another.

* `answer`: the frame that a node sends back to a frame of the exchange;
  `handleChannelMessage_answer`: the network sends it, and makes the calls of the store in `told`;
* `HealthNode.receive`, `exchange`: the three frames between two nodes;
* `wanted_of_shouldApplyRumor`: what the store would apply is asked for;
* **`exchange_covers`**: after an exchange the entries of the receiver cover those of the sender.
-/

namespace Hardess

namespace ClusterPeerHealthStore

/-- `list`. -/
def list (st : ClusterPeerHealthStore) : List ClusterPeerHealthSnapshot :=
  st.entries.entries.map fun e => e.2.toClusterPeerHealthSnapshot

end ClusterPeerHealthStore

namespace ClusterNetwork

variable {st : ClusterNetwork}

/-! ### The frames -/

/-- `toPeerHealthDigests`. -/
def toPeerHealthDigests (snapshots : List ClusterPeerHealthSnapshot) : List PeerHealthItem :=
  snapshots.filterMap healthItem

/-- What the network sends back to a frame of the exchange. -/
def answer (st : ClusterNetwork) : ClusterSocketMessage → Option ClusterSocketMessage
  | .peerHealthDigest digests =>
    let requested := st.collectPeerHealthRepairTargets digests
    if requested = [] then none else some (.peerHealthRepairRequest requested)
  | .peerHealthRepairRequest peerNodeIds =>
    let rumors := (st.healthSnapshots.filter fun s => s.nodeId ∈ peerNodeIds).filterMap healthItem
    if rumors = [] then none else some (.peerHealthSync rumors)
  | _ => none

/-- The frames of the exchange, each with the detail under which its sender is noted alive. -/
def exchangeDetail : ClusterSocketMessage → Option JsString
  | .peerHealthDigest _ => some (js "peer_health_digest")
  | .peerHealthRepairRequest _ => some (js "peer_health_repair_request")
  | .peerHealthSync _ => some (js "peer_health_sync")
  | _ => none

/-- What the store is told of a frame of the exchange. -/
def told (remoteNodeId : JsString) (message : ClusterSocketMessage) :
    List ClusterPeerHealthStore.Event :=
  .markAlive remoteNodeId (exchangeDetail message) ::
    match message with
    | .peerHealthSync rumors => rumors.map fun r => .applyRumor (rumorOf r) remoteNodeId
    | _ => []

theorem healthSnapshots_notePeerAlive (nodeId detail : JsString) :
    (st.notePeerAlive nodeId detail).healthSnapshots = st.healthSnapshots := by
  unfold notePeerAlive clearPendingProbe
  split <;> rfl

/-- The store is told of the frame alone when a reply is sent. -/
theorem observed_ensureChannel (nodeId detail : JsString) (purpose : AwaitPurpose) :
    ∃ new, ((st.notePeerAlive nodeId detail).ensureChannel nodeId purpose).effects =
      st.effects ++ new ∧
      new.filterMap ClusterEffect.observed = [.markAlive nodeId (some detail)] := by
  obtain ⟨new, hnew, hquiet⟩ := @ensureChannel_emits (st.notePeerAlive nodeId detail)
    (fun c => c.observed = none) (fun _ _ => rfl) nodeId purpose
  refine ⟨.markAlive nodeId detail :: new, ?_, ?_⟩
  · rw [hnew, effects_notePeerAlive]
    simp
  · have hhead : (ClusterEffect.markAlive nodeId detail).observed =
        some (.markAlive nodeId (some detail)) := rfl
    rw [List.filterMap_cons_some hhead, List.filterMap_eq_nil_iff.2 hquiet]

/-- The network sends the answer to a frame of the exchange over the channel of the sender, and
tells the store what `told` says. -/
theorem handleChannelMessage_answer {message : ClusterSocketMessage} {detail : JsString}
    (hd : exchangeDetail message = some detail) (socket : SocketId) (remoteNodeId : JsString) :
    (∀ reply, st.answer message = some reply →
      st.handleChannelMessage socket remoteNodeId message =
        (st.notePeerAlive remoteNodeId detail).ensureChannel remoteNodeId (.gossip reply)) ∧
    ∃ new, (st.handleChannelMessage socket remoteNodeId message).effects = st.effects ++ new ∧
      new.filterMap ClusterEffect.observed = told remoteNodeId message := by
  cases message with
  | peerHealthDigest digests =>
    cases hd
    -- a mark of life does not change what the digests leave to ask for
    have hsame : (st.notePeerAlive remoteNodeId
        (js "peer_health_digest")).collectPeerHealthRepairTargets digests =
          st.collectPeerHealthRepairTargets digests := by
      unfold collectPeerHealthRepairTargets
      rw [healthSnapshots_notePeerAlive]
    simp only [answer, handleChannelMessage, hsame]
    split_ifs with hnone
    · exact ⟨fun reply h => (by cases h), _, effects_notePeerAlive _ _, rfl⟩
    · refine ⟨fun reply h => ?_, observed_ensureChannel _ _ _⟩
      cases h
      rfl
  | peerHealthRepairRequest peerNodeIds =>
    cases hd
    simp only [answer, handleChannelMessage, sendPeerHealthSyncToPeer,
      healthSnapshots_notePeerAlive]
    split_ifs with hnone
    · exact ⟨fun reply h => (by cases h), _, effects_notePeerAlive _ _, rfl⟩
    · refine ⟨fun reply h => ?_, observed_ensureChannel _ _ _⟩
      cases h
      rfl
  | peerHealthSync rumors =>
    cases hd
    refine ⟨fun reply h => (by cases h), .markAlive remoteNodeId (js "peer_health_sync") ::
      rumors.map fun r => .applyRumor (rumorOf r) remoteNodeId, ?_, ?_⟩
    · simp [handleChannelMessage]
    · simp [told, exchangeDetail, ClusterEffect.observed, List.filterMap_map, Function.comp_def]
  | _ => cases hd

end ClusterNetwork

namespace ClusterPeerHealthStore

variable {st : ClusterPeerHealthStore}

/-! ### The sender is noted alive -/

theorem isUnknownPeer_applyLocalStatus (e : ClusterPeerHealthEntry) (status : ReportedStatus)
    (detail : Option JsString) (n : JsString) :
    (st.applyLocalStatus e status detail).isUnknownPeer n = st.isUnknownPeer n := by
  simp [applyLocalStatus, isUnknownPeer, emit, setEntry]

theorem isUnknownPeer_markAlive (m : JsString) (detail : Option JsString) (n : JsString) :
    (st.markAlive m detail).isUnknownPeer n = st.isUnknownPeer n := by
  unfold markAlive
  dsimp only
  split_ifs
  · rfl
  · rfl
  · exact isUnknownPeer_applyLocalStatus _ _ _ _

/-- What an alive observation does: to the entry of the peer, and to the others. -/
theorem markAlive_cases (hg : st.Good) {n : JsString} (hk : st.isUnknownPeer n = false)
    (detail : Option JsString) :
    (∃ e', (st.markAlive n detail).entries.get n = some e' ∧ e'.status = .alive ∧
      e'.source = .localSource ∧
      ((st.entry n).status = .alive ∧ (st.entry n).source = .localSource →
        e'.incarnation = (st.entry n).incarnation)) ∧
    ∀ m, m ≠ n → (st.markAlive n detail).entries.get m = st.entries.get m := by
  have hid := entry_nodeId hg n
  unfold markAlive
  rw [hk, if_neg Bool.false_ne_true]
  dsimp only
  by_cases hagain : (st.entry n).status = .alive ∧ (st.entry n).source = .localSource
  · rw [if_pos hagain, setEntry]
    dsimp only
    rw [hid]
    exact ⟨⟨_, JsMap.get_set_self _ _ _, hagain.1, hagain.2, fun _ => rfl⟩,
      fun m hm => JsMap.get_set_of_ne _ hm _⟩
  · rw [if_neg hagain]
    simp only [applyLocalStatus, emit, setEntry, hid, clearTimeout_entries]
    exact ⟨⟨_, JsMap.get_set_self _ _ _, rfl, rfl, fun h => absurd h hagain⟩,
      fun m hm => JsMap.get_set_of_ne _ hm _⟩

theorem markAlive_of_unknown {n : JsString} (hk : st.isUnknownPeer n = true)
    (detail : Option JsString) : st.markAlive n detail = st := if_pos hk

/-- Noting a peer alive leaves the entries of the others alone. -/
theorem get_markAlive_of_ne (hg : st.Good) {m n : JsString} (hm : m ≠ n)
    (detail : Option JsString) :
    (st.markAlive n detail).entries.get m = st.entries.get m := by
  cases hk : st.isUnknownPeer n with
  | true => rw [markAlive_of_unknown hk]
  | false => exact (markAlive_cases hg hk detail).2 m hm

/-- The two entries are judged alike: they agree in status, incarnation and source. -/
structure Alike (e e' : ClusterPeerHealthEntry) : Prop where
  status : e'.status = e.status
  incarnation : e'.incarnation = e.incarnation
  source : e'.source = e.source

theorem Alike.refl (e : ClusterPeerHealthEntry) : Alike e e := ⟨rfl, rfl, rfl⟩

theorem Alike.of_get {st' : ClusterPeerHealthStore} {p : JsString}
    (h : st'.entries.get p = st.entries.get p) : Alike (st.entry p) (st'.entry p) := by
  unfold entry
  rw [h]
  cases st.entries.get p <;> exact ⟨rfl, rfl, rfl⟩

/-- Noting a peer alive again changes nothing that entries are judged by. -/
theorem markAlive_again (hg : st.Good) (n p : JsString) (detail detail' : Option JsString) :
    Alike ((st.markAlive n detail).entry p) (((st.markAlive n detail).markAlive n detail').entry p) := by
  have hg' : (st.markAlive n detail).Good := (peer_step hg (.markAlive n detail)).1
  cases hk : st.isUnknownPeer n with
  | true =>
    rw [markAlive_of_unknown hk, markAlive_of_unknown hk]
    exact .refl _
  | false =>
    have hk' : (st.markAlive n detail).isUnknownPeer n = false :=
      (isUnknownPeer_markAlive n detail n).trans hk
    by_cases hp : p = n
    · subst hp
      obtain ⟨⟨e, he, hs, hl, -⟩, -⟩ := markAlive_cases hg hk detail
      obtain ⟨⟨e', he', hs', hl', hi'⟩, -⟩ := markAlive_cases hg' hk' detail'
      rw [entry_of_get he] at hi' ⊢
      rw [entry_of_get he']
      exact ⟨hs'.trans hs.symm, hi' ⟨hs, hl⟩, hl'.trans hl.symm⟩
    · exact .of_get (get_markAlive_of_ne hg' hp detail')

/-! ### The rumors of a sync -/

/-- Rumors about other peers leave an entry alone. -/
theorem get_run_rumors {p reporter : JsString} {rs : List PeerHealthItem}
    (hrs : ∀ r ∈ rs, r.peerNodeId ≠ p) (hg : st.Good) :
    let st' := Machine.run step st
      (rs.map fun r => .applyRumor (ClusterNetwork.rumorOf r) reporter)
    st'.Good ∧ st'.entries.get p = st.entries.get p ∧ st'.isUnknownPeer p = st.isUnknownPeer p := by
  induction rs generalizing st with
  | nil => exact ⟨hg, rfl, rfl⟩
  | cons r rs ih =>
    have hne : p ≠ (ClusterNetwork.rumorOf r).nodeId := (hrs r List.mem_cons_self).symm
    have hg' := (peer_step hg (.applyRumor (ClusterNetwork.rumorOf r) reporter)).1
    have hget : (st.applyRumor (ClusterNetwork.rumorOf r) reporter).entries.get p =
        st.entries.get p := by
      cases hk : st.isUnknownPeer (ClusterNetwork.rumorOf r).nodeId with
      | true => rw [applyRumor_of_unknown hk]
      | false => exact (applyRumor_cases hg hk reporter).2 p hne
    obtain ⟨h1, h2, h3⟩ := ih (fun r' h => hrs r' (List.mem_cons_of_mem r h)) hg'
    exact ⟨h1, h2.trans hget, h3.trans (isUnknownPeer_applyRumor _ _ _)⟩

/-- The one rumor about `p` in a sync decides what becomes of its entry. -/
theorem heard_run_rumors {p reporter : JsString} {rs : List PeerHealthItem} {r : PeerHealthItem}
    (hr : r ∈ rs) (hp : r.peerNodeId = p) (hnodup : (rs.map PeerHealthItem.peerNodeId).Nodup)
    (hg : st.Good) (hk : st.isUnknownPeer p = false) :
    ∃ latest, (Machine.run step st (rs.map fun r =>
        .applyRumor (ClusterNetwork.rumorOf r) reporter)).entries.get p = some latest ∧
      ∃ current, Alike (st.entry p) current ∧
        Heard current (ClusterNetwork.rumorOf r) latest := by
  obtain ⟨pre, post, rfl⟩ := List.append_of_mem hr
  subst hp
  rw [List.map_append, List.map_cons, List.nodup_append, List.nodup_cons] at hnodup
  obtain ⟨-, ⟨hpost, -⟩, hpre⟩ := hnodup
  obtain ⟨hg₁, hget₁, hk₁⟩ := @get_run_rumors st r.peerNodeId reporter pre
    (fun r' h heq => hpre _ (List.mem_map_of_mem h) _ List.mem_cons_self heq) hg
  rw [List.map_append, List.map_cons, Machine.run_append, Machine.run_cons]
  set mid := Machine.run step st
    (pre.map fun r => .applyRumor (ClusterNetwork.rumorOf r) reporter) with hmid
  obtain ⟨⟨latest, hget, hheard⟩, -⟩ := @applyRumor_cases mid hg₁ (ClusterNetwork.rumorOf r)
    (hk₁.trans hk) reporter
  have hg₂ := (peer_step hg₁ (.applyRumor (ClusterNetwork.rumorOf r) reporter)).1
  obtain ⟨-, hget₂, -⟩ := @get_run_rumors (mid.step (.applyRumor (ClusterNetwork.rumorOf r) reporter))
    r.peerNodeId reporter post (fun r' h heq => hpost (heq ▸ List.mem_map_of_mem h)) hg₂
  exact ⟨latest, hget₂.trans hget, _, .of_get hget₁, hheard⟩

/-- An entry stands no lower than a report: it is not older, and of the same incarnation it is a local
observation or has no lower rank. -/
structure Covers (e : ClusterPeerHealthEntry) (incarnation : JsNumber)
    (status : ClusterPeerHealthStatus) : Prop where
  not_older : e.incarnation.lt incarnation = false
  rank_le : incarnation.lt e.incarnation = false → e.source ≠ .localSource →
    statusRank status ≤ statusRank e.status

theorem Covers.alike {e e' : ClusterPeerHealthEntry} {incarnation : JsNumber}
    {status : ClusterPeerHealthStatus} (h : Covers e incarnation status) (ha : Alike e e') :
    Covers e' incarnation status := by
  constructor
  · rw [ha.incarnation]
    exact h.not_older
  · rw [ha.incarnation, ha.source, ha.status]
    exact h.rank_le

/-- An entry that does not take a rumor covers it. -/
theorem covers_of_not_applied {e : ClusterPeerHealthEntry} {rumor : ClusterPeerHealthRumor}
    (h : shouldApplyRumor e rumor = false) :
    Covers e rumor.incarnation rumor.status.toStatus := by
  unfold shouldApplyRumor at h
  split_ifs at h with hu h1 h2 hl
  · exact ⟨by simpa using h1, fun h => by rw [h2] at h; cases h⟩
  · exact ⟨by simpa using h1, fun _ hne => absurd hl hne⟩
  · exact ⟨by simpa using h1, fun _ _ => not_lt.1 (of_decide_eq_false h)⟩

/-- What a rumor leaves covers the rumor. -/
theorem Heard.covers {current latest : ClusterPeerHealthEntry} {rumor : ClusterPeerHealthRumor}
    (h : Heard current rumor latest) :
    Covers latest rumor.incarnation rumor.status.toStatus := by
  cases happly : shouldApplyRumor current rumor with
  | true =>
    obtain ⟨hs, hi, -⟩ := h.applied happly
    constructor
    · rw [hi]
      exact JsNumber.lt_irrefl _
    · intro _ _
      rw [hs]
  | false =>
    by_cases href : Refreshes current rumor
    · -- a refreshing rumor repeats the status
      obtain ⟨hs, hi, -⟩ := h.refreshed happly href
      constructor
      · rw [hi]
        exact (covers_of_not_applied happly).not_older
      · intro _ _
        rw [hs, href.1]
    · rw [h.ignored happly href]
      exact covers_of_not_applied happly

/-! ### The snapshots of a store -/

theorem mem_list_iff (hg : st.Good) {s : ClusterPeerHealthSnapshot} : s ∈ st.list ↔
    ∃ e, st.entries.get s.nodeId = some e ∧ e.toClusterPeerHealthSnapshot = s := by
  unfold list
  rw [List.mem_map]
  constructor
  · rintro ⟨⟨n, e⟩, hmem, rfl⟩
    have hget := JsMap.get_eq_some_iff.2 hmem
    exact ⟨e, by rw [hg.key n e hget]; exact hget, rfl⟩
  · rintro ⟨e, hget, rfl⟩
    exact ⟨(_, e), JsMap.get_eq_some_iff.1 hget, rfl⟩

theorem nodup_list (hg : st.Good) :
    (st.list.map ClusterPeerHealthSnapshot.nodeId).Nodup := by
  have hkeys : st.list.map ClusterPeerHealthSnapshot.nodeId = st.entries.entries.map Prod.fst := by
    rw [list, List.map_map]
    refine List.map_congr_left fun e he => ?_
    exact hg.key e.1 e.2 (JsMap.get_eq_some_iff.2 he)
  rw [hkeys]
  exact st.entries.nodup

end ClusterPeerHealthStore

namespace ClusterNetwork

variable {health : ClusterPeerHealthStore}

/-! ### What is asked for -/

/-- The snapshot that `collectPeerHealthRepairTargets` holds of a node. -/
def ownSnapshot (snapshots : List ClusterPeerHealthSnapshot) (n : JsString) :
    Option ClusterPeerHealthSnapshot :=
  (snapshots.foldl (fun m s => m.set s.nodeId s) JsMap.empty).get n

/-- The digest is asked for, given the own snapshot of its node. -/
def wanted (digest : PeerHealthItem) : Option ClusterPeerHealthSnapshot → Bool
  | none => true
  | some own =>
    if own.status = .unknown then true
    else if own.incarnation.lt digest.incarnation then true
    else if digest.incarnation.lt own.incarnation then false
    else if ClusterPeerHealthStore.statusRank own.status <
        ClusterPeerHealthStore.statusRank digest.status.toStatus then true
    else digest.status.toStatus = own.status &&
      (own.lastAliveAt.getD (.ofNat 0)).lt (digest.lastAliveAt.getD (.ofNat 0)) &&
      own.source ≠ .localSource

theorem mem_collect_iff {st : ClusterNetwork} {digests : List PeerHealthItem} {n : JsString} :
    n ∈ st.collectPeerHealthRepairTargets digests ↔
      ∃ d ∈ digests, d.peerNodeId = n ∧ wanted d (ownSnapshot st.healthSnapshots d.peerNodeId) := by
  have heq : st.collectPeerHealthRepairTargets digests = (digests.filter fun d =>
      wanted d (ownSnapshot st.healthSnapshots d.peerNodeId)).map PeerHealthItem.peerNodeId := by
    unfold collectPeerHealthRepairTargets ownSnapshot
    refine congrArg _ (List.filter_congr fun d _ => ?_)
    unfold wanted
    rfl
  rw [heq, List.mem_map]
  constructor
  · rintro ⟨d, hd, rfl⟩
    obtain ⟨hmem, hw⟩ := List.mem_filter.1 hd
    exact ⟨d, hmem, rfl, hw⟩
  · rintro ⟨d, hd, rfl, hw⟩
    exact ⟨d, List.mem_filter.2 ⟨hd, hw⟩, rfl⟩

theorem get_foldl_of_notMem (snapshots : List ClusterPeerHealthSnapshot) {n : JsString}
    (h : ∀ s ∈ snapshots, s.nodeId ≠ n) (m : JsMap JsString ClusterPeerHealthSnapshot) :
    (snapshots.foldl (fun m s => m.set s.nodeId s) m).get n = m.get n := by
  induction snapshots generalizing m with
  | nil => rfl
  | cons s snapshots ih =>
    rw [List.foldl_cons, ih (fun s' h' => h s' (List.mem_cons_of_mem s h')),
      JsMap.get_set_of_ne _ (h s List.mem_cons_self).symm]

/-- Of a store's list the network holds the entry of each node. -/
theorem ownSnapshot_list (hg : health.Good) (n : JsString) : ownSnapshot health.list n =
    (health.entries.get n).map ClusterPeerHealthEntry.toClusterPeerHealthSnapshot := by
  unfold ownSnapshot
  cases hget : health.entries.get n with
  | none =>
    refine get_foldl_of_notMem _ (fun s hs hn => ?_) _
    obtain ⟨e, he, -⟩ := (ClusterPeerHealthStore.mem_list_iff hg).1 hs
    rw [hn, hget] at he
    cases he
  | some e =>
    have hn := hg.key n e hget
    have hmem : e.toClusterPeerHealthSnapshot ∈ health.list :=
      (ClusterPeerHealthStore.mem_list_iff hg).2 ⟨e, by rw [hn]; exact hget, rfl⟩
    have hnodup := ClusterPeerHealthStore.nodup_list hg
    obtain ⟨pre, post, heq⟩ := List.append_of_mem hmem
    rw [heq, List.map_append, List.map_cons, List.nodup_append, List.nodup_cons] at hnodup
    obtain ⟨-, ⟨hpost, -⟩, -⟩ := hnodup
    rw [heq, List.foldl_append, List.foldl_cons, get_foldl_of_notMem post
      (fun s hs hsn => hpost (by rw [hn, ← hsn]; exact List.mem_map_of_mem hs)), ← hn]
    exact JsMap.get_set_self _ _ _

/-- What the store would apply is asked for. -/
theorem wanted_of_shouldApplyRumor (hg : health.Good) {d : PeerHealthItem}
    (h : ClusterPeerHealthStore.shouldApplyRumor (health.entry d.peerNodeId) (rumorOf d) = true) :
    wanted d (ownSnapshot health.list d.peerNodeId) = true := by
  rw [ownSnapshot_list hg]
  cases hget : health.entries.get d.peerNodeId with
  | none => rfl
  | some e =>
    rw [ClusterPeerHealthStore.entry_of_get hget] at h
    simp only [Option.map_some, wanted]
    unfold ClusterPeerHealthStore.shouldApplyRumor at h
    simp only [rumorOf] at h
    split_ifs at h ⊢ <;> simp_all

/-- What is not asked for is covered. -/
theorem covers_of_not_wanted (hg : health.Good) {d : PeerHealthItem}
    (h : wanted d (ownSnapshot health.list d.peerNodeId) = false) :
    ∃ e, health.entries.get d.peerNodeId = some e ∧
      ClusterPeerHealthStore.Covers e d.incarnation d.status.toStatus := by
  have happly : ClusterPeerHealthStore.shouldApplyRumor (health.entry d.peerNodeId) (rumorOf d) =
      false := by
    by_contra hc
    rw [wanted_of_shouldApplyRumor hg (by simpa using hc)] at h
    cases h
  cases hget : health.entries.get d.peerNodeId with
  | none =>
    rw [ownSnapshot_list hg, hget] at h
    cases h
  | some e =>
    rw [ClusterPeerHealthStore.entry_of_get hget] at happly
    exact ⟨e, rfl, ClusterPeerHealthStore.covers_of_not_applied happly⟩

/-! ### The items of a store -/

/-- The item says of its node what the entry says. -/
structure ItemOf (e : ClusterPeerHealthEntry) (i : PeerHealthItem) : Prop where
  node : i.peerNodeId = e.nodeId
  incarnation : i.incarnation = e.incarnation
  status : i.status.toStatus = e.status

theorem itemOf_healthItem {e : ClusterPeerHealthEntry} {i : PeerHealthItem}
    (h : healthItem e.toClusterPeerHealthSnapshot = some i) : ItemOf e i := by
  unfold healthItem at h
  cases hs : e.status <;> rw [hs] at h <;> cases h <;> exact ⟨rfl, rfl, hs.symm⟩

theorem healthItem_of_status {e : ClusterPeerHealthEntry} (h : e.status ≠ .unknown) :
    ∃ i, healthItem e.toClusterPeerHealthSnapshot = some i := by
  unfold healthItem
  cases hs : e.status with
  | unknown => exact absurd hs h
  | _ => exact ⟨_, rfl⟩

/-- The items of a node's entries are those of its list. -/
theorem mem_items_iff (hg : health.Good) {keep : ClusterPeerHealthSnapshot → Bool}
    {i : PeerHealthItem} : i ∈ (health.list.filter keep).filterMap healthItem ↔
      ∃ e, health.entries.get i.peerNodeId = some e ∧ keep e.toClusterPeerHealthSnapshot ∧
        healthItem e.toClusterPeerHealthSnapshot = some i := by
  rw [List.mem_filterMap]
  constructor
  · rintro ⟨s, hs, hi⟩
    obtain ⟨hmem, hkeep⟩ := List.mem_filter.1 hs
    obtain ⟨e, hget, rfl⟩ := (ClusterPeerHealthStore.mem_list_iff hg).1 hmem
    exact ⟨e, by rw [(itemOf_healthItem hi).node]; exact hget, hkeep, hi⟩
  · rintro ⟨e, hget, hkeep, hi⟩
    have hmem := (ClusterPeerHealthStore.mem_list_iff hg).2
      ⟨e, by rw [(itemOf_healthItem hi).node] at hget; exact hget, rfl⟩
    exact ⟨_, List.mem_filter.2 ⟨hmem, hkeep⟩, hi⟩

theorem nodup_items (hg : health.Good) (keep : ClusterPeerHealthSnapshot → Bool) :
    (((health.list.filter keep).filterMap healthItem).map PeerHealthItem.peerNodeId).Nodup := by
  have hsub : List.Sublist (((health.list.filter keep).filterMap healthItem).map
      PeerHealthItem.peerNodeId) ((health.list.filter keep).map ClusterPeerHealthSnapshot.nodeId) := by
    induction health.list.filter keep with
    | nil => exact .slnil
    | cons s rest ih =>
      cases hi : healthItem s with
      | none =>
        rw [List.filterMap_cons_none hi]
        exact ih.cons _
      | some i =>
        have hnode : i.peerNodeId = s.nodeId := (@itemOf_healthItem ⟨s, none⟩ i hi).node
        rw [List.filterMap_cons_some hi, List.map_cons, List.map_cons, hnode]
        exact ih.cons_cons _
  exact (hsub.trans (List.filter_sublist.map _)).nodup (ClusterPeerHealthStore.nodup_list hg)

end ClusterNetwork

/-! ### The exchange -/

/-- A node: its network and its health store. -/
structure HealthNode where
  nodeId : JsString
  network : ClusterNetwork
  health : ClusterPeerHealthStore

namespace HealthNode

/-- A node handles a frame of the exchange, and sends its answer. The snapshots are those that the
provider gives when the sender has been noted alive. -/
def receive (node : HealthNode) (remoteNodeId : JsString) (message : ClusterSocketMessage) :
    Option ClusterSocketMessage × HealthNode :=
  let noted := node.health.markAlive remoteNodeId (ClusterNetwork.exchangeDetail message)
  ({ node.network with healthSnapshots := noted.list }.answer message,
    { node with
      health := Machine.run ClusterPeerHealthStore.step node.health
        (ClusterNetwork.told remoteNodeId message) })

/-- `B` sends its digest to `A`, `A` its request to `B`, and `B` its sync to `A`. -/
def exchange (A B : HealthNode) : HealthNode × HealthNode :=
  let (request, A₁) := A.receive B.nodeId
    (.peerHealthDigest (ClusterNetwork.toPeerHealthDigests B.health.list))
  match request with
  | none => (A₁, B)
  | some request =>
    let (sync, B₁) := B.receive A.nodeId request
    match sync with
    | none => (A₁, B₁)
    | some sync => ((A₁.receive B.nodeId sync).2, B₁)

/-- The store of the node is one that a run of calls, timers and clock leads to. -/
def Reachable (node : HealthNode) : Prop :=
  ∃ suspectTimeoutMs clock es, node.health =
    Machine.run ClusterPeerHealthStore.step (.create suspectTimeoutMs clock) es

theorem Reachable.good {node : HealthNode} (h : node.Reachable) : node.health.Good := by
  obtain ⟨suspectTimeoutMs, clock, es, heq⟩ := h
  rw [heq]
  exact ClusterPeerHealthStore.good_run (ClusterPeerHealthStore.good_create _ _) es

variable {A B : HealthNode}

/-- The receiver, when it has noted the sender of the digest alive. -/
def noted (A B : HealthNode) : ClusterPeerHealthStore :=
  A.health.markAlive B.nodeId (some (js "peer_health_digest"))

/-- What the receiver asks for. -/
def requested (A B : HealthNode) : List JsString :=
  { A.network with healthSnapshots := (A.noted B).list }.collectPeerHealthRepairTargets
    (ClusterNetwork.toPeerHealthDigests B.health.list)

/-- The sender of the digest, when it has noted the receiver alive. -/
def asked (A B : HealthNode) : ClusterPeerHealthStore :=
  B.health.markAlive A.nodeId (some (js "peer_health_repair_request"))

/-- What the sender of the digest sends back. -/
def rumors (A B : HealthNode) : List PeerHealthItem :=
  ((A.asked B).list.filter fun s => s.nodeId ∈ A.requested B).filterMap ClusterNetwork.healthItem

/-- The store of the receiver after the sync. -/
def synced (A B : HealthNode) : ClusterPeerHealthStore :=
  Machine.run ClusterPeerHealthStore.step
    ((A.noted B).markAlive B.nodeId (some (js "peer_health_sync")))
    ((A.rumors B).map fun r => .applyRumor (ClusterNetwork.rumorOf r) B.nodeId)

/-- The stores after an exchange. -/
theorem exchange_health :
    ((exchange A B).1.health = if A.requested B = [] ∨ A.rumors B = [] then A.noted B
      else A.synced B) ∧
    (exchange A B).2.health = if A.requested B = [] then B.health else A.asked B := by
  have hrequest : (A.receive B.nodeId (.peerHealthDigest
      (ClusterNetwork.toPeerHealthDigests B.health.list))).1 =
      if A.requested B = [] then none else some (.peerHealthRepairRequest (A.requested B)) := rfl
  have hsync : (B.receive A.nodeId (.peerHealthRepairRequest (A.requested B))).1 =
      if A.rumors B = [] then none else some (.peerHealthSync (A.rumors B)) := rfl
  unfold exchange
  dsimp only
  rw [hrequest]
  by_cases hr : A.requested B = []
  · rw [if_pos hr, if_pos (.inl hr), if_pos hr]
    exact ⟨rfl, rfl⟩
  · rw [if_neg hr, if_neg hr]
    dsimp only
    rw [hsync]
    by_cases hs : A.rumors B = []
    · rw [if_pos hs, if_pos (.inr hs)]
      exact ⟨rfl, rfl⟩
    · rw [if_neg hs, if_neg (by simp [hr, hs])]
      exact ⟨rfl, rfl⟩

/-- An entry of the sender is asked for exactly when its digest is wanted. -/
theorem mem_requested_iff (hB : B.health.Good) {p : JsString} {d : PeerHealthItem}
    (hd : d ∈ ClusterNetwork.toPeerHealthDigests B.health.list) (hp : d.peerNodeId = p) :
    p ∈ A.requested B ↔
      ClusterNetwork.wanted d (ClusterNetwork.ownSnapshot (A.noted B).list p) = true := by
  rw [requested, ClusterNetwork.mem_collect_iff]
  constructor
  · rintro ⟨d', hd', hp', hw⟩
    have hsame : d' = d := by
      refine List.inj_on_of_nodup_map ?_ hd' hd (hp'.trans hp.symm)
      have := ClusterNetwork.nodup_items hB fun _ => true
      rwa [List.filter_true] at this
    rw [← hsame, ← hp']
    exact hw
  · intro hw
    exact ⟨d, hd, hp, by rw [hp]; exact hw⟩

/-- What the sender has of a peer when it is asked. -/
theorem get_asked (hB : B.health.Good) {p : JsString} {e : ClusterPeerHealthEntry}
    (he : B.health.entries.get p = some e) (hs : e.status ≠ .unknown) :
    ∃ e', (A.asked B).entries.get p = some e' ∧ e'.status ≠ .unknown ∧ (p ≠ A.nodeId → e' = e) := by
  by_cases hp : p = A.nodeId
  · subst hp
    obtain ⟨⟨e', hget, hs', -⟩, -⟩ := ClusterPeerHealthStore.markAlive_cases hB
      (hB.known _ e he) (some (js "peer_health_repair_request"))
    exact ⟨e', hget, by rw [hs']; decide, fun h => absurd rfl h⟩
  · exact ⟨e, (ClusterPeerHealthStore.get_markAlive_of_ne hB hp _).trans he, hs, fun _ => rfl⟩

/-- An entry that is not asked for is left alone by the sync. -/
theorem get_synced (hA : A.health.Good) (hB : B.health.Good) {p : JsString}
    (hp : p ∉ A.requested B) (hk : A.health.isUnknownPeer p = false) {e : ClusterPeerHealthEntry}
    (he : (A.noted B).entries.get p = some e) :
    ∃ e', (A.synced B).entries.get p = some e' ∧ ClusterPeerHealthStore.Alike e e' := by
  have hasked : (A.asked B).Good :=
    (ClusterPeerHealthStore.peer_step hB (.markAlive _ _)).1
  have hnoted : (A.noted B).Good :=
    (ClusterPeerHealthStore.peer_step hA (.markAlive _ _)).1
  -- no rumor of the sync is about this peer
  have hothers : ∀ r ∈ A.rumors B, r.peerNodeId ≠ p := by
    rintro r hr rfl
    obtain ⟨f, hf, hkeep, hi⟩ := (ClusterNetwork.mem_items_iff hasked).1 hr
    rw [(ClusterNetwork.itemOf_healthItem hi).node] at hp
    exact hp (by simpa using hkeep)
  obtain ⟨-, hget, -⟩ := @ClusterPeerHealthStore.get_run_rumors _ p B.nodeId _ hothers
    (ClusterPeerHealthStore.peer_step hnoted
      (.markAlive B.nodeId (some (js "peer_health_sync")))).1
  have halike : ClusterPeerHealthStore.Alike ((A.noted B).entry p)
      (((A.noted B).markAlive B.nodeId (some (js "peer_health_sync"))).entry p) :=
    ClusterPeerHealthStore.markAlive_again hA B.nodeId p _ _
  rw [ClusterPeerHealthStore.entry_of_get he] at halike
  -- only the entry of the sender changes, by a mark of life
  by_cases hb : p = B.nodeId
  · have hk' : (A.noted B).isUnknownPeer B.nodeId = false := by
      rw [noted, ClusterPeerHealthStore.isUnknownPeer_markAlive, ← hb, hk]
    obtain ⟨⟨e', he', -⟩, -⟩ := ClusterPeerHealthStore.markAlive_cases hnoted hk'
      (some (js "peer_health_sync"))
    have heq : ((A.noted B).markAlive B.nodeId (some (js "peer_health_sync"))).entries.get p =
        some e' := by
      rw [hb]
      exact he'
    rw [ClusterPeerHealthStore.entry_of_get heq] at halike
    exact ⟨e', hget.trans heq, halike⟩
  · have he' := (ClusterPeerHealthStore.get_markAlive_of_ne hnoted hb
      (some (js "peer_health_sync"))).trans he
    exact ⟨e, hget.trans he', .refl e⟩

/-- The rumor about an entry that is asked for decides what becomes of it. -/
theorem covers_synced (hA : A.health.Good) (hB : B.health.Good) {p : JsString}
    (hp : p ∈ A.requested B) (hk : A.health.isUnknownPeer p = false) {e : ClusterPeerHealthEntry}
    (he : (A.asked B).entries.get p = some e) (hs : e.status ≠ .unknown) :
    A.rumors B ≠ [] ∧ ∃ e', (A.synced B).entries.get p = some e' ∧
      ClusterPeerHealthStore.Covers e' e.incarnation e.status := by
  have hasked : (A.asked B).Good :=
    (ClusterPeerHealthStore.peer_step hB (.markAlive _ _)).1
  have hnoted : (A.noted B).Good :=
    (ClusterPeerHealthStore.peer_step hA (.markAlive _ _)).1
  obtain ⟨r, hr⟩ := ClusterNetwork.healthItem_of_status hs
  have hitem := ClusterNetwork.itemOf_healthItem hr
  have hnode := hitem.node.trans (hasked.key p e he)
  -- the entry that was asked for is in the sync
  have hmem : r ∈ A.rumors B := (ClusterNetwork.mem_items_iff hasked).2
    ⟨e, by rw [hnode]; exact he, by rw [hasked.key p e he]; simpa using hp, hr⟩
  refine ⟨List.ne_nil_of_mem hmem, ?_⟩
  have hk' : ((A.noted B).markAlive B.nodeId (some (js "peer_health_sync"))).isUnknownPeer p =
      false := by
    rw [ClusterPeerHealthStore.isUnknownPeer_markAlive, noted,
      ClusterPeerHealthStore.isUnknownPeer_markAlive, hk]
  obtain ⟨latest, hget, _, -, hheard⟩ := @ClusterPeerHealthStore.heard_run_rumors _ p B.nodeId _ r
    hmem hnode (ClusterNetwork.nodup_items hasked _)
    (ClusterPeerHealthStore.peer_step hnoted (.markAlive _ _)).1 hk'
  have hcovers := hheard.covers
  rw [← hitem.incarnation, ← hitem.status]
  exact ⟨latest, hget, hcovers⟩

/-- **An anti-entropy exchange repairs what it should**: the entry of the receiver covers what the
sender told of the peer last, which is its entry unless the peer is the receiver itself; and what
the store of the receiver would apply is asked for. -/
theorem exchange_covers (hA : A.Reachable) (hB : B.Reachable) {p : JsString}
    (hk : A.health.isUnknownPeer p = false) {eB : ClusterPeerHealthEntry}
    (hget : B.health.entries.get p = some eB) (hs : eB.status ≠ .unknown) :
    (∃ e told, (exchange A B).1.health.entries.get p = some e ∧
      ClusterPeerHealthStore.Covers e told.incarnation told.status ∧
      (told = eB ∨ (exchange A B).2.health.entries.get p = some told) ∧
      (p ≠ A.nodeId → told = eB ∧ (exchange A B).2.health.entries.get p = some eB)) ∧
    ∀ d ∈ ClusterNetwork.toPeerHealthDigests B.health.list,
      ClusterPeerHealthStore.shouldApplyRumor ((A.noted B).entry d.peerNodeId)
        (ClusterNetwork.rumorOf d) = true → d.peerNodeId ∈ A.requested B := by
  have hgA := hA.good
  have hgB := hB.good
  have hnoted : (A.noted B).Good :=
    (ClusterPeerHealthStore.peer_step hgA (.markAlive _ _)).1
  obtain ⟨hfirst, hsecond⟩ := @exchange_health A B
  have hmem : ∀ {d}, d ∈ ClusterNetwork.toPeerHealthDigests B.health.list ↔
      d ∈ (B.health.list.filter fun _ => true).filterMap ClusterNetwork.healthItem := by
    intro d
    rw [List.filter_true]
    rfl
  refine ⟨?_, fun d hd happly => (mem_requested_iff hgB hd rfl).2
    (ClusterNetwork.wanted_of_shouldApplyRumor hnoted happly)⟩
  obtain ⟨d, hd⟩ := ClusterNetwork.healthItem_of_status hs
  have hitem := ClusterNetwork.itemOf_healthItem hd
  have hnode : d.peerNodeId = p := hitem.node.trans (hgB.key p eB hget)
  have hdigest : d ∈ ClusterNetwork.toPeerHealthDigests B.health.list :=
    hmem.2 ((ClusterNetwork.mem_items_iff hgB).2 ⟨eB, by rw [hnode]; exact hget, rfl, hd⟩)
  obtain ⟨eB', hget', hs', hsame⟩ := get_asked hgB hget hs
  by_cases hp : p ∈ A.requested B
  · -- the entry is asked for, and its rumor decides
    obtain ⟨hrumors, e, he, hcovers⟩ := covers_synced hgA hgB hp hk hget' hs'
    have hne : A.requested B ≠ [] := List.ne_nil_of_mem hp
    rw [hfirst, if_neg (by simp [hne, hrumors]), hsecond, if_neg hne]
    refine ⟨e, eB', he, hcovers, .inr hget', fun hpA => ?_⟩
    rw [hget', hsame hpA]
    exact ⟨rfl, rfl⟩
  · -- the entry is not asked for, and covers the digest
    have hw : ClusterNetwork.wanted d
        (ClusterNetwork.ownSnapshot (A.noted B).list d.peerNodeId) = false := by
      rw [hnode]
      simpa using mt (mem_requested_iff hgB hdigest hnode).2 hp
    obtain ⟨e, he, hcovers⟩ := ClusterNetwork.covers_of_not_wanted hnoted hw
    rw [hnode] at he
    rw [hitem.incarnation, hitem.status] at hcovers
    have hlast : p ≠ A.nodeId → (exchange A B).2.health.entries.get p = some eB := by
      intro hpA
      rw [hsecond]
      split_ifs
      · exact hget
      · rw [hget', hsame hpA]
    rw [hfirst]
    split_ifs
    · exact ⟨e, eB, he, hcovers, .inl rfl, fun hpA => ⟨rfl, hlast hpA⟩⟩
    · obtain ⟨e', he', halike⟩ := get_synced hgA hgB hp hk he
      exact ⟨e', eB, he', hcovers.alike halike, .inl rfl, fun hpA => ⟨rfl, hlast hpA⟩⟩

/-- A node that has heard nothing yet. -/
def blank : HealthNode := ⟨js "a", .create ⟨js "a", none, fun _ _ => none⟩, .create 50 0⟩

/-- A node that suspects a peer. -/
def suspicious : HealthNode :=
  ⟨js "b", .create ⟨js "b", none, fun _ _ => none⟩,
    Machine.run ClusterPeerHealthStore.step (.create 50 0) [.markSuspect (js "q") none]⟩

/-- The suspicion comes over. -/
theorem exchange_covers_suspicious : ∃ e eB,
    (exchange blank suspicious).1.health.entries.get (js "q") = some e ∧
      suspicious.health.entries.get (js "q") = some eB ∧
      ClusterPeerHealthStore.Covers e eB.incarnation eB.status := by
  obtain ⟨⟨e, told, he, hcovers, -, htold⟩, -⟩ := @exchange_covers blank suspicious
    ⟨50, 0, [], rfl⟩ ⟨50, 0, _, rfl⟩ (js "q") rfl _ rfl (by decide)
  obtain ⟨rfl, -⟩ := htold (by decide)
  exact ⟨e, _, he, rfl, hcovers⟩

end HealthNode

end Hardess
