import Hardess.Lib.JsMapBuckets
import Hardess.Lib.Machine
import Hardess.Routing.PeerCounts

/-!
# The two indexes of the peer locator

`InMemoryPeerLocator` holds each connection twice, by its id and under its peer.

* `PeerLocatorCall`, `InMemoryPeerLocator.step`: the calls that change the locator;
* `live`: what the calls left of a connection;
* **`indexes_agree`**: after any calls the two indexes hold the live connections.
-/

namespace Hardess

/-! ### Calls -/

/-- A call that changes the locator. -/
inductive PeerLocatorCall
  | register (connRef : ConnRef)
  | unregister (connId : JsString)

namespace PeerLocatorCall

/-- The connection that a call is about. -/
def connId : PeerLocatorCall → JsString
  | .register connRef => connRef.connId
  | .unregister connId => connId

/-- What a call leaves of its connection. -/
def leaves : PeerLocatorCall → Option ConnRef
  | .register connRef => some connRef
  | .unregister _ => none

end PeerLocatorCall

/-- What the calls left of a connection: what it was last registered as, unless it was unregistered
since. -/
def live (calls : List PeerLocatorCall) (connId : JsString) : Option ConnRef :=
  (calls.reverse.find? fun call => call.connId = connId).bind PeerLocatorCall.leaves

theorem live_concat (calls : List PeerLocatorCall) (call : PeerLocatorCall) (connId : JsString) :
    live (calls ++ [call]) connId =
      if connId = call.connId then call.leaves else live calls connId := by
  unfold live
  rw [List.reverse_append, List.reverse_singleton, List.singleton_append, List.find?_cons]
  by_cases hid : connId = call.connId
  · simp [hid]
  · simp [hid, Ne.symm hid]

namespace InMemoryPeerLocator

variable {locator : InMemoryPeerLocator}

/-- One call. -/
def step (locator : InMemoryPeerLocator) : PeerLocatorCall → InMemoryPeerLocator
  | .register connRef => locator.register connRef
  | .unregister connId => locator.unregister connId

/-! ### The invariant -/

/-- The two tables say the same when each says what the other says. -/
theorem Consistent.buckets (h : locator.Consistent) (hi : locator.Indexed) :
    JsMap.Buckets ConnRef.peerId locator.connsByPeer locator.connsById := by
  intro peerId connId connRef
  constructor
  · rintro ⟨conns, hpeer, hget⟩
    exact h.byPeer peerId conns connId connRef hpeer hget
  · rintro ⟨hget, rfl⟩
    exact hi connId connRef hget

theorem occupied_dropFromPeer (ho : locator.connsByPeer.Occupied) (connRef : ConnRef) :
    (locator.dropFromPeer connRef).Occupied := by
  unfold dropFromPeer
  cases locator.connsByPeer.get connRef.peerId with
  | none => exact ho
  | some peerConns =>
    dsimp only
    split_ifs with hsize
    · exact ho.delete
    · exact ho.set hsize

theorem occupied_freed (ho : locator.connsByPeer.Occupied) (connRef : ConnRef) :
    (locator.freed connRef).Occupied := by
  unfold freed
  cases locator.connsById.get connRef.connId with
  | none => exact ho
  | some existing =>
    dsimp only
    split_ifs
    · exact occupied_dropFromPeer ho existing
    · exact ho

theorem occupied_register (ho : locator.connsByPeer.Occupied) (connRef : ConnRef) :
    (locator.register connRef).connsByPeer.Occupied := by
  rw [register_eq]
  exact (occupied_freed ho connRef).set (JsMap.size_pos_of_get _ (JsMap.get_set_self _ _ _)).ne'

theorem occupied_unregister (ho : locator.connsByPeer.Occupied) (connId : JsString) :
    (locator.unregister connId).connsByPeer.Occupied := by
  unfold InMemoryPeerLocator.unregister
  cases locator.connsById.get connId with
  | none => exact ho
  | some connRef => exact occupied_dropFromPeer ho connRef

/-- A call leaves what it says of its connection, and the others as they were. -/
theorem get_step (call : PeerLocatorCall) (connId : JsString) :
    (locator.step call).connsById.get connId =
      if connId = call.connId then call.leaves else locator.connsById.get connId := by
  cases call with
  | register connRef => exact JsMap.get_set _ _ _ _
  | unregister connId' => exact get_unregister connId' connId

/-- What holds after some calls. -/
structure After (calls : List PeerLocatorCall) (locator : InMemoryPeerLocator) : Prop where
  consistent : locator.Consistent
  indexed : locator.Indexed
  occupied : locator.connsByPeer.Occupied
  live : ∀ connId, locator.connsById.get connId = live calls connId

theorem After.step {calls : List PeerLocatorCall} (h : After calls locator)
    (call : PeerLocatorCall) : After (calls ++ [call]) (locator.step call) where
  consistent := by
    cases call with
    | register connRef => exact h.consistent.register connRef
    | unregister connId => exact h.consistent.unregister connId
  indexed := by
    cases call with
    | register connRef => exact h.indexed.register h.consistent connRef
    | unregister connId => exact h.indexed.unregister h.consistent connId
  occupied := by
    cases call with
    | register connRef => exact occupied_register h.occupied connRef
    | unregister connId => exact occupied_unregister h.occupied connId
  live connId := by rw [get_step, live_concat, h.live connId]

theorem after_run (calls : List PeerLocatorCall) : After calls (Machine.run step {} calls) :=
  Machine.run_history ⟨consistent_empty, indexed_empty, JsMap.occupied_empty, fun _ => rfl⟩
    (fun _ call h => h.step call) calls

/-! ### What is read -/

/-- The counts of the peers add up to the number of connections. -/
theorem sum_counts (h : JsMap.Buckets ConnRef.peerId locator.connsByPeer locator.connsById) :
    (locator.connsByPeer.keys.map locator.countConnectionsForPeer).sum =
      locator.countConnections := by
  unfold countConnections
  rw [← h.sum_size, JsMap.keys, List.map_map]
  refine congrArg List.sum (List.map_congr_left fun e he => ?_)
  show ((locator.connsByPeer.get e.1).map JsMap.size).getD 0 = e.2.size
  rw [JsMap.get_eq_some_iff.2 he]
  rfl

/-- The peers that are there have connections, and the others have none. -/
theorem mem_keys_iff (ho : locator.connsByPeer.Occupied) {peerId : JsString} :
    peerId ∈ locator.connsByPeer.keys ↔ locator.countConnectionsForPeer peerId ≠ 0 := by
  unfold countConnectionsForPeer
  cases hpeer : locator.connsByPeer.get peerId with
  | none => exact iff_of_false (JsMap.get_eq_none_iff.1 hpeer) (not_not.2 rfl)
  | some conns =>
    refine iff_of_true ?_ (ho peerId conns hpeer)
    by_contra hnot
    rw [JsMap.get_eq_none_iff.2 hnot] at hpeer
    cases hpeer

theorem mem_find_iff (h : locator.Consistent) (hi : locator.Indexed) {peerId : JsString}
    {groupId : Option JsString} {connRef : ConnRef} :
    connRef ∈ locator.find peerId groupId ↔
      locator.connsById.get connRef.connId = some connRef ∧ connRef.peerId = peerId ∧
        connRef.groupId = groupId := by
  unfold find
  rw [List.mem_filter, decide_eq_true_iff, ← and_assoc]
  refine and_congr_left fun _ => ?_
  rw [List.mem_map]
  constructor
  · rintro ⟨⟨connId, connRef'⟩, hentry, rfl⟩
    obtain ⟨hget, hpeer⟩ := (h.buckets hi).mem_bucket.1 hentry
    obtain rfl := h.byId connId connRef' hget
    exact ⟨hget, hpeer⟩
  · intro hlive
    exact ⟨(connRef.connId, connRef), (h.buckets hi).mem_bucket.2 hlive, rfl⟩

/-- No connection is found twice. -/
theorem nodup_find (h : locator.Consistent) (hi : locator.Indexed) (peerId : JsString)
    (groupId : Option JsString) : ((locator.find peerId groupId).map ConnRef.connId).Nodup := by
  unfold find
  refine (List.filter_sublist.map ConnRef.connId).nodup ?_
  set conns := (locator.connsByPeer.get peerId).getD .empty with hconns
  have hids : (conns.entries.map Prod.snd).map ConnRef.connId = conns.entries.map Prod.fst := by
    rw [List.map_map]
    refine List.map_congr_left fun e he => ?_
    exact h.byId e.1 e.2 ((h.buckets hi).mem_bucket.1 (hconns ▸ he)).1
  rw [hids]
  exact conns.nodup

/-- **After any calls the two indexes hold the live connections**: the peers have the connections
that the ids have, no peer is left without one, their counts add up, and what is found of a peer and
a group are its live connections, each once. -/
theorem indexes_agree (calls : List PeerLocatorCall) :
    let locator := Machine.run step {} calls
    JsMap.Buckets ConnRef.peerId locator.connsByPeer locator.connsById ∧
      locator.connsByPeer.Occupied ∧
      (∀ peerId, peerId ∈ locator.connsByPeer.keys ↔
        locator.countConnectionsForPeer peerId ≠ 0) ∧
      (locator.connsByPeer.keys.map locator.countConnectionsForPeer).sum =
        locator.countConnections ∧
      (∀ connId, locator.getByConnId connId = live calls connId) ∧
      ∀ peerId groupId,
        ((locator.find peerId groupId).map ConnRef.connId).Nodup ∧
        ∀ connRef, connRef ∈ locator.find peerId groupId ↔
          live calls connRef.connId = some connRef ∧ connRef.peerId = peerId ∧
            connRef.groupId = groupId := by
  intro locator
  have h : After calls locator := after_run calls
  have hbuckets := h.consistent.buckets h.indexed
  refine ⟨hbuckets, h.occupied, fun _ => mem_keys_iff h.occupied, sum_counts hbuckets, h.live,
    fun peerId groupId => ⟨nodup_find h.consistent h.indexed peerId groupId, fun connRef => ?_⟩⟩
  rw [mem_find_iff h.consistent h.indexed, h.live]

end InMemoryPeerLocator

end Hardess
