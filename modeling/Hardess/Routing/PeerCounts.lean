import Hardess.Routing.PeerLocator

/-!
# How many connections a peer has

`InMemoryPeerLocator` counts the connections of a peer by its table of peers; the quota check asks
the table of connection ids whether a connection adds to that count.

* `Indexed`: what the ids say, the peers say too;
* `count_register_le`, `count_unregister_le`: how the counts change;
* `registered_le_count`: as many connections as the ids hold of a peer, its count says.
-/

namespace Hardess

namespace InMemoryPeerLocator

variable {locator : InMemoryPeerLocator}

/-- The number of connections under a peer in such a table. -/
def sizeAt (connsByPeer : JsMap JsString (JsMap JsString ConnRef)) (peerId : JsString) : ℕ :=
  ((connsByPeer.get peerId).map JsMap.size).getD 0

theorem sizeAt_set (t : JsMap JsString (JsMap JsString ConnRef)) (peerId p : JsString)
    (conns : JsMap JsString ConnRef) :
    sizeAt (t.set peerId conns) p = if p = peerId then conns.size else sizeAt t p := by
  unfold sizeAt
  rw [JsMap.get_set]
  split_ifs <;> rfl

theorem sizeAt_delete_le (t : JsMap JsString (JsMap JsString ConnRef)) (peerId p : JsString) :
    sizeAt (t.delete peerId) p ≤ sizeAt t p := by
  unfold sizeAt
  rw [JsMap.get_delete]
  split_ifs
  · exact Nat.zero_le _
  · exact le_rfl

theorem sizeAt_dropFromPeer_le (connRef : ConnRef) (p : JsString) :
    sizeAt (locator.dropFromPeer connRef) p ≤ sizeAt locator.connsByPeer p := by
  unfold dropFromPeer
  cases hpeer : locator.connsByPeer.get connRef.peerId with
  | none => exact le_rfl
  | some peerConns =>
    dsimp only
    split_ifs
    · exact sizeAt_delete_le _ _ _
    · rw [sizeAt_set]
      split_ifs with heq
      · rw [heq, sizeAt, hpeer]
        exact JsMap.size_delete_le _ _
      · exact le_rfl

theorem sizeAt_freed_le (connRef : ConnRef) (p : JsString) :
    sizeAt (locator.freed connRef) p ≤ sizeAt locator.connsByPeer p := by
  unfold freed
  cases locator.connsById.get connRef.connId with
  | none => exact le_rfl
  | some existing =>
    dsimp only
    split_ifs
    · exact sizeAt_dropFromPeer_le _ _
    · exact le_rfl

/-! ### What the ids say -/

/-- What the connection ids hold stands under its peer too. -/
def Indexed (locator : InMemoryPeerLocator) : Prop :=
  ∀ connId connRef, locator.connsById.get connId = some connRef →
    ∃ conns, locator.connsByPeer.get connRef.peerId = some conns ∧ conns.get connId = some connRef

theorem indexed_empty : Indexed {} := fun _ _ h => by simp at h

/-- What is not taken off a peer stays under it. -/
theorem get_dropFromPeer {connRef connRef' : ConnRef} {peerId connId : JsString}
    {conns : JsMap JsString ConnRef} (hpeer : locator.connsByPeer.get peerId = some conns)
    (hget : conns.get connId = some connRef')
    (hne : peerId = connRef.peerId → connId ≠ connRef.connId) :
    ∃ conns', (locator.dropFromPeer connRef).get peerId = some conns' ∧
      conns'.get connId = some connRef' := by
  unfold dropFromPeer
  cases hdrop : locator.connsByPeer.get connRef.peerId with
  | none => exact ⟨conns, hpeer, hget⟩
  | some peerConns =>
    dsimp only
    by_cases heq : peerId = connRef.peerId
    · subst heq
      rw [hpeer] at hdrop
      cases hdrop
      have hleft : (conns.delete connRef.connId).get connId = some connRef' := by
        rw [JsMap.get_delete_of_ne _ (hne rfl), hget]
      rw [if_neg (JsMap.size_pos_of_get _ hleft).ne']
      exact ⟨_, JsMap.get_set_self _ _ _, hleft⟩
    · split_ifs
      · exact ⟨conns, by rw [JsMap.get_delete_of_ne _ heq, hpeer], hget⟩
      · exact ⟨conns, by rw [JsMap.get_set_of_ne _ heq, hpeer], hget⟩

theorem Indexed.unregister (hi : locator.Indexed) (h : locator.Consistent) (connId : JsString) :
    (locator.unregister connId).Indexed := by
  unfold InMemoryPeerLocator.unregister
  cases hid : locator.connsById.get connId with
  | none => exact hi
  | some connRef =>
    intro connId' connRef' hget
    obtain ⟨hne, hold⟩ := JsMap.get_of_get_delete hget
    obtain ⟨conns, hpeer, hconn⟩ := hi connId' connRef' hold
    exact get_dropFromPeer hpeer hconn fun _ => by rwa [h.byId _ _ hid]

/-- Another connection stays under its peer when one is freed. -/
theorem get_freed (h : locator.Consistent) {connRef connRef' : ConnRef} {peerId connId : JsString}
    {conns : JsMap JsString ConnRef} (hpeer : locator.connsByPeer.get peerId = some conns)
    (hget : conns.get connId = some connRef') (hne : connId ≠ connRef.connId) :
    ∃ conns', (locator.freed connRef).get peerId = some conns' ∧
      conns'.get connId = some connRef' := by
  unfold freed
  cases hid : locator.connsById.get connRef.connId with
  | none => exact ⟨conns, hpeer, hget⟩
  | some existing =>
    dsimp only
    split_ifs
    · exact get_dropFromPeer hpeer hget fun _ => by rwa [h.byId _ _ hid]
    · exact ⟨conns, hpeer, hget⟩

theorem Indexed.register (hi : locator.Indexed) (h : locator.Consistent) (connRef : ConnRef) :
    (locator.register connRef).Indexed := by
  rw [register_eq]
  intro connId connRef' hget
  dsimp only at hget ⊢
  rw [JsMap.get_set] at hget
  split_ifs at hget with heq
  · cases hget
    exact ⟨_, JsMap.get_set_self _ _ _, by rw [heq, JsMap.get_set_self]⟩
  · obtain ⟨conns, hpeer, hconn⟩ := hi connId connRef' hget
    obtain ⟨conns', hpeer', hconn'⟩ := get_freed h hpeer hconn heq
    rw [JsMap.get_set]
    split_ifs with hp
    · refine ⟨_, rfl, ?_⟩
      rw [JsMap.get_set_of_ne _ heq, ← hp, hpeer', Option.getD_some, hconn']
    · exact ⟨conns', hpeer', hconn'⟩

/-! ### The counts -/

theorem count_eq_sizeAt (p : JsString) :
    locator.countConnectionsForPeer p = sizeAt locator.connsByPeer p := rfl

theorem count_unregister_le (connId p : JsString) :
    (locator.unregister connId).countConnectionsForPeer p ≤ locator.countConnectionsForPeer p := by
  unfold InMemoryPeerLocator.unregister
  cases locator.connsById.get connId with
  | none => exact le_rfl
  | some connRef => exact sizeAt_dropFromPeer_le _ _

/-- The connections of a list go: the tables agree, and no peer gains one. -/
theorem unregister_all (hi : locator.Indexed) (h : locator.Consistent) (connIds : List JsString) :
    (connIds.foldl (fun l connId => l.unregister connId) locator).Indexed ∧
      ∀ p, (connIds.foldl (fun l connId => l.unregister connId)
        locator).countConnectionsForPeer p ≤ locator.countConnectionsForPeer p := by
  induction connIds generalizing locator with
  | nil => exact ⟨hi, fun _ => le_rfl⟩
  | cons connId connIds ih =>
    obtain ⟨h1, h2⟩ := ih (hi.unregister h connId) (h.unregister connId)
    exact ⟨h1, fun p => (h2 p).trans (count_unregister_le connId p)⟩

/-- Whether the connection is not one of the peer yet. -/
def increase (locator : InMemoryPeerLocator) (connRef : ConnRef) : ℕ :=
  if (locator.getByConnId connRef.connId).map (·.peerId) ≠ some connRef.peerId then 1 else 0

/-- A connection that registers adds to its peer what the ids say, and nothing to others. -/
theorem count_register_le (hi : locator.Indexed) (connRef : ConnRef) (p : JsString) :
    (locator.register connRef).countConnectionsForPeer p ≤
      locator.countConnectionsForPeer p + if p = connRef.peerId then locator.increase connRef else 0 := by
  rw [register_eq, count_eq_sizeAt, count_eq_sizeAt]
  dsimp only
  rw [sizeAt_set]
  -- the peer that the id had before loses the connection first
  have hfreed := @sizeAt_freed_le locator connRef p
  by_cases hp : p = connRef.peerId
  · subst hp
    rw [if_pos rfl, if_pos rfl]
    have hsize : (((locator.freed connRef).get connRef.peerId).getD .empty).size =
        sizeAt (locator.freed connRef) connRef.peerId := by
      unfold sizeAt
      cases (locator.freed connRef).get connRef.peerId <;> rfl
    rw [JsMap.size_set, hsize]
    unfold increase getByConnId
    split_ifs with hsome hnew hnew
    · omega
    · omega
    · omega
    · -- a connection of the peer stands under the peer
      exfalso
      cases hid : locator.connsById.get connRef.connId with
      | none =>
        rw [hid] at hnew
        simp at hnew
      | some existing =>
        rw [hid, not_not, Option.map_some, Option.some.injEq] at hnew
        obtain ⟨conns, hpeer, hconn⟩ := hi _ _ hid
        rw [hnew] at hpeer
        refine hsome ?_
        rw [freed, hid]
        dsimp only
        rw [if_neg (by simpa using hnew), hpeer, Option.getD_some, hconn]
        rfl
  · rw [if_neg hp, if_neg hp]
    exact hfreed

/-- The ids hold no more connections of a peer than its count says. -/
theorem registered_le_count (hi : locator.Indexed) (p : JsString) :
    (locator.connsById.entries.filter fun e => e.2.peerId = p).length ≤
      locator.countConnectionsForPeer p := by
  set mine := locator.connsById.entries.filter fun e => e.2.peerId = p with hmine
  have hin : ∀ e ∈ mine, ∃ conns, locator.connsByPeer.get p = some conns ∧
      conns.get e.1 = some e.2 := by
    intro e he
    obtain ⟨hmem, hp⟩ := List.mem_filter.1 he
    obtain ⟨conns, hpeer, hconn⟩ := hi e.1 e.2 (JsMap.get_eq_some_iff.2 hmem)
    exact ⟨conns, of_decide_eq_true hp ▸ hpeer, hconn⟩
  unfold countConnectionsForPeer
  cases hpeer : locator.connsByPeer.get p with
  | none =>
    have hnil : mine = [] := by
      refine List.eq_nil_iff_forall_not_mem.2 fun e he => ?_
      obtain ⟨conns, hsome, -⟩ := hin e he
      rw [hpeer] at hsome
      cases hsome
    rw [hnil]
    exact Nat.zero_le _
  | some conns =>
    have hnodup : (mine.map Prod.fst).Nodup :=
      (List.filter_sublist.map Prod.fst).nodup locator.connsById.nodup
    -- every connection of the ids is in the table of its peer
    have hsub : mine.map Prod.fst ⊆ conns.entries.map Prod.fst := by
      intro connId hc
      obtain ⟨e, he, rfl⟩ := List.mem_map.1 hc
      obtain ⟨conns', hsome, hconn⟩ := hin e he
      rw [hpeer] at hsome
      cases hsome
      exact List.mem_map_of_mem (JsMap.get_eq_some_iff.1 hconn)
    have hle := (List.subperm_of_subset hnodup hsub).length_le
    rw [List.length_map, List.length_map] at hle
    exact hle

end InMemoryPeerLocator

end Hardess
