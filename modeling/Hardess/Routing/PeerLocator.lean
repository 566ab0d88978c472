import Hardess.Lib.JsMap
import Hardess.Shared.Types

/-!
# The peer locators

* `InMemoryPeerLocator` of `src/runtime/routing/peer-locator.ts`: the connections of this node, by
  peer and by connection id;
* `mergeConnRefs` of `src/runtime/cluster/peer-locator.ts`, which adds what a cache or another node
  knows;
* `deliveryTargets`: the targets that `buildPlan` of `src/runtime/routing/dispatcher.ts` makes of
  what was located;
* `InMemoryPeerLocator.Consistent`: the two tables of the locator agree.
-/

namespace Hardess

/-- `InMemoryPeerLocator`. -/
structure InMemoryPeerLocator where
  connsByPeer : JsMap JsString (JsMap JsString ConnRef) := .empty
  connsById : JsMap JsString ConnRef := .empty

namespace InMemoryPeerLocator

variable (locator : InMemoryPeerLocator)

/-- Take a connection off its peer; a peer without connections goes too. -/
def dropFromPeer (connRef : ConnRef) : JsMap JsString (JsMap JsString ConnRef) :=
  match locator.connsByPeer.get connRef.peerId with
  | none => locator.connsByPeer
  | some peerConns =>
    let peerConns' := peerConns.delete connRef.connId
    if peerConns'.size = 0 then locator.connsByPeer.delete connRef.peerId
    else locator.connsByPeer.set connRef.peerId peerConns'

/-- `register`. -/
def register (connRef : ConnRef) : InMemoryPeerLocator :=
  let connsByPeer :=
    match locator.connsById.get connRef.connId with
    | some existing =>
      if existing.peerId ≠ connRef.peerId then locator.dropFromPeer existing
      else locator.connsByPeer
    | none => locator.connsByPeer
  let peerConns := (connsByPeer.get connRef.peerId).getD .empty
  { connsById := locator.connsById.set connRef.connId connRef
    connsByPeer := connsByPeer.set connRef.peerId (peerConns.set connRef.connId connRef) }

/-- `unregister`. -/
def unregister (connId : JsString) : InMemoryPeerLocator :=
  match locator.connsById.get connId with
  | none => locator
  | some connRef =>
    { connsById := locator.connsById.delete connId
      connsByPeer := locator.dropFromPeer connRef }

/-- `getByConnId`. -/
def getByConnId (connId : JsString) : Option ConnRef := locator.connsById.get connId

/-- `countConnections`. -/
def countConnections : ℕ := locator.connsById.size

/-- `countConnectionsForPeer`. -/
def countConnectionsForPeer (peerId : JsString) : ℕ :=
  ((locator.connsByPeer.get peerId).map JsMap.size).getD 0

/-- `find`, with the options that `buildPlan` gives. -/
def find (peerId : JsString) (groupId : Option JsString) : List ConnRef :=
  (((locator.connsByPeer.get peerId).getD .empty).entries.map Prod.snd).filter
    fun conn => conn.groupId = groupId

end InMemoryPeerLocator

/-! ### What the locator holds -/

namespace InMemoryPeerLocator

variable {locator : InMemoryPeerLocator}

/-- The locator holds the reference in one of its tables. -/
def Holds (locator : InMemoryPeerLocator) (connRef : ConnRef) : Prop :=
  (∃ connId, locator.connsById.get connId = some connRef) ∨
    ∃ peerId conns connId, locator.connsByPeer.get peerId = some conns ∧
      conns.get connId = some connRef

/-- Each reference stands under its own id, and what stands under a peer is that peer's. -/
structure Consistent (locator : InMemoryPeerLocator) : Prop where
  byId : ∀ connId connRef, locator.connsById.get connId = some connRef → connRef.connId = connId
  byPeer : ∀ peerId conns connId connRef, locator.connsByPeer.get peerId = some conns →
    conns.get connId = some connRef →
    locator.connsById.get connId = some connRef ∧ connRef.peerId = peerId

theorem consistent_empty : Consistent {} :=
  ⟨fun _ _ h => by simp at h, fun _ _ _ _ h => by simp at h⟩

/-- In a consistent locator the connection ids say everything. -/
theorem Consistent.holds_iff (h : locator.Consistent) {connRef : ConnRef} :
    locator.Holds connRef ↔ locator.connsById.get connRef.connId = some connRef := by
  constructor
  · rintro (⟨connId, hget⟩ | ⟨peerId, conns, connId, hpeer, hget⟩)
    · rwa [h.byId connId connRef hget]
    · have hid := (h.byPeer peerId conns connId connRef hpeer hget).1
      rwa [h.byId connId connRef hid]
  · exact fun hget => .inl ⟨_, hget⟩

/-- What is left under a peer was there, and is not the connection that was taken off. -/
theorem of_dropFromPeer {connRef connRef' : ConnRef} {peerId connId : JsString}
    {conns : JsMap JsString ConnRef}
    (h : (locator.dropFromPeer connRef).get peerId = some conns)
    (hget : conns.get connId = some connRef') :
    (∃ conns', locator.connsByPeer.get peerId = some conns' ∧ conns'.get connId = some connRef') ∧
      (peerId = connRef.peerId → connId ≠ connRef.connId) := by
  unfold dropFromPeer at h
  cases hpeer : locator.connsByPeer.get connRef.peerId with
  | none =>
    rw [hpeer] at h
    refine ⟨⟨conns, h, hget⟩, ?_⟩
    rintro rfl
    rw [hpeer] at h
    cases h
  | some peerConns =>
    rw [hpeer] at h
    dsimp only at h
    split_ifs at h
    · obtain ⟨hne, hold⟩ := JsMap.get_of_get_delete h
      exact ⟨⟨conns, hold, hget⟩, fun heq => absurd heq hne⟩
    · rw [JsMap.get_set] at h
      split_ifs at h with heq
      · cases h
        obtain ⟨hne, hold⟩ := JsMap.get_of_get_delete hget
        exact ⟨⟨peerConns, heq ▸ hpeer, hold⟩, fun _ => hne⟩
      · exact ⟨⟨conns, h, hget⟩, fun heq' => absurd heq' heq⟩

theorem get_unregister (connId connId' : JsString) :
    (locator.unregister connId).connsById.get connId' =
      if connId' = connId then none else locator.connsById.get connId' := by
  unfold unregister
  cases h : locator.connsById.get connId with
  | none =>
    split_ifs with heq
    · rw [heq]
      exact h
    · rfl
  | some connRef => exact JsMap.get_delete _ _ _

theorem Consistent.unregister (h : locator.Consistent) (connId : JsString) :
    (locator.unregister connId).Consistent := by
  unfold InMemoryPeerLocator.unregister
  cases hid : locator.connsById.get connId with
  | none => exact h
  | some connRef =>
    refine ⟨fun connId' connRef' hget => h.byId _ _ (JsMap.get_of_get_delete hget).2,
      fun peerId conns connId' connRef' hpeer hget => ?_⟩
    obtain ⟨⟨conns', hpeer', hget'⟩, hne⟩ := of_dropFromPeer hpeer hget
    obtain ⟨hsame, hmine⟩ := h.byPeer _ _ _ _ hpeer' hget'
    refine ⟨?_, hmine⟩
    dsimp only
    rw [JsMap.get_delete_of_ne]
    · exact hsame
    · rintro rfl
      rw [hid] at hsame
      cases hsame
      exact hne hmine.symm (h.byId _ _ hid).symm

/-- The connections by peer that `register` goes on with: the connection is off another peer. -/
def freed (locator : InMemoryPeerLocator) (connRef : ConnRef) :
    JsMap JsString (JsMap JsString ConnRef) :=
  match locator.connsById.get connRef.connId with
  | some existing =>
    if existing.peerId ≠ connRef.peerId then locator.dropFromPeer existing
    else locator.connsByPeer
  | none => locator.connsByPeer

theorem register_eq (connRef : ConnRef) : locator.register connRef =
    { connsById := locator.connsById.set connRef.connId connRef
      connsByPeer := (locator.freed connRef).set connRef.peerId
        (((locator.freed connRef).get connRef.peerId).getD .empty |>.set connRef.connId connRef) } :=
  rfl

/-- What is left under another peer is another connection. -/
theorem Consistent.of_freed (h : locator.Consistent) {connRef connRef' : ConnRef}
    {peerId connId : JsString} {conns : JsMap JsString ConnRef}
    (hpeer : (locator.freed connRef).get peerId = some conns)
    (hget : conns.get connId = some connRef') :
    (locator.connsById.get connId = some connRef' ∧ connRef'.peerId = peerId) ∧
      (peerId ≠ connRef.peerId → connId ≠ connRef.connId) := by
  unfold freed at hpeer
  cases hid : locator.connsById.get connRef.connId with
  | none =>
    rw [hid] at hpeer
    have hboth := h.byPeer _ _ _ _ hpeer hget
    refine ⟨hboth, ?_⟩
    rintro - rfl
    rw [hid] at hboth
    cases hboth.1
  | some existing =>
    rw [hid] at hpeer
    dsimp only at hpeer
    split_ifs at hpeer with hne
    · obtain ⟨⟨conns', hpeer', hget'⟩, hgone⟩ := of_dropFromPeer hpeer hget
      have hboth := h.byPeer _ _ _ _ hpeer' hget'
      refine ⟨hboth, ?_⟩
      rintro - rfl
      rw [hid] at hboth
      cases hboth.1
      exact hgone hboth.2.symm (h.byId _ _ hid).symm
    · have hboth := h.byPeer _ _ _ _ hpeer hget
      refine ⟨hboth, ?_⟩
      rintro hother rfl
      rw [hid] at hboth
      cases hboth.1
      exact hother (hboth.2.symm.trans (not_not.1 hne))

theorem Consistent.register (h : locator.Consistent) (connRef : ConnRef) :
    (locator.register connRef).Consistent := by
  rw [register_eq]
  refine ⟨fun connId connRef' hget => ?_, fun peerId conns connId connRef' hpeer hget => ?_⟩
  · dsimp only at hget
    rw [JsMap.get_set] at hget
    split_ifs at hget with heq
    · cases hget
      exact heq.symm
    · exact h.byId _ _ hget
  · dsimp only at hpeer ⊢
    rw [JsMap.get_set] at hpeer ⊢
    split_ifs at hpeer with hp
    · cases hpeer
      rw [JsMap.get_set] at hget
      split_ifs at hget ⊢ with hc
      · cases hget
        exact ⟨rfl, hp.symm⟩
      · rw [hp]
        cases hold : (locator.freed connRef).get connRef.peerId with
        | none =>
          rw [hold] at hget
          cases hget
        | some conns' =>
          rw [hold] at hget
          exact (h.of_freed hold hget).1
    · obtain ⟨hboth, hne⟩ := h.of_freed hpeer hget
      rw [if_neg (hne hp)]
      exact hboth

/-- The connections of a list go. -/
theorem get_unregister_all (connIds : List JsString) (connId : JsString) :
    (connIds.foldl (fun l connId => l.unregister connId) locator).connsById.get connId =
      if connId ∈ connIds then none else locator.connsById.get connId := by
  induction connIds generalizing locator with
  | nil => rfl
  | cons connId' connIds ih =>
    rw [List.foldl_cons, ih, get_unregister]
    by_cases heq : connId = connId' <;> simp [heq]

theorem Consistent.unregister_all (h : locator.Consistent) (connIds : List JsString) :
    (connIds.foldl (fun l connId => l.unregister connId) locator).Consistent := by
  induction connIds generalizing locator with
  | nil => exact h
  | cons connId connIds ih => exact ih (h.unregister connId)

end InMemoryPeerLocator

/-- The key that `mergeConnRefs` gives a connection. -/
def mergeKey (conn : ConnRef) : JsString := conn.nodeId ++ js ":" ++ conn.connId

/-- `mergeConnRefs`: a later connection replaces an earlier one of the same key. -/
def mergeConnRefs (left right : List ConnRef) : List ConnRef :=
  (((left ++ right).foldl (fun m (conn : ConnRef) => m.set (mergeKey conn) conn)
    JsMap.empty).entries).map Prod.snd

/-- What is merged comes from one of the two sides. -/
theorem mem_of_mem_mergeConnRefs {left right : List ConnRef} {conn : ConnRef}
    (h : conn ∈ mergeConnRefs left right) : conn ∈ left ∨ conn ∈ right := by
  rw [← List.mem_append]
  unfold mergeConnRefs at h
  generalize left ++ right = conns at h ⊢
  obtain ⟨⟨key, _⟩, hentry, rfl⟩ := List.mem_map.1 h
  have hfold : ∀ m : JsMap JsString ConnRef, ∀ k c,
      (conns.foldl (fun m conn => m.set (mergeKey conn) conn) m).get k = some c →
        m.get k = some c ∨ c ∈ conns := by
    clear h hentry
    induction conns with
    | nil => exact fun m k c => .inl
    | cons conn conns ih =>
      intro m k c hget
      rcases ih _ k c hget with hold | hmem
      · rw [JsMap.get_set] at hold
        split_ifs at hold with heq
        · cases hold
          exact .inr List.mem_cons_self
        · exact .inl hold
      · exact .inr (List.mem_cons_of_mem _ hmem)
  rcases hfold _ key _ (JsMap.get_eq_some_iff.2 hentry) with hold | hmem
  · rw [JsMap.get_empty] at hold
    cases hold
  · exact hmem

/-- The targets of a plan: the connections that were located, for each peer in order. -/
def deliveryTargets (located : List (JsString × List ConnRef)) : List ConnRef :=
  located.flatMap Prod.snd

end Hardess
