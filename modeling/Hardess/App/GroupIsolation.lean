import Hardess.App.RoutingApps
import Hardess.Ingress.Groups

/-!
# Groups of hosts

A message of a client reaches connections of its own group only, on every node of a cluster.

* the cache of a node only ever holds connections of the group of the node, since all lookups of a
  node are for that group: `DistributedPeerLocator.Grouped`;
* a question carries the group of the node that asks, and a node answers with connections of its own
  that are registered under the group that was asked for: `Isolated`;
* **`groups_isolated`**: whatever a node hands to one of its connections was sent by a connection of
  a node of the same group; no group is a group of its own.
-/

namespace Hardess

/-! ### The locator of a node -/

namespace DistributedPeerLocator

variable {Near : JsString → Prop} {group : Option JsString} {locator : DistributedPeerLocator}

/-- The connections of a result are on nodes of the group. -/
def NearResult (Near : JsString → Prop) (result : JsMap JsString (List ConnRef)) : Prop :=
  ∀ peerId, AllNear Near (listed result peerId)

/-- A call is for the group, and so is what it has so far. -/
def InGroup (Near : JsString → Prop) (group : Option JsString) : FindCall → Prop
  | .awaitingLocal _ options => scopeGroup options = group
  | .awaitingRemote options _ _ result => scopeGroup options = group ∧ NearResult Near result

/-- The lookups are for one group, and the connections are on nodes of that group. -/
structure Grouped (Near : JsString → Prop) (group : Option JsString)
    (locator : DistributedPeerLocator) : Prop where
  cache : ∀ key cached, locator.cache.get key = some cached → AllNear Near cached.conns
  calls : ∀ id call, locator.calls.get id = some call → InGroup Near group call
  found : ∀ found ∈ locator.found, NearResult Near found.result

/-- An event is about the group, and brings connections on its nodes. -/
def Brings (Near : JsString → Prop) (group : Option JsString) : Event → Prop
  | .findMany _ options => scopeGroup options = group
  | .localFound _ result _ _ => NearResult Near result
  | .located _ remote => NearResult Near remote
  | _ => True

theorem nearResult_empty : NearResult Near .empty := fun _ _ hconn => by cases hconn

theorem NearResult.set {result : JsMap JsString (List ConnRef)} (h : NearResult Near result)
    {peerId : JsString} {conns : List ConnRef} (hc : AllNear Near conns) :
    NearResult Near (result.set peerId conns) := by
  intro p
  unfold listed
  rw [JsMap.get_set]
  split_ifs
  · exact hc
  · exact h p

/-- The connections of all peers of a result. -/
theorem NearResult.entries {result : JsMap JsString (List ConnRef)} (h : NearResult Near result) :
    AllNear Near (result.entries.flatMap Prod.snd) := by
  intro conn hmem
  obtain ⟨⟨peerId, conns⟩, hentry, hconn⟩ := List.mem_flatMap.1 hmem
  refine h peerId conn ?_
  unfold listed
  rw [JsMap.get_eq_some_iff.2 hentry]
  exact hconn

theorem grouped_create (Near : JsString → Prop) (group : Option JsString) (ttl : ℕ) :
    (create ttl).Grouped Near group where
  cache := fun _ _ h => by cases h
  calls := fun _ _ h => by cases h
  found := fun _ h => by cases h

/-- A call returns what is near. -/
theorem Grouped.return_ (h : locator.Grouped Near group) (id : ℕ) (options : Option FindOptions)
    {result : JsMap JsString (List ConnRef)} (hr : NearResult Near result) :
    (locator.return_ id options result).Grouped Near group := by
  refine ⟨h.cache, fun id' call hget => h.calls id' call (JsMap.get_of_get_delete hget).2, ?_⟩
  intro found hmem
  rcases List.mem_append.1 hmem with hold | hnew
  · exact h.found found hold
  · rw [List.mem_singleton.1 hnew]
    exact hr

/-- A call waits for something. -/
theorem Grouped.setCall (h : locator.Grouped Near group) (id : ℕ) {call : FindCall}
    (hc : InGroup Near group call) (n : ℕ) :
    ({ locator with calls := locator.calls.set id call, nextCall := n } :
      DistributedPeerLocator).Grouped Near group := by
  refine ⟨h.cache, fun id' call' hget => ?_, h.found⟩
  dsimp only at hget
  rw [JsMap.get_set] at hget
  split_ifs at hget
  · cases hget
    exact hc
  · exact h.calls id' call' hget

/-- **Every event keeps the cache and the results in the group.** -/
theorem Grouped.step (h : locator.Grouped Near group) {e : Event} (he : Brings Near group e) :
    (locator.step e).Grouped Near group := by
  cases e with
  | findMany peerIds options =>
    have hcall : InGroup Near group (.awaitingLocal peerIds options) := he
    exact h.setCall locator.nextCall hcall _
  | localFound id result hasPeers currentTime =>
    -- what is looked up was found locally, or is in the cache
    have hlook (options : Option FindOptions) (peerIds : List JsString) :
        NearResult Near (lookUp locator.cache options currentTime peerIds result).2 := by
      intro p conn hconn
      rcases mem_lookUp hconn with hold | ⟨-, cached, hfresh, hcached⟩
      · exact he p conn hold
      · exact h.cache _ cached (fresh_eq_some_iff.1 hfresh).1 conn hcached
    rw [DistributedPeerLocator.step]
    rcases locator.localFound_cases id result hasPeers currentTime with
      heq | ⟨peerIds, options, hcall, ⟨-, heq⟩ | ⟨-, heq⟩ | ⟨-, -, heq⟩⟩ <;> rw [heq]
    · exact h
    · exact h.return_ id options he
    · exact h.return_ id options (hlook options peerIds)
    · have hwaits : InGroup Near group (.awaitingRemote options currentTime
          (lookUp locator.cache options currentTime peerIds result).1
          (lookUp locator.cache options currentTime peerIds result).2) :=
        ⟨h.calls id _ hcall, hlook options peerIds⟩
      exact h.setCall id hwaits _
  | located id remote =>
    rw [DistributedPeerLocator.step]
    rcases locator.located_cases id remote with heq | ⟨options, now, misses, result, hcall, heq⟩ <;>
      rw [heq]
    · exact h
    · -- what is stored is what the nodes of the group have said
      have hstored : ({ locator with cache := (storeRemote remote options
          (now + locator.cacheTtlMs) misses locator.cache result).1 } :
          DistributedPeerLocator).Grouped Near group := by
        refine ⟨fun key cached hget => ?_, h.calls, h.found⟩
        rcases get_storeRemote hget with hold | ⟨p, -, -, -, rfl⟩
        · exact h.cache key cached hold
        · exact he p
      refine hstored.return_ id options ?_
      · intro p conn hconn
        rcases mem_storeRemote hconn with hold | ⟨-, hremote⟩
        · exact (h.calls id _ hcall).2 p conn hold
        · exact he p conn hremote
  | failed id =>
    exact ⟨h.cache, fun id' call hget => h.calls id' call (JsMap.get_of_get_delete hget).2, h.found⟩
  | invalidate peerId =>
    exact ⟨fun key cached hget => h.cache key cached (JsMap.get_filter.1 hget).1, h.calls, h.found⟩

end DistributedPeerLocator

/-! ### One app -/

namespace RoutingApp

open DistributedPeerLocator (NearResult InGroup Brings)

variable {Near : JsString → Prop} {app : RoutingApp}

/-- An app keeps to the group of its node. -/
structure Grouped (Near : JsString → Prop) (app : RoutingApp) : Prop where
  websocket : app.websocket.Grouped Near
  peerLocator : app.peerLocator.Grouped Near app.websocket.deps.hostGroupId

/-- Other nodes only bring connections of the group, and no peers are looked up for no message. -/
def Honest (Near : JsString → Prop) : Event → Prop
  | .located _ remote => NearResult Near remote
  | .lookUp .. => False
  | _ => True

/-- What an event leaves: the app keeps to its group, asks for its group, and sends to it. -/
structure Keeps (Near : JsString → Prop) (app app' : RoutingApp) : Prop where
  grouped : app'.Grouped Near
  deps : app'.websocket.deps = app.websocket.deps
  asked : ∀ question, app'.asked = some question → question.groupId = app.websocket.deps.hostGroupId
  sent : ∀ call nodeId request, .deliver call nodeId request ∈ app'.websocket.effects →
    AllNear Near request.targets

theorem grouped_cleared (h : app.Grouped Near) : app.cleared.Grouped Near :=
  ⟨⟨h.websocket.near, h.websocket.auth, h.websocket.registered,
    ⟨h.websocket.kept.locator, h.websocket.kept.opened⟩, h.websocket.calls⟩, h.peerLocator⟩

/-- An app whose websocket runtime does nothing and that asks nobody. -/
theorem Keeps.of_quiet {app' : RoutingApp} (h : app'.Grouped Near)
    (hw : app'.websocket = app.cleared.websocket) (ha : app'.asked = none) :
    Keeps Near app app' :=
  ⟨h, by (rw [hw]; rfl), fun question hq => by (rw [ha] at hq; cases hq),
    fun _ _ _ hmem => by (rw [hw] at hmem; cases hmem)⟩

/-- An event of the websocket runtime. -/
theorem Keeps.of_websocket (h : app.Grouped Near) {e : WebSocketRuntime.Event}
    (he : WebSocketRuntime.NearAnswer Near e) (lookups : JsMap ℕ ℕ) :
    Keeps Near app { app.cleared with
      websocket := app.cleared.websocket.step e
      lookups := lookups } := by
  obtain ⟨hgrouped, hsent⟩ := WebSocketRuntime.grouped_step (grouped_cleared h).websocket he
  have hdeps := WebSocketRuntime.deps_step app.cleared.websocket e
  exact ⟨⟨hgrouped, by rw [hdeps]; exact h.peerLocator⟩, hdeps, fun _ hq => by (cases hq), hsent⟩

/-- The local locator has answered. -/
theorem answerLocally_keeps (h : app.Grouped Near) (id : ℕ) {result : JsMap JsString (List ConnRef)}
    (hr : NearResult Near result) : Keeps Near app (app.cleared.answerLocally id result) := by
  unfold answerLocally
  split
  · next peerIds options hcall =>
    have hgroup : scopeGroup options = app.websocket.deps.hostGroupId := h.peerLocator.calls id _ hcall
    have hlocal : Brings Near app.websocket.deps.hostGroupId (.localFound id result
        (app.cleared.locatesPeers && app.cleared.clusterNetwork.hasPeers)
        app.cleared.websocket.now) := hr
    refine ⟨⟨(grouped_cleared h).websocket, h.peerLocator.step hlocal⟩, rfl, ?_,
      fun _ _ _ hmem => by (cases hmem)⟩
    intro question hq
    dsimp only at hq
    split at hq
    · cases hq
      exact hgroup
    · cases hq
  · exact .of_quiet (grouped_cleared h) rfl rfl

theorem nearResult_foldl (located : List (JsString × List ConnRef)) :
    ∀ result, NearResult Near result → AllNear Near (located.flatMap Prod.snd) →
      NearResult Near (located.foldl (fun m found => m.set found.1 found.2) result) := by
  induction located with
  | nil => exact fun _ hr _ => hr
  | cons found located ih =>
    intro result hr hl
    rw [List.flatMap_cons, allNear_append] at hl
    exact ih _ (hr.set hl.1) hl.2

/-- **Every event of an app keeps it to its group, as long as other nodes are honest.** -/
theorem keeps_step (h : app.Grouped Near) {e : Event} (he : Honest Near e) :
    Keeps Near app (app.step e) := by
  have hc := grouped_cleared h
  -- An event that is about the locator only, and is about the group.
  have hlocator {e : DistributedPeerLocator.Event}
      (hb : Brings Near app.websocket.deps.hostGroupId e) (lookups : JsMap ℕ ℕ) :
      Keeps Near app { app.cleared with peerLocator := app.peerLocator.step e, lookups } :=
    .of_quiet ⟨hc.websocket, h.peerLocator.step hb⟩ rfl rfl
  show Keeps Near app (app.cleared.handle e)
  cases e with
  | setTopology hosts => exact .of_quiet ⟨hc.websocket, h.peerLocator⟩ rfl rfl
  | peerHealth nodeId status =>
    rw [handle, peerHealth]
    split_ifs
    · exact .of_quiet ⟨hc.websocket, h.peerLocator.step (e := .invalidate none) trivial⟩ rfl rfl
    · exact .of_quiet ⟨hc.websocket, h.peerLocator⟩ rfl rfl
  | network e => cases e <;> exact .of_quiet ⟨hc.websocket, h.peerLocator⟩ rfl rfl
  | websocket e =>
    rw [handle]
    unfold websocketEvent
    split
    · exact .of_quiet hc rfl rfl
    · next hne => exact .of_websocket h (fun id remote heq => absurd heq (hne id remote)) app.lookups
  | findMany call =>
    rw [handle]
    unfold findMany
    split
    · next groupId located rest hcall _ =>
      obtain ⟨-, hgroup, -⟩ := h.websocket.calls call _ hcall
      exact hlocator (e := .findMany _ (some { groupId })) hgroup _
    · exact .of_quiet hc rfl rfl
  | localFound call =>
    rw [handle]
    unfold localFound
    split
    · next located id hcall _ =>
      obtain ⟨-, hl⟩ := h.websocket.calls call _ hcall
      exact answerLocally_keeps h id (nearResult_foldl located _
        DistributedPeerLocator.nearResult_empty hl)
    · exact .of_quiet hc rfl rfl
  | located id remote => exact hlocator (e := .located id remote) he app.lookups
  | found call =>
    rw [handle]
    unfold found
    split
    · exact .of_quiet hc rfl rfl
    · split
      · exact .of_quiet hc rfl rfl
      · next found hfind =>
        refine .of_websocket h ?_ _
        rintro id remote ⟨⟩
        exact (h.peerLocator.found found (List.mem_of_find?_eq_some hfind)).entries
  | lookUp peerIds options => exact he.elim
  | invalidate peerId => exact hlocator (e := .invalidate (some peerId)) trivial app.lookups

/-- The relayed requests that an app serves were sent to it. -/
theorem relays_step {Sent : DeliverRequest → Prop} (h : app.websocket.Relays Sent) {e : Event}
    (hs : ∀ request, e = .websocket (.deliverCluster request) → Sent request) :
    (app.step e).websocket.Relays Sent := by
  have hcleared : app.cleared.websocket.Relays Sent := h
  rcases app.cleared.websocket_handle e with hsame | ⟨e', rfl, hstep⟩ | ⟨call, remote, hstep⟩
  · rw [RoutingApp.step, hsame]
    exact hcleared
  · rw [RoutingApp.step, hstep]
    exact WebSocketRuntime.relays_step hcleared fun request heq => hs request (by rw [heq])
  · rw [RoutingApp.step, hstep]
    exact WebSocketRuntime.relays_step hcleared fun request heq => by cases heq

end RoutingApp

/-! ### The cluster -/

namespace RoutingApps

open DistributedPeerLocator (NearResult)

variable {options : JsString → RuntimeAppOptions} {S : RoutingApps}

/-- The group of a host, as it was started. -/
def groupOf (options : JsString → RuntimeAppOptions) (nodeId : JsString) : Option JsString :=
  (options nodeId).websocket.hostGroupId

/-- The hosts of the group of a node. -/
def SameGroup (options : JsString → RuntimeAppOptions) (nodeId other : JsString) : Prop :=
  groupOf options other = groupOf options nodeId

/-- What the nodes hold, send and answer keeps to the groups. -/
structure Isolated (options : JsString → RuntimeAppOptions) (S : RoutingApps) : Prop where
  own : ∀ nodeId, (S.app nodeId).websocket.deps.nodeId = nodeId ∧
    (S.app nodeId).websocket.deps.hostGroupId = groupOf options nodeId
  app : ∀ nodeId, (S.app nodeId).Grouped (SameGroup options nodeId)
  relays : ∀ relay ∈ S.relays, AllNear (SameGroup options relay.1) relay.2.targets
  serving : ∀ nodeId,
    (S.app nodeId).websocket.Relays fun request => ∃ host, (host, request) ∈ S.relays
  questions : ∀ question ∈ S.questions, question.2.groupId = groupOf options question.1
  serves : ∀ serve ∈ S.serves, ∃ question, S.questions[serve.question]? = some question ∧
    serve.groupId = groupOf options question.1 ∧
    NearResult (SameGroup options question.1) serve.located

theorem isolated_create (options : JsString → RuntimeAppOptions)
    (peers : JsString → List ClusterPeerNode) : Isolated options (create options peers) where
  own := fun _ => ⟨rfl, rfl⟩
  app := fun nodeId => ⟨WebSocketRuntime.grouped_create rfl,
    DistributedPeerLocator.grouped_create _ _ _⟩
  relays := fun _ hmem => by cases hmem
  serving := fun _ => WebSocketRuntime.relays_create _ _
  questions := fun _ hmem => by cases hmem
  serves := fun _ hmem => by cases hmem

/-! ### The answering of questions -/

/-- What is merged from the responses that arrived was found by the nodes that answered. -/
theorem Isolated.nearResult_answered (h : Isolated options S) {i : ℕ}
    {question : JsString × LocateRequest} (hq : S.questions[i]? = some question)
    (peerIds : List JsString) (ks : List ℕ) :
    NearResult (SameGroup options question.1) (S.answered i peerIds ks) := by
  have hempty : ∀ (peerIds : List JsString) (merged : JsMap JsString (List ConnRef)),
      NearResult (SameGroup options question.1) merged → NearResult (SameGroup options question.1)
        (peerIds.foldl (fun merged peerId => merged.set peerId []) merged) := by
    intro peerIds
    induction peerIds with
    | nil => exact fun _ hm => hm
    | cons peerId peerIds ih => exact fun _ hm => ih _ (hm.set fun _ hconn => by cases hconn)
  -- A response only has connections that the node found for this question.
  have hresponse {k : ℕ} {peers : List (JsString × List ConnRef)}
      (hr : S.response i k = some peers) {peerId : JsString} {conns : List ConnRef}
      (hp : (peerId, conns) ∈ peers) : AllNear (SameGroup options question.1) conns := by
    unfold response at hr
    split at hr
    · cases hr
    · next serve hserve =>
      split_ifs at hr with hready
      obtain ⟨question', hget, -, hnear⟩ := h.serves serve (List.mem_of_getElem? hserve)
      rw [hready.1, hq] at hget
      cases hget
      intro conn hconn
      obtain ⟨conns', conn', hentry, hmem, rfl⟩ := mem_parse_locateResponse hr hp hconn
      exact hnear.entries conn' (List.mem_flatMap.2 ⟨_, hentry, hmem⟩)
  have hmerge : ∀ (responses : List (List (JsString × List ConnRef)))
      (merged : JsMap JsString (List ConnRef)),
      (∀ peers ∈ responses, ∃ k, S.response i k = some peers) →
      NearResult (SameGroup options question.1) merged → NearResult (SameGroup options question.1)
        (responses.foldl (fun merged peers => mergeResponse peers peerIds merged) merged) := by
    intro responses
    induction responses with
    | nil => exact fun _ _ hm => hm
    | cons peers responses ih =>
      intro merged hall hm
      refine ih _ (fun peers' hmem => hall peers' (.tail _ hmem)) fun p conn hconn => ?_
      obtain ⟨k, hr⟩ := hall peers List.mem_cons_self
      rcases mem_mergeResponse hconn with hold | ⟨conns, hp, hmem⟩
      · exact hm p conn hold
      · exact hresponse hr hp conn hmem
  refine hmerge _ _ (fun peers hmem => ?_)
    (hempty peerIds .empty DistributedPeerLocator.nearResult_empty)
  obtain ⟨k, -, hr⟩ := List.mem_filterMap.1 hmem
  exact ⟨k, hr⟩

/-- A question is asked with the group of the node that asks. -/
theorem Isolated.startServe (h : Isolated options S) (i : ℕ) (nodeId : JsString) :
    Isolated options (S.startServe i nodeId) := by
  unfold RoutingApps.startServe
  split
  · exact h
  · next host question hq =>
    split
    · exact h
    · next peerIds groupId hread =>
      obtain ⟨-, heq⟩ := parse_locateBody.1 hread
      cases heq
      refine ⟨h.own, h.app, h.relays, h.serving, h.questions, fun serve hmem => ?_⟩
      rcases List.mem_append.1 hmem with hold | hnew
      · exact h.serves serve hold
      · rw [List.mem_singleton.1 hnew]
        exact ⟨_, hq, h.questions _ (List.mem_of_getElem? hq),
          DistributedPeerLocator.nearResult_empty⟩

/-- What a node finds for a question is registered there in the group that was asked for. -/
theorem Isolated.findNext (h : Isolated options S) (k : ℕ) : Isolated options (S.findNext k) := by
  unfold RoutingApps.findNext
  split
  · exact h
  next serve hserve =>
  split
  · exact h
  next peerId rest hrest =>
  refine ⟨h.own, h.app, h.relays, h.serving, h.questions, fun serve' hmem => ?_⟩
  rcases List.mem_or_eq_of_mem_set hmem with hold | rfl
  · exact h.serves serve' hold
  obtain ⟨question, hq, hgroup, hnear⟩ := h.serves serve (List.mem_of_getElem? hserve)
  refine ⟨question, hq, hgroup, hnear.set fun conn hconn => ?_⟩
  obtain ⟨hholds, hconnGroup⟩ := WebSocketRuntime.holds_of_mem_find hconn
  obtain ⟨hnode, hregistered⟩ := (h.app serve.nodeId).websocket.registered conn hholds
  calc groupOf options conn.nodeId = groupOf options serve.nodeId := by
        rw [hnode, (h.own serve.nodeId).1]
    _ = conn.groupId := by rw [hregistered, (h.own serve.nodeId).2]
    _ = groupOf options question.1 := hconnGroup.trans hgroup

/-! ### Every event -/

/-- What comes to a node from other nodes keeps to its group. -/
theorem Isolated.honest (h : Isolated options S) {ev : Event} {nodeId : JsString}
    {e : RoutingApp.Event} (he : S.handled ev = some (nodeId, e)) :
    RoutingApp.Honest (SameGroup options nodeId) e := by
  rcases handled_cases he with hown | ⟨relay, -, rfl⟩ | ⟨i, question, ks, hq, rfl⟩
  · cases e with
    | located => cases hown
    | lookUp => cases hown
    | _ => trivial
  · trivial
  · exact h.nearResult_answered hq question.peerIds ks

/-- A request that a node is given was sent. -/
theorem relayed_of_handled {ev : Event} {nodeId : JsString} {request : DeliverRequest}
    (he : S.handled ev = some (nodeId, .websocket (.deliverCluster request))) :
    ∃ host, (host, request) ∈ S.relays := by
  rcases handled_cases he with hown | ⟨relay, hrelay, heq⟩ | ⟨i, question, ks, -, heq⟩
  · cases hown
  · cases heq
    exact ⟨relay.1, hrelay⟩
  · cases heq

theorem Isolated.handle (h : Isolated options S) {ev : Event} {nodeId : JsString}
    {e : RoutingApp.Event} (he : S.handled ev = some (nodeId, e)) :
    Isolated options (S.handle nodeId e) := by
  have hkeeps := RoutingApp.keeps_step (h.app nodeId) (h.honest he)
  obtain ⟨hnode, hgroup⟩ := h.own nodeId
  -- a relay that is served was sent before, and the list of relays only grows
  have hserving (m : JsString) : (S.app m).websocket.Relays
      fun request => ∃ host, (host, request) ∈ (S.handle nodeId e).relays := by
    intro id request startedAt delivered target rest hget
    obtain ⟨⟨host, hsent⟩, htarget⟩ := h.serving m _ _ _ _ _ _ hget
    exact ⟨⟨host, List.mem_append_left _ hsent⟩, htarget⟩
  refine ⟨fun m => ?_, fun m => ?_, fun relay hmem => ?_, fun m => ?_, fun question hmem => ?_,
    fun serve hmem => ?_⟩
  · by_cases hm : m = nodeId
    · subst hm
      simp only [RoutingApps.handle, Function.update_self, hkeeps.deps]
      exact h.own m
    · simp only [RoutingApps.handle, Function.update_of_ne hm]
      exact h.own m
  · by_cases hm : m = nodeId
    · subst hm
      simp only [RoutingApps.handle, Function.update_self]
      exact hkeeps.grouped
    · simp only [RoutingApps.handle, Function.update_of_ne hm]
      exact h.app m
  · rcases mem_relays_handle hmem with hold | ⟨call, target, request, rfl, hsent⟩
    · exact h.relays relay hold
    · intro conn hconn
      obtain ⟨conn', hconn', rfl⟩ := List.mem_map.1 hconn
      exact hkeeps.sent _ _ _ hsent conn' hconn'
  · by_cases hm : m = nodeId
    · subst hm
      simp only [RoutingApps.handle, Function.update_self]
      refine RoutingApp.relays_step (hserving m) fun request heq => ?_
      subst heq
      obtain ⟨host, hsent⟩ := relayed_of_handled he
      exact ⟨host, List.mem_append_left _ hsent⟩
    · simp only [RoutingApps.handle, Function.update_of_ne hm]
      exact hserving m
  · rcases List.mem_append.1 hmem with hold | hnew
    · exact h.questions question hold
    · obtain ⟨asked, hasked, rfl⟩ := List.mem_map.1 hnew
      exact (hkeeps.asked asked (Option.mem_toList.1 hasked)).trans hgroup
  · obtain ⟨question, hq, hserve⟩ := h.serves serve hmem
    refine ⟨question, ?_, hserve⟩
    rw [RoutingApps.handle, List.getElem?_append_left (List.getElem?_eq_some_iff.1 hq).1]
    exact hq

theorem Isolated.step (h : Isolated options S) (ev : Event) : Isolated options (S.step ev) := by
  rcases S.step_cases ev with ⟨i, nodeId, -, heq⟩ | ⟨k, -, heq⟩ | ⟨-, heq⟩ | ⟨nodeId, e, he, heq⟩ <;>
    rw [heq]
  · exact h.startServe i nodeId
  · exact h.findNext k
  · exact h
  · exact h.handle he

/-! ### Isolation -/

/-- The host whose connection sent an envelope that a node hands to one of its connections now: the
node itself serves a target of a message, or it serves a target of a request that the host sent. -/
inductive SentFrom (S : RoutingApps) (nodeId : JsString) :
    RoutingApp.Event → JsString → Envelope → JsString → Prop
  | local {id : ℕ} {send : SendCall} {delivered rest : List ConnRef}
      {remote : JsMap JsString (List ConnRef)} {target : ConnRef}
      (h : (S.app nodeId).websocket.calls.get id =
        some (.checking send delivered remote target rest)) :
      SentFrom S nodeId (.websocket (.resume id (.valid true))) target.connId
        { send.envelope with src := (S.app nodeId).websocket.sourceOf send } nodeId
  | relayed {id startedAt : ℕ} {request : DeliverRequest} {delivered rest : List ConnRef}
      {target : ConnRef} {host : JsString}
      (h : (S.app nodeId).websocket.calls.get id =
        some (.delivering request startedAt delivered target rest))
      (hs : (host, request) ∈ S.relays) :
      SentFrom S nodeId (.websocket (.resume id (.valid true))) target.connId request.envelope host

/-- An event hands envelopes to connections of the group of the sender only. -/
def Isolates (options : JsString → RuntimeAppOptions) (S : RoutingApps) (ev : Event) : Prop :=
  ∀ nodeId e connId envelope, S.handled ev = some (nodeId, e) →
    .enqueued connId (.envelope envelope) ∈ ((S.app nodeId).step e).websocket.effects →
    (∃ host, SentFrom S nodeId e connId envelope host) ∧
    ∀ host, SentFrom S nodeId e connId envelope host → groupOf options nodeId = groupOf options host

/-- An envelope that a node hands to a connection was sent by a host. -/
theorem Isolated.sentFrom (h : Isolated options S) {nodeId connId : JsString}
    {e : RoutingApp.Event} {envelope : Envelope}
    (hx : .enqueued connId (.envelope envelope) ∈ ((S.app nodeId).step e).websocket.effects) :
    ∃ host, SentFrom S nodeId e connId envelope host := by
  have hlisted {e' : WebSocketRuntime.Event} (hstep : ((S.app nodeId).step e).websocket =
      (S.app nodeId).websocket.cleared.step e') : WebSocketRuntime.Emitted
        (S.app nodeId).websocket.cleared e' (.enqueued connId (.envelope envelope)) := by
    rw [hstep] at hx
    exact ((WebSocketRuntime.step_handles _ e').effects _ hx).resolve_left id
  rcases (S.app nodeId).cleared.websocket_handle e with hsame | ⟨e', rfl, hstep⟩ |
    ⟨call, remote, hstep⟩
  · rw [RoutingApp.step, hsame] at hx
    cases hx
  · cases hlisted hstep with
    | envelope hcall => exact ⟨nodeId, .local hcall⟩
    | relayed hcall =>
      obtain ⟨⟨host, hsent⟩, -⟩ := h.serving nodeId _ _ _ _ _ _ hcall
      exact ⟨host, .relayed hcall hsent⟩
  · cases hlisted hstep

theorem Isolated.isolates (h : Isolated options S) (ev : Event) : Isolates options S ev := by
  refine fun nodeId e connId envelope _ hx => ⟨h.sentFrom hx, fun host hs => ?_⟩
  cases hs with
  | «local» => rfl
  | relayed hcall hsent =>
    obtain ⟨-, htarget, hnamed⟩ := h.serving nodeId _ _ _ _ _ _ hcall
    have hnear := h.relays _ hsent _ (hnamed List.mem_cons_self)
    rw [htarget, (h.own nodeId).1] at hnear
    exact hnear

/-- **In every run of a cluster, whatever groups its hosts were started with, an envelope is only
handed to connections on hosts of exactly the group of the host whose connection sent it.** -/
theorem groups_isolated (options : JsString → RuntimeAppOptions)
    (peers : JsString → List ClusterPeerNode) (es : List Event) :
    Machine.Along step (Isolates options) (create options peers) es :=
  Machine.along_iff.2 fun pre ev _ _ =>
    (Machine.run_invariant (isolated_create options peers) (fun _ ev h => h.step ev) pre).isolates ev

end RoutingApps

end Hardess
