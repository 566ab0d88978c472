import Hardess.Ingress.Identity
import Hardess.Ingress.Registrations

/-!
# The group of a node

Every connection of a node is authenticated and registered under the group of its host, and that is
the group that the node asks for when it sends a message.

* `Within`: the connections that a call still sends its message to are on nodes of the group;
* `Grouped`: what is true of every state of a run, as long as what other nodes answer is;
* `Relays`: a relayed request is served to targets of this node that it names;
* `grouped_step`, `relays_step`: every event keeps both.
-/

namespace Hardess

/-- The connections are on nodes of the group. -/
def AllNear (Near : JsString → Prop) (conns : List ConnRef) : Prop :=
  ∀ conn ∈ conns, Near conn.nodeId

theorem allNear_append {Near : JsString → Prop} {left right : List ConnRef} :
    AllNear Near (left ++ right) ↔ AllNear Near left ∧ AllNear Near right :=
  List.forall_mem_append

namespace WebSocketRuntime

variable {Near : JsString → Prop} {st s s' : WebSocketRuntime} {P : Effect → Prop} {e : Event}
  {id : ℕ} {send : SendCall}

/-- The sender of a call is authenticated, and the connections that the call still sends its message
to are on nodes of the group. -/
def Within (Near : JsString → Prop) (st : WebSocketRuntime) : Call → Prop
  | .validating connId _ _ => (st.authOf connId).isSome = true
  | .hooking connId _ _ => (st.authOf connId).isSome = true
  | .finding send groupId located _ => (st.authOf send.sender).isSome = true ∧
    groupId = st.deps.hostGroupId ∧ AllNear Near (located.flatMap Prod.snd)
  | .locating send located => (st.authOf send.sender).isSome = true ∧
    AllNear Near (located.flatMap Prod.snd)
  | .checking send _ remote _ rest => (st.authOf send.sender).isSome = true ∧
    AllNear Near (remote.entries.flatMap Prod.snd) ∧ AllNear Near rest
  | .relaying send _ rest => (st.authOf send.sender).isSome = true ∧
    AllNear Near (rest.flatMap Prod.snd)
  | _ => True

/-- The connections of a node are of its group, and so are those that its calls send to. -/
structure Grouped (Near : JsString → Prop) (st : WebSocketRuntime) : Prop where
  near : Near st.deps.nodeId
  auth : ∀ connId auth, st.authOf connId = some auth → auth.groupId = st.deps.hostGroupId
  registered : ∀ conn, st.peerLocator.Holds conn →
    conn.nodeId = st.deps.nodeId ∧ conn.groupId = st.deps.hostGroupId
  kept : st.Kept
  calls : ∀ id call, st.calls.get id = some call → st.Within Near call

theorem grouped_create {deps : WebSocketRuntimeDeps} (h : Near deps.nodeId) :
    (create deps).Grouped Near where
  near := h
  auth := fun _ _ ha => by cases ha
  registered := by rintro conn (⟨_, hget⟩ | ⟨_, _, _, hget, -⟩) <;> cases hget
  kept := kept_create deps
  calls := fun _ _ hget => by cases hget

/-! ### What is registered -/

/-- What the locator finds is registered, in the group that was asked for. -/
theorem holds_of_mem_find {locator : InMemoryPeerLocator} {peerId : JsString}
    {groupId : Option JsString} {conn : ConnRef} (h : conn ∈ locator.find peerId groupId) :
    locator.Holds conn ∧ conn.groupId = groupId := by
  obtain ⟨hmem, hgroup⟩ := List.mem_filter.1 h
  obtain ⟨⟨connId, conn'⟩, hentry, rfl⟩ := List.mem_map.1 hmem
  refine ⟨.inr ?_, of_decide_eq_true hgroup⟩
  cases hpeer : locator.connsByPeer.get peerId with
  | none =>
    rw [hpeer] at hentry
    cases hentry
  | some conns =>
    rw [hpeer] at hentry
    exact ⟨peerId, conns, connId, hpeer, JsMap.get_eq_some_iff.2 hentry⟩

/-- What a node finds for one of its messages is its own. -/
theorem Grouped.allNear_find (h : st.Grouped Near) (peerId : JsString) (groupId : Option JsString) :
    AllNear Near (st.peerLocator.find peerId groupId) := fun conn hmem =>
  (h.registered conn (holds_of_mem_find hmem).1).1 ▸ h.near

/-- What is registered after an event was registered before, or is registered now by this node. -/
theorem holds_step (h : st.Kept) {conn : ConnRef} (hc : (st.step e).peerLocator.Holds conn) :
    st.peerLocator.Holds conn ∨ ∃ connId peerId, conn = st.ownRef connId peerId := by
  rw [(kept_step h e).locator.holds_iff] at hc
  rcases (tables_step st e).1 with ⟨connIds, heq⟩ | ⟨connId, peerId, -, heq⟩ <;> rw [heq] at hc
  · rw [InMemoryPeerLocator.get_unregister_all] at hc
    split_ifs at hc
    exact .inl (h.locator.holds_iff.2 hc)
  · rw [InMemoryPeerLocator.register_eq] at hc
    dsimp only at hc
    rw [JsMap.get_set] at hc
    split_ifs at hc
    · exact .inr ⟨connId, peerId, (Option.some.inj hc).symm⟩
    · exact .inl (h.locator.holds_iff.2 hc)

/-! ### What a call that goes on does -/

/-- A state that the handling of an answer goes through: the new calls are within the group, and so
are the requests to other nodes. -/
structure Confined (Near : JsString → Prop) (st s : WebSocketRuntime) : Prop where
  twin : Twin st s
  locator : s.peerLocator = st.peerLocator
  calls : ∀ id call, s.calls.get id = some call → st.calls.get id = some call ∨ st.Within Near call
  sent : ∀ call nodeId request, .deliver call nodeId request ∈ s.effects →
    AllNear Near request.targets

/-- An effect that is no request to another node. -/
def Quiet (x : Effect) : Prop := ∀ call nodeId request, x ≠ .deliver call nodeId request

namespace Confined

theorem keeps (h : Confined Near st s) (k : Keeps Quiet s s') : Confined Near st s' := by
  obtain ⟨new, hnew, hquiet, -⟩ := k.effects
  refine ⟨k.twin h.twin, k.peerLocator.trans h.locator, k.calls ▸ h.calls, ?_⟩
  intro call nodeId request hmem
  rw [hnew] at hmem
  rcases List.mem_append.1 hmem with hold | hlast
  · exact h.sent call nodeId request hold
  · exact absurd rfl (hquiet _ hlast call nodeId request)

theorem catchError (h : Confined Near st s) (connId : JsString) (message : Envelope)
    (thrown : Thrown) : Confined Near st (s.catchError connId message thrown) :=
  h.keeps ((catchError_keeps connId message thrown).mono fun x hx => by
    rintro call nodeId request rfl
    exact hx)

theorem enqueueOutbound (h : Confined Near st s) (target : JsString) (outbound : OutboundMessage) :
    Confined Near st (s.enqueueOutbound target outbound).1 :=
  h.keeps ((enqueueOutbound_keeps target outbound).mono fun x hx => by
    rintro call nodeId request rfl
    exact hx)

theorem enqueueOrCatch (h : Confined Near st s) (connId : JsString) (message : Envelope)
    (target : JsString) (outbound : OutboundMessage) :
    Confined Near st (s.enqueueOrCatch connId message target outbound) :=
  h.keeps ((enqueueOrCatch_keeps connId message target outbound).mono fun x hx => by
    rintro call nodeId request rfl
    exact hx.elim id id)

theorem await (h : Confined Near st s) {call : Call} (hw : st.Within Near call) :
    Confined Near st (s.await id call) := by
  refine ⟨⟨h.twin.deps, h.twin.now, h.twin.connections, h.twin.auth⟩, h.locator, ?_, h.sent⟩
  intro id' call' hget
  rw [show (s.await id call).calls = s.calls.set id call from rfl, JsMap.get_set] at hget
  split_ifs at hget
  · cases hget
    exact .inr hw
  · exact h.calls id' call' hget

theorem emit (h : Confined Near st s) {call : ℕ} {nodeId : JsString} {request : DeliverRequest}
    (hr : AllNear Near request.targets) : Confined Near st (s.emit (.deliver call nodeId request)) := by
  refine ⟨⟨h.twin.deps, h.twin.now, h.twin.connections, h.twin.auth⟩, h.locator, h.calls, ?_⟩
  intro call' nodeId' request' hmem
  rcases List.mem_append.1 hmem with hold | hlast
  · exact h.sent call' nodeId' request' hold
  · cases List.mem_singleton.1 hlast
    exact hr

theorem setPendingHandleAck (h : Confined Near st s) (msgId : JsString) (senderRef : ConnRef)
    (expiresAt : ℕ) : Confined Near st (s.setPendingHandleAck msgId senderRef expiresAt) :=
  ⟨⟨h.twin.deps, h.twin.now, h.twin.connections, h.twin.auth⟩, h.locator, h.calls, h.sent⟩

theorem finishSend (h : Confined Near st s) (send : SendCall) (delivered : List ConnRef) :
    Confined Near st (s.finishSend send delivered) := by
  unfold WebSocketRuntime.finishSend
  have hpend : Confined Near st (if send.ack = .none then s
      else s.setPendingHandleAck send.envelope.msgId send.senderRef
        (s.now + s.deps.pendingTtl)) := by
    split_ifs
    · exact h
    · exact h.setPendingHandleAck _ _ _
  have hroute := hpend.enqueueOutbound send.sender
    (.route send.peerIds delivered send.envelope.traceId)
  dsimp only
  split
  · rename_i s₁ error heq
    rw [heq] at hroute
    exact hroute.catchError _ _ _
  · rename_i s₁ heq
    rw [heq] at hroute
    split_ifs
    · exact hroute.enqueueOrCatch _ _ _ _
    · exact hroute

theorem acknowledgeLocally (h : Confined Near st s) (connId : JsString) (message : Envelope)
    (ack : AckMode) : Confined Near st (s.acknowledgeLocally connId message ack) := by
  unfold WebSocketRuntime.acknowledgeLocally
  by_cases ha : ack = .none
  · rw [if_pos ha]
    exact h
  rw [if_neg ha]
  have hsent := h.enqueueOutbound connId (.recvAck message.msgId message.traceId)
  split
  · rename_i s₁ error heq
    rw [heq] at hsent
    exact hsent.catchError _ _ _
  · rename_i s₁ heq
    rw [heq] at hsent
    split_ifs
    · exact hsent.enqueueOrCatch _ _ _ _
    · exact hsent

end Confined

theorem allNear_set {remote : JsMap JsString (List ConnRef)}
    (hr : AllNear Near (remote.entries.flatMap Prod.snd)) {nodeId : JsString}
    {conns : List ConnRef} (hc : AllNear Near conns) :
    AllNear Near ((remote.set nodeId conns).entries.flatMap Prod.snd) := by
  intro conn hmem
  obtain ⟨⟨nodeId', conns'⟩, hentry, hconn⟩ := List.mem_flatMap.1 hmem
  rcases JsMap.mem_set.1 hentry with ⟨-, rfl⟩ | ⟨-, hold⟩
  · exact hc conn hconn
  · exact hr conn (List.mem_flatMap.2 ⟨_, hold, hconn⟩)

section operations

variable (hg : st.Grouped Near)

include hg

theorem findNext_confined (h : Confined Near st s) (hs : (st.authOf send.sender).isSome = true)
    {groupId : Option JsString} (hgroup : groupId = st.deps.hostGroupId)
    {located : List (JsString × List ConnRef)} (hl : AllNear Near (located.flatMap Prod.snd))
    (rest : List JsString) : Confined Near st (s.findNext id send groupId located rest) := by
  cases rest with
  | nil => exact h.await ⟨hs, hl⟩
  | cons peerId rest =>
    refine h.await ⟨hs, hgroup, ?_⟩
    rw [List.flatMap_append, allNear_append, h.locator]
    exact ⟨hl, by simpa using hg.allNear_find peerId groupId⟩

/-- A message asks for the group of its node. -/
theorem startAttempt_confined (h : Confined Near st s)
    (hs : (st.authOf send.sender).isSome = true) :
    Confined Near st (s.startAttempt id send) := by
  obtain ⟨auth, hauth⟩ := Option.isSome_iff_exists.1 hs
  refine findNext_confined hg h hs ?_ (by simp [AllNear]) _
  rw [h.twin.auth, hauth]
  exact hg.auth _ _ hauth

theorem attemptDone_confined (h : Confined Near st s)
    (hs : (st.authOf send.sender).isSome = true) (delivered : List ConnRef) :
    Confined Near st (s.attemptDone id send delivered) := by
  unfold attemptDone
  split_ifs
  · exact h.catchError _ _ _
  · exact startAttempt_confined hg h hs
  · exact h.finishSend send delivered

theorem relayNext_confined (h : Confined Near st s) (hs : (st.authOf send.sender).isSome = true)
    (delivered : List ConnRef) (nodes : List (JsString × List ConnRef))
    (hn : AllNear Near (nodes.flatMap Prod.snd)) :
    Confined Near st (s.relayNext id send delivered nodes) := by
  induction nodes with
  | nil => exact attemptDone_confined hg h hs delivered
  | cons node nodes ih =>
    rw [List.flatMap_cons, allNear_append] at hn
    rw [relayNext]
    have hw : st.Within Near (.relaying send delivered nodes) := ⟨hs, hn.2⟩
    split_ifs
    · exact (h.await hw).emit hn.1
    · exact ih hn.2

theorem serveTargets_confined (h : Confined Near st s)
    (hs : (st.authOf send.sender).isSome = true) (delivered targets : List ConnRef)
    (ht : AllNear Near targets) (remote : JsMap JsString (List ConnRef))
    (hr : AllNear Near (remote.entries.flatMap Prod.snd)) :
    Confined Near st (s.serveTargets id send delivered remote targets) := by
  induction targets generalizing remote with
  | nil => exact relayNext_confined hg h hs delivered _ hr
  | cons target targets ih =>
    obtain ⟨hnear, ht⟩ := List.forall_mem_cons.1 ht
    rw [serveTargets]
    split_ifs
    · refine ih ht _ (allNear_set hr ?_)
      refine allNear_append.2 ⟨?_, by simpa [AllNear] using hnear⟩
      cases hget : remote.get target.nodeId with
      | none => simp [AllNear]
      | some conns =>
        exact fun conn hconn => hr conn
          (List.mem_flatMap.2 ⟨_, JsMap.get_eq_some_iff.1 hget, hconn⟩)
    · exact h.await ⟨hs, hr, ht⟩
    · exact ih ht remote hr

end operations

/-- The targets of a plan were found here or elsewhere. -/
theorem allNear_planned {located remote : List (JsString × List ConnRef)}
    (hl : AllNear Near (located.flatMap Prod.snd)) (hr : AllNear Near (remote.flatMap Prod.snd)) :
    AllNear Near (planned located remote) := by
  intro conn hmem
  obtain ⟨_, hfound, hconn⟩ := List.mem_flatMap.1 hmem
  obtain ⟨found, hlocated, rfl⟩ := List.mem_map.1 hfound
  have hhere {conn : ConnRef} (hconn : conn ∈ found.2) : Near conn.nodeId :=
    hl conn (List.mem_flatMap.2 ⟨found, hlocated, hconn⟩)
  split at hconn
  · exact hhere hconn
  · next conns hlook =>
    rcases mem_of_mem_mergeConnRefs hconn with hleft | hright
    · exact hhere hleft
    · obtain ⟨before, after, rfl, -⟩ := List.lookup_eq_some_iff.1 hlook
      exact hr conn (List.mem_flatMap.2 ⟨(found.1, conns), by simp, hright⟩)

/-- The answers of other nodes bring connections of the group. -/
def NearAnswer (Near : JsString → Prop) (e : Event) : Prop :=
  ∀ id remote, e = .resume id (.located remote) → AllNear Near (remote.flatMap Prod.snd)

/-- The taking of the answer. -/
theorem taken_confined (st : WebSocketRuntime) (id : ℕ) : Confined Near st.cleared
    ({ st.cleared with calls := st.calls.delete id } : WebSocketRuntime) :=
  ⟨⟨rfl, rfl, rfl, rfl⟩, rfl, fun _ _ hget => .inl (JsMap.get_of_get_delete hget).2,
    fun _ _ _ hmem => by cases hmem⟩

/-- The call sends a message on, or is about to. -/
def Spreads : Call → Prop
  | .hooking .. => True
  | .finding .. => True
  | .locating .. => True
  | .checking .. => True
  | .relaying .. => True
  | _ => False

/-- A call that sends a message on stays within the group. -/
theorem answer_confined (hg : st.Grouped Near) (h : Confined Near st s) {call : Call}
    (hk : Spreads call) (hw : st.Within Near call) {answer : Answer}
    (hn : NearAnswer Near (.resume id answer)) : Confined Near st (s.answer id call answer) := by
  unfold WebSocketRuntime.answer
  split
  · exact hk.elim
  · exact hk.elim
  · rename_i connId message auth result
    split
    · rename_i result
      unfold afterHooks
      split_ifs
      · exact h.acknowledgeLocally _ _ _
      · exact h.catchError _ _ _
      · exact startAttempt_confined hg h hw
    · exact h.catchError _ _ _
  · obtain ⟨hs, hgroup, hl⟩ := hw
    exact findNext_confined hg h hs hgroup hl _
  · obtain ⟨hs, hl⟩ := hw
    exact serveTargets_confined hg h hs _ _ (allNear_planned hl (hn _ _ rfl)) _ (by
      intro conn hmem
      cases hmem)
  · rename_i send delivered remote target rest ok
    obtain ⟨hs, hr, ht⟩ := hw
    unfold serveTarget
    split_ifs
    · have hsent := h.enqueueOutbound target.connId
        (.envelope { send.envelope with src := s.sourceOf send })
      split
      · rename_i s₁ heq
        rw [heq] at hsent
        exact serveTargets_confined hg hsent hs _ _ ht _ hr
      · rename_i s₁ error heq
        rw [heq] at hsent
        exact serveTargets_confined hg hsent hs _ _ ht _ hr
    · exact serveTargets_confined hg h hs _ _ ht _ hr
  · obtain ⟨hs, hr⟩ := hw
    split
    · exact relayNext_confined hg h hs _ _ hr
    · exact relayNext_confined hg h hs _ _ hr
  · exact hk.elim
  · exact hk.elim
  · exact hk.elim
  · exact hk.elim
  · exact h.await hw

/-- The answer of a call that sends a message on. -/
theorem step_confined (hg : st.Grouped Near) {call : Call} (hc : st.calls.get id = some call)
    (hk : Spreads call) {answer : Answer} (hn : NearAnswer Near (.resume id answer)) :
    Confined Near st.cleared (st.step (.resume id answer)) := by
  have hcleared : st.cleared.Grouped Near :=
    ⟨hg.near, hg.auth, hg.registered, ⟨hg.kept.locator, hg.kept.opened⟩, hg.calls⟩
  rw [step_resume hc]
  exact answer_confined hcleared (taken_confined st id) hk (hg.calls id call hc) hn

/-! ### Every event -/

/-- What a call holds is still of the group after an event. -/
theorem within_step {call : Call} (h : st.Within Near call) (e : Event) :
    (st.step e).Within Near call := by
  have hauth {connId : JsString} (ha : (st.authOf connId).isSome = true) :
      ((st.step e).authOf connId).isSome = true := authOf_isSome_step ha e
  cases call with
  | validating => exact hauth h
  | hooking => exact hauth h
  | finding => exact ⟨hauth h.1, h.2.1.trans (by rw [deps_step]), h.2.2⟩
  | locating => exact ⟨hauth h.1, h.2⟩
  | checking => exact ⟨hauth h.1, h.2⟩
  | relaying => exact ⟨hauth h.1, h.2⟩
  | _ => trivial

/-- An event that takes an attempt on is the answer of a call that sends a message on. -/
theorem Advances.spreads {delivered targets : List ConnRef}
    (h : st.Advances e id send delivered targets) :
    ∃ call answer, st.calls.get id = some call ∧ Spreads call ∧ e = .resume id answer := by
  cases h with
  | located hc => exact ⟨_, _, hc, trivial, rfl⟩
  | skipped hc => exact ⟨_, _, hc, trivial, rfl⟩
  | served hc => exact ⟨_, _, hc, trivial, rfl⟩
  | relayed hc => exact ⟨_, _, hc, trivial, rfl⟩
  | relayFailed hc => exact ⟨_, _, hc, trivial, rfl⟩

/-- **Every event keeps the connections of a node and what its calls send to in the group, and so do
its requests to other nodes.** -/
theorem grouped_step (hg : st.Grouped Near) (hn : NearAnswer Near e) :
    (st.step e).Grouped Near ∧ ∀ call nodeId request,
      .deliver call nodeId request ∈ (st.step e).effects → AllNear Near request.targets := by
  have hstep := step_handles st e
  have hdeps := deps_step st e
  -- What the answer of a call that sends a message on leaves.
  have hspread {id : ℕ} {call : Call} {answer : Answer} (hc : st.calls.get id = some call)
      (hk : Spreads call) (he : e = .resume id answer) : Confined Near st.cleared (st.step e) := by
    subst he
    exact step_confined hg hc hk hn
  have hnew {id' : ℕ} {call' : Call} (h : Confined Near st.cleared (st.step e))
      (hget : (st.step e).calls.get id' = some call') : (st.step e).Within Near call' :=
    (h.calls id' call' hget).elim (fun hold => within_step (hg.calls id' call' hold) e)
      fun hw => within_step hw e
  refine ⟨⟨hdeps.symm ▸ hg.near, fun connId auth hauth => ?_, fun conn hc => ?_,
    kept_step hg.kept e, fun id' call' hget => ?_⟩, fun call nodeId request hmem => ?_⟩
  · rw [hdeps]
    rcases hstep.auth connId with hsame | ⟨auth', hsome, ⟨-, -⟩⟩
    · exact hg.auth connId auth (hsame ▸ hauth)
    · cases hsome.symm.trans hauth
      rfl
  · rw [hdeps]
    rcases holds_step hg.kept hc with hold | ⟨connId, peerId, rfl⟩
    · exact hg.registered conn hold
    · exact ⟨rfl, rfl⟩
  · rcases hstep.calls id' call' hget with hold | hstart
    · exact within_step (hg.calls id' call' hold) e
    · cases hstart with
      | validating hc hk hs ha => exact authOf_isSome_step (ha ▸ rfl) _
      | hooking hc => exact authOf_isSome_step (hg.calls _ _ hc) _
      | searching hc hs => exact hnew (hspread hc trivial rfl) hget
      | found hc hs =>
        refine hnew (hspread hc ?_ rfl) hget
        rename_i call _
        cases call <;> trivial
      | continuing ha =>
        obtain ⟨call, answer, hc, hk, he⟩ := ha.spreads
        exact hnew (hspread hc hk he) hget
      | _ => trivial
  · rcases hstep.effects _ hmem with hplain | hemitted
    · exact hplain.elim
    · cases hemitted with
      | deliver ha =>
        obtain ⟨call, answer, hc, hk, he⟩ := ha.spreads
        exact (hspread hc hk he).sent _ _ _ hmem

/-! ### Relayed requests -/

/-- The relayed requests that a node serves were sent to it, and it serves them to targets of its
own that they name. -/
def Relays (Sent : DeliverRequest → Prop) (st : WebSocketRuntime) : Prop :=
  ∀ id request startedAt delivered target rest,
    st.calls.get id = some (.delivering request startedAt delivered target rest) →
    Sent request ∧ target.nodeId = st.deps.nodeId ∧ target :: rest ⊆ request.targets

theorem relays_step {Sent : DeliverRequest → Prop} (h : st.Relays Sent)
    (hs : ∀ request, e = .deliverCluster request → Sent request) : (st.step e).Relays Sent := by
  intro id request startedAt delivered target rest hget
  rw [deps_step]
  rcases (step_handles st e).calls _ _ hget with hold | hnew
  · exact h _ _ _ _ _ _ hold
  · cases hnew with
    | found _ _ hsearches => exact hsearches.elim
    | searching _ hsearches => exact hsearches.elim
    | continuing _ hc =>
      cases hc with
      | searching _ _ hsearches => exact hsearches.elim
    | delivering hserves hsuffix hn _ =>
      cases hserves with
      | started => exact ⟨hs _ rfl, hn, hsuffix.subset⟩
      | skipped hc =>
        obtain ⟨hsent, -, hsub⟩ := h _ _ _ _ _ _ hc
        exact ⟨hsent, hn, fun c hmem => hsub (List.mem_cons_of_mem _ (hsuffix.subset hmem))⟩
      | served hc =>
        obtain ⟨hsent, -, hsub⟩ := h _ _ _ _ _ _ hc
        exact ⟨hsent, hn, fun c hmem => hsub (List.mem_cons_of_mem _ (hsuffix.subset hmem))⟩

theorem relays_create (Sent : DeliverRequest → Prop) (deps : WebSocketRuntimeDeps) :
    (create deps).Relays Sent := fun _ _ _ _ _ _ hget => by cases hget

end WebSocketRuntime

end Hardess
