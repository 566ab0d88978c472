import Hardess.Ingress.Registrations

/-!
# Acknowledgements during a fan-out

A recipient can acknowledge a message as soon as it has its envelope.

* `deliverCluster` writes the pending entry before the envelope goes out, `sendToPeerIds` writes it
  when the whole fan-out is over: `Owed` says that one of the two is still to come or there;
* `Leaves`: from the envelope to its acknowledgement nobody acknowledges the message, no entry of it
  expires or is evicted, and the sender stays connected;
* `Timely`: a connection does not acknowledge a message that is still fanned out;
* `Forwards`: the queue of the sender gets the acknowledgement as soon as the sender is found valid,
  on this node or on its own;
* **`acks_forwarded`**: in a run whose events are timely for a message and a connection, the first
  acknowledgement of the message is forwarded when it comes from that connection.
-/

namespace Hardess

/-- The message that a frame of a connection acknowledges. -/
def WebSocketRuntime.Event.acks : WebSocketRuntime.Event → Option JsString
  | .message _ (some envelope) =>
    if envelope.kind = .system ∧ envelope.action = js "handleAck" then
      sysHandleAckPayloadSchema envelope.payload
    else none
  | _ => none

/-- The message that an event acknowledges, here or for another node. -/
def WebSocketRuntime.Event.settles : WebSocketRuntime.Event → Option JsString
  | .forwardClusterHandleAck request => some request.ackFor
  | e => e.acks

/-- The connection that a frame comes from. -/
def WebSocketRuntime.Event.speaker : WebSocketRuntime.Event → Option JsString
  | .message connId _ => some connId
  | _ => none

/-- The message that a call hands over and its sender, if it is to be acknowledged. -/
def Call.awaits : Call → Option (JsString × ConnRef)
  | .checking send .. =>
    if send.ack = .none then none else some (send.envelope.msgId, send.senderRef)
  | .relaying send .. =>
    if send.ack = .none then none else some (send.envelope.msgId, send.senderRef)
  | .delivering request .. =>
    if request.ack = .none then none else some (request.envelope.msgId, request.sender)
  | _ => none

/-- The call fans the message out, and has reached somebody. -/
def Call.FansOut (send : SendCall) : Call → Prop
  | .checking send' delivered .. => send' = send ∧ delivered ≠ []
  | .relaying send' delivered _ => send' = send ∧ delivered ≠ []
  | _ => False

/-- The message that a call fans out, if it has reached somebody. -/
def Call.fansOut : Call → Option JsString
  | .checking send delivered .. => if delivered = [] then none else some send.envelope.msgId
  | .relaying send delivered _ => if delivered = [] then none else some send.envelope.msgId
  | _ => none

/-- The message of the relayed request that a call serves. -/
def Call.servesRelay : Call → Option JsString
  | .delivering request .. => some request.envelope.msgId
  | _ => none

namespace WebSocketRuntime

variable {st s : WebSocketRuntime} {e : Event} {id : ℕ} {send : SendCall} {connId msgId : JsString}
  {ref : ConnRef} {T : ℕ}

/-! ### The fan-out -/

/-- The node fans the message out, and has reached somebody. -/
def Fanning (st : WebSocketRuntime) (id : ℕ) (send : SendCall) : Prop :=
  ∃ call, st.calls.get id = some call ∧ call.FansOut send

/-- The fan-out goes on, or the acknowledgement is pending. -/
def Awaits (st : WebSocketRuntime) (id : ℕ) (send : SendCall) (now : ℕ) : Prop :=
  st.Fanning id send ∨ st.pendingHandleAckByMsgId.get send.envelope.msgId =
    some ⟨send.senderRef, now + st.deps.pendingTtl⟩

theorem finishSend_awaits (hack : send.ack ≠ .none) (id : ℕ) (delivered : List ConnRef) :
    (st.finishSend send delivered).Awaits id send st.now := by
  unfold finishSend
  rw [if_neg hack]
  generalize hs : st.setPendingHandleAck send.envelope.msgId send.senderRef
    (st.now + st.deps.pendingTtl) = s
  have hset : s.Awaits id send st.now := by
    rw [← hs]
    exact .inr ((JsMap.get_set ..).trans (if_pos rfl))
  -- The reports to the sender leave the entry there.
  have hkeeps {s s' : WebSocketRuntime} {P : Effect → Prop} (h : s.Awaits id send st.now)
      (k : Keeps P s s') : s'.Awaits id send st.now := by
    unfold Awaits Fanning at h ⊢
    rwa [k.calls, k.pending, k.deps]
  have hroute := hkeeps hset (enqueueOutbound_keeps send.sender
    (.route send.peerIds delivered send.envelope.traceId))
  dsimp only
  split
  · rename_i s₁ error heq
    rw [heq] at hroute
    exact hkeeps hroute (catchError_keeps ..)
  · rename_i s₁ heq
    rw [heq] at hroute
    split_ifs
    · exact hkeeps hroute (enqueueOrCatch_keeps ..)
    · exact hroute

theorem await_awaits {call : Call} (hc : call.FansOut send) (now : ℕ) :
    (st.await id call).Awaits id send now :=
  .inl ⟨call, (JsMap.get_set ..).trans (if_pos rfl), hc⟩

theorem relayNext_awaits (hack : send.ack ≠ .none) {delivered : List ConnRef}
    (hd : delivered ≠ []) (nodes : List (JsString × List ConnRef)) :
    (st.relayNext id send delivered nodes).Awaits id send st.now := by
  rcases @relayNext_cases st id send delivered nodes with ⟨nodeId, targets, rest, heq⟩ | heq
  · have hfans : (Call.relaying send delivered rest).FansOut send := ⟨rfl, hd⟩
    rw [heq]
    exact await_awaits hfans st.now
  · rw [heq, attemptDone, if_neg hd]
    exact finishSend_awaits hack id delivered

theorem serveTargets_awaits (hack : send.ack ≠ .none) {delivered : List ConnRef}
    (hd : delivered ≠ []) (remote : JsMap JsString (List ConnRef)) (targets : List ConnRef) :
    (st.serveTargets id send delivered remote targets).Awaits id send st.now := by
  rcases @serveTargets_cases st id send delivered remote targets with
    ⟨remote', target, rest, -, -, -, heq⟩ | ⟨nodes, heq⟩ <;> rw [heq]
  · have hfans : (Call.checking send delivered remote' target rest).FansOut send := ⟨rfl, hd⟩
    exact await_awaits hfans st.now
  · exact relayNext_awaits hack hd nodes

/-- A target that is served leaves the fan-out going on, or the acknowledgement pending. -/
theorem serveTarget_awaits (hack : send.ack ≠ .none) {delivered : List ConnRef}
    {target : ConnRef} {ok : Bool} (remote : JsMap JsString (List ConnRef)) (rest : List ConnRef)
    (hd : delivered ≠ [] ∨
      ok = true ∧ st.enqueueError target.connId (st.localEnvelope send) = none) :
    (st.serveTarget id send delivered remote target rest ok).Awaits id send st.now := by
  unfold serveTarget
  split_ifs with hok
  · have hkeeps := @enqueueOutbound_keeps st target.connId (st.localEnvelope send)
    have herror := @enqueueOutbound_error st target.connId (st.localEnvelope send)
    unfold localEnvelope at hkeeps herror
    split
    · rename_i s₁ heq
      rw [heq] at hkeeps
      rw [← show s₁.now = st.now from hkeeps.now]
      exact serveTargets_awaits hack (by simp) remote rest
    · rename_i s₁ error heq
      rw [heq] at hkeeps herror
      rw [← show s₁.now = st.now from hkeeps.now]
      refine serveTargets_awaits hack (hd.resolve_right ?_) remote rest
      rintro ⟨-, hnone⟩
      unfold localEnvelope at hnone
      exact absurd (herror.trans hnone) (by simp)
  · exact serveTargets_awaits hack (hd.resolve_right fun h => hok h.1) remote rest

/-- A fan-out goes on until the acknowledgement is pending. -/
theorem Fanning.step (h : st.Fanning id send) (hn : st.Numbered) (hack : send.ack ≠ .none)
    (e : Event) : (st.step e).Awaits id send st.now := by
  obtain ⟨call, hcall, hfans⟩ := h
  by_cases he : ∃ answer, e = .resume id answer
  · obtain ⟨answer, rfl⟩ := he
    rw [step_resume hcall]
    have hagain := @await_awaits { st.cleared with calls := st.calls.delete id } id send call hfans
      st.now
    cases call with
    | checking send' delivered remote target rest =>
      obtain ⟨rfl, hd⟩ := hfans
      cases answer with
      | valid ok =>
        exact @serveTarget_awaits { st.cleared with calls := st.calls.delete id } id _ hack _ _ _
          remote rest (.inl hd)
      | _ => exact hagain
    | relaying send' delivered rest =>
      obtain ⟨rfl, hd⟩ := hfans
      cases answer with
      | relayed result =>
        cases result with
        | ok conns =>
          exact @relayNext_awaits { st.cleared with calls := st.calls.delete id } id _ hack _
            (by simp [hd]) rest
        | error text =>
          exact @relayNext_awaits { st.cleared with calls := st.calls.delete id } id _ hack _ hd
            rest
      | _ => exact hagain
    | _ => exact hfans.elim
  · have hkept := (step_handles st e).kept id (hn id call hcall) (not_exists.1 he)
    exact .inl ⟨call, hkept.trans hcall, hfans⟩

/-! ### What is owed -/

/-- The queue of a connection takes the envelope of a message, and the sender awaits that the
message is acknowledged. -/
inductive Hands (st : WebSocketRuntime) :
    Event → JsString → OutboundMessage → JsString → ConnRef → Prop
  | here {id : ℕ} {send : SendCall} {delivered rest : List ConnRef}
      {remote : JsMap JsString (List ConnRef)} {target : ConnRef}
      (h : st.calls.get id = some (.checking send delivered remote target rest))
      (ha : send.ack ≠ .none)
      (he : st.enqueueError target.connId (st.localEnvelope send) = none) :
      Hands st (.resume id (.valid true)) target.connId (st.localEnvelope send)
        send.envelope.msgId send.senderRef
  | relayed {id startedAt : ℕ} {request : DeliverRequest} {delivered rest : List ConnRef}
      {target : ConnRef}
      (h : st.calls.get id = some (.delivering request startedAt delivered target rest))
      (ha : request.ack ≠ .none)
      (he : st.enqueueError target.connId (.envelope request.envelope) = none) :
      Hands st (.resume id (.valid true)) target.connId (.envelope request.envelope)
        request.envelope.msgId request.sender

/-- The acknowledgement of a message stays open in an event: nobody acknowledges the message, the
cap of the pending entries is not reached, an entry of the message has not expired at the time `T`,
and the sender is still connected. -/
structure Leaves (msgId : JsString) (ref : ConnRef) (T : ℕ) (st : WebSocketRuntime) (e : Event) :
    Prop where
  first : e.settles ≠ some msgId
  room : st.pendingHandleAckByMsgId.size < st.deps.pendingCap
  fresh : ∀ entry ∈ (st.step e).pendingHandleAckByMsgId.get msgId, T < entry.expiresAt
  sender : ref.nodeId = st.deps.nodeId → ref.connId ∈ (st.step e).connections

/-- The message is fanned out here, or its acknowledgement is pending. -/
def Owed (st : WebSocketRuntime) (msgId : JsString) (ref : ConnRef) (T : ℕ) : Prop :=
  (∃ id send, st.Fanning id send ∧ send.ack ≠ .none ∧ send.envelope.msgId = msgId ∧
    send.senderRef = ref) ∨
  ∃ entry, st.pendingHandleAckByMsgId.get msgId = some entry ∧ entry.senderRef = ref ∧
    T < entry.expiresAt

/-- The messages that the calls hand over or whose acknowledgements are pending, with their
senders. -/
def waiting (st : WebSocketRuntime) : List (JsString × ConnRef) :=
  st.calls.entries.filterMap (fun c => c.2.awaits) ++
    st.pendingHandleAckByMsgId.entries.map fun p => (p.1, p.2.senderRef)

/-- A connection is within its rate. -/
def Heard (st : WebSocketRuntime) (connId : JsString) : Prop :=
  ∀ connection ∈ st.objects.get connId,
    (st.recentMessages connection).length < st.deps.rateLimitMaxMessages

/-- The event is the acknowledgement of a message by a connection. -/
def Event.AckOf (msgId connId : JsString) (e : Event) : Prop :=
  e.acks = some msgId ∧ e.speaker = some connId

/-- No two senders use the id of the message at a time, the connection acknowledges the message when
its fan-out is over and within the rate, and a node that serves a relayed request for the message
has the network. -/
structure Timely (msgId connId : JsString) (st : WebSocketRuntime) (e : Event) : Prop where
  apart : ∀ x ∈ st.waiting, ∀ y ∈ st.waiting, x.1 = msgId → y.1 = msgId → x.2 = y.2
  done : e.AckOf msgId connId → ∀ c ∈ st.calls.entries, c.2.fansOut ≠ some msgId
  heard : e.AckOf msgId connId → st.Heard connId
  network : (∃ c ∈ st.calls.entries, c.2.servesRelay = some msgId) → st.deps.clusterNetwork = true

instance (msgId : JsString) (ref : ConnRef) (T : ℕ) (st : WebSocketRuntime) (e : Event) :
    Decidable (Leaves msgId ref T st e) :=
  decidable_of_iff (e.settles ≠ some msgId ∧
    st.pendingHandleAckByMsgId.size < st.deps.pendingCap ∧
    (∀ entry ∈ (st.step e).pendingHandleAckByMsgId.get msgId, T < entry.expiresAt) ∧
    (ref.nodeId = st.deps.nodeId → ref.connId ∈ (st.step e).connections))
    ⟨fun ⟨hfirst, hroom, hfresh, hsender⟩ => ⟨hfirst, hroom, hfresh, hsender⟩,
      fun h => ⟨h.first, h.room, h.fresh, h.sender⟩⟩

instance (st : WebSocketRuntime) (connId : JsString) : Decidable (st.Heard connId) :=
  inferInstanceAs (Decidable (∀ connection ∈ st.objects.get connId,
    (st.recentMessages connection).length < st.deps.rateLimitMaxMessages))

instance (msgId connId : JsString) (e : Event) : Decidable (e.AckOf msgId connId) :=
  inferInstanceAs (Decidable (_ ∧ _))

instance (msgId connId : JsString) (st : WebSocketRuntime) (e : Event) :
    Decidable (Timely msgId connId st e) :=
  decidable_of_iff
    ((∀ x ∈ st.waiting, ∀ y ∈ st.waiting, x.1 = msgId → y.1 = msgId → x.2 = y.2) ∧
    (e.AckOf msgId connId → ∀ c ∈ st.calls.entries, c.2.fansOut ≠ some msgId) ∧
    (e.AckOf msgId connId → st.Heard connId) ∧
    ((∃ c ∈ st.calls.entries, c.2.servesRelay = some msgId) → st.deps.clusterNetwork = true))
    ⟨fun ⟨hapart, hdone, hheard, hnetwork⟩ => ⟨hapart, hdone, hheard, hnetwork⟩,
      fun h => ⟨h.apart, h.done, h.heard, h.network⟩⟩

theorem Awaits.owed {now : ℕ} (h : s.Awaits id send now) (hack : send.ack ≠ .none)
    (hfresh : ∀ entry, s.pendingHandleAckByMsgId.get send.envelope.msgId = some entry →
      T < entry.expiresAt) : s.Owed send.envelope.msgId send.senderRef T := by
  rcases h with hfans | hentry
  · exact .inl ⟨id, send, hfans, hack, rfl, rfl⟩
  · exact .inr ⟨_, hentry, rfl, hfresh _ hentry⟩

/-- A target of a relayed request leaves its entry. -/
theorem pending_deliverTarget {request : DeliverRequest} (hack : request.ack ≠ .none)
    (id startedAt : ℕ) (delivered : List ConnRef) (target : ConnRef) (rest : List ConnRef) :
    (st.deliverTarget id request startedAt delivered target rest
      true).pendingHandleAckByMsgId.get request.envelope.msgId =
        some ⟨request.sender, startedAt + st.deps.pendingTtl⟩ := by
  unfold deliverTarget
  simp only [if_true, if_neg hack]
  generalize hs : st.setPendingHandleAck request.envelope.msgId request.sender
    (startedAt + st.deps.pendingTtl) = s
  have hset : s.pendingHandleAckByMsgId.get request.envelope.msgId =
      some ⟨request.sender, startedAt + st.deps.pendingTtl⟩ := by
    rw [← hs]
    exact (JsMap.get_set ..).trans (if_pos rfl)
  have hkeeps := @enqueueOutbound_keeps s target.connId (.envelope request.envelope)
  -- The rest of the loop writes no entry before its next target.
  have hnext (s : WebSocketRuntime) (delivered : List ConnRef) :
      (s.deliverNext id request startedAt delivered rest).pendingHandleAckByMsgId =
        s.pendingHandleAckByMsgId := by
    rcases @deliverNext_cases s id request startedAt delivered rest with
      ⟨target, rest, -, -, -, heq⟩ | heq <;> rw [heq]
    · rfl
    · rw [deliverNext]
      split_ifs <;> rfl
  split
  · rename_i s₁ heq
    rw [heq] at hkeeps
    rw [hnext, show s₁.pendingHandleAckByMsgId = _ from hkeeps.pending]
    exact hset
  · rename_i s₁ error heq
    rw [heq] at hkeeps
    show s₁.pendingHandleAckByMsgId.get request.envelope.msgId = _
    rw [show s₁.pendingHandleAckByMsgId = _ from hkeeps.pending]
    exact hset

/-- Whoever gets an envelope is owed the acknowledgement. -/
theorem Hands.owed {outbound : OutboundMessage} (h : st.Hands e connId outbound msgId ref)
    (hl : st.Leaves msgId ref T e) : (st.step e).Owed msgId ref T := by
  cases h with
  | @here id send delivered rest remote target hcall hack he =>
    have hfresh := hl.fresh
    rw [step_resume hcall] at hfresh ⊢
    exact (@serveTarget_awaits { st.cleared with calls := st.calls.delete id } id send hack _ _ _
      remote rest (.inr ⟨rfl, he⟩)).owed hack hfresh
  | @relayed id startedAt request delivered rest target hcall hack he =>
    have hfresh := hl.fresh
    rw [step_resume hcall] at hfresh ⊢
    have hentry := @pending_deliverTarget { st.cleared with calls := st.calls.delete id } request
      hack id startedAt delivered target rest
    exact .inr ⟨_, hentry, rfl, hfresh _ hentry⟩

/-- A message that is handed over for an acknowledgement is one that is waiting. -/
theorem mem_waiting_of_call {call : Call} (hc : st.calls.get id = some call)
    (ha : call.awaits = some (msgId, ref)) : (msgId, ref) ∈ st.waiting :=
  List.mem_append_left _ (List.mem_filterMap.2 ⟨_, JsMap.get_eq_some_iff.1 hc, ha⟩)

theorem mem_waiting_of_pending {entry : PendingHandleAckEntry}
    (h : st.pendingHandleAckByMsgId.get msgId = some entry) :
    (msgId, entry.senderRef) ∈ st.waiting :=
  List.mem_append_right _ (List.mem_map.2 ⟨_, JsMap.get_eq_some_iff.1 h, rfl⟩)

/-- Only a message that is waiting gets an entry. -/
theorem Pends.waiting {entry : PendingHandleAckEntry} (h : st.Pends e msgId entry) :
    (msgId, entry.senderRef) ∈ st.waiting := by
  cases h with
  | sent ha hd hack =>
    cases ha with
    | located => exact absurd rfl hd
    | skipped hc => exact mem_waiting_of_call hc (if_neg hack)
    | served hc => exact mem_waiting_of_call hc (if_neg hack)
    | relayed hc => exact mem_waiting_of_call hc (if_neg hack)
    | relayFailed hc => exact mem_waiting_of_call hc (if_neg hack)
  | delivering hc hack => exact mem_waiting_of_call hc (if_neg hack)

/-- **What is owed stays owed.** -/
theorem Owed.step (h : st.Owed msgId ref T) (hn : st.Numbered) (ht : Timely msgId connId st e)
    (hl : st.Leaves msgId ref T e) (hT : st.now ≤ T) (hc : connId ∈ (st.step e).connections) :
    (st.step e).Owed msgId ref T := by
  rcases h with ⟨id, send, hfans, hack, rfl, rfl⟩ | ⟨entry, hget, rfl, hfresh⟩
  · exact (hfans.step hn hack e).owed hack hl.fresh
  · have hstays (h : (st.step e).pendingHandleAckByMsgId.get msgId = some entry) :
        (st.step e).Owed msgId entry.senderRef T := .inr ⟨entry, h, rfl, hfresh⟩
    rcases (step_handles st e).pending.lower msgId entry hget with hdrop | ⟨entry', hget', hnew⟩
    · -- an entry that goes is acknowledged, expired, evicted, or its hub is gone
      cases hdrop with
      | acknowledged _ _ hk hm hp =>
        exact absurd ((if_pos ⟨hk, hm⟩).trans hp) hl.first
      | forwarded => exact absurd rfl hl.first
      | @closed connId' _ _ hnode heq =>
        have hsender := hl.sender hnode
        have w := @wired_closeSocket st.cleared connId'
        rw [show (st.step (.closeSocket connId')).connections = _ from w.connections,
          heq] at hsender
        exact absurd rfl (of_decide_eq_true (List.mem_filter.1 hsender).2)
      | disposed =>
        by_cases hd : st.disposed = true
        · refine hstays ?_
          rw [step_dispose_of_disposed hd]
          exact hget
        · have w := @wired_dispose st.cleared ((Bool.not_eq_true _).mp hd)
          rw [show (st.step .dispose).connections = [] from w.connections] at hc
          cases hc
      | expired hexp => exact absurd (hexp.trans hT) (Nat.not_le.2 hfresh)
      | evicted _ hcap => exact absurd hl.room (Nat.not_lt.2 hcap)
    · -- an entry under the same id must be for the same sender
      rcases hnew with rfl | hpends
      · exact hstays hget'
      · refine .inr ⟨entry', hget', ?_, hl.fresh _ hget'⟩
        have hwaits : (msgId, entry'.senderRef) ∈ st.cleared.waiting := Pends.waiting hpends
        exact ht.apart _ hwaits _ (mem_waiting_of_pending hget) rfl rfl

/-! ### The acknowledgement -/

/-- Once the call is told that its sender is valid, the open queue of the sender gets the message,
if the queue takes it; whatever else comes in between. -/
def EnqueuesOnceValid (st : WebSocketRuntime) (id : ℕ) (sender : JsString)
    (outbound : OutboundMessage) : Prop :=
  ∀ es : List Event, (∀ answer, .resume id answer ∉ es) →
    (Machine.run WebSocketRuntime.step st es).isClosed sender = false →
    (Machine.run WebSocketRuntime.step st es).enqueueError sender outbound = none →
    .enqueued sender outbound ∈
      ((Machine.run WebSocketRuntime.step st es).step (.resume id (.valid true))).effects

/-- A node that gets the acknowledgement for an authenticated connection of its own passes it on to
the connection. -/
def PassesOn (request : ForwardRequest) : Prop :=
  ∀ deps es, (Machine.run WebSocketRuntime.step (create deps) es).Online request.sender.connId →
    ((Machine.run WebSocketRuntime.step (create deps) es).step
      (.forwardClusterHandleAck request)).EnqueuesOnceValid
        (Machine.run WebSocketRuntime.step (create deps) es).nextCall request.sender.connId
        (.handleAck (js "cluster") request.ackFor request.traceId)

/-- The acknowledgement of a connection goes to the queue of the sender, or to the node of the
sender, which passes it on, and the connection is not told that there is no sender. -/
structure Forwards (st : WebSocketRuntime) (connId : JsString) (message : Envelope)
    (msgId : JsString) (ref : ConnRef) : Prop where
  here : ref.nodeId = st.deps.nodeId →
    (st.step (.message connId (some message))).EnqueuesOnceValid st.nextCall ref.connId
      (.handleAck connId msgId message.traceId)
  there : ref.nodeId ≠ st.deps.nodeId →
    .forward st.nextCall ⟨ref, msgId, message.traceId⟩ ∈
      (st.step (.message connId (some message))).effects ∧
    PassesOn ⟨ref, msgId, message.traceId⟩
  found : ∀ connId' error refMsgId traceId,
    .send connId' (.err error refMsgId traceId) ∈
      (st.step (.message connId (some message))).effects → error.code ≠ .ROUTE_NO_RECIPIENT

/-- A call awaits its answer through every other event. -/
theorem call_run {call : Call} {es : List Event} (h : st.calls.get id = some call)
    (hn : st.Numbered) (hes : ∀ answer, .resume id answer ∉ es) :
    (Machine.run WebSocketRuntime.step st es).calls.get id = some call := by
  induction es generalizing st with
  | nil => exact h
  | cons e es ih =>
    have hother : ∀ answer, e ≠ .resume id answer := fun answer heq =>
      hes answer (heq ▸ List.mem_cons_self)
    have hkept := (step_handles st e).kept id (hn id call h) hother
    exact ih (hkept.trans h) (numbered_step hn e) fun answer hmem =>
      hes answer (List.mem_cons_of_mem e hmem)

theorem authOf_isSome_run (h : (st.authOf connId).isSome = true) (es : List Event) :
    ((Machine.run WebSocketRuntime.step st es).authOf connId).isSome = true := by
  induction es generalizing st with
  | nil => exact h
  | cons e es ih => exact ih (authOf_isSome_step h e)

/-- Once the sender is found valid, an open queue that takes the acknowledgement gets it. -/
theorem enqueued_of_acking {message : Envelope} {sender : JsString}
    (h : st.calls.get id = some (.acking connId message msgId sender))
    (ha : (st.authOf sender).isSome = true) (hc : st.isClosed sender = false)
    (he : st.enqueueError sender (.handleAck connId msgId message.traceId) = none) :
    .enqueued sender (.handleAck connId msgId message.traceId) ∈
      (st.step (.resume id (.valid true))).effects := by
  rw [step_resume h]
  have hmem := @mem_enqueueOutbound { st.cleared with calls := st.calls.delete id } sender
    (.handleAck connId msgId message.traceId) (has_of_authOf ha) hc he
  show _ ∈ (enqueueOrCatch { st.cleared with calls := st.calls.delete id } connId message sender
    (.handleAck connId msgId message.traceId)).effects
  unfold enqueueOrCatch
  split
  · rename_i s heq
    rw [heq] at hmem
    exact hmem
  · rename_i s error heq
    rw [heq] at hmem
    exact (catchError_keeps connId message _).grows hmem

/-- The same on the node of the sender. -/
theorem enqueued_of_forwarded {request : ForwardRequest}
    (h : st.calls.get id = some (.forwarded request))
    (ha : (st.authOf request.sender.connId).isSome = true)
    (hc : st.isClosed request.sender.connId = false)
    (he : st.enqueueError request.sender.connId
      (.handleAck (js "cluster") request.ackFor request.traceId) = none) :
    .enqueued request.sender.connId (.handleAck (js "cluster") request.ackFor request.traceId) ∈
      (st.step (.resume id (.valid true))).effects := by
  rw [step_resume h]
  have hmem := @mem_enqueueOutbound { st.cleared with calls := st.calls.delete id }
    request.sender.connId (.handleAck (js "cluster") request.ackFor request.traceId)
    (has_of_authOf ha) hc he
  show _ ∈ (finishForward { st.cleared with calls := st.calls.delete id } id request true).effects
  rw [finishForward, if_pos rfl]
  split
  · rename_i s heq
    rw [heq] at hmem
    exact List.mem_append_left _ hmem
  · rename_i s error heq
    rw [heq] at hmem
    exact List.mem_append_left _ hmem

/-- Every node passes on what it gets for a connection of its own. -/
theorem passesOn (request : ForwardRequest) : PassesOn request := by
  intro deps es honline es' hes hclosed herror
  have hnumbered :=
    Machine.run_invariant (numbered_create deps) (fun _ e h => numbered_step h e) es
  generalize Machine.run WebSocketRuntime.step (create deps) es = st at *
  have hcall : (st.step (.forwardClusterHandleAck request)).calls.get st.nextCall =
      some (.forwarded request) := by
    show (forwardClusterHandleAck { st.cleared with nextCall := st.nextCall + 1 } st.nextCall
      request).calls.get st.nextCall = _
    unfold forwardClusterHandleAck
    have hauth : ((connection (deletePendingHandleAck { st.cleared with
        nextCall := st.nextCall + 1 } request.ackFor) request.sender.connId).bind
          (·.auth)).isSome = true := online_iff.2 honline
    dsimp only
    rw [if_pos hauth]
    exact (JsMap.get_set ..).trans (if_pos rfl)
  exact enqueued_of_forwarded (call_run hcall (numbered_step hnumbered _) hes)
    (authOf_isSome_run (authOf_isSome_step honline.2 _) es') hclosed herror

/-- An acknowledgement that meets its entry. -/
theorem message_handleAck (id : ℕ) {message : Envelope} {entry : PendingHandleAckEntry}
    (hc : st.Online connId) (hh : st.Heard connId)
    (ha : Event.acks (.message connId (some message)) = some msgId)
    (hget : st.pendingHandleAckByMsgId.get msgId = some entry) (hfresh : st.now < entry.expiresAt) :
    ∃ s, Twin st s ∧ s.effects = st.effects ∧ st.message id connId (some message) =
      s.forwardAck id connId message msgId entry.senderRef := by
  obtain ⟨hmem, hauth⟩ := hc
  obtain ⟨connection, hobj⟩ : ∃ connection, st.objects.get connId = some connection :=
    Option.isSome_iff_exists.1 (has_of_authOf hauth)
  have hconn : st.connection connId = some connection := (if_pos hmem).trans hobj
  obtain ⟨hkind, haction, hpayload⟩ : message.kind = .system ∧ message.action = js "handleAck" ∧
      sysHandleAckPayloadSchema message.payload = some msgId := by
    rw [Event.acks] at ha
    split_ifs at ha with hkind
    exact ⟨hkind.1, hkind.2, ha⟩
  -- The frame is counted; that changes nothing that the acknowledgement reads.
  generalize hs : (st.modify connId fun connection' => { connection' with
    lastSeenAt := st.now
    messageTimestamps := st.recentMessages connection ++ [st.now] }) = s
  have hk : Keeps (fun _ => False) st s := by
    rw [← hs]
    exact modify_keeps (fun _ => rfl) fun _ => rfl
  have htwin : Twin st s := hk.twin ⟨rfl, rfl, rfl, rfl⟩
  refine ⟨s.deletePendingHandleAck msgId,
    ⟨htwin.deps, htwin.now, htwin.connections, htwin.auth⟩, ?_, ?_⟩
  · rw [← hs]
    exact effects_modify
  have hentry : (s.pendingHandleAckByMsgId.get msgId).filter (fun e => s.now < e.expiresAt) =
      some entry := by
    rw [hk.pending, htwin.now, Option.filter_eq_some_iff]
    exact ⟨hget, decide_eq_true hfresh⟩
  unfold WebSocketRuntime.message
  rw [hconn]
  dsimp only
  rw [if_neg (Nat.not_le.2 (hh connection hobj)), hs, hkind]
  show s.handleSystemMessage id connId message = _
  unfold handleSystemMessage
  rw [haction, if_neg (by decide), if_neg (by decide), if_neg (by decide), if_pos rfl]
  unfold startHandleAck
  rw [if_neg (by rw [htwin.auth]; exact Option.isSome_iff_ne_none.1 hauth), hpayload]
  dsimp only
  rw [hentry]

/-- **An acknowledgement that meets a fresh entry is forwarded.** -/
theorem forwards_of_pending {message : Envelope} {entry : PendingHandleAckEntry}
    (hc : st.Online connId) (hh : st.Heard connId)
    (ha : Event.acks (.message connId (some message)) = some msgId)
    (hget : st.pendingHandleAckByMsgId.get msgId = some entry) (hfresh : st.now < entry.expiresAt)
    (hn : st.Numbered)
    (hown : entry.senderRef.nodeId = st.deps.nodeId → st.Online entry.senderRef.connId)
    (hother : entry.senderRef.nodeId ≠ st.deps.nodeId → st.deps.clusterNetwork = true) :
    st.Forwards connId message msgId entry.senderRef := by
  obtain ⟨s, ht, heffects, hstep⟩ := @message_handleAck
    { st.cleared with nextCall := st.nextCall + 1 } connId msgId st.nextCall message entry hc hh ha
    hget hfresh
  have hstep : st.step (.message connId (some message)) =
      s.forwardAck st.nextCall connId message msgId entry.senderRef := hstep
  have hdeps : s.deps = st.deps := ht.deps
  have hnothing : s.effects = [] := heffects
  by_cases hnode : entry.senderRef.nodeId = st.deps.nodeId
  · have honline : s.Online entry.senderRef.connId := (ht.online _).2 (hown hnode)
    rw [forwardAck, hdeps, if_neg (not_not.2 hnode), if_pos (online_iff.2 honline)] at hstep
    refine ⟨fun _ es hes hclosed herror => ?_, fun h => absurd hnode h, fun _ _ _ _ hmem => ?_⟩
    · -- the sender is here: the call waits for the check of its context, and then enqueues
      have hcall : (st.step (.message connId (some message))).calls.get st.nextCall =
          some (.acking connId message msgId entry.senderRef.connId) := by
        rw [hstep]
        exact (JsMap.get_set ..).trans (if_pos rfl)
      exact enqueued_of_acking (call_run hcall (numbered_step hn _) hes)
        (authOf_isSome_run (authOf_isSome_step (hown hnode).2 _) es) hclosed herror
    · rw [hstep, show (s.await _ _).effects = [] from hnothing] at hmem
      cases hmem
  · rw [forwardAck, hdeps, if_pos hnode, if_pos (hother hnode)] at hstep
    refine ⟨fun h => absurd h hnode, fun _ => ⟨?_, passesOn _⟩, fun _ _ _ _ hmem => ?_⟩
    · rw [hstep]
      exact List.mem_append_right _ (List.mem_singleton.2 rfl)
    · rw [hstep] at hmem
      rcases List.mem_append.1 hmem with hold | hnew
      · rw [show (s.await _ _).effects = [] from hnothing] at hold
        cases hold
      · cases List.mem_singleton.1 hnew

/-! ### Runs -/

/-- The first target of a call is authenticated. -/
def Ready (st : WebSocketRuntime) : Prop :=
  ∀ id call target rest, st.calls.get id = some call → call.targets = target :: rest →
    (st.authOf target.connId).isSome = true

theorem ready_step (h : st.Ready) (e : Event) : (st.step e).Ready := by
  intro id call target rest hget htargets
  suffices hauth : (st.authOf target.connId).isSome = true from authOf_isSome_step hauth e
  rcases (step_handles st e).calls id call hget with hold | hstart
  · exact h id call target rest hold htargets
  · cases hstart with
    | searching _ hs => rw [searches_targets hs] at htargets; cases htargets
    | found _ _ hs => rw [searches_targets hs] at htargets; cases htargets
    | continuing _ hc =>
      cases hc with
      | checking _ _ ho =>
        cases htargets
        exact ho.2
      | relaying => cases htargets
      | searching _ _ hs => rw [searches_targets hs] at htargets; cases htargets
    | delivering _ _ _ ho =>
      cases htargets
      exact ho.2
    | _ => cases htargets

/-- What a node fans out, connections of the node have sent. -/
def Sourced (st : WebSocketRuntime) : Prop :=
  ∀ id call send, st.calls.get id = some call → call.Sends send →
    send.senderRef.nodeId = st.deps.nodeId

theorem sourced_step (h : st.Sourced) (e : Event) : (st.step e).Sourced := by
  intro id call send hget hsends
  rw [deps_step]
  have hsearches {call : Call} {send send' : SendCall} (hs : call.Searches send')
      (hn : send'.senderRef.nodeId = st.deps.nodeId) (hsends : call.Sends send) :
      send.senderRef.nodeId = st.deps.nodeId := by
    rw [sends_unique hsends (searches_sends hs).1]
    exact hn
  rcases (step_handles st e).calls id call hget with hold | hstart
  · exact h id call send hold hsends
  · cases hstart with
    | searching _ hs => exact hsearches hs rfl hsends
    | found hcall hs hs' => exact hsearches hs' (h _ _ _ hcall (searches_sends hs).1) hsends
    | continuing ha hc =>
      obtain ⟨-, call', hcall, hsends'⟩ := ha.sends
      have hn := h _ _ _ hcall hsends'
      cases hc with
      | checking =>
        obtain rfl := hsends
        exact hn
      | relaying =>
        obtain rfl := hsends
        exact hn
      | searching _ _ hs => exact hsearches hs hn hsends
    | _ => exact hsends.elim

/-- A connection that is gone does not come back. -/
theorem mem_connections_of_step (ho : st.objects.has connId = true)
    (h : connId ∈ (st.step e).connections) : connId ∈ st.connections := by
  rcases (tables_step st e).2 with hsub | ⟨connId', rfl, heq, -⟩
  · exact hsub.subset h
  · rw [heq] at h
    rcases List.mem_append.1 h with hold | hnew
    · exact hold
    · rw [List.mem_singleton.1 hnew] at ho h
      rw [← heq, show st.step (.openSocket connId') = st.cleared from if_pos ho] at h
      rw [List.mem_singleton.1 hnew]
      exact h

theorem mem_connections_of_run (es : List Event) : ∀ st : WebSocketRuntime,
    st.objects.has connId = true → connId ∈ (Machine.run step st es).connections →
    connId ∈ st.connections := by
  induction es with
  | nil => exact fun _ _ h => h
  | cons e es ih =>
    exact fun st ho h => mem_connections_of_step ho (ih _ ((step_handles st e).opened _ ho) h)

theorem now_le_run (es : List Event) : ∀ st : WebSocketRuntime,
    st.now ≤ (Machine.run step st es).now := by
  induction es with
  | nil => exact fun st => le_rfl
  | cons e es ih => exact fun st => (now_le_step st e).trans (ih _)

theorem deps_run (es : List Event) : ∀ st : WebSocketRuntime,
    (Machine.run step st es).deps = st.deps := by
  induction es with
  | nil => exact fun _ => rfl
  | cons e es ih => exact fun st => (ih _).trans (deps_step st e)

/-- What is owed is owed as long as the acknowledgement stays open. -/
theorem Owed.run (es : List Event) : ∀ st : WebSocketRuntime, st.Owed msgId ref T → st.Numbered →
    Machine.Along WebSocketRuntime.step (Timely msgId connId) st es →
    Machine.Along WebSocketRuntime.step (Leaves msgId ref T) st es →
    (Machine.run WebSocketRuntime.step st es).now ≤ T → st.objects.has connId = true →
    connId ∈ (Machine.run WebSocketRuntime.step st es).connections →
    (Machine.run WebSocketRuntime.step st es).Owed msgId ref T := by
  induction es with
  | nil => exact fun _ h _ _ _ _ _ _ => h
  | cons e es ih =>
    intro st h hn ht hl hT ho hc
    have ho' := (step_handles st e).opened connId ho
    have hc' := mem_connections_of_run es (st.step e) ho' hc
    have hnow : st.now ≤ T := (now_le_run (e :: es) st).trans hT
    exact ih _ (h.step hn ht.1 hl.1 hnow hc') (numbered_step hn e) ht.2 hl.2 hT ho' hc

/-- A connection acknowledges a message that it was given: its queue took the envelope in the event
`e₀` and its socket got it, and since then the acknowledgement has stayed open. -/
structure Acknowledging (s₀ : WebSocketRuntime) (e₀ : Event) (mid : List Event)
    (connId : JsString) (message : Envelope) (msgId : JsString) (ref : ConnRef) : Prop where
  handed : ∃ outbound, s₀.Hands e₀ connId outbound msgId ref ∧
    Machine.Past WebSocketRuntime.step s₀ (e₀ :: mid) fun s e =>
      ∃ status, .egress connId (.send outbound status) ∈ (s.step e).effects
  leaves : Machine.Along WebSocketRuntime.step
    (Leaves msgId ref (Machine.run WebSocketRuntime.step s₀ (e₀ :: mid)).now) s₀ (e₀ :: mid)
  connected : connId ∈ (Machine.run WebSocketRuntime.step s₀ (e₀ :: mid)).connections
  acks : Event.acks (.message connId (some message)) = some msgId
  online : ref.nodeId = s₀.deps.nodeId →
    (Machine.run WebSocketRuntime.step s₀ (e₀ :: mid)).Online ref.connId

/-- The acknowledgements of a message by a recipient are forwarded to its senders. -/
def AcksForwarded (msgId connId : JsString) (deps : WebSocketRuntimeDeps) (es : List Event) :
    Prop :=
  ∀ pre e₀ mid message post ref,
    es = pre ++ e₀ :: (mid ++ .message connId (some message) :: post) →
    Acknowledging (Machine.run step (create deps) pre) e₀ mid connId message msgId ref →
    (Machine.run step (create deps) (pre ++ e₀ :: mid)).Forwards connId message msgId ref

/-- **In a run whose events are timely, the acknowledgement of a recipient is forwarded.** -/
theorem acks_forwarded (msgId connId : JsString) (deps : WebSocketRuntimeDeps) (es : List Event)
    (h : Machine.Along step (Timely msgId connId) (create deps) es) :
    AcksForwarded msgId connId deps es := by
  rintro pre e₀ mid message post ref rfl ⟨⟨outbound, hhands, -⟩, hleaves, hconn, hacks, honline⟩
  obtain ⟨-, ht₀, hrest⟩ := Machine.along_append.1 h
  obtain ⟨htmid, htack, -⟩ := Machine.along_append.1 hrest
  have hready : (create deps).Ready := fun _ _ _ _ hget _ => by cases hget
  have hsourced : (create deps).Sourced := fun _ _ _ hget _ => by cases hget
  replace hready := Machine.run_invariant hready (fun _ e h => ready_step h e) pre
  replace hsourced := Machine.run_invariant hsourced (fun _ e h => sourced_step h e) pre
  have hnumbered :=
    Machine.run_invariant (numbered_create deps) (fun _ e h => numbered_step h e) pre
  rw [Machine.run_append]
  generalize Machine.run step (create deps) pre = s₀ at *
  -- a message is handed over for a connection that has a context
  have hauth : (s₀.authOf connId).isSome = true := by
    cases hhands with
    | here hcall => exact hready _ _ _ _ hcall rfl
    | relayed hcall => exact hready _ _ _ _ hcall rfl
  have howed := Owed.run mid (s₀.step e₀) (hhands.owed hleaves.1) (numbered_step hnumbered e₀) htmid
    hleaves.2 le_rfl ((step_handles s₀ e₀).opened _ (has_of_authOf hauth)) hconn
  have hauth₁ : ((Machine.run step s₀ (e₀ :: mid)).authOf connId).isSome = true :=
    authOf_isSome_run hauth (e₀ :: mid)
  have hdeps₁ := deps_run (e₀ :: mid) s₀
  have hnumbered₁ :=
    Machine.run_invariant hnumbered (fun _ e h => numbered_step h e) (e₀ :: mid)
  rw [Machine.run_cons] at *
  generalize Machine.run step (s₀.step e₀) mid = s₁ at *
  -- the call that hands it over is still under way, or the acknowledgement is awaited
  rcases howed with ⟨id, send, ⟨call, hcall, hfans⟩, -, rfl, -⟩ | ⟨entry, hget, rfl, hfresh⟩
  · -- a timely acknowledgement comes after the call is over
    refine absurd ?_ (htack.done ⟨hacks, rfl⟩ _ (JsMap.get_eq_some_iff.1 hcall))
    cases call with
    | checking => exact (if_neg hfans.2).trans (by rw [hfans.1])
    | relaying => exact (if_neg hfans.2).trans (by rw [hfans.1])
    | _ => exact hfans.elim
  · refine forwards_of_pending ⟨hconn, hauth₁⟩ (htack.heard ⟨hacks, rfl⟩) hacks hget hfresh
      hnumbered₁ (fun hn => honline (hn.trans (by rw [hdeps₁]))) fun hn => ?_
    rw [hdeps₁] at hn ⊢
    generalize entry.senderRef = ref at *
    cases hhands with
    | here hcall => exact absurd (hsourced _ _ _ hcall rfl) hn
    | relayed hcall => exact ht₀.network ⟨_, JsMap.get_eq_some_iff.1 hcall, rfl⟩

/-- Alice writes to Bob and Carol; the envelope is about to go to Bob. -/
def writesToBoth : List Event :=
  aliceAndBob ++ .openSocket (js "c") :: joins (js "c") (js "carol") 2 ++
    [.message (js "a") (some (clientMessage .biz (js "send") (js "m") none)),
      .resume 3 (.validMessage (.ok true)),
      .resume 3 (.hooked (.ok { peerIds := [js "bob", js "carol"] })),
      .resume 3 .found, .resume 3 .found, .resume 3 (.located [])]

/-- The node when the envelope is about to go to Bob. -/
def aboutToSend : WebSocketRuntime := Machine.run step (create { nodeId := js "n" }) writesToBoth

/-- Alice's connection, which sends the message. -/
def alice : ConnRef where
  nodeId := js "n"
  connId := js "a"
  peerId := js "alice"

/-- Alice's message. -/
def toBoth : SendCall where
  sender := js "a"
  message := clientMessage .biz (js "send") (js "m") none
  auth := { contextOf (js "alice") with groupId := none }
  envelope := outboundEnvelope (clientMessage .biz (js "send") (js "m") none) {}
  peerIds := [js "bob", js "carol"]
  ack := .recv
  senderRef := alice
  retry := false

/-- Bob's acknowledgement. -/
def bobAcks : Envelope :=
  clientMessage .system (js "handleAck") (js "k") (some (.obj [(js "ackFor", .str (js "m"))]))

/-- Bob's envelope. -/
def toBob : Envelope :=
  { clientMessage .biz (js "send") (js "m") none with src := ⟨js "alice", js "a"⟩ }

theorem hands_toBob : aboutToSend.Hands (.resume 3 (.valid true)) (js "b") (.envelope toBob)
    (js "m") alice := by
  obtain ⟨remote, rest, hcall⟩ : ∃ remote rest, aboutToSend.calls.get 3 =
      some (.checking toBoth [] remote { nodeId := js "n", connId := js "b", peerId := js "bob" }
        rest) := ⟨_, _, rfl⟩
  have henvelope : aboutToSend.localEnvelope toBoth = .envelope toBob := rfl
  have htaken : aboutToSend.enqueueError (js "b") (aboutToSend.localEnvelope toBoth) = none := rfl
  exact henvelope ▸ .here hcall (by decide) htaken

theorem sent_toBob : ∃ status, .egress (js "b") (.send (.envelope toBob) status) ∈
    (aboutToSend.step (.resume 3 (.valid true))).effects :=
  ⟨.sent, List.mem_of_getElem? (i := 0) rfl⟩

/-- Bob has his envelope, whatever follows. -/
theorem acknowledging_bob {mid : List Event}
    (hn : (Machine.run step aboutToSend (.resume 3 (.valid true) :: mid)).now = 0)
    (hl : Machine.Along step (Leaves (js "m") alice 0) aboutToSend (.resume 3 (.valid true) :: mid))
    (hc : js "b" ∈ (Machine.run step aboutToSend (.resume 3 (.valid true) :: mid)).connections)
    (ho : (Machine.run step aboutToSend (.resume 3 (.valid true) :: mid)).Online (js "a")) :
    Acknowledging aboutToSend (.resume 3 (.valid true)) mid (js "b") bobAcks (js "m") alice :=
  ⟨⟨_, hands_toBob, Machine.past_cons_iff.2 (.inl sent_toBob)⟩, by rw [hn]; exact hl, hc,
    by decide +kernel, fun _ => ho⟩

/-- Bob's acknowledgement is forwarded when the fan-out is over. -/
theorem acks_forwarded_bob :
    (Machine.run step (create { nodeId := js "n" }) (writesToBoth ++
      [.resume 3 (.valid true), .resume 3 (.valid true)])).Forwards (js "b") bobAcks (js "m")
        alice :=
  acks_forwarded (js "m") (js "b") { nodeId := js "n" }
    (writesToBoth ++ [.resume 3 (.valid true), .resume 3 (.valid true),
      .message (js "b") (some bobAcks)]) (by decide +kernel)
    writesToBoth (.resume 3 (.valid true)) [.resume 3 (.valid true)] bobAcks [] alice rfl
    (acknowledging_bob (by decide +kernel) (by decide +kernel) (by decide +kernel)
      ⟨by decide +kernel, by decide +kernel⟩)

/-- Bob's acknowledgement is dropped while Carol is served. -/
theorem bob_unheard : ¬∀ msgId connId deps es, AcksForwarded msgId connId deps es := by
  intro h
  have hforwards := h (js "m") (js "b") { nodeId := js "n" }
    (writesToBoth ++ [.resume 3 (.valid true), .message (js "b") (some bobAcks)]) writesToBoth
    (.resume 3 (.valid true)) [] bobAcks [] alice rfl
    (acknowledging_bob (by decide +kernel) (by decide +kernel) (by decide +kernel)
      ⟨by decide +kernel, by decide +kernel⟩)
  -- Alice's connection is open and has room, but no call is there to be answered.
  have henqueued := hforwards.here rfl [] (fun _ => List.not_mem_nil) rfl rfl
  have hnothing : (((Machine.run step (create { nodeId := js "n" }) (writesToBoth ++
      [.resume 3 (.valid true)])).step (.message (js "b") (some bobAcks))).step
        (.resume (Machine.run step (create { nodeId := js "n" }) (writesToBoth ++
          [.resume 3 (.valid true)])).nextCall (.valid true))).effects = [] := rfl
  rw [Machine.run_nil, hnothing] at henqueued
  cases henqueued

end WebSocketRuntime

end Hardess
