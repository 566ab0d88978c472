import Hardess.Ingress.WebSocket

/-!
# The operations of the websocket runtime

* `Keeps P`: an operation touches nothing but queues and times of connections, and what it does
  outside meets `P`;
* `enqueueOutbound_cases`, `enqueueError`: what becomes of a message that is queued;
* `attemptDone_cases`, `relayNext_cases`, `serveTargets_cases`, `deliverNext_cases`: where the loops
  come to.
-/

namespace Hardess

/-! ### Effects -/

/-- An answer of the runtime that says nothing about a delivery. -/
def OutboundMessage.IsReply : OutboundMessage → Prop
  | .authOk .. => True
  | .ping => True
  | .pong .. => True
  | .err .. => True
  | _ => False

namespace Effect

/-- What the queue of a connection does with a message that is given to it. -/
def Carries (connId : JsString) (message : OutboundMessage) : Effect → Prop
  | .enqueued connId' message' => connId' = connId ∧ message' = message
  | .overflowed connId' _ => connId' = connId
  | .egress connId' _ => connId' = connId
  | _ => False

/-- What the report of an error does to a connection. -/
def Reports (connId : JsString) : Effect → Prop
  | .send connId' _ => connId' = connId
  | .egress connId' (.close ..) => connId' = connId
  | _ => False

/-- An effect that is about sockets and queues only. -/
def Plain : Effect → Prop
  | .enqueued _ message => message.IsReply
  | .overflowed .. => True
  | .egress .. => True
  | .send .. => True
  | .close .. => True
  | _ => False

theorem Reports.plain {connId : JsString} {x : Effect} (h : x.Reports connId) : x.Plain := by
  cases x <;> trivial

theorem Carries.plain_or {connId : JsString} {message : OutboundMessage} {x : Effect}
    (h : x.Carries connId message) : x.Plain ∨ x = .enqueued connId message := by
  cases x with
  | enqueued => exact .inr (by rw [h.1, h.2])
  | overflowed => exact .inl trivial
  | egress => exact .inl trivial
  | _ => exact h.elim

end Effect

/-- The call looks for the targets of the message. -/
def Call.Searches (send : SendCall) : Call → Prop
  | .finding send' .. => send' = send
  | .locating send' _ => send' = send
  | _ => False

/-- The request that goes to another node for a message. -/
def SendCall.request (send : SendCall) (targets : List ConnRef) : DeliverRequest where
  sender := send.senderRef
  envelope := { send.envelope with src := ⟨send.senderRef.peerId, send.senderRef.connId⟩ }
  ack := send.ack
  targets := targets

namespace WebSocketRuntime

variable {st st' st'' : WebSocketRuntime} {P Q : Effect → Prop}

/-! ### What stays -/

/-- The state without the queues and the times of the connections and without the effects. -/
structure Frame where
  deps : WebSocketRuntimeDeps
  now : ℕ
  opened : JsString → Bool
  auth : JsString → Option AuthContext
  connections : List JsString
  peerLocator : InMemoryPeerLocator
  pendingHandleAckByMsgId : JsMap JsString PendingHandleAckEntry
  recentClusterDeliveryByMsgId : JsMap JsString ℕ
  shuttingDown : Bool
  disposed : Bool
  shutdownTimer : Bool
  calls : JsMap ℕ Call
  nextCall : ℕ

/-- The frame of a state. -/
def frame (st : WebSocketRuntime) : Frame where
  deps := st.deps
  now := st.now
  opened := st.objects.has
  auth := st.authOf
  connections := st.connections
  peerLocator := st.peerLocator
  pendingHandleAckByMsgId := st.pendingHandleAckByMsgId
  recentClusterDeliveryByMsgId := st.recentClusterDeliveryByMsgId
  shuttingDown := st.shuttingDown
  disposed := st.disposed
  shutdownTimer := st.shutdownTimer
  calls := st.calls
  nextCall := st.nextCall

/-- The socket of a connection was closed. -/
def Closes (connId : JsString) (effects : List Effect) : Prop :=
  ∃ code reason, .egress connId (.close code reason) ∈ effects

theorem closes_append {connId : JsString} {new new' : List Effect} :
    Closes connId (new ++ new') ↔ Closes connId new ∨ Closes connId new' := by
  simp only [Closes, List.mem_append, exists_or]

/-- The operation touches only queues and times of connections, closes exactly the connections
whose sockets it closes, and what it does outside meets `P`. -/
structure Keeps (P : Effect → Prop) (st st' : WebSocketRuntime) : Prop where
  frame : st'.frame = st.frame
  effects : ∃ new, st'.effects = st.effects ++ new ∧ (∀ x ∈ new, P x) ∧
    ∀ connId, st'.isClosed connId = true ↔ st.isClosed connId = true ∨ Closes connId new

namespace Keeps

theorem refl (st : WebSocketRuntime) : Keeps P st st :=
  ⟨rfl, [], by simp, by simp, by simp [Closes]⟩

theorem trans (h : Keeps P st st') (h' : Keeps P st' st'') : Keeps P st st'' := by
  obtain ⟨new, hnew, hp, hc⟩ := h.effects
  obtain ⟨new', hnew', hp', hc'⟩ := h'.effects
  refine ⟨h'.frame.trans h.frame, new ++ new', by rw [hnew', hnew, List.append_assoc], ?_,
    fun connId => by rw [hc', hc, closes_append, or_assoc]⟩
  intro x hx
  exact (List.mem_append.1 hx).elim (hp x) (hp' x)

theorem mono (h : Keeps P st st') (hPQ : ∀ x, P x → Q x) : Keeps Q st st' := by
  obtain ⟨new, hnew, hp, hc⟩ := h.effects
  exact ⟨h.frame, new, hnew, fun x hx => hPQ x (hp x hx), hc⟩

section fields

variable (h : Keeps P st st')
include h

theorem deps : st'.deps = st.deps := congrArg Frame.deps h.frame

theorem now : st'.now = st.now := congrArg Frame.now h.frame

theorem authOf (connId : JsString) : st'.authOf connId = st.authOf connId :=
  congrFun (congrArg Frame.auth h.frame) connId

theorem opened (connId : JsString) : st'.objects.has connId = st.objects.has connId :=
  congrFun (congrArg Frame.opened h.frame) connId

theorem connections : st'.connections = st.connections := congrArg Frame.connections h.frame

theorem peerLocator : st'.peerLocator = st.peerLocator := congrArg Frame.peerLocator h.frame

theorem pending : st'.pendingHandleAckByMsgId = st.pendingHandleAckByMsgId :=
  congrArg Frame.pendingHandleAckByMsgId h.frame

theorem recent : st'.recentClusterDeliveryByMsgId = st.recentClusterDeliveryByMsgId :=
  congrArg Frame.recentClusterDeliveryByMsgId h.frame

theorem shuttingDown : st'.shuttingDown = st.shuttingDown := congrArg Frame.shuttingDown h.frame

theorem disposed : st'.disposed = st.disposed := congrArg Frame.disposed h.frame

theorem calls : st'.calls = st.calls := congrArg Frame.calls h.frame

theorem nextCall : st'.nextCall = st.nextCall := congrArg Frame.nextCall h.frame

theorem closed {connId : JsString} (hc : st.isClosed connId = true) :
    st'.isClosed connId = true := by
  obtain ⟨new, -, -, hiff⟩ := h.effects
  exact (hiff connId).2 (Or.inl hc)

end fields

end Keeps

/-! ### The small operations -/

theorem emit_keeps {x : Effect} (hx : P x) (hc : ∀ connId code reason,
    x ≠ .egress connId (.close code reason)) : Keeps P st (st.emit x) :=
  ⟨rfl, [x], rfl, by simpa using hx, fun connId => by
    simp only [Closes, List.mem_singleton]
    exact ⟨Or.inl, Or.rec id fun ⟨code, reason, heq⟩ => absurd heq.symm (hc connId code reason)⟩⟩

theorem socketSend_keeps (connId : JsString) (message : OutboundMessage) :
    Keeps (Effect.Reports connId) st (st.socketSend connId message) :=
  emit_keeps rfl (by simp)

theorem get_modify {connId connId' : JsString} {f : ConnectionState → ConnectionState} :
    (st.modify connId f).objects.get connId' =
      if connId' = connId then (st.objects.get connId).map f else st.objects.get connId' := by
  unfold modify
  cases h : st.objects.get connId with
  | none =>
    dsimp only
    split_ifs with hc
    · rw [hc, h]; rfl
    · rfl
  | some connection =>
    dsimp only
    rw [JsMap.get_set]
    rfl

/-- A change of a connection that leaves its context alone. -/
theorem frame_modify {connId : JsString} {f : ConnectionState → ConnectionState}
    (hf : ∀ connection, (f connection).auth = connection.auth) :
    (st.modify connId f).frame = st.frame := by
  have hget : ∀ connId', (st.modify connId f).objects.get connId' = _ := fun _ => get_modify
  have hopened : (st.modify connId f).objects.has = st.objects.has := by
    funext connId'
    simp only [JsMap.has, hget]
    split_ifs with hc
    · rw [hc, Option.isSome_map]
    · rfl
  have hauth : (st.modify connId f).authOf = st.authOf := by
    funext connId'
    simp only [authOf, hget]
    split_ifs with hc
    · rw [hc]
      cases st.objects.get connId with
      | none => rfl
      | some connection => exact hf connection
    · rfl
  unfold frame
  rw [hopened, hauth]
  unfold modify
  split <;> rfl

theorem isClosed_modify {connId connId' : JsString} {f : ConnectionState → ConnectionState} :
    (st.modify connId f).isClosed connId' =
      if connId' = connId then (st.objects.get connId).any fun connection =>
        (f connection).egress.closed
      else st.isClosed connId' := by
  unfold isClosed
  rw [get_modify]
  split_ifs
  · rw [Option.any_map]
  · rfl

@[simp] theorem effects_modify {connId : JsString} {f : ConnectionState → ConnectionState} :
    (st.modify connId f).effects = st.effects := by
  unfold modify; split <;> rfl

/-- The times of a connection are nobody's business. -/
theorem modify_keeps {connId : JsString} {f : ConnectionState → ConnectionState}
    (hf : ∀ connection, (f connection).auth = connection.auth)
    (he : ∀ connection, (f connection).egress = connection.egress) :
    Keeps P st (st.modify connId f) := by
  refine ⟨frame_modify hf, [], by simp, by simp, fun connId' => ?_⟩
  rw [isClosed_modify]
  simp only [Closes, List.not_mem_nil, exists_false, or_false, he]
  split_ifs with hc
  · rw [hc]; rfl
  · rfl

/-- The queue of a connection changes, and closes what it closes. -/
theorem modifyEgress_keeps {connId : JsString} {connection : ConnectionState}
    (hc : st.objects.get connId = some connection)
    {result : Outbox OutboundMessage × List (EgressEffect OutboundMessage)}
    (hs : connection.egress.Shuts result) (hP : ∀ x ∈ result.2, P (.egress connId x)) :
    Keeps P st (st.modifyEgress connId result) := by
  refine ⟨?_, result.2.map (.egress connId), ?_, ?_, fun connId' => ?_⟩
  · exact @frame_modify st connId (fun connection => { connection with egress := result.1 })
      fun _ => rfl
  · simp [modifyEgress]
  · intro x hx
    obtain ⟨y, hy, rfl⟩ := List.mem_map.1 hx
    exact hP y hy
  · have hmem : Closes connId' (result.2.map (Effect.egress connId)) ↔
        connId' = connId ∧ ∃ code reason, .close code reason ∈ result.2 := by
      simp only [Closes, List.mem_map, Effect.egress.injEq]
      constructor
      · rintro ⟨code, reason, x, hx, rfl, rfl⟩
        exact ⟨rfl, code, reason, hx⟩
      · rintro ⟨rfl, code, reason, hx⟩
        exact ⟨code, reason, _, hx, rfl, rfl⟩
    show (st.modify connId fun connection => { connection with egress := result.1 }).isClosed
      connId' = true ↔ _
    rw [hmem, isClosed_modify]
    split_ifs with heq
    · subst heq
      rw [hc]
      refine Iff.trans (show _ ↔ _ from hs) ?_
      simp [isClosed, hc]
    · simp [heq]

theorem closeConnection_keeps (connId : JsString) (code : ℕ) (reason : JsString) :
    Keeps (Effect.Reports connId) st (st.closeConnection connId code reason) := by
  unfold closeConnection
  cases hc : st.objects.get connId with
  | none => exact Keeps.refl st
  | some connection =>
    refine modifyEgress_keeps hc (Outbox.closeConnection_shuts code reason) fun x hx => ?_
    unfold Outbox.closeConnection at hx
    split_ifs at hx
    · cases hx
    · rw [List.mem_singleton.1 hx]
      rfl

/-- An open connection is closed. -/
theorem closeConnection_effects {connId : JsString} (ho : st.objects.has connId = true)
    (hc : st.isClosed connId = false) (code : ℕ) (reason : JsString) :
    (st.closeConnection connId code reason).effects =
      st.effects ++ [.egress connId (.close code reason)] := by
  obtain ⟨connection, hget⟩ := Option.isSome_iff_exists.1 ho
  have hopen : connection.egress.closed = false := by simpa [isClosed, hget] using hc
  unfold WebSocketRuntime.closeConnection
  rw [hget]
  simp [Outbox.closeConnection, hopen, modifyEgress]

/-! ### Queueing a message -/

theorem enqueueOutbound_keeps (connId : JsString) (message : OutboundMessage) :
    Keeps (Effect.Carries connId message) st (st.enqueueOutbound connId message).1 := by
  unfold enqueueOutbound
  cases hc : st.objects.get connId with
  | none => exact Keeps.refl st
  | some connection =>
    have h : Keeps (Effect.Carries connId message) st (st.modifyEgress connId
        ((connection.egress.enqueueOutbound st.deps.outbound (st.deps.wire connId) message
          (st.deps.bytes message)).1, (connection.egress.enqueueOutbound st.deps.outbound
          (st.deps.wire connId) message (st.deps.bytes message)).2.2)) :=
      modifyEgress_keeps hc (Outbox.enqueueOutbound_shuts message _) fun _ _ => rfl
    dsimp only
    split_ifs
    · exact h
    · split
      · exact h.trans (emit_keeps rfl (by simp))
      · exact h.trans (emit_keeps ⟨rfl, rfl⟩ (by simp))

/-- What `enqueueOutbound` comes to on a connection that was opened. -/
theorem enqueueOutbound_cases {connId : JsString} (ho : st.objects.has connId = true)
    (message : OutboundMessage) :
    (st.isClosed connId = true ∧ (st.enqueueOutbound connId message).2 = none ∧
      (st.enqueueOutbound connId message).1.effects = st.effects) ∨
    (st.isClosed connId = false ∧ ∃ error,
      (st.enqueueOutbound connId message).2 = some error ∧
      .overflowed connId error ∈ (st.enqueueOutbound connId message).1.effects) ∨
    (st.isClosed connId = false ∧ (st.enqueueOutbound connId message).2 = none ∧
      .enqueued connId message ∈ (st.enqueueOutbound connId message).1.effects) := by
  obtain ⟨connection, hc⟩ := Option.isSome_iff_exists.1 ho
  have hclosed : st.isClosed connId = connection.egress.closed := by simp [isClosed, hc]
  unfold enqueueOutbound
  simp only [hc, hclosed]
  split_ifs with h
  · exact .inl ⟨h, rfl, by simp [modifyEgress, Outbox.enqueueOutbound_of_closed h]⟩
  · have hfalse : connection.egress.closed = false := by simpa using h
    refine .inr ?_
    split
    · exact .inl ⟨hfalse, _, rfl, by simp [emit]⟩
    · exact .inr ⟨hfalse, rfl, by simp [emit]⟩

theorem catchError_keeps (connId : JsString) (message : Envelope) (thrown : Thrown) :
    Keeps (Effect.Reports connId) st (st.catchError connId message thrown) := by
  unfold catchError
  dsimp only
  have h := @socketSend_keeps st connId
    (.err thrown.normalized (some message.msgId) message.traceId)
  split
  · exact h
  · exact h.trans (closeConnection_keeps connId _ _)

/-- What `enqueueOrCatch` does to the target and, for its error, to the sender of the message. -/
theorem enqueueOrCatch_keeps (connId : JsString) (message : Envelope) (target : JsString)
    (outbound : OutboundMessage) :
    Keeps (fun x => x.Carries target outbound ∨ x.Reports connId) st
      (st.enqueueOrCatch connId message target outbound) := by
  have h := (@enqueueOutbound_keeps st target outbound).mono
    (Q := fun x => x.Carries target outbound ∨ x.Reports connId) fun _ => Or.inl
  unfold enqueueOrCatch
  split
  · rename_i st₁ heq
    rwa [heq] at h
  · rename_i st₁ error heq
    rw [heq] at h
    exact h.trans ((catchError_keeps connId message _).mono fun _ => Or.inr)

/-! ### The loops -/

/-- The connection is in the table and authenticated. -/
def Online (st : WebSocketRuntime) (connId : JsString) : Prop :=
  connId ∈ st.connections ∧ (st.authOf connId).isSome = true

theorem online_iff {connId : JsString} :
    ((st.connection connId).bind (·.auth)).isSome = true ↔ st.Online connId := by
  unfold connection Online authOf
  split_ifs with h <;> simp [h]

theorem Keeps.online (h : Keeps P st st') (connId : JsString) :
    st'.Online connId ↔ st.Online connId := by
  unfold Online
  rw [h.connections, h.authOf]

/-- The error of `enqueueOutbound`. -/
def enqueueError (st : WebSocketRuntime) (connId : JsString) (message : OutboundMessage) :
    Option EgressError :=
  match st.objects.get connId with
  | none => none
  | some connection =>
    if connection.egress.closed then none
    else (connection.egress.enqueueOutbound st.deps.outbound (st.deps.wire connId) message
      (st.deps.bytes message)).2.1

theorem enqueueOutbound_error (connId : JsString) (message : OutboundMessage) :
    (st.enqueueOutbound connId message).2 = st.enqueueError connId message := by
  unfold enqueueOutbound enqueueError
  cases st.objects.get connId with
  | none => rfl
  | some connection =>
    dsimp only
    split_ifs
    · rfl
    · cases (connection.egress.enqueueOutbound st.deps.outbound (st.deps.wire connId) message
        (st.deps.bytes message)).2.1 <;> rfl

/-- A connection is closed with a message when it was closed before, or the message fails. -/
theorem isClosed_enqueueOutbound {connId : JsString} (ho : st.objects.has connId = true)
    (message : OutboundMessage) : (st.enqueueOutbound connId message).1.isClosed connId = true ↔
      st.isClosed connId = true ∨ st.enqueueError connId message ≠ none := by
  obtain ⟨connection, hc⟩ := Option.isSome_iff_exists.1 ho
  have hshuts := @Outbox.enqueueOutbound_shuts OutboundMessage st.deps.outbound
    (st.deps.wire connId) connection.egress message (st.deps.bytes message)
  have hclose := @Outbox.enqueueOutbound_close OutboundMessage st.deps.outbound
    (st.deps.wire connId) connection.egress message (st.deps.bytes message)
  have hfailed := @Outbox.enqueueOutbound_failed OutboundMessage st.deps.outbound
    (st.deps.wire connId) connection.egress message (st.deps.bytes message)
  -- the state of the connection is that of its outbox
  have hafter : (st.enqueueOutbound connId message).1.isClosed connId =
      (connection.egress.enqueueOutbound st.deps.outbound (st.deps.wire connId) message
        (st.deps.bytes message)).1.closed := by
    have hmod : (st.modify connId fun connection' => { connection' with
        egress := (connection.egress.enqueueOutbound st.deps.outbound (st.deps.wire connId) message
          (st.deps.bytes message)).1 }).isClosed connId =
        (connection.egress.enqueueOutbound st.deps.outbound (st.deps.wire connId) message
          (st.deps.bytes message)).1.closed := by
      rw [isClosed_modify, if_pos rfl, hc]
      rfl
    unfold enqueueOutbound
    rw [hc]
    dsimp only
    split_ifs
    · exact hmod
    · split <;> exact hmod
  rw [hafter]
  unfold enqueueError isClosed
  rw [hc]
  dsimp only [Option.any_some]
  by_cases hclosed : connection.egress.closed = true
  · rw [Outbox.enqueueOutbound_of_closed hclosed]
    simp [hclosed]
  · rw [if_neg hclosed]
    constructor
    · intro h
      obtain ⟨code, reason, hmem⟩ := (hshuts.1 h).resolve_left hclosed
      obtain ⟨error, hsome⟩ := hclose hmem
      exact .inr (by simp [hsome])
    · rintro (h | h)
      · exact absurd h hclosed
      · obtain ⟨error, hsome⟩ := Option.ne_none_iff_exists'.1 h
        exact hfailed hsome

theorem findNext_cases (id : ℕ) (send : SendCall) (groupId : Option JsString)
    (located : List (JsString × List ConnRef)) (rest : List JsString) :
    ∃ call, call.Searches send ∧ st.findNext id send groupId located rest = st.await id call := by
  cases rest with
  | nil => exact ⟨.locating send located, rfl, rfl⟩
  | cons peerId rest => exact ⟨.finding send groupId _ rest, rfl, rfl⟩

/-- What follows an attempt: an error, the second attempt, or the end. -/
theorem attemptDone_cases (id : ℕ) (send : SendCall) (delivered : List ConnRef) :
    (∃ thrown, st.attemptDone id send delivered =
      st.catchError send.sender send.message thrown) ∨
    (delivered = [] ∧ send.retry = false ∧ ∃ call, call.Searches { send with retry := true } ∧
      st.attemptDone id send delivered = st.await id call) ∨
    (delivered ≠ [] ∧ st.attemptDone id send delivered = st.finishSend send delivered) := by
  unfold attemptDone
  split_ifs with hd hr
  · exact .inl ⟨_, rfl⟩
  · exact .inr (.inl ⟨hd, by simpa using hr, findNext_cases ..⟩)
  · exact .inr (.inr ⟨hd, rfl⟩)

theorem relayNext_cases (id : ℕ) (send : SendCall) (delivered : List ConnRef)
    (nodes : List (JsString × List ConnRef)) :
    (∃ nodeId targets rest, st.relayNext id send delivered nodes =
      (st.await id (.relaying send delivered rest)).emit
        (.deliver id nodeId (send.request targets))) ∨
    st.relayNext id send delivered nodes = st.attemptDone id send delivered := by
  induction nodes with
  | nil => exact .inr rfl
  | cons node rest ih =>
    rw [relayNext]
    split_ifs
    · exact .inl ⟨node.1, node.2, rest, rfl⟩
    · exact ih

theorem serveTargets_cases (id : ℕ) (send : SendCall) (delivered : List ConnRef)
    (remote : JsMap JsString (List ConnRef)) (targets : List ConnRef) :
    (∃ remote' target rest, target :: rest <:+ targets ∧ target.nodeId = st.deps.nodeId ∧
      st.Online target.connId ∧ st.serveTargets id send delivered remote targets =
        st.await id (.checking send delivered remote' target rest)) ∨
    ∃ nodes, st.serveTargets id send delivered remote targets =
      st.relayNext id send delivered nodes := by
  induction targets generalizing remote with
  | nil => exact .inr ⟨_, rfl⟩
  | cons target rest ih =>
    have hcons {remote' : JsMap JsString (List ConnRef)}
        (h : st.serveTargets id send delivered remote (target :: rest) =
          st.serveTargets id send delivered remote' rest) :
        (∃ remote' target' rest', target' :: rest' <:+ target :: rest ∧
          target'.nodeId = st.deps.nodeId ∧ st.Online target'.connId ∧
          st.serveTargets id send delivered remote (target :: rest) =
            st.await id (.checking send delivered remote' target' rest')) ∨
        ∃ nodes, st.serveTargets id send delivered remote (target :: rest) =
          st.relayNext id send delivered nodes := by
      rw [h]
      refine (ih remote').imp_left ?_
      rintro ⟨remote'', target', rest', hs, hrest⟩
      exact ⟨remote'', target', rest', hs.trans (List.suffix_cons _ _), hrest⟩
    by_cases hn : target.nodeId = st.deps.nodeId
    · by_cases ho : ((st.connection target.connId).bind (·.auth)).isSome = true
      · refine .inl ⟨remote, target, rest, List.suffix_rfl, hn, online_iff.1 ho, ?_⟩
        rw [serveTargets, if_neg (not_not.2 hn), if_pos ho]
      · exact hcons (by rw [serveTargets, if_neg (not_not.2 hn), if_neg ho])
    · exact hcons (by rw [serveTargets, if_pos hn])

/-- What is left of a relayed request: its next target, or its end. -/
theorem deliverNext_cases (id : ℕ) (request : DeliverRequest) (startedAt : ℕ)
    (delivered targets : List ConnRef) :
    (∃ target rest, target :: rest <:+ targets ∧ target.nodeId = st.deps.nodeId ∧
      st.Online target.connId ∧ st.deliverNext id request startedAt delivered targets =
        st.await id (.delivering request startedAt delivered target rest)) ∨
    st.deliverNext id request startedAt delivered targets =
      st.deliverNext id request startedAt delivered [] := by
  induction targets with
  | nil => exact .inr rfl
  | cons target rest ih =>
    by_cases h : ((st.connection target.connId).bind (·.auth)).isSome = true ∧
        target.nodeId = st.deps.nodeId
    · refine .inl ⟨target, rest, List.suffix_rfl, h.2, online_iff.1 h.1, ?_⟩
      rw [deliverNext, if_pos h]
    · have hcons : st.deliverNext id request startedAt delivered (target :: rest) =
          st.deliverNext id request startedAt delivered rest := by rw [deliverNext, if_neg h]
      rw [hcons]
      refine ih.imp_left ?_
      rintro ⟨target', rest', hs, hrest⟩
      exact ⟨target', rest', hs.trans (List.suffix_cons _ _), hrest⟩

end WebSocketRuntime

end Hardess
