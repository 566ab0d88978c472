import Hardess.Ingress.Identity
import Hardess.Lib.SlidingWindow

/-!
# The rate limit of messages

`message` of `src/runtime/ingress/websocket.ts` over whole runs.

* `WebSocketRuntime.timestamps`: the list of a connection, which only `message` changes;
* `WebSocketRuntime.acceptedTimes`: when the messages of a connection were accepted;
* **`rateLimited`**: what the limit comes to.
-/

namespace Hardess

namespace WebSocketRuntime

variable {st : WebSocketRuntime}

/-- `messageTimestamps` of a connection that was opened. -/
def timestamps (st : WebSocketRuntime) (connId : JsString) : Option (List ℕ) :=
  (st.objects.get connId).map (·.messageTimestamps)

/-! ### What leaves the lists alone -/

theorem timestamps_modify {connId : JsString} {f : ConnectionState → ConnectionState}
    (hf : ∀ c, (f c).messageTimestamps = c.messageTimestamps) :
    (st.modify connId f).timestamps = st.timestamps := by
  funext connId'
  unfold timestamps
  rw [get_modify]
  split_ifs with hc
  · rw [hc, Option.map_map]
    exact congrArg (fun g => Option.map g _) (funext hf)
  · rfl

@[simp] theorem timestamps_emit (x : Effect) : (st.emit x).timestamps = st.timestamps := rfl

@[simp] theorem timestamps_await (id : ℕ) (call : Call) :
    (st.await id call).timestamps = st.timestamps := rfl

@[simp] theorem timestamps_socketSend (connId : JsString) (message : OutboundMessage) :
    (st.socketSend connId message).timestamps = st.timestamps := rfl

@[simp] theorem timestamps_modifyEgress (connId : JsString)
    (result : Outbox OutboundMessage × List (EgressEffect OutboundMessage)) :
    (st.modifyEgress connId result).timestamps = st.timestamps :=
  timestamps_modify fun _ => rfl

@[simp] theorem timestamps_closeConnection (connId : JsString) (code : ℕ) (reason : JsString) :
    (st.closeConnection connId code reason).timestamps = st.timestamps := by
  unfold closeConnection
  split
  · rfl
  · exact timestamps_modifyEgress connId _

@[simp] theorem timestamps_enqueueOutbound (connId : JsString) (message : OutboundMessage) :
    (st.enqueueOutbound connId message).1.timestamps = st.timestamps := by
  unfold enqueueOutbound
  split
  · rfl
  · dsimp only
    split_ifs
    · exact timestamps_modifyEgress connId _
    · split <;> exact timestamps_modifyEgress connId _

theorem timestamps_of_enqueued {st' : WebSocketRuntime} {connId : JsString}
    {message : OutboundMessage} {error : Option EgressError}
    (h : st.enqueueOutbound connId message = (st', error)) : st'.timestamps = st.timestamps := by
  have hsame := @timestamps_enqueueOutbound st connId message
  rwa [h] at hsame

@[simp] theorem timestamps_catchError (connId : JsString) (message : Envelope) (thrown : Thrown) :
    (st.catchError connId message thrown).timestamps = st.timestamps := by
  unfold catchError
  dsimp only
  split <;> simp

@[simp] theorem timestamps_enqueueOrCatch (connId : JsString) (message : Envelope)
    (target : JsString) (outbound : OutboundMessage) :
    (st.enqueueOrCatch connId message target outbound).timestamps = st.timestamps := by
  unfold enqueueOrCatch
  split
  · rename_i heq
    exact timestamps_of_enqueued heq
  · rename_i heq
    rw [timestamps_catchError, timestamps_of_enqueued heq]

@[simp] theorem timestamps_setPendingHandleAck (msgId : JsString) (senderRef : ConnRef)
    (expiresAt : ℕ) :
    (st.setPendingHandleAck msgId senderRef expiresAt).timestamps = st.timestamps := rfl

theorem timestamps_finishSend (send : SendCall) (delivered : List ConnRef) :
    (st.finishSend send delivered).timestamps = st.timestamps := by
  have hpending : (if send.ack = .none then st else st.setPendingHandleAck send.envelope.msgId
      send.senderRef (st.now + st.deps.pendingTtl)).timestamps = st.timestamps := by
    split_ifs <;> rfl
  unfold finishSend
  dsimp only
  split
  · rename_i heq
    rw [timestamps_catchError, timestamps_of_enqueued heq, hpending]
  · rename_i heq
    split_ifs
    · rw [timestamps_enqueueOrCatch, timestamps_of_enqueued heq, hpending]
    · rw [timestamps_of_enqueued heq, hpending]

/-! #### The loops -/

@[simp] theorem timestamps_findNext (id : ℕ) (send : SendCall) (groupId : Option JsString)
    (located : List (JsString × List ConnRef)) (rest : List JsString) :
    (st.findNext id send groupId located rest).timestamps = st.timestamps := by
  obtain ⟨call, -, h⟩ := @findNext_cases st id send groupId located rest
  rw [h, timestamps_await]

@[simp] theorem timestamps_relayNext (id : ℕ) (send : SendCall) (delivered : List ConnRef)
    (nodes : List (JsString × List ConnRef)) :
    (st.relayNext id send delivered nodes).timestamps = st.timestamps := by
  rcases @relayNext_cases st id send delivered nodes with ⟨nodeId, targets, rest, h⟩ | h
  · rw [h, timestamps_emit, timestamps_await]
  · rw [h]
    rcases @attemptDone_cases st id send delivered with
      ⟨thrown, h⟩ | ⟨-, -, call, -, h⟩ | ⟨-, h⟩
    · rw [h, timestamps_catchError]
    · rw [h, timestamps_await]
    · rw [h, timestamps_finishSend]

@[simp] theorem timestamps_serveTargets (id : ℕ) (send : SendCall) (delivered : List ConnRef)
    (remote : JsMap JsString (List ConnRef)) (targets : List ConnRef) :
    (st.serveTargets id send delivered remote targets).timestamps = st.timestamps := by
  rcases @serveTargets_cases st id send delivered remote targets with
    ⟨remote', target, rest, -, -, -, h⟩ | ⟨nodes, h⟩
  · rw [h, timestamps_await]
  · rw [h, timestamps_relayNext]

theorem timestamps_serveTarget (id : ℕ) (send : SendCall) (delivered : List ConnRef)
    (remote : JsMap JsString (List ConnRef)) (target : ConnRef) (rest : List ConnRef) (ok : Bool) :
    (st.serveTarget id send delivered remote target rest ok).timestamps = st.timestamps := by
  unfold serveTarget
  split_ifs
  · split <;>
    · rename_i heq
      rw [timestamps_serveTargets, timestamps_of_enqueued heq]
  · exact timestamps_serveTargets ..

@[simp] theorem timestamps_deliverNext (id : ℕ) (request : DeliverRequest) (startedAt : ℕ)
    (delivered targets : List ConnRef) :
    (st.deliverNext id request startedAt delivered targets).timestamps = st.timestamps := by
  rcases @deliverNext_cases st id request startedAt delivered targets with
    ⟨target, rest, -, -, -, h⟩ | h
  · rw [h, timestamps_await]
  · rw [h, deliverNext]
    split_ifs <;> rfl

theorem timestamps_deliverTarget (id : ℕ) (request : DeliverRequest) (startedAt : ℕ)
    (delivered : List ConnRef) (target : ConnRef) (rest : List ConnRef) (ok : Bool) :
    (st.deliverTarget id request startedAt delivered target rest ok).timestamps =
      st.timestamps := by
  have hpending : (if request.ack = .none then st else st.setPendingHandleAck
      request.envelope.msgId request.sender (startedAt + st.deps.pendingTtl)).timestamps =
      st.timestamps := by
    split_ifs <;> rfl
  unfold deliverTarget
  cases ok with
  | false => exact timestamps_deliverNext ..
  | true =>
    rw [if_pos rfl]
    dsimp only
    split
    · rename_i heq
      rw [timestamps_deliverNext, timestamps_of_enqueued heq, hpending]
    · rename_i heq
      rw [timestamps_emit, timestamps_of_enqueued heq, hpending]

/-! #### The handlers -/

theorem timestamps_startAuth (id : ℕ) (connId : JsString) (message : Envelope) :
    (st.startAuth id connId message).timestamps = st.timestamps := by
  unfold startAuth
  split_ifs
  · exact timestamps_catchError ..
  · split <;> simp

theorem timestamps_finishAuth (connId : JsString) (message : Envelope) (auth : AuthContext) :
    (st.finishAuth connId message auth).timestamps = st.timestamps := by
  unfold finishAuth
  split_ifs
  · exact timestamps_catchError ..
  · rw [timestamps_enqueueOrCatch]
    exact timestamps_modify fun _ => rfl

theorem timestamps_handlePing (connId : JsString) (message : Envelope) :
    (st.handlePing connId message).timestamps = st.timestamps := by
  unfold handlePing
  split
  · exact timestamps_catchError ..
  · rw [timestamps_enqueueOrCatch]
    exact timestamps_modify fun _ => rfl

theorem timestamps_handlePong (connId : JsString) (message : Envelope) :
    (st.handlePong connId message).timestamps = st.timestamps := by
  unfold handlePong
  split
  · exact timestamps_catchError ..
  · exact timestamps_modify fun _ => rfl

theorem timestamps_forwardAck (id : ℕ) (connId : JsString) (message : Envelope)
    (ackFor : JsString) (senderRef : ConnRef) :
    (st.forwardAck id connId message ackFor senderRef).timestamps = st.timestamps := by
  unfold forwardAck
  split_ifs <;> simp

theorem timestamps_startHandleAck (id : ℕ) (connId : JsString) (message : Envelope) :
    (st.startHandleAck id connId message).timestamps = st.timestamps := by
  unfold startHandleAck
  split_ifs
  · exact timestamps_catchError ..
  · split
    · exact timestamps_catchError ..
    · dsimp only
      split
      · exact timestamps_catchError ..
      · exact timestamps_forwardAck ..

theorem timestamps_handleSystemMessage (id : ℕ) (connId : JsString) (message : Envelope) :
    (st.handleSystemMessage id connId message).timestamps = st.timestamps := by
  unfold handleSystemMessage
  split_ifs
  · exact timestamps_startAuth id connId message
  · exact timestamps_handlePing connId message
  · exact timestamps_handlePong connId message
  · exact timestamps_startHandleAck id connId message
  · exact timestamps_catchError ..

theorem timestamps_startBusinessMessage (id : ℕ) (connId : JsString) (message : Envelope) :
    (st.startBusinessMessage id connId message).timestamps = st.timestamps := by
  unfold startBusinessMessage
  split_ifs
  · exact timestamps_catchError ..
  · split <;> simp

theorem timestamps_acknowledgeLocally (connId : JsString) (message : Envelope) (ack : AckMode) :
    (st.acknowledgeLocally connId message ack).timestamps = st.timestamps := by
  unfold acknowledgeLocally
  by_cases hnone : ack = .none
  · rw [if_pos hnone]
  · rw [if_neg hnone]
    split
    · rename_i heq
      rw [timestamps_catchError, timestamps_of_enqueued heq]
    · rename_i heq
      split_ifs
      · rw [timestamps_enqueueOrCatch, timestamps_of_enqueued heq]
      · exact timestamps_of_enqueued heq

theorem timestamps_afterHooks (id : ℕ) (connId : JsString) (message : Envelope)
    (auth : AuthContext) (result : HookResult) :
    (st.afterHooks id connId message auth result).timestamps = st.timestamps := by
  unfold afterHooks
  split_ifs
  · exact timestamps_acknowledgeLocally ..
  · exact timestamps_catchError ..
  · exact timestamps_findNext ..

theorem timestamps_deliverCluster (id : ℕ) (request : DeliverRequest) :
    (st.deliverCluster id request).timestamps = st.timestamps := by
  unfold deliverCluster
  split_ifs
  · rfl
  · rfl
  · dsimp only
    split
    · rfl
    · exact timestamps_deliverNext ..

theorem timestamps_forwardClusterHandleAck (id : ℕ) (request : ForwardRequest) :
    (st.forwardClusterHandleAck id request).timestamps = st.timestamps := by
  unfold forwardClusterHandleAck
  dsimp only
  split_ifs <;> rfl

theorem timestamps_finishForward (id : ℕ) (request : ForwardRequest) (ok : Bool) :
    (st.finishForward id request ok).timestamps = st.timestamps := by
  unfold finishForward
  split_ifs
  · split <;>
    · rename_i heq
      rw [timestamps_emit, timestamps_of_enqueued heq]
  · rfl

theorem timestamps_closeSocket (connId : JsString) :
    (st.closeSocket connId).timestamps = st.timestamps := by
  have hclosed : (if connId ∈ st.connections then st.modify connId fun connection =>
      { connection with egress := { connection.egress with closed := true, drainTimer := false } }
      else st).timestamps = st.timestamps := by
    split_ifs
    · exact timestamps_modify fun _ => rfl
    · rfl
  exact hclosed

theorem timestamps_foldl {f : WebSocketRuntime → JsString → WebSocketRuntime}
    (hf : ∀ s connId, (f s connId).timestamps = s.timestamps) (connIds : List JsString) :
    (connIds.foldl f st).timestamps = st.timestamps := by
  induction connIds generalizing st with
  | nil => rfl
  | cons connId connIds ih => rw [List.foldl_cons, ih, hf]

theorem timestamps_forceClose :
    st.forceCloseDrainingConnections.timestamps = st.timestamps :=
  timestamps_foldl (fun _ connId => timestamps_closeConnection connId _ _) _

theorem timestamps_beginShutdown : st.beginShutdown.timestamps = st.timestamps := by
  unfold beginShutdown
  split_ifs
  · rfl
  · exact timestamps_forceClose
  · rfl

theorem timestamps_shutdownTimerFired : st.shutdownTimerFired.timestamps = st.timestamps := by
  unfold shutdownTimerFired
  split_ifs
  · exact timestamps_forceClose
  · rfl

theorem timestamps_dispose : st.dispose.timestamps = st.timestamps := by
  unfold dispose
  split_ifs
  · rfl
  · exact timestamps_foldl (fun _ connId => timestamps_closeConnection connId _ _) _

theorem timestamps_heartbeat (connId : JsString) :
    (st.heartbeat connId).timestamps = st.timestamps := by
  unfold heartbeat
  split
  · rfl
  · split_ifs
    · exact timestamps_closeConnection ..
    · rw [timestamps_enqueueOutbound]
      exact timestamps_modify fun _ => rfl
    · rfl

theorem timestamps_tickHeartbeat : st.tickHeartbeat.timestamps = st.timestamps :=
  timestamps_foldl (fun _ => timestamps_heartbeat) _

theorem timestamps_queueEvent (connId : JsString) (e : Outbox.Event OutboundMessage) :
    (st.queueEvent connId e).timestamps = st.timestamps := by
  unfold queueEvent
  split
  · rfl
  · exact timestamps_modifyEgress ..

theorem timestamps_answer (id : ℕ) (call : Call) (a : Answer) :
    (st.answer id call a).timestamps = st.timestamps := by
  unfold WebSocketRuntime.answer
  split
  · split
    · exact timestamps_finishAuth ..
    · exact timestamps_catchError ..
  · split
    · rfl
    · exact timestamps_catchError ..
    · exact timestamps_catchError ..
  · split
    · exact timestamps_afterHooks ..
    · exact timestamps_catchError ..
  · exact timestamps_findNext ..
  · exact timestamps_serveTargets ..
  · exact timestamps_serveTarget ..
  · split <;> exact timestamps_relayNext ..
  · split
    · rfl
    · exact timestamps_catchError ..
  · split_ifs
    · exact timestamps_enqueueOrCatch ..
    · exact timestamps_catchError ..
  · exact timestamps_deliverTarget ..
  · exact timestamps_finishForward ..
  · rfl

theorem timestamps_resume (id : ℕ) (a : Answer) : (st.resume id a).timestamps = st.timestamps := by
  unfold resume
  split
  · rfl
  · exact timestamps_answer ..

/-! ### Messages -/

/-- The message is within the limit. -/
def AcceptsMessage (st : WebSocketRuntime) (connId : JsString) : Prop :=
  ∃ connection, st.connection connId = some connection ∧
    (st.recentMessages connection).length < st.deps.rateLimitMaxMessages

instance (connId : JsString) : Decidable (st.AcceptsMessage connId) :=
  match h : st.connection connId with
  | none => isFalse fun ⟨_, hc, _⟩ => nomatch h.symm.trans hc
  | some connection =>
    decidable_of_iff ((st.recentMessages connection).length < st.deps.rateLimitMaxMessages)
      ⟨fun hlt => ⟨connection, h, hlt⟩, fun ⟨_, hc, hlt⟩ => Option.some.inj (h.symm.trans hc) ▸ hlt⟩

/-- The message is over the limit. -/
def RefusesMessage (st : WebSocketRuntime) (connId : JsString) : Prop :=
  ∃ connection, st.connection connId = some connection ∧
    st.deps.rateLimitMaxMessages ≤ (st.recentMessages connection).length

theorem not_accepts_iff {connId : JsString} {connection : ConnectionState}
    (hc : st.connection connId = some connection) :
    ¬st.AcceptsMessage connId ↔
      st.deps.rateLimitMaxMessages ≤ (st.recentMessages connection).length := by
  simp only [AcceptsMessage, hc, Option.some.injEq, exists_eq_left', not_lt]

theorem timestamps_modify_messageTimestamps {connId : JsString} {connection : ConnectionState}
    (hc : st.objects.get connId = some connection) (times : List ℕ) (connId' : JsString) :
    (st.modify connId fun connection =>
      { connection with lastSeenAt := st.now, messageTimestamps := times }).timestamps connId' =
      if connId' = connId then some times else st.timestamps connId' := by
  unfold timestamps
  rw [get_modify, hc]
  split_ifs <;> rfl

theorem get_of_connection {connId : JsString} {connection : ConnectionState}
    (hc : st.connection connId = some connection) : st.objects.get connId = some connection := by
  unfold WebSocketRuntime.connection at hc
  split_ifs at hc
  exact hc

theorem message_of_none {connId : JsString} (hc : st.connection connId = none) (id : ℕ)
    (envelope : Option Envelope) : st.message id connId envelope = st := by
  unfold message
  rw [hc]

/-- The lists after a message. -/
theorem timestamps_message {id : ℕ} {connId : JsString} {envelope : Option Envelope}
    {connection : ConnectionState} (hc : st.connection connId = some connection)
    (connId' : JsString) :
    (st.message id connId envelope).timestamps connId' =
      if connId' = connId then
        some (if st.AcceptsMessage connId then st.recentMessages connection ++ [st.now]
          else st.recentMessages connection)
      else st.timestamps connId' := by
  have hget := get_of_connection hc
  unfold message
  rw [hc]
  dsimp only
  by_cases haccepts : st.AcceptsMessage connId
  · rw [if_neg (mt (not_accepts_iff hc).2 (not_not.2 haccepts)), if_pos haccepts]
    rw [← timestamps_modify_messageTimestamps hget (st.recentMessages connection ++ [st.now])]
    refine congrFun ?_ connId'
    split
    · rw [timestamps_closeConnection, timestamps_socketSend]
    · split
      · exact timestamps_handleSystemMessage ..
      · exact timestamps_startBusinessMessage ..
  · rw [if_pos ((not_accepts_iff hc).1 haccepts), if_neg haccepts, timestamps_closeConnection,
      timestamps_socketSend]
    exact timestamps_modify_messageTimestamps hget (st.recentMessages connection) connId'

theorem timestamps_openSocket (connId connId' : JsString) :
    (st.openSocket connId).timestamps connId' = st.timestamps connId' ∨
      st.timestamps connId' = none ∧ (st.openSocket connId).timestamps connId' = some [] := by
  unfold openSocket
  split_ifs with hhas
  · exact .inl rfl
  · exact .inl rfl
  · exact .inl rfl
  · exact .inl rfl
  · by_cases hc : connId' = connId
    · refine .inr ?_
      subst hc
      have hnone : st.objects.get connId' = none := by
        rw [JsMap.has, Option.isSome_iff_ne_none, not_not] at hhas
        exact hhas
      unfold timestamps
      exact ⟨by rw [hnone]; rfl, by rw [JsMap.get_set, if_pos rfl]; rfl⟩
    · refine .inl ?_
      unfold timestamps
      rw [JsMap.get_set, if_neg hc]

/-! ### Runs -/

/-- The message on the connection that the event is. -/
def Event.isMessageOn (connId : JsString) : Event → Bool
  | .message connId' _ => connId' = connId
  | _ => false

/-- The time of a message that is accepted by the event. -/
def acceptedAt (connId : JsString) (st : WebSocketRuntime) (e : Event) : List ℕ :=
  if e.isMessageOn connId ∧ st.AcceptsMessage connId then [st.now] else []

/-- When the messages of a connection were accepted in a run. -/
def acceptedTimes (connId : JsString) : WebSocketRuntime → List Event → List ℕ
  | _, [] => []
  | st, e :: es => acceptedAt connId st e ++ acceptedTimes connId (st.step e) es

/-- The list of a connection with the times at which its messages were accepted. -/
structure Limited (connId : JsString) (accepted : List ℕ) (st : WebSocketRuntime) : Prop where
  unopened : st.timestamps connId = none → accepted = []
  past : ∀ t ∈ accepted, t ≤ st.now
  remembers : ∀ times, st.timestamps connId = some times →
    SlidingWindow.Remembers st.deps.rateLimitWindowMs st.now times accepted ∧
      (∀ t ∈ times, t ≤ st.now) ∧ times.length ≤ st.deps.rateLimitMaxMessages
  spaced : SlidingWindow.Spaced st.deps.rateLimitWindowMs st.deps.rateLimitMaxMessages accepted

theorem limited_create (deps : WebSocketRuntimeDeps) (connId : JsString) :
    (create deps).Limited connId [] := by
  refine ⟨fun _ => rfl, nofun, fun times htimes => ?_, SlidingWindow.spaced_nil _ _⟩
  exact (nomatch htimes)

/-- For times that are past, the list of the source is that of the window. -/
theorem recentMessages_eq {connection : ConnectionState}
    (h : ∀ t ∈ connection.messageTimestamps, t ≤ st.now) :
    st.recentMessages connection =
      SlidingWindow.recent st.deps.rateLimitWindowMs st.now connection.messageTimestamps := by
  refine List.filter_congr fun t ht => ?_
  have hle := h t ht
  rw [decide_eq_decide]
  omega

/-- Nothing happens to the list. -/
theorem Limited.same {connId : JsString} {accepted : List ℕ} {st' : WebSocketRuntime}
    (h : st.Limited connId accepted) (hdeps : st'.deps = st.deps) (hnow : st.now ≤ st'.now)
    (hsame : st'.timestamps connId = st.timestamps connId) : st'.Limited connId accepted := by
  refine ⟨fun hnone => h.unopened (hsame ▸ hnone), fun t ht => (h.past t ht).trans hnow,
    fun times htimes => ?_, by rw [hdeps]; exact h.spaced⟩
  obtain ⟨hremembers, hpast, hlength⟩ := h.remembers times (hsame ▸ htimes)
  rw [hdeps]
  exact ⟨hremembers.mono hnow, fun t ht => (hpast t ht).trans hnow, hlength⟩

/-- A message is accepted, or its time is not kept. -/
theorem Limited.message {connId : JsString} {accepted : List ℕ} {st' : WebSocketRuntime}
    (h : st.Limited connId accepted) {connection : ConnectionState}
    (hc : st.connection connId = some connection) (hdeps : st'.deps = st.deps)
    (hnow : st'.now = st.now)
    (htimes : st'.timestamps connId = some
      (if st.AcceptsMessage connId then st.recentMessages connection ++ [st.now]
        else st.recentMessages connection)) :
    st'.Limited connId (accepted ++ if st.AcceptsMessage connId then [st.now] else []) := by
  obtain ⟨hremembers, hpast, hlength⟩ := h.remembers connection.messageTimestamps
    (by rw [timestamps, get_of_connection hc]; rfl)
  have hrecent := recentMessages_eq hpast
  have hpast' : ∀ t ∈ st.recentMessages connection, t ≤ st.now := fun t ht =>
    hpast t (List.mem_of_mem_filter ht)
  -- an accepted message enters the window, and any other only prunes it
  by_cases haccepts : st.AcceptsMessage connId
  · have hroom : (st.recentMessages connection).length < st.deps.rateLimitMaxMessages := by
      obtain ⟨connection', hc', hroom⟩ := haccepts
      obtain rfl := Option.some.inj (hc.symm.trans hc')
      exact hroom
    rw [if_pos haccepts] at htimes ⊢
    refine ⟨fun hnone => (nomatch htimes.symm.trans hnone), fun t ht => ?_,
      fun times hsome => ?_, ?_⟩
    · rw [hnow]
      rcases List.mem_append.1 ht with ht | ht
      · exact h.past t ht
      · exact (List.mem_singleton.1 ht).le
    · obtain rfl := Option.some.inj (htimes.symm.trans hsome)
      rw [hdeps, hnow, List.length_append, List.length_singleton]
      refine ⟨?_, fun t ht => ?_, hroom⟩
      · rw [hrecent]
        exact hremembers.prune.admit st.now
      · rcases List.mem_append.1 ht with ht | ht
        · exact hpast' t ht
        · exact (List.mem_singleton.1 ht).le
    · rw [hdeps]
      exact h.spaced.admit hremembers (hrecent ▸ hroom)
  · rw [if_neg haccepts] at htimes ⊢
    rw [List.append_nil]
    refine ⟨fun hnone => (nomatch htimes.symm.trans hnone), ?_, fun times hsome => ?_, ?_⟩
    · rw [hnow]
      exact h.past
    · obtain rfl := Option.some.inj (htimes.symm.trans hsome)
      rw [hdeps, hnow]
      refine ⟨?_, hpast', (List.length_filter_le _ _).trans hlength⟩
      rw [hrecent]
      exact hremembers.prune
    · rw [hdeps]
      exact h.spaced

theorem limited_step {connId : JsString} {accepted : List ℕ} (h : st.Limited connId accepted)
    (e : Event) : (st.step e).Limited connId (accepted ++ acceptedAt connId st e) := by
  have hdeps : (st.step e).deps = st.deps := (step_handles st e).deps
  have hnow : st.now ≤ (st.step e).now := now_le_step st e
  have hsame (hlist : (st.step e).timestamps connId = st.timestamps connId)
      (hother : acceptedAt connId st e = []) :
      (st.step e).Limited connId (accepted ++ acceptedAt connId st e) := by
    rw [hother, List.append_nil]
    exact h.same hdeps hnow hlist
  have hquiet (hlist : (st.step e).timestamps = st.timestamps)
      (hother : e.isMessageOn connId = false) :
      (st.step e).Limited connId (accepted ++ acceptedAt connId st e) :=
    hsame (congrFun hlist connId) (by rw [acceptedAt, hother]; rfl)
  cases e with
  | advance ms => exact hquiet rfl rfl
  | openSocket connId' =>
    rcases @timestamps_openSocket st.cleared connId' connId with hlist | ⟨hnone, hlist⟩
    · exact hsame hlist rfl
    · -- a connection that is opened for the first time has accepted nothing
      have hempty : accepted = [] := h.unopened hnone
      subst hempty
      change (st.step (.openSocket connId')).timestamps connId = some [] at hlist
      refine ⟨fun _ => rfl, nofun, fun times htimes => ?_, SlidingWindow.spaced_nil _ _⟩
      obtain rfl := Option.some.inj (hlist.symm.trans htimes)
      exact ⟨SlidingWindow.remembers_nil _ _, nofun, Nat.zero_le _⟩
  | message connId' envelope =>
    cases hc : st.connection connId' with
    | none =>
      have hmessage := message_of_none
        (show ({ st.cleared with nextCall := st.nextCall + 1 } : WebSocketRuntime).connection
          connId' = none from hc) st.nextCall envelope
      refine hsame (congrFun (congrArg timestamps hmessage) connId) (if_neg ?_)
      rintro ⟨hon, connection, hsome, -⟩
      rw [of_decide_eq_true hon] at hc
      exact (nomatch hc.symm.trans hsome)
    | some connection =>
      have hlist := @timestamps_message { st.cleared with nextCall := st.nextCall + 1 } st.nextCall connId'
        envelope connection
        (show WebSocketRuntime.connection _ connId' = some connection from hc) connId
      -- a message on another connection leaves this window alone
      by_cases hconn : connId = connId'
      · subst hconn
        rw [if_pos rfl] at hlist
        have hon : acceptedAt connId st (.message connId envelope) =
            if st.AcceptsMessage connId then [st.now] else [] := by
          rw [acceptedAt, Event.isMessageOn, decide_eq_true rfl]
          simp
        rw [hon]
        exact h.message hc hdeps ((step_handles st _).now nofun) hlist
      · rw [if_neg hconn] at hlist
        refine hsame hlist ?_
        exact if_neg fun hon => hconn (of_decide_eq_true hon.1).symm
  | closeSocket connId' => exact hquiet (@timestamps_closeSocket st.cleared connId') rfl
  | resume id a => exact hquiet (@timestamps_resume st.cleared id a) rfl
  | drain connId' => exact hquiet (@timestamps_queueEvent st.cleared connId' _) rfl
  | drainTimer connId' => exact hquiet (@timestamps_queueEvent st.cleared connId' _) rfl
  | heartbeat =>
    refine hquiet ?_ rfl
    change (if st.disposed then st.cleared else st.cleared.tickHeartbeat).timestamps = _
    split_ifs
    · rfl
    · exact timestamps_tickHeartbeat
  | beginShutdown => exact hquiet (@timestamps_beginShutdown st.cleared) rfl
  | shutdownTimer => exact hquiet (@timestamps_shutdownTimerFired st.cleared) rfl
  | dispose => exact hquiet (@timestamps_dispose st.cleared) rfl
  | deliverCluster request =>
    exact hquiet (@timestamps_deliverCluster
      { st.cleared with nextCall := st.nextCall + 1 } st.nextCall request) rfl
  | forwardClusterHandleAck request =>
    exact hquiet (@timestamps_forwardClusterHandleAck
      { st.cleared with nextCall := st.nextCall + 1 } st.nextCall request) rfl

theorem limited_run {connId : JsString} {accepted : List ℕ} (h : st.Limited connId accepted)
    (es : List Event) :
    (Machine.run step st es).Limited connId (accepted ++ acceptedTimes connId st es) := by
  induction es generalizing st accepted with
  | nil =>
    rw [acceptedTimes, List.append_nil]
    exact h
  | cons e es ih =>
    rw [acceptedTimes, ← List.append_assoc]
    exact ih (limited_step h e)

end WebSocketRuntime

end Hardess
