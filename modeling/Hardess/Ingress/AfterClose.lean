import Hardess.Ingress.Identity

/-!
# Messages on a closed connection

A connection that the server has closed stays in the table until its socket's close event arrives,
and `message` does not look at the flag `closed`.

* `Ignores`: an event has no effect but the times of a connection;
* `Idle`: the connection is not in the table, or the message is a well-formed `sys.ping` or
  `sys.pong` within the rate limit;
* `closed_ignored_iff`: the messages on closed connections are ignored exactly when each of them
  is idle.
-/

namespace Hardess

namespace WebSocketRuntime

variable {st s : WebSocketRuntime}

/-- The event leaves all but the times of the connections as it was, and does nothing outside. -/
structure Ignores (st : WebSocketRuntime) (e : Event) : Prop where
  frame : (st.step e).frame = { st.frame with nextCall := st.nextCall + e.opens }
  egress : ∀ connId, ((st.step e).objects.get connId).map (·.egress) =
    (st.objects.get connId).map (·.egress)
  effects : (st.step e).effects = []

/-- The connection is not in the table, or the message is a ping or a pong that is taken. -/
def Idle (st : WebSocketRuntime) (connId : JsString) (envelope : Option Envelope) : Prop :=
  ∀ connection, st.connection connId = some connection →
    (st.recentMessages connection).length < st.deps.rateLimitMaxMessages ∧
    ∃ message, envelope = some message ∧ message.kind = .system ∧
      (message.action = js "ping" ∨ message.action = js "pong") ∧
      (sysPingPayloadSchema message.payload).isSome = true

/-- Every message on a closed connection is ignored. -/
def Deaf (st : WebSocketRuntime) (e : Event) : Prop :=
  ∀ connId envelope, e = .message connId envelope → st.isClosed connId = true → st.Ignores e

/-- Every message on a closed connection is idle. -/
def Unheard (st : WebSocketRuntime) (e : Event) : Prop :=
  ∀ connId envelope, e = .message connId envelope → st.isClosed connId = true →
    st.Idle connId envelope

/-! ### What is ignored -/

theorem objects_modify_egress {connId : JsString} {f : ConnectionState → ConnectionState}
    (he : ∀ connection, (f connection).egress = connection.egress) (connId' : JsString) :
    ((st.modify connId f).objects.get connId').map (·.egress) =
      (st.objects.get connId').map (·.egress) := by
  rw [get_modify]
  split_ifs with heq
  · subst heq
    rw [Option.map_map]
    exact congrArg (fun g => (st.objects.get connId').map g) (funext he)
  · rfl

/-- The queue of a closed connection takes nothing. -/
theorem enqueueOutbound_closed {connId : JsString} (h : st.isClosed connId = true)
    (message : OutboundMessage) :
    (st.enqueueOutbound connId message).2 = none ∧
      (st.enqueueOutbound connId message).1.frame = st.frame ∧
      (st.enqueueOutbound connId message).1.effects = st.effects ∧
      ∀ connId', ((st.enqueueOutbound connId message).1.objects.get connId').map (·.egress) =
        (st.objects.get connId').map (·.egress) := by
  have hframe := (@enqueueOutbound_keeps st connId message).frame
  unfold isClosed at h
  unfold enqueueOutbound at hframe ⊢
  cases hc : st.objects.get connId with
  | none => rw [hc] at h; cases h
  | some connection =>
    rw [hc] at h hframe
    have hclosed : connection.egress.closed = true := h
    simp only [hclosed, if_true, Outbox.enqueueOutbound_of_closed] at hframe ⊢
    refine ⟨trivial, hframe, by simp [modifyEgress], fun connId' => ?_⟩
    show ((st.modify connId _).objects.get connId').map _ = _
    rw [get_modify]
    split_ifs with heq
    · rw [heq, hc]
      rfl
    · rfl

/-- Two states that differ in the times of the connections only. -/
structure SameButTimes (st s : WebSocketRuntime) : Prop where
  frame : s.frame = st.frame
  egress : ∀ connId, (s.objects.get connId).map (·.egress) =
    (st.objects.get connId).map (·.egress)
  effects : s.effects = st.effects

theorem SameButTimes.trans {s' : WebSocketRuntime} (h : SameButTimes st s)
    (h' : SameButTimes s s') : SameButTimes st s' :=
  ⟨h'.frame.trans h.frame, fun connId => (h'.egress connId).trans (h.egress connId),
    h'.effects.trans h.effects⟩

theorem SameButTimes.isClosed (h : SameButTimes st s) (connId : JsString) :
    s.isClosed connId = st.isClosed connId := by
  have hmap (t : WebSocketRuntime) : t.isClosed connId =
      ((t.objects.get connId).map (·.egress)).any (·.closed) := by
    rw [Option.any_map]
    rfl
  rw [hmap, hmap, h.egress]

theorem modify_sameButTimes {connId : JsString} {f : ConnectionState → ConnectionState}
    (hf : ∀ connection, (f connection).auth = connection.auth)
    (he : ∀ connection, (f connection).egress = connection.egress) :
    SameButTimes st (st.modify connId f) :=
  ⟨frame_modify hf, objects_modify_egress he, effects_modify⟩

theorem enqueueOrCatch_sameButTimes {connId target : JsString} (h : st.isClosed target = true)
    (message : Envelope) (outbound : OutboundMessage) :
    SameButTimes st (st.enqueueOrCatch connId message target outbound) := by
  obtain ⟨herror, hframe, heffects, hegress⟩ := enqueueOutbound_closed h outbound
  unfold enqueueOrCatch
  split
  · rename_i s₁ heq
    rw [heq] at hframe heffects hegress
    exact ⟨hframe, hegress, heffects⟩
  · rename_i s₁ error heq
    rw [heq] at herror
    cases herror

/-- A ping or a pong of a closed connection changes its times. -/
theorem handleSystemMessage_sameButTimes {id : ℕ} {connId : JsString} {message : Envelope}
    (h : st.isClosed connId = true) (ha : message.action = js "ping" ∨ message.action = js "pong")
    (hp : (sysPingPayloadSchema message.payload).isSome = true) :
    SameButTimes st (st.handleSystemMessage id connId message) := by
  obtain ⟨nonce, hnonce⟩ := Option.isSome_iff_exists.1 hp
  unfold handleSystemMessage
  rcases ha with ha | ha
  · rw [ha, if_neg (by decide), if_pos rfl]
    unfold handlePing
    rw [hnonce]
    have hseen : SameButTimes st (st.modify connId fun connection =>
        { connection with lastSeenAt := st.now }) :=
      modify_sameButTimes (fun _ => rfl) fun _ => rfl
    exact hseen.trans (enqueueOrCatch_sameButTimes ((hseen.isClosed connId).trans h) _ _)
  · rw [ha, if_neg (by decide), if_neg (by decide), if_pos rfl]
    unfold handlePong
    rw [hnonce]
    exact modify_sameButTimes (fun _ => rfl) fun _ => rfl

theorem message_sameButTimes {id : ℕ} {connId : JsString} {envelope : Option Envelope}
    (h : st.isClosed connId = true) (hi : st.Idle connId envelope) :
    SameButTimes st (st.message id connId envelope) := by
  unfold WebSocketRuntime.message
  cases hc : st.connection connId with
  | none => exact ⟨rfl, fun _ => rfl, rfl⟩
  | some connection =>
    obtain ⟨hrate, message, rfl, hkind, haction, hpayload⟩ := hi connection hc
    dsimp only
    rw [if_neg (Nat.not_le.2 hrate), hkind]
    have htouch : SameButTimes st (st.modify connId fun c => { c with
        lastSeenAt := st.now
        messageTimestamps := st.recentMessages connection ++ [st.now] }) :=
      modify_sameButTimes (fun _ => rfl) fun _ => rfl
    exact htouch.trans (handleSystemMessage_sameButTimes
      ((htouch.isClosed connId).trans h) haction hpayload)

/-- A message that is idle on a closed connection is ignored. -/
theorem ignores_of_idle {connId : JsString} {envelope : Option Envelope}
    (h : st.isClosed connId = true) (hi : st.Idle connId envelope) :
    st.Ignores (.message connId envelope) := by
  have hstep : SameButTimes { st.cleared with nextCall := st.nextCall + 1 }
      (st.step (.message connId envelope)) :=
    message_sameButTimes (show isClosed _ connId = true from h) (show Idle _ connId envelope from hi)
  exact ⟨hstep.frame, hstep.egress, hstep.effects⟩

/-! ### What is not ignored -/

/-- The event answers outside, or a call is under way that was not. -/
def Acts (st s : WebSocketRuntime) : Prop := s.effects ≠ [] ∨ s.calls ≠ st.calls

theorem acts_of_mem {x : Effect} (h : x ∈ s.effects) : Acts st s :=
  .inl (List.ne_nil_of_mem h)

theorem catchError_acts (connId : JsString) (message : Envelope) (thrown : Thrown) :
    Acts st (s.catchError connId message thrown) := by
  have hsend : .send connId (.err thrown.normalized (some message.msgId) message.traceId) ∈
      (s.socketSend connId (.err thrown.normalized (some message.msgId) message.traceId)).effects :=
    List.mem_append_right _ (List.mem_singleton_self _)
  refine @acts_of_mem _ _ (.send connId
    (.err thrown.normalized (some message.msgId) message.traceId)) ?_
  unfold catchError
  dsimp only
  split
  · exact hsend
  · exact (closeConnection_keeps connId _ _).grows hsend

theorem await_acts {id : ℕ} (h : st.calls.get id = none) (call : Call) :
    Acts st (s.await id call) := by
  refine .inr fun heq => ?_
  have hget : (s.await id call).calls.get id = some call := by
    rw [show (s.await id call).calls = s.calls.set id call from rfl, JsMap.get_set, if_pos rfl]
  rw [heq, h] at hget
  cases hget

theorem closeConnection_acts {connId connId' : JsString} {message : OutboundMessage} {code : ℕ}
    {reason : JsString} :
    Acts st ((s.socketSend connId' message).closeConnection connId code reason) :=
  acts_of_mem ((closeConnection_keeps connId code reason).grows
    (List.mem_append_right _ (List.mem_singleton_self _)))

theorem startHandleAck_acts {id : ℕ} (h : st.calls.get id = none) (connId : JsString)
    (message : Envelope) : Acts st (s.startHandleAck id connId message) := by
  unfold startHandleAck
  split_ifs
  · exact catchError_acts _ _ _
  · split
    · exact catchError_acts _ _ _
    · dsimp only
      split
      · exact catchError_acts _ _ _
      · unfold forwardAck
        split_ifs
        · exact acts_of_mem (List.mem_append_right _ (List.mem_singleton_self _))
        · exact catchError_acts _ _ _
        · exact await_acts h _
        · exact catchError_acts _ _ _

/-- A system message that is no well-formed ping or pong is acted upon. -/
theorem handleSystemMessage_acts {id : ℕ} (h : st.calls.get id = none) {connId : JsString}
    {message : Envelope}
    (hn : ¬((message.action = js "ping" ∨ message.action = js "pong") ∧
      (sysPingPayloadSchema message.payload).isSome = true)) :
    Acts st (s.handleSystemMessage id connId message) := by
  have hpayload (ha : message.action = js "ping" ∨ message.action = js "pong") :
      sysPingPayloadSchema message.payload = none := by
    rw [← Option.not_isSome_iff_eq_none]
    exact fun hp => hn ⟨ha, hp⟩
  unfold handleSystemMessage
  split_ifs with _ hping hpong
  · unfold startAuth
    split_ifs
    · exact catchError_acts _ _ _
    · split
      · exact catchError_acts _ _ _
      · exact await_acts h _
  · unfold handlePing
    rw [hpayload (.inl hping)]
    exact catchError_acts _ _ _
  · unfold handlePong
    rw [hpayload (.inr hpong)]
    exact catchError_acts _ _ _
  · exact startHandleAck_acts h connId message
  · exact catchError_acts _ _ _

theorem startBusinessMessage_acts {id : ℕ} (h : st.calls.get id = none) (connId : JsString)
    (message : Envelope) : Acts st (s.startBusinessMessage id connId message) := by
  unfold startBusinessMessage
  split_ifs
  · exact catchError_acts _ _ _
  · split
    · exact catchError_acts _ _ _
    · exact await_acts h _

/-- A message that is not idle is acted upon. -/
theorem message_acts {id : ℕ} (h : st.calls.get id = none) {connId : JsString}
    {envelope : Option Envelope} (hi : ¬s.Idle connId envelope) :
    Acts st (s.message id connId envelope) := by
  unfold WebSocketRuntime.message
  cases hc : s.connection connId with
  | none =>
    refine absurd (fun connection hsome => ?_) hi
    rw [hc] at hsome
    cases hsome
  | some connection =>
    dsimp only
    by_cases hlimit : s.deps.rateLimitMaxMessages ≤ (s.recentMessages connection).length
    · rw [if_pos hlimit]
      exact closeConnection_acts
    · rw [if_neg hlimit]
      cases envelope with
      | none => exact closeConnection_acts
      | some message =>
        dsimp only
        cases hkind : message.kind with
        | biz => exact startBusinessMessage_acts h connId message
        | system =>
          refine handleSystemMessage_acts h fun hping => hi fun connection' hc' => ?_
          rw [hc] at hc'
          cases hc'
          exact ⟨Nat.not_le.1 hlimit, message, rfl, hkind, hping⟩

/-- A message that is ignored was idle. -/
theorem idle_of_ignores (hn : st.Numbered) {connId : JsString} {envelope : Option Envelope}
    (h : st.Ignores (.message connId envelope)) : st.Idle connId envelope := by
  have hfresh := fresh_nextCall hn
  by_contra hi
  have hacts : Acts st (st.step (.message connId envelope)) :=
    message_acts hfresh (show ¬Idle { st.cleared with nextCall := st.nextCall + 1 } connId envelope
      from hi)
  rcases hacts with heffects | hcalls
  · exact heffects h.effects
  · exact hcalls (congrArg Frame.calls h.frame)

/-! ### Runs -/

/-- **In every run the messages on closed connections are ignored exactly when each of them is idle:
its connection has left the table, or it is a well-formed ping or pong within the rate limit.** -/
theorem closed_ignored_iff (deps : WebSocketRuntimeDeps) (es : List Event) :
    Machine.Along step Deaf (create deps) es ↔ Machine.Along step Unheard (create deps) es := by
  constructor
  · intro h
    refine h.imp (numbered_create deps) (fun _ e hn _ => numbered_step hn e) ?_
    rintro st _ hn hdeaf connId envelope rfl hclosed
    exact idle_of_ignores hn (hdeaf connId envelope rfl hclosed)
  · intro h
    refine h.imp (numbered_create deps) (fun _ e hn _ => numbered_step hn e) ?_
    rintro st _ - hunheard connId envelope rfl hclosed
    exact ignores_of_idle hclosed (hunheard connId envelope rfl hclosed)

/-- Carol sends a frame that is no envelope, for which the server closes her connection, and then
authenticates. -/
def carolAfterClose : List Event :=
  [.openSocket (js "c"), .message (js "c") none]

/-- The closed connection is authenticated and registered. -/
theorem carol_heard :
    ¬(∀ deps es, Machine.Along step Deaf (create deps) es) ∧
      ((Machine.run step (create { nodeId := js "n" })
        (carolAfterClose ++ joins (js "c") (js "carol") 1)).peerLocator.getByConnId
          (js "c")).isSome = true := by
  refine ⟨fun h => ?_, rfl⟩
  have hlast := (Machine.along_append.1 (h { nodeId := js "n" }
    (carolAfterClose ++ [.message (js "c") (some authMessage)]))).2.1
  have hcalls := congrArg (fun frame => frame.calls.size) (hlast _ _ rfl rfl).frame
  exact absurd hcalls (by decide)

end WebSocketRuntime

end Hardess
