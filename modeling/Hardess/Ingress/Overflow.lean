import Hardess.Ingress.Identity

/-!
# Overflow and the connections that are closed for it

* `Tidy`: every connection that is closed has overflowed;
* `Blameless`: an event in which a connection overflows closes, a stale one aside, only connections
  that overflowed, and so does the answer of another node that failed;
* `Spares`: no acknowledgement fails at the connection of a sender while the recipient's own
  connection is open;
* `blameless_iff`: in every run the events are blameless exactly when they spare the recipients.
-/

namespace Hardess

namespace WebSocketRuntime

variable {st s s' s'' : WebSocketRuntime}

/-- A message for the connection failed. -/
def Overflowed (connId : JsString) (effects : List Effect) : Prop :=
  ∃ error, .overflowed connId error ∈ effects

/-- No message failed. -/
def Calm (effects : List Effect) : Prop := ∀ connId, ¬Overflowed connId effects

/-- Every connection that is closed has overflowed. -/
def Tidy (effects : List Effect) : Prop :=
  ∀ connId, Closes connId effects → Overflowed connId effects

/-- The answer of another node that failed. -/
def Event.Fails : Event → Prop
  | .resume _ (.relayed (.error _)) => True
  | .resume _ (.acked (.error _)) => True
  | _ => False

/-- A connection that the event closes has overflowed, or it was stale, or neither did a connection
overflow nor is the event the failure of another node. -/
def Blameless (st : WebSocketRuntime) (e : Event) : Prop :=
  ∀ connId code reason, .egress connId (.close code reason) ∈ (st.step e).effects →
    Overflowed connId (st.step e).effects ∨ (e = .heartbeat ∧ code = 4408) ∨
      (Calm (st.step e).effects ∧ ¬e.Fails)

/-- The acknowledgement that a recipient sends does not fail at the connection of the sender, unless
the recipient's own connection is closed or is that of the sender. -/
def Spares (st : WebSocketRuntime) (e : Event) : Prop :=
  ∀ id connId message ackFor sender, e = .resume id (.valid true) →
    st.calls.get id = some (.acking connId message ackFor sender) → sender ≠ connId →
    st.objects.has connId = true → st.isClosed connId = false →
    st.enqueueError sender (.handleAck connId ackFor message.traceId) = none

/-! ### Lists of effects -/

theorem overflowed_append {connId : JsString} {new new' : List Effect} :
    Overflowed connId (new ++ new') ↔ Overflowed connId new ∨ Overflowed connId new' := by
  simp only [Overflowed, List.mem_append, exists_or]

theorem Tidy.append {new new' : List Effect} (h : Tidy new) (h' : Tidy new') :
    Tidy (new ++ new') := fun connId hc =>
  overflowed_append.2 ((closes_append.1 hc).imp (h connId) (h' connId))

/-- What is new in a state is tidy. -/
def Tidies (s s' : WebSocketRuntime) : Prop :=
  ∃ new, s'.effects = s.effects ++ new ∧ Tidy new

namespace Tidies

theorem of_eq (h : s'.effects = s.effects) : Tidies s s' :=
  ⟨[], by simpa using h, fun _ hc => by simp [Closes] at hc⟩

theorem trans (h : Tidies s s') (h' : Tidies s' s'') : Tidies s s'' := by
  obtain ⟨new, hnew, ht⟩ := h
  obtain ⟨new', hnew', ht'⟩ := h'
  exact ⟨new ++ new', by rw [hnew', hnew, List.append_assoc], ht.append ht'⟩

theorem emit {x : Effect} (hx : ∀ connId code reason, x ≠ .egress connId (.close code reason)) :
    Tidies s (s.emit x) := by
  refine ⟨[x], rfl, ?_⟩
  rintro connId ⟨code, reason, hmem⟩
  exact absurd (List.mem_singleton.1 hmem).symm (hx connId code reason)

theorem tidy (h : Tidies s s') (hs : s.effects = []) : Tidy s'.effects := by
  obtain ⟨new, hnew, ht⟩ := h
  rwa [hnew, hs, List.nil_append]

end Tidies

/-! ### What is tidy -/

/-- What the queue of a connection closes. -/
theorem closes_egress {connId connId' : JsString} {new : List (EgressEffect OutboundMessage)}
    (h : Closes connId' (new.map (.egress connId))) :
    connId' = connId ∧ ∃ code reason, .close code reason ∈ new := by
  obtain ⟨code, reason, hmem⟩ := h
  obtain ⟨x, hx, heq⟩ := List.mem_map.1 hmem
  cases heq
  exact ⟨rfl, code, reason, hx⟩

/-- A message closes its connection only by overflow. -/
theorem enqueueOutbound_tidies (connId : JsString) (message : OutboundMessage) :
    ∃ new, (s.enqueueOutbound connId message).1.effects = s.effects ++ new ∧ Tidy new ∧
      ((s.enqueueOutbound connId message).2 ≠ none → Overflowed connId new) := by
  unfold enqueueOutbound
  cases hc : s.objects.get connId with
  | none => exact ⟨[], by simp, fun _ h => by simp [Closes] at h, fun h => absurd rfl h⟩
  | some connection =>
    have hclose := @Outbox.enqueueOutbound_close OutboundMessage s.deps.outbound
      (s.deps.wire connId) connection.egress message (s.deps.bytes message)
    dsimp only
    by_cases hclosed : connection.egress.closed = true
    · rw [if_pos hclosed]
      refine ⟨[], ?_, fun _ h => by simp [Closes] at h, fun h => absurd rfl h⟩
      simp [modifyEgress, Outbox.enqueueOutbound_of_closed hclosed]
    · rw [if_neg hclosed]
      generalize connection.egress.enqueueOutbound s.deps.outbound (s.deps.wire connId) message
        (s.deps.bytes message) = result at hclose
      obtain ⟨egress, error, effects⟩ := result
      cases error with
      | none =>
        refine ⟨effects.map (.egress connId) ++ [.enqueued connId message],
          by simp [emit, modifyEgress], Tidy.append ?_ ?_, fun h => absurd rfl h⟩
        · intro connId' h
          obtain ⟨-, code, reason, hmem⟩ := closes_egress h
          -- an outbox that closes reports an error
          obtain ⟨error, hsome⟩ := hclose hmem
          cases hsome
        · intro connId' h
          simp [Closes] at h
      | some error =>
        refine ⟨effects.map (.egress connId) ++ [.overflowed connId error],
          by simp [emit, modifyEgress], ?_, fun _ => ⟨error, by simp⟩⟩
        intro connId' h
        rcases closes_append.1 h with h | h
        · rw [(closes_egress h).1]
          exact ⟨error, by simp⟩
        · simp [Closes] at h

theorem Tidies.enqueueOutbound (connId : JsString) (message : OutboundMessage) :
    Tidies s (s.enqueueOutbound connId message).1 :=
  (enqueueOutbound_tidies connId message).imp fun _ h => ⟨h.1, h.2.1⟩

/-- An error without a close code closes nothing. -/
theorem catchError_tidies (connId : JsString) (message : Envelope) {thrown : Thrown}
    (h : closeCodeForError thrown.normalized = none) :
    Tidies s (s.catchError connId message thrown) := by
  unfold catchError
  dsimp only
  rw [h]
  exact .emit (by simp)

/-- The error of a connection that overflowed closes nothing else. -/
theorem catchError_after {connId : JsString} {new : List Effect}
    (h : s'.effects = s.effects ++ new) (ht : Tidy new) (ho : Overflowed connId new)
    (message : Envelope) (thrown : Thrown) : Tidies s (s'.catchError connId message thrown) := by
  obtain ⟨new', hnew', hreports, -⟩ := (@catchError_keeps s' connId message thrown).effects
  refine ⟨new ++ new', by rw [hnew', h, List.append_assoc], ?_⟩
  rintro connId' ⟨code, reason, hmem⟩
  rcases List.mem_append.1 hmem with hmem | hmem
  · exact overflowed_append.2 (.inl (ht connId' ⟨code, reason, hmem⟩))
  · have heq : connId' = connId := hreports _ hmem
    rw [heq]
    exact overflowed_append.2 (.inl ho)

/-- A reply to the sender of a message closes the sender's connection only by overflow. -/
theorem enqueueOrCatch_tidies (connId : JsString) (message : Envelope)
    (outbound : OutboundMessage) :
    Tidies s (s.enqueueOrCatch connId message connId outbound) := by
  obtain ⟨new, hnew, htidy, hfail⟩ := @enqueueOutbound_tidies s connId outbound
  unfold enqueueOrCatch
  split
  · rename_i s₁ heq
    rw [heq] at hnew
    exact ⟨new, hnew, htidy⟩
  · rename_i s₁ error heq
    rw [heq] at hnew hfail
    exact catchError_after hnew htidy (hfail (by simp)) message _

theorem finishSend_tidies (send : SendCall) (delivered : List ConnRef) :
    Tidies s (s.finishSend send delivered) := by
  unfold finishSend
  generalize hs : (if send.ack = .none then s
    else s.setPendingHandleAck send.envelope.msgId send.senderRef
      (s.now + s.deps.pendingTtl)) = s₁
  have hpend : Tidies s s₁ := by
    rw [← hs]
    split_ifs <;> exact .of_eq rfl
  refine hpend.trans ?_
  obtain ⟨new, hnew, htidy, hfail⟩ := @enqueueOutbound_tidies s₁ send.sender
    (.route send.peerIds delivered send.envelope.traceId)
  dsimp only
  split
  · rename_i s₂ error heq
    rw [heq] at hnew hfail
    exact catchError_after hnew htidy (hfail (by simp)) _ _
  · rename_i s₂ heq
    rw [heq] at hnew
    have hroute : Tidies s₁ s₂ := ⟨new, hnew, htidy⟩
    split_ifs
    · exact hroute.trans (enqueueOrCatch_tidies _ _ _)
    · exact hroute

theorem attemptDone_tidies (id : ℕ) (send : SendCall) (delivered : List ConnRef) :
    Tidies s (s.attemptDone id send delivered) := by
  unfold attemptDone
  split_ifs
  · exact catchError_tidies _ _ rfl
  · obtain ⟨call, -, heq⟩ := @findNext_cases s id { send with retry := true }
      ((s.authOf send.sender).bind (·.groupId)) [] send.peerIds.eraseDups
    rw [show s.startAttempt id { send with retry := true } = s.await id call from heq]
    exact .of_eq rfl
  · exact finishSend_tidies send delivered

theorem relayNext_tidies (id : ℕ) (send : SendCall) (delivered : List ConnRef)
    (nodes : List (JsString × List ConnRef)) :
    Tidies s (s.relayNext id send delivered nodes) := by
  rcases @relayNext_cases s id send delivered nodes with ⟨nodeId, targets, rest, heq⟩ | heq <;>
    rw [heq]
  · exact .emit (by simp)
  · exact attemptDone_tidies id send delivered

theorem serveTargets_tidies (id : ℕ) (send : SendCall) (delivered : List ConnRef)
    (remote : JsMap JsString (List ConnRef)) (targets : List ConnRef) :
    Tidies s (s.serveTargets id send delivered remote targets) := by
  rcases @serveTargets_cases s id send delivered remote targets with
    ⟨remote', target, rest, -, -, -, heq⟩ | ⟨nodes, heq⟩ <;> rw [heq]
  · exact .of_eq rfl
  · exact relayNext_tidies id send delivered nodes

theorem serveTarget_tidies (id : ℕ) (send : SendCall) (delivered : List ConnRef)
    (remote : JsMap JsString (List ConnRef)) (target : ConnRef) (rest : List ConnRef) (ok : Bool) :
    Tidies s (s.serveTarget id send delivered remote target rest ok) := by
  unfold serveTarget
  split_ifs
  · have htidy := @Tidies.enqueueOutbound s target.connId
      (.envelope { send.envelope with src := s.sourceOf send })
    split
    · rename_i s₁ heq
      rw [heq] at htidy
      exact htidy.trans (serveTargets_tidies ..)
    · rename_i s₁ error heq
      rw [heq] at htidy
      exact htidy.trans (serveTargets_tidies ..)
  · exact serveTargets_tidies ..

theorem deliverNext_tidies (id : ℕ) (request : DeliverRequest) (startedAt : ℕ)
    (delivered targets : List ConnRef) :
    Tidies s (s.deliverNext id request startedAt delivered targets) := by
  rcases @deliverNext_cases s id request startedAt delivered targets with
    ⟨target, rest, -, -, -, heq⟩ | heq <;> rw [heq]
  · exact .of_eq rfl
  · rw [deliverNext]
    refine Tidies.trans (.of_eq ?_) (.emit (by simp))
    split_ifs <;> rfl

theorem deliverTarget_tidies (id : ℕ) (request : DeliverRequest) (startedAt : ℕ)
    (delivered : List ConnRef) (target : ConnRef) (rest : List ConnRef) (ok : Bool) :
    Tidies s (s.deliverTarget id request startedAt delivered target rest ok) := by
  unfold deliverTarget
  cases ok with
  | false => exact deliverNext_tidies ..
  | true =>
    simp only [if_true]
    generalize hs : (if request.ack = .none then s
      else s.setPendingHandleAck request.envelope.msgId request.sender
        (startedAt + s.deps.pendingTtl)) = s₁
    have hpend : Tidies s s₁ := by
      rw [← hs]
      split_ifs <;> exact .of_eq rfl
    have htidy := hpend.trans (.enqueueOutbound target.connId (.envelope request.envelope))
    split
    · rename_i s₂ heq
      rw [heq] at htidy
      exact htidy.trans (deliverNext_tidies ..)
    · rename_i s₂ error heq
      rw [heq] at htidy
      exact htidy.trans (.emit (by simp))

/-! ### What is calm -/

/-- What is new in a state is calm. -/
def Calms (s s' : WebSocketRuntime) : Prop := ∃ new, s'.effects = s.effects ++ new ∧ Calm new

theorem Keeps.calms {P : Effect → Prop} (k : Keeps P s s')
    (hP : ∀ connId error, ¬P (.overflowed connId error)) : Calms s s' := by
  obtain ⟨new, hnew, hp, -⟩ := k.effects
  exact ⟨new, hnew, fun connId ⟨error, hmem⟩ => hP connId error (hp _ hmem)⟩

theorem Calms.of_eq (h : s'.effects = s.effects) : Calms s s' :=
  ⟨[], by simpa using h, fun _ ⟨_, hmem⟩ => by cases hmem⟩

theorem Calms.trans (h : Calms s s') (h' : Calms s' s'') : Calms s s'' := by
  obtain ⟨new, hnew, hc⟩ := h
  obtain ⟨new', hnew', hc'⟩ := h'
  exact ⟨new ++ new', by rw [hnew', hnew, List.append_assoc], fun connId ho =>
    (overflowed_append.1 ho).elim (hc connId) (hc' connId)⟩

theorem Calms.emit {x : Effect} (hx : ∀ connId error, x ≠ .overflowed connId error) :
    Calms s (s.emit x) :=
  ⟨[x], rfl, fun connId ⟨error, hmem⟩ => hx connId error (List.mem_singleton.1 hmem).symm⟩

theorem Calms.catchError (connId : JsString) (message : Envelope) (thrown : Thrown) :
    Calms s (s.catchError connId message thrown) :=
  (catchError_keeps connId message thrown).calms fun _ _ h => h

theorem Calms.closeConnection (connId : JsString) (code : ℕ) (reason : JsString) :
    Calms s (s.closeConnection connId code reason) :=
  (closeConnection_keeps connId code reason).calms fun _ _ h => h

theorem startHandleAck_calms (id : ℕ) (connId : JsString) (message : Envelope) :
    Calms s (s.startHandleAck id connId message) := by
  unfold startHandleAck
  split_ifs
  · exact .catchError _ _ _
  · split
    · exact .catchError _ _ _
    · rename_i ackFor _
      have hdel : Calms s (s.deletePendingHandleAck ackFor) := .of_eq rfl
      dsimp only
      split
      · exact hdel.trans (.catchError _ _ _)
      · refine hdel.trans ?_
        unfold forwardAck
        split_ifs
        · exact .emit (by simp)
        · exact .catchError _ _ _
        · exact .of_eq rfl
        · exact .catchError _ _ _

theorem startBusinessMessage_calms (id : ℕ) (connId : JsString) (message : Envelope) :
    Calms s (s.startBusinessMessage id connId message) := by
  unfold startBusinessMessage
  split_ifs
  · exact .catchError _ _ _
  · split
    · exact .catchError _ _ _
    · exact .of_eq rfl

/-! ### What an event does -/

/-- What the event did is tidy, or calm and not the failure of another node. -/
def Fair (e : Event) (s s' : WebSocketRuntime) : Prop := Tidies s s' ∨ Calms s s' ∧ ¬e.Fails

theorem handleSystemMessage_fair (id : ℕ) (connId connId' : JsString) (message : Envelope)
    (envelope : Option Envelope) :
    Fair (.message connId' envelope) s (s.handleSystemMessage id connId message) := by
  unfold handleSystemMessage
  split_ifs
  · refine .inr ⟨?_, not_false⟩
    unfold startAuth
    split_ifs
    · exact .catchError _ _ _
    · split
      · exact .catchError _ _ _
      · exact .of_eq rfl
  · unfold handlePing
    split
    · exact .inr ⟨.catchError _ _ _, not_false⟩
    · exact .inl ((Tidies.of_eq effects_modify).trans (enqueueOrCatch_tidies _ _ _))
  · refine .inr ⟨?_, not_false⟩
    unfold handlePong
    split
    · exact .catchError _ _ _
    · exact .of_eq effects_modify
  · exact .inr ⟨startHandleAck_calms .., not_false⟩
  · exact .inr ⟨.catchError _ _ _, not_false⟩

theorem message_fair (id : ℕ) (connId : JsString) (envelope : Option Envelope) :
    Fair (.message connId envelope) s (s.message id connId envelope) := by
  unfold WebSocketRuntime.message
  split
  · exact .inl (.of_eq rfl)
  · rename_i connection _
    dsimp only
    split_ifs
    · refine .inr ⟨?_, not_false⟩
      exact ((Calms.of_eq effects_modify).trans (.emit (by simp))).trans (.closeConnection _ _ _)
    · have htouch (f : ConnectionState → ConnectionState) :
          (s.modify connId f).effects = s.effects := effects_modify
      split
      · refine .inr ⟨?_, not_false⟩
        exact ((Calms.of_eq (htouch _)).trans (.emit (by simp))).trans (.closeConnection _ _ _)
      · split
        · exact (handleSystemMessage_fair ..).imp (Tidies.of_eq (htouch _)).trans
            (And.imp_left (Calms.of_eq (htouch _)).trans)
        · exact .inr ⟨(Calms.of_eq (htouch _)).trans (startBusinessMessage_calms ..), not_false⟩

theorem finishAuth_fair (id : ℕ) (connId : JsString) (message : Envelope) (auth : AuthContext) :
    Fair (.resume id (.authenticated (.ok auth))) s (s.finishAuth connId message auth) := by
  unfold finishAuth
  split_ifs
  · exact .inr ⟨.catchError _ _ _, not_false⟩
  · exact .inl ((Tidies.of_eq effects_modify).trans (enqueueOrCatch_tidies _ _ _))

theorem acknowledgeLocally_tidies (connId : JsString) (message : Envelope) (ack : AckMode) :
    Tidies s (s.acknowledgeLocally connId message ack) := by
  unfold acknowledgeLocally
  by_cases ha : ack = .none
  · rw [if_pos ha]
    exact .of_eq rfl
  · rw [if_neg ha]
    obtain ⟨new, hnew, htidy, hfail⟩ := @enqueueOutbound_tidies s connId
      (.recvAck message.msgId message.traceId)
    split
    · rename_i s₁ error heq
      rw [heq] at hnew hfail
      exact catchError_after hnew htidy (hfail (by simp)) _ _
    · rename_i s₁ heq
      rw [heq] at hnew
      have hrecv : Tidies s s₁ := ⟨new, hnew, htidy⟩
      split_ifs
      · exact hrecv.trans (enqueueOrCatch_tidies _ _ _)
      · exact hrecv

theorem afterHooks_tidies (id : ℕ) (connId : JsString) (message : Envelope) (auth : AuthContext)
    (result : HookResult) : Tidies s (s.afterHooks id connId message auth result) := by
  unfold afterHooks
  split_ifs
  · exact acknowledgeLocally_tidies ..
  · exact catchError_tidies _ _ rfl
  · obtain ⟨call, -, heq⟩ := @findNext_cases s id (s.startedSend connId message auth result)
      ((s.authOf connId).bind (·.groupId)) [] result.peerIds.eraseDups
    rw [show s.sendToPeerIds id connId message auth _ _ _ = s.await id call from heq]
    exact .of_eq rfl

/-- A connection that is closed, or was never opened, is not closed again. -/
theorem catchError_closed {connId : JsString}
    (h : s.objects.has connId = true → s.isClosed connId = true) (message : Envelope)
    (thrown : Thrown) : Tidies s (s.catchError connId message thrown) := by
  have hsend : Tidies s (s.socketSend connId
      (.err thrown.normalized (some message.msgId) message.traceId)) := .emit (by simp)
  unfold catchError
  dsimp only
  split
  · exact hsend
  · rename_i code _
    refine hsend.trans (.of_eq ?_)
    unfold WebSocketRuntime.closeConnection
    cases hc : (s.socketSend connId _).objects.get connId with
    | none => rfl
    | some connection =>
      have hget : s.objects.get connId = some connection := hc
      have hclosed : connection.egress.closed = true := by
        have := h (by simp [JsMap.has, hget])
        simpa [isClosed, hget] using this
      simp [Outbox.closeConnection, hclosed, modifyEgress]

/-- The acknowledgement of a recipient that spares it. -/
theorem acking_fair {connId sender : JsString} (message : Envelope) (outbound : OutboundMessage)
    (h : sender ≠ connId → s.objects.has connId = true → s.isClosed connId = false →
      s.enqueueError sender outbound = none) :
    Tidies s (s.enqueueOrCatch connId message sender outbound) := by
  by_cases heq : sender = connId
  · rw [heq]
    exact enqueueOrCatch_tidies connId message outbound
  · have htidy := @Tidies.enqueueOutbound s sender outbound
    have hkeeps := @enqueueOutbound_keeps s sender outbound
    have herror := @enqueueOutbound_error s sender outbound
    unfold enqueueOrCatch
    split
    · rename_i s₁ hs₁
      rwa [hs₁] at htidy
    · rename_i s₁ error hs₁
      rw [hs₁] at htidy hkeeps herror
      refine htidy.trans (catchError_closed (fun ho => ?_) message _)
      rw [hkeeps.opened] at ho
      by_contra hopen
      have hbefore : s.isClosed connId = false := by
        rw [← Bool.not_eq_true]
        exact fun hc => hopen (hkeeps.closed hc)
      rw [h heq ho hbefore] at herror
      cases herror

/-- What a call does with its answer. -/
theorem answer_fair {id : ℕ} {call : Call} {answer : Answer}
    (h : ∀ connId message ackFor sender, answer = .valid true →
      call = .acking connId message ackFor sender → sender ≠ connId →
      s.objects.has connId = true → s.isClosed connId = false →
      s.enqueueError sender (.handleAck connId ackFor message.traceId) = none) :
    Fair (.resume id answer) s (s.answer id call answer) := by
  unfold WebSocketRuntime.answer
  split
  · split
    · exact finishAuth_fair ..
    · exact .inr ⟨.catchError _ _ _, not_false⟩
  · split
    · exact .inl (.of_eq rfl)
    · exact .inr ⟨.catchError _ _ _, not_false⟩
    · exact .inr ⟨.catchError _ _ _, not_false⟩
  · split
    · exact .inl (afterHooks_tidies ..)
    · exact .inr ⟨.catchError _ _ _, not_false⟩
  · rename_i send groupId located rest
    obtain ⟨call', -, heq⟩ := @findNext_cases s id send groupId located rest
    rw [heq]
    exact .inl (.of_eq rfl)
  · exact .inl (serveTargets_tidies ..)
  · exact .inl (serveTarget_tidies ..)
  · split
    · exact .inl (relayNext_tidies ..)
    · exact .inl (relayNext_tidies ..)
  · split
    · exact .inl (.of_eq rfl)
    · exact .inl (catchError_tidies _ _ rfl)
  · rename_i connId message ackFor sender ok
    -- a connection that acknowledges is not closed for an overflow of the sender, by hypothesis
    cases ok with
    | true => exact .inl (acking_fair message _ (h _ _ _ _ rfl rfl))
    | false =>
      rw [if_neg Bool.false_ne_true]
      exact .inl (catchError_tidies _ _ rfl)
  · exact .inl (deliverTarget_tidies ..)
  · rename_i request ok
    refine .inl ?_
    unfold finishForward
    cases ok with
    | false => exact .emit (by simp)
    | true =>
      have htidy := @Tidies.enqueueOutbound s request.sender.connId
        (.handleAck (js "cluster") request.ackFor request.traceId)
      simp only [if_true]
      split
      · rename_i s₁ heq
        rw [heq] at htidy
        exact htidy.trans (.emit (by simp))
      · rename_i s₁ error heq
        rw [heq] at htidy
        exact htidy.trans (.emit (by simp))
  · exact .inl (.of_eq rfl)

/-- What the heartbeat closes is stale or has overflowed. -/
def Beats (s s' : WebSocketRuntime) : Prop :=
  ∃ new, s'.effects = s.effects ++ new ∧ ∀ connId code reason,
    .egress connId (.close code reason) ∈ new → Overflowed connId new ∨ code = 4408

theorem Beats.trans (h : Beats s s') (h' : Beats s' s'') : Beats s s'' := by
  obtain ⟨new, hnew, hb⟩ := h
  obtain ⟨new', hnew', hb'⟩ := h'
  refine ⟨new ++ new', by rw [hnew', hnew, List.append_assoc], fun connId code reason hmem => ?_⟩
  rw [overflowed_append]
  rcases List.mem_append.1 hmem with hmem | hmem
  · exact (hb connId code reason hmem).imp_left .inl
  · exact (hb' connId code reason hmem).imp_left .inr

theorem Tidies.beats (h : Tidies s s') : Beats s s' := by
  obtain ⟨new, hnew, ht⟩ := h
  exact ⟨new, hnew, fun connId code reason hmem => .inl (ht connId ⟨code, reason, hmem⟩)⟩

theorem heartbeat_beats (connId : JsString) : Beats s (s.heartbeat connId) := by
  unfold heartbeat
  split
  · exact (Tidies.of_eq rfl).beats
  · split_ifs
    · unfold WebSocketRuntime.closeConnection
      split
      · exact (Tidies.of_eq rfl).beats
      · rename_i connection _
        refine ⟨(connection.egress.closeConnection 4408 (js "heartbeat timeout")).2.map
          (.egress connId), by simp [modifyEgress], fun connId' code reason hmem => .inr ?_⟩
        obtain ⟨x, hx, heq⟩ := List.mem_map.1 hmem
        cases heq
        unfold Outbox.closeConnection at hx
        split_ifs at hx
        · cases hx
        · cases List.mem_singleton.1 hx
          rfl
    · exact ((Tidies.of_eq effects_modify).trans (.enqueueOutbound connId .ping)).beats
    · exact (Tidies.of_eq rfl).beats

theorem foldl_heartbeat_beats (connIds : List JsString) :
    ∀ s : WebSocketRuntime, Beats s (connIds.foldl (fun s connId => s.heartbeat connId) s) := by
  induction connIds with
  | nil => exact fun s => (Tidies.of_eq rfl).beats
  | cons connId connIds ih => exact fun s => (heartbeat_beats connId).trans (ih _)

theorem forceClose_calms (code : ℕ) (reason : JsString) (connIds : List JsString)
    (s : WebSocketRuntime) :
    Calms s (connIds.foldl (fun s connId => s.closeConnection connId code reason) s) :=
  (foldl_keeps (P := fun x => ∃ connId, Effect.Reports connId x) (fun _ connId =>
    (closeConnection_keeps connId code reason).mono fun _ h => ⟨connId, h⟩) connIds s).calms
    fun _ _ ⟨_, h⟩ => h

theorem queueEvent_calms (connId : JsString) (event : Outbox.Event OutboundMessage) :
    Calms s (s.queueEvent connId event) := by
  unfold queueEvent
  split
  · exact .of_eq rfl
  · rename_i connection _
    refine ⟨(connection.egress.step s.deps.outbound (s.deps.wire connId) event).2.map
      (.egress connId), by simp [modifyEgress], ?_⟩
    rintro connId' ⟨error, hmem⟩
    obtain ⟨x, -, heq⟩ := List.mem_map.1 hmem
    cases heq

theorem deliverCluster_tidies (id : ℕ) (request : DeliverRequest) :
    Tidies s (s.deliverCluster id request) := by
  unfold WebSocketRuntime.deliverCluster
  split_ifs
  · exact .emit (by simp)
  · exact .emit (by simp)
  · have hprune : Tidies s s.prunePendingHandleAcks.pruneRecentClusterDeliveries := .of_eq rfl
    dsimp only
    split
    · exact hprune.trans (.emit (by simp))
    · exact hprune.trans (deliverNext_tidies ..)

/-- An event that is no heartbeat and spares the recipients is fair. -/
theorem step_fair {e : Event} (h : st.Spares e) (he : e ≠ .heartbeat) :
    Fair e st.cleared (st.step e) := by
  cases e with
  | advance ms => exact .inl (.of_eq rfl)
  | openSocket connId =>
    refine .inr ⟨?_, not_false⟩
    show Calms _ (st.cleared.openSocket connId)
    unfold WebSocketRuntime.openSocket
    split_ifs
    · exact .of_eq rfl
    · exact .emit (by simp)
    · exact .emit (by simp)
    · exact (Calms.emit (by simp)).trans (.emit (by simp))
    · exact .of_eq rfl
  | message connId envelope =>
    exact (message_fair (s := { st.cleared with nextCall := st.nextCall + 1 }) st.nextCall connId
      envelope)
  | closeSocket connId =>
    refine .inl (.of_eq ?_)
    show (st.cleared.closeSocket connId).effects = _
    unfold WebSocketRuntime.closeSocket
    dsimp only
    split_ifs
    · exact effects_modify
    · rfl
  | resume id answer =>
    cases hc : st.calls.get id with
    | none =>
      refine .inl (.of_eq ?_)
      show (st.cleared.resume id answer).effects = _
      unfold resume
      rw [show st.cleared.calls.get id = none from hc]
    | some call =>
      rw [step_resume hc]
      refine answer_fair (s := { st.cleared with calls := st.calls.delete id }) ?_
      rintro connId message ackFor sender rfl rfl hne ho hopen
      exact h id connId message ackFor sender rfl hc hne ho hopen
  | drain connId => exact .inr ⟨queueEvent_calms connId _, not_false⟩
  | drainTimer connId => exact .inr ⟨queueEvent_calms connId _, not_false⟩
  | heartbeat => exact absurd rfl he
  | beginShutdown =>
    refine .inr ⟨?_, not_false⟩
    show Calms _ st.cleared.beginShutdown
    unfold WebSocketRuntime.beginShutdown
    dsimp only
    split_ifs
    · exact .of_eq rfl
    · exact (Calms.of_eq rfl).trans (forceClose_calms ..)
    · exact .of_eq rfl
  | shutdownTimer =>
    refine .inr ⟨?_, not_false⟩
    show Calms _ st.cleared.shutdownTimerFired
    unfold shutdownTimerFired
    split_ifs
    · exact (Calms.of_eq rfl).trans (forceClose_calms ..)
    · exact .of_eq rfl
  | dispose =>
    refine .inr ⟨?_, not_false⟩
    show Calms _ st.cleared.dispose
    unfold WebSocketRuntime.dispose
    split_ifs
    · exact .of_eq rfl
    · exact (forceClose_calms 1001 _ st.cleared.connections st.cleared).trans (.of_eq rfl)
  | deliverCluster request =>
    exact .inl (deliverCluster_tidies (s := { st.cleared with nextCall := st.nextCall + 1 })
      st.nextCall request)
  | forwardClusterHandleAck request =>
    refine .inl ?_
    show Tidies _ (WebSocketRuntime.forwardClusterHandleAck _ st.nextCall request)
    unfold WebSocketRuntime.forwardClusterHandleAck
    dsimp only
    split_ifs
    · exact .of_eq rfl
    · exact (Tidies.of_eq rfl).trans (.emit (by simp))

/-- An event that spares the recipients is blameless. -/
theorem blameless_of_spares {e : Event} (h : st.Spares e) : st.Blameless e := by
  intro connId code reason hmem
  by_cases he : e = .heartbeat
  · subst he
    have hbeats : Beats st.cleared (st.step .heartbeat) := by
      show Beats _ (if st.cleared.disposed then _ else _)
      split_ifs
      · exact (Tidies.of_eq rfl).beats
      · exact (Tidies.of_eq rfl).beats.trans (foldl_heartbeat_beats _ _)
    obtain ⟨new, hnew, hb⟩ := hbeats
    rw [hnew, show st.cleared.effects = [] from rfl, List.nil_append] at hmem ⊢
    exact (hb connId code reason hmem).imp_right fun hcode => .inl ⟨rfl, hcode⟩
  · rcases step_fair h he with ht | ⟨⟨new, hnew, hc⟩, hf⟩
    · exact .inl (ht.tidy rfl connId ⟨code, reason, hmem⟩)
    · rw [hnew, show st.cleared.effects = [] from rfl, List.nil_append] at hmem ⊢
      exact .inr (.inr ⟨hc, hf⟩)

/-- An open connection is closed for the overflow of another one, when the error of a message for
that one is reported to it. -/
theorem enqueueOrCatch_blames {connId target : JsString} {outbound : OutboundMessage}
    {error : EgressError} (hne : target ≠ connId) (ho : s.objects.has connId = true)
    (hopen : s.isClosed connId = false) (herror : s.enqueueError target outbound = some error)
    (message : Envelope) :
    ∃ new, (s.enqueueOrCatch connId message target outbound).effects = s.effects ++ new ∧
      Overflowed target new ∧ ¬Overflowed connId new ∧
      .egress connId (.close 4508 (js "BACKPRESSURE_OVERFLOW")) ∈ new := by
  have hkeeps := @enqueueOutbound_keeps s target outbound
  obtain ⟨new₁, hnew₁, hcarries, hcloses⟩ := hkeeps.effects
  obtain ⟨new₁', hnew₁', -, hfail⟩ := @enqueueOutbound_tidies s target outbound
  obtain rfl : new₁' = new₁ := List.append_cancel_left (hnew₁'.symm.trans hnew₁)
  have hsome := (@enqueueOutbound_error s target outbound).trans herror
  unfold enqueueOrCatch
  generalize s.enqueueOutbound target outbound = result at *
  obtain ⟨s₁, error'⟩ := result
  obtain rfl : error' = some error := hsome
  -- the overflow has closed the target only
  have hstill : s₁.isClosed connId = false := by
    rw [← Bool.not_eq_true, hcloses, hopen]
    rintro (hfalse | ⟨code, reason, hmem⟩)
    · cases hfalse
    · exact hne (show connId = target from hcarries _ hmem).symm
  obtain ⟨new₂, hnew₂, hreports, -⟩ :=
    (@catchError_keeps s₁ connId message (.hardess error.toHardessError)).effects
  refine ⟨new₁' ++ new₂, by rw [hnew₂, hnew₁, List.append_assoc],
    overflowed_append.2 (.inl (hfail (by simp))), ?_, ?_⟩
  · rw [overflowed_append]
    rintro (⟨error'', hmem⟩ | ⟨error'', hmem⟩)
    · exact hne (show connId = target from hcarries _ hmem).symm
    · exact (hreports _ hmem).elim
  · have heffects : (s₁.catchError connId message (.hardess error.toHardessError)).effects =
        (s₁.socketSend connId (.err error.toHardessError (some message.msgId)
          message.traceId)).effects ++ [.egress connId (.close 4508 (js "BACKPRESSURE_OVERFLOW"))] :=
      @closeConnection_effects (s₁.socketSend connId _) connId
        ((hkeeps.opened connId).trans ho) hstill 4508 _
    rw [hnew₂, show (s₁.socketSend connId _).effects = s₁.effects ++ _ from rfl,
      List.append_assoc] at heffects
    rw [List.append_cancel_left heffects]
    simp

/-- A recipient that is not spared is closed for the overflow of the sender. -/
theorem spares_of_blameless {e : Event} (h : st.Blameless e) : st.Spares e := by
  rintro id connId message ackFor sender rfl hcall hne ho hopen
  by_contra hfail
  obtain ⟨error, herror⟩ := Option.ne_none_iff_exists'.1 hfail
  obtain ⟨new, hnew, hover, hown, hclose⟩ := enqueueOrCatch_blames
    (s := { st.cleared with calls := st.calls.delete id }) hne ho hopen herror message
  have hstep : (st.step (.resume id (.valid true))).effects = new := by
    rw [step_resume hcall]
    exact hnew
  rw [← hstep] at hover hown hclose
  rcases h connId 4508 _ hclose with hself | ⟨hbeat, -⟩ | ⟨hcalm, -⟩
  · exact hown hself
  · cases hbeat
  · exact hcalm sender hover

/-- **In every run the events close connections for their own overflow only, exactly when each of
them spares the recipients that acknowledge.** -/
theorem blameless_iff (deps : WebSocketRuntimeDeps) (es : List Event) :
    Machine.Along step Blameless (create deps) es ↔ Machine.Along step Spares (create deps) es :=
  ⟨fun h => h.mono fun _ _ => spares_of_blameless, fun h => h.mono fun _ _ => blameless_of_spares⟩

/-- The socket of Alice drops the fourth message. -/
def alicesSocketDrops : WebSocketRuntimeDeps where
  nodeId := js "n"
  wire connId k := if connId = js "a" ∧ k = 3 then { status := .dropped } else {}

/-- Bob gets Alice's message and acknowledges it. -/
def bobAcknowledges : List Event :=
  bobGetsIt ++ [.message (js "b") (some (clientMessage .system (js "handleAck") (js "k")
    (some (.obj [(js "ackFor", .str (js "m"))]))))]

/-- Bob's connection is closed, since Alice's overflows with his acknowledgement. -/
theorem bob_blamed : ¬∀ deps es, Machine.Along step Blameless (create deps) es := by
  intro h
  have hlast := (Machine.along_append.1
    (h alicesSocketDrops (bobAcknowledges ++ [.resume 3 (.valid true)]))).2.1
  have hothers : ((step (Machine.run step (create alicesSocketDrops) bobAcknowledges)
      (.resume 3 (.valid true))).effects.all fun
        | .overflowed connId _ => connId ≠ js "b"
        | _ => true) = true := rfl
  rcases hlast (js "b") 4508 (js "BACKPRESSURE_OVERFLOW") (List.mem_of_getElem? (i := 4) rfl) with
    ⟨error, hmem⟩ | ⟨hbeat, -⟩ | ⟨hcalm, -⟩
  · exact absurd (List.all_eq_true.1 hothers _ hmem) (by simp)
  · cases hbeat
  · exact hcalm (js "a") ⟨.sendDropped, List.mem_of_getElem? (i := 2) rfl⟩

end WebSocketRuntime

end Hardess
