import Hardess.Ingress.HeardFrames
import Hardess.Ingress.Registrations

/-!
# The contexts that the hub grants

The `sys.auth` of `src/runtime/ingress/websocket.ts`, from the message to the answer of the service.

* `Asks`: what the calls that ask for a context meet;
* **`asks_step`**: an open connection asks for a context with a `sys.auth` that is well formed;
* **`granted_step`**: a context is granted to the connection that asked for it, which has it then.
-/

namespace Hardess

namespace WebSocketRuntime

variable {P : ℕ → JsString → Envelope → Prop} {R : Effect → Prop} {st s : WebSocketRuntime} {id : ℕ}
  {connId : JsString}

/-- The message is a `sys.auth` whose payload is well formed. -/
def AsksWith (message : Envelope) (payload : SysAuthPayload) : Prop :=
  message.kind = .system ∧ message.action = js "auth" ∧
    sysAuthPayloadSchema message.payload = some payload

/-- What the calls that ask for a context meet. -/
def Asks (P : ℕ → JsString → Envelope → Prop) (st : WebSocketRuntime) : Prop :=
  ∀ id connId message, st.calls.get id = some (.authenticating connId message) →
    P id connId message

namespace Asks

theorem keeps (h : st.Asks P) (k : Keeps R st s) : s.Asks P := by
  unfold Asks
  rw [k.calls]
  exact h

theorem await (h : st.Asks P) {call : Call}
    (hcall : ∀ connId message, call = .authenticating connId message → P id connId message) :
    (st.await id call).Asks P := by
  intro id' connId message hget
  rw [show (st.await id call).calls = st.calls.set id call from rfl, JsMap.get_set] at hget
  split_ifs at hget with heq
  · exact heq ▸ hcall _ _ (Option.some.inj hget)
  · exact h id' connId message hget

theorem modify (h : st.Asks P) {f : ConnectionState → ConnectionState}
    (ha : ∀ connection, (f connection).auth = connection.auth)
    (he : ∀ connection, (f connection).egress = connection.egress) :
    (st.modify connId f).Asks P :=
  h.keeps (modify_keeps (P := fun _ => False) ha he)

theorem startAuth (h : st.Asks P) {message : Envelope}
    (hP : ∀ payload, sysAuthPayloadSchema message.payload = some payload →
      P id connId message) : (st.startAuth id connId message).Asks P := by
  unfold WebSocketRuntime.startAuth
  split_ifs
  · exact h.keeps (catchError_keeps _ _ _)
  · split
    · exact h.keeps (catchError_keeps _ _ _)
    · rename_i payload hpayload
      refine h.await fun connId' message' heq => ?_
      cases heq
      exact hP payload hpayload

theorem handlePing (h : st.Asks P) (message : Envelope) :
    (st.handlePing connId message).Asks P := by
  unfold WebSocketRuntime.handlePing
  split
  · exact h.keeps (catchError_keeps _ _ _)
  · refine (h.modify ?_ ?_).keeps (enqueueOrCatch_keeps _ _ _ _)
    · exact fun _ => rfl
    · exact fun _ => rfl

theorem handlePong (h : st.Asks P) (message : Envelope) :
    (st.handlePong connId message).Asks P := by
  unfold WebSocketRuntime.handlePong
  split
  · exact h.keeps (catchError_keeps _ _ _)
  · exact h.modify (fun _ => rfl) fun _ => rfl

theorem forwardAck (h : st.Asks P) (message : Envelope) (ackFor : JsString) (senderRef : ConnRef) :
    (st.forwardAck id connId message ackFor senderRef).Asks P := by
  unfold WebSocketRuntime.forwardAck
  split_ifs
  · exact h.await fun _ _ heq => by cases heq
  · exact h.keeps (catchError_keeps _ _ _)
  · exact h.await fun _ _ heq => by cases heq
  · exact h.keeps (catchError_keeps _ _ _)

theorem startHandleAck (h : st.Asks P) (message : Envelope) :
    (st.startHandleAck id connId message).Asks P := by
  have hdelete {ackFor : JsString} : (st.deletePendingHandleAck ackFor).Asks P := h
  unfold WebSocketRuntime.startHandleAck
  split_ifs
  · exact h.keeps (catchError_keeps _ _ _)
  · split
    · exact h.keeps (catchError_keeps _ _ _)
    · dsimp only
      split
      · exact hdelete.keeps (catchError_keeps _ _ _)
      · exact hdelete.forwardAck _ _ _

theorem startBusinessMessage (h : st.Asks P) (message : Envelope) :
    (st.startBusinessMessage id connId message).Asks P := by
  unfold WebSocketRuntime.startBusinessMessage
  split_ifs
  · exact h.keeps (catchError_keeps _ _ _)
  · split
    · exact h.keeps (catchError_keeps _ _ _)
    · exact h.await fun _ _ heq => by cases heq

theorem handleSystemMessage (h : st.Asks P) {message : Envelope} (hkind : message.kind = .system)
    (hP : ∀ payload, AsksWith message payload → P id connId message) :
    (st.handleSystemMessage id connId message).Asks P := by
  unfold WebSocketRuntime.handleSystemMessage
  split_ifs with haction
  · exact h.startAuth fun payload hpayload => hP payload ⟨hkind, haction, hpayload⟩
  · exact h.handlePing message
  · exact h.handlePong message
  · exact h.startHandleAck message
  · exact h.keeps (catchError_keeps _ _ _)

theorem message (h : st.Asks P) {message : Envelope}
    (hP : ∀ payload, AsksWith message payload → P id connId message) :
    (st.message id connId (some message)).Asks P := by
  unfold WebSocketRuntime.message
  split
  · exact h
  · rename_i found _
    have htimes : (st.modify connId fun connection => { connection with
        lastSeenAt := st.now
        messageTimestamps := st.recentMessages found ++ [st.now] }).Asks P :=
      h.modify (fun _ => rfl) fun _ => rfl
    dsimp only
    split_ifs
    · refine (h.modify ?_ ?_).keeps ((socketSend_keeps _ _).trans (closeConnection_keeps _ _ _))
      · exact fun _ => rfl
      · exact fun _ => rfl
    · split
      · rename_i hkind
        exact htimes.handleSystemMessage hkind hP
      · exact htimes.startBusinessMessage message

end Asks

/-- **A connection of the table asks for a context with a `sys.auth` that is well formed.** -/
theorem asks_step (hn : st.Numbered) (e : Event) : (st.step e).Asks fun id connId message =>
    st.calls.get id = some (.authenticating connId message) ∨
      id = st.nextCall ∧ connId ∈ st.connections ∧ e = .message connId (some message) ∧
        ∃ payload, AsksWith message payload := by
  intro id connId message h
  rcases (step_handles st e).calls id _ h with hold | hstart
  · exact .inl hold
  refine .inr ?_
  cases hstart with
  | authenticating hc =>
    have hbefore : Asks (fun id _ _ => id = st.nextCall → ∃ payload, AsksWith message payload)
        { st.cleared with nextCall := st.nextCall + 1 } := fun id _ _ hget heq =>
      absurd heq (Nat.ne_of_lt (hn id _ hget))
    have hafter : (st.step (.message connId (some message))).Asks fun id _ _ =>
        id = st.nextCall → ∃ payload, AsksWith message payload :=
      hbefore.message fun payload hpayload _ => ⟨payload, hpayload⟩
    exact ⟨rfl, hc, rfl, hafter _ _ _ h rfl⟩
  | searching _ hs => exact hs.elim
  | found _ _ hs => exact hs.elim
  | continuing _ hc =>
    cases hc with
    | searching _ _ hs => exact hs.elim

/-! ### Answers -/

/-- Who asks for a context has been a connection. -/
def Askers (st : WebSocketRuntime) : Prop :=
  st.Asks fun _ connId _ => st.objects.has connId = true

theorem authOf_finishAuth {message : Envelope} {auth : AuthContext}
    (hq : st.peerQuotaExceeded connId auth.peerId = false)
    (hhas : st.objects.has connId = true) :
    (st.finishAuth connId message auth).authOf connId =
      some { auth with groupId := st.deps.hostGroupId } := by
  obtain ⟨connection, hget⟩ := Option.isSome_iff_exists.1 hhas
  rw [finishAuth_eq hq, (enqueueOrCatch_keeps _ _ _ _).authOf]
  change (st.modify connId _).authOf connId = _
  rw [authOf_modify, if_pos rfl, hget]
  rfl

/-- **A context is granted to the connection that asked for it, which has it then.** -/
theorem granted_step {Q : JsString → AuthContext → Prop} (h : st.Clear Q) (ha : st.Askers)
    {e : Event} (hfed : e.Fed) {auth : AuthContext} {traceId : Option JsString}
    (hmem : .send connId (.authOk auth traceId) ∈ (st.step e).effects ∨
      .enqueued connId (.authOk auth traceId) ∈ (st.step e).effects) :
    ∃ id message, e = .resume id (.authenticated (.ok auth)) ∧
      st.calls.get id = some (.authenticating connId message) ∧
      (st.step e).authOf connId = some { auth with groupId := st.deps.hostGroupId } := by
  have hstep := @clear_step (fun connId auth => ∃ id message,
    e = .resume id (.authenticated (.ok auth)) ∧
      st.calls.get id = some (.authenticating connId message)) st Q h e hfed
    fun id connId message auth he hget => ⟨id, message, he, hget⟩
  obtain ⟨id, message, rfl, hget⟩ : ∃ id message, e = .resume id (.authenticated (.ok auth)) ∧
      st.calls.get id = some (.authenticating connId message) :=
    hmem.elim (fun hmem => (hstep.effects _ hmem connId _ (.inl rfl)).2.1 auth traceId rfl)
      fun hmem => (hstep.effects _ hmem connId _ (.inr rfl)).2.1 auth traceId rfl
  refine ⟨id, message, rfl, hget, ?_⟩
  rw [step_resume hget] at hmem ⊢
  set s : WebSocketRuntime := { st.cleared with calls := st.calls.delete id }
  change .send connId (.authOk auth traceId) ∈ (s.finishAuth connId message auth).effects ∨
    .enqueued connId (.authOk auth traceId) ∈ (s.finishAuth connId message auth).effects at hmem
  change (s.finishAuth connId message auth).authOf connId = _
  cases hq : s.peerQuotaExceeded connId auth.peerId with
  | false => exact authOf_finishAuth hq (ha id connId message hget)
  | true =>
    -- the connection hears of an error, not of a context
    have hclear : (s.finishAuth connId message auth).Clear fun _ _ => False := by
      obtain ⟨hc, hm⟩ := h.calls id _ hget
      unfold WebSocketRuntime.finishAuth
      rw [if_pos hq]
      exact (h.cleared.take id).catchError hc hm (Thrown.worded_of_none (by simp))
    rcases hmem with hmem | hmem
    · exact ((hclear.effects _ hmem connId _ (.inl rfl)).2.1 auth traceId rfl).elim
    · exact ((hclear.effects _ hmem connId _ (.inr rfl)).2.1 auth traceId rfl).elim

end WebSocketRuntime

end Hardess
