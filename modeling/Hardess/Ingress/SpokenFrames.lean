import Hardess.Auth.TokenRefusals
import Hardess.Ingress.WebSocketEvents
import Hardess.Sdk.SystemFrames

/-!
# The hub understands what its clients say

A system message of a client is never taken for a malformed one, neither at once nor after what its
call waits for: `spoken_accepted`. With `heard_run` this is the other half of the contract between
the hub and the client library.

* `Polite`: the last event has not answered so;
* `handleSystemMessage_polite`, `answer_polite`: the two parts of the call;
* `calls_step_of_system`: such a call goes on once.
-/

namespace Hardess

/-- The ids of a message of the client and its token are not empty, and its time is one. -/
structure ClientSystemMessage.Intact (stamp : Stamp) (m : ClientSystemMessage) : Prop where
  fit : stamp.Fit
  traceId : m.traceId ≠ some []
  token : ∀ token, m = .auth token → token ≠ []
  ackFor : ∀ ackFor traceId, m = .handleAck ackFor traceId → ackFor ≠ []

/-- The payload of an `auth` with a token is one of `bearerSysAuthPayloadSchema`. -/
theorem token_bearerAuth (platform : JwtPlatform) {token : JsString} (h : token ≠ []) :
    (AuthRequest.system (bearerAuth token)).token platform = .ok token := by
  have hfilter : (some token).filter (fun s => !decide (s = [])) = some token := by simp [h]
  simp [AuthRequest.token, bearerSysAuthPayloadSchema, bearerAuth, Zod.nonempty, Zod.string, guard,
    hfilter]

/-- The call of a system message, which goes on once. -/
def Call.System : Call → Prop
  | .authenticating .. => True
  | .forwarding .. => True
  | .acking .. => True
  | _ => False

namespace WebSocketRuntime

/-- The answer says that the message was malformed. -/
def Effect.Malformed : Effect → Prop
  | .send _ (.err error _ _) => (Thrown.hardess error).Malformed
  | _ => False

variable {st s : WebSocketRuntime} {P : Effect → Prop}

/-- No answer so far says that a message was malformed. -/
def Polite (st : WebSocketRuntime) : Prop := ∀ x ∈ st.effects, ¬Effect.Malformed x

namespace Polite

theorem keeps (h : st.Polite) (k : Keeps P st s) (hP : ∀ x, P x → ¬Effect.Malformed x) :
    s.Polite := by
  obtain ⟨new, hnew, hp, -⟩ := k.effects
  intro x hx
  rw [hnew] at hx
  exact (List.mem_append.1 hx).elim (h x) fun hx => hP x (hp x hx)

theorem emit (h : st.Polite) {x : Effect} (hx : ¬Effect.Malformed x) : (st.emit x).Polite := by
  intro y hy
  rcases List.mem_append.1 hy with hold | hlast
  · exact h y hold
  · exact List.mem_singleton.1 hlast ▸ hx

theorem closeConnection (h : st.Polite) (connId : JsString) (code : ℕ) (reason : JsString) :
    (st.closeConnection connId code reason).Polite := by
  unfold WebSocketRuntime.closeConnection
  cases hc : st.objects.get connId with
  | none => exact h
  | some connection =>
    refine h.keeps (modifyEgress_keeps (P := fun x => ∃ y, x = .egress connId y) hc
      (Outbox.closeConnection_shuts code reason) fun x _ => ⟨x, rfl⟩) ?_
    rintro _ ⟨y, rfl⟩
    exact id

theorem catchError (h : st.Polite) (connId : JsString) (message : Envelope) {thrown : Thrown}
    (ht : ¬thrown.Malformed) :
    (st.catchError connId message thrown).Polite := by
  have hsent : (st.socketSend connId
      (.err thrown.normalized (some message.msgId) message.traceId)).Polite := h.emit ht
  unfold WebSocketRuntime.catchError
  dsimp only
  split
  · exact hsent
  · exact hsent.closeConnection _ _ _

theorem enqueueOrCatch (h : st.Polite) (connId : JsString) (message : Envelope)
    (target : JsString) (outbound : OutboundMessage) :
    (st.enqueueOrCatch connId message target outbound).Polite := by
  have hsent : (st.enqueueOutbound target outbound).1.Polite :=
    h.keeps (enqueueOutbound_keeps target outbound) fun x hx => by
      cases x <;> first | exact hx.elim | exact id
  unfold WebSocketRuntime.enqueueOrCatch
  split
  · rename_i s₁ heq
    rwa [heq] at hsent
  · rename_i s₁ error heq
    rw [heq] at hsent
    exact hsent.catchError _ _ (by
      simp [Thrown.Malformed, Thrown.normalized, EgressError.toHardessError])

/-- Only the times of the connection change. -/
theorem modify (h : st.Polite) (connId : JsString) (f : ConnectionState → ConnectionState) :
    (st.modify connId f).Polite := by
  unfold Polite
  rwa [effects_modify]

theorem forwardAck (h : st.Polite) (id : ℕ) (connId ackFor : JsString) (message : Envelope)
    (senderRef : ConnRef) : (st.forwardAck id connId message ackFor senderRef).Polite := by
  unfold WebSocketRuntime.forwardAck
  split_ifs
  · have hawait : (st.await id (.forwarding connId message)).Polite := h
    exact hawait.emit fun hx => hx
  · exact h.catchError _ _ (by simp [Thrown.Malformed, Thrown.normalized])
  · exact h
  · exact h.catchError _ _ (by simp [Thrown.Malformed, Thrown.normalized, senderOffline])

end Polite

/-- The payload schemas accept what the client wrote. -/
theorem handleSystemMessage_polite (h : st.Polite) (id : ℕ) (connId : JsString) {stamp : Stamp}
    {m : ClientSystemMessage} (hm : m.Intact stamp) :
    (st.handleSystemMessage id connId (m.envelope stamp)).Polite := by
  have haction : (m.envelope stamp).action = m.action := rfl
  have hpay : (m.envelope stamp).payload = some (m.payload stamp) := rfl
  unfold WebSocketRuntime.handleSystemMessage
  rw [haction]
  cases m with
  | auth token =>
    simp only [ClientSystemMessage.action, if_true]
    unfold WebSocketRuntime.startAuth
    rw [hpay, ClientSystemMessage.payload_auth]
    split_ifs
    · exact h.catchError _ _ (by simp [Thrown.Malformed, Thrown.normalized, drainingError])
    · exact h
  | ping =>
    simp only [ClientSystemMessage.action, js_inj, String.reduceEq, if_false, if_true]
    unfold WebSocketRuntime.handlePing
    rw [hpay, show sysPingPayloadSchema (some (ClientSystemMessage.payload stamp .ping)) = _ from
      noncePayload_eq (some stamp.nonce)]
    exact (h.modify _ _).enqueueOrCatch _ _ _ _
  | pong nonce traceId =>
    simp only [ClientSystemMessage.action, js_inj, String.reduceEq, if_false, if_true]
    unfold WebSocketRuntime.handlePong
    rw [hpay, show sysPingPayloadSchema (some (ClientSystemMessage.payload stamp (.pong nonce
      traceId))) = _ from noncePayload_eq nonce]
    exact h.modify _ _
  | handleAck ackFor traceId =>
    simp only [ClientSystemMessage.action, js_inj, String.reduceEq, if_false, if_true]
    -- the schema reads the message id that the client wrote
    have hread : sysHandleAckPayloadSchema
        (some (ClientSystemMessage.payload stamp (.handleAck ackFor traceId))) = some ackFor := by
      have hne := hm.ackFor ackFor traceId rfl
      simp [sysHandleAckPayloadSchema, ClientSystemMessage.payload, Zod.object, Json.lookup_cons,
        hne]
    unfold WebSocketRuntime.startHandleAck
    rw [hpay, hread]
    split_ifs
    · exact h.catchError _ _ (by simp [Thrown.Malformed, Thrown.normalized, unauthenticated])
    · have hdeleted : (st.deletePendingHandleAck ackFor).Polite := h
      dsimp only
      split
      · exact hdeleted.catchError _ _ (by simp [Thrown.Malformed, Thrown.normalized, noSender])
      · exact hdeleted.forwardAck _ _ _ _ _

theorem message_polite (h : st.Polite) (id : ℕ) (connId : JsString) {stamp : Stamp}
    {m : ClientSystemMessage} (hm : m.Intact stamp) :
    (st.message id connId (some (m.envelope stamp))).Polite := by
  unfold WebSocketRuntime.message
  split
  · exact h
  · dsimp only
    split_ifs
    · refine Polite.closeConnection (Polite.emit (h.modify _ _) ?_) _ _ _
      simp [Effect.Malformed, Thrown.Malformed, Thrown.normalized]
    · exact handleSystemMessage_polite (h.modify _ _) _ _ hm

/-! ### After the await -/

/-- What the answer of the service says about the message. -/
theorem finishAuth_polite (h : st.Polite) (connId : JsString) (message : Envelope)
    (auth : AuthContext) : (st.finishAuth connId message auth).Polite := by
  unfold WebSocketRuntime.finishAuth
  split_ifs
  · exact h.catchError _ _ (by simp [Thrown.Malformed, Thrown.normalized])
  · refine Polite.enqueueOrCatch ?_ _ _ _ _
    exact h.modify connId _

theorem answer_polite (h : st.Polite) (id : ℕ) {call : Call} (hcall : call.System) {answer : Answer}
    (ha : ∀ connId message error, call = .authenticating connId message →
      answer = .authenticated (.error error) → ¬error.Malformed) :
    (st.answer id call answer).Polite := by
  unfold WebSocketRuntime.answer
  split
  · split
    · exact finishAuth_polite h _ _ _
    · exact h.catchError _ _ (ha _ _ _ rfl rfl)
  · exact hcall.elim
  · exact hcall.elim
  · exact hcall.elim
  · exact hcall.elim
  · exact hcall.elim
  · exact hcall.elim
  · split
    · exact h
    · exact h.catchError _ _ (by simp [Thrown.Malformed, Thrown.normalized])
  · split_ifs
    · exact h.enqueueOrCatch _ _ _ _
    · exact h.catchError _ _ (by simp [Thrown.Malformed, Thrown.normalized, senderOffline])
  · exact hcall.elim
  · exact hcall.elim
  · exact h

/-! ### The call of a message -/

/-- What the call of a system message is, as long as it waits. -/
def Waits (st : WebSocketRuntime) (id : ℕ) (connId : JsString) (message : Envelope) : Prop :=
  id < st.nextCall ∧ ∀ call, st.calls.get id = some call → call.System ∧
    ∀ connId' message', call = .authenticating connId' message' →
      connId' = connId ∧ message' = message

theorem waits_message (hn : st.Numbered) (connId : JsString) {message : Envelope}
    (hkind : message.kind = .system) :
    (st.step (.message connId (some message))).Waits st.nextCall connId message := by
  have hstep := step_handles st (.message connId (some message))
  refine ⟨hstep.nextCall ▸ Nat.lt_succ_self _, fun call hget => ?_⟩
  rcases hstep.calls _ call hget with hold | hstart
  · exact absurd (hn _ call hold) (Nat.lt_irrefl _)
  · cases hstart with
    | authenticating => exact ⟨trivial, fun _ _ heq => by cases heq; exact ⟨rfl, rfl⟩⟩
    | validating _ hbiz =>
      rw [hkind] at hbiz
      cases hbiz
    | forwarding => exact ⟨trivial, fun _ _ heq => by cases heq⟩
    | acking => exact ⟨trivial, fun _ _ heq => by cases heq⟩
    | continuing ha => cases ha
    | delivering ha => cases ha

/-- A call that searches has another one before it. -/
theorem not_system_of_searches {send : SendCall} {call : Call} (h : call.Searches send) :
    ¬call.System := by
  cases call <;> first | exact h.elim | exact id

/-- The call is left alone until it is answered. -/
theorem waits_step {id : ℕ} {connId : JsString} {message : Envelope}
    (h : st.Waits id connId message) (e : Event) : (st.step e).Waits id connId message := by
  obtain ⟨hlt, hcall⟩ := h
  have hstep := step_handles st e
  refine ⟨by rw [hstep.nextCall]; exact Nat.lt_add_right _ hlt, fun call hget => ?_⟩
  -- no event puts another call in the place of this one
  rcases hstep.calls id call hget with hold | hstart
  · exact hcall call hold
  exfalso
  have hother {call' : Call} (hget' : st.calls.get id = some call') (hsys : ¬call'.System) : False :=
    hsys (hcall call' hget').1
  cases hstart with
  | authenticating => exact Nat.lt_irrefl _ hlt
  | validating => exact Nat.lt_irrefl _ hlt
  | forwarding => exact Nat.lt_irrefl _ hlt
  | acking => exact Nat.lt_irrefl _ hlt
  | forwarded => exact Nat.lt_irrefl _ hlt
  | hooking hget' => exact hother hget' not_false
  | searching hget' => exact hother hget' not_false
  | found hget' hs => exact hother hget' (not_system_of_searches hs)
  | continuing ha =>
    cases ha with
    | located hget' => exact hother hget' not_false
    | skipped hget' => exact hother hget' not_false
    | served hget' => exact hother hget' not_false
    | relayed hget' => exact hother hget' not_false
    | relayFailed hget' => exact hother hget' not_false
  | delivering ha =>
    cases ha with
    | started => exact Nat.lt_irrefl _ hlt
    | skipped hget' => exact hother hget' not_false
    | served hget' => exact hother hget' not_false

/-! ### Runs -/

/-- The service refuses a payload, in some run of it. -/
def Refused (platform : JwtPlatform) (payload : SysAuthPayload) (error : Thrown) : Prop :=
  ∃ (name : JsString) (given : List AuthProvider) (es : List AuthServiceEvent),
    ∃ call ∈ (Machine.run AuthServiceState.step (.create platform name given) es).calls,
      call.Civil ∧ call.request = .system payload ∧ call.settlement = some (.error error)

/-- A refusal that answers call `id` is one of the service for the payload of its message. -/
def ServedBy (platform : JwtPlatform) (id : ℕ) (st : WebSocketRuntime) (e : Event) : Prop :=
  ∀ connId message error, e = .resume id (.authenticated (.error error)) →
    st.calls.get id = some (.authenticating connId message) →
      ∃ payload, sysAuthPayloadSchema message.payload = some payload ∧
        Refused platform payload error

/-- If the event answers call `id`, the message is not called malformed. -/
def Understands (id : ℕ) (st : WebSocketRuntime) (e : Event) : Prop :=
  ∀ answer, e = .resume id answer → (st.step e).Polite

theorem not_malformed_of_refused {platform : JwtPlatform} (hplain : platform.Plain)
    {token : JsString} (ht : token ≠ []) {error : Thrown}
    (h : Refused platform (bearerAuth token) error) : ¬error.Malformed := by
  obtain ⟨name, given, es, call, hmem, hcivil, hrequest, hsettled⟩ := h
  have hsound := Machine.run_invariant (AuthServiceState.sound_create platform name given)
    (fun _ e h => h.step e) es
  exact not_malformed_of_settled hplain (hsound.calls call hmem) hcivil hrequest
    (token_bearerAuth platform ht) hsettled

/-- One answer to the call of a message. -/
theorem understands_of_waits {platform : JwtPlatform} (hplain : platform.Plain) {id : ℕ}
    {connId : JsString} {stamp : Stamp} {m : ClientSystemMessage} (hm : m.Intact stamp)
    (h : st.Waits id connId (m.envelope stamp)) {e : Event} (he : ServedBy platform id st e) :
    Understands id st e := by
  rintro answer rfl
  have hclear : Polite st.cleared := fun x hx => by cases hx
  cases hget : st.calls.get id with
  | none =>
    have hnone : st.cleared.resume id answer = st.cleared := by
      unfold resume
      rw [show st.cleared.calls.get id = none from hget]
    rw [show st.step (.resume id answer) = _ from hnone]
    exact hclear
  | some call =>
    obtain ⟨hsys, hauth⟩ := h.2 call hget
    rw [step_resume hget]
    refine answer_polite (fun x hx => by cases hx) id hsys fun connId' message' error heq ha => ?_
    subst heq ha
    obtain ⟨rfl, rfl⟩ := hauth _ _ rfl
    obtain ⟨payload, hpayload, hrefused⟩ := he _ _ error rfl hget
    -- the service was asked with the payload that the client wrote
    cases m with
    | auth token =>
      obtain rfl := Option.some.inj ((ClientSystemMessage.payload_auth stamp token).symm.trans
        hpayload)
      exact not_malformed_of_refused hplain (hm.token token rfl) hrefused
    | ping => cases hpayload
    | pong nonce traceId => cases nonce <;> cases hpayload
    | handleAck ackFor traceId => cases hpayload

/-- **The hub never answers a system message of a client library that it is malformed, in whatever
state it receives it**, neither at once nor after what its call waits for. -/
theorem spoken_accepted (deps : WebSocketRuntimeDeps) (before : List Event) (connId : JsString)
    {stamp : Stamp} {m : ClientSystemMessage} (hm : m.Intact stamp) {platform : JwtPlatform}
    (hplain : platform.Plain) {es : List Event}
    (hes : Machine.Along step
      (ServedBy platform (Machine.run step (create deps) before).nextCall)
      ((Machine.run step (create deps) before).step (.message connId
        (readEnvelope (m.text stamp)))) es) :
    ((Machine.run step (create deps) before).step (.message connId
        (readEnvelope (m.text stamp)))).Polite ∧
      Machine.Along step (Understands (Machine.run step (create deps) before).nextCall)
        ((Machine.run step (create deps) before).step (.message connId
          (readEnvelope (m.text stamp)))) es := by
  have hread : readEnvelope (m.text stamp) = some (m.envelope stamp) :=
    ClientSystemMessage.read_text hm.fit hm.traceId
  have hn : (Machine.run step (create deps) before).Numbered :=
    Machine.run_invariant (numbered_create deps) (fun _ e h => numbered_step h e) before
  rw [hread] at hes ⊢
  generalize Machine.run step (create deps) before = st at *
  have hclear : Polite { st.cleared with nextCall := st.nextCall + 1 } := fun x hx => by cases hx
  exact ⟨message_polite hclear _ _ hm, hes.imp (waits_message hn connId rfl)
    (fun _ e h _ => waits_step h e) fun _ _ h he => understands_of_waits hplain hm h he⟩

/-- A stamp of the start of time. -/
def firstStamp : Stamp where
  msgId := js "m1"
  nonce := js "n1"
  time := .ofNat 0
  ts := .ofNat 0

theorem firstStamp_fit : firstStamp.Fit :=
  ⟨by simp [firstStamp],
    (chatEnvelope_wellFormed (fun _ h => by cases h) :
      (chatEnvelope none).WellFormed JsNumber.isInteger).ts⟩

/-- The demo refuses a token of another format. -/
theorem refused_demo : Refused JwtIssuerAuthProvider.asciiPlatform (bearerAuth (js "x"))
    (invalidToken (js "Unsupported token format")) := by
  refine ⟨js "bearer", [.demo],
    [.validateSystemAuth (bearerAuth (js "x")), .answer 0 (.ofNat 0) (.error typeError)], _,
    List.mem_of_getElem? (i := 0) rfl, fun i answer name id _ hget => ?_, rfl, rfl⟩
  change [AuthProvider.demo][i]? = _ at hget
  rcases i with _ | i <;> simp at hget

theorem plain_asciiPlatform : JwtIssuerAuthProvider.asciiPlatform.Plain where
  fetched _ := understood_error not_malformed_typeError
  json _ _ h := by cases h

/-- A connection opens, and its client sends a token that is refused. -/
theorem spoken_accepted_refused :
    ((Machine.run step (create { nodeId := js "n" }) [.openSocket (js "a")]).step (.message (js "a")
      (readEnvelope ((ClientSystemMessage.auth (js "x")).text firstStamp)))).Polite ∧
    Machine.Along step (Understands 0)
      ((Machine.run step (create { nodeId := js "n" }) [.openSocket (js "a")]).step
        (.message (js "a") (readEnvelope ((ClientSystemMessage.auth (js "x")).text firstStamp))))
      [.resume 0 (.authenticated (.error (invalidToken (js "Unsupported token format"))))] := by
  refine spoken_accepted { nodeId := js "n" } [.openSocket (js "a")] (js "a")
    ⟨firstStamp_fit, by simp [ClientSystemMessage.traceId], by simp, by simp⟩
    plain_asciiPlatform ⟨fun connId message error he hget => ?_, trivial⟩
  cases he
  have hread : readEnvelope ((ClientSystemMessage.auth (js "x")).text firstStamp) =
      some ((ClientSystemMessage.auth (js "x")).envelope firstStamp) :=
    ClientSystemMessage.read_text firstStamp_fit (by simp [ClientSystemMessage.traceId])
  rw [hread] at hget
  -- the call asks with the payload that was written
  have hnumbered := numbered_step (numbered_create { nodeId := js "n" }) (.openSocket (js "a"))
  obtain ⟨-, rfl⟩ := ((waits_message hnumbered (js "a") rfl).2 _ hget).2 _ _ rfl
  exact ⟨_, ClientSystemMessage.payload_auth firstStamp (js "x"), refused_demo⟩

end WebSocketRuntime

end Hardess
