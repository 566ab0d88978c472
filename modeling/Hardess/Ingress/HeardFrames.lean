import Hardess.Ingress.Groups
import Hardess.Sdk.SystemFrames

/-!
# The hub never says what its clients do not understand

* `OutboundMessage.Clear`: a message is intact, whenever it is written;
* `Event.Fed`: what comes from outside, frames apart, has names;
* `Clear`: what is true of every state of a run that is fed so;
* **`heard_run`**: a client takes every frame of such a run for the message that was sent.
-/

namespace Hardess

/-! ### Clear messages -/

/-- Whenever it is written, the message is intact. -/
def OutboundMessage.Clear (m : OutboundMessage) (connId : JsString) : Prop :=
  ∀ stamp : Stamp, stamp.Fit → stamp.time.isFinite = true → m.Intact stamp connId

/-- The guard accepts the envelope. -/
structure Envelope.Read (e : Envelope) : Prop where
  fields : e.WellFormed JsNumber.isInteger
  payload : ∃ p, e.payload = some p ∧ p.WF

/-- What was read from a frame. -/
theorem Envelope.read_of_readEnvelope {raw : JsString} {e : Envelope}
    (h : readEnvelope raw = some e) : e.Read := by
  have hwf := @wf_payload_of_read raw e h
  obtain ⟨v, hv, hof⟩ := Option.bind_eq_some_iff.1 h
  obtain ⟨w, -, hguard⟩ := Option.bind_eq_some_iff.1 hv
  obtain ⟨rfl, e', he', hw, hp⟩ := parseEnvelopeValueFast_eq_some.1 hguard
  obtain rfl : e' = e := Option.some.inj (he'.symm.trans hof)
  obtain ⟨p, hp⟩ := Option.isSome_iff_exists.1 hp
  exact ⟨hw, p, hp, hwf hp⟩

/-- A reference that a client accepts. -/
def ConnRef.Clear (c : ConnRef) : Prop := c.Named ∧ c.groupId ≠ some []

/-- The error has a text, and the objects of its detail have distinct keys. -/
structure HardessError.Worded (error : HardessError) : Prop where
  message : error.message ≠ []
  detail : ∀ d, error.detail = some d → d.WF

/-- A text or nothing is a detail. -/
theorem HardessError.worded_of_text {error : HardessError} (hm : error.message ≠ [])
    (hd : ∀ d, error.detail = some d → ∃ s, d = .str s) : error.Worded where
  message := hm
  detail := by
    intro d hdetail
    obtain ⟨s, rfl⟩ := hd d hdetail
    trivial

/-- The error that is reported is worded. -/
def Thrown.Worded : Thrown → Prop
  | .hardess error => error.Worded
  | .other _ => True

theorem Thrown.Worded.normalized {thrown : Thrown} (h : thrown.Worded) :
    thrown.normalized.Worded := by
  cases thrown with
  | hardess error => exact h
  | other message =>
    exact HardessError.worded_of_text (by simp [Thrown.normalized]) (by simp [Thrown.normalized])

theorem EgressError.worded (error : EgressError) :
    (Thrown.hardess error.toHardessError).Worded := by
  refine HardessError.worded_of_text ?_ ?_
  · cases error <;> simp [toHardessError, message]
  · cases error <;> simp [toHardessError]

theorem WebSocketRuntimeDeps.worded_refusal (deps : WebSocketRuntimeDeps) {message : JsString}
    (hm : message ≠ []) (payload : Option Json) : (deps.refusal message payload).Worded :=
  HardessError.worded_of_text hm (by simp)

/-- An error without a detail. -/
theorem Thrown.worded_of_none {code : ErrorCode} {message : JsString} {retryable : Bool}
    (hm : message ≠ []) : (Thrown.hardess { code, message, retryable }).Worded :=
  HardessError.worded_of_text hm (by simp)

/-- What the dispatch of a hook puts into an envelope. -/
structure ServerDispatch.Clear (d : ServerDispatch) : Prop where
  protocol : d.protocol ≠ some []
  version : d.version ≠ some []
  action : d.action ≠ some []
  streamId : d.streamId ≠ some []
  payload : ∀ p, d.payload = some p → p.WF

theorem getD_ne_nil {o : Option JsString} {s : JsString} (ho : o ≠ some []) (hs : s ≠ []) :
    o.getD s ≠ [] := by
  cases o with
  | none => exact hs
  | some t => exact fun h => ho (congrArg some h)

/-- The dispatch leaves an envelope readable. -/
theorem read_outboundEnvelope {message : Envelope} {dispatch : ServerDispatch}
    (h : message.Read) (hd : dispatch.Clear) :
    (WebSocketRuntime.outboundEnvelope message dispatch).Read := by
  obtain ⟨p, hp, hwf⟩ := h.payload
  have hf := h.fields
  refine ⟨⟨hf.msgId, hf.srcPeerId, hf.srcConnId, getD_ne_nil hd.protocol hf.protocol,
    getD_ne_nil hd.version hf.version, getD_ne_nil hd.action hf.action, ?_, hf.seq, hf.ts,
    hf.traceId⟩, ?_⟩
  · show dispatch.streamId.or message.streamId ≠ some []
    cases hs : dispatch.streamId with
    | none => exact hf.streamId
    | some s => exact fun h => hd.streamId (hs.trans h)
  · unfold WebSocketRuntime.outboundEnvelope
    dsimp only
    split
    · exact ⟨p, hp, hwf⟩
    · exact ⟨p, hp, hwf⟩
    · rename_i q _ hq
      exact ⟨q, rfl, hd.payload q hq⟩

/-! ### Clear calls -/

/-- A message that is sent on: its connection, and the envelope for its recipients. -/
structure SendCall.Clear (send : SendCall) : Prop where
  sender : send.sender ≠ []
  message : send.message.Read
  envelope : send.envelope.Read
  kind : send.envelope.kind = .biz
  peerIds : ∀ peerId ∈ send.peerIds, peerId ≠ []

/-- The references are clear. -/
def AllClear (conns : List ConnRef) : Prop := ∀ conn ∈ conns, conn.Clear

theorem allClear_append {left right : List ConnRef} :
    AllClear (left ++ right) ↔ AllClear left ∧ AllClear right :=
  List.forall_mem_append

/-- What a call holds is clear. -/
def Call.Clear : Call → Prop
  | .authenticating connId message => connId ≠ [] ∧ message.Read
  | .validating connId message _ => connId ≠ [] ∧ message.Read ∧ message.kind = .biz
  | .hooking connId message _ => connId ≠ [] ∧ message.Read ∧ message.kind = .biz
  | .finding send _ located _ => send.Clear ∧ AllClear (located.flatMap Prod.snd)
  | .locating send located => send.Clear ∧ AllClear (located.flatMap Prod.snd)
  | .checking send delivered _ target rest =>
    send.Clear ∧ AllClear delivered ∧ AllClear (target :: rest)
  | .relaying send delivered _ => send.Clear ∧ AllClear delivered
  | .forwarding connId message => connId ≠ [] ∧ message.Read
  | .acking connId message ackFor _ => connId ≠ [] ∧ message.Read ∧ ackFor ≠ []
  | .delivering request _ _ _ _ => request.envelope.Read ∧ request.envelope.kind = .biz
  | .forwarded request => request.ackFor ≠ [] ∧ request.traceId ≠ some []

namespace WebSocketRuntime

/-- What is handed to a socket or to its queue is clear, a context that is granted meets `Q`, and
envelopes go to the queue. -/
def Effect.Clear (Q : JsString → AuthContext → Prop) (x : Effect) : Prop :=
  ∀ connId message, x = .send connId message ∨ x = .enqueued connId message →
    message.Clear connId ∧ (∀ auth traceId, message = .authOk auth traceId → Q connId auth) ∧
      ∀ envelope, message = .envelope envelope → x = .enqueued connId message

/-- What comes from outside: any frames, contexts and hook results without empty names, connections
of other nodes that have names. -/
def Event.Fed : Event → Prop
  | .openSocket connId => connId ≠ []
  | .message _ envelope => ∃ raw, envelope = readEnvelope raw
  | .resume _ (.authenticated (.ok auth)) => auth.peerId ≠ [] ∧ auth.expiresAt.isFinite = true
  | .resume _ (.authenticated (.error thrown)) => thrown.Worded
  | .resume _ (.validMessage (.error thrown)) => thrown.Worded
  | .resume _ (.hooked (.ok result)) =>
    (∀ peerId ∈ result.peerIds, peerId ≠ []) ∧ result.dispatch.Clear
  | .resume _ (.hooked (.error thrown)) => thrown.Worded
  | .resume _ (.located remote) => AllClear (remote.flatMap Prod.snd)
  | .resume _ (.relayed (.ok conns)) => AllClear conns
  | .deliverCluster request => request.envelope.Read ∧ request.envelope.kind = .biz
  | .forwardClusterHandleAck request => request.ackFor ≠ [] ∧ request.traceId ≠ some []
  | _ => True

/-- The names of the node, and all that it keeps, are clear. -/
structure Clear (Q : JsString → AuthContext → Prop) (st : WebSocketRuntime) : Prop where
  nodeId : st.deps.nodeId ≠ []
  hostGroupId : st.deps.hostGroupId ≠ some []
  connections : ∀ connId ∈ st.connections, connId ≠ []
  auth : ∀ connId auth, st.authOf connId = some auth → auth.peerId ≠ []
  locator : st.peerLocator.Consistent
  registered : ∀ conn, st.peerLocator.Holds conn → conn.Clear
  calls : ∀ id call, st.calls.get id = some call → call.Clear
  effects : ∀ x ∈ st.effects, Effect.Clear Q x

variable {Q : JsString → AuthContext → Prop} {st s : WebSocketRuntime} {P : Effect → Prop} {id : ℕ}
  {send : SendCall}

/-! ### Single operations -/

/-- The effect hands nothing to a client. -/
def Effect.Silent : Effect → Prop
  | .send .. => False
  | .enqueued .. => False
  | _ => True

theorem Effect.Silent.clear {x : Effect} (h : Effect.Silent x) : Effect.Clear Q x := by
  rintro connId message (rfl | rfl) <;> exact h.elim

namespace Clear

theorem keeps (h : st.Clear Q) (k : Keeps P st s) (hP : ∀ x, P x → Effect.Clear Q x) :
    s.Clear Q := by
  obtain ⟨new, hnew, hp, -⟩ := k.effects
  refine ⟨by rw [k.deps]; exact h.nodeId, by rw [k.deps]; exact h.hostGroupId,
    by rw [k.connections]; exact h.connections, by simpa only [k.authOf] using h.auth,
    by rw [k.peerLocator]; exact h.locator, by rw [k.peerLocator]; exact h.registered,
    by rw [k.calls]; exact h.calls, fun x hx => ?_⟩
  rw [hnew] at hx
  exact (List.mem_append.1 hx).elim (h.effects x) fun hx => hP x (hp x hx)

/-- Before an event nothing is handed over, so that anything may be asked of it. -/
theorem cleared {Q' : JsString → AuthContext → Prop} (h : st.Clear Q') : st.cleared.Clear Q :=
  ⟨h.nodeId, h.hostGroupId, h.connections, h.auth, h.locator, h.registered, h.calls,
    fun _ hmem => by cases hmem⟩

/-- A call is taken out to go on. -/
theorem take (h : st.Clear Q) (id : ℕ) : Clear Q { st with calls := st.calls.delete id } :=
  { h with calls := fun id' call' hget => h.calls id' call' (JsMap.get_of_get_delete hget).2 }

/-- Only the tables change that nothing clear is about. -/
theorem retable (h : st.Clear Q) {pending : JsMap JsString PendingHandleAckEntry}
    {recent : JsMap JsString ℕ} {now nextCall : ℕ} {shuttingDown shutdownTimer : Bool} :
    Clear Q { st with
      pendingHandleAckByMsgId := pending
      recentClusterDeliveryByMsgId := recent
      now, nextCall, shuttingDown, shutdownTimer } :=
  ⟨h.nodeId, h.hostGroupId, h.connections, h.auth, h.locator, h.registered, h.calls, h.effects⟩

theorem await (h : st.Clear Q) {call : Call} (hc : call.Clear) : (st.await id call).Clear Q := by
  refine ⟨h.nodeId, h.hostGroupId, h.connections, h.auth, h.locator, h.registered, ?_, h.effects⟩
  intro id' call' hget
  rw [show (st.await id call).calls = st.calls.set id call from rfl, JsMap.get_set] at hget
  split_ifs at hget
  · cases hget
    exact hc
  · exact h.calls id' call' hget

theorem emit (h : st.Clear Q) {x : Effect} (hx : Effect.Clear Q x) : (st.emit x).Clear Q := by
  refine ⟨h.nodeId, h.hostGroupId, h.connections, h.auth, h.locator, h.registered, h.calls, ?_⟩
  intro y hy
  rcases List.mem_append.1 hy with hold | hlast
  · exact h.effects y hold
  · exact List.mem_singleton.1 hlast ▸ hx

/-- A change of a connection that keeps its context. -/
theorem modify (h : st.Clear Q) {connId : JsString} {f : ConnectionState → ConnectionState}
    (ha : ∀ connection, (f connection).auth = connection.auth)
    (he : ∀ connection, (f connection).egress = connection.egress) :
    (st.modify connId f).Clear Q :=
  h.keeps (modify_keeps (P := fun _ => False) ha he) fun _ hx => hx.elim

/-- What goes past the queue is an error. -/
theorem socketSend (h : st.Clear Q) (connId : JsString) {error : HardessError}
    {refMsgId traceId : Option JsString}
    (hm : (OutboundMessage.err error refMsgId traceId).Clear connId) :
    (st.socketSend connId (.err error refMsgId traceId)).Clear Q :=
  h.emit fun connId' message' hx => by
    rcases hx with hx | hx <;> cases hx
    exact ⟨hm, by simp, by simp⟩

theorem modifyEgress (h : st.Clear Q) {connId : JsString} {connection : ConnectionState}
    (hc : st.objects.get connId = some connection)
    {result : Outbox OutboundMessage × List (EgressEffect OutboundMessage)}
    (hs : connection.egress.Shuts result) : (st.modifyEgress connId result).Clear Q :=
  h.keeps (modifyEgress_keeps (P := fun x => ∃ y, x = .egress connId y) hc hs fun x _ => ⟨x, rfl⟩)
    (by
      rintro _ ⟨y, rfl⟩
      exact Effect.Silent.clear trivial)

theorem closeConnection (h : st.Clear Q) (connId : JsString) (code : ℕ) (reason : JsString) :
    (st.closeConnection connId code reason).Clear Q := by
  unfold WebSocketRuntime.closeConnection
  cases hc : st.objects.get connId with
  | none => exact h
  | some connection => exact h.modifyEgress hc (Outbox.closeConnection_shuts code reason)

theorem enqueueOutbound (h : st.Clear Q) (connId : JsString) (message : OutboundMessage)
    (hm : message.Clear connId)
    (hq : ∀ auth traceId, message = .authOk auth traceId → Q connId auth) :
    (st.enqueueOutbound connId message).1.Clear Q :=
  h.keeps (enqueueOutbound_keeps connId message) fun x hx connId' message' heq => by
    rcases heq with rfl | rfl
    · exact hx.elim
    · obtain ⟨rfl, rfl⟩ := hx
      exact ⟨hm, hq, fun _ _ => rfl⟩

theorem catchError (h : st.Clear Q) {connId : JsString} {message : Envelope} {thrown : Thrown}
    (hc : connId ≠ []) (hm : message.Read) (ht : thrown.Worded) :
    (st.catchError connId message thrown).Clear Q := by
  unfold WebSocketRuntime.catchError
  have herr : (OutboundMessage.err thrown.normalized (some message.msgId) message.traceId).Clear
      connId := fun stamp hs _ =>
    ⟨⟨hs, hc, hm.fields.traceId⟩, ht.normalized.message, by simpa using hm.fields.msgId,
      ht.normalized.detail⟩
  have hsent := h.socketSend connId herr
  dsimp only
  split
  · exact hsent
  · exact hsent.closeConnection _ _ _

theorem enqueueOrCatch (h : st.Clear Q) {connId target : JsString} {message : Envelope}
    {outbound : OutboundMessage} (hc : connId ≠ []) (hm : message.Read)
    (ho : outbound.Clear target)
    (hq : ∀ auth traceId, outbound = .authOk auth traceId → Q target auth) :
    (st.enqueueOrCatch connId message target outbound).Clear Q := by
  have hsent := h.enqueueOutbound target outbound ho hq
  unfold WebSocketRuntime.enqueueOrCatch
  split
  · rename_i s₁ heq
    rwa [heq] at hsent
  · rename_i s₁ error heq
    rw [heq] at hsent
    exact hsent.catchError hc hm error.worded

/-! ### Messages of clients -/

theorem finishSend (h : st.Clear Q) (hs : send.Clear) {delivered : List ConnRef}
    (hd : AllClear delivered) : (st.finishSend send delivered).Clear Q := by
  have hpend : (if send.ack = .none then st else st.setPendingHandleAck send.envelope.msgId
      send.senderRef (st.now + st.deps.pendingTtl)).Clear Q := by
    split_ifs
    · exact h
    · exact h.retable
  have htrace := hs.envelope.fields.traceId
  have hroute := hpend.enqueueOutbound send.sender
    (.route send.peerIds delivered send.envelope.traceId)
    (fun stamp hf _ => ⟨⟨hf, hs.sender, htrace⟩, hs.peerIds, hd⟩) (by simp)
  unfold WebSocketRuntime.finishSend
  dsimp only
  split
  · rename_i s₁ error heq
    rw [heq] at hroute
    exact hroute.catchError hs.sender hs.message error.worded
  · rename_i s₁ heq
    rw [heq] at hroute
    split_ifs
    · exact hroute.enqueueOrCatch hs.sender hs.message
        (fun stamp hf ht => ⟨⟨hf, hs.sender, htrace⟩, hs.envelope.fields.msgId, ht⟩) (by simp)
    · exact hroute

theorem findNext (h : st.Clear Q) (hs : send.Clear) {groupId : Option JsString}
    {located : List (JsString × List ConnRef)} (hl : AllClear (located.flatMap Prod.snd))
    (rest : List JsString) : (st.findNext id send groupId located rest).Clear Q := by
  cases rest with
  | nil => exact h.await ⟨hs, hl⟩
  | cons peerId rest =>
    refine h.await ⟨hs, ?_⟩
    rw [List.flatMap_append, allClear_append]
    refine ⟨hl, fun conn hconn => ?_⟩
    rw [List.flatMap_singleton] at hconn
    exact h.registered conn (holds_of_mem_find hconn).1

theorem attemptDone (h : st.Clear Q) (hs : send.Clear) {delivered : List ConnRef}
    (hd : AllClear delivered) : (st.attemptDone id send delivered).Clear Q := by
  unfold WebSocketRuntime.attemptDone
  split_ifs
  · exact h.catchError hs.sender hs.message (Thrown.worded_of_none (by simp))
  · have hagain : SendCall.Clear { send with retry := true } :=
      ⟨hs.sender, hs.message, hs.envelope, hs.kind, hs.peerIds⟩
    refine h.findNext hagain ?_ _
    simp [AllClear]
  · exact h.finishSend hs hd

theorem relayNext (h : st.Clear Q) (hs : send.Clear) {delivered : List ConnRef}
    (hd : AllClear delivered) (nodes : List (JsString × List ConnRef)) :
    (st.relayNext id send delivered nodes).Clear Q := by
  rcases @relayNext_cases st id send delivered nodes with ⟨nodeId, targets, rest, heq⟩ | heq
  · rw [heq]
    have hcall : (Call.relaying send delivered rest).Clear := ⟨hs, hd⟩
    exact (h.await hcall).emit (Effect.Silent.clear trivial)
  · rw [heq]
    exact h.attemptDone hs hd

theorem serveTargets (h : st.Clear Q) (hs : send.Clear) {delivered targets : List ConnRef}
    (hd : AllClear delivered) (ht : AllClear targets) (remote : JsMap JsString (List ConnRef)) :
    (st.serveTargets id send delivered remote targets).Clear Q := by
  rcases @serveTargets_cases st id send delivered remote targets with
    ⟨remote', target, rest, hsub, -, -, heq⟩ | ⟨nodes, heq⟩
  · rw [heq]
    exact h.await ⟨hs, hd, fun conn hconn => ht conn (hsub.subset hconn)⟩
  · rw [heq]
    exact h.relayNext hs hd nodes

theorem serveTarget (h : st.Clear Q) (hs : send.Clear) {delivered rest : List ConnRef}
    {target : ConnRef} (hd : AllClear delivered) (ht : AllClear (target :: rest))
    (remote : JsMap JsString (List ConnRef)) (ok : Bool) :
    (st.serveTarget id send delivered remote target rest ok).Clear Q := by
  obtain ⟨htarget, hrest⟩ := List.forall_mem_cons.1 ht
  -- the recipient sees the peer of the sender, or the one its frame claimed
  have hsource : (st.sourceOf send).peerId ≠ [] := by
    unfold sourceOf
    cases hauth : st.authOf send.sender with
    | none => exact hs.envelope.fields.srcPeerId
    | some auth => exact h.auth _ _ hauth
  have hf := hs.envelope.fields
  have hsent := h.enqueueOutbound target.connId
    (.envelope { send.envelope with src := st.sourceOf send })
    (fun _ _ _ => ⟨hs.kind, ⟨hf.msgId, hsource, hs.sender, hf.protocol, hf.version, hf.action,
      hf.streamId, hf.seq, hf.ts, hf.traceId⟩, hs.envelope.payload⟩) (by simp)
  unfold WebSocketRuntime.serveTarget
  split_ifs
  · split
    · rename_i s₁ heq
      rw [heq] at hsent
      have hreached : AllClear (delivered ++ [target]) :=
        allClear_append.2 ⟨hd, by simpa [AllClear] using htarget⟩
      exact hsent.serveTargets hs hreached hrest _
    · rename_i s₁ error heq
      rw [heq] at hsent
      exact hsent.serveTargets hs hd hrest _
  · exact h.serveTargets hs hd hrest _

theorem startAuth (h : st.Clear Q) {connId : JsString} {message : Envelope} (hc : connId ≠ [])
    (hm : message.Read) : (st.startAuth id connId message).Clear Q := by
  unfold WebSocketRuntime.startAuth
  split_ifs
  · exact h.catchError hc hm (HardessError.worded_of_text (by simp [drainingError]) (by simp [drainingError]))
  · split
    · exact h.catchError hc hm (st.deps.worded_refusal (by simp) _)
    · exact h.await ⟨hc, hm⟩

theorem handlePing (h : st.Clear Q) {connId : JsString} {message : Envelope} (hc : connId ≠ [])
    (hm : message.Read) : (st.handlePing connId message).Clear Q := by
  unfold WebSocketRuntime.handlePing
  split
  · exact h.catchError hc hm (st.deps.worded_refusal (by simp) _)
  · refine Clear.enqueueOrCatch (h.modify ?_ ?_) hc hm
      (fun _ hf _ => ⟨hf, hc, hm.fields.traceId⟩) (by simp)
    · exact fun _ => rfl
    · exact fun _ => rfl

theorem handlePong (h : st.Clear Q) {connId : JsString} {message : Envelope} (hc : connId ≠ [])
    (hm : message.Read) : (st.handlePong connId message).Clear Q := by
  unfold WebSocketRuntime.handlePong
  split
  · exact h.catchError hc hm (st.deps.worded_refusal (by simp) _)
  · exact h.modify (fun _ => rfl) fun _ => rfl

theorem forwardAck (h : st.Clear Q) {connId ackFor : JsString} {message : Envelope}
    (hc : connId ≠ []) (hm : message.Read) (ha : ackFor ≠ []) (senderRef : ConnRef) :
    (st.forwardAck id connId message ackFor senderRef).Clear Q := by
  unfold WebSocketRuntime.forwardAck
  split_ifs
  · have hcall : (Call.forwarding connId message).Clear := ⟨hc, hm⟩
    exact (h.await hcall).emit (Effect.Silent.clear trivial)
  · exact h.catchError hc hm (Thrown.worded_of_none (by simp))
  · have hcall : (Call.acking connId message ackFor senderRef.connId).Clear := ⟨hc, hm, ha⟩
    exact h.await hcall
  · exact h.catchError hc hm (Thrown.worded_of_none (by simp))

theorem startHandleAck (h : st.Clear Q) {connId : JsString} {message : Envelope} (hc : connId ≠ [])
    (hm : message.Read) : (st.startHandleAck id connId message).Clear Q := by
  unfold WebSocketRuntime.startHandleAck
  split_ifs
  · exact h.catchError hc hm (Thrown.worded_of_none (by simp))
  · split
    · exact h.catchError hc hm (st.deps.worded_refusal (by simp) _)
    · rename_i ackFor hpay
      have hack : ackFor ≠ [] := by
        obtain ⟨ms, -, hf⟩ := Zod.object_eq_some.1 hpay
        exact (Zod.nonempty_eq_some.1 hf).2
      dsimp only
      split
      · exact Clear.catchError h.retable hc hm (Thrown.worded_of_none (by simp))
      · exact Clear.forwardAck h.retable hc hm hack _

theorem handleSystemMessage (h : st.Clear Q) {connId : JsString} {message : Envelope}
    (hc : connId ≠ []) (hm : message.Read) :
    (st.handleSystemMessage id connId message).Clear Q := by
  unfold WebSocketRuntime.handleSystemMessage
  split_ifs
  · exact h.startAuth hc hm
  · exact h.handlePing hc hm
  · exact h.handlePong hc hm
  · exact h.startHandleAck hc hm
  · exact h.catchError hc hm (Thrown.worded_of_none (by simp))

theorem startBusinessMessage (h : st.Clear Q) {connId : JsString} {message : Envelope}
    (hc : connId ≠ []) (hm : message.Read) (hk : message.kind = .biz) :
    (st.startBusinessMessage id connId message).Clear Q := by
  unfold WebSocketRuntime.startBusinessMessage
  split_ifs
  · exact h.catchError hc hm (HardessError.worded_of_text (by simp [drainingError]) (by simp [drainingError]))
  · split
    · exact h.catchError hc hm (Thrown.worded_of_none (by simp))
    · exact h.await ⟨hc, hm, hk⟩

theorem acknowledgeLocally (h : st.Clear Q) {connId : JsString} {message : Envelope}
    (hc : connId ≠ []) (hm : message.Read) (ack : AckMode) :
    (st.acknowledgeLocally connId message ack).Clear Q := by
  unfold WebSocketRuntime.acknowledgeLocally
  by_cases ha : ack = .none
  · rw [if_pos ha]
    exact h
  rw [if_neg ha]
  have hsent := h.enqueueOutbound connId (.recvAck message.msgId message.traceId)
    (fun _ hf ht => ⟨⟨hf, hc, hm.fields.traceId⟩, hm.fields.msgId, ht⟩) (by simp)
  split
  · rename_i s₁ error heq
    rw [heq] at hsent
    exact hsent.catchError hc hm error.worded
  · rename_i s₁ heq
    rw [heq] at hsent
    split_ifs
    · exact hsent.enqueueOrCatch hc hm
        (fun _ hf ht => ⟨⟨hf, by simp, hm.fields.traceId⟩, hm.fields.msgId, ht⟩) (by simp)
    · exact hsent

theorem afterHooks (h : st.Clear Q) {connId : JsString} {message : Envelope} (auth : AuthContext)
    {result : HookResult} (hc : connId ≠ []) (hm : message.Read) (hk : message.kind = .biz)
    (hp : ∀ peerId ∈ result.peerIds, peerId ≠ []) (hd : result.dispatch.Clear) :
    (st.afterHooks id connId message auth result).Clear Q := by
  unfold WebSocketRuntime.afterHooks
  split_ifs
  · exact h.acknowledgeLocally hc hm _
  · exact h.catchError hc hm (Thrown.worded_of_none (by simp))
  · refine h.findNext ⟨hc, hm, read_outboundEnvelope hm hd, hk, hp⟩ ?_ _
    simp [AllClear]

/-! ### Requests of other nodes -/

theorem deliverNext (h : st.Clear Q) {request : DeliverRequest} (hr : request.envelope.Read)
    (hk : request.envelope.kind = .biz) (startedAt : ℕ) (delivered targets : List ConnRef) :
    (st.deliverNext id request startedAt delivered targets).Clear Q := by
  rcases @deliverNext_cases st id request startedAt delivered targets with
    ⟨target, rest, -, -, -, heq⟩ | heq
  · rw [heq]
    exact h.await ⟨hr, hk⟩
  · rw [heq, WebSocketRuntime.deliverNext]
    refine Clear.emit ?_ (Effect.Silent.clear trivial)
    split_ifs
    · exact h
    · exact h.retable

theorem deliverTarget (h : st.Clear Q) {request : DeliverRequest} (hr : request.envelope.Read)
    (hk : request.envelope.kind = .biz) (startedAt : ℕ) (delivered : List ConnRef)
    (target : ConnRef) (rest : List ConnRef) (ok : Bool) :
    (st.deliverTarget id request startedAt delivered target rest ok).Clear Q := by
  have hpend : (if request.ack = .none then st else st.setPendingHandleAck request.envelope.msgId
      request.sender (startedAt + st.deps.pendingTtl)).Clear Q := by
    split_ifs
    · exact h
    · exact h.retable
  have hsent := hpend.enqueueOutbound target.connId (.envelope request.envelope)
    (fun _ _ _ => ⟨hk, hr.fields, hr.payload⟩) (by simp)
  unfold WebSocketRuntime.deliverTarget
  by_cases hok : ok = true
  · rw [if_pos hok]
    dsimp only
    split
    · rename_i s₁ heq
      rw [heq] at hsent
      exact hsent.deliverNext hr hk _ _ _
    · rename_i s₁ error heq
      rw [heq] at hsent
      exact hsent.emit (Effect.Silent.clear trivial)
  · rw [if_neg hok]
    exact h.deliverNext hr hk _ _ _

theorem deliverCluster (h : st.Clear Q) {request : DeliverRequest} (hr : request.envelope.Read)
    (hk : request.envelope.kind = .biz) : (st.deliverCluster id request).Clear Q := by
  unfold WebSocketRuntime.deliverCluster
  split_ifs
  · exact h.emit (Effect.Silent.clear trivial)
  · exact h.emit (Effect.Silent.clear trivial)
  · have hpruned : st.prunePendingHandleAcks.pruneRecentClusterDeliveries.Clear Q := h.retable
    dsimp only
    split
    · exact hpruned.emit (Effect.Silent.clear trivial)
    · exact hpruned.deliverNext hr hk _ _ _

theorem forwardClusterHandleAck (h : st.Clear Q) {request : ForwardRequest}
    (hr : request.ackFor ≠ [] ∧ request.traceId ≠ some []) :
    (st.forwardClusterHandleAck id request).Clear Q := by
  have hdeleted : (st.deletePendingHandleAck request.ackFor).Clear Q := h.retable
  unfold WebSocketRuntime.forwardClusterHandleAck
  dsimp only
  split_ifs
  · exact hdeleted.await hr
  · exact hdeleted.emit (Effect.Silent.clear trivial)

theorem finishForward (h : st.Clear Q) {request : ForwardRequest}
    (hr : request.ackFor ≠ [] ∧ request.traceId ≠ some []) (ok : Bool) :
    (st.finishForward id request ok).Clear Q := by
  have hsent := h.enqueueOutbound request.sender.connId
    (.handleAck (js "cluster") request.ackFor request.traceId)
    (fun _ hf ht => ⟨⟨hf, by simp, hr.2⟩, hr.1, ht⟩) (by simp)
  unfold WebSocketRuntime.finishForward
  split_ifs
  · split
    · rename_i s₁ heq
      rw [heq] at hsent
      exact hsent.emit (Effect.Silent.clear trivial)
    · rename_i s₁ error heq
      rw [heq] at hsent
      exact hsent.emit (Effect.Silent.clear trivial)
  · exact h.emit (Effect.Silent.clear trivial)

/-! ### Connections -/

/-- The connections, their contexts and what is registered may change. -/
theorem rewire (h : st.Clear Q) (hdeps : s.deps = st.deps) (hcalls : s.calls = st.calls)
    (heffects : s.effects = st.effects) (hconn : ∀ connId ∈ s.connections, connId ≠ [])
    (hauth : ∀ connId auth, s.authOf connId = some auth → auth.peerId ≠ [])
    (hloc : s.peerLocator.Consistent)
    (hreg : ∀ conn, s.peerLocator.Holds conn → conn.Clear) : s.Clear Q :=
  ⟨hdeps ▸ h.nodeId, hdeps ▸ h.hostGroupId, hconn, hauth, hloc, hreg, hcalls ▸ h.calls,
    heffects ▸ h.effects⟩

theorem unregister_all (h : st.Clear Q) (connIds : List JsString) {conn : ConnRef}
    (hc : (connIds.foldl (fun l connId => l.unregister connId) st.peerLocator).Holds conn) :
    conn.Clear := by
  refine h.registered conn (h.locator.holds_iff.2 ?_)
  rw [(h.locator.unregister_all connIds).holds_iff,
    InMemoryPeerLocator.get_unregister_all] at hc
  split_ifs at hc
  exact hc

theorem authed (h : st.Clear Q) {connId : JsString} {auth : AuthContext} (hc : connId ≠ [])
    (ha : auth.peerId ≠ []) : (st.authed connId auth).Clear Q := by
  have hown : (st.ownRef connId auth.peerId).Clear := ⟨⟨h.nodeId, hc, ha⟩, h.hostGroupId⟩
  have hauth : ∀ connId' auth', (st.authed connId auth).authOf connId' = some auth' →
      auth'.peerId ≠ [] := by
    intro connId' auth' hget
    change (st.modify connId _).authOf connId' = some auth' at hget
    rw [authOf_modify] at hget
    split_ifs at hget
    · obtain ⟨connection, -, heq⟩ := Option.bind_eq_some_iff.1 hget
      cases heq
      exact ha
    · exact h.auth _ _ hget
  obtain ⟨objects, heq, -⟩ := @authed_eq st connId auth
  rw [heq] at hauth ⊢
  refine h.rewire rfl rfl rfl h.connections hauth (h.locator.register _) fun conn hconn => ?_
  rw [(h.locator.register _).holds_iff, InMemoryPeerLocator.register_eq] at hconn
  dsimp only at hconn
  rw [JsMap.get_set] at hconn
  split_ifs at hconn
  · cases hconn
    exact hown
  · exact h.registered conn (h.locator.holds_iff.2 hconn)

theorem finishAuth (h : st.Clear Q) {connId : JsString} {message : Envelope} {auth : AuthContext}
    (hc : connId ≠ []) (hm : message.Read) (ha : auth.peerId ≠ [])
    (hx : auth.expiresAt.isFinite = true) (hgrant : Q connId auth) :
    (st.finishAuth connId message auth).Clear Q := by
  cases hq : st.peerQuotaExceeded connId auth.peerId with
  | true =>
    unfold WebSocketRuntime.finishAuth
    rw [if_pos hq]
    exact h.catchError hc hm (Thrown.worded_of_none (by simp))
  | false =>
    rw [finishAuth_eq hq]
    refine (h.authed hc ha).enqueueOrCatch hc hm (fun _ hf _ =>
      ⟨⟨hf, hc, hm.fields.traceId⟩, ha, hx⟩) fun auth' traceId heq => ?_
    cases heq
    exact hgrant

theorem openSocket (h : st.Clear Q) {connId : JsString} (hc : connId ≠ []) :
    (st.openSocket connId).Clear Q := by
  unfold WebSocketRuntime.openSocket
  split_ifs with hopened
  · exact h
  · exact h.emit (Effect.Silent.clear trivial)
  · exact h.emit (Effect.Silent.clear trivial)
  · refine (h.socketSend connId fun _ hf _ => ?_).emit (Effect.Silent.clear trivial)
    exact ⟨⟨hf, hc, by simp⟩, by simp, by simp⟩
  · refine h.rewire rfl rfl rfl (fun connId' hmem => ?_) (fun connId' auth hget => ?_) h.locator
      h.registered
    · rcases List.mem_append.1 hmem with hold | hlast
      · exact h.connections connId' hold
      · exact List.mem_singleton.1 hlast ▸ hc
    · unfold authOf at hget
      dsimp only at hget
      rw [JsMap.get_set] at hget
      split_ifs at hget
      · cases hget
      · exact h.auth connId' auth hget

theorem message (h : st.Clear Q) {connId : JsString} {envelope : Option Envelope}
    (he : ∀ e, envelope = some e → e.Read) : (st.message id connId envelope).Clear Q := by
  unfold WebSocketRuntime.message
  split
  · exact h
  · rename_i found hget
    have hc : connId ≠ [] := by
      unfold WebSocketRuntime.connection at hget
      split_ifs at hget with hmem
      exact h.connections connId hmem
    dsimp only
    split_ifs
    · refine Clear.closeConnection (Clear.socketSend (h.modify ?_ ?_) connId fun _ hf _ => ?_) _ _ _
      · exact fun _ => rfl
      · exact fun _ => rfl
      · cases envelope with
        | none => exact ⟨⟨hf, hc, by simp⟩, by simp, by simp⟩
        | some e =>
          have hr := (he e rfl).fields
          exact ⟨⟨hf, hc, hr.traceId⟩, by simp, by simpa using hr.msgId⟩
    · -- the times of a connection say nothing that a frame could carry
      have htimes : (st.modify connId fun connection => { connection with
          lastSeenAt := st.now
          messageTimestamps := st.recentMessages found ++ [st.now] }).Clear Q :=
        h.modify (fun _ => rfl) fun _ => rfl
      cases envelope with
      | none =>
        refine Clear.closeConnection (htimes.socketSend connId fun _ hf _ => ?_) _ _ _
        exact ⟨⟨hf, hc, by simp⟩, by simp, by simp⟩
      | some e =>
        dsimp only
        split
        · exact htimes.handleSystemMessage hc (he e rfl)
        · rename_i hkind
          exact htimes.startBusinessMessage hc (he e rfl) hkind

theorem closeSocket (h : st.Clear Q) (connId : JsString) : (st.closeSocket connId).Clear Q := by
  have hmod : (if connId ∈ st.connections then
      st.modify connId fun connection => { connection with
        egress := { connection.egress with closed := true, drainTimer := false } }
      else st).Clear Q := by
    split_ifs
    · have hframe := @frame_modify st connId (fun connection => { connection with
        egress := { connection.egress with closed := true, drainTimer := false } }) fun _ => rfl
      refine h.rewire (congrArg Frame.deps hframe) (congrArg Frame.calls hframe) effects_modify
        ?_ ?_ ?_ ?_
      · rw [show WebSocketRuntime.connections _ = _ from congrArg Frame.connections hframe]
        exact h.connections
      · rw [show WebSocketRuntime.authOf _ = _ from congrArg Frame.auth hframe]
        exact h.auth
      · rw [show WebSocketRuntime.peerLocator _ = _ from congrArg Frame.peerLocator hframe]
        exact h.locator
      · rw [show WebSocketRuntime.peerLocator _ = _ from congrArg Frame.peerLocator hframe]
        exact h.registered
    · exact h
  unfold WebSocketRuntime.closeSocket
  dsimp only
  generalize (if connId ∈ st.connections then
    st.modify connId fun connection => { connection with
      egress := { connection.egress with closed := true, drainTimer := false } }
    else st) = s at hmod
  refine hmod.rewire rfl rfl rfl (fun connId' hmem => ?_) hmod.auth
    (hmod.locator.unregister connId) fun conn hc => hmod.unregister_all [connId] hc
  exact hmod.connections connId' (List.mem_of_mem_filter hmem)

/-- An operation on every connection of a list. -/
theorem foldl {f : WebSocketRuntime → JsString → WebSocketRuntime} {connIds : List JsString}
    (hf : ∀ s connId, connId ∈ connIds → s.Clear Q → (f s connId).Clear Q) (h : st.Clear Q) :
    (connIds.foldl f st).Clear Q := by
  induction connIds generalizing st with
  | nil => exact h
  | cons connId connIds ih =>
    exact ih (fun s connId' hmem => hf s connId' (List.mem_cons_of_mem _ hmem))
      (hf st connId List.mem_cons_self h)

theorem forceClose (h : st.Clear Q) (connIds : List JsString) (code : ℕ) (reason : JsString) :
    (connIds.foldl (fun s connId => s.closeConnection connId code reason) st).Clear Q :=
  foldl (fun _ connId _ hs => hs.closeConnection connId code reason) h

theorem beginShutdown (h : st.Clear Q) : st.beginShutdown.Clear Q := by
  have hgone : Clear Q { st with
      shuttingDown := true
      peerLocator := st.connections.foldl (fun l connId => l.unregister connId) st.peerLocator } :=
    h.rewire rfl rfl rfl h.connections h.auth (h.locator.unregister_all _) fun conn hc =>
      h.unregister_all _ hc
  unfold WebSocketRuntime.beginShutdown
  dsimp only
  split_ifs
  · exact h
  · exact hgone.forceClose _ _ _
  · exact hgone.retable

theorem shutdownTimerFired (h : st.Clear Q) : st.shutdownTimerFired.Clear Q := by
  unfold WebSocketRuntime.shutdownTimerFired
  split_ifs
  · exact Clear.forceClose h.retable _ _ _
  · exact h

theorem dispose (h : st.Clear Q) : st.dispose.Clear Q := by
  unfold WebSocketRuntime.dispose
  split_ifs
  · exact h
  · have hclosed := h.forceClose st.connections 1001 (js "runtime disposed")
    exact hclosed.rewire rfl rfl rfl (fun _ hmem => by cases hmem) hclosed.auth
      (h.locator.unregister_all _) fun conn hc => h.unregister_all _ hc

theorem heartbeat (h : st.Clear Q) {connId : JsString} (hc : connId ≠ []) :
    (st.heartbeat connId).Clear Q := by
  unfold WebSocketRuntime.heartbeat
  split
  · exact h
  · split_ifs
    · exact h.closeConnection _ _ _
    · refine Clear.enqueueOutbound (h.modify ?_ ?_) connId .ping (fun _ hf _ => ⟨hf, hc⟩) (by simp)
      · exact fun _ => rfl
      · exact fun _ => rfl
    · exact h

theorem tickHeartbeat (h : st.Clear Q) : st.tickHeartbeat.Clear Q :=
  foldl (fun _ connId hmem hs => hs.heartbeat (h.connections connId hmem)) h.retable

theorem queueEvent (h : st.Clear Q) (connId : JsString) (event : Outbox.Event OutboundMessage) :
    (st.queueEvent connId event).Clear Q := by
  unfold WebSocketRuntime.queueEvent
  cases hc : st.objects.get connId with
  | none => exact h
  | some connection => exact h.modifyEgress hc (Outbox.step_shuts event)

/-! ### Every event -/

theorem planned {located remote : List (JsString × List ConnRef)}
    (hl : AllClear (located.flatMap Prod.snd)) (hr : AllClear (remote.flatMap Prod.snd)) :
    AllClear (planned located remote) := by
  intro conn hmem
  obtain ⟨_, hfound, hconn⟩ := List.mem_flatMap.1 hmem
  obtain ⟨found, hlocated, rfl⟩ := List.mem_map.1 hfound
  have hhere {conn : ConnRef} (hconn : conn ∈ found.2) : conn.Clear :=
    hl conn (List.mem_flatMap.2 ⟨found, hlocated, hconn⟩)
  split at hconn
  · exact hhere hconn
  · next conns hlook =>
    rcases mem_of_mem_mergeConnRefs hconn with hleft | hright
    · exact hhere hleft
    · obtain ⟨before, after, rfl, -⟩ := List.lookup_eq_some_iff.1 hlook
      exact hr conn (List.mem_flatMap.2 ⟨(found.1, conns), by simp, hright⟩)

/-- A call goes on. -/
theorem answer (h : st.Clear Q) {call : Call} (hcall : call.Clear) {answer : Answer}
    (hfed : (Event.resume id answer).Fed)
    (hgrant : ∀ connId message auth, call = .authenticating connId message →
      answer = .authenticated (.ok auth) → Q connId auth) :
    (st.answer id call answer).Clear Q := by
  unfold WebSocketRuntime.answer
  split
  · split
    · exact h.finishAuth hcall.1 hcall.2 hfed.1 hfed.2 (hgrant _ _ _ rfl rfl)
    · exact h.catchError hcall.1 hcall.2 hfed
  · split
    · exact h.await hcall
    · exact h.catchError hcall.1 hcall.2.1 (Thrown.worded_of_none (by simp))
    · exact h.catchError hcall.1 hcall.2.1 hfed
  · split
    · exact h.afterHooks _ hcall.1 hcall.2.1 hcall.2.2 hfed.1 hfed.2
    · exact h.catchError hcall.1 hcall.2.1 hfed
  · exact h.findNext hcall.1 hcall.2 _
  · exact h.serveTargets hcall.1 (by simp [AllClear]) (planned hcall.2 hfed) _
  · exact h.serveTarget hcall.1 hcall.2.1 hcall.2.2 _ _
  · split
    · exact h.relayNext hcall.1 (allClear_append.2 ⟨hcall.2, hfed⟩) _
    · exact h.relayNext hcall.1 hcall.2 _
  · split
    · exact h
    · exact h.catchError hcall.1 hcall.2 trivial
  · split_ifs
    · exact h.enqueueOrCatch hcall.1 hcall.2.1
        (fun _ hf ht => ⟨⟨hf, hcall.1, hcall.2.1.fields.traceId⟩, hcall.2.2, ht⟩) (by simp)
    · exact h.catchError hcall.1 hcall.2.1 (Thrown.worded_of_none (by simp))
  · exact h.deliverTarget hcall.1 hcall.2 _ _ _ _ _
  · exact h.finishForward hcall _
  · exact h.await hcall

end Clear

theorem clear_create {deps : WebSocketRuntimeDeps} (hn : deps.nodeId ≠ [])
    (hg : deps.hostGroupId ≠ some []) : (create deps).Clear Q where
  nodeId := hn
  hostGroupId := hg
  connections := fun _ hmem => by cases hmem
  auth := fun _ _ hget => by cases hget
  locator := InMemoryPeerLocator.consistent_empty
  registered := by
    rintro conn (⟨_, hget⟩ | ⟨_, _, _, hget, -⟩) <;> cases hget
  calls := fun _ _ hget => by cases hget
  effects := fun _ hmem => by cases hmem

/-- **What is fed into the runtime keeps it clear**, and it grants a context only when a call that
asks for one is answered with it. -/
theorem clear_step {Q' : JsString → AuthContext → Prop} (h : st.Clear Q') {e : Event}
    (hfed : e.Fed) (hgrant : ∀ id connId message auth,
      e = .resume id (.authenticated (.ok auth)) →
        st.calls.get id = some (.authenticating connId message) → Q connId auth) :
    (st.step e).Clear Q := by
  have hclear : st.cleared.Clear Q := h.cleared
  cases e with
  | advance ms => exact hclear.retable
  | openSocket connId => exact hclear.openSocket hfed
  | message connId envelope =>
    obtain ⟨raw, rfl⟩ := hfed
    exact Clear.message hclear.retable fun e he => e.read_of_readEnvelope he
  | closeSocket connId => exact hclear.closeSocket connId
  | resume id answer =>
    show (st.cleared.resume id answer).Clear Q
    unfold resume
    cases hc : st.cleared.calls.get id with
    | none => exact hclear
    | some call =>
      -- the call is off the list while it goes on
      refine (hclear.take id).answer (hclear.calls id call hc) hfed ?_
      intro connId message auth hcall ha
      exact hgrant id connId message auth (ha ▸ rfl) (hcall ▸ hc)
  | drain connId => exact hclear.queueEvent connId _
  | drainTimer connId => exact hclear.queueEvent connId _
  | heartbeat =>
    show Clear Q (if st.cleared.disposed then _ else _)
    split_ifs
    · exact hclear
    · exact hclear.tickHeartbeat
  | beginShutdown => exact hclear.beginShutdown
  | shutdownTimer => exact hclear.shutdownTimerFired
  | dispose => exact hclear.dispose
  | deliverCluster request => exact Clear.deliverCluster hclear.retable hfed.1 hfed.2
  | forwardClusterHandleAck request => exact Clear.forwardClusterHandleAck hclear.retable hfed

/-- Whatever an event hands to a connection, the client takes its frame for what was sent. -/
def Hears (st : WebSocketRuntime) (e : Event) : Prop :=
  ∀ connId message, .send connId message ∈ (st.step e).effects ∨
    .enqueued connId message ∈ (st.step e).effects →
    ∀ stamp : Stamp, stamp.Fit → stamp.time.isFinite = true →
      onMessage (message.text stamp connId) = message.heard stamp

/-- A connection opens, speaks before it is authenticated, and a tick of the heartbeat follows. -/
def speaksTooEarly : List Event :=
  [.openSocket (js "a"), .message (js "a") (readEnvelope (serializeEnvelope (chatEnvelope none))),
    .heartbeat]

end WebSocketRuntime

end Hardess
