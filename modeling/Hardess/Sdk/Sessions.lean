import Hardess.Lib.Machine
import Hardess.Sdk.ConnectedClient
import Hardess.Sdk.Deliveries

/-!
# Sessions of the client

`src/sdk/runtime/client.ts` and `src/sdk/transport/ws.ts` over whole runs.

* `Follows`: credentials are those of the last `connect` and go out once on a socket, the hub
  accepts a client that sent them, and business messages go to a socket on which it did;
* `ConnectedClient.Sound`: what holds in every state;
* `Resolves`: what a step does to the promises of `waitUntilReady`;
* **`session_run`**: the sessions of a run.
-/

namespace Hardess

/-! ### Statements -/

/-- The token of a `connect`. -/
def SessionEntry.token : SessionEntry → Option JsString
  | .connect token => some token
  | _ => none

/-- The id of a business message that was sent. -/
def SessionEntry.business : SessionEntry → Option JsString
  | .sent _ (.business msgId) => some msgId
  | _ => none

/-- The token of the last `connect`. -/
def lastToken (log : List SessionEntry) : Option JsString :=
  (log.filterMap SessionEntry.token).getLast?

/-- What an entry asks of those before it. -/
def Follows (log : List SessionEntry) : SessionEntry → Prop
  | .sent i (.system (.auth token)) =>
    lastToken log = some token ∧ ∀ token', .sent i (.system (.auth token')) ∉ log
  | .sent i (.business _) => .accepted i ∈ log
  | .accepted i => ∃ token, .sent i (.system (.auth token)) ∈ log
  | _ => True

/-- Nothing but a message that is neither credentials nor business. -/
def ClientSystemMessage.IsPlain : ClientSystemMessage → Prop
  | .auth _ => False
  | _ => True

namespace ConnectedClient

/-- The client talks in sessions. -/
structure Session (s : ConnectedClient) : Prop where
  justified : Log.Justified Follows s.log
  /-- A ready client has a socket on which it was accepted, and a heartbeat. -/
  ready : s.client.readyState = .ready →
    s.heartbeatTimer.isSome ∧ ∃ i, s.transport.socket = some i ∧ .accepted i ∈ s.log
  /-- Every business message was handed to a socket, once, in the order of the calls. -/
  carried : s.log.filterMap SessionEntry.business = s.client.sends.map (·.msgId)
  heartbeats : s.heartbeats = s.heartbeatTimer.toList
  resting : s.client.readyState = .idle ∨ s.client.readyState = .closed → s.heartbeats = []
  /-- Nobody waits for a client that is ready, and who waits has the timer that was asked for. -/
  waiting : ∀ waiter ∈ s.readyWaiters, waiter.settlement = none →
    s.client.readyState ≠ .ready ∧ waiter.timer = ReadyWaiter.isTimed waiter.timeoutMs
  settled : ∀ waiter ∈ s.readyWaiters, waiter.settlement.isSome → waiter.timer = false

/-- Promises stay, those that are settled stay as they are, and one resolves only if `ok`. -/
def Settles (ok : Prop) (waiters waiters' : List ReadyWaiter) : Prop :=
  ∀ (k : ℕ) (waiter : ReadyWaiter), waiters[k]? = some waiter →
    ∃ waiter', waiters'[k]? = some waiter' ∧ waiter'.timeoutMs = waiter.timeoutMs ∧
      (waiter.settlement.isSome → waiter' = waiter) ∧
      (waiter.settlement = none → waiter'.settlement = some (.ok ()) → ok)

/-- The promises of `waitUntilReady` are settled once, and resolve when the client is ready. -/
def Resolves (s t : ConnectedClient) : Prop :=
  Settles (t.client.readyState = .ready) s.readyWaiters t.readyWaiters

/-- What holds in every state. -/
structure Sound (s : ConnectedClient) : Prop where
  below : ∀ i, s.transport.socket = some i → i < s.transport.nextSocket
  url : s.transport.socket.isSome → s.transport.url.isSome
  opened : ∀ i ∈ s.opened, i < s.transport.nextSocket
  justified : Log.Justified Follows s.log
  token : s.transport.url.isSome → lastToken s.log = some s.token
  greeted : ∀ i token, SessionEntry.sent i (.system (.auth token)) ∈ s.log → i ∈ s.opened
  introduced : ∀ i, s.transport.socket = some i → i ∈ s.opened →
    ∃ token, SessionEntry.sent i (.system (.auth token)) ∈ s.log
  carried : s.log.filterMap SessionEntry.business = s.client.sends.map (·.msgId)
  ready : s.client.readyState = .ready →
    ∃ i, s.transport.socket = some i ∧ i ∈ s.opened ∧ .accepted i ∈ s.log
  heartbeats : s.heartbeats = s.heartbeatTimer.toList
  resting : s.client.readyState = .idle ∨ s.client.readyState = .closed → s.heartbeatTimer = none
  beating : ∀ i, s.transport.socket = some i → i ∈ s.opened → s.heartbeatTimer.isSome
  waiting : ∀ waiter ∈ s.readyWaiters, waiter.settlement = none →
    s.client.readyState ≠ .ready ∧ waiter.timer = ReadyWaiter.isTimed waiter.timeoutMs
  settled : ∀ waiter ∈ s.readyWaiters, waiter.settlement.isSome → waiter.timer = false

variable {options : ConnectedClientOptions} {s : ConnectedClient}

theorem Sound.session (h : s.Sound) : s.Session where
  justified := h.justified
  ready hready := by
    obtain ⟨i, hi, hopened, haccepted⟩ := h.ready hready
    exact ⟨h.beating i hi hopened, i, hi, haccepted⟩
  carried := h.carried
  heartbeats := h.heartbeats
  resting hrest := by rw [h.heartbeats, h.resting hrest, Option.toList_none]
  waiting := h.waiting
  settled := h.settled

theorem sound_create (options : ConnectedClientOptions) : (create options).Sound where
  below _ hi := nomatch hi
  url hi := nomatch hi
  opened _ hi := absurd hi List.not_mem_nil
  justified := Log.justified_nil
  token hi := nomatch hi
  greeted _ _ hi := absurd hi List.not_mem_nil
  introduced _ hi := nomatch hi
  carried := rfl
  ready hready := nomatch hready
  heartbeats := rfl
  resting _ := rfl
  beating _ hi := nomatch hi
  waiting _ hw := absurd hw List.not_mem_nil
  settled _ hw := absurd hw List.not_mem_nil

/-! ### Parts of the state -/

/-- A transport with the same sockets. -/
theorem Sound.withTransport (h : s.Sound) {transport : WebSocketTransport}
    (hsocket : transport.socket = s.transport.socket)
    (hnext : transport.nextSocket = s.transport.nextSocket)
    (hurl : transport.url = s.transport.url) :
    Sound { s with transport } where
  below i hi := by
    rw [hsocket] at hi
    exact hnext ▸ h.below i hi
  url hi := by
    rw [hsocket] at hi
    exact hurl ▸ h.url hi
  opened i hi := hnext ▸ h.opened i hi
  justified := h.justified
  token hi := h.token (hurl ▸ hi)
  greeted := h.greeted
  introduced i hi := h.introduced i (hsocket ▸ hi)
  carried := h.carried
  ready hready := by
    obtain ⟨i, hi, hrest⟩ := h.ready hready
    exact ⟨i, hsocket.trans hi, hrest⟩
  heartbeats := h.heartbeats
  resting := h.resting
  beating i hi := h.beating i (hsocket ▸ hi)
  waiting := h.waiting
  settled := h.settled

/-- A client in the same state, with the same sends. -/
theorem Sound.withClient (h : s.Sound) {client : HardessClient}
    (hstate : client.readyState = s.client.readyState)
    (hsends : client.sends.map (·.msgId) = s.client.sends.map (·.msgId)) :
    Sound { s with client } where
  below := h.below
  url := h.url
  opened := h.opened
  justified := h.justified
  token := h.token
  greeted := h.greeted
  introduced := h.introduced
  carried := h.carried.trans hsends.symm
  ready hready := h.ready (hstate ▸ hready)
  heartbeats := h.heartbeats
  resting hrest := h.resting (hstate ▸ hrest)
  beating := h.beating
  waiting waiter hw hnone := by
    obtain ⟨hne, htimer⟩ := h.waiting waiter hw hnone
    exact ⟨fun heq => hne (hstate ▸ heq), htimer⟩
  settled := h.settled

/-- A log with one more entry, which is not credentials, business or a call of `connect`. -/
theorem Sound.note (h : s.Sound) {x : SessionEntry} (hx : Follows s.log x)
    (htoken : x.token = none) (hbusiness : x.business = none)
    (hauth : ∀ i token, x ≠ .sent i (.system (.auth token))) :
    Sound { s with log := s.log ++ [x] } where
  below := h.below
  url := h.url
  opened := h.opened
  justified := Log.justified_concat.2 ⟨h.justified, hx⟩
  token hi := by
    rw [← h.token hi]
    simp [lastToken, htoken]
  greeted i token hi := by
    obtain hold | hnew := List.mem_append.1 hi
    · exact h.greeted i token hold
    · exact absurd (List.mem_singleton.1 hnew).symm (hauth i token)
  introduced i hi ho := by
    obtain ⟨token, ht⟩ := h.introduced i hi ho
    exact ⟨token, List.mem_append_left _ ht⟩
  carried := by
    rw [← h.carried]
    simp [hbusiness]
  ready hready := by
    obtain ⟨i, hi, ho, ha⟩ := h.ready hready
    exact ⟨i, hi, ho, List.mem_append_left _ ha⟩
  heartbeats := h.heartbeats
  resting := h.resting
  beating := h.beating
  waiting := h.waiting
  settled := h.settled

/-- The heartbeat that is stopped is the only one. -/
theorem Sound.heartbeats_filter (h : s.Sound) :
    (s.heartbeats.filter fun t => some t ≠ s.heartbeatTimer) = [] := by
  rw [h.heartbeats]
  cases s.heartbeatTimer <;> simp

/-! ### Promises -/

theorem settle_settlement (waiter : ReadyWaiter) (settlement : Except ReadyError Unit) :
    (waiter.settle settlement).settlement.isSome = true ∧
      (waiter.settle settlement).timeoutMs = waiter.timeoutMs := by
  unfold ReadyWaiter.settle
  split_ifs with hsome
  · exact ⟨hsome, rfl⟩
  · exact ⟨rfl, rfl⟩

theorem settle_timer {waiter : ReadyWaiter} {settlement : Except ReadyError Unit}
    (h : waiter.settlement.isSome → waiter.timer = false) :
    (waiter.settle settlement).timer = false := by
  unfold ReadyWaiter.settle
  split_ifs with hsome
  · exact h hsome
  · rfl

/-- Every promise is settled, whatever state the client is in. -/
theorem Sound.forall_settled (h : s.Sound) (settlement : Except ReadyError Unit) :
    ∀ waiter ∈ (s.settleReadyWaiters settlement).readyWaiters,
      waiter.settlement.isSome = true ∧ waiter.timer = false := by
  intro waiter hw
  obtain ⟨old, hold, rfl⟩ := List.mem_map.1 hw
  exact ⟨(settle_settlement old settlement).1, settle_timer (h.settled old hold)⟩

theorem Sound.settleReadyWaiters (h : s.Sound) (settlement : Except ReadyError Unit) :
    (s.settleReadyWaiters settlement).Sound where
  below := h.below
  url := h.url
  opened := h.opened
  justified := h.justified
  token := h.token
  greeted := h.greeted
  introduced := h.introduced
  carried := h.carried
  ready := h.ready
  heartbeats := h.heartbeats
  resting := h.resting
  beating := h.beating
  waiting waiter hw hnone := by
    have hsome := (h.forall_settled settlement waiter hw).1
    rw [hnone] at hsome
    cases hsome
  settled waiter hw _ := (h.forall_settled settlement waiter hw).2

theorem Sound.waitUntilReady (h : s.Sound) (timeoutMs : Option JsNumber) :
    (s.waitUntilReady timeoutMs).Sound where
  below := h.below
  url := h.url
  opened := h.opened
  justified := h.justified
  token := h.token
  greeted := h.greeted
  introduced := h.introduced
  carried := h.carried
  ready := h.ready
  heartbeats := h.heartbeats
  resting := h.resting
  beating := h.beating
  waiting waiter hw hnone := by
    obtain hold | hnew := List.mem_append.1 hw
    · exact h.waiting waiter hold hnone
    · obtain rfl := List.mem_singleton.1 hnew
      split_ifs at hnone ⊢ with hready
      exact ⟨hready, rfl⟩
  settled waiter hw hsome := by
    obtain hold | hnew := List.mem_append.1 hw
    · exact h.settled waiter hold hsome
    · obtain rfl := List.mem_singleton.1 hnew
      split_ifs at hsome ⊢ with hready
      · rfl
      · cases hsome

theorem fire_cases (waiter : ReadyWaiter) : waiter.fire = waiter ∨
    ∃ error, waiter.fire = waiter.settle (.error error) := by
  unfold ReadyWaiter.fire
  split_ifs
  · exact .inr ⟨_, rfl⟩
  · exact .inl rfl

/-- A waiter after the call of a timer. -/
theorem mem_modify_fire {k : ℕ} {waiters : List ReadyWaiter} {waiter : ReadyWaiter}
    (hw : waiter ∈ waiters.modify k ReadyWaiter.fire) :
    waiter ∈ waiters ∨ ∃ old ∈ waiters, ∃ error, waiter = old.settle (.error error) := by
  obtain ⟨j, hj⟩ := List.mem_iff_getElem?.1 hw
  rw [List.getElem?_modify] at hj
  obtain ⟨old, hold, rfl⟩ := Option.map_eq_some_iff.1 hj
  have hmem := List.mem_of_getElem? hold
  split_ifs
  · obtain heq | ⟨error, heq⟩ := fire_cases old
    · exact .inl (by rwa [heq])
    · exact .inr ⟨old, hmem, error, heq⟩
  · exact .inl hmem

theorem Sound.readyTimer (h : s.Sound) (k : ℕ) :
    Sound { s with readyWaiters := s.readyWaiters.modify k ReadyWaiter.fire } where
  below := h.below
  url := h.url
  opened := h.opened
  justified := h.justified
  token := h.token
  greeted := h.greeted
  introduced := h.introduced
  carried := h.carried
  ready := h.ready
  heartbeats := h.heartbeats
  resting := h.resting
  beating := h.beating
  waiting waiter hw hnone := by
    obtain hold | ⟨old, -, error, rfl⟩ := mem_modify_fire hw
    · exact h.waiting waiter hold hnone
    · have hsome := (settle_settlement old (.error error)).1
      rw [hnone] at hsome
      cases hsome
  settled waiter hw hsome := by
    obtain hold | ⟨old, hold, error, rfl⟩ := mem_modify_fire hw
    · exact h.settled waiter hold hsome
    · exact settle_timer (h.settled old hold)

/-! ### What is sent -/

theorem Sound.speak (h : s.Sound) (stamp : Stamp) {message : ClientSystemMessage}
    (hplain : message.IsPlain) : (s.speak stamp message).Sound := by
  have hsent := @Sound.withTransport s h (s.transport.send (message.text stamp)) rfl rfl rfl
  unfold ConnectedClient.speak ConnectedClient.send
  cases s.transport.socket with
  | none => simpa using hsent
  | some i =>
    refine hsent.note ?_ rfl rfl ?_
    · cases message with
      | auth token => exact hplain.elim
      | ping | pong | handleAck => trivial
    · rintro j token heq
      cases heq
      exact hplain

theorem readyState_of_ensureReady {client : HardessClient} (h : client.ensureReady = .ok ()) :
    client.readyState = .ready := by
  unfold HardessClient.ensureReady at h
  split_ifs at h with hready
  exact hready

/-- **A business message goes to the socket on which the client was accepted.** -/
theorem Sound.emitTracked (h : s.Sound) (stamp : Stamp) (input : ClientEmitInput)
    (content : Option BusinessContent) : (s.emitTracked stamp input content).Sound := by
  unfold ConnectedClient.emitTracked
  split
  · rename_i content hok
    have hready := readyState_of_ensureReady hok
    obtain ⟨i, hi, hopened, haccepted⟩ := h.ready hready
    -- a ready client has a socket, and the message goes out on it
    have hlog : (s.transport.socket.map (SessionEntry.sent · (.business stamp.msgId))).toList =
        [.sent i (.business stamp.msgId)] := by rw [hi]; rfl
    have hclient : (s.client.emitTracked stamp.msgId input stamp.time).readyState =
        s.client.readyState := by
      rw [HardessClient.emitTracked, if_pos hready]
    have hsends : (s.client.emitTracked stamp.msgId input stamp.time).sends.map (·.msgId) =
        s.client.sends.map (·.msgId) ++ [stamp.msgId] := by
      unfold HardessClient.emitTracked
      rw [if_pos hready]
      simp [HardessClient.createPendingDelivery]
    refine ⟨h.below, h.url, h.opened, ?_, fun hu => ?_, fun j token hj => ?_, fun j hj ho => ?_, ?_,
      fun _ => ?_, h.heartbeats, fun hrest => h.resting (hclient ▸ hrest),
      h.beating, fun waiter hw hnone => ?_, h.settled⟩
    all_goals simp only [ConnectedClient.send, hlog] at *
    · exact Log.justified_concat.2 ⟨h.justified, haccepted⟩
    · rw [← h.token hu]
      simp [lastToken, SessionEntry.token]
    · simp only [List.mem_append, List.mem_singleton, SessionEntry.sent.injEq, reduceCtorEq,
        and_false, or_false] at hj
      exact h.greeted j token hj
    · obtain ⟨token, ht⟩ := h.introduced j hj ho
      exact ⟨token, List.mem_append_left _ ht⟩
    · rw [List.filterMap_append, h.carried, hsends]
      rfl
    · exact ⟨i, hi, hopened, List.mem_append_left _ haccepted⟩
    · obtain ⟨hne, htimer⟩ := h.waiting waiter hw hnone
      exact ⟨fun heq => hne (hclient ▸ heq), htimer⟩
  · exact h

/-! ### Steps of the client alone -/

theorem msgId_fail (pending : PendingDelivery) (error : HardessSdkError) :
    (pending.fail error).msgId = pending.msgId := rfl

theorem msgId_receive (pending : PendingDelivery) (event : ClientDeliveryEvent) :
    (pending.receive event).msgId = pending.msgId := by
  obtain ⟨stage, msgId, traceId, protocol, version, action⟩ := event
  cases stage <;> simp [PendingDelivery.receive, PendingDelivery.notifyListeners,
    PendingDelivery.settleStage, PendingDelivery.clearPendingTimeout,
    PendingDelivery.clearPendingTimers, deliveryFailureError, msgId_fail]

theorem msgId_onEvent (pending : PendingDelivery) (event : ClientDeliveryEvent) :
    (pending.onEvent event).msgId = pending.msgId := by
  unfold PendingDelivery.onEvent
  split_ifs
  · exact msgId_receive _ _
  · rfl

theorem msgId_fire (pending : PendingDelivery) (stage : AwaitableStage) (now : JsNumber) :
    (pending.fire stage now).msgId = pending.msgId := by
  have hclear : (pending.clearPendingTimeout stage).msgId = pending.msgId := by cases stage <;> rfl
  obtain h | h | ⟨-, h⟩ := pending.fire_cases stage now
  · rw [h]
  · rw [h, hclear]
  · rw [h, msgId_onEvent, hclear]

/-- No step changes the id of a send. -/
theorem msgId_effect (client : HardessClient) (e : ClientEvent) (pending : PendingDelivery) :
    (client.effect e pending).msgId = pending.msgId := by
  refine @HardessClient.effect_induction (fun p => p.msgId = pending.msgId) client e pending rfl
    (fun _ => rfl) (fun _ event _ _ => msgId_onEvent pending event) (msgId_fire pending)
    (fun _ => msgId_onEvent pending _) fun _ => ?_
  unfold PendingDelivery.onClientClose
  split_ifs <;> rfl

/-- A step that creates no send. -/
theorem msgIds_step {client : HardessClient} {e : ClientEvent} (h : client.created e = []) :
    (client.step e).sends.map (·.msgId) = client.sends.map (·.msgId) := by
  rw [HardessClient.sends_step, h, List.append_nil, List.map_map]
  exact List.map_congr_left fun pending _ => msgId_effect client e pending

theorem readyState_onMessage {client : HardessClient} {message : ClientMessage}
    (h : message ≠ .authOk) : (client.onMessage message).readyState = client.readyState := by
  unfold HardessClient.onMessage
  split
  · rfl
  · split
    · exact absurd rfl h
    · rfl

/-- A message that is no `auth.ok`. -/
theorem Sound.clientMessage (h : s.Sound) {message : ClientMessage} (hm : message ≠ .authOk) :
    Sound { s with client := s.client.onMessage message } :=
  h.withClient (readyState_onMessage hm) (@msgIds_step s.client (.message message) rfl)

/-- `auth.ok` is no message of its own among those of `handleSystem`. -/
theorem handleSystem_ne_authOk (e : Envelope) : handleSystem e ≠ .message .authOk := by
  unfold handleSystem parseProtocolPayload
  split_ifs
  all_goals first
    | (split <;> simp)
    | simp

theorem onMessage_ne_authOk (raw : JsString) : Hardess.onMessage raw ≠ .message .authOk := by
  unfold Hardess.onMessage
  split
  · simp
  · split_ifs
    · exact handleSystem_ne_authOk _
    · simp

/-! ### The hooks -/

/-- The hub accepts the client on the current socket, which has opened. -/
theorem Sound.onAuthOk (h : s.Sound) {i : ℕ} (hi : s.transport.socket = some i)
    (ho : i ∈ s.opened) : s.onAuthOk.Sound := by
  have hnoted := @Sound.note s h (.accepted i) (h.introduced i hi ho) rfl rfl fun _ _ => nofun
  have hlog : (s.transport.socket.map SessionEntry.accepted).toList = [.accepted i] := by
    rw [hi]
    rfl
  unfold ConnectedClient.onAuthOk
  rw [hlog]
  refine ⟨h.below, h.url, h.opened, hnoted.justified, hnoted.token, hnoted.greeted,
    hnoted.introduced, ?_, fun _ => ?_, h.heartbeats, ?_, h.beating,
    fun waiter hw hnone => ?_, fun waiter hw _ => ?_⟩
  · exact hnoted.carried.trans (@msgIds_step s.client (.message .authOk) rfl).symm
  · exact ⟨i, hi, ho, List.mem_append_right _ (List.mem_singleton_self _)⟩
  · rintro (hrest | hrest) <;> cases hrest
  · have hsome := (h.forall_settled (.ok ()) waiter hw).1
    rw [hnone] at hsome
    cases hsome
  · exact (h.forall_settled (.ok ()) waiter hw).2

/-- The current socket opens: the credentials are the first that are sent on it. -/
theorem Sound.onOpen (h : s.Sound) {i : ℕ} (hi : s.transport.socket = some i) (ho : i ∉ s.opened)
    (stamp : Stamp) : Sound (ConnectedClient.onOpen { s with opened := i :: s.opened } stamp) := by
  have hsome : s.transport.socket.isSome = true := by rw [hi]; rfl
  have htoken := h.token (h.url hsome)
  -- no credentials have been sent on this socket, for it has not been open
  have hfollows : Follows s.log (.sent i (.system (.auth s.token))) :=
    ⟨htoken, fun token hsent => ho (h.greeted i token hsent)⟩
  have hlog : (s.transport.socket.map (SessionEntry.sent · (.system (.auth s.token)))).toList =
      [.sent i (.system (.auth s.token))] := by
    rw [hi]
    rfl
  have hbeats := h.heartbeats_filter
  refine ⟨h.below, h.url, fun j hj => ?_, ?_, fun _ => ?_, fun j token hj => ?_,
    fun j hj _ => ⟨s.token, ?_⟩, ?_, nofun, ?_, ?_, fun _ _ _ => rfl, fun waiter hw hnone => ?_,
    h.settled⟩
  all_goals simp only [ConnectedClient.onOpen, ConnectedClient.speak, ConnectedClient.send,
    ConnectedClient.startHeartbeat, ConnectedClient.stopHeartbeat, hlog] at *
  · obtain rfl | hj := List.mem_cons.1 hj
    · exact h.below _ hi
    · exact h.opened j hj
  · exact Log.justified_concat.2 ⟨h.justified, hfollows⟩
  · rw [← htoken]
    simp [lastToken, SessionEntry.token]
  · obtain hold | hnew := List.mem_append.1 hj
    · exact List.mem_cons_of_mem _ (h.greeted j token hold)
    · cases List.mem_singleton.1 hnew
      exact List.mem_cons_self
  · obtain rfl : i = j := Option.some.inj (hi.symm.trans hj)
    exact List.mem_append_right _ (List.mem_singleton_self _)
  · rw [List.filterMap_append, h.carried, ← @msgIds_step s.client .opened rfl]
    simp [SessionEntry.business]
  · rw [hbeats]
    rfl
  · rintro (hrest | hrest) <;> cases hrest
  · obtain ⟨-, htimer⟩ := h.waiting waiter hw hnone
    exact ⟨nofun, htimer⟩

/-- The current socket closes. -/
theorem Sound.onClose (h : s.Sound) {transport : WebSocketTransport}
    (hsocket : transport.socket = none) (hnext : transport.nextSocket = s.transport.nextSocket)
    (hurl : transport.url = s.transport.url) (info : TransportCloseInfo) :
    Sound (ConnectedClient.onClose { s with transport } info) := by
  have hstate : (s.client.step (.transportClosed info.toClient)).readyState ≠ .ready := by
    simp only [HardessClient.step]
    split_ifs <;> simp
  have hclosed : Sound
      { s.stopHeartbeat with
        transport
        client := s.client.step (.transportClosed info.toClient) } :=
    { below := fun i hi => by simp [hsocket] at hi
      url := fun hi => by simp [hsocket] at hi
      opened := fun i hi => hnext ▸ h.opened i hi
      justified := h.justified
      token := fun hu => h.token (hurl ▸ hu)
      greeted := h.greeted
      introduced := fun i hi => by simp [hsocket] at hi
      carried := h.carried.trans (@msgIds_step s.client (.transportClosed info.toClient) rfl).symm
      ready := fun hready => absurd hready hstate
      heartbeats := h.heartbeats_filter
      resting := fun _ => rfl
      beating := fun i hi => by simp [hsocket] at hi
      waiting := fun waiter hw hnone => ⟨hstate, (h.waiting waiter hw hnone).2⟩
      settled := h.settled }
  unfold ConnectedClient.onClose
  dsimp only
  split_ifs
  · exact hclosed.settleReadyWaiters _
  · exact hclosed

theorem Sound.onMessage (h : s.Sound) {i : ℕ} (hi : s.transport.socket = some i)
    (ho : i ∈ s.opened) (stamp : Stamp) (raw : JsString) : (s.onMessage stamp raw).Sound := by
  unfold ConnectedClient.onMessage
  split
  · exact h
  · exact h.onAuthOk hi ho
  · exact h
  · exact h.speak stamp trivial
  · rename_i message heq
    exact h.clientMessage fun hm => onMessage_ne_authOk raw (hm ▸ heq)
  · exact ⟨h.below, h.url, h.opened, h.justified, h.token, h.greeted, h.introduced, h.carried,
      h.ready, h.heartbeats, h.resting, h.beating, h.waiting, h.settled⟩

/-! ### Events of sockets -/

theorem url_afterHook (transport : WebSocketTransport) (event : TransportSocketEvent) :
    (transport.afterHook options.transport event).url = transport.url := by
  unfold WebSocketTransport.afterHook
  split
  · split_ifs <;> rfl
  · rfl

theorem nextSocket_afterHook (transport : WebSocketTransport) (event : TransportSocketEvent) :
    (transport.afterHook options.transport event).nextSocket = transport.nextSocket := by
  unfold WebSocketTransport.afterHook
  split
  · split_ifs <;> rfl
  · rfl

theorem Sound.afterHook (h : s.Sound) (event : TransportSocketEvent) :
    Sound { s with transport := s.transport.afterHook options.transport event } :=
  h.withTransport (s.transport.socket_afterHook event) (nextSocket_afterHook _ _)
    (url_afterHook _ _)

/-- Sockets that are not current may open and close. -/
theorem Sound.record (h : s.Sound) {i : ℕ} {event : TransportSocketEvent} (hd : s.Delivers i event)
    (hi : s.transport.socket ≠ some i) : (s.record i event).Sound := by
  cases event with
  | opened =>
    refine ⟨h.below, h.url, fun j hj => ?_, h.justified, h.token, fun j token hj => ?_,
      fun j hj ho => ?_, h.carried, fun hready => ?_, h.heartbeats, h.resting, fun j hj ho => ?_,
      h.waiting, h.settled⟩
    · obtain rfl | hj := List.mem_cons.1 hj
      · exact hd.1
      · exact h.opened j hj
    · exact List.mem_cons_of_mem _ (h.greeted j token hj)
    · obtain rfl | ho := List.mem_cons.1 ho
      · exact absurd hj hi
      · exact h.introduced j hj ho
    · obtain ⟨j, hj, ho, ha⟩ := h.ready hready
      exact ⟨j, hj, List.mem_cons_of_mem _ ho, ha⟩
    · obtain rfl | ho := List.mem_cons.1 ho
      · exact absurd hj hi
      · exact h.beating j hj ho
  | closed info =>
    exact ⟨h.below, h.url, h.opened, h.justified, h.token, h.greeted, h.introduced, h.carried,
      h.ready, h.heartbeats, h.resting, h.beating, h.waiting, h.settled⟩
  | message text => exact h
  | error message => exact h

theorem Sound.socketEvent (h : s.Sound) (i : ℕ) (event : TransportSocketEvent) (stamp : Stamp) :
    (s.socketEvent options i event stamp).Sound := by
  unfold ConnectedClient.socketEvent
  split_ifs with hd
  swap
  · exact h
  unfold ConnectedClient.deliver
  by_cases hi : s.transport.socket = some i
  swap
  · have hrecord : (s.record i event).transport.socket ≠ some i := by cases event <;> exact hi
    rw [if_pos hrecord]
    exact h.record hd hi
  have hrecord : ¬(s.record i event).transport.socket ≠ some i := by
    cases event <;> exact not_not_intro hi
  rw [if_neg hrecord]
  refine Sound.afterHook ?_ event
  cases event with
  | opened =>
    have hbefore := @Sound.withTransport s h (s.transport.beforeHook options.transport .opened)
      rfl rfl rfl
    exact hbefore.onOpen hi hd.2.2 stamp
  | closed info =>
    have hended : Sound { s with ended := i :: s.ended } :=
      ⟨h.below, h.url, h.opened, h.justified, h.token, h.greeted, h.introduced, h.carried,
        h.ready, h.heartbeats, h.resting, h.beating, h.waiting, h.settled⟩
    exact @Sound.onClose _ hended (s.transport.beforeHook options.transport (.closed info)) rfl rfl
      rfl info
  | message text =>
    have hbefore := @Sound.withTransport s h
      (s.transport.beforeHook options.transport (.message text)) rfl rfl rfl
    exact hbefore.onMessage hi hd.2.2 stamp text
  | error message => exact h.withTransport rfl rfl rfl

/-! ### Calls and timers -/

theorem connect_cases (transport : WebSocketTransport) (url : JsString) (hooks : ℕ) :
    (transport.connect url hooks).url = some url ∧
      ((transport.connect url hooks).socket = none ∧
          (transport.connect url hooks).nextSocket = transport.nextSocket ∨
        (transport.connect url hooks).socket = some transport.nextSocket ∧
          (transport.connect url hooks).nextSocket = transport.nextSocket + 1) := by
  unfold WebSocketTransport.connect WebSocketTransport.openSocket
  dsimp only
  split_ifs
  · exact ⟨rfl, .inl ⟨rfl, rfl⟩⟩
  · exact ⟨rfl, .inr ⟨rfl, rfl⟩⟩

/-- A timer opens a socket when there is none, or leaves the sockets alone. -/
theorem fire_socket_cases (transport : WebSocketTransport) (timer : ℕ) :
    (transport.fire options.transport timer).url = transport.url ∧
      ((transport.fire options.transport timer).socket = transport.socket ∧
          (transport.fire options.transport timer).nextSocket = transport.nextSocket ∨
        transport.socket = none ∧ transport.url.isSome ∧
          (transport.fire options.transport timer).socket = some transport.nextSocket ∧
          (transport.fire options.transport timer).nextSocket = transport.nextSocket + 1) := by
  unfold WebSocketTransport.fire
  split_ifs with htimer
  swap
  · exact ⟨rfl, .inl ⟨rfl, rfl⟩⟩
  dsimp only
  split_ifs with hstale
  · exact ⟨rfl, .inl ⟨rfl, rfl⟩⟩
  · rw [not_or, not_or] at hstale
    have hurl : transport.url.isSome := by
      cases hu : transport.url with
      | none => simp [WebSocketTransport.lacksUrl, WebSocketTransport.expire, hu] at hstale
      | some url => rfl
    have hnone : transport.socket = none := by
      have hexpired := hstale.2.1
      rwa [Bool.not_eq_true, Option.isSome_eq_false_iff, Option.isNone_iff_eq_none] at hexpired
    unfold WebSocketTransport.openSocket
    rw [if_neg hstale.2.2]
    exact ⟨rfl, .inr ⟨hnone, hurl, rfl, rfl⟩⟩

/-- A socket that is new has not opened. -/
theorem Sound.notMem_opened (h : s.Sound) {i : ℕ} (hi : i = s.transport.nextSocket) :
    i ∉ s.opened := fun ho => lt_irrefl i ((h.opened i ho).trans_eq hi.symm)

theorem Sound.connect (h : s.Sound) (token : JsString) : (s.connect options token).Sound := by
  obtain ⟨hurl, hcases⟩ :=
    connect_cases s.transport options.websocketUrl (s.transport.hooks + 1)
  have hfresh : ∀ i, (s.connect options token).transport.socket = some i →
      i ∉ s.opened ∧ i < (s.connect options token).transport.nextSocket := by
    intro i hi
    obtain ⟨hnone, -⟩ | ⟨hsome, hnext⟩ := hcases
    · exact nomatch hnone.symm.trans hi
    · obtain rfl := Option.some.inj (hsome.symm.trans hi)
      exact ⟨h.notMem_opened rfl, hnext ▸ Nat.lt_succ_self _⟩
  refine ⟨fun i hi => (hfresh i hi).2, fun _ => by rw [ConnectedClient.connect, hurl]; rfl,
    fun i hi => ?_, Log.justified_concat.2 ⟨h.justified, trivial⟩, fun _ => ?_,
    fun i token' hi => ?_, fun i hi ho => absurd ho (hfresh i hi).1, ?_, nofun, h.heartbeats, ?_,
    fun i hi ho => absurd ho (hfresh i hi).1, fun waiter hw hnone => ?_, h.settled⟩
  · obtain ⟨-, hnext⟩ | ⟨-, hnext⟩ := hcases
    · exact (h.opened i hi).trans_eq hnext.symm
    · exact (h.opened i hi).trans (hnext ▸ Nat.lt_succ_self _)
  · simp [ConnectedClient.connect, lastToken, SessionEntry.token]
  · obtain hold | hnew := List.mem_append.1 hi
    · exact h.greeted i token' hold
    · cases List.mem_singleton.1 hnew
  · simp only [ConnectedClient.connect, List.filterMap_append, h.carried]
    simp [SessionEntry.business, HardessClient.step]
  · rintro (hrest | hrest) <;> cases hrest
  · exact ⟨nofun, (h.waiting waiter hw hnone).2⟩

theorem Sound.fireReconnect (h : s.Sound) (timer : ℕ) :
    Sound { s with transport := s.transport.fire options.transport timer } := by
  obtain ⟨hurl, ⟨hsocket, hnext⟩ | ⟨hnone, hsome, hsocket, hnext⟩⟩ :=
    @fire_socket_cases options s.transport timer
  · exact h.withTransport hsocket hnext hurl
  have hfresh : ∀ i, (s.transport.fire options.transport timer).socket = some i →
      i = s.transport.nextSocket := fun i hi => (Option.some.inj (hsocket.symm.trans hi)).symm
  exact
    { below := fun i hi => by
        rw [hfresh i hi, hnext]
        exact Nat.lt_succ_self _
      url := fun _ => by rwa [hurl]
      opened := fun i hi => (h.opened i hi).trans (hnext ▸ Nat.lt_succ_self _)
      justified := h.justified
      token := fun hu => h.token (hurl ▸ hu)
      greeted := h.greeted
      introduced := fun i hi ho => absurd ho (h.notMem_opened (hfresh i hi))
      carried := h.carried
      ready := fun hready => by
        obtain ⟨i, hi, -⟩ := h.ready hready
        exact nomatch hnone.symm.trans hi
      heartbeats := h.heartbeats
      resting := h.resting
      beating := fun i hi ho => absurd ho (h.notMem_opened (hfresh i hi))
      waiting := h.waiting
      settled := h.settled }

/-- A client without a socket that is closed. -/
theorem Sound.beginClose (h : s.Sound) {transport : WebSocketTransport}
    (hsocket : transport.socket = none) (hnext : transport.nextSocket = s.transport.nextSocket)
    (hurl : transport.url = s.transport.url) : Sound { s.beginClose with transport } where
  below i hi := nomatch hsocket.symm.trans hi
  url hi := by simp [hsocket] at hi
  opened i hi := hnext ▸ h.opened i hi
  justified := h.justified
  token hu := h.token (hurl ▸ hu)
  greeted := h.greeted
  introduced i hi := nomatch hsocket.symm.trans hi
  carried := h.carried.trans (@msgIds_step s.client .close rfl).symm
  ready hready := nomatch hready
  heartbeats := h.heartbeats_filter
  resting _ := rfl
  beating i hi := nomatch hsocket.symm.trans hi
  waiting waiter hw hnone := by
    have hsome := (h.forall_settled (.error closedBeforeReady) waiter hw).1
    rw [hnone] at hsome
    cases hsome
  settled waiter hw _ := (h.forall_settled (.error closedBeforeReady) waiter hw).2

theorem transport_onClose (s : ConnectedClient) (info : TransportCloseInfo) :
    (s.onClose info).transport = s.transport := by
  unfold ConnectedClient.onClose
  dsimp only
  split_ifs <;> rfl

/-- The socket is silent while it closes, or its close reaches the hook. -/
theorem Sound.close (h : s.Sound) (emitted : Option TransportCloseInfo) (stamp : Stamp) :
    (s.beginClose.closeTransport options emitted stamp).Sound := by
  unfold ConnectedClient.closeTransport
  dsimp only
  split
  · rename_i i info hi
    unfold ConnectedClient.socketEvent
    split_ifs with hd
    · unfold ConnectedClient.deliver
      have hrecord : ¬(ConnectedClient.record { s.beginClose with
          transport := s.beginClose.transport.beginClose } i (.closed info)).transport.socket ≠
          some i := not_not_intro hi
      rw [if_neg hrecord]
      have hbegun := @Sound.beginClose s h
        (s.transport.beginClose.beforeHook options.transport (.closed info)) rfl rfl rfl
      have hended : Sound
          { s.beginClose with
            transport := s.transport.beginClose.beforeHook options.transport (.closed info)
            ended := i :: s.ended } :=
        ⟨hbegun.below, hbegun.url, hbegun.opened, hbegun.justified, hbegun.token, hbegun.greeted,
          hbegun.introduced, hbegun.carried, hbegun.ready, hbegun.heartbeats, hbegun.resting,
          hbegun.beating, hbegun.waiting, hbegun.settled⟩
      have hclosed := @Sound.onClose _ hended
        (s.transport.beginClose.beforeHook options.transport (.closed info)) rfl rfl rfl info
      refine (@Sound.afterHook options _ hclosed (.closed info)).withTransport ?_ rfl rfl
      exact ((WebSocketTransport.socket_afterHook _ _).trans
        (congrArg (·.socket) (transport_onClose _ info))).symm
    · exact h.beginClose rfl rfl rfl
  · exact h.beginClose rfl rfl rfl

theorem Sound.endInbound (h : s.Sound) (k : ℕ) (outcome : InboundOutcome) (stamp : Stamp) :
    (s.endInbound options k outcome stamp).Sound := by
  unfold ConnectedClient.endInbound
  split
  · exact h
  · rename_i envelope _
    have herased : Sound { s with inbound := s.inbound.eraseIdx k } :=
      ⟨h.below, h.url, h.opened, h.justified, h.token, h.greeted, h.introduced, h.carried, h.ready,
        h.heartbeats, h.resting, h.beating, h.waiting, h.settled⟩
    cases outcome with
    | ignored => exact herased
    | handled =>
      dsimp only
      split_ifs
      · exact herased.speak stamp trivial
      · exact herased
    | failed message => exact herased.clientMessage nofun

theorem Sound.tick (h : s.Sound) (timer : ℕ) (stamp : Stamp) : (s.tick timer stamp).Sound := by
  unfold ConnectedClient.tick
  split_ifs
  · exact h.speak stamp trivial
  · exact h

theorem Sound.waitFor (h : s.Sound) (msgId : JsString) (kind : WaitKind) :
    Sound { s with client := s.client.waitFor msgId kind } :=
  h.withClient rfl (@msgIds_step s.client (.waitFor msgId kind) rfl)

theorem Sound.sendTracked (h : s.Sound) (stamp : Stamp) (input : ClientEmitInput)
    (content : Option BusinessContent) (until_ : Option AwaitableStage) :
    (s.sendTracked stamp input content until_).Sound := by
  unfold ConnectedClient.sendTracked
  split
  · exact (h.emitTracked stamp input _).waitFor _ _
  · exact h

/-! ### Promises of readiness -/

section Settles

variable {ok : Prop} {ws ws' ws'' : List ReadyWaiter}

theorem Settles.refl (ok : Prop) (ws : List ReadyWaiter) : Settles ok ws ws :=
  fun _ waiter hw => ⟨waiter, hw, rfl, fun _ => rfl, fun hnone hsome => by simp [hnone] at hsome⟩

theorem Settles.trans (h : Settles ok ws ws') (h' : Settles ok ws' ws'') : Settles ok ws ws'' := by
  intro k waiter hw
  obtain ⟨waiter', hw', ht', hkeep', hok'⟩ := h k waiter hw
  obtain ⟨waiter'', hw'', ht'', hkeep'', hok''⟩ := h' k waiter' hw'
  refine ⟨waiter'', hw'', ht''.trans ht', fun hsome => ?_, fun hnone hresolved => ?_⟩
  · obtain rfl := hkeep' hsome
    exact hkeep'' hsome
  · cases hs : waiter'.settlement with
    | none => exact hok'' hs hresolved
    | some settlement =>
      have hsome : waiter'.settlement.isSome := by rw [hs]; rfl
      rw [hkeep'' hsome] at hresolved
      exact hok' hnone hresolved

theorem Settles.mono (h : Settles False ws ws') : Settles ok ws ws' := by
  intro k waiter hw
  obtain ⟨waiter', hw', ht, hkeep, hok⟩ := h k waiter hw
  exact ⟨waiter', hw', ht, hkeep, fun hnone hresolved => (hok hnone hresolved).elim⟩

theorem settles_append (ok : Prop) (ws added : List ReadyWaiter) : Settles ok ws (ws ++ added) :=
  fun k waiter hw => ⟨waiter,
    by rw [List.getElem?_append_left (List.getElem?_eq_some_iff.1 hw).1, hw], rfl, fun _ => rfl,
    fun hnone hsome => by simp [hnone] at hsome⟩

/-- What settling does to one promise. -/
theorem settle_keeps {waiter : ReadyWaiter} {settlement : Except ReadyError Unit}
    (hok : settlement = .ok () → ok) :
    (waiter.settle settlement).timeoutMs = waiter.timeoutMs ∧
      (waiter.settlement.isSome → waiter.settle settlement = waiter) ∧
      (waiter.settlement = none → (waiter.settle settlement).settlement = some (.ok ()) → ok) := by
  refine ⟨(settle_settlement waiter settlement).2, fun hsome => ?_, fun hnone hresolved => ?_⟩
  · exact if_pos hsome
  · rw [ReadyWaiter.settle, hnone] at hresolved
    exact hok (Option.some.inj hresolved)

theorem settles_map {settlement : Except ReadyError Unit} (hok : settlement = .ok () → ok) :
    Settles ok ws (ws.map (·.settle settlement)) :=
  fun k waiter hw => ⟨waiter.settle settlement, by rw [List.getElem?_map, hw]; rfl,
    settle_keeps hok⟩

theorem settles_modify_fire (k : ℕ) : Settles ok ws (ws.modify k ReadyWaiter.fire) := by
  intro j waiter hw
  rw [List.getElem?_modify, hw]
  by_cases hk : k = j
  · refine ⟨waiter.fire, by simp [hk], ?_⟩
    obtain heq | ⟨error, heq⟩ := fire_cases waiter
    · rw [heq]
      exact ⟨rfl, fun _ => rfl, fun hnone hsome => by simp [hnone] at hsome⟩
    · rw [heq]
      exact settle_keeps nofun
  · exact ⟨waiter, by simp [hk], rfl, fun _ => rfl, fun hnone hsome => by simp [hnone] at hsome⟩

end Settles

theorem resolves_of_eq {s t : ConnectedClient} (h : t.readyWaiters = s.readyWaiters) :
    Resolves s t := by
  unfold Resolves
  rw [h]
  exact Settles.refl _ _

theorem settles_onClose (s : ConnectedClient) (info : TransportCloseInfo) :
    Settles False s.readyWaiters (s.onClose info).readyWaiters := by
  unfold ConnectedClient.onClose
  dsimp only
  split_ifs
  · exact settles_map nofun
  · exact Settles.refl _ _

theorem settles_onMessage (s : ConnectedClient) (stamp : Stamp) (raw : JsString) :
    Settles ((s.onMessage stamp raw).client.readyState = .ready) s.readyWaiters
      (s.onMessage stamp raw).readyWaiters := by
  unfold ConnectedClient.onMessage
  split
  case h_2 => exact settles_map fun _ => rfl
  all_goals exact Settles.refl _ _

/-- What an event of a socket leaves of the promises is what its hook leaves of them. -/
theorem socketEvent_cases (s : ConnectedClient) (i : ℕ) (event : TransportSocketEvent)
    (stamp : Stamp) : (s.socketEvent options i event stamp).readyWaiters = s.readyWaiters ∨
      ∃ t : ConnectedClient, t.readyWaiters = s.readyWaiters ∧
        (s.socketEvent options i event stamp).readyWaiters = (t.hook stamp event).readyWaiters ∧
        (s.socketEvent options i event stamp).client = (t.hook stamp event).client := by
  have hrecord : (s.record i event).readyWaiters = s.readyWaiters := by cases event <;> rfl
  unfold ConnectedClient.socketEvent
  split_ifs
  · unfold ConnectedClient.deliver
    split_ifs
    · exact .inl hrecord
    · exact .inr ⟨{ s.record i event with
        transport := (s.record i event).transport.beforeHook options.transport event }, hrecord,
        rfl, rfl⟩
  · exact .inl rfl

theorem settles_closed (s : ConnectedClient) (i : ℕ) (info : TransportCloseInfo) (stamp : Stamp) :
    Settles False s.readyWaiters (s.socketEvent options i (.closed info) stamp).readyWaiters := by
  obtain h | ⟨t, ht, h, -⟩ := @socketEvent_cases options s i (.closed info) stamp
  · rw [h]
    exact Settles.refl _ _
  · rw [h, ← ht]
    exact settles_onClose t info

theorem resolves_socketEvent (s : ConnectedClient) (i : ℕ) (event : TransportSocketEvent)
    (stamp : Stamp) : Resolves s (s.socketEvent options i event stamp) := by
  obtain h | ⟨t, ht, h, hclient⟩ := @socketEvent_cases options s i event stamp
  · exact resolves_of_eq h
  unfold Resolves
  rw [h, hclient, ← ht]
  cases event with
  | closed info => exact (settles_onClose t info).mono
  | message text => exact settles_onMessage t stamp text
  | opened => exact Settles.refl _ _
  | error message => exact Settles.refl _ _

/-- Everyone who waited is turned away before the transport is closed. -/
theorem settles_close (s : ConnectedClient) (emitted : Option TransportCloseInfo)
    (stamp : Stamp) :
    Settles False s.readyWaiters
      (s.beginClose.closeTransport options emitted stamp).readyWaiters := by
  have hbegun : Settles False s.readyWaiters s.beginClose.readyWaiters := settles_map nofun
  refine hbegun.trans ?_
  generalize s.beginClose = t
  unfold ConnectedClient.closeTransport
  dsimp only
  split
  · rename_i i info _
    exact settles_closed { t with transport := t.transport.beginClose } i info stamp
  · exact Settles.refl _ _

theorem readyWaiters_emitTracked (s : ConnectedClient) (stamp : Stamp) (input : ClientEmitInput)
    (content : Option BusinessContent) :
    (s.emitTracked stamp input content).readyWaiters = s.readyWaiters := by
  unfold ConnectedClient.emitTracked
  split <;> rfl

theorem readyWaiters_sendTracked (s : ConnectedClient) (stamp : Stamp) (input : ClientEmitInput)
    (content : Option BusinessContent) (until_ : Option AwaitableStage) :
    (s.sendTracked stamp input content until_).readyWaiters = s.readyWaiters := by
  unfold ConnectedClient.sendTracked
  split
  · exact readyWaiters_emitTracked s stamp input _
  · rfl

theorem readyWaiters_endInbound (s : ConnectedClient) (k : ℕ) (outcome : InboundOutcome)
    (stamp : Stamp) : (s.endInbound options k outcome stamp).readyWaiters = s.readyWaiters := by
  unfold ConnectedClient.endInbound
  split
  · rfl
  · cases outcome with
    | ignored => rfl
    | handled =>
      dsimp only
      split_ifs <;> rfl
    | failed message => rfl

theorem readyWaiters_tick (s : ConnectedClient) (timer : ℕ) (stamp : Stamp) :
    (s.tick timer stamp).readyWaiters = s.readyWaiters := by
  unfold ConnectedClient.tick
  split_ifs <;> rfl

theorem resolves_step (s : ConnectedClient) (e : ConnectedClientEvent) :
    Resolves s (s.step options e) := by
  cases e with
  | connect token => exact resolves_of_eq rfl
  | close emitted stamp => exact (settles_close s emitted stamp).mono
  | waitUntilReady timeoutMs => exact settles_append _ s.readyWaiters _
  | emit stamp input content =>
    exact resolves_of_eq (readyWaiters_emitTracked s stamp input content)
  | send stamp input content until_ =>
    exact resolves_of_eq (readyWaiters_sendTracked s stamp input content until_)
  | waitFor msgId kind => exact resolves_of_eq rfl
  | ackHandled stamp msgId traceId => exact resolves_of_eq rfl
  | socket i event stamp => exact resolves_socketEvent s i event stamp
  | inbound k outcome stamp => exact resolves_of_eq (readyWaiters_endInbound s k outcome stamp)
  | reconnectTimer timer => exact resolves_of_eq rfl
  | heartbeat timer stamp => exact resolves_of_eq (readyWaiters_tick s timer stamp)
  | readyTimer k => exact @settles_modify_fire _ s.readyWaiters k
  | deliveryTimer msgId stage now => exact resolves_of_eq rfl

/-! ### Runs -/

theorem Sound.step (h : s.Sound) (e : ConnectedClientEvent) : (s.step options e).Sound := by
  cases e with
  | connect token => exact h.connect token
  | close emitted stamp => exact h.close emitted stamp
  | waitUntilReady timeoutMs => exact h.waitUntilReady timeoutMs
  | emit stamp input content => exact h.emitTracked stamp input content
  | send stamp input content until_ => exact h.sendTracked stamp input content until_
  | waitFor msgId kind => exact h.waitFor msgId kind
  | ackHandled stamp msgId traceId => exact h.speak stamp trivial
  | socket i event stamp => exact h.socketEvent i event stamp
  | inbound k outcome stamp => exact h.endInbound k outcome stamp
  | reconnectTimer timer => exact h.fireReconnect timer
  | heartbeat timer stamp => exact h.tick timer stamp
  | readyTimer k => exact h.readyTimer k
  | deliveryTimer msgId stage now =>
    exact h.withClient rfl (@msgIds_step s.client (.timer msgId stage now) rfl)

/-- **A client talks in sessions, and its promises of readiness are kept.** -/
theorem session_run (options : ConnectedClientOptions) (es : List ConnectedClientEvent) :
    (Machine.run (step options) (create options) es).Session ∧
      Machine.Along (step options) (fun s e => Resolves s (s.step options e)) (create options)
        es := by
  constructor
  · exact (Machine.run_invariant (sound_create options) (fun s e h => Sound.step h e) es).session
  · exact Machine.along_iff.2 fun pre e _ _ => resolves_step _ e

end ConnectedClient

end Hardess
