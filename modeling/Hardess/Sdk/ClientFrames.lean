import Hardess.Sdk.ConnectedClient

/-!
# What a client puts on the wire

The calls on sockets of `src/sdk/transport/ws.ts`, beside what is noted of the client.

* `Wrote`: a text is that of a message that was noted;
* `Adds`: what a step adds to the notes and to the calls;
* `adds_step`: every text is that of a message, and a client is accepted by a frame that it hears.
-/

namespace Hardess

/-- The text was made for a message that was noted for socket `i`. -/
def Wrote (log : List SessionEntry) (i : ℕ) (text : JsString) : Prop :=
  (∃ message stamp, .sent i (.system message) ∈ log ∧
      text = ClientSystemMessage.text stamp message) ∨
    ∃ stamp input content, .sent i (.business stamp.msgId) ∈ log ∧
      text = (createBusinessEnvelope stamp input content).stringify

theorem Wrote.mono {log log' : List SessionEntry} {i : ℕ} {text : JsString} (h : Wrote log i text)
    (hlog : log ⊆ log') : Wrote log' i text := by
  rcases h with ⟨message, stamp, hmem, heq⟩ | ⟨stamp, input, content, hmem, heq⟩
  · exact .inl ⟨message, stamp, hlog hmem, heq⟩
  · exact .inr ⟨stamp, input, content, hlog hmem, heq⟩

/-- Socket `i` says that the hub accepts the client. -/
def ConnectedClientEvent.Accepts (i : ℕ) : ConnectedClientEvent → Prop
  | .socket j (.message text) _ => j = i ∧ ∃ payload, onMessage text = .authOk payload
  | _ => False

namespace ConnectedClient

variable {options : ConnectedClientOptions} {s t u : ConnectedClient} {P : ℕ → Prop}

/-- What is added to the notes and to the calls: texts of messages that are noted, and sockets that
meet `P` accept. -/
def Adds (P : ℕ → Prop) (s t : ConnectedClient) : Prop :=
  ∃ new calls, t.log = s.log ++ new ∧
    t.transport.socketCalls = s.transport.socketCalls ++ calls ∧
    (∀ i, .accepted i ∈ new → P i) ∧ ∀ i text, .send i text ∈ calls → Wrote new i text

namespace Adds

theorem of_eq (hlog : t.log = s.log)
    (hcalls : t.transport.socketCalls = s.transport.socketCalls) : Adds P s t :=
  ⟨[], [], by rw [hlog, List.append_nil], by rw [hcalls, List.append_nil],
    fun _ h => absurd h List.not_mem_nil, fun _ _ h => absurd h List.not_mem_nil⟩

/-- Sockets are closed. -/
theorem of_closes (hlog : t.log = s.log) {sockets : List ℕ}
    (hcalls : t.transport.socketCalls =
      s.transport.socketCalls ++ sockets.map TransportSocketCall.close) : Adds P s t := by
  refine ⟨[], _, by rw [hlog, List.append_nil], hcalls, fun _ h => absurd h List.not_mem_nil,
    fun i text h => ?_⟩
  obtain ⟨_, -, heq⟩ := List.mem_map.1 h
  cases heq

theorem trans (hst : Adds P s t) (htu : Adds P t u) : Adds P s u := by
  obtain ⟨new, calls, hlog, hcalls, haccepted, hwrote⟩ := hst
  obtain ⟨new', calls', hlog', hcalls', haccepted', hwrote'⟩ := htu
  refine ⟨new ++ new', calls ++ calls', by rw [hlog', hlog, List.append_assoc],
    by rw [hcalls', hcalls, List.append_assoc], fun i h => ?_, fun i text h => ?_⟩
  · exact (List.mem_append.1 h).elim (haccepted i) (haccepted' i)
  · rcases List.mem_append.1 h with h | h
    · exact (hwrote i text h).mono (List.subset_append_left _ _)
    · exact (hwrote' i text h).mono (List.subset_append_right _ _)

/-- A text is handed to the socket, and its message is noted. -/
theorem send {text : JsString} {output : ClientOutput}
    (h : ∀ i, Wrote [.sent i output] i text) : Adds P s (s.send text output) := by
  cases hsocket : s.transport.socket with
  | none =>
    refine of_eq ?_ ?_
    · simp [ConnectedClient.send, hsocket]
    · simp [ConnectedClient.send, WebSocketTransport.send, hsocket]
  | some i =>
    refine ⟨[.sent i output], [.send i text], ?_, ?_, ?_, fun j text' hmem => ?_⟩
    · simp [ConnectedClient.send, hsocket]
    · simp [ConnectedClient.send, WebSocketTransport.send, hsocket]
    · simp
    · cases List.mem_singleton.1 hmem
      exact h i

theorem speak (stamp : Stamp) (message : ClientSystemMessage) :
    Adds P s (s.speak stamp message) :=
  send fun _ => .inl ⟨message, stamp, List.mem_singleton_self _, rfl⟩

theorem emitTracked (stamp : Stamp) (input : ClientEmitInput) (content : Option BusinessContent) :
    Adds P s (s.emitTracked stamp input content) := by
  unfold ConnectedClient.emitTracked
  split
  · rename_i content _
    refine (of_eq rfl rfl).trans (send fun _ => ?_)
    exact .inr ⟨stamp, input, content, List.mem_singleton_self _, rfl⟩
  · exact of_eq rfl rfl

/-! ### Hooks and sockets -/

theorem onOpen (stamp : Stamp) : Adds P s (s.onOpen stamp) :=
  ((of_eq rfl rfl).trans (speak stamp (.auth s.token))).trans (of_eq rfl rfl)

theorem onClose (info : TransportCloseInfo) : Adds P s (s.onClose info) := by
  unfold ConnectedClient.onClose
  dsimp only
  split_ifs
  · exact of_eq rfl rfl
  · exact of_eq rfl rfl

/-- The client is accepted on its current socket. -/
theorem onAuthOk {i : ℕ} (hsocket : s.transport.socket = some i) (hP : P i) :
    Adds P s s.onAuthOk := by
  refine ⟨[.accepted i], [], ?_, (List.append_nil _).symm, fun j h => ?_,
    fun _ _ h => absurd h List.not_mem_nil⟩
  · simp [ConnectedClient.onAuthOk, settleReadyWaiters, hsocket]
  · cases List.mem_singleton.1 h
    exact hP

theorem onMessage {i : ℕ} (hsocket : s.transport.socket = some i) (stamp : Stamp)
    {raw : JsString} (hP : (∃ payload, Hardess.onMessage raw = .authOk payload) → P i) :
    Adds P s (s.onMessage stamp raw) := by
  unfold ConnectedClient.onMessage
  split
  · exact of_eq rfl rfl
  · rename_i payload heq
    exact onAuthOk hsocket (hP ⟨payload, heq⟩)
  · exact of_eq rfl rfl
  · exact speak _ _
  · exact of_eq rfl rfl
  · exact of_eq rfl rfl

theorem socketCalls_beforeHook (transport : WebSocketTransport) (event : TransportSocketEvent) :
    (transport.beforeHook options.transport event).socketCalls = transport.socketCalls := by
  cases event <;> rfl

theorem socketCalls_afterHook (transport : WebSocketTransport) (event : TransportSocketEvent) :
    (transport.afterHook options.transport event).socketCalls = transport.socketCalls := by
  unfold WebSocketTransport.afterHook
  split
  · split_ifs <;> rfl
  · rfl

theorem socketCalls_fire (transport : WebSocketTransport) (timer : ℕ) :
    (transport.fire options.transport timer).socketCalls = transport.socketCalls := by
  unfold WebSocketTransport.fire WebSocketTransport.openSocket
  dsimp only
  split_ifs <;> rfl

/-- An event of a socket. -/
theorem socketEvent (i : ℕ) (event : TransportSocketEvent) (stamp : Stamp)
    (hP : ∀ text payload, event = .message text → Hardess.onMessage text = .authOk payload → P i) :
    Adds P s (s.socketEvent options i event stamp) := by
  unfold ConnectedClient.socketEvent
  split_ifs
  swap
  · exact of_eq rfl rfl
  have hrecord : Adds P s (s.record i event) := by cases event <;> exact of_eq rfl rfl
  refine hrecord.trans ?_
  unfold ConnectedClient.deliver
  split_ifs with hcurrent
  · exact of_eq rfl rfl
  rw [not_not] at hcurrent
  have hbefore {s : ConnectedClient} : Adds P s
      { s with transport := s.transport.beforeHook options.transport event } :=
    of_eq rfl (socketCalls_beforeHook _ _)
  have hafter {s : ConnectedClient} : Adds P s
      { s with transport := s.transport.afterHook options.transport event } :=
    of_eq rfl (socketCalls_afterHook _ _)
  refine (hbefore.trans ?_).trans hafter
  cases event with
  | opened => exact onOpen stamp
  | closed info => exact onClose info
  | message text =>
    refine onMessage ?_ stamp fun ⟨payload, h⟩ => hP text payload rfl h
    exact hcurrent
  | error message => exact of_eq rfl rfl

theorem closeTransport (emitted : Option TransportCloseInfo) (stamp : Stamp) :
    Adds P s (s.closeTransport options emitted stamp) := by
  have hbegin : Adds P s { s with transport := s.transport.beginClose } := by
    refine @of_closes _ _ _ rfl s.transport.socket.toList ?_
    simp only [WebSocketTransport.beginClose, Option.toList_map]
  refine hbegin.trans ?_
  unfold ConnectedClient.closeTransport
  dsimp only
  split
  · refine Adds.trans (socketEvent _ _ stamp fun text payload h _ => ?_) (of_eq rfl rfl)
    cases h
  · exact of_eq rfl rfl

end Adds

/-- **Whatever is put on the wire is the text of a message, and a client is accepted only by what it
hears.** -/
theorem adds_step (s : ConnectedClient) (e : ConnectedClientEvent) :
    Adds (fun i => e.Accepts i) s (s.step options e) := by
  cases e with
  | connect token =>
    -- connecting closes the socket before, and writes nothing
    have hcalls : (s.step options (.connect token)).transport.socketCalls =
        s.transport.socketCalls ++ s.transport.socket.toList.map TransportSocketCall.close := by
      simp only [step, ConnectedClient.connect, WebSocketTransport.connect,
        WebSocketTransport.openSocket, WebSocketTransport.clearReconnectTimer, Option.toList_map]
      split_ifs <;> rfl
    refine ⟨[.connect token], _, rfl, hcalls, by simp, fun i text h => ?_⟩
    obtain ⟨_, -, heq⟩ := List.mem_map.1 h
    cases heq
  | close emitted stamp => exact (Adds.of_eq rfl rfl).trans (.closeTransport emitted stamp)
  | waitUntilReady timeoutMs => exact .of_eq rfl rfl
  | emit stamp input content => exact .emitTracked stamp input content
  | send stamp input content until_ =>
    show Adds _ s (s.sendTracked stamp input content until_)
    unfold ConnectedClient.sendTracked
    split
    · exact (Adds.emitTracked stamp input _).trans (.of_eq rfl rfl)
    · exact .of_eq rfl rfl
  | waitFor msgId kind => exact .of_eq rfl rfl
  | ackHandled stamp msgId traceId => exact .speak stamp _
  | socket i event stamp =>
    refine .socketEvent i event stamp fun text payload heq h => ?_
    subst heq
    exact ⟨rfl, payload, h⟩
  | inbound k outcome stamp =>
    show Adds _ s (s.endInbound options k outcome stamp)
    unfold ConnectedClient.endInbound
    split
    · exact .of_eq rfl rfl
    · cases outcome with
      | ignored => exact .of_eq rfl rfl
      | handled =>
        dsimp only
        split_ifs
        · exact (Adds.of_eq rfl rfl).trans (.speak stamp _)
        · exact .of_eq rfl rfl
      | failed message => exact .of_eq rfl rfl
  | reconnectTimer timer => exact .of_eq rfl (Adds.socketCalls_fire _ _)
  | heartbeat timer stamp =>
    show Adds _ s (s.tick timer stamp)
    unfold ConnectedClient.tick
    split_ifs
    · exact .speak stamp _
    · exact .of_eq rfl rfl
  | readyTimer k => exact .of_eq rfl rfl
  | deliveryTimer msgId stage now => exact .of_eq rfl rfl

end ConnectedClient

end Hardess
