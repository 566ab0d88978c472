import Hardess.Proxy.UpstreamWebSocket

/-!
# Runs of a bridge

The calls of a bridge on its two sockets, in whatever order its events come.

* `ProxyEvent.Ends`: the events that close a bridge;
* `relay_run`: up to the first of them, frames are relayed in both directions;
* `ended`, `afterwards`: what it and the later ones are answered with;
* **`bridge_run`**: every run.
-/

namespace Hardess

/-- The event closes a bridge. -/
def ProxyEvent.Ends : ProxyEvent → Bool
  | .upstreamClose _ => true
  | .upstreamError => true
  | .clientClose .. => true
  | .dispose => true
  | _ => false

/-- The client socket opens. -/
def ProxyEvent.Opens : ProxyEvent → Bool
  | .clientOpen => true
  | _ => false

/-- The frame that comes from the client. -/
def ProxyEvent.fromClient : ProxyEvent → Option SocketMessage
  | .clientMessage data => some (normalizeSocketMessage data)
  | _ => none

/-- The frame that comes from the upstream. -/
def ProxyEvent.fromUpstream : ProxyEvent → Option SocketMessage
  | .upstreamMessage data => some (normalizeSocketMessage data)
  | _ => none

/-- The frame that goes to the client. -/
def ProxyCall.toClient : ProxyCall → Option SocketMessage
  | .clientSend message => some message
  | _ => none

/-- The frame that goes to the upstream. -/
def ProxyCall.toUpstream : ProxyCall → Option SocketMessage
  | .upstreamSend message => some message
  | _ => none

/-- The call closes no socket. -/
def ProxyCall.Sends : ProxyCall → Prop
  | .clientSend _ => True
  | .upstreamSend _ => True
  | _ => False

namespace UpstreamWebSocketBridge

variable {bridge : UpstreamWebSocketBridge}

/-! ### While the bridge is open -/

/-- Nothing has closed the bridge. -/
structure Live (bridge : UpstreamWebSocketBridge) : Prop where
  closed : bridge.closed = false
  registered : bridge.registered = true
  upstreamClosed : bridge.upstreamClosed = none

/-- Nothing is kept while the client is attached. -/
def Drained (bridge : UpstreamWebSocketBridge) : Prop :=
  bridge.hasClientSocket = true → bridge.pendingUpstreamMessages = []

/-- The messages that are sent come first. -/
theorem flush_initial (messages : List SocketMessage) : (flush messages).1 <+: messages := by
  rw [flush_fst]
  exact List.takeWhile_prefix _

/-- Everything is sent when no message is an empty text. -/
theorem flush_eq {messages : List SocketMessage} (h : ∀ m ∈ messages, m.isFalsy = false) :
    flush messages = (messages, []) := by
  induction messages with
  | nil => rfl
  | cons message messages ih =>
    obtain ⟨hm, hrest⟩ := List.forall_mem_cons.1 h
    rw [flush, ih hrest, if_neg (by rw [hm]; decide)]

theorem filterMap_toClient_map (messages : List SocketMessage) :
    (messages.map ProxyCall.clientSend).filterMap ProxyCall.toClient = messages := by
  rw [List.filterMap_map]
  exact List.filterMap_some

theorem filterMap_toUpstream_map (messages : List SocketMessage) :
    (messages.map ProxyCall.clientSend).filterMap ProxyCall.toUpstream = [] := by
  rw [List.filterMap_map]
  exact List.filterMap_eq_nil_iff.2 fun _ _ => rfl

theorem step_clientOpen (h : bridge.Live) : step bridge .clientOpen =
    ({ bridge with
        hasClientSocket := true
        pendingUpstreamMessages := (flush bridge.pendingUpstreamMessages).2 },
      (flush bridge.pendingUpstreamMessages).1.map .clientSend) := by
  simp [step, openClientSocket, h.closed, h.registered, h.upstreamClosed]

theorem step_clientMessage (h : bridge.Live) (data : SocketData) :
    step bridge (.clientMessage data) = (bridge, [.upstreamSend (normalizeSocketMessage data)]) := by
  simp [step, clientMessage, h.closed, h.registered]

theorem step_upstreamMessage (h : bridge.Live) (data : SocketData) :
    step bridge (.upstreamMessage data) =
      if bridge.hasClientSocket then (bridge, [.clientSend (normalizeSocketMessage data)])
      else ({ bridge with pendingUpstreamMessages :=
        bridge.pendingUpstreamMessages ++ [normalizeSocketMessage data] }, []) := by
  simp [step, onUpstreamMessage, h.closed]

/-- What the calls of an open bridge relay, up to the state they leave. -/
structure Relay (bridge : UpstreamWebSocketBridge) (es : List ProxyEvent)
    (bridge' : UpstreamWebSocketBridge) (calls : List ProxyCall) : Prop where
  live : bridge'.Live
  attached : bridge'.hasClientSocket = (bridge.hasClientSocket || es.any ProxyEvent.Opens)
  sends : ∀ c ∈ calls, c.Sends
  toUpstream : calls.filterMap ProxyCall.toUpstream = es.filterMap ProxyEvent.fromClient
  /-- Without empty texts nothing is lost. -/
  whole : bridge.Drained →
    (∀ m ∈ bridge.pendingUpstreamMessages ++ es.filterMap ProxyEvent.fromUpstream,
      m.isFalsy = false) →
    bridge'.Drained ∧ calls.filterMap ProxyCall.toClient ++ bridge'.pendingUpstreamMessages =
      bridge.pendingUpstreamMessages ++ es.filterMap ProxyEvent.fromUpstream

theorem outputs_cons (e : ProxyEvent) (es : List ProxyEvent) :
    Machine.outputs step bridge (e :: es) =
      (step bridge e).2 ++ Machine.outputs step (step bridge e).1 es := rfl

theorem run_cons (e : ProxyEvent) (es : List ProxyEvent) :
    Machine.run (Machine.next step) bridge (e :: es) =
      Machine.run (Machine.next step) (step bridge e).1 es := rfl

theorem relay_step (h : bridge.Live) {e : ProxyEvent} (he : e.Ends = false) :
    bridge.Relay [e] (step bridge e).1 (step bridge e).2 := by
  cases e with
  | clientOpen =>
    rw [step_clientOpen h]
    refine ⟨⟨h.closed, h.registered, h.upstreamClosed⟩, by simp [ProxyEvent.Opens],
      List.forall_mem_map.2 fun _ _ => trivial, filterMap_toUpstream_map _, fun _ hempty => ?_⟩
    rw [flush_eq fun m hm => hempty m (List.mem_append_left _ hm)]
    refine ⟨fun _ => rfl, ?_⟩
    rw [filterMap_toClient_map]
    rfl
  | clientMessage data =>
    rw [step_clientMessage h]
    refine ⟨h, by simp [ProxyEvent.Opens], by simp [ProxyCall.Sends], rfl, fun hd _ => ⟨hd, ?_⟩⟩
    exact (List.append_nil _).symm
  | upstreamMessage data =>
    rw [step_upstreamMessage h]
    by_cases ha : bridge.hasClientSocket = true
    · rw [if_pos ha]
      refine ⟨h, by simp [ProxyEvent.Opens], by simp [ProxyCall.Sends], rfl, fun hd _ => ⟨hd, ?_⟩⟩
      rw [hd ha]
      rfl
    · rw [if_neg ha]
      exact ⟨⟨h.closed, h.registered, h.upstreamClosed⟩, by simp [ProxyEvent.Opens], by simp, rfl,
        fun _ _ => ⟨fun hc => absurd hc ha, rfl⟩⟩
  | upstreamClose info => cases he
  | upstreamError => cases he
  | clientClose code reason => cases he
  | dispose => cases he

/-- **Up to the event that closes it, a bridge relays.** -/
theorem relay_run (es : List ProxyEvent) (hes : ∀ e ∈ es, e.Ends = false) :
    ∀ {bridge : UpstreamWebSocketBridge}, bridge.Live →
      bridge.Relay es (Machine.run (Machine.next step) bridge es) (Machine.outputs step bridge es) := by
  induction es with
  | nil =>
    intro bridge h
    exact ⟨h, (Bool.or_false _).symm, List.forall_mem_nil _, rfl,
      fun hd _ => ⟨hd, (List.append_nil _).symm⟩⟩
  | cons e es ih =>
    obtain ⟨he, hes⟩ := List.forall_mem_cons.1 hes
    intro bridge h
    have hfirst := relay_step h he
    have hlater := ih hes hfirst.live
    rw [outputs_cons, run_cons]
    have hsplit : (e :: es).filterMap ProxyEvent.fromUpstream =
        [e].filterMap ProxyEvent.fromUpstream ++ es.filterMap ProxyEvent.fromUpstream := by
      rw [← List.filterMap_append]
      rfl
    refine ⟨hlater.live, ?_, ?_, ?_, fun hd hempty => ?_⟩
    · rw [hlater.attached, hfirst.attached, List.any_cons, List.any_cons, List.any_nil,
        Bool.or_false, Bool.or_assoc]
    · intro c hc
      exact (List.mem_append.1 hc).elim (hfirst.sends c) (hlater.sends c)
    · rw [List.filterMap_append, hfirst.toUpstream, hlater.toUpstream, ← List.filterMap_append]
      rfl
    · rw [hsplit, ← List.append_assoc] at hempty
      obtain ⟨hd', heq⟩ := hfirst.whole hd fun m hm => hempty m (List.mem_append_left _ hm)
      -- no message that is still pending is empty, nor is one that comes later
      have hkept : ∀ m ∈ (step bridge e).1.pendingUpstreamMessages ++
          es.filterMap ProxyEvent.fromUpstream, m.isFalsy = false := by
        intro m hm
        refine hempty m ?_
        rw [← heq]
        rcases List.mem_append.1 hm with hm | hm
        · exact List.mem_append_left _ (List.mem_append_right _ hm)
        · exact List.mem_append_right _ hm
      obtain ⟨hd'', heq'⟩ := hlater.whole hd' hkept
      refine ⟨hd'', ?_⟩
      rw [List.filterMap_append, List.append_assoc, heq', ← List.append_assoc, heq, hsplit,
        List.append_assoc]

/-- The client socket is attached: frames of the upstream are sent on as they come. -/
theorem toClient_attached (es : List ProxyEvent)
    (hes : ∀ e ∈ es, e.Ends = false ∧ e.Opens = false) : ∀ {bridge : UpstreamWebSocketBridge},
      bridge.Live → bridge.hasClientSocket = true →
      (Machine.outputs step bridge es).filterMap ProxyCall.toClient =
        es.filterMap ProxyEvent.fromUpstream := by
  induction es with
  | nil => exact fun _ _ => rfl
  | cons e es ih =>
    obtain ⟨⟨he, ho⟩, hes⟩ := List.forall_mem_cons.1 hes
    intro bridge h ha
    have hfirst := relay_step h he
    have hattached : (step bridge e).1.hasClientSocket = true := by
      rw [hfirst.attached, ha, Bool.true_or]
    rw [outputs_cons, List.filterMap_append, ih hes hfirst.live hattached]
    cases e with
    | clientOpen => cases ho
    | clientMessage data =>
      rw [step_clientMessage h]
      rfl
    | upstreamMessage data =>
      rw [step_upstreamMessage h, if_pos ha]
      rfl
    | upstreamClose info => cases he
    | upstreamError => cases he
    | clientClose code reason => cases he
    | dispose => cases he

/-- Before, they are kept, and some of them are lost when the client socket opens. -/
theorem toClient_detached (es : List ProxyEvent) (hes : ∀ e ∈ es, e.Ends = false)
    (hone : es.countP ProxyEvent.Opens ≤ 1) : ∀ {bridge : UpstreamWebSocketBridge},
      bridge.Live → bridge.hasClientSocket = false →
      ((Machine.outputs step bridge es).filterMap ProxyCall.toClient).Sublist
        (bridge.pendingUpstreamMessages ++ es.filterMap ProxyEvent.fromUpstream) := by
  induction es with
  | nil => exact fun _ _ => List.nil_sublist _
  | cons e es ih =>
    obtain ⟨he, hlater⟩ := List.forall_mem_cons.1 hes
    intro bridge h hd
    have hfirst := relay_step h he
    rw [outputs_cons, List.filterMap_append]
    cases e with
    | clientOpen =>
      rw [List.countP_cons_of_pos rfl] at hone
      -- the client socket has opened, and does so only once
      have hnone : ∀ e ∈ es, e.Ends = false ∧ e.Opens = false := by
        have hzero : es.countP ProxyEvent.Opens = 0 := by omega
        rw [List.countP_eq_zero] at hzero
        exact fun e hmem => ⟨hlater e hmem, by simpa using hzero e hmem⟩
      rw [toClient_attached es hnone hfirst.live (by rw [hfirst.attached]; simp [ProxyEvent.Opens]),
        step_clientOpen h, filterMap_toClient_map]
      exact (flush_initial _).sublist.append (List.Sublist.refl _)
    | clientMessage data =>
      have hrest := ih hlater (by rwa [List.countP_cons_of_neg (by simp [ProxyEvent.Opens])] at hone)
        hfirst.live (by rw [hfirst.attached, hd]; rfl)
      rw [step_clientMessage h] at hrest ⊢
      exact hrest
    | upstreamMessage data =>
      have hrest := ih hlater (by rwa [List.countP_cons_of_neg (by simp [ProxyEvent.Opens])] at hone)
        hfirst.live (by rw [hfirst.attached, hd]; rfl)
      rw [step_upstreamMessage h, if_neg (by rw [hd]; decide)] at hrest ⊢
      rw [List.append_assoc] at hrest
      exact hrest
    | upstreamClose info => cases he
    | upstreamError => cases he
    | clientClose code reason => cases he
    | dispose => cases he

/-! ### Once it is closed -/

/-- The calls of `closeBridge`, for a client socket that is attached or not. -/
def closing (attached : Bool) (code : Option ℕ) (reason : Option JsString) : List ProxyCall :=
  .upstreamClose (code.filter (isValidCloseCode ∘ some)) reason ::
    if attached then [.clientClose (clientCloseCode code) reason] else []

/-- What the event that closes a bridge is answered with. -/
def ended (attached : Bool) : ProxyEvent → List ProxyCall
  | .upstreamClose info =>
    if attached then [.clientClose (clientCloseCode info.code) info.reason] else []
  | .upstreamError => closing attached (some 1011) (some (js "upstream websocket error"))
  | .clientClose code reason => closing false code reason
  | .dispose => closing attached (some 1001) (some (js "runtime disposed"))
  | _ => []

/-- What a later event is answered with. -/
def afterwards : ProxyEvent → Option ProxyCall
  | .clientOpen => some bridgeUnavailable
  | .clientMessage _ => some bridgeUnavailable
  | _ => none

/-- The bridge is closed and in no table. -/
def Over (bridge : UpstreamWebSocketBridge) : Prop :=
  bridge.closed = true ∧ bridge.registered = false

theorem step_ends (h : bridge.Live) {e : ProxyEvent} (he : e.Ends = true) :
    (step bridge e).1.Over ∧ (step bridge e).2 = ended bridge.hasClientSocket e := by
  cases e with
  | clientOpen => cases he
  | clientMessage data => cases he
  | upstreamMessage data => cases he
  | upstreamClose info => simp [step, onUpstreamClose, h.closed, Over, ended]
  | upstreamError => simp [step, closeBridge, h.closed, Over, ended, closing]
  | clientClose code reason =>
    simp [step, clientClose, closeBridge, h.closed, h.registered, Over, ended, closing]
  | dispose => simp [step, closeBridge, h.closed, h.registered, Over, ended, closing]

theorem step_over (h : bridge.Over) (e : ProxyEvent) :
    step bridge e = (bridge, (afterwards e).toList) := by
  obtain ⟨hc, hr⟩ := h
  cases e <;>
    simp [step, onUpstreamMessage, onUpstreamClose, openClientSocket, clientMessage, clientClose, hc,
      hr, afterwards]

theorem outputs_over (h : bridge.Over) (es : List ProxyEvent) :
    Machine.outputs step bridge es = es.filterMap afterwards := by
  induction es with
  | nil => rfl
  | cons e es ih =>
    rw [Machine.outputs, Machine.next, step_over h, ih, List.filterMap_cons]
    cases afterwards e <;> rfl

/-! ### Every run -/

theorem outputs_append (es fs : List ProxyEvent) : ∀ bridge : UpstreamWebSocketBridge,
    Machine.outputs step bridge (es ++ fs) = Machine.outputs step bridge es ++
      Machine.outputs step (Machine.run (Machine.next step) bridge es) fs := by
  induction es with
  | nil => exact fun _ => rfl
  | cons e es ih =>
    intro bridge
    rw [List.cons_append, Machine.outputs, Machine.outputs, ih, Machine.run_cons, List.append_assoc]

/-- What a bridge relays in both directions while it is open. -/
structure RelaysBoth (live : List ProxyEvent) (sent : List ProxyCall) : Prop where
  sends : ∀ c ∈ sent, c.Sends
  /-- Every frame of the client goes to the upstream, in order. -/
  toUpstream : sent.filterMap ProxyCall.toUpstream = live.filterMap ProxyEvent.fromClient
  /-- The client gets frames of the upstream, in order and none twice. -/
  toClient : live.countP ProxyEvent.Opens ≤ 1 →
    (sent.filterMap ProxyCall.toClient).Sublist (live.filterMap ProxyEvent.fromUpstream)
  /-- It gets all of them once it is there, unless one is an empty text. -/
  whole : live.any ProxyEvent.Opens = true →
    (∀ m ∈ live.filterMap ProxyEvent.fromUpstream, m.isFalsy = false) →
    sent.filterMap ProxyCall.toClient = live.filterMap ProxyEvent.fromUpstream

/-- **In whatever order its events come, a bridge relays frames in both directions until the first
event that closes it; that one closes the sockets that are open, once; and later the client is only
told that there is no bridge.** -/
theorem bridge_run (es : List ProxyEvent) :
    ∃ sent, RelaysBoth (es.takeWhile fun e => !e.Ends) sent ∧
      calls es = sent ++ match es.dropWhile fun e => !e.Ends with
        | [] => []
        | e :: rest =>
          ended ((es.takeWhile fun e => !e.Ends).any ProxyEvent.Opens) e ++
            rest.filterMap afterwards := by
  set live := es.takeWhile fun e => !e.Ends with hlive
  have hopen : ({} : UpstreamWebSocketBridge).Live := ⟨rfl, rfl, rfl⟩
  have hends : ∀ e ∈ live, e.Ends = false := fun e he => by
    simpa using List.mem_takeWhile_imp he
  have hrelay := relay_run live hends hopen
  refine ⟨Machine.outputs step {} live, ⟨hrelay.sends, hrelay.toUpstream, fun hone => ?_,
    fun hany hempty => ?_⟩, ?_⟩
  · exact toClient_detached live hends hone hopen rfl
  · obtain ⟨hdrained, heq⟩ := hrelay.whole (fun h => by cases h) hempty
    rw [hdrained (by rw [hrelay.attached, hany]; rfl), List.append_nil] at heq
    exact heq
  · -- the calls before the first event that closes, and those from it on
    have hsplit : calls es = Machine.outputs step {} live ++ Machine.outputs step
        (Machine.run (Machine.next step) {} live) (es.dropWhile fun e => !e.Ends) := by
      rw [calls, hlive, ← outputs_append, List.takeWhile_append_dropWhile]
    rw [hsplit]
    cases hrest : es.dropWhile fun e => !e.Ends with
    | nil => rfl
    | cons e rest =>
      have he : e.Ends = true := by
        have hhead := List.head?_dropWhile_not (fun e : ProxyEvent => !e.Ends) es
        rw [hrest] at hhead
        simpa using hhead
      obtain ⟨hover, hcalls⟩ := step_ends hrelay.live he
      rw [outputs_cons, hcalls, outputs_over hover, hrelay.attached, Bool.false_or]

end UpstreamWebSocketBridge

end Hardess
