import Hardess.Ingress.WebSocket
import Hardess.Lib.StringToNumber
import Hardess.Proxy.BridgeRuns

/-!
# Upgrades through the websocket proxy

`UpstreamWebSocketProxyRuntime` of `src/runtime/proxy/upstream-websocket.ts`: a call of
`upgradeToTarget` opens a socket to the upstream, waits until it is open, and lets the client in;
the bridges of all the calls are in one table, and `dispose` closes them.

* `UpgradeCall.step`: a call with its bridge and the two sockets, event after event;
* `UpstreamWebSocketProxyRuntime.step`: all of them;
* `Owned`: no socket is forgotten, and what a call answers is what happened;
* **`upgrades_run`**: every run.

The listeners of a socket run in the order in which they were added: those of
`attachUpstreamListeners`, then those of `waitForUpstreamOpen`. What follows an `await` runs later.
-/

namespace Hardess

/-! ### A call -/

/-- `createTimeoutError`. -/
def webSocketTimeoutError : HardessError where
  code := .GATEWAY_UPSTREAM_TIMEOUT
  message := js "Upstream websocket connect timed out"
  retryable := true
  detail := some (.str (js "timeout_stage=websocket_connect"))

/-- `createUnavailableError`. -/
def webSocketUnavailableError (error : JsString) : HardessError where
  code := .GATEWAY_UPSTREAM_UNAVAILABLE
  message := js "Upstream websocket service is unavailable"
  retryable := true
  detail := some (.str error)

/-- What the error of a close during the connection says. -/
def closedDuringConnect (info : UpstreamCloseInfo) : JsString :=
  JsNumber.trim (js "upstream websocket closed during connect: " ++
    (JsNumber.ofNat (info.code.getD 1005)).text ++ js " " ++ info.reason.getD [])

/-- The promise of `waitForUpstreamOpen`. -/
inductive OpenWait
  | pending
  | resolved
  | rejected (error : HardessError)

instance OpenWait.decidablePending (wait : OpenWait) : Decidable (wait = .pending) :=
  match wait with
  | .pending => isTrue rfl
  | .resolved => isFalse (by simp)
  | .rejected _ => isFalse (by simp)

/-- What `upgradeToTarget` gives: nothing, where the client is upgraded; the response 426; or an
error. -/
inductive UpgradeAnswer
  | upgraded
  | refused
  | failed (error : HardessError)

instance UpgradeAnswer.decidableUpgraded (answer : Option UpgradeAnswer) :
    Decidable (answer = some .upgraded) :=
  match answer with
  | some .upgraded => isTrue rfl
  | none => isFalse (by simp)
  | some .refused => isFalse (by simp)
  | some (.failed _) => isFalse (by simp)

/-- What happens to a call. -/
inductive UpgradeEvent
  | upstreamOpen
  /-- The timer of `connectTimeoutMs`. -/
  | connectTimeout
  /-- The promise has settled; `upgraded` is what `serverRef.upgrade` says, where it is asked. -/
  | resume (upgraded : Bool)
  | socket (e : ProxyEvent)

/-- A call of `upgradeToTarget`, with its bridge. -/
structure UpgradeCall where
  bridge : UpstreamWebSocketBridge := {}
  opening : OpenWait := .pending
  /-- Is the timer of `connectTimeoutMs` set? -/
  timer : Bool := true
  answer : Option UpgradeAnswer := none
  /-- What has happened so far. -/
  heard : List UpgradeEvent := []
  /-- The calls on the two sockets so far. -/
  calls : List ProxyCall := []

/-- What an event settles the promise with. -/
def UpgradeEvent.settles : UpgradeEvent → Option OpenWait
  | .upstreamOpen => some .resolved
  | .connectTimeout => some (.rejected webSocketTimeoutError)
  | .socket .upstreamError =>
    some (.rejected (webSocketUnavailableError (js "upstream websocket error")))
  | .socket (.upstreamClose info) =>
    some (.rejected (webSocketUnavailableError (closedDuringConnect info)))
  | _ => none

/-- The event of a bridge. -/
def UpgradeEvent.proxy : UpgradeEvent → Option ProxyEvent
  | .socket e => some e
  | _ => none

/-- An event of the client socket. -/
def ProxyEvent.ofClient : ProxyEvent → Bool
  | .clientOpen => true
  | .clientMessage _ => true
  | .clientClose .. => true
  | _ => false

namespace UpgradeCall

variable (call : UpgradeCall)

/-- The timer runs while it is set; the client has a socket once it has been let in. -/
def Happens : UpgradeEvent → Bool
  | .connectTimeout => call.timer
  | .resume _ => call.opening ≠ .pending ∧ call.answer = none
  | .socket e => ¬e.ofClient ∨ call.answer = some .upgraded
  | .upstreamOpen => true

/-- A listener of `waitForUpstreamOpen`, or its timer: it does nothing once the promise has
settled. -/
def settle (wait : Option OpenWait) : UpgradeCall :=
  match wait with
  | none => call
  | some wait =>
    if call.opening = .pending then { call with opening := wait, timer := false } else call

/-- A listener of the bridge, or a method of the runtime. -/
def onSocket (e : ProxyEvent) : UpgradeCall :=
  let next := call.bridge.step e
  { call with bridge := next.1, calls := call.calls ++ next.2 }

/-- `upgradeToTarget` after its `await`. -/
def letIn (upgraded : Bool) : UpgradeCall :=
  if upgraded then { call with answer := some .upgraded }
  else
    let closed := call.bridge.closeBridge (some 1011) (some (js "client websocket upgrade failed"))
    { call with bridge := closed.1, calls := call.calls ++ closed.2, answer := some .refused }

/-- The `catch` of `openBridge`: the bridge leaves the table. -/
def fail (error : HardessError) : UpgradeCall :=
  { call with
    bridge := { call.bridge with registered := false }
    calls := call.calls ++ [.upstreamClose (some 1011) (some (js "upstream connect failed"))]
    answer := some (.failed error) }

/-- What follows the `await`. -/
def resume (upgraded : Bool) : UpgradeCall :=
  match call.opening with
  | .pending => call
  | .resolved => call.letIn upgraded
  | .rejected error => call.fail error

/-- What a call does on an event. -/
def step (e : UpgradeEvent) : UpgradeCall :=
  if call.Happens e then
    let heard := { call with heard := call.heard ++ [e] }
    match e with
    | .upstreamOpen => heard.settle e.settles
    | .connectTimeout => { heard.settle e.settles with timer := false }
    | .resume upgraded => heard.resume upgraded
    | .socket event => (heard.onSocket event).settle e.settles
  else call

end UpgradeCall

/-! ### All the calls -/

/-- `UpstreamWebSocketProxyRuntime`: its calls, with their bridges. -/
structure UpstreamWebSocketProxyRuntime where
  upgrades : List UpgradeCall := []

/-- What happens to the proxy. -/
inductive ProxyRuntimeEvent
  | upgradeToTarget
  | call (i : ℕ) (e : UpgradeEvent)
  | dispose

namespace UpstreamWebSocketProxyRuntime

/-- What the proxy does on an event: a new call opens its own socket, and `dispose` is for every
bridge. -/
def step (proxy : UpstreamWebSocketProxyRuntime) :
    ProxyRuntimeEvent → UpstreamWebSocketProxyRuntime
  | .upgradeToTarget => { upgrades := proxy.upgrades ++ [{}] }
  | .call _ (.socket .dispose) => proxy
  | .call i e => { upgrades := proxy.upgrades.modify i (·.step e) }
  | .dispose => { upgrades := proxy.upgrades.map (·.step (.socket .dispose)) }

end UpstreamWebSocketProxyRuntime

/-! ### No socket is forgotten -/

/-- The call closes the upstream socket. -/
def ProxyCall.ClosesUpstream : ProxyCall → Prop
  | .upstreamClose .. => True
  | _ => False

/-- The call closes the client socket. -/
def ProxyCall.ClosesClient : ProxyCall → Prop
  | .clientClose .. => True
  | _ => False

/-- The upstream socket closes. -/
def ProxyEvent.UpstreamCloses : ProxyEvent → Prop
  | .upstreamClose _ => True
  | _ => False

/-- The client socket closes. -/
def ProxyEvent.ClientCloses : ProxyEvent → Prop
  | .clientClose .. => True
  | _ => False

/-- A socket is closed: by a call, or by itself. -/
def SocketOver (closes : ProxyCall → Prop) (closesItself : ProxyEvent → Prop)
    (calls : List ProxyCall) (events : List ProxyEvent) : Prop :=
  (∃ c ∈ calls, closes c) ∨ ∃ e ∈ events, closesItself e

/-- What the first of some events settles the promise with. -/
def firstSettled (heard : List UpgradeEvent) : OpenWait :=
  ((heard.filterMap UpgradeEvent.settles).head?).getD .pending

namespace UpgradeCall

variable (call : UpgradeCall)

/-- What has happened to the bridge. -/
def events : List ProxyEvent := call.heard.filterMap UpgradeEvent.proxy

/-- The upstream socket is closed. -/
def UpstreamOver : Prop :=
  SocketOver ProxyCall.ClosesUpstream ProxyEvent.UpstreamCloses call.calls call.events

/-- The client socket is closed. -/
def ClientOver : Prop :=
  SocketOver ProxyCall.ClosesClient ProxyEvent.ClientCloses call.calls call.events

/-- Has the client socket opened? -/
def ClientOpened : Prop := ∃ e ∈ call.events, e.Opens = true

/-- **No socket is forgotten, and what a call answers is what happened.** -/
structure Owned : Prop where
  /-- A bridge is in the table exactly until its upstream socket is closed. -/
  upstream : call.bridge.registered = false ↔ call.UpstreamOver
  /-- Where the client has a socket, both are closed or none. -/
  client : call.ClientOpened → (call.bridge.registered = false ↔ call.ClientOver)
  /-- The promise settles with what comes first. -/
  opening : call.opening = firstSettled call.heard
  /-- The timer is set until then. -/
  timer : call.timer = true ↔ call.opening = .pending
  /-- There is no answer before. -/
  waits : call.opening = .pending → call.answer = none
  /-- A client that is let in has an upstream that was open; from then on the sockets get what its
  bridge makes of what has happened since the call began. -/
  upgraded : call.answer = some .upgraded →
    call.opening = .resolved ∧ call.calls = UpstreamWebSocketBridge.calls call.events
  /-- Where the server does not let it in, the upstream was open, and is closed. -/
  refused : call.answer = some .refused → call.opening = .resolved ∧ call.bridge.registered = false
  /-- Any other call says why the upstream was not open in time, and its socket is closed. -/
  failed : ∀ error, call.answer = some (.failed error) →
    call.opening = .rejected error ∧ call.bridge.registered = false
  /-- Nobody who is not let in has a socket. -/
  let_in : call.answer ≠ some .upgraded → ¬call.ClientOpened

end UpgradeCall

/-! ### One event of a bridge -/

/-- A call that sends closes nothing. -/
theorem ProxyCall.Sends.closes {c : ProxyCall} (h : c.Sends) :
    ¬c.ClosesUpstream ∧ ¬c.ClosesClient := by
  cases c with
  | clientSend message => exact ⟨id, id⟩
  | upstreamSend message => exact ⟨id, id⟩
  | clientClose code reason => exact h.elim
  | upstreamClose code reason => exact h.elim

theorem ProxyEvent.closes_of_ends {e : ProxyEvent} (h : e.Ends = false) :
    ¬e.UpstreamCloses ∧ ¬e.ClientCloses := by
  cases e <;> first | exact ⟨id, id⟩ | cases h

theorem ProxyEvent.opens_of_ends {e : ProxyEvent} (h : e.Ends = true) : e.Opens = false := by
  cases e <;> first | rfl | cases h

namespace UpstreamWebSocketBridge

variable {bridge : UpstreamWebSocketBridge}

/-- What an event does to a bridge and its sockets. -/
structure Keeps (bridge bridge' : UpstreamWebSocketBridge) (e : ProxyEvent)
    (calls : List ProxyCall) : Prop where
  /-- A bridge that stays in the table was there, and nothing closes. -/
  stays : bridge'.registered = true → bridge.registered = true ∧ bridge'.Live ∧
    (∀ c ∈ calls, c.Sends) ∧ e.Ends = false ∧
      bridge'.hasClientSocket = (bridge.hasClientSocket || e.Opens)
  /-- One that leaves the table is left by both sockets. -/
  leaves : bridge.registered = true → bridge'.registered = false →
    e.Opens = false ∧ SocketOver ProxyCall.ClosesUpstream ProxyEvent.UpstreamCloses calls [e] ∧
      (bridge.hasClientSocket = true →
        SocketOver ProxyCall.ClosesClient ProxyEvent.ClientCloses calls [e])
  /-- A client that comes later is closed. -/
  late : bridge.registered = false → e.Opens = true → ∃ c ∈ calls, c.ClosesClient

/-- The event that closes a bridge closes both sockets, except one that closes by itself. -/
theorem closes_ended (attached : Bool) {e : ProxyEvent} (he : e.Ends = true) :
    SocketOver ProxyCall.ClosesUpstream ProxyEvent.UpstreamCloses (ended attached e) [e] ∧
      (attached = true →
        SocketOver ProxyCall.ClosesClient ProxyEvent.ClientCloses (ended attached e) [e]) := by
  cases e with
  | upstreamClose info =>
    exact ⟨.inr ⟨_, List.mem_singleton_self _, trivial⟩,
      fun h => .inl (by simp [ended, h, ProxyCall.ClosesClient])⟩
  | clientClose code reason =>
    exact ⟨.inl (by simp [ended, closing, ProxyCall.ClosesUpstream]),
      fun _ => .inr ⟨_, List.mem_singleton_self _, trivial⟩⟩
  | upstreamError =>
    exact ⟨.inl (by simp [ended, closing, ProxyCall.ClosesUpstream]),
      fun h => .inl (by simp [ended, closing, h, ProxyCall.ClosesClient])⟩
  | dispose =>
    exact ⟨.inl (by simp [ended, closing, ProxyCall.ClosesUpstream]),
      fun h => .inl (by simp [ended, closing, h, ProxyCall.ClosesClient])⟩
  | upstreamMessage data => cases he
  | clientOpen => cases he
  | clientMessage data => cases he

/-- A bridge that has left the table does not come back. -/
theorem registered_step (h : bridge.registered = false) (e : ProxyEvent) :
    (step bridge e).1.registered = false := by
  cases e with
  | upstreamMessage data =>
    simp only [step, onUpstreamMessage]
    split_ifs <;> exact h
  | upstreamClose info =>
    simp only [step, onUpstreamClose]
    split_ifs <;> first | exact h | rfl
  | upstreamError =>
    simp only [step, closeBridge]
    split_ifs <;> first | exact h | rfl
  | clientOpen => simp [step, openClientSocket, h]
  | clientMessage data => simp [step, clientMessage, h]
  | clientClose code reason => simp [step, clientClose, h]
  | dispose => simp [step, h]

theorem keeps_step (h : bridge.registered = true → bridge.Live) (e : ProxyEvent) :
    bridge.Keeps (step bridge e).1 e (step bridge e).2 := by
  cases hr : bridge.registered with
  | false =>
    refine ⟨fun h' => ?_, fun h' => ?_, fun _ ho => ?_⟩
    · rw [registered_step hr] at h'
      cases h'
    · rw [hr] at h'
      cases h'
    · cases e with
      | clientOpen => simp [step, openClientSocket, hr, bridgeUnavailable, ProxyCall.ClosesClient]
      | _ => cases ho
  | true =>
    have hlive := h hr
    cases he : e.Ends with
    | true =>
      obtain ⟨hover, hcalls⟩ := step_ends hlive he
      refine ⟨fun h' => ?_, fun _ _ => ?_, fun h' => ?_⟩
      · rw [hover.2] at h'
        cases h'
      · rw [hcalls]
        exact ⟨ProxyEvent.opens_of_ends he, closes_ended bridge.hasClientSocket he⟩
      · rw [hr] at h'
        cases h'
    | false =>
      have hrelay := relay_step hlive he
      refine ⟨fun _ => ⟨hr, hrelay.live, hrelay.sends, he, ?_⟩, fun _ h' => ?_, fun h' => ?_⟩
      · simpa using hrelay.attached
      · rw [hrelay.live.registered] at h'
        cases h'
      · rw [hr] at h'
        cases h'

end UpstreamWebSocketBridge

/-! ### One event of a call -/

theorem socketOver_append {closes : ProxyCall → Prop} {closesItself : ProxyEvent → Prop}
    {calls calls' : List ProxyCall} {events events' : List ProxyEvent} :
    SocketOver closes closesItself (calls ++ calls') (events ++ events') ↔
      SocketOver closes closesItself calls events ∨
        SocketOver closes closesItself calls' events' := by
  simp only [SocketOver, List.mem_append, or_and_right, exists_or]
  exact or_or_or_comm

/-- The table, the two sockets and what has happened to them agree. -/
structure Held (bridge : UpstreamWebSocketBridge) (calls : List ProxyCall)
    (events : List ProxyEvent) : Prop where
  live : bridge.registered = true → bridge.Live
  attached : bridge.registered = true →
    (bridge.hasClientSocket = true ↔ ∃ e ∈ events, e.Opens = true)
  /-- While the bridge is in the table, nothing has been closed. -/
  untouched : bridge.registered = true →
    (∀ c ∈ calls, c.Sends) ∧ ∀ e ∈ events, e.Ends = false
  upstream : bridge.registered = false →
    SocketOver ProxyCall.ClosesUpstream ProxyEvent.UpstreamCloses calls events
  client : bridge.registered = false → (∃ e ∈ events, e.Opens = true) →
    SocketOver ProxyCall.ClosesClient ProxyEvent.ClientCloses calls events

namespace Held

variable {bridge : UpstreamWebSocketBridge} {calls : List ProxyCall} {events : List ProxyEvent}

theorem step (h : Held bridge calls events) (e : ProxyEvent) :
    Held (bridge.step e).1 (calls ++ (bridge.step e).2) (events ++ [e]) := by
  have hkeeps := UpstreamWebSocketBridge.keeps_step h.live e
  have hopens : (∃ e' ∈ events ++ [e], e'.Opens = true) ↔
      (∃ e' ∈ events, e'.Opens = true) ∨ e.Opens = true := by
    simp [or_and_right, exists_or]
  refine ⟨fun hr => (hkeeps.stays hr).2.1, fun hr => ?_, fun hr => ?_, fun hr => ?_,
    fun hr hopened => ?_⟩
  · obtain ⟨hold, -, -, -, hattached⟩ := hkeeps.stays hr
    rw [hattached, Bool.or_eq_true, h.attached hold, hopens]
  · obtain ⟨hold, -, hsends, hends, -⟩ := hkeeps.stays hr
    obtain ⟨hcalls, hevents⟩ := h.untouched hold
    exact ⟨List.forall_mem_append.2 ⟨hcalls, hsends⟩,
      List.forall_mem_append.2 ⟨hevents, List.forall_mem_singleton.2 hends⟩⟩
  · rw [socketOver_append]
    cases hold : bridge.registered with
    | true => exact .inr (hkeeps.leaves hold hr).2.1
    | false => exact .inl (h.upstream hold)
  · rw [socketOver_append]
    rw [hopens] at hopened
    cases hold : bridge.registered with
    | true =>
      obtain ⟨hnew, -, hclient⟩ := hkeeps.leaves hold hr
      refine .inr (hclient ((h.attached hold).2 (hopened.resolve_right ?_)))
      rw [hnew]
      exact Bool.false_ne_true
    | false =>
      rcases hopened with hopened | hopened
      · exact .inl (h.client hold hopened)
      · exact .inr (.inl (hkeeps.late hold hopened))

/-- Leaving the table with a call that closes the upstream socket, where no client has come. -/
theorem leave (h : Held bridge calls events) (hopened : ¬∃ e ∈ events, e.Opens = true)
    {bridge' : UpstreamWebSocketBridge} {calls' : List ProxyCall}
    (hr : bridge'.registered = false)
    (hcloses : bridge.registered = true → ∃ c ∈ calls', c.ClosesUpstream) :
    Held bridge' (calls ++ calls') events := by
  have hnever {p : Prop} (h' : bridge'.registered = true) : p := by
    rw [hr] at h'
    cases h'
  refine ⟨hnever, hnever, hnever, fun _ => ?_, fun _ h' => (hopened h').elim⟩
  rw [← List.append_nil events, socketOver_append]
  cases hold : bridge.registered with
  | true => exact .inr (.inl (hcloses hold))
  | false => exact .inl (h.upstream hold)

end Held

theorem UpgradeEvent.settles_resume (upgraded : Bool) :
    (UpgradeEvent.resume upgraded).settles = none := rfl

theorem UpgradeEvent.settles_ne (e : UpgradeEvent) : e.settles ≠ some .pending := by
  cases e with
  | upstreamOpen => exact nofun
  | connectTimeout => exact nofun
  | resume upgraded => exact nofun
  | socket e => cases e <;> exact nofun

theorem firstSettled_concat (heard : List UpgradeEvent) (e : UpgradeEvent) :
    firstSettled (heard ++ [e]) =
      if firstSettled heard = .pending then e.settles.getD .pending else firstSettled heard := by
  unfold firstSettled
  rw [List.filterMap_append, List.head?_append]
  cases hfirst : (heard.filterMap UpgradeEvent.settles).head? with
  | none =>
    rw [Option.none_or, Option.getD_none, if_pos rfl]
    cases hsettles : e.settles <;> simp [hsettles]
  | some wait =>
    obtain ⟨e', -, he'⟩ := List.mem_filterMap.1 (List.mem_of_mem_head? hfirst)
    have hne : wait ≠ .pending := fun h => e'.settles_ne (by rw [he', h])
    rw [Option.some_or, Option.getD_some, if_neg hne]

namespace UpgradeCall

variable {call : UpgradeCall}

section settle

variable (wait : Option OpenWait)

@[simp] theorem bridge_settle : (call.settle wait).bridge = call.bridge := by
  unfold settle
  cases wait with
  | none => rfl
  | some wait => dsimp only; split_ifs <;> rfl

@[simp] theorem calls_settle : (call.settle wait).calls = call.calls := by
  unfold settle
  cases wait with
  | none => rfl
  | some wait => dsimp only; split_ifs <;> rfl

@[simp] theorem heard_settle : (call.settle wait).heard = call.heard := by
  unfold settle
  cases wait with
  | none => rfl
  | some wait => dsimp only; split_ifs <;> rfl

@[simp] theorem answer_settle : (call.settle wait).answer = call.answer := by
  unfold settle
  cases wait with
  | none => rfl
  | some wait => dsimp only; split_ifs <;> rfl

theorem opening_settle : (call.settle wait).opening =
    if call.opening = .pending then wait.getD .pending else call.opening := by
  unfold settle
  cases wait with
  | none =>
    dsimp only [Option.getD_none]
    split_ifs with h
    · exact h
    · rfl
  | some wait => dsimp only; split_ifs <;> rfl

theorem timer_settle (hwait : wait ≠ some .pending)
    (h : call.timer = true ↔ call.opening = .pending) :
    (call.settle wait).timer = true ↔ (call.settle wait).opening = .pending := by
  unfold settle
  cases wait with
  | none => exact h
  | some wait =>
    dsimp only
    split_ifs with hpending
    · exact ⟨nofun, fun h => (hwait (congrArg some h)).elim⟩
    · exact h

end settle

/-- What every step keeps. -/
structure Sound (call : UpgradeCall) : Prop where
  held : Held call.bridge call.calls call.events
  opening : call.opening = firstSettled call.heard
  timer : call.timer = true ↔ call.opening = .pending
  waits : call.opening = .pending → call.answer = none
  /-- Until the proxy gives the bridge up, it is on its own. -/
  own : call.answer = none ∨ call.answer = some .upgraded →
    call.bridge = Machine.run (Machine.next UpstreamWebSocketBridge.step) {} call.events ∧
      call.calls = UpstreamWebSocketBridge.calls call.events
  upgraded : call.answer = some .upgraded → call.opening = .resolved
  refused : call.answer = some .refused → call.opening = .resolved ∧ call.bridge.registered = false
  failed : ∀ error, call.answer = some (.failed error) →
    call.opening = .rejected error ∧ call.bridge.registered = false
  letIn : call.answer ≠ some .upgraded → ¬call.ClientOpened

theorem Sound.create : ({} : UpgradeCall).Sound where
  held := ⟨fun _ => ⟨rfl, rfl, rfl⟩, fun _ => ⟨nofun, fun ⟨_, h, _⟩ => absurd h List.not_mem_nil⟩,
    fun _ => ⟨fun _ h => absurd h List.not_mem_nil, fun _ h => absurd h List.not_mem_nil⟩,
    nofun, nofun⟩
  opening := rfl
  timer := ⟨fun _ => rfl, fun _ => rfl⟩
  waits _ := rfl
  own _ := ⟨rfl, rfl⟩
  upgraded := nofun
  refused := nofun
  failed := nofun
  letIn _ := fun ⟨_, h, _⟩ => absurd h List.not_mem_nil

theorem Sound.owned (h : call.Sound) : call.Owned where
  upstream := by
    refine ⟨h.held.upstream, fun hover => ?_⟩
    by_contra hr
    obtain ⟨hcalls, hevents⟩ := h.held.untouched (by simpa using hr)
    rcases hover with ⟨c, hc, hcloses⟩ | ⟨e, he, hcloses⟩
    · exact (hcalls c hc).closes.1 hcloses
    · exact (ProxyEvent.closes_of_ends (hevents e he)).1 hcloses
  client hopened := by
    refine ⟨fun hr => h.held.client hr hopened, fun hover => ?_⟩
    by_contra hr
    obtain ⟨hcalls, hevents⟩ := h.held.untouched (by simpa using hr)
    rcases hover with ⟨c, hc, hcloses⟩ | ⟨e, he, hcloses⟩
    · exact (hcalls c hc).closes.2 hcloses
    · exact (ProxyEvent.closes_of_ends (hevents e he)).2 hcloses
  opening := h.opening
  timer := h.timer
  waits := h.waits
  upgraded ha := ⟨h.upgraded ha, (h.own (.inr ha)).2⟩
  refused := h.refused
  failed := h.failed
  let_in := h.letIn

theorem heard_resume (upgraded : Bool) : (call.resume upgraded).heard = call.heard := by
  unfold resume
  split
  · rfl
  · cases upgraded <;> rfl
  · rfl

theorem opening_resume (upgraded : Bool) : (call.resume upgraded).opening = call.opening := by
  unfold resume
  split
  · rfl
  · cases upgraded <;> rfl
  · rfl

theorem timer_resume (upgraded : Bool) : (call.resume upgraded).timer = call.timer := by
  unfold resume
  split
  · rfl
  · cases upgraded <;> rfl
  · rfl

section step

variable {e : UpgradeEvent} (hp : call.Happens e = true)

include hp

theorem heard_step : (call.step e).heard = call.heard ++ [e] := by
  unfold step
  rw [if_pos hp]
  cases e with
  | upstreamOpen => exact heard_settle _
  | connectTimeout => exact heard_settle _
  | resume upgraded => exact heard_resume upgraded
  | socket event => exact heard_settle _

theorem events_step : (call.step e).events = call.events ++ e.proxy.toList := by
  unfold events
  rw [heard_step hp, List.filterMap_append]
  cases e <;> rfl

theorem opening_step : (call.step e).opening =
    if call.opening = .pending then e.settles.getD .pending else call.opening := by
  unfold step
  rw [if_pos hp]
  cases e with
  | upstreamOpen => exact opening_settle _
  | connectTimeout => exact opening_settle _
  | resume upgraded =>
    rw [UpgradeEvent.settles_resume, Option.getD_none]
    split_ifs with hpending
    · exact (opening_resume upgraded).trans hpending
    · exact opening_resume upgraded
  | socket event => exact opening_settle _

theorem timer_step (h : call.timer = true ↔ call.opening = .pending) :
    (call.step e).timer = true ↔ (call.step e).opening = .pending := by
  have hopening := opening_step hp
  unfold step at hopening ⊢
  rw [if_pos hp] at hopening ⊢
  cases e with
  | upstreamOpen => exact timer_settle _ nofun h
  | connectTimeout =>
    rw [hopening, if_pos (h.1 hp)]
    exact ⟨nofun, nofun⟩
  | resume upgraded =>
    dsimp only
    rw [timer_resume, opening_resume]
    exact h
  | socket event => exact timer_settle _ (UpgradeEvent.settles_ne _) h

end step

theorem resume_resolved (h : call.opening = .resolved) (upgraded : Bool) :
    call.resume upgraded = call.letIn upgraded := by
  unfold resume
  rw [h]

theorem resume_rejected {error : HardessError} (h : call.opening = .rejected error)
    (upgraded : Bool) : call.resume upgraded = call.fail error := by
  unfold resume
  rw [h]

/-- What follows the `await` keeps everything. -/
theorem Sound.resumed (h : call.Sound) (upgraded : Bool) (hwait : call.opening ≠ .pending)
    (hanswer : call.answer = none) :
    let call' := call.resume upgraded
    Held call'.bridge call'.calls call.events ∧
      (call'.answer = none ∨ call'.answer = some .upgraded →
        call'.bridge = call.bridge ∧ call'.calls = call.calls) ∧
      (call'.answer = some .upgraded → call.opening = .resolved) ∧
      (call'.answer = some .refused →
        call.opening = .resolved ∧ call'.bridge.registered = false) ∧
      ∀ error, call'.answer = some (.failed error) →
        call.opening = .rejected error ∧ call'.bridge.registered = false := by
  have hopened : ¬call.ClientOpened := h.letIn (by simp [hanswer])
  intro call'
  cases hcase : call.opening with
  | pending => exact (hwait hcase).elim
  | resolved =>
    cases upgraded with
    | true =>
      have heq : call' = { call with answer := some .upgraded } := resume_resolved hcase true
      rw [heq]
      exact ⟨h.held, fun _ => ⟨rfl, rfl⟩, fun _ => rfl, by simp, by simp⟩
    | false =>
      -- the client is refused: the bridge is closed before the answer
      set closed := call.bridge.closeBridge (some 1011)
        (some (js "client websocket upgrade failed")) with hclosed
      have heq : call' = { call with
          bridge := closed.1, calls := call.calls ++ closed.2, answer := some .refused } :=
        resume_resolved hcase false
      have hregistered : closed.1.registered = false := by
        rw [hclosed, UpstreamWebSocketBridge.closeBridge]
        split_ifs with hc <;> first | rfl | skip
        by_contra hr
        rw [(h.held.live (by simpa using hr)).closed] at hc
        cases hc
      -- a bridge that is still in the table has an upstream socket to close
      have hcloses (hr : call.bridge.registered = true) : ∃ c ∈ closed.2, c.ClosesUpstream := by
        rw [hclosed, UpstreamWebSocketBridge.closeBridge, (h.held.live hr).closed]
        exact ⟨_, List.mem_cons_self, trivial⟩
      rw [heq]
      exact ⟨h.held.leave hopened hregistered hcloses, by simp, by simp,
        fun _ => ⟨rfl, hregistered⟩, by simp⟩
  | rejected error =>
    have heq : call' = call.fail error := resume_rejected hcase upgraded
    rw [heq]
    refine ⟨h.held.leave hopened rfl fun _ => ⟨_, List.mem_singleton_self _, trivial⟩,
      by simp [UpgradeCall.fail], by simp [UpgradeCall.fail], by simp [UpgradeCall.fail],
      fun error' h' => ?_⟩
    obtain rfl : error = error' := by simpa [UpgradeCall.fail] using h'
    exact ⟨rfl, rfl⟩

section step

variable {e : UpgradeEvent} (hp : call.Happens e = true)

include hp

/-- The promise settles once. -/
theorem opening_kept (h : call.opening ≠ .pending) : (call.step e).opening = call.opening := by
  rw [opening_step hp, if_neg h]

/-- An event that is not the end of the `await` leaves the answer as it is. -/
theorem Sound.keep (h : call.Sound) (hanswer : (call.step e).answer = call.answer)
    (hheld : Held (call.step e).bridge (call.step e).calls (call.step e).events)
    (hregistered : call.bridge.registered = false → (call.step e).bridge.registered = false)
    (hown : call.bridge = Machine.run (Machine.next UpstreamWebSocketBridge.step) {} call.events →
      call.calls = UpstreamWebSocketBridge.calls call.events →
      (call.step e).bridge =
          Machine.run (Machine.next UpstreamWebSocketBridge.step) {} (call.step e).events ∧
        (call.step e).calls = UpstreamWebSocketBridge.calls (call.step e).events)
    (hopened : (call.step e).ClientOpened → call.ClientOpened ∨ call.answer = some .upgraded) :
    (call.step e).Sound where
  held := hheld
  opening := by rw [opening_step hp, heard_step hp, firstSettled_concat, h.opening]
  timer := timer_step hp h.timer
  waits hpending := by
    rw [hanswer]
    refine h.waits ?_
    by_contra hne
    exact hne ((opening_kept hp hne).symm.trans hpending)
  own ha := by
    rw [hanswer] at ha
    exact hown (h.own ha).1 (h.own ha).2
  upgraded ha := by
    rw [hanswer] at ha
    have hresolved := h.upgraded ha
    rw [opening_kept hp (by rw [hresolved]; nofun), hresolved]
  refused ha := by
    rw [hanswer] at ha
    obtain ⟨hresolved, hr⟩ := h.refused ha
    rw [opening_kept hp (by rw [hresolved]; nofun), hresolved]
    exact ⟨rfl, hregistered hr⟩
  failed error ha := by
    rw [hanswer] at ha
    obtain ⟨hrejected, hr⟩ := h.failed error ha
    rw [opening_kept hp (by rw [hrejected]; nofun), hrejected]
    exact ⟨rfl, hregistered hr⟩
  letIn ha hnew := by
    rw [hanswer] at ha
    exact (hopened hnew).elim (h.letIn ha) ha

end step

theorem step_socket {event : ProxyEvent} (hp : call.Happens (.socket event) = true) :
    (call.step (.socket event)).bridge = (call.bridge.step event).1 ∧
      (call.step (.socket event)).calls = call.calls ++ (call.bridge.step event).2 ∧
      (call.step (.socket event)).answer = call.answer := by
  unfold step
  rw [if_pos hp]
  exact ⟨bridge_settle _, calls_settle _, answer_settle _⟩

theorem step_resume {upgraded : Bool} (hp : call.Happens (.resume upgraded) = true) :
    (call.step (.resume upgraded)).bridge = (call.resume upgraded).bridge ∧
      (call.step (.resume upgraded)).calls = (call.resume upgraded).calls ∧
      (call.step (.resume upgraded)).answer = (call.resume upgraded).answer := by
  unfold step
  rw [if_pos hp]
  dsimp only [resume]
  split
  · exact ⟨rfl, rfl, rfl⟩
  · cases upgraded <;> exact ⟨rfl, rfl, rfl⟩
  · exact ⟨rfl, rfl, rfl⟩

/-- Settling the promise touches nothing else. -/
theorem step_wait {e : UpgradeEvent} (he : e = .upstreamOpen ∨ e = .connectTimeout)
    (hp : call.Happens e = true) :
    (call.step e).bridge = call.bridge ∧ (call.step e).calls = call.calls ∧
      (call.step e).answer = call.answer := by
  unfold step
  rw [if_pos hp]
  rcases he with rfl | rfl
  · exact ⟨bridge_settle _, calls_settle _, answer_settle _⟩
  · exact ⟨bridge_settle _, calls_settle _, answer_settle _⟩

theorem Sound.wait (h : call.Sound) {e : UpgradeEvent}
    (he : e = .upstreamOpen ∨ e = .connectTimeout) (hp : call.Happens e = true) :
    (call.step e).Sound := by
  obtain ⟨hbridge, hcalls, hanswer⟩ := step_wait he hp
  have hevents : (call.step e).events = call.events := by
    rw [events_step hp]
    rcases he with rfl | rfl <;> exact List.append_nil _
  refine h.keep hp hanswer ?_ ?_ ?_ ?_
  · rw [hbridge, hcalls, hevents]
    exact h.held
  · rw [hbridge]
    exact id
  · rw [hbridge, hcalls, hevents]
    exact And.intro
  · rw [ClientOpened, hevents]
    exact .inl

theorem Sound.step (h : call.Sound) (e : UpgradeEvent) : (call.step e).Sound := by
  by_cases hp : call.Happens e = true
  swap
  · rwa [UpgradeCall.step, if_neg hp]
  have hevents := events_step hp
  cases e with
  | upstreamOpen => exact h.wait (.inl rfl) hp
  | connectTimeout => exact h.wait (.inr rfl) hp
  | socket event =>
    obtain ⟨hbridge, hcalls, hanswer⟩ := step_socket hp
    refine h.keep hp hanswer ?_ ?_ (fun hown hown' => ?_) fun hopened => ?_
    · rw [hbridge, hcalls, hevents]
      exact h.held.step event
    · rw [hbridge]
      exact fun hr => UpstreamWebSocketBridge.registered_step hr event
    · have hlog : (call.step (.socket event)).events = call.events ++ [event] := hevents
      rw [hbridge, hcalls, hlog, Machine.run_concat, UpstreamWebSocketBridge.calls,
        UpstreamWebSocketBridge.outputs_append, ← hown, hown']
      exact ⟨rfl, by simp [UpstreamWebSocketBridge.calls, Machine.outputs]⟩
    · obtain ⟨e', hmem, ho⟩ := hopened
      rw [hevents] at hmem
      rcases List.mem_append.1 hmem with hmem | hmem
      · exact .inl ⟨e', hmem, ho⟩
      · obtain rfl := List.mem_singleton.1 hmem
        refine .inr ?_
        cases e' with
        | clientOpen => simpa [Happens, ProxyEvent.ofClient] using hp
        | _ => cases ho
  | resume upgraded =>
    obtain ⟨hwait, hanswer⟩ : call.opening ≠ .pending ∧ call.answer = none := by
      simpa [Happens] using hp
    obtain ⟨hbridge, hcalls, hanswered⟩ := step_resume hp
    obtain ⟨hheld, hown, hupgraded, hrefused, hfailed⟩ := h.resumed upgraded hwait hanswer
    have hlog : (call.step (.resume upgraded)).events = call.events :=
      hevents.trans (List.append_nil _)
    -- what follows the `await` does not settle the promise again
    have hopening := opening_kept hp hwait
    exact {
      held := by rwa [hbridge, hcalls, hlog]
      opening := by rw [opening_step hp, heard_step hp, firstSettled_concat, h.opening]
      timer := timer_step hp h.timer
      waits := fun hpending => (hwait (hopening.symm.trans hpending)).elim
      own := fun ha => by
        rw [hanswered] at ha
        rw [hbridge, hcalls, hlog, (hown ha).1, (hown ha).2]
        exact h.own (.inl hanswer)
      upgraded := fun ha => by
        rw [hanswered] at ha
        rw [hopening, hupgraded ha]
      refused := fun ha => by
        rw [hanswered] at ha
        rw [hopening, hbridge]
        exact hrefused ha
      failed := fun error ha => by
        rw [hanswered] at ha
        rw [hopening, hbridge]
        exact hfailed error ha
      letIn := fun _ => by
        rw [ClientOpened, hlog]
        exact h.letIn (by simp [hanswer]) }

end UpgradeCall

/-! ### Every run -/

namespace UpgradeCall

/-- What stays of a call: its answer, and that its sockets are closed. -/
structure Later (call call' : UpgradeCall) : Prop where
  answer : call.answer.isSome = true → call'.answer = call.answer
  registered : call.bridge.registered = false → call'.bridge.registered = false

theorem Later.refl (call : UpgradeCall) : call.Later call := ⟨fun _ => rfl, id⟩

theorem Later.trans {a b c : UpgradeCall} (hab : a.Later b) (hbc : b.Later c) : a.Later c where
  answer ha := (hbc.answer ((hab.answer ha).symm ▸ ha)).trans (hab.answer ha)
  registered hr := hbc.registered (hab.registered hr)

theorem later_step (call : UpgradeCall) (e : UpgradeEvent) : call.Later (call.step e) := by
  by_cases hp : call.Happens e = true
  swap
  · rw [step, if_neg hp]
    exact .refl call
  cases e with
  | upstreamOpen =>
    obtain ⟨hbridge, -, hanswer⟩ := step_wait (.inl rfl) hp
    exact ⟨fun _ => hanswer, fun hr => by rwa [hbridge]⟩
  | connectTimeout =>
    obtain ⟨hbridge, -, hanswer⟩ := step_wait (.inr rfl) hp
    exact ⟨fun _ => hanswer, fun hr => by rwa [hbridge]⟩
  | socket event =>
    obtain ⟨hbridge, -, hanswer⟩ := step_socket hp
    refine ⟨fun _ => hanswer, fun hr => ?_⟩
    rw [hbridge]
    exact UpstreamWebSocketBridge.registered_step hr event
  | resume upgraded =>
    obtain ⟨hwait, hnone⟩ : call.opening ≠ .pending ∧ call.answer = none := by
      simpa [Happens] using hp
    obtain ⟨hbridge, -, -⟩ := step_resume hp
    refine ⟨fun ha => ?_, fun hr => ?_⟩
    · rw [hnone] at ha
      cases ha
    rw [hbridge]
    -- the bridge is closed after a refusal or a failure, and never put back
    cases hcase : call.opening with
    | pending => exact (hwait hcase).elim
    | resolved =>
      rw [resume_resolved hcase]
      cases upgraded with
      | true => exact hr
      | false =>
        show (call.bridge.closeBridge _ _).1.registered = false
        unfold UpstreamWebSocketBridge.closeBridge
        split_ifs <;> first | exact hr | rfl
    | rejected error =>
      rw [resume_rejected hcase]
      rfl

/-- `dispose` takes every bridge out of the table. -/
theorem Sound.disposed {call : UpgradeCall} (h : call.Sound) :
    (call.step (.socket .dispose)).bridge.registered = false := by
  obtain ⟨hbridge, -, -⟩ := @step_socket call .dispose rfl
  rw [hbridge]
  cases hr : call.bridge.registered with
  | true =>
    simp [UpstreamWebSocketBridge.step, hr, UpstreamWebSocketBridge.closeBridge,
      (h.held.live hr).closed]
  | false => exact UpstreamWebSocketBridge.registered_step hr _

end UpgradeCall

namespace UpstreamWebSocketProxyRuntime

/-- A step of the proxy leaves a call as it is, takes it a step further, or begins it. -/
theorem upgrades_step (proxy : UpstreamWebSocketProxyRuntime) (e : ProxyRuntimeEvent) (i : ℕ) :
    (proxy.step e).upgrades[i]? = proxy.upgrades[i]? ∨
      (∃ call f, proxy.upgrades[i]? = some call ∧
        (proxy.step e).upgrades[i]? = some (call.step f)) ∨
      proxy.upgrades[i]? = none ∧ (proxy.step e).upgrades[i]? = some {} := by
  -- an event of one call leaves the others alone
  have hmodify (j : ℕ) (f : UpgradeEvent)
      (hstep : proxy.step e = { upgrades := proxy.upgrades.modify j (·.step f) }) :
      (proxy.step e).upgrades[i]? = proxy.upgrades[i]? ∨
        ∃ call f, proxy.upgrades[i]? = some call ∧
          (proxy.step e).upgrades[i]? = some (call.step f) := by
    rw [hstep]
    dsimp only
    rw [List.getElem?_modify]
    cases proxy.upgrades[i]? with
    | none => exact .inl rfl
    | some call =>
      by_cases hj : j = i
      · exact .inr ⟨call, f, rfl, by simp [hj]⟩
      · exact .inl (by simp [hj])
  cases e with
  | upgradeToTarget =>
    dsimp only [step]
    rcases Nat.lt_trichotomy i proxy.upgrades.length with hlt | rfl | hgt
    · exact .inl (List.getElem?_append_left hlt)
    · exact .inr (.inr ⟨List.getElem?_eq_none le_rfl, by simp⟩)
    · refine .inl ?_
      rw [List.getElem?_eq_none hgt.le, List.getElem?_eq_none (by simpa using hgt)]
  | call j f =>
    cases f with
    | socket event =>
      cases event with
      | dispose => exact .inl rfl
      | _ => exact (hmodify j _ rfl).imp_right .inl
    | _ => exact (hmodify j _ rfl).imp_right .inl
  | dispose =>
    dsimp only [step]
    rw [List.getElem?_map]
    cases proxy.upgrades[i]? with
    | none => exact .inl rfl
    | some call => exact .inr (.inl ⟨call, _, rfl, rfl⟩)

theorem sound_run (es : List ProxyRuntimeEvent) :
    ∀ call ∈ (Machine.run step {} es).upgrades, call.Sound := by
  refine @Machine.run_invariant _ _ step (fun proxy => ∀ call ∈ proxy.upgrades, call.Sound) _
    (fun _ h => absurd h List.not_mem_nil) (fun proxy e h call hmem => ?_) es
  obtain ⟨i, hi⟩ := List.mem_iff_getElem?.1 hmem
  rcases upgrades_step proxy e i with hsame | ⟨old, f, hold, hnew⟩ | ⟨-, hnew⟩
  · exact h call (List.mem_of_getElem? (hsame ▸ hi))
  · obtain rfl := Option.some.inj (hnew.symm.trans hi)
    exact (h old (List.mem_of_getElem? hold)).step f
  · obtain rfl := Option.some.inj (hnew.symm.trans hi)
    exact .create

theorem later_run (proxy : UpstreamWebSocketProxyRuntime) (es : List ProxyRuntimeEvent) (i : ℕ) :
    ∀ call, proxy.upgrades[i]? = some call →
      ∃ call', (Machine.run step proxy es).upgrades[i]? = some call' ∧ call.Later call' := by
  induction es generalizing proxy with
  | nil => exact fun call h => ⟨call, h, .refl call⟩
  | cons e es ih =>
    intro call h
    have hnext : ∃ next, (proxy.step e).upgrades[i]? = some next ∧ call.Later next := by
      rcases upgrades_step proxy e i with hsame | ⟨old, f, hold, hnew⟩ | ⟨hnone, -⟩
      · exact ⟨call, hsame.trans h, .refl call⟩
      · obtain rfl := Option.some.inj (hold.symm.trans h)
        exact ⟨_, hnew, old.later_step f⟩
      · cases hnone.symm.trans h
    obtain ⟨next, hnext, hlater⟩ := hnext
    obtain ⟨last, hlast, hlater'⟩ := ih (proxy.step e) next hnext
    exact ⟨last, hlast, hlater.trans hlater'⟩

/-- **In every run, no socket is forgotten**: each upstream socket is in the table until it is
closed, and the client's goes with it; a call gives one answer, the one that the socket gave in
time; and `dispose` closes what is there, for good. -/
theorem upgrades_run (es es' : List ProxyRuntimeEvent) :
    (∀ call ∈ (Machine.run step {} es).upgrades, call.Owned) ∧
      (∀ (i : ℕ) (call : UpgradeCall), (Machine.run step {} es).upgrades[i]? = some call →
        ∃ call', (Machine.run step {} (es ++ es')).upgrades[i]? = some call' ∧ call.Later call') ∧
      ∀ call ∈ (Machine.run step {} (es ++ [.dispose])).upgrades,
        call.bridge.registered = false := by
  refine ⟨fun call h => (sound_run es call h).owned, fun i call h => ?_, fun call h => ?_⟩
  · rw [Machine.run_append]
    exact later_run _ es' i call h
  · rw [Machine.run_concat] at h
    obtain ⟨old, hold, rfl⟩ := List.mem_map.1 h
    exact (sound_run es old hold).disposed

end UpstreamWebSocketProxyRuntime

end Hardess
