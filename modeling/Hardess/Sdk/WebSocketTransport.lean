import Hardess.Lib.JsNumber
import Hardess.Lib.JsString
import Hardess.Lib.Machine

/-!
# The transport of the client

`src/sdk/transport/ws.ts`: one websocket that is opened again when it closes.

* `WebSocketTransport`: the fields, the timers that are armed, and what is counted for the
  statements;
* `HookScript`: what a hook does with the transport that calls it;
* `WebSocketTransport.step`: calls, events of any socket, and timers.

A socket may deliver its events while its `close` runs, as the sockets of the tests do. The factory
gives a socket, hooks return, and the handles of timers are truthy.
-/

namespace Hardess

/-! ### Options -/

/-- `TransportCloseInfo`. -/
structure TransportCloseInfo where
  code : Option ℕ := none
  reason : Option JsString := none
  wasClean : Option Bool := none
  deriving DecidableEq

/-- `defaultShouldReconnectOnClose`. -/
def defaultShouldReconnectOnClose (info : TransportCloseInfo) : Bool :=
  info.code ∉ [some 4400, some 4401, some 4403, some 4429, some 4508]

/-- `TransportOptions`. -/
structure TransportOptions where
  reconnectEnabled : Bool := true
  initialDelayMs : JsNumber := .ofNat 500
  maxDelayMs : JsNumber := .ofNat 10000
  shouldReconnectOnClose : TransportCloseInfo → Bool := defaultShouldReconnectOnClose

/-- `Math.min` of two numbers. -/
def mathMin (a b : JsNumber) : JsNumber :=
  if a = .nan ∨ b = .nan then .nan else if b.lt a then b else a

/-- The delay after one: a number times two is its sum with itself. -/
def TransportOptions.nextDelay (options : TransportOptions) (delayMs : JsNumber) : JsNumber :=
  mathMin (delayMs.add delayMs) options.maxDelayMs

/-- The delay before a retry, by the number of retries since the last open. -/
def TransportOptions.retryDelay (options : TransportOptions) : ℕ → JsNumber
  | 0 => options.initialDelayMs
  | k + 1 => options.nextDelay (options.retryDelay k)

/-! ### Events -/

/-- An event of a socket; a message is the text that is made of its data. -/
inductive TransportSocketEvent
  | opened
  | closed (info : TransportCloseInfo)
  | message (text : JsString)
  | error (message : Option JsString)
  deriving DecidableEq

mutual

/-- What a hook, or other code, does with the transport, call after call. -/
inductive HookScript
  | done
  | connect (url : JsString) (hooks : ℕ) (next : HookScript)
  /-- The socket delivers some of its events while its `close` runs. -/
  | close (emitted : EmittedEvents) (next : HookScript)
  | send (message : JsString) (next : HookScript)

/-- Events of one socket, each with what the hook does that it may reach. -/
inductive EmittedEvents
  | done
  | event (event : TransportSocketEvent) (hook : HookScript) (next : EmittedEvents)

end

/-- The script leaves the connection alone. -/
def HookScript.silent : HookScript → Bool
  | .done => true
  | .send _ next => next.silent
  | .connect .. => false
  | .close .. => false

/-- A call on a socket. -/
inductive TransportSocketCall
  | send (socket : ℕ) (message : JsString)
  | close (socket : ℕ)
  deriving DecidableEq

/-- `WebSocketTransport`; sockets, timers and objects of hooks have numbers. -/
structure WebSocketTransport where
  socket : Option ℕ := none
  hooks : ℕ := 0
  url : Option JsString := none
  reconnectDelayMs : JsNumber
  reconnectTimer : Option ℕ := none
  manuallyClosed : Bool := false
  /-- How many sockets were opened. -/
  nextSocket : ℕ := 0
  /-- The timers that may fire, with their delays. -/
  armed : List (ℕ × JsNumber) := []
  nextTimer : ℕ := 1
  /-- How many timers opened a socket since the last open. -/
  retries : ℕ := 0
  /-- How many sockets were opened before the last `close`, if no `connect` came after it. -/
  closedAt : Option ℕ := none
  socketCalls : List TransportSocketCall := []
  /-- The hooks that were called, by their object. -/
  hookCalls : List (ℕ × TransportSocketEvent) := []

namespace WebSocketTransport

variable (options : TransportOptions) (transport : WebSocketTransport)

/-- `new WebSocketTransport`. -/
def create : WebSocketTransport where
  reconnectDelayMs := options.initialDelayMs

/-! ### Methods -/

/-- `clearReconnectTimer`. -/
def clearReconnectTimer : WebSocketTransport :=
  { transport with
    armed := transport.armed.filter fun t => some t.1 ≠ transport.reconnectTimer
    reconnectTimer := none }

/-- `scheduleReconnect`. -/
def scheduleReconnect : WebSocketTransport :=
  let transport := transport.clearReconnectTimer
  { transport with
    reconnectTimer := some transport.nextTimer
    armed := (transport.nextTimer, transport.reconnectDelayMs) :: transport.armed
    nextTimer := transport.nextTimer + 1 }

/-- `!this.url`. -/
def lacksUrl : Bool := transport.url.all (· = [])

/-- `openSocket`. -/
def openSocket : WebSocketTransport :=
  if transport.lacksUrl then transport
  else
    { transport with
      socket := some transport.nextSocket, nextSocket := transport.nextSocket + 1 }

/-- `connect`. Events of the previous socket find another one, or none, to be current. -/
def connect (url : JsString) (hooks : ℕ) : WebSocketTransport :=
  let connecting :=
    { transport with
      socket := none
      socketCalls := transport.socketCalls ++
        (transport.socket.map TransportSocketCall.close).toList
      url := some url
      hooks
      manuallyClosed := false
      closedAt := none }
  connecting.clearReconnectTimer.openSocket

/-- `send`. -/
def send (message : JsString) : WebSocketTransport :=
  { transport with
    socketCalls := transport.socketCalls ++
      (transport.socket.map (TransportSocketCall.send · message)).toList }

/-- `close`, up to the call of `socket.close`. -/
def beginClose : WebSocketTransport :=
  let closing :=
    { transport with manuallyClosed := true, closedAt := some transport.nextSocket }
  { closing.clearReconnectTimer with
    socketCalls := closing.socketCalls ++
      (closing.socket.map TransportSocketCall.close).toList }

/-- A listener of the current socket, up to the hook. -/
def beforeHook (event : TransportSocketEvent) : WebSocketTransport :=
  let transport :=
    { transport with hookCalls := transport.hookCalls ++ [(transport.hooks, event)] }
  match event with
  | .opened => { transport with reconnectDelayMs := options.initialDelayMs, retries := 0 }
  | .closed _ => { transport with socket := none }
  | .message _ => transport
  | .error _ => transport

/-- A listener after the hook. -/
def afterHook (event : TransportSocketEvent) : WebSocketTransport :=
  match event with
  | .closed info =>
    if ¬transport.manuallyClosed ∧ options.reconnectEnabled ∧
        options.shouldReconnectOnClose info then transport.scheduleReconnect
    else transport
  | _ => transport

mutual

/-- The calls of a script. -/
def runScript : HookScript → WebSocketTransport → WebSocketTransport
  | .done, transport => transport
  | .connect url hooks next, transport => runScript next (transport.connect url hooks)
  | .send message next, transport => runScript next (transport.send message)
  | .close emitted next, transport =>
    let closing := transport.beginClose
    let closed :=
      match closing.socket with
      | none => closing
      | some i => deliver i emitted closing
    runScript next { closed with socket := none }

/-- Events of socket `i`, which reach hooks while it is the current one. -/
def deliver (i : ℕ) : EmittedEvents → WebSocketTransport → WebSocketTransport
  | .done, transport => transport
  | .event event hook next, transport =>
    deliver i next
      (if transport.socket ≠ some i then transport
      else (runScript hook (transport.beforeHook options event)).afterHook options event)

end

/-- `close`. -/
def close (emitted : EmittedEvents) : WebSocketTransport :=
  let closing := transport.beginClose
  let closed :=
    match closing.socket with
    | none => closing
    | some i => deliver options i emitted closing
  { closed with socket := none }

theorem runScript_close (emitted : EmittedEvents) (next : HookScript) :
    runScript options (.close emitted next) transport =
      runScript options next (transport.close options emitted) := by
  rw [runScript]
  rfl

/-! ### Steps -/

/-- What happens to a transport. -/
inductive Event
  /-- Code that is no hook calls `connect`, `close` and `send`. -/
  | calls (script : HookScript)
  | socketEvent (i : ℕ) (event : TransportSocketEvent) (hook : HookScript)
  | fire (timer : ℕ)

/-- A timer is over, and its callback forgets it. -/
def expire (timer : ℕ) : WebSocketTransport :=
  { transport with
    armed := transport.armed.filter fun t => t.1 ≠ timer
    reconnectTimer := none }

/-- The callback of a timer. -/
def fire (timer : ℕ) : WebSocketTransport :=
  if timer ∈ transport.armed.map Prod.fst then
    let transport := transport.expire timer
    if transport.manuallyClosed ∨ transport.socket.isSome ∨ transport.lacksUrl then transport
    else
      let transport := transport.openSocket
      { transport with
        reconnectDelayMs := options.nextDelay transport.reconnectDelayMs
        retries := transport.retries + 1 }
  else transport

/-- What an event does. -/
def step : Event → WebSocketTransport
  | .calls script => runScript options script transport
  | .socketEvent i event hook => deliver options i (.event event hook .done) transport
  | .fire timer => transport.fire options timer

/-! ### Scripts -/

section related

variable {options} {R : WebSocketTransport → WebSocketTransport → Prop}

/-- What the parts of the methods do, in whatever order hooks make them happen. -/
structure Related (options : TransportOptions)
    (R : WebSocketTransport → WebSocketTransport → Prop) : Prop where
  refl : ∀ s, R s s
  trans : ∀ {s t u}, R s t → R t u → R s u
  connect : ∀ s url hooks, R s (s.connect url hooks)
  send : ∀ s message, R s (s.send message)
  beginClose : ∀ s, R s s.beginClose
  endClose : ∀ s, R s { s with socket := none }
  beforeHook : ∀ s event, R s (s.beforeHook options event)
  afterHook : ∀ s event, R s (s.afterHook options event)
  fire : ∀ s timer, R s (s.fire options timer)

mutual

theorem Related.runScript (h : Related options R) :
    ∀ (script : HookScript) (s : WebSocketTransport), R s (runScript options script s)
  | .done, s => h.refl s
  | .connect url hooks next, s => h.trans (h.connect s url hooks) (h.runScript next _)
  | .send message next, s => h.trans (h.send s message) (h.runScript next _)
  | .close emitted next, s => by
    rw [runScript_close]
    refine h.trans (h.trans (h.trans (h.beginClose s) ?_) (h.endClose _)) (h.runScript next _)
    cases s.beginClose.socket with
    | none => exact h.refl _
    | some i => exact h.deliver i emitted _

theorem Related.deliver (h : Related options R) (i : ℕ) :
    ∀ (emitted : EmittedEvents) (s : WebSocketTransport), R s (deliver options i emitted s)
  | .done, s => h.refl s
  | .event event hook next, s => by
    rw [WebSocketTransport.deliver]
    refine h.trans ?_ (h.deliver i next _)
    split_ifs
    · exact h.refl s
    · exact h.trans (h.trans (h.beforeHook s event) (h.runScript hook _)) (h.afterHook _ event)

end

theorem Related.close (h : Related options R) (emitted : EmittedEvents) (s : WebSocketTransport) :
    R s (s.close options emitted) := by
  have hscript := h.runScript (.close emitted .done) s
  rwa [runScript_close, WebSocketTransport.runScript] at hscript

theorem Related.step (h : Related options R) (s : WebSocketTransport) (e : Event) :
    R s (s.step options e) := by
  cases e with
  | calls script => exact h.runScript script s
  | socketEvent i event hook => exact h.deliver i _ s
  | fire timer => exact h.fire s timer

theorem Related.run (h : Related options R) (s : WebSocketTransport) (es : List Event) :
    R s (Machine.run (WebSocketTransport.step options) s es) := by
  induction es generalizing s with
  | nil => exact h.refl s
  | cons e es ih => exact h.trans (h.step s e) (ih _)

end related

end WebSocketTransport

end Hardess
