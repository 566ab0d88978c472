import Hardess.Ingress.Outbox
import Hardess.Lib.JsMap
import Hardess.Lib.Machine

/-!
# The send queue of a cluster socket

`trySendNow`, `scheduleDrain`, `scheduleDrainRetry`, `drainOutboundQueue`, `waitForQueueCapacity`,
`sendMessage` and what `unregisterSocket` does to the queue, of `src/runtime/cluster/network.ts`, on
the tables' entries of one socket.

* `wire k` is what the socket says about the `k`-th call of `send`;
* a call of `sendMessage` that waits for room is a `WaitingSend`; its timer and its continuation are
  two events;
* a microtask that was queued runs even when its flag was taken away since.
-/

namespace Hardess

/-- `ClusterOutboundMessage`; `call` is the call of `sendMessage` that it resolves or rejects. -/
structure ClusterOutboundMessage (μ : Type) where
  data : μ
  bytes : ℕ
  call : ℕ
  deriving DecidableEq

/-- A call of `sendMessage` that waits for room; `startedAt` is that of `waitForQueueCapacity` until
it returns. -/
structure WaitingSend (μ : Type) where
  data : μ
  bytes : ℕ
  startedAt : Option ℕ
  deriving DecidableEq

/-- The options that are read, with their defaults. -/
structure SendQueueOptions where
  maxQueueMessages : ℕ := 16384
  maxQueueBytes : ℕ := 8 * 1024 * 1024
  requestTimeoutMs : ℕ := 10000

/-- What the queue does to its socket and to the calls. -/
inductive SendQueueEffect (μ : Type)
  | send (data : μ) (status : SendStatus)
  | close (code : ℕ) (reason : JsString)
  | resolve (call : ℕ)
  | reject (call : ℕ) (message : JsString)
  deriving DecidableEq

/-- The queue of one socket; `closed` says that its `readyState` is 3, and `sends` counts the calls
of `send`. -/
structure SendQueue (μ : Type) where
  outboundQueue : List (ClusterOutboundMessage μ) := []
  outboundQueuedBytes : ℤ := 0
  drainScheduled : Bool := false
  drainTimer : Bool := false
  microtasks : ℕ := 0
  waiting : JsMap ℕ (WaitingSend μ) := .empty
  closed : Bool := false
  now : ℕ := 0
  sends : ℕ := 0
  nextCall : ℕ := 0

namespace SendQueue

variable {μ : Type} (options : SendQueueOptions) (wire : ℕ → SendStatus) (q : SendQueue μ)

/-- What `trySendNow` comes to. -/
inductive SendOutcome
  | sent
  | backpressured
  | failed (message : JsString)
  deriving DecidableEq

/-- `trySendNow`. -/
def trySendNow (data : μ) : SendQueue μ × SendOutcome × List (SendQueueEffect μ) :=
  if q.closed then (q, .failed (js "Cluster socket is closed"), [])
  else
    let q₁ := { q with sends := q.sends + 1 }
    let send := SendQueueEffect.send data (wire q.sends)
    match wire q.sends with
    | .backpressure => (q₁, .backpressured, [send])
    | .dropped => (q₁, .failed (js "Cluster socket send dropped by runtime"), [send])
    | .threw message => (q₁, .failed message, [send])
    | .sent => (q₁, .sent, [send])

/-- `scheduleDrain`. -/
def scheduleDrain : SendQueue μ :=
  if q.drainScheduled then q
  else { q with drainScheduled := true, microtasks := q.microtasks + 1 }

/-- `scheduleDrainRetry`. -/
def scheduleDrainRetry : SendQueue μ := if q.drainTimer then q else { q with drainTimer := true }

/-- The loop of `drainOutboundQueue` over the entries that are left. -/
def drainLoop : List (ClusterOutboundMessage μ) → SendQueue μ →
    SendQueue μ × List (SendQueueEffect μ)
  | [], q => ({ q with outboundQueue := [] }, [])
  | next :: rest, q =>
    match q.trySendNow wire next.data with
    | (q₁, .sent, effects) =>
      let (q₂, effects') := drainLoop rest
        { q₁ with outboundQueuedBytes := q₁.outboundQueuedBytes - next.bytes }
      (q₂, effects ++ .resolve next.call :: effects')
    | (q₁, .backpressured, effects) =>
      (scheduleDrainRetry { q₁ with outboundQueue := next :: rest }, effects)
    | (q₁, .failed message, effects) =>
      ({ q₁ with
          outboundQueue := rest
          outboundQueuedBytes := q₁.outboundQueuedBytes - next.bytes },
        effects ++ [.reject next.call message, .close 1011 (js "cluster outbound send failed")])

/-- `drainOutboundQueue`. -/
def drainOutboundQueue : SendQueue μ × List (SendQueueEffect μ) :=
  drainLoop wire q.outboundQueue { q with drainScheduled := false }

/-- An entry is queued. -/
def push (call : ℕ) (data : μ) (bytes : ℕ) : SendQueue μ :=
  let q₁ := { q with
    outboundQueue := q.outboundQueue ++ [⟨data, bytes, call⟩]
    outboundQueuedBytes := q.outboundQueuedBytes + bytes }
  if q₁.drainTimer then q₁ else q₁.scheduleDrain

/-- `sendMessage`, once there is room. -/
def sendReady (call : ℕ) (data : μ) (bytes : ℕ) : SendQueue μ × List (SendQueueEffect μ) :=
  if (options.maxQueueBytes : ℤ) < q.outboundQueuedBytes + bytes then
    (q, [.reject call (js "Cluster outbound queue overflow")])
  else if q.outboundQueue = [] ∧ q.drainScheduled = false ∧ q.drainTimer = false then
    match q.trySendNow wire data with
    | (q₁, .sent, effects) => (q₁, effects ++ [.resolve call])
    | (q₁, .failed message, effects) => (q₁, effects ++ [.reject call message])
    | (q₁, .backpressured, effects) => (q₁.push call data bytes, effects)
  else (q.push call data bytes, [])

/-- One round of the loop of `waitForQueueCapacity`. -/
def waitForQueueCapacity (call : ℕ) (data : μ) (bytes startedAt : ℕ) :
    SendQueue μ × List (SendQueueEffect μ) :=
  if q.closed then (q, [.reject call (js "Cluster socket is closed")])
  else if q.outboundQueue.length < options.maxQueueMessages then
    ({ q with waiting := q.waiting.set call ⟨data, bytes, none⟩ }, [])
  else if options.requestTimeoutMs ≤ q.now - startedAt then
    (q, [.reject call (js "Cluster outbound queue overflow")])
  else ({ q with waiting := q.waiting.set call ⟨data, bytes, some startedAt⟩ }, [])

/-- The loop of `sendMessage`. -/
def sendLoop (call : ℕ) (data : μ) (bytes : ℕ) : SendQueue μ × List (SendQueueEffect μ) :=
  if options.maxQueueMessages < q.outboundQueue.length + 1 then
    q.waitForQueueCapacity options call data bytes q.now
  else q.sendReady options wire call data bytes

/-- The queue without a call that waits. -/
def unwait (call : ℕ) : SendQueue μ := { q with waiting := q.waiting.delete call }

/-- The timer of a call that waits. -/
def poll (call : ℕ) : SendQueue μ × List (SendQueueEffect μ) :=
  match q.waiting.get call with
  | some ⟨data, bytes, some startedAt⟩ =>
    (q.unwait call).waitForQueueCapacity options call data bytes startedAt
  | _ => (q, [])

/-- The continuation of a call for which `waitForQueueCapacity` has returned. -/
def resume (call : ℕ) : SendQueue μ × List (SendQueueEffect μ) :=
  match q.waiting.get call with
  | some ⟨data, bytes, none⟩ => (q.unwait call).sendLoop options wire call data bytes
  | _ => (q, [])

/-- What `unregisterSocket` does to the queue. -/
def unregisterSocket : SendQueue μ × List (SendQueueEffect μ) :=
  ({ q with
      outboundQueue := []
      outboundQueuedBytes := 0
      drainTimer := false
      drainScheduled := false },
    q.outboundQueue.map fun entry => .reject entry.call (js "Cluster socket closed"))

/-! ### The machine -/

/-- The events of the queue. -/
inductive Event (μ : Type)
  | sendMessage (data : μ) (bytes : ℕ)
  | microtask
  | timer
  | poll (call : ℕ)
  | resume (call : ℕ)
  | advance (ms : ℕ)
  | socketCloses
  | unregisterSocket

/-- One event, with what it does. -/
def step : Event μ → SendQueue μ × List (SendQueueEffect μ)
  | .sendMessage data bytes =>
    { q with nextCall := q.nextCall + 1 }.sendLoop options wire q.nextCall data bytes
  | .microtask =>
    if q.microtasks = 0 then (q, [])
    else { q with microtasks := q.microtasks - 1 }.drainOutboundQueue wire
  | .timer => if q.drainTimer then ({ q with drainTimer := false }.scheduleDrain, []) else (q, [])
  | .poll call => q.poll options call
  | .resume call => q.resume options wire call
  | .advance ms => ({ q with now := q.now + ms }, [])
  | .socketCloses => ({ q with closed := true }, [])
  | .unregisterSocket => q.unregisterSocket

end SendQueue

end Hardess
