import Hardess.Lib.JsString

/-!
# The egress queue of a client connection

`trySendNow`, `scheduleDrain`, `drainOutboundQueue` and `enqueueOutbound` of
`src/runtime/ingress/websocket.ts`, on the fields of one connection that they use.

* `SocketReply`: what the socket says about one call of `send`; `wire k` is what it says about the
  `k`-th call;
* `Outbox`: the queue, its flags, and whether the connection is closed;
* `Outbox.step`: the queue as a machine; a microtask and a timer can fire while they are scheduled.
-/

namespace Hardess

/-- What `socket.send` gives: a positive number or nothing, `-1`, `0`, or an exception. -/
inductive SendStatus
  | sent
  | backpressure
  | dropped
  | threw (message : JsString)
  deriving DecidableEq

/-- What the socket says about one call of `send`; the buffered amounts are in bytes. -/
structure SocketReply where
  bufferedBefore : ℕ := 0
  status : SendStatus := .sent
  bufferedAfter : ℕ := 0
  deriving DecidableEq

/-- The options that `outbound` sets. -/
structure OutboundOptions where
  maxQueueMessages : ℕ := 256
  maxQueueBytes : ℕ := 512 * 1024
  maxSocketBufferBytes : ℕ := 512 * 1024
  deriving DecidableEq

/-- An entry of `outboundQueue`. -/
structure QueuedMessage (μ : Type) where
  data : μ
  bytes : ℕ
  deriving DecidableEq

/-- Why a message cannot go out; the code is `BACKPRESSURE_OVERFLOW` each time. -/
inductive EgressError
  | socketBufferOverflow (bufferedAmount : ℕ)
  | sendFailed (message : JsString)
  | sendDropped
  | queueOverflow
  deriving DecidableEq

/-- The message of the error. -/
def EgressError.message : EgressError → JsString
  | .socketBufferOverflow _ => js "WebSocket socket buffer overflow"
  | .sendFailed _ => js "WebSocket outbound send failed"
  | .sendDropped => js "WebSocket outbound send dropped by runtime"
  | .queueOverflow => js "WebSocket outbound queue overflow"

/-- What the queue does to its socket; a `send` comes with what the socket said. -/
inductive EgressEffect (μ : Type)
  | send (data : μ) (status : SendStatus)
  | close (code : ℕ) (reason : JsString)
  deriving DecidableEq

/-- The fields of a connection that the queue uses; `sends` counts the calls of `send`. -/
structure Outbox (μ : Type) where
  outboundQueue : List (QueuedMessage μ) := []
  outboundQueuedBytes : ℤ := 0
  drainScheduled : Bool := false
  drainTimer : Bool := false
  closed : Bool := false
  sends : ℕ := 0
  deriving DecidableEq

namespace Outbox

variable {μ : Type} (options : OutboundOptions) (wire : ℕ → SocketReply) (box : Outbox μ)

/-- `closeConnection`. -/
def closeConnection (code : ℕ) (reason : JsString) : Outbox μ × List (EgressEffect μ) :=
  if box.closed then (box, [])
  else ({ box with closed := true, drainTimer := false }, [.close code reason])

/-- The connection is closed for an error of the queue. -/
def overflow : Outbox μ × List (EgressEffect μ) :=
  box.closeConnection 4508 (js "BACKPRESSURE_OVERFLOW")

/-- What `trySendNow` comes to. -/
inductive SendOutcome
  | sent
  | backpressured
  | failed (error : EgressError)
  deriving DecidableEq

/-- `trySendNow`. -/
def trySendNow (data : μ) : Outbox μ × SendOutcome × List (EgressEffect μ) :=
  let reply := wire box.sends
  if options.maxSocketBufferBytes < reply.bufferedBefore then
    (box.overflow.1, .failed (.socketBufferOverflow reply.bufferedBefore), box.overflow.2)
  else
    let box₁ := { box with sends := box.sends + 1 }
    let send := EgressEffect.send data reply.status
    match reply.status with
    | .threw message => (box₁.overflow.1, .failed (.sendFailed message), send :: box₁.overflow.2)
    | .backpressure => (box₁, .backpressured, [send])
    | .dropped => (box₁.overflow.1, .failed .sendDropped, send :: box₁.overflow.2)
    | .sent =>
      if options.maxSocketBufferBytes < reply.bufferedAfter then
        (box₁.overflow.1, .failed (.socketBufferOverflow reply.bufferedAfter),
          send :: box₁.overflow.2)
      else (box₁, .sent, [send])

/-- `scheduleDrainRetry`. -/
def scheduleDrainRetry : Outbox μ :=
  if box.closed ∨ box.drainTimer then box else { box with drainTimer := true }

/-- `scheduleDrain`. -/
def scheduleDrain : Outbox μ :=
  if box.drainScheduled ∨ box.closed then box else { box with drainScheduled := true }

/-- The loop of `drainOutboundQueue` over the entries that are left. -/
def drainLoop : List (QueuedMessage μ) → Outbox μ → Outbox μ × List (EgressEffect μ)
  | [], box => ({ box with outboundQueue := [] }, [])
  | next :: rest, box =>
    if box.closed then ({ box with outboundQueue := next :: rest }, [])
    else
      let taken := { box with outboundQueuedBytes := box.outboundQueuedBytes - next.bytes }
      match taken.trySendNow options wire next.data with
      | (box₁, .sent, effects) =>
        let (box₂, effects') := drainLoop rest box₁
        (box₂, effects ++ effects')
      | (box₁, .backpressured, effects) =>
        (scheduleDrainRetry { box₁ with
          outboundQueue := next :: rest
          outboundQueuedBytes := box₁.outboundQueuedBytes + next.bytes }, effects)
      | (box₁, .failed _, effects) => ({ box₁ with outboundQueue := rest }, effects)

/-- `drainOutboundQueue`. -/
def drainOutboundQueue : Outbox μ × List (EgressEffect μ) :=
  drainLoop options wire box.outboundQueue { box with drainScheduled := false }

/-- `enqueueOutbound`, once the message was not sent directly. -/
def enqueueLater (data : μ) (bytes : ℕ) (directSendBackpressured : Bool) :
    Outbox μ × Option EgressError × List (EgressEffect μ) :=
  if options.maxQueueMessages < box.outboundQueue.length + 1 ∨
      (options.maxQueueBytes : ℤ) < box.outboundQueuedBytes + bytes then
    (box.overflow.1, some .queueOverflow, box.overflow.2)
  else
    let box₁ := { box with
      outboundQueue := box.outboundQueue ++ [⟨data, bytes⟩]
      outboundQueuedBytes := box.outboundQueuedBytes + bytes }
    if directSendBackpressured then (box₁.scheduleDrainRetry, none, [])
    else if box₁.drainTimer then (box₁, none, [])
    else (box₁.scheduleDrain, none, [])

/-- `enqueueOutbound`, with the error it throws. -/
def enqueueOutbound (data : μ) (bytes : ℕ) :
    Outbox μ × Option EgressError × List (EgressEffect μ) :=
  if box.closed then (box, none, [])
  else if box.outboundQueue = [] ∧ box.drainScheduled = false ∧ box.drainTimer = false then
    match box.trySendNow options wire data with
    | (box₁, .sent, effects) => (box₁, none, effects)
    | (box₁, .failed error, effects) => (box₁, some error, effects)
    | (box₁, .backpressured, effects) =>
      let (box₂, error, effects') := box₁.enqueueLater options data bytes true
      (box₂, error, effects ++ effects')
  else box.enqueueLater options data bytes false

/-- The callback of `scheduleDrainRetry`. -/
def drainTimerFired : Outbox μ :=
  if box.drainTimer then
    let box₁ := { box with drainTimer := false }
    if box₁.outboundQueue = [] then box₁ else box₁.scheduleDrain
  else box

/-! ### The machine -/

/-- The events of a connection's queue. -/
inductive Event (μ : Type)
  | enqueue (data : μ) (bytes : ℕ)
  | microtask
  | timer
  | close (code : ℕ) (reason : JsString)

/-- One event, with what it does to the socket. -/
def step : Event μ → Outbox μ × List (EgressEffect μ)
  | .enqueue data bytes =>
    let (box₁, _, effects) := box.enqueueOutbound options wire data bytes
    (box₁, effects)
  | .microtask => if box.drainScheduled then box.drainOutboundQueue options wire else (box, [])
  | .timer => (box.drainTimerFired, [])
  | .close code reason => box.closeConnection code reason

/-! ### What closes a connection -/

/-- The connection is closed afterwards exactly when it was before, or when its socket was. -/
def Shuts (box : Outbox μ) (result : Outbox μ × List (EgressEffect μ)) : Prop :=
  result.1.closed = true ↔ box.closed = true ∨ ∃ code reason, .close code reason ∈ result.2

variable {options wire box}

theorem Shuts.of_closed_eq {box' : Outbox μ} (h : box'.closed = box.closed) :
    box.Shuts (box', []) := by
  simp [Shuts, h]

theorem Shuts.trans {box₁ box₂ : Outbox μ} {effects effects' : List (EgressEffect μ)}
    (h : box.Shuts (box₁, effects)) (h' : box₁.Shuts (box₂, effects')) :
    box.Shuts (box₂, effects ++ effects') := by
  simp only [Shuts, List.mem_append] at h h' ⊢
  rw [h', h, or_assoc, ← exists_or]
  simp only [← exists_or]

/-- What is sent does not matter for the closing. -/
theorem Shuts.send_cons {box' : Outbox μ} {effects : List (EgressEffect μ)}
    (h : box.Shuts (box', effects)) (data : μ) (status : SendStatus) :
    box.Shuts (box', .send data status :: effects) := by
  simpa [Shuts] using h

theorem closeConnection_shuts (code : ℕ) (reason : JsString) :
    box.Shuts (box.closeConnection code reason) := by
  unfold closeConnection
  split_ifs with h <;> simp [Shuts, h]

theorem trySendNow_shuts (data : μ) :
    box.Shuts ((box.trySendNow options wire data).1, (box.trySendNow options wire data).2.2) := by
  have hover (n : ℕ) : box.Shuts ({ box with sends := n } : Outbox μ).overflow :=
    @closeConnection_shuts μ { box with sends := n } 4508 _
  unfold trySendNow
  by_cases hb : options.maxSocketBufferBytes < (wire box.sends).bufferedBefore
  · simp only [if_pos hb]
    exact closeConnection_shuts 4508 _
  · simp only [if_neg hb]
    cases (wire box.sends).status with
    | threw message => exact (hover _).send_cons data _
    | backpressure => exact Shuts.send_cons (Shuts.of_closed_eq rfl) data _
    | dropped => exact (hover _).send_cons data _
    | sent =>
      by_cases ha : options.maxSocketBufferBytes < (wire box.sends).bufferedAfter
      · simp only [if_pos ha]
        exact (hover _).send_cons data _
      · simp only [if_neg ha]
        exact Shuts.send_cons (Shuts.of_closed_eq rfl) data _

@[simp] theorem closed_scheduleDrain : box.scheduleDrain.closed = box.closed := by
  unfold scheduleDrain; split_ifs <;> rfl

@[simp] theorem closed_scheduleDrainRetry : box.scheduleDrainRetry.closed = box.closed := by
  unfold scheduleDrainRetry; split_ifs <;> rfl

theorem enqueueLater_shuts (data : μ) (bytes : ℕ) (b : Bool) :
    box.Shuts ((box.enqueueLater options data bytes b).1,
      (box.enqueueLater options data bytes b).2.2) := by
  unfold enqueueLater
  dsimp only
  split_ifs
  · exact closeConnection_shuts 4508 _
  · exact Shuts.of_closed_eq (by simp)
  · exact Shuts.of_closed_eq rfl
  · exact Shuts.of_closed_eq (by simp)

theorem enqueueOutbound_shuts (data : μ) (bytes : ℕ) :
    box.Shuts ((box.enqueueOutbound options wire data bytes).1,
      (box.enqueueOutbound options wire data bytes).2.2) := by
  unfold enqueueOutbound
  have htry := @trySendNow_shuts μ options wire box data
  split_ifs
  · exact Shuts.of_closed_eq rfl
  · split
    · simpa only [*] using htry
    · simpa only [*] using htry
    · rename_i box₁ effects heq
      rw [heq] at htry
      exact htry.trans (enqueueLater_shuts data bytes true)
  · exact enqueueLater_shuts data bytes false

theorem drainLoop_shuts (queue : List (QueuedMessage μ)) :
    ∀ box : Outbox μ, box.Shuts (drainLoop options wire queue box) := by
  induction queue with
  | nil => exact fun box => Shuts.of_closed_eq rfl
  | cons next rest ih =>
    intro box
    rw [drainLoop]
    split_ifs
    · exact Shuts.of_closed_eq rfl
    · have htry := @trySendNow_shuts μ options wire
        { box with outboundQueuedBytes := box.outboundQueuedBytes - next.bytes } next.data
      dsimp only
      split
      · rename_i box₁ effects heq
        rw [heq] at htry
        exact (show box.Shuts _ from htry).trans (ih box₁)
      · rename_i box₁ effects heq
        rw [heq] at htry
        simpa [Shuts] using htry
      · rename_i box₁ error effects heq
        rw [heq] at htry
        simpa [Shuts] using htry

theorem step_shuts (e : Event μ) : box.Shuts (box.step options wire e) := by
  cases e with
  | enqueue data bytes => exact enqueueOutbound_shuts data bytes
  | microtask =>
    unfold step
    dsimp only
    split_ifs
    · exact drainLoop_shuts box.outboundQueue { box with drainScheduled := false }
    · exact Shuts.of_closed_eq rfl
  | timer =>
    refine Shuts.of_closed_eq ?_
    unfold drainTimerFired
    dsimp only
    split_ifs <;> simp
  | close code reason => exact closeConnection_shuts code reason

/-- A failed attempt is the only one that closes the socket. -/
theorem trySendNow_close (data : μ) {code : ℕ} {reason : JsString}
    (h : .close code reason ∈ (box.trySendNow options wire data).2.2) :
    ∃ error, (box.trySendNow options wire data).2.1 = .failed error := by
  unfold trySendNow at h ⊢
  by_cases hb : options.maxSocketBufferBytes < (wire box.sends).bufferedBefore
  · simp only [if_pos hb]
    exact ⟨_, rfl⟩
  · simp only [if_neg hb] at h ⊢
    cases hs : (wire box.sends).status with
    | threw message => exact ⟨_, rfl⟩
    | backpressure => simp [hs] at h
    | dropped => exact ⟨_, rfl⟩
    | sent =>
      simp only [hs] at h ⊢
      by_cases ha : options.maxSocketBufferBytes < (wire box.sends).bufferedAfter
      · simp only [if_pos ha]
        exact ⟨_, rfl⟩
      · simp [ha] at h

theorem enqueueLater_close (data : μ) (bytes : ℕ) (b : Bool) {code : ℕ} {reason : JsString}
    (h : .close code reason ∈ (box.enqueueLater options data bytes b).2.2) :
    (box.enqueueLater options data bytes b).2.1 = some .queueOverflow := by
  unfold enqueueLater at h ⊢
  dsimp only at h ⊢
  split_ifs at h ⊢
  · rfl
  all_goals cases h

/-- A message that closes the socket has failed. -/
theorem enqueueOutbound_close (data : μ) (bytes : ℕ) {code : ℕ} {reason : JsString}
    (h : .close code reason ∈ (box.enqueueOutbound options wire data bytes).2.2) :
    ∃ error, (box.enqueueOutbound options wire data bytes).2.1 = some error := by
  have htry := @trySendNow_close μ options wire box data code reason
  unfold enqueueOutbound at h ⊢
  split_ifs at h ⊢
  · cases h
  · split at h
    · rename_i box₁ effects heq
      rw [heq] at htry
      obtain ⟨error, hfail⟩ := htry h
      cases hfail
    · simp only [*]
      exact ⟨_, rfl⟩
    · rename_i box₁ effects heq
      rw [heq] at htry
      rcases List.mem_append.1 h with hsend | hlater
      · obtain ⟨error, hfail⟩ := htry hsend
        cases hfail
      · exact ⟨_, enqueueLater_close data bytes true hlater⟩
  · exact ⟨_, enqueueLater_close data bytes false h⟩

@[simp] theorem closed_overflow : box.overflow.1.closed = true := by
  unfold overflow closeConnection
  split_ifs with h
  · exact h
  · rfl

theorem trySendNow_failed {data : μ} {error : EgressError}
    (h : (box.trySendNow options wire data).2.1 = .failed error) :
    (box.trySendNow options wire data).1.closed = true := by
  unfold trySendNow at h ⊢
  by_cases hb : options.maxSocketBufferBytes < (wire box.sends).bufferedBefore
  · simp only [if_pos hb, closed_overflow]
  · simp only [if_neg hb] at h ⊢
    cases hs : (wire box.sends).status with
    | threw message => exact closed_overflow
    | backpressure =>
      rw [hs] at h
      cases h
    | dropped => exact closed_overflow
    | sent =>
      rw [hs] at h
      by_cases ha : options.maxSocketBufferBytes < (wire box.sends).bufferedAfter
      · simp only [if_pos ha, closed_overflow]
      · simp only [if_neg ha] at h
        cases h

/-- A message that fails closes the connection. -/
theorem enqueueOutbound_failed {data : μ} {bytes : ℕ} {error : EgressError}
    (h : (box.enqueueOutbound options wire data bytes).2.1 = some error) :
    (box.enqueueOutbound options wire data bytes).1.closed = true := by
  have hlater {box : Outbox μ} {b : Bool}
      (h : (box.enqueueLater options data bytes b).2.1 = some error) :
      (box.enqueueLater options data bytes b).1.closed = true := by
    unfold enqueueLater at h ⊢
    dsimp only at h ⊢
    split_ifs at h ⊢
    exact closed_overflow
  have htry := @trySendNow_failed μ options wire box data
  unfold enqueueOutbound at h ⊢
  split_ifs at h ⊢
  · split at h
    · cases h
    · rename_i box₁ error' effects heq
      rw [heq] at htry
      exact htry rfl
    · exact hlater h
  · exact hlater h

/-- A closed connection takes no message. -/
theorem enqueueOutbound_of_closed (h : box.closed = true) (data : μ) (bytes : ℕ) :
    box.enqueueOutbound options wire data bytes = (box, none, []) := if_pos h

end Outbox

end Hardess
