import Hardess.Cluster.SendQueue

/-!
# Each message enters its socket at most once

The socket takes a message when `send` answers a positive number or `-1`. Both queues send a message
again after a `-1`.

* `Outbox.Resends`, `SendQueue.Resends`: a drain sends, and the socket takes, what it took with a
  `-1` before;
* `Outbox.fresh`, `SendQueue.fresh`: the messages that are held and were never taken;
* `step_accounts`: what a step takes and what is fresh afterwards was fresh or is given to it,
  unless it resends;
* `taken_at_most_once`: in every run that never resends each message is taken at most as often as
  it is given.
-/

namespace Hardess

/-- The socket takes a message that it answers with a positive number, and one that it enqueues with
backpressure. -/
def SendStatus.takes : SendStatus → Bool
  | .sent => true
  | .backpressure => true
  | _ => false

/-! ### The queue of a client connection -/

namespace Outbox

variable {μ : Type} {options : OutboundOptions} {wire : ℕ → SocketReply} {box box' : Outbox μ}

/-- The message that the socket takes. -/
def taken : EgressEffect μ → Option μ
  | .send data status => if status.takes then some data else none
  | .close .. => none

/-- The message that is given to `enqueueOutbound`. -/
def Event.given : Event μ → Option μ
  | .enqueue data _ => some data
  | _ => none

/-- The last answer of the socket was `-1`. -/
def backpressured (wire : ℕ → SocketReply) (box : Outbox μ) : Bool :=
  box.sends ≠ 0 && (wire (box.sends - 1)).status = .backpressure

/-- The next message that is sent is taken by the socket. -/
def takesNext (options : OutboundOptions) (wire : ℕ → SocketReply) (box : Outbox μ) : Bool :=
  (wire box.sends).bufferedBefore ≤ options.maxSocketBufferBytes && (wire box.sends).status.takes

/-- The queue is drained after a `-1`, and the socket takes its head. -/
def Resends (options : OutboundOptions) (wire : ℕ → SocketReply) (box : Outbox μ) (e : Event μ) :
    Prop :=
  e = .microtask ∧ box.drainScheduled = true ∧ box.closed = false ∧ box.outboundQueue ≠ [] ∧
    box.backpressured wire = true ∧ box.takesNext options wire = true

/-- The messages of the queue, less the one that the socket took with the last `-1`. -/
def fresh (wire : ℕ → SocketReply) (box : Outbox μ) : List μ :=
  (if box.backpressured wire then box.outboundQueue.tail else box.outboundQueue).map (·.data)

theorem fresh_sublist : (box.fresh wire).Sublist (box.outboundQueue.map (·.data)) := by
  unfold fresh
  split_ifs
  · exact (List.tail_sublist _).map _
  · exact List.Sublist.refl _

theorem fresh_of_nil (h : box.outboundQueue = []) : box.fresh wire = [] := by
  unfold fresh
  rw [h]
  split_ifs <;> rfl

/-- Where the queue and the calls of `send` are the same, the same is fresh. -/
theorem fresh_congr (hq : box'.outboundQueue = box.outboundQueue) (hs : box'.sends = box.sends) :
    box'.fresh wire = box.fresh wire := by
  unfold fresh backpressured
  rw [hq, hs]

@[simp] theorem queue_overflow : (box.overflow.1).outboundQueue = box.outboundQueue := by
  unfold overflow closeConnection
  split_ifs <;> rfl

@[simp] theorem sends_overflow : (box.overflow.1).sends = box.sends := by
  unfold overflow closeConnection
  split_ifs <;> rfl

theorem taken_overflow : box.overflow.2.filterMap taken = [] := by
  unfold overflow closeConnection
  split_ifs <;> rfl

/-- What `trySendNow` does to the socket, and what it comes to. -/
theorem trySendNow_takes (data : μ) :
    (box.trySendNow options wire data).1.outboundQueue = box.outboundQueue ∧
      (box.trySendNow options wire data).2.2.filterMap taken =
        (if box.takesNext options wire then [data] else []) ∧
      ((box.trySendNow options wire data).2.1 = .backpressured →
        (box.trySendNow options wire data).1.backpressured wire = true ∧
          box.takesNext options wire = true) ∧
      ((box.trySendNow options wire data).2.1 = .sent →
        (box.trySendNow options wire data).1.backpressured wire = false ∧
          box.takesNext options wire = true) := by
  unfold trySendNow takesNext
  by_cases hb : options.maxSocketBufferBytes < (wire box.sends).bufferedBefore
  · simp only [if_pos hb, queue_overflow, taken_overflow, decide_eq_false (Nat.not_le.2 hb)]
    simp
  · simp only [if_neg hb, decide_eq_true (Nat.not_lt.1 hb), Bool.true_and]
    cases hs : (wire box.sends).status with
    | threw message => simp [taken, SendStatus.takes, taken_overflow]
    | backpressure => simp [taken, SendStatus.takes, backpressured, hs]
    | dropped => simp [taken, SendStatus.takes, taken_overflow]
    | sent =>
      by_cases ha : options.maxSocketBufferBytes < (wire box.sends).bufferedAfter
      · simp [ha, taken, SendStatus.takes, taken_overflow]
      · simp [ha, taken, SendStatus.takes, backpressured, hs]

/-- What is queued later is held, or the connection is closed for it. -/
theorem enqueueLater_queue (data : μ) (bytes : ℕ) (b : Bool) :
    (box.enqueueLater options data bytes b).1.sends = box.sends ∧
      (box.enqueueLater options data bytes b).2.2.filterMap taken = [] ∧
      ((box.enqueueLater options data bytes b).1.outboundQueue = box.outboundQueue ∨
        (box.enqueueLater options data bytes b).1.outboundQueue =
          box.outboundQueue ++ [⟨data, bytes⟩]) := by
  unfold enqueueLater scheduleDrainRetry scheduleDrain
  dsimp only
  split_ifs <;> simp [taken_overflow]

/-- What `enqueueOutbound` is given is taken, or fresh, or lost. -/
theorem enqueueOutbound_accounts [DecidableEq μ] (data : μ) (bytes : ℕ) (a : μ) :
    ((box.enqueueOutbound options wire data bytes).2.2.filterMap taken).count a +
      ((box.enqueueOutbound options wire data bytes).1.fresh wire).count a ≤
        (box.fresh wire).count a + [data].count a := by
  unfold enqueueOutbound
  by_cases hclosed : box.closed = true
  · rw [if_pos hclosed]
    simp
  rw [if_neg hclosed]
  by_cases hdirect : box.outboundQueue = [] ∧ box.drainScheduled = false ∧ box.drainTimer = false
  · rw [if_pos hdirect]
    obtain ⟨hqueue, htaken, hback, -⟩ := @trySendNow_takes μ options wire box data
    rw [hdirect.1] at hqueue
    have hle : ((if box.takesNext options wire then [data] else []) : List μ).count a ≤
        [data].count a := by
      split_ifs
      · exact Nat.le_refl _
      · simp
    generalize box.trySendNow options wire data = result at *
    obtain ⟨box₁, outcome, effects⟩ := result
    have hfresh : box₁.fresh wire = [] := fresh_of_nil hqueue
    cases outcome with
    | sent =>
      dsimp only at htaken ⊢
      rw [htaken, hfresh]
      simpa using Nat.le_add_left_of_le hle
    | failed error =>
      dsimp only at htaken ⊢
      rw [htaken, hfresh]
      simpa using Nat.le_add_left_of_le hle
    | backpressured =>
      obtain ⟨hheld, -⟩ := hback rfl
      obtain ⟨hsends, hnone, hlater⟩ :=
        @enqueueLater_queue μ options box₁ data bytes true
      -- a message that the socket held back is not fresh: it was taken once
      have hempty : ((box₁.enqueueLater options data bytes true).1).fresh wire = [] := by
        have hheld' : ((box₁.enqueueLater options data bytes true).1).backpressured wire = true := by
          unfold backpressured at hheld ⊢
          rwa [hsends]
        unfold fresh
        rw [if_pos hheld']
        rw [show box₁.outboundQueue = [] from hqueue] at hlater
        rcases hlater with heq | heq <;> rw [heq] <;> rfl
      dsimp only at htaken ⊢
      rw [List.filterMap_append, htaken, hnone, hempty]
      simpa using Nat.le_add_left_of_le hle
  · rw [if_neg hdirect]
    obtain ⟨hsends, hnone, hlater⟩ := @enqueueLater_queue μ options box data bytes false
    generalize box.enqueueLater options data bytes false = result at *
    obtain ⟨box', error, effects⟩ := result
    dsimp only at hsends hnone hlater ⊢
    rw [hnone, List.count_nil, Nat.zero_add]
    rcases hlater with heq | heq
    · rw [fresh_congr heq hsends]
      exact Nat.le_add_right _ _
    · -- behind the queue, one message more can be fresh
      have hsub : (box'.fresh wire).Sublist (box.fresh wire ++ [data]) := by
        unfold fresh backpressured
        rw [heq, hsends]
        split_ifs
        · cases box.outboundQueue <;> simp
        · simp
      exact (hsub.count_le a).trans (List.count_append ..).le

/-- The loop takes or keeps what is in the queue. -/
theorem drainLoop_accounts [DecidableEq μ] (a : μ) (queue : List (QueuedMessage μ)) :
    ∀ box : Outbox μ, ((drainLoop options wire queue box).2.filterMap taken).count a +
      ((drainLoop options wire queue box).1.fresh wire).count a ≤
        (queue.map (·.data)).count a := by
  induction queue with
  | nil =>
    intro box
    rw [drainLoop, fresh_of_nil rfl]
    exact Nat.le_refl _
  | cons next rest ih =>
    intro box
    rw [drainLoop]
    by_cases hclosed : box.closed = true
    · rw [if_pos hclosed, List.filterMap_nil, List.count_nil, Nat.zero_add]
      exact fresh_sublist.count_le a
    rw [if_neg hclosed]
    obtain ⟨-, htaken, hback, -⟩ := @trySendNow_takes μ options wire
      { box with outboundQueuedBytes := box.outboundQueuedBytes - next.bytes } next.data
    dsimp only
    generalize Outbox.trySendNow options wire
      { box with outboundQueuedBytes := box.outboundQueuedBytes - next.bytes } next.data = result
        at *
    obtain ⟨box₁, outcome, effects⟩ := result
    dsimp only at htaken hback
    have hle : (effects.filterMap taken).count a ≤ [next.data].count a := by
      rw [htaken]
      split_ifs
      · exact Nat.le_refl _
      · simp
    show _ ≤ ([next.data] ++ rest.map (·.data)).count a
    rw [List.count_append]
    cases outcome with
    | sent =>
      dsimp only
      rw [List.filterMap_append, List.count_append, Nat.add_assoc]
      exact Nat.add_le_add hle (ih box₁)
    | backpressured =>
      -- the message goes back to the front, and is not fresh there
      refine Nat.add_le_add hle (Nat.le_of_eq (congrArg _ ?_))
      have hheld := (hback rfl).1
      unfold fresh scheduleDrainRetry backpressured at *
      dsimp only
      split_ifs <;> rfl
    | failed error => exact Nat.add_le_add hle (fresh_sublist.count_le a)

/-- A head that the socket does not take ends the loop. -/
theorem drainLoop_refused {next : QueuedMessage μ} {rest : List (QueuedMessage μ)}
    (hopen : ¬box.closed = true) (hfails : ¬box.takesNext options wire = true) :
    (drainLoop options wire (next :: rest) box).2.filterMap taken = [] ∧
      (drainLoop options wire (next :: rest) box).1.outboundQueue = rest := by
  obtain ⟨-, htaken, hback, hsent⟩ := @trySendNow_takes μ options wire
    { box with outboundQueuedBytes := box.outboundQueuedBytes - next.bytes } next.data
  rw [if_neg (show ¬takesNext options wire { box with
    outboundQueuedBytes := box.outboundQueuedBytes - next.bytes } = true from hfails)] at htaken
  rw [drainLoop, if_neg hopen]
  dsimp only
  generalize trySendNow options wire { box with
    outboundQueuedBytes := box.outboundQueuedBytes - next.bytes } next.data = result at *
  obtain ⟨box₁, outcome, effects⟩ := result
  cases outcome with
  | sent => exact absurd (hsent rfl).2 hfails
  | backpressured => exact absurd (hback rfl).2 hfails
  | failed error => exact ⟨htaken, rfl⟩

/-- A drain that does not resend takes or keeps what is fresh. -/
theorem drain_accounts [DecidableEq μ] (hs : box.drainScheduled = true)
    (h : ¬box.Resends options wire .microtask) (a : μ) :
    ((box.drainOutboundQueue options wire).2.filterMap taken).count a +
      ((box.drainOutboundQueue options wire).1.fresh wire).count a ≤ (box.fresh wire).count a := by
  by_cases hheld : box.backpressured wire = true
  · -- the socket took the head before: nothing is sent now, or the head is refused
    unfold drainOutboundQueue
    cases hqueue : box.outboundQueue with
    | nil =>
      rw [drainLoop, fresh_of_nil rfl]
      exact Nat.zero_le _
    | cons next rest =>
      by_cases hclosed : box.closed = true
      · rw [drainLoop, if_pos hclosed, List.filterMap_nil, List.count_nil, Nat.zero_add]
        exact Nat.le_of_eq (congrArg _ (fresh_congr hqueue.symm rfl))
      · obtain ⟨hnone, hrest⟩ := @drainLoop_refused μ options wire
          { box with outboundQueue := next :: rest, drainScheduled := false } next rest hclosed
          fun ht => h ⟨rfl, hs, (Bool.not_eq_true _).mp hclosed, by simp [hqueue], hheld, ht⟩
        have hfresh : box.fresh wire = rest.map (·.data) := by
          unfold fresh
          rw [if_pos hheld, hqueue]
          rfl
        rw [hnone, List.count_nil, Nat.zero_add, hfresh]
        refine (fresh_sublist.count_le a).trans (Nat.le_of_eq ?_)
        rw [hrest]
  · have hqueue : box.fresh wire = box.outboundQueue.map (·.data) := by
      unfold fresh
      rw [if_neg hheld]
    rw [hqueue]
    exact drainLoop_accounts a box.outboundQueue _

/-- What a step takes and what is fresh afterwards was fresh, or is given to it. -/
theorem step_accounts [DecidableEq μ] (e : Event μ) (h : ¬box.Resends options wire e) (a : μ) :
    ((box.step options wire e).2.filterMap taken).count a +
      ((box.step options wire e).1.fresh wire).count a ≤
        (box.fresh wire).count a + e.given.toList.count a := by
  cases e with
  | enqueue data bytes => exact enqueueOutbound_accounts data bytes a
  | microtask =>
    unfold step
    dsimp only
    by_cases hs : box.drainScheduled = true
    · rw [if_pos hs]
      exact drain_accounts hs h a
    · rw [if_neg hs]
      exact Nat.le_of_eq (by simp [Event.given])
  | timer =>
    -- the timer schedules a drain, and sends nothing
    have hsame : ((box.drainTimerFired).fresh wire) = box.fresh wire := by
      unfold drainTimerFired scheduleDrain
      dsimp only
      split_ifs <;> exact fresh_congr rfl rfl
    unfold step
    dsimp only
    rw [hsame, List.filterMap_nil, List.count_nil, Nat.zero_add]
    exact Nat.le_add_right _ _
  | close code reason =>
    have hsame : ((box.closeConnection code reason).1.fresh wire) = box.fresh wire ∧
        (box.closeConnection code reason).2.filterMap taken = [] := by
      unfold closeConnection
      split_ifs
      · exact ⟨rfl, rfl⟩
      · exact ⟨fresh_congr rfl rfl, rfl⟩
    unfold step
    dsimp only
    rw [hsame.1, hsame.2, List.count_nil, Nat.zero_add]
    exact Nat.le_add_right _ _

end Outbox

/-! ### The queue of a cluster socket -/

namespace SendQueue

variable {μ : Type} {options : SendQueueOptions} {wire : ℕ → SendStatus} {q : SendQueue μ}

/-- The message that the socket takes. -/
def taken : SendQueueEffect μ → Option μ
  | .send data status => if status.takes then some data else none
  | _ => none

@[simp] theorem taken_resolve (call : ℕ) : taken (.resolve call : SendQueueEffect μ) = none := rfl

@[simp] theorem taken_reject (call : ℕ) (message : JsString) :
    taken (.reject call message : SendQueueEffect μ) = none := rfl

@[simp] theorem taken_close (code : ℕ) (reason : JsString) :
    taken (.close code reason : SendQueueEffect μ) = none := rfl

/-- The message that is given to `sendMessage`. -/
def Event.given : Event μ → Option μ
  | .sendMessage data _ => some data
  | _ => none

/-- The last answer of the socket was `-1`. -/
def backpressured (wire : ℕ → SendStatus) (q : SendQueue μ) : Bool :=
  q.sends ≠ 0 && wire (q.sends - 1) = .backpressure

/-- The next message that is sent is taken by the socket. -/
def takesNext (wire : ℕ → SendStatus) (q : SendQueue μ) : Bool :=
  !q.closed && (wire q.sends).takes

/-- The queue is drained after a `-1`, and the socket takes its head. -/
def Resends (wire : ℕ → SendStatus) (q : SendQueue μ) (e : Event μ) : Prop :=
  e = .microtask ∧ q.microtasks ≠ 0 ∧ q.outboundQueue ≠ [] ∧ q.backpressured wire = true ∧
    q.takesNext wire = true

/-- The messages of the queue, less the one that the socket took with the last `-1`. -/
def freshQueue (wire : ℕ → SendStatus) (q : SendQueue μ) : List μ :=
  (if q.backpressured wire then q.outboundQueue.tail else q.outboundQueue).map (·.data)

/-- The messages that are held and that the socket never took. -/
def fresh (wire : ℕ → SendStatus) (q : SendQueue μ) : List μ :=
  q.freshQueue wire ++ q.waiting.entries.map (·.2.data)

theorem freshQueue_sublist : (q.freshQueue wire).Sublist (q.outboundQueue.map (·.data)) := by
  unfold freshQueue
  split_ifs
  · exact (List.tail_sublist _).map _
  · exact List.Sublist.refl _

theorem freshQueue_of_nil (h : q.outboundQueue = []) : q.freshQueue wire = [] := by
  unfold freshQueue
  rw [h]
  split_ifs <;> rfl

/-- What `trySendNow` does to the socket, and what it comes to. -/
theorem trySendNow_takes (data : μ) :
    (q.trySendNow wire data).1.outboundQueue = q.outboundQueue ∧
      (q.trySendNow wire data).1.waiting = q.waiting ∧
      (q.trySendNow wire data).2.2.filterMap taken =
        (if q.takesNext wire then [data] else []) ∧
      ((q.trySendNow wire data).2.1 = .backpressured →
        (q.trySendNow wire data).1.backpressured wire = true ∧ q.takesNext wire = true) ∧
      ((q.trySendNow wire data).2.1 = .sent → q.takesNext wire = true) := by
  unfold trySendNow takesNext
  by_cases hc : q.closed = true
  · simp [hc]
  · simp only [(Bool.not_eq_true _).mp hc, Bool.not_false, Bool.true_and]
    cases hs : wire q.sends with
    | threw message => simp [taken, SendStatus.takes]
    | backpressure => simp [taken, SendStatus.takes, backpressured, hs]
    | dropped => simp [taken, SendStatus.takes]
    | sent => simp [taken, SendStatus.takes]

@[simp] theorem queue_scheduleDrain : q.scheduleDrain.outboundQueue = q.outboundQueue := by
  unfold scheduleDrain; split_ifs <;> rfl

@[simp] theorem sends_scheduleDrain : q.scheduleDrain.sends = q.sends := by
  unfold scheduleDrain; split_ifs <;> rfl

@[simp] theorem waiting_scheduleDrain : q.scheduleDrain.waiting = q.waiting := by
  unfold scheduleDrain; split_ifs <;> rfl

theorem push_queue (call : ℕ) (data : μ) (bytes : ℕ) :
    (q.push call data bytes).outboundQueue = q.outboundQueue ++ [⟨data, bytes, call⟩] ∧
      (q.push call data bytes).sends = q.sends ∧
      (q.push call data bytes).waiting = q.waiting := by
  unfold push
  dsimp only
  split_ifs <;> simp

/-- A head that the socket does not take ends the loop. -/
theorem drainLoop_refused {next : ClusterOutboundMessage μ} {rest : List (ClusterOutboundMessage μ)}
    (hfails : ¬q.takesNext wire = true) :
    (drainLoop wire (next :: rest) q).2.filterMap taken = [] ∧
      (drainLoop wire (next :: rest) q).1.outboundQueue = rest ∧
      (drainLoop wire (next :: rest) q).1.waiting = q.waiting := by
  obtain ⟨-, hwaiting, htaken, hback, hsent⟩ := @trySendNow_takes μ wire q next.data
  rw [if_neg hfails] at htaken
  rw [drainLoop]
  generalize q.trySendNow wire next.data = result at *
  obtain ⟨q₁, outcome, effects⟩ := result
  cases outcome with
  | sent => exact absurd (hsent rfl) hfails
  | backpressured => exact absurd (hback rfl).2 hfails
  | failed message =>
    dsimp only at htaken ⊢
    exact ⟨by simp [List.filterMap_cons, htaken], rfl, hwaiting⟩

section accounts

variable [DecidableEq μ] (a : μ)

theorem count_taken_le (b : Bool) (data : μ) :
    ((if b then [data] else []) : List μ).count a ≤ [data].count a := by
  split_ifs
  · exact Nat.le_refl _
  · simp

/-- What a message in its turn comes to: it is taken, or fresh, or lost. -/
theorem sendReady_accounts (call : ℕ) (data : μ) (bytes : ℕ) :
    ((q.sendReady options wire call data bytes).2.filterMap taken).count a +
        ((q.sendReady options wire call data bytes).1.freshQueue wire).count a ≤
          (q.freshQueue wire).count a + [data].count a ∧
      (q.sendReady options wire call data bytes).1.waiting = q.waiting := by
  have hpush (q : SendQueue μ) := @push_queue μ q call data bytes
  unfold sendReady
  by_cases hbytes : (options.maxQueueBytes : ℤ) < q.outboundQueuedBytes + bytes
  · rw [if_pos hbytes]
    exact ⟨by simp [List.filterMap_cons], rfl⟩
  rw [if_neg hbytes]
  by_cases hdirect : q.outboundQueue = [] ∧ q.drainScheduled = false ∧ q.drainTimer = false
  · rw [if_pos hdirect]
    obtain ⟨hqueue, hwaiting, htaken, hback, -⟩ := @trySendNow_takes μ wire q data
    rw [hdirect.1] at hqueue
    have hle := Nat.le_add_left_of_le (k := (q.freshQueue wire).count a)
      (count_taken_le a (q.takesNext wire) data)
    rw [← htaken] at hle
    generalize q.trySendNow wire data = result at *
    obtain ⟨q₁, outcome, effects⟩ := result
    have hfresh : q₁.freshQueue wire = [] := freshQueue_of_nil hqueue
    cases outcome with
    | sent =>
      dsimp only at hle ⊢
      rw [List.filterMap_append, hfresh]
      exact ⟨by simpa [List.filterMap_cons] using hle, hwaiting⟩
    | failed message =>
      dsimp only at hle ⊢
      rw [List.filterMap_append, hfresh]
      exact ⟨by simpa [List.filterMap_cons] using hle, hwaiting⟩
    | backpressured =>
      obtain ⟨hq, hs, hw⟩ := hpush q₁
      -- a message that was taken with backpressure is queued, and not fresh
      have hempty : (q₁.push call data bytes).freshQueue wire = [] := by
        have hheld := (hback rfl).1
        unfold freshQueue backpressured at *
        rw [hs, if_pos hheld, hq, show q₁.outboundQueue = [] from hqueue]
        rfl
      dsimp only at hle ⊢
      rw [hempty]
      exact ⟨by simpa using hle, hw.trans hwaiting⟩
  · rw [if_neg hdirect]
    obtain ⟨hq, hs, hw⟩ := hpush q
    refine ⟨?_, hw⟩
    -- behind the queue, one message more can be fresh
    have hsub : ((q.push call data bytes).freshQueue wire).Sublist (q.freshQueue wire ++ [data]) := by
      unfold freshQueue backpressured
      rw [hq, hs]
      split_ifs
      · cases q.outboundQueue <;> simp
      · simp
    rw [List.filterMap_nil, List.count_nil, Nat.zero_add]
    exact (hsub.count_le a).trans (List.count_append ..).le

/-- A message that waits for room is held, or lost. -/
theorem waitForQueueCapacity_accounts (call : ℕ) (data : μ) (bytes startedAt : ℕ) :
    ((q.waitForQueueCapacity options call data bytes startedAt).2.filterMap taken).count a +
      ((q.waitForQueueCapacity options call data bytes startedAt).1.fresh wire).count a ≤
        (q.fresh wire).count a + [data].count a := by
  have hset (waiting : WaitingSend μ) (hw : waiting.data = data) :
      ({ q with waiting := q.waiting.set call waiting }.fresh wire).count a ≤
        (q.fresh wire).count a + [data].count a := by
    unfold fresh
    rw [List.count_append, List.count_append, Nat.add_assoc]
    refine Nat.add_le_add_left ?_ _
    have h := JsMap.count_set_le (·.2.data) a q.waiting call waiting
    rwa [show (call, waiting).2.data = data from hw] at h
  unfold waitForQueueCapacity
  split_ifs
  · simp [List.filterMap_cons]
  · simpa using hset _ rfl
  · simp [List.filterMap_cons]
  · simpa using hset _ rfl

theorem sendLoop_accounts (call : ℕ) (data : μ) (bytes : ℕ) :
    ((q.sendLoop options wire call data bytes).2.filterMap taken).count a +
      ((q.sendLoop options wire call data bytes).1.fresh wire).count a ≤
        (q.fresh wire).count a + [data].count a := by
  unfold sendLoop
  split_ifs
  · exact waitForQueueCapacity_accounts a call data bytes q.now
  · obtain ⟨hle, hw⟩ := @sendReady_accounts μ options wire q _ a call data bytes
    unfold fresh
    rw [hw, List.count_append, List.count_append]
    omega

/-- The loop takes or keeps what is in the queue. -/
theorem drainLoop_accounts (queue : List (ClusterOutboundMessage μ)) : ∀ q : SendQueue μ,
    ((drainLoop wire queue q).2.filterMap taken).count a +
        ((drainLoop wire queue q).1.freshQueue wire).count a ≤ (queue.map (·.data)).count a ∧
      (drainLoop wire queue q).1.waiting = q.waiting := by
  induction queue with
  | nil =>
    intro q
    rw [drainLoop, freshQueue_of_nil rfl]
    exact ⟨Nat.le_refl _, rfl⟩
  | cons next rest ih =>
    intro q
    rw [drainLoop]
    obtain ⟨-, hwaiting, htaken, hback, -⟩ := @trySendNow_takes μ wire q next.data
    have hle := count_taken_le a (q.takesNext wire) next.data
    rw [← htaken] at hle
    generalize q.trySendNow wire next.data = result at *
    obtain ⟨q₁, outcome, effects⟩ := result
    show _ ≤ ([next.data] ++ rest.map (·.data)).count a ∧ _
    rw [List.count_append]
    cases outcome with
    | sent =>
      obtain ⟨hrest, hw⟩ := ih
        { q₁ with outboundQueuedBytes := q₁.outboundQueuedBytes - next.bytes }
      refine ⟨?_, hw.trans hwaiting⟩
      dsimp only at hle ⊢
      rw [List.filterMap_append, List.count_append, Nat.add_assoc,
        List.filterMap_cons_none (show taken (.resolve next.call) = none from rfl)]
      exact Nat.add_le_add hle hrest
    | backpressured =>
      -- the retry sets a timer and nothing else
      have hsame : ∀ q : SendQueue μ, q.scheduleDrainRetry.outboundQueue = q.outboundQueue ∧
          q.scheduleDrainRetry.sends = q.sends ∧ q.scheduleDrainRetry.waiting = q.waiting := by
        intro q
        unfold scheduleDrainRetry
        split_ifs <;> exact ⟨rfl, rfl, rfl⟩
      obtain ⟨hq, hs, hw⟩ := hsame { q₁ with outboundQueue := next :: rest }
      refine ⟨Nat.add_le_add hle (Nat.le_of_eq (congrArg _ ?_)), hw.trans hwaiting⟩
      have hheld := (hback rfl).1
      unfold freshQueue backpressured at *
      dsimp only
      rw [hs, if_pos hheld, hq]
      rfl
    | failed message =>
      refine ⟨?_, hwaiting⟩
      dsimp only at hle ⊢
      rw [List.filterMap_append, List.count_append]
      exact Nat.add_le_add (by simpa [List.filterMap_cons] using hle) (freshQueue_sublist.count_le a)

/-- A drain that does not resend takes or keeps what is fresh. -/
theorem drain_accounts
    (h : q.outboundQueue ≠ [] → q.backpressured wire = true → ¬q.takesNext wire = true) :
    ((q.drainOutboundQueue wire).2.filterMap taken).count a +
        ((q.drainOutboundQueue wire).1.freshQueue wire).count a ≤ (q.freshQueue wire).count a ∧
      (q.drainOutboundQueue wire).1.waiting = q.waiting := by
  by_cases hheld : q.backpressured wire = true
  · -- the socket took the head before: nothing is sent now, or the head is refused
    unfold drainOutboundQueue
    cases hqueue : q.outboundQueue with
    | nil =>
      rw [drainLoop, freshQueue_of_nil rfl]
      exact ⟨Nat.zero_le _, rfl⟩
    | cons next rest =>
      obtain ⟨hnone, hrest, hw⟩ := @drainLoop_refused μ wire
        { q with outboundQueue := next :: rest, drainScheduled := false } next rest
        (h (by simp [hqueue]) hheld)
      have hfresh : q.freshQueue wire = rest.map (·.data) := by
        unfold freshQueue
        rw [if_pos hheld, hqueue]
        rfl
      refine ⟨?_, hw⟩
      rw [hnone, List.count_nil, Nat.zero_add, hfresh]
      refine (freshQueue_sublist.count_le a).trans (Nat.le_of_eq ?_)
      rw [hrest]
  · have hqueue : q.freshQueue wire = q.outboundQueue.map (·.data) := by
      unfold freshQueue
      rw [if_neg hheld]
    rw [hqueue]
    exact drainLoop_accounts a q.outboundQueue _

/-- A call that waits is not counted while it goes on. -/
theorem fresh_unwait {call : ℕ} {waiting : WaitingSend μ} (h : q.waiting.get call = some waiting) :
    ((q.unwait call).fresh wire).count a + [waiting.data].count a = (q.fresh wire).count a := by
  have hdelete := JsMap.count_delete (·.2.data) a h
  have hunwait : ((q.unwait call).fresh wire).count a = (q.freshQueue wire).count a +
      ((q.waiting.delete call).entries.map (·.2.data)).count a := List.count_append ..
  have hfresh : (q.fresh wire).count a = (q.freshQueue wire).count a +
      (q.waiting.entries.map (·.2.data)).count a := List.count_append ..
  rw [hunwait, hfresh, hdelete]
  dsimp only
  omega

/-- Where nothing is sent and no message comes, less may be fresh. -/
theorem accounts_of_le {e : Event μ} {q' : SendQueue μ} {effects : List (SendQueueEffect μ)}
    (hnone : effects.filterMap taken = []) (hle : (q'.fresh wire).count a ≤ (q.fresh wire).count a) :
    (effects.filterMap taken).count a + (q'.fresh wire).count a ≤
      (q.fresh wire).count a + e.given.toList.count a := by
  rw [hnone, List.count_nil, Nat.zero_add]
  exact Nat.le_add_right_of_le hle

/-- What a step takes and what is fresh afterwards was fresh, or is given to it. -/
theorem step_accounts (e : Event μ) (h : ¬q.Resends wire e) :
    ((q.step options wire e).2.filterMap taken).count a +
      ((q.step options wire e).1.fresh wire).count a ≤
        (q.fresh wire).count a + e.given.toList.count a := by
  cases e with
  | sendMessage data bytes => exact sendLoop_accounts a q.nextCall data bytes
  | microtask =>
    unfold step
    dsimp only
    by_cases hm : q.microtasks = 0
    · rw [if_pos hm]
      exact accounts_of_le a rfl (Nat.le_refl _)
    · rw [if_neg hm]
      obtain ⟨hle, hw⟩ := @drain_accounts μ wire { q with microtasks := q.microtasks - 1 } _ a
        fun hqueue hheld ht => h ⟨rfl, hm, hqueue, hheld, ht⟩
      have hfresh : (q.fresh wire).count a = (q.freshQueue wire).count a +
          (q.waiting.entries.map (·.2.data)).count a := List.count_append ..
      rw [show (Event.microtask : Event μ).given.toList.count a = 0 from rfl, Nat.add_zero, hfresh, fresh, hw, List.count_append]
      rw [← Nat.add_assoc]
      exact Nat.add_le_add_right hle _
  | timer =>
    unfold step
    dsimp only
    split_ifs
    · refine accounts_of_le a rfl (Nat.le_of_eq ?_)
      unfold fresh freshQueue backpressured
      simp
    · exact accounts_of_le a rfl (Nat.le_refl _)
  | poll call =>
    show ((q.poll options call).2.filterMap taken).count a +
      ((q.poll options call).1.fresh wire).count a ≤ _
    unfold poll
    split
    · rename_i data bytes startedAt hget
      -- the call was fresh while it waited
      refine (waitForQueueCapacity_accounts a call data bytes startedAt).trans (Nat.le_of_eq ?_)
      exact fresh_unwait a hget
    · exact accounts_of_le a rfl (Nat.le_refl _)
  | resume call =>
    show ((q.resume options wire call).2.filterMap taken).count a +
      ((q.resume options wire call).1.fresh wire).count a ≤ _
    unfold resume
    split
    · rename_i data bytes hget
      refine (sendLoop_accounts a call data bytes).trans (Nat.le_of_eq ?_)
      exact fresh_unwait a hget
    · exact accounts_of_le a rfl (Nat.le_refl _)
  | advance ms => exact accounts_of_le a rfl (Nat.le_refl _)
  | socketCloses => exact accounts_of_le a rfl (Nat.le_refl _)
  | unregisterSocket =>
    refine accounts_of_le a ?_ ?_
    · show (q.outboundQueue.map _).filterMap taken = []
      rw [List.filterMap_map]
      exact List.filterMap_eq_nil_iff.2 fun _ _ => rfl
    · unfold fresh
      rw [freshQueue_of_nil rfl]
      exact (List.sublist_append_right _ _).count_le a

end accounts

end SendQueue

/-! ### Runs -/

variable {μ : Type} [DecidableEq μ]

/-- In the run of a connection's queue the socket takes each message at most as often as it is
given. -/
def Outbox.AtMostOnce (options : OutboundOptions) (wire : ℕ → SocketReply)
    (es : List (Outbox.Event μ)) : Prop :=
  ∀ data, ((Machine.outputs (Outbox.step options wire) {} es).filterMap Outbox.taken).count data ≤
    (es.filterMap Outbox.Event.given).count data

/-- In the run of a cluster socket's queue the socket takes each message at most as often as it is
given. -/
def SendQueue.AtMostOnce (options : SendQueueOptions) (wire : ℕ → SendStatus)
    (es : List (SendQueue.Event μ)) : Prop :=
  ∀ data, ((Machine.outputs (SendQueue.step options wire) {} es).filterMap
    SendQueue.taken).count data ≤ (es.filterMap SendQueue.Event.given).count data

/-- **In every run that never resends, each message that is given to a queue enters its socket at
most once.** -/
theorem taken_at_most_once (options : OutboundOptions) (wire : ℕ → SocketReply)
    (es : List (Outbox.Event μ)) (options' : SendQueueOptions) (wire' : ℕ → SendStatus)
    (es' : List (SendQueue.Event μ))
    (h : Machine.Along (Machine.next (Outbox.step options wire))
      (fun box e => ¬box.Resends options wire e) {} es)
    (h' : Machine.Along (Machine.next (SendQueue.step options' wire'))
      (fun q e => ¬q.Resends wire' e) {} es') :
    Outbox.AtMostOnce options wire es ∧ SendQueue.AtMostOnce options' wire' es' := by
  constructor
  · intro data
    have hcount := Machine.count_outputs_le (fun box e hC a => Outbox.step_accounts e hC a) es {} h data
    exact (Nat.le_add_right _ _).trans (hcount.trans (by simp [Outbox.fresh_of_nil]))
  · intro data
    have hcount := Machine.count_outputs_le (fun q e hC a => SendQueue.step_accounts a e hC) es' {} h'
      data
    exact (Nat.le_add_right _ _).trans
      (hcount.trans (by simp [SendQueue.fresh, SendQueue.freshQueue_of_nil, JsMap.empty]))

/-- A message that is sent, and one that the socket takes with a `-1` and that stays in the queue. -/
theorem taken_at_most_once_two :
    Outbox.AtMostOnce {} (fun k => if k = 1 then { status := .backpressure } else {})
        [.enqueue (js "m") 1, .enqueue (js "n") 1, .timer] ∧
      SendQueue.AtMostOnce {} (fun k => if k = 1 then .backpressure else .sent)
        [.sendMessage (js "m") 1, .sendMessage (js "n") 1] :=
  taken_at_most_once {} _ _ {} _ _
    ⟨fun h => (by cases h.1), fun h => (by cases h.1), fun h => (by cases h.1), trivial⟩
    ⟨fun h => (by cases h.1), fun h => (by cases h.1), trivial⟩

/-- Both sockets take a message with a `-1` and again from the queue. -/
theorem taken_twice :
    (¬∀ options wire, ∀ es : List (Outbox.Event JsString), Outbox.AtMostOnce options wire es) ∧
      ¬∀ options wire, ∀ es : List (SendQueue.Event JsString),
        SendQueue.AtMostOnce options wire es := by
  constructor
  · intro h
    have hcount := h {} (fun k => if k = 0 then { status := .backpressure } else {})
      [.enqueue (js "m") 1, .timer, .microtask] (js "m")
    exact absurd hcount (by decide)
  · intro h
    have hcount := h {} (fun k => if k = 0 then .backpressure else .sent)
      [.sendMessage (js "m") 1, .microtask] (js "m")
    exact absurd hcount (by decide)

end Hardess
