import Hardess.Ingress.AtMostOnce
import Hardess.Lib.Fifo

/-!
# The egress queue of a client connection is a queue

A message has left when `send` answers a positive number or nothing; after a `-1` it has not.

* `Outbox.Holds`: the bytes add up, the limits are kept, and what an open connection holds is going
  to be drained;
* `Outbox.Passes`: what a step sends and what is held afterwards are what was held and given;
* `outbox_correct`: both, for every run.
-/

namespace Hardess

namespace Outbox

variable {μ : Type} {options : OutboundOptions} {wire : ℕ → SocketReply} {box box' : Outbox μ}

/-- The message that has left. -/
def left : EgressEffect μ → Option μ
  | .send data .sent => some data
  | _ => none

/-- The messages that are held. -/
def held (box : Outbox μ) : List μ := box.outboundQueue.map (·.data)

/-- The bytes of a queue. -/
def bytesOf (queue : List (QueuedMessage μ)) : ℤ := (queue.map fun m => (m.bytes : ℤ)).sum

@[simp] theorem bytesOf_nil : bytesOf ([] : List (QueuedMessage μ)) = 0 := rfl

@[simp] theorem bytesOf_cons (m : QueuedMessage μ) (queue : List (QueuedMessage μ)) :
    bytesOf (m :: queue) = m.bytes + bytesOf queue := rfl

@[simp] theorem bytesOf_append (queue queue' : List (QueuedMessage μ)) :
    bytesOf (queue ++ queue') = bytesOf queue + bytesOf queue' := by
  simp [bytesOf]

theorem bytesOf_nonneg (queue : List (QueuedMessage μ)) : 0 ≤ bytesOf queue :=
  List.sum_nonneg (by simp)

theorem bytesOf_le_of_suffix {queue queue' : List (QueuedMessage μ)} (h : queue' <:+ queue) :
    bytesOf queue' ≤ bytesOf queue := by
  obtain ⟨before, rfl⟩ := h
  rw [bytesOf_append]
  exact le_add_of_nonneg_left (bytesOf_nonneg before)

/-- The bytes add up, the limits are kept, and what an open connection holds is going to be
drained. -/
structure Holds (options : OutboundOptions) (box : Outbox μ) : Prop where
  bytes : box.outboundQueuedBytes = bytesOf box.outboundQueue
  messages_le : box.outboundQueue.length ≤ options.maxQueueMessages
  bytes_le : box.outboundQueuedBytes ≤ options.maxQueueBytes
  drained : box.closed = false → box.outboundQueue ≠ [] →
    box.drainScheduled = true ∨ box.drainTimer = true

/-- What is sent is the first of what was held and what is given; if the connection stays open,
all of that is sent or held. -/
def Passes (before given : List μ) (result : Outbox μ × List (EgressEffect μ)) : Prop :=
  result.2.filterMap left <+: before ++ given ∧
    (result.1.closed = false → result.2.filterMap left ++ result.1.held = before ++ given)

theorem Passes.of_closed {before given : List μ} {effects : List (EgressEffect μ)}
    (h : effects.filterMap left <+: before ++ given) (hclosed : box'.closed = true) :
    Passes before given (box', effects) :=
  ⟨h, fun hopen => by rw [hclosed] at hopen; cases hopen⟩

/-! ### Closing -/

/-- What a closing changes. -/
theorem closeConnection_eq (code : ℕ) (reason : JsString) : ∃ drainTimer effects,
    box.closeConnection code reason = ({ box with closed := true, drainTimer }, effects) ∧
      effects.filterMap left = [] := by
  unfold closeConnection
  split_ifs with h
  · refine ⟨box.drainTimer, [], ?_, rfl⟩
    rw [← h]
  · exact ⟨false, _, rfl, rfl⟩

/-- A closed connection holds what it held. -/
theorem Holds.close (h : box.Holds options) (drainTimer : Bool) (sends : ℕ) :
    Holds options { box with closed := true, drainTimer, sends } :=
  ⟨h.bytes, h.messages_le, h.bytes_le, fun hopen => by cases hopen⟩

/-! ### Sending -/

/-- **What `trySendNow` can come to.** -/
theorem trySendNow_cases (data : μ) :
    (box.trySendNow options wire data =
        ({ box with sends := box.sends + 1 }, .sent, [.send data .sent])) ∨
      (box.trySendNow options wire data =
        ({ box with sends := box.sends + 1 }, .backpressured, [.send data .backpressure])) ∨
      ∃ error drainTimer sends effects, box.trySendNow options wire data =
          ({ box with closed := true, drainTimer, sends }, .failed error, effects) ∧
        effects.filterMap left <+: [data] := by
  -- an overflow closes the connection, whatever has left before
  have hover : ∀ (sends : ℕ) (error : EgressError) (effects : List (EgressEffect μ)),
      effects.filterMap left <+: [data] → ∃ error' drainTimer sends' effects',
        (({ box with sends } : Outbox μ).overflow.1, SendOutcome.failed error,
          effects ++ ({ box with sends } : Outbox μ).overflow.2) =
            (({ box with closed := true, drainTimer, sends := sends' } : Outbox μ),
              SendOutcome.failed error', effects') ∧ effects'.filterMap left <+: [data] := by
    intro sends error effects hleft
    obtain ⟨drainTimer, effects', heq, hnone⟩ := @closeConnection_eq μ { box with sends } 4508
      (js "BACKPRESSURE_OVERFLOW")
    rw [overflow, heq]
    refine ⟨error, drainTimer, sends, effects ++ effects', rfl, ?_⟩
    rw [List.filterMap_append, hnone, List.append_nil]
    exact hleft
  unfold trySendNow
  by_cases hb : options.maxSocketBufferBytes < (wire box.sends).bufferedBefore
  · simp only [if_pos hb]
    exact Or.inr (Or.inr (hover box.sends _ [] List.nil_prefix))
  · simp only [if_neg hb]
    cases hs : (wire box.sends).status with
    | threw message => exact Or.inr (Or.inr (hover _ _ [_] List.nil_prefix))
    | backpressure => exact Or.inr (Or.inl rfl)
    | dropped => exact Or.inr (Or.inr (hover _ _ [_] List.nil_prefix))
    | sent =>
      by_cases ha : options.maxSocketBufferBytes < (wire box.sends).bufferedAfter
      · simp only [if_pos ha]
        exact Or.inr (Or.inr (hover _ _ [_] List.prefix_rfl))
      · simp only [if_neg ha, true_or]

/-! ### Draining -/

@[simp] theorem scheduleDrainRetry_queue :
    box.scheduleDrainRetry.outboundQueue = box.outboundQueue ∧
      box.scheduleDrainRetry.outboundQueuedBytes = box.outboundQueuedBytes ∧
      (box.closed = false → box.scheduleDrainRetry.drainTimer = true) := by
  unfold scheduleDrainRetry
  split_ifs with h
  · refine ⟨rfl, rfl, fun hopen => ?_⟩
    rw [hopen] at h
    simpa using h
  · exact ⟨rfl, rfl, fun _ => rfl⟩

/-- **What a drain leaves**: the end of the queue, which waits for the timer if the connection is
still open. -/
theorem drainLoop_spec (queue : List (QueuedMessage μ)) : ∀ box : Outbox μ,
    box.outboundQueuedBytes = bytesOf queue →
      let result := drainLoop options wire queue box
      result.1.outboundQueue <:+ queue ∧
        result.1.outboundQueuedBytes = bytesOf result.1.outboundQueue ∧
        (result.1.closed = false → result.1.outboundQueue ≠ [] → result.1.drainTimer = true) ∧
        Passes (queue.map (·.data)) [] result := by
  induction queue with
  | nil =>
    intro box hbytes
    exact ⟨List.suffix_rfl, hbytes, fun _ h => absurd rfl h, List.nil_prefix, fun _ => rfl⟩
  | cons next rest ih =>
    intro box hbytes
    rw [drainLoop]
    by_cases hclosed : box.closed = true
    · simp only [if_pos hclosed]
      refine ⟨List.suffix_rfl, hbytes, fun hopen => ?_, Passes.of_closed List.nil_prefix hclosed⟩
      exact absurd (hclosed.symm.trans hopen) (by simp)
    · simp only [if_neg hclosed]
      -- the bytes of the next one are given back first
      have htaken : box.outboundQueuedBytes - next.bytes = bytesOf rest := by
        rw [hbytes, bytesOf_cons]
        omega
      rcases @trySendNow_cases μ options wire
          { box with outboundQueuedBytes := box.outboundQueuedBytes - next.bytes } next.data with
        heq | heq | ⟨error, drainTimer, sends, effects, heq, hleft⟩
      · -- the next one has left
        simp only [heq]
        obtain ⟨hsuffix, hsum, htimer, hstarts, hall⟩ := ih
          { box with
            outboundQueuedBytes := box.outboundQueuedBytes - next.bytes
            sends := box.sends + 1 } htaken
        refine ⟨hsuffix.trans (List.suffix_cons _ _), hsum, htimer, ?_, fun hopen => ?_⟩
        · exact (List.prefix_cons_inj next.data).2 hstarts
        · exact congrArg (next.data :: ·) (hall hopen)
      · -- it goes back to the front
        simp only [heq]
        obtain ⟨hqueue, hsum, htimer⟩ := @scheduleDrainRetry_queue μ
          { box with
            outboundQueue := next :: rest
            outboundQueuedBytes := box.outboundQueuedBytes - next.bytes + next.bytes
            sends := box.sends + 1 }
        refine ⟨hqueue ▸ List.suffix_rfl, ?_, fun _ _ => htimer (by simpa using hclosed),
          List.nil_prefix, fun _ => ?_⟩
        · rw [hsum, hqueue, htaken, bytesOf_cons, add_comm]
        · rw [held, hqueue, List.append_nil]
          rfl
      · simp only [heq]
        refine ⟨List.suffix_cons _ _, htaken, fun hopen => ?_, Passes.of_closed ?_ rfl⟩
        · cases hopen
        · exact hleft.trans ⟨rest.map (·.data), by simp⟩

/-! ### Steps -/

@[simp] theorem scheduleDrain_queue :
    box.scheduleDrain.outboundQueue = box.outboundQueue ∧
      box.scheduleDrain.outboundQueuedBytes = box.outboundQueuedBytes ∧
      (box.closed = false → box.scheduleDrain.drainScheduled = true) := by
  unfold scheduleDrain
  split_ifs with h
  · refine ⟨rfl, rfl, fun hopen => ?_⟩
    rw [hopen] at h
    simpa using h
  · exact ⟨rfl, rfl, fun _ => rfl⟩

/-- What is queued is held, and going to be drained, or there is no room and the connection is
closed. -/
theorem enqueueLater_spec (h : box.Holds options) (hopen : box.closed = false) (data : μ)
    (bytes : ℕ) (directSendBackpressured : Bool) :
    let result := box.enqueueLater options data bytes directSendBackpressured
    result.1.Holds options ∧ Passes box.held [data] (result.1, result.2.2) := by
  obtain ⟨hsum, hlength, hle, -⟩ := h
  unfold enqueueLater
  by_cases hfull : options.maxQueueMessages < box.outboundQueue.length + 1 ∨
      (options.maxQueueBytes : ℤ) < box.outboundQueuedBytes + bytes
  · simp only [if_pos hfull]
    obtain ⟨drainTimer, effects, heq, hnone⟩ := @closeConnection_eq μ box 4508
      (js "BACKPRESSURE_OVERFLOW")
    rw [overflow, heq]
    refine ⟨⟨hsum, hlength, hle, fun hopen => by cases hopen⟩, Passes.of_closed ?_ rfl⟩
    rw [hnone]
    exact List.nil_prefix
  · simp only [if_neg hfull]
    obtain ⟨hroom, hbytes⟩ := not_or.1 hfull
    -- with room, only the way to the next drain differs
    have hpushed : ∀ box' : Outbox μ, box'.outboundQueue = box.outboundQueue ++ [⟨data, bytes⟩] →
        box'.outboundQueuedBytes = box.outboundQueuedBytes + bytes →
          (box'.drainScheduled = true ∨ box'.drainTimer = true) →
            box'.Holds options ∧ Passes box.held [data] (box', []) := by
      intro box' hqueue hsum' hdrain
      refine ⟨⟨?_, ?_, ?_, fun _ _ => hdrain⟩, List.nil_prefix, fun _ => ?_⟩
      · rw [hsum', hqueue, bytesOf_append, hsum]
        simp
      · rw [hqueue, List.length_append]
        exact Nat.not_lt.1 hroom
      · rw [hsum']
        exact not_lt.1 hbytes
      · rw [held, hqueue, List.map_append]
        rfl
    obtain ⟨hretryQueue, hretryBytes, hretry⟩ := @scheduleDrainRetry_queue μ
      { box with
        outboundQueue := box.outboundQueue ++ [⟨data, bytes⟩]
        outboundQueuedBytes := box.outboundQueuedBytes + bytes }
    obtain ⟨hdrainQueue, hdrainBytes, hdrain⟩ := @scheduleDrain_queue μ
      { box with
        outboundQueue := box.outboundQueue ++ [⟨data, bytes⟩]
        outboundQueuedBytes := box.outboundQueuedBytes + bytes }
    split_ifs with hback htimer
    · exact hpushed _ hretryQueue hretryBytes (Or.inr (hretry hopen))
    · exact hpushed _ rfl rfl (Or.inr htimer)
    · exact hpushed _ hdrainQueue hdrainBytes (Or.inl (hdrain hopen))

/-- A direct send leaves nothing to wait, and a message that is not sent so is queued. -/
theorem enqueueOutbound_spec (h : box.Holds options) (hopen : box.closed = false) (data : μ)
    (bytes : ℕ) :
    let result := box.enqueueOutbound options wire data bytes
    result.1.Holds options ∧ Passes box.held [data] (result.1, result.2.2) := by
  unfold enqueueOutbound
  rw [if_neg (by simp [hopen])]
  by_cases hdirect : box.outboundQueue = [] ∧ box.drainScheduled = false ∧ box.drainTimer = false
  · simp only [if_pos hdirect]
    have hheld : box.held = [] := by rw [held, hdirect.1, List.map_nil]
    have hsends : Holds options { box with sends := box.sends + 1 } :=
      ⟨h.bytes, h.messages_le, h.bytes_le, h.drained⟩
    rcases @trySendNow_cases μ options wire box data with
      heq | heq | ⟨error, drainTimer, sends, effects, heq, hleft⟩
    · simp only [heq]
      refine ⟨hsends, ?_⟩
      rw [hheld]
      exact ⟨List.prefix_rfl, fun _ => congrArg (data :: ·) hheld⟩
    · simp only [heq]
      obtain ⟨hholds, hstarts, hall⟩ := @enqueueLater_spec μ options
        { box with sends := box.sends + 1 } hsends hopen data bytes true
      exact ⟨hholds, hstarts, hall⟩
    · simp only [heq]
      refine ⟨h.close drainTimer sends, Passes.of_closed ?_ rfl⟩
      rw [hheld]
      exact hleft
  · simp only [if_neg hdirect]
    exact enqueueLater_spec h hopen data bytes false

/-- **What one event does to an open connection.** -/
theorem step_spec (h : box.Holds options) (hopen : box.closed = false) (e : Event μ) :
    (box.step options wire e).1.Holds options ∧
      Passes box.held e.given.toList (box.step options wire e) := by
  -- an event that finds nothing to do sends nothing
  have hstays : Passes box.held [] (box, []) :=
    ⟨List.nil_prefix, fun _ => (List.append_nil _).symm⟩
  cases e with
  | enqueue data bytes => exact enqueueOutbound_spec h hopen data bytes
  | microtask =>
    unfold step
    by_cases hdrain : box.drainScheduled = true
    · simp only [if_pos hdrain]
      obtain ⟨hsuffix, hsum, htimer, hpasses⟩ := @drainLoop_spec μ options wire
        box.outboundQueue { box with drainScheduled := false } h.bytes
      refine ⟨⟨hsum, hsuffix.length_le.trans h.messages_le, ?_, fun hopen hne =>
        Or.inr (htimer hopen hne)⟩, hpasses⟩
      have hle := bytesOf_le_of_suffix hsuffix
      rw [← hsum, ← h.bytes] at hle
      exact hle.trans h.bytes_le
    · simp only [if_neg hdrain]
      exact ⟨h, hstays⟩
  | timer =>
    unfold step drainTimerFired
    by_cases htimer : box.drainTimer = true
    · simp only [if_pos htimer]
      by_cases hnil : box.outboundQueue = []
      · simp only [if_pos hnil]
        exact ⟨⟨h.bytes, h.messages_le, h.bytes_le, fun _ hne => absurd hnil hne⟩, hstays⟩
      · simp only [if_neg hnil]
        obtain ⟨hqueue, hsum, hdrain⟩ := @scheduleDrain_queue μ { box with drainTimer := false }
        refine ⟨⟨?_, ?_, ?_, fun _ _ => Or.inl (hdrain hopen)⟩, List.nil_prefix, fun _ => ?_⟩
        · rw [hsum, hqueue]
          exact h.bytes
        · rw [hqueue]
          exact h.messages_le
        · rw [hsum]
          exact h.bytes_le
        · rw [held, hqueue]
          exact (List.append_nil _).symm
    · simp only [if_neg htimer]
      exact ⟨h, hstays⟩
  | close code reason =>
    obtain ⟨drainTimer, effects, heq, hnone⟩ := @closeConnection_eq μ box code reason
    unfold step
    simp only [heq]
    refine ⟨h.close drainTimer box.sends, Passes.of_closed ?_ rfl⟩
    rw [hnone]
    exact List.nil_prefix

/-- **A closed connection sends nothing**, and holds what it held. -/
theorem step_of_closed (hclosed : box.closed = true) (e : Event μ) :
    ∃ drainScheduled drainTimer,
      box.step options wire e = ({ box with drainScheduled, drainTimer }, []) := by
  cases e with
  | enqueue data bytes =>
    refine ⟨box.drainScheduled, box.drainTimer, ?_⟩
    have henqueue := @enqueueOutbound_of_closed μ options wire box hclosed data bytes
    unfold step
    simp only [henqueue]
  | microtask =>
    by_cases hdrain : box.drainScheduled = true
    · refine ⟨false, box.drainTimer, ?_⟩
      unfold step
      simp only [if_pos hdrain, drainOutboundQueue]
      cases hqueue : box.outboundQueue with
      | nil => rw [drainLoop]
      | cons next rest => rw [drainLoop, if_pos hclosed]
    · exact ⟨box.drainScheduled, box.drainTimer, if_neg hdrain⟩
  | timer =>
    unfold step drainTimerFired scheduleDrain
    dsimp only
    split_ifs
    · exact ⟨box.drainScheduled, false, rfl⟩
    · exact ⟨box.drainScheduled, false, rfl⟩
    · exact ⟨true, false, rfl⟩
    · exact ⟨box.drainScheduled, box.drainTimer, rfl⟩
  | close code reason => exact ⟨box.drainScheduled, box.drainTimer, if_pos hclosed⟩

theorem Holds.step (h : box.Holds options) (e : Event μ) :
    (box.step options wire e).1.Holds options := by
  cases hclosed : box.closed with
  | false => exact (step_spec h hclosed e).1
  | true =>
    obtain ⟨drainScheduled, drainTimer, heq⟩ := step_of_closed hclosed e
    rw [heq]
    exact ⟨h.bytes, h.messages_le, h.bytes_le, fun hopen => by rw [hclosed] at hopen; cases hopen⟩

end Outbox

/-- **The egress queue of a client connection is correct.** In every run of it: the bytes are those
of the queue, the limits are kept, what has left is the first of what was enqueued, in that order,
and as long as the connection is open the rest is in the queue, which is going to be drained. -/
theorem outbox_correct {μ : Type} (options : OutboundOptions) (wire : ℕ → SocketReply)
    (es : List (Outbox.Event μ)) :
    let box := Machine.run (Machine.next (Outbox.step options wire)) {} es
    let left := (Machine.outputs (Outbox.step options wire) {} es).filterMap Outbox.left
    let enqueued := es.filterMap Outbox.Event.given
    box.outboundQueuedBytes = Outbox.bytesOf box.outboundQueue ∧
      box.outboundQueue.length ≤ options.maxQueueMessages ∧
      box.outboundQueuedBytes ≤ options.maxQueueBytes ∧
      left <+: enqueued ∧
      (box.closed = false → left ++ box.held = enqueued) ∧
      (box.closed = false → box.outboundQueue ≠ [] →
        box.drainScheduled = true ∨ box.drainTimer = true) := by
  intro box left enqueued
  have hempty : Outbox.Holds options ({} : Outbox μ) :=
    ⟨rfl, Nat.zero_le _, Int.natCast_nonneg _, fun _ hne => absurd rfl hne⟩
  have hinv : ∀ (box : Outbox μ) (e : Outbox.Event μ), box.Holds options →
      (Machine.next (Outbox.step options wire) box e).Holds options :=
    fun _ e h => Outbox.Holds.step h e
  have hholds : box.Holds options := Machine.run_invariant hempty hinv es
  -- a closed connection stays closed, and sends nothing
  have hdead : ∀ (box : Outbox μ) (e : Outbox.Event μ), ¬box.closed = false →
      (box.step options wire e).2.filterMap Outbox.left = [] ∧
        ¬(Machine.next (Outbox.step options wire) box e).closed = false := by
    intro box e hclosed
    obtain ⟨drainScheduled, drainTimer, heq⟩ :=
      @Outbox.step_of_closed μ options wire box (by simpa using hclosed) e
    rw [Machine.next, heq]
    exact ⟨rfl, hclosed⟩
  have hpasses : ∀ (box : Outbox μ) (e : Outbox.Event μ), box.Holds options → box.closed = false →
      Outbox.Passes box.held e.given.toList (box.step options wire e) :=
    fun _ e h hopen => (Outbox.step_spec h hopen e).2
  obtain ⟨hstarts, hall⟩ := Machine.outputs_prefix hinv hpasses hdead es {} hempty
  rw [Machine.inputs_filterMap] at hstarts hall
  exact ⟨hholds.bytes, hholds.messages_le, hholds.bytes_le, hstarts, hall rfl, hholds.drained⟩

end Hardess
