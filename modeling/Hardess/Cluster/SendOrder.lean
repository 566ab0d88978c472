import Hardess.Ingress.EgressOrder
import Hardess.Lib.JsMapGroup

/-!
# The send queue of a cluster socket is a queue

A message has left when `send` answers a positive number or nothing; after a `-1` it has not.

* `SendQueue.Sound`: the bytes add up, the limits are kept, and what is held was given to the calls
  under which it is held;
* `SendQueue.Answered`: a call is resolved right after its message has left, and no message leaves
  without that;
* `SendQueue.Serves`: what one step does: each open call stays open or is settled, once, and what is
  resolved comes in the order in which it was accepted;
* `sendQueue_correct`: all that, for every run.
-/

namespace Hardess

namespace SendQueue

variable {μ : Type} {options : SendQueueOptions} {wire : ℕ → SendStatus} {q q' : SendQueue μ}
  {dataOf : ℕ → Option μ}

/-! ### What is held, and what is settled -/

/-- The bytes of a queue. -/
def bytesOf (queue : List (ClusterOutboundMessage μ)) : ℤ :=
  (queue.map fun m => (m.bytes : ℤ)).sum

@[simp] theorem bytesOf_nil : bytesOf ([] : List (ClusterOutboundMessage μ)) = 0 := rfl

@[simp] theorem bytesOf_cons (m : ClusterOutboundMessage μ)
    (queue : List (ClusterOutboundMessage μ)) :
    bytesOf (m :: queue) = m.bytes + bytesOf queue := rfl

@[simp] theorem bytesOf_append (queue queue' : List (ClusterOutboundMessage μ)) :
    bytesOf (queue ++ queue') = bytesOf queue + bytesOf queue' := by
  simp [bytesOf]

/-- The calls whose messages are queued. -/
def queued (q : SendQueue μ) : List ℕ := q.outboundQueue.map (·.call)

/-- The calls that are open. -/
def unsettled (q : SendQueue μ) : List ℕ := q.queued ++ q.waiting.keys

/-- The call that is resolved. -/
def resolved : SendQueueEffect μ → Option ℕ
  | .resolve call => some call
  | _ => none

/-- The call that is settled. -/
def settled : SendQueueEffect μ → Option ℕ
  | .resolve call => some call
  | .reject call _ => some call
  | _ => none

/-- A call is resolved right after its message has left, and no message leaves without that;
`dataOf` is what the calls were given. -/
inductive Answered (dataOf : ℕ → Option μ) : List (SendQueueEffect μ) → Prop
  | nil : Answered dataOf []
  | left {call data effects} (h : dataOf call = some data) (hrest : Answered dataOf effects) :
      Answered dataOf (.send data .sent :: .resolve call :: effects)
  | kept {data status effects} (h : status ≠ .sent) (hrest : Answered dataOf effects) :
      Answered dataOf (.send data status :: effects)
  | reject {call message effects} (hrest : Answered dataOf effects) :
      Answered dataOf (.reject call message :: effects)
  | close {code reason effects} (hrest : Answered dataOf effects) :
      Answered dataOf (.close code reason :: effects)

theorem Answered.append {effects effects' : List (SendQueueEffect μ)}
    (h : Answered dataOf effects) (h' : Answered dataOf effects') :
    Answered dataOf (effects ++ effects') := by
  induction h with
  | nil => exact h'
  | left hdata _ ih => exact .left hdata ih
  | kept hstatus _ ih => exact .kept hstatus ih
  | reject _ ih => exact .reject ih
  | close _ ih => exact .close ih

theorem answered_backpressure (data : μ) : Answered dataOf [.send data .backpressure] :=
  .kept (by simp) .nil

/-- The bytes add up, the limits are kept, and what is held was given to the calls under which it is
held. -/
structure Sound (options : SendQueueOptions) (dataOf : ℕ → Option μ) (q : SendQueue μ) : Prop where
  bytes : q.outboundQueuedBytes = bytesOf q.outboundQueue
  messages_le : q.outboundQueue.length ≤ options.maxQueueMessages
  bytes_le : q.outboundQueuedBytes ≤ options.maxQueueBytes
  queue : ∀ m ∈ q.outboundQueue, dataOf m.call = some m.data
  waits : ∀ call waiting, q.waiting.get call = some waiting →
    dataOf call = some waiting.data ∧ call < q.nextCall

/-- What a step does to the calls that are open, and to those that it takes up; `accepted` are those
that it sends or queues. -/
structure Serves (options : SendQueueOptions) (dataOf : ℕ → Option μ) (q : SendQueue μ)
    (calls accepted : List ℕ) (result : SendQueue μ × List (SendQueueEffect μ)) : Prop where
  sound : result.1.Sound options dataOf
  settles : (result.2.filterMap settled ++ result.1.unsettled).Perm (q.unsettled ++ calls)
  order : (result.2.filterMap resolved ++ result.1.queued).Sublist (q.queued ++ accepted)
  answered : Answered dataOf result.2
  waits : ∀ call ∈ result.1.waiting.keys,
    call ∈ q.waiting.keys ∨ call ∈ calls ∧ call ∉ accepted
  nextCall : result.1.nextCall = q.nextCall

/-- Nothing is settled or moved. -/
theorem Serves.quiet (h : q'.Sound options dataOf) (hqueue : q'.outboundQueue = q.outboundQueue)
    (hwaiting : q'.waiting = q.waiting) (hnext : q'.nextCall = q.nextCall)
    {effects : List (SendQueueEffect μ)} (hsettled : effects.filterMap settled = [])
    (hresolved : effects.filterMap resolved = []) (hanswered : Answered dataOf effects) :
    Serves options dataOf q [] [] (q', effects) := by
  have hqueued : q'.queued = q.queued := by rw [queued, hqueue, queued]
  have hunsettled : q'.unsettled = q.unsettled := by rw [unsettled, hqueued, hwaiting, unsettled]
  refine ⟨h, ?_, ?_, hanswered, fun call hcall => Or.inl (hwaiting ▸ hcall), hnext⟩
  · rw [hsettled, hunsettled, List.append_nil]
    exact List.Perm.refl _
  · rw [hresolved, hqueued, List.append_nil]
    exact List.Sublist.refl _

/-- Where only flags change, it is the same that is held. -/
theorem Sound.congr (h : q.Sound options dataOf) (hqueue : q'.outboundQueue = q.outboundQueue)
    (hbytes : q'.outboundQueuedBytes = q.outboundQueuedBytes) (hwaiting : q'.waiting = q.waiting)
    (hnext : q.nextCall ≤ q'.nextCall) : q'.Sound options dataOf := by
  refine ⟨?_, ?_, ?_, ?_, ?_⟩
  · rw [hbytes, hqueue, h.bytes]
  · rw [hqueue]
    exact h.messages_le
  · rw [hbytes]
    exact h.bytes_le
  · rw [hqueue]
    exact h.queue
  · intro call waiting hget
    rw [hwaiting] at hget
    obtain ⟨hdata, hlt⟩ := h.waits call waiting hget
    exact ⟨hdata, hlt.trans_le hnext⟩

/-! ### Sending -/

/-- **What `trySendNow` can come to.** -/
theorem trySendNow_cases (data : μ) :
    (q.trySendNow wire data = ({ q with sends := q.sends + 1 }, .sent, [.send data .sent])) ∨
      (q.trySendNow wire data =
        ({ q with sends := q.sends + 1 }, .backpressured, [.send data .backpressure])) ∨
      ∃ message sends effects, q.trySendNow wire data =
          ({ q with sends }, .failed message, effects) ∧
        effects.filterMap settled = [] ∧ effects.filterMap resolved = [] ∧
          ∀ dataOf : ℕ → Option μ, Answered dataOf effects := by
  unfold trySendNow
  by_cases hclosed : q.closed = true
  · simp only [if_pos hclosed]
    exact Or.inr (Or.inr ⟨_, q.sends, [], rfl, rfl, rfl, fun _ => .nil⟩)
  · simp only [if_neg hclosed]
    cases wire q.sends with
    | sent => exact Or.inl rfl
    | backpressure => exact Or.inr (Or.inl rfl)
    | dropped =>
      exact Or.inr (Or.inr ⟨_, _, _, rfl, rfl, rfl, fun _ => .kept (by simp) .nil⟩)
    | threw message =>
      exact Or.inr (Or.inr ⟨_, _, _, rfl, rfl, rfl, fun _ => .kept (by simp) .nil⟩)

/-! ### Draining -/

theorem scheduleDrain_eq : ∃ drainScheduled microtasks,
    q.scheduleDrain = { q with drainScheduled, microtasks } := by
  unfold scheduleDrain
  split_ifs with h
  · exact ⟨q.drainScheduled, q.microtasks, rfl⟩
  · exact ⟨true, _, rfl⟩

theorem scheduleDrainRetry_eq : ∃ drainTimer,
    q.scheduleDrainRetry = { q with drainTimer } := by
  unfold scheduleDrainRetry
  split_ifs with h
  · exact ⟨q.drainTimer, rfl⟩
  · exact ⟨true, rfl⟩

/-- **What a drain does**: the queue is answered from its front. -/
theorem drainLoop_serves (queue : List (ClusterOutboundMessage μ)) : ∀ q : SendQueue μ,
    Sound options dataOf { q with outboundQueue := queue } →
      Serves options dataOf { q with outboundQueue := queue } [] [] (drainLoop wire queue q) := by
  induction queue with
  | nil =>
    intro q h
    exact Serves.quiet h rfl rfl rfl rfl rfl .nil
  | cons next rest ih =>
    intro q h
    obtain ⟨hbytes, hlength, hle, hqueue, hwaits⟩ := id h
    -- without its first message the queue keeps its accounts
    have hrest : ∀ (drainTimer : Bool) (sends : ℕ), Sound options dataOf
        { q with
          outboundQueue := rest
          outboundQueuedBytes := q.outboundQueuedBytes - next.bytes
          drainTimer, sends } := by
      intro drainTimer sends
      refine ⟨?_, (Nat.le_succ _).trans hlength, ?_,
        fun m hm => hqueue m (List.mem_cons_of_mem _ hm), hwaits⟩
      · show q.outboundQueuedBytes - next.bytes = bytesOf rest
        rw [hbytes, bytesOf_cons]
        omega
      · exact (sub_le_self _ (Int.natCast_nonneg _)).trans hle
    rw [drainLoop]
    rcases @trySendNow_cases μ wire q next.data with
      heq | heq | ⟨message, sends, effects, heq, hsettled, hresolved, hanswered⟩
    · -- the next one has left
      simp only [heq]
      have hserves := ih
        { q with
          sends := q.sends + 1
          outboundQueuedBytes := q.outboundQueuedBytes - next.bytes }
        (hrest q.drainTimer (q.sends + 1))
      refine ⟨hserves.sound, ?_, ?_, .left (hqueue next List.mem_cons_self) hserves.answered,
        hserves.waits, hserves.nextCall⟩
      · exact hserves.settles.cons next.call
      · exact hserves.order.cons_cons next.call
    · -- it stays at the front
      simp only [heq]
      obtain ⟨drainTimer, htimer⟩ := @scheduleDrainRetry_eq μ
        { q with sends := q.sends + 1, outboundQueue := next :: rest }
      rw [htimer]
      have hsound : Sound options dataOf
          { q with outboundQueue := next :: rest, drainTimer, sends := q.sends + 1 } :=
        h.congr rfl rfl rfl le_rfl
      exact Serves.quiet (q := { q with outboundQueue := next :: rest }) hsound rfl rfl rfl rfl rfl
        (answered_backpressure next.data)
    · -- it is rejected
      simp only [heq]
      refine ⟨hrest q.drainTimer sends, ?_, ?_, ?_, fun call hcall => Or.inl hcall, rfl⟩
      · rw [List.filterMap_append, hsettled, List.append_nil]
        exact List.Perm.refl _
      · rw [List.filterMap_append, hresolved, List.append_nil]
        exact List.sublist_cons_self _ _
      · exact (hanswered dataOf).append (.reject (.close .nil))

/-! ### Calls -/

variable {call : ℕ} {data : μ} {bytes : ℕ}

/-- **A message is queued.** -/
theorem push_serves (h : q.Sound options dataOf) (hdata : dataOf call = some data)
    (hroom : q.outboundQueue.length + 1 ≤ options.maxQueueMessages)
    (hbytes : q.outboundQueuedBytes + bytes ≤ options.maxQueueBytes) :
    Serves options dataOf q [call] [call] (q.push call data bytes, []) := by
  obtain ⟨hsum, hlength, hle, hqueue, hwaits⟩ := h
  -- whether a drain is scheduled or not makes no difference to the queue
  have hpushed : ∀ drainScheduled microtasks, Serves options dataOf q [call] [call]
      ({ q with
          outboundQueue := q.outboundQueue ++ [⟨data, bytes, call⟩]
          outboundQueuedBytes := q.outboundQueuedBytes + bytes
          drainScheduled, microtasks }, []) := by
    intro drainScheduled microtasks
    have hqueued : (q.outboundQueue ++ [ClusterOutboundMessage.mk data bytes call]).map (·.call) =
        q.queued ++ [call] := List.map_append
    refine ⟨⟨?_, ?_, hbytes, ?_, hwaits⟩, ?_, ?_, .nil, fun call hcall => Or.inl hcall, rfl⟩
    · show q.outboundQueuedBytes + bytes = bytesOf (q.outboundQueue ++ [⟨data, bytes, call⟩])
      rw [bytesOf_append, hsum]
      simp
    · rw [List.length_append]
      exact hroom
    · intro m hm
      rcases List.mem_append.1 hm with hm | hm
      · exact hqueue m hm
      · rw [List.mem_singleton.1 hm]
        exact hdata
    · simp only [List.filterMap_nil, List.nil_append, unsettled, queued, hqueued]
      simp only [List.append_assoc]
      exact (List.perm_append_comm).append_left _
    · simp only [List.filterMap_nil, List.nil_append, queued, hqueued]
      exact List.Sublist.refl _
  unfold push
  dsimp only
  split_ifs
  · exact hpushed q.drainScheduled q.microtasks
  · obtain ⟨drainScheduled, microtasks, heq⟩ := @scheduleDrain_eq μ
      { q with
        outboundQueue := q.outboundQueue ++ [⟨data, bytes, call⟩]
        outboundQueuedBytes := q.outboundQueuedBytes + bytes }
    rw [heq]
    exact hpushed drainScheduled microtasks

/-- A call is rejected. -/
theorem Serves.rejected (h : q'.Sound options dataOf) (hqueue : q'.outboundQueue = q.outboundQueue)
    (hwaiting : q'.waiting = q.waiting) (hnext : q'.nextCall = q.nextCall)
    {effects : List (SendQueueEffect μ)} (hsettled : effects.filterMap settled = [])
    (hresolved : effects.filterMap resolved = []) (hanswered : Answered dataOf effects)
    (message : JsString) {accepted : List ℕ} :
    Serves options dataOf q [call] accepted (q', effects ++ [.reject call message]) := by
  obtain ⟨hsound, hperm, horder, -, hwaits, hcall⟩ :=
    Serves.quiet h hqueue hwaiting hnext hsettled hresolved hanswered
  refine ⟨hsound, ?_, ?_, hanswered.append (.reject .nil),
    fun call hcall => Or.inl ((hwaits call hcall).resolve_right (by simp)), hcall⟩
  · rw [hsettled, List.nil_append, List.append_nil] at hperm
    rw [List.filterMap_append, hsettled, List.nil_append]
    exact (List.perm_append_singleton call _).symm.trans (hperm.append_right [call])
  · rw [hresolved, List.nil_append, List.append_nil] at horder
    rw [List.filterMap_append, hresolved]
    exact horder.trans (List.sublist_append_left _ _)

/-- The calls that are sent or queued if they are taken up. -/
def admits (options : SendQueueOptions) (q : SendQueue μ) (call bytes : ℕ) : List ℕ :=
  if q.outboundQueue.length + 1 ≤ options.maxQueueMessages ∧
      q.outboundQueuedBytes + bytes ≤ options.maxQueueBytes then [call] else []

/-- **A message for which there is room** is sent or queued, unless it is too long. -/
theorem sendReady_serves (h : q.Sound options dataOf) (hdata : dataOf call = some data)
    (hroom : q.outboundQueue.length + 1 ≤ options.maxQueueMessages) :
    Serves options dataOf q [call] (admits options q call bytes)
      (q.sendReady options wire call data bytes) := by
  unfold sendReady admits
  by_cases hfull : (options.maxQueueBytes : ℤ) < q.outboundQueuedBytes + bytes
  · rw [if_pos hfull]
    exact Serves.rejected h rfl rfl rfl rfl rfl .nil _
  · have hbytes := not_lt.1 hfull
    rw [if_neg hfull, if_pos ⟨hroom, hbytes⟩]
    have hsends : ∀ sends, Sound options dataOf { q with sends } := fun _ =>
      h.congr rfl rfl rfl le_rfl
    by_cases hdirect : q.outboundQueue = [] ∧ q.drainScheduled = false ∧ q.drainTimer = false
    · rw [if_pos hdirect]
      rcases @trySendNow_cases μ wire q data with
        heq | heq | ⟨message, sends, effects, heq, hsettled, hresolved, hanswered⟩
      · simp only [heq]
        refine ⟨hsends _, ?_, ?_, .left hdata .nil, fun call hcall => Or.inl hcall, rfl⟩
        · exact (List.perm_append_singleton call _).symm
        · have hnone : q.queued = [] := by rw [queued, hdirect.1, List.map_nil]
          simp only [queued] at hnone ⊢
          rw [hnone]
          exact List.Sublist.refl _
      · simp only [heq]
        obtain ⟨hsound, hperm, horder, -, hwaits, hcall⟩ :=
          push_serves (hsends (q.sends + 1)) hdata hroom hbytes
        exact ⟨hsound, hperm, horder, answered_backpressure data, hwaits, hcall⟩
      · simp only [heq]
        exact Serves.rejected (q := q) (hsends sends) rfl rfl rfl hsettled hresolved
          (hanswered dataOf) _
    · rw [if_neg hdirect]
      exact push_serves h hdata hroom hbytes

/-- **A call that waits for room** stays open, or is rejected. -/
theorem waitForQueueCapacity_serves (h : q.Sound options dataOf) (hdata : dataOf call = some data)
    (hfresh : call ∉ q.waiting.keys) (hlt : call < q.nextCall) (startedAt : ℕ) :
    Serves options dataOf q [call] []
      (q.waitForQueueCapacity options call data bytes startedAt) := by
  have hwaits : ∀ startedAt, Serves options dataOf q [call] []
      ({ q with waiting := q.waiting.set call ⟨data, bytes, startedAt⟩ }, []) := by
    intro startedAt
    refine ⟨⟨h.bytes, h.messages_le, h.bytes_le, h.queue, ?_⟩, ?_, ?_, .nil, ?_, rfl⟩
    · intro call' waiting hget
      dsimp only at hget
      rw [JsMap.get_set] at hget
      split_ifs at hget with heq
      · subst heq
        cases hget
        exact ⟨hdata, hlt⟩
      · exact h.waits call' waiting hget
    · simp only [List.filterMap_nil, List.nil_append, unsettled, queued, JsMap.keys_set,
        OrderIndependence.insertNew, if_neg hfresh, List.append_assoc]
      exact List.Perm.refl _
    · rw [List.append_nil]
      exact List.Sublist.refl _
    · intro call' hcall
      rw [JsMap.keys_set, OrderIndependence.mem_insertNew] at hcall
      exact hcall.imp id fun heq => ⟨List.mem_singleton.2 heq, List.not_mem_nil⟩
  have hrejects : ∀ message, Serves options dataOf q [call] [] (q, [.reject call message]) :=
    fun message => Serves.rejected h rfl rfl rfl rfl rfl .nil message
  unfold waitForQueueCapacity
  split_ifs
  · exact hrejects _
  · exact hwaits _
  · exact hrejects _
  · exact hwaits _

theorem sendLoop_serves (h : q.Sound options dataOf) (hdata : dataOf call = some data)
    (hfresh : call ∉ q.waiting.keys) (hlt : call < q.nextCall) :
    Serves options dataOf q [call] (admits options q call bytes)
      (q.sendLoop options wire call data bytes) := by
  unfold sendLoop
  by_cases hfull : options.maxQueueMessages < q.outboundQueue.length + 1
  · rw [if_pos hfull, admits, if_neg fun hroom => Nat.not_le.2 hfull hroom.1]
    exact waitForQueueCapacity_serves h hdata hfresh hlt q.now
  · rw [if_neg hfull]
    exact sendReady_serves h hdata (Nat.not_lt.1 hfull)

/-! ### Steps -/

theorem Sound.lt_of_mem (h : q.Sound options dataOf) {call : ℕ} (hmem : call ∈ q.waiting.keys) :
    call < q.nextCall := by
  cases hget : q.waiting.get call with
  | none => exact absurd hmem (JsMap.get_eq_none_iff.1 hget)
  | some waiting => exact (h.waits call waiting hget).2

theorem Sound.unwait (h : q.Sound options dataOf) (call : ℕ) :
    (q.unwait call).Sound options dataOf :=
  ⟨h.bytes, h.messages_le, h.bytes_le, h.queue, fun call' waiting hget =>
    h.waits call' waiting (JsMap.get_of_get_delete hget).2⟩

theorem notMem_unwait (call : ℕ) : call ∉ (q.unwait call).waiting.keys :=
  JsMap.get_eq_none_iff.1 (JsMap.get_delete_self q.waiting call)

/-- A call that waited is taken up. -/
theorem Serves.of_unwait {waiting : WaitingSend μ} (hget : q.waiting.get call = some waiting)
    {accepted : List ℕ} {result : SendQueue μ × List (SendQueueEffect μ)}
    (h : Serves options dataOf (q.unwait call) [call] accepted result) :
    Serves options dataOf q [] accepted result := by
  have hkeys : ((q.unwait call).waiting.keys ++ [call]).Perm q.waiting.keys :=
    (List.perm_append_singleton call _).trans
      ((JsMap.perm_delete hget).map Prod.fst).symm
  refine ⟨h.sound, ?_, h.order, h.answered, fun call' hcall => Or.inl ?_, h.nextCall⟩
  · refine h.settles.trans ?_
    rw [unsettled, List.append_assoc, List.append_nil]
    exact hkeys.append_left _
  · rcases h.waits call' hcall with hmem | ⟨hmem, -⟩
    · exact hkeys.subset (List.mem_append_left _ hmem)
    · exact hkeys.subset (List.mem_append_right _ hmem)

/-- What `unregisterSocket` does: all that is queued is rejected. -/
theorem unregisterSocket_serves (h : q.Sound options dataOf) :
    Serves options dataOf q [] [] q.unregisterSocket := by
  have hrejects : ∀ queue : List (ClusterOutboundMessage μ),
      let effects := queue.map fun entry =>
        (SendQueueEffect.reject entry.call (js "Cluster socket closed") : SendQueueEffect μ)
      effects.filterMap settled = queue.map (·.call) ∧ effects.filterMap resolved = [] ∧
        Answered dataOf effects := by
    intro queue
    induction queue with
    | nil => exact ⟨rfl, rfl, .nil⟩
    | cons m queue ih =>
      obtain ⟨hsettled, hresolved, hanswered⟩ := ih
      exact ⟨congrArg (m.call :: ·) hsettled, hresolved, .reject hanswered⟩
  obtain ⟨hsettled, hresolved, hanswered⟩ := hrejects q.outboundQueue
  unfold unregisterSocket
  refine ⟨⟨rfl, Nat.zero_le _, Int.natCast_nonneg _, fun m hm => absurd hm List.not_mem_nil,
    h.waits⟩, ?_, ?_, hanswered, fun call hcall => Or.inl hcall, rfl⟩
  · rw [hsettled, List.append_nil]
    exact List.Perm.refl _
  · rw [hresolved]
    exact List.nil_sublist _

/-- The call that an event opens. -/
def opens (q : SendQueue μ) : Event μ → List ℕ
  | .sendMessage .. => [q.nextCall]
  | _ => []

/-- The call that an event sends or queues. -/
def accepts (options : SendQueueOptions) (q : SendQueue μ) : Event μ → List ℕ
  | .sendMessage _ bytes => admits options q q.nextCall bytes
  | .resume call =>
    match q.waiting.get call with
    | some ⟨_, bytes, none⟩ => admits options q call bytes
    | _ => []
  | _ => []

/-- The next call is the one that was given the message. -/
def Fits (dataOf : ℕ → Option μ) (q : SendQueue μ) (e : Event μ) : Prop :=
  ∀ data, e.given = some data → dataOf q.nextCall = some data

/-- What one event does. -/
structure Advances (options : SendQueueOptions) (dataOf : ℕ → Option μ) (q : SendQueue μ)
    (e : Event μ) (result : SendQueue μ × List (SendQueueEffect μ)) : Prop where
  sound : result.1.Sound options dataOf
  settles : (result.2.filterMap settled ++ result.1.unsettled).Perm (q.unsettled ++ q.opens e)
  order : (result.2.filterMap resolved ++ result.1.queued).Sublist
    (q.queued ++ q.accepts options e)
  answered : Answered dataOf result.2
  waits : ∀ call ∈ result.1.waiting.keys, call ∈ q.waiting.keys ∨ call ∈ q.opens e
  accepted : ∀ call ∈ q.accepts options e,
    (call ∈ q.waiting.keys ∨ call ∈ q.opens e) ∧ call ∉ result.1.waiting.keys
  nextCall : result.1.nextCall = q.nextCall + (q.opens e).length

/-- An event that takes up no call. -/
theorem Serves.advances {e : Event μ} {result : SendQueue μ × List (SendQueueEffect μ)}
    (h : Serves options dataOf q [] [] result) (hopens : q.opens e = [])
    (haccepts : q.accepts options e = []) : Advances options dataOf q e result := by
  obtain ⟨hsound, hperm, horder, hanswered, hwaits, hcall⟩ := h
  refine ⟨hsound, by rwa [hopens], by rwa [haccepts], hanswered, fun call hmem => ?_, ?_, ?_⟩
  · exact (hwaits call hmem).imp id fun hmem => absurd hmem.1 List.not_mem_nil
  · rw [haccepts]
    exact fun call hmem => absurd hmem List.not_mem_nil
  · rw [hopens]
    exact hcall

theorem mem_admits {call' : ℕ} (h : call' ∈ admits options q call bytes) : call' = call := by
  unfold admits at h
  split_ifs at h
  · exact List.mem_singleton.1 h
  · cases h

/-- Nothing happens. -/
theorem Serves.refl (h : q.Sound options dataOf) : Serves options dataOf q [] [] (q, []) :=
  Serves.quiet h rfl rfl rfl rfl rfl .nil

/-- **The timer of a call that waits.** -/
theorem poll_serves (h : q.Sound options dataOf) (call : ℕ) :
    Serves options dataOf q [] [] (q.poll options call) := by
  unfold poll
  cases hget : q.waiting.get call with
  | none => exact Serves.refl h
  | some waiting =>
    obtain ⟨data, bytes, startedAt⟩ := waiting
    cases startedAt with
    | none => exact Serves.refl h
    | some startedAt =>
      obtain ⟨hdata, hlt⟩ := h.waits call _ hget
      exact Serves.of_unwait hget (waitForQueueCapacity_serves (h.unwait call) hdata
        (notMem_unwait call) hlt startedAt)

/-- **A call for which there was room goes on.** -/
theorem resume_advances (h : q.Sound options dataOf) (call : ℕ) :
    Advances options dataOf q (.resume call) (q.step options wire (.resume call)) := by
  cases hget : q.waiting.get call with
  | none =>
    have hstep : q.step options wire (.resume call) = (q, []) := by
      simp only [step, resume, hget]
    rw [hstep]
    exact (Serves.refl h).advances rfl (by simp only [accepts, hget])
  | some waiting =>
    obtain ⟨data, bytes, startedAt⟩ := waiting
    cases startedAt with
    | some startedAt =>
      have hstep : q.step options wire (.resume call) = (q, []) := by
        simp only [step, resume, hget]
      rw [hstep]
      exact (Serves.refl h).advances rfl (by simp only [accepts, hget])
    | none =>
      -- the call has waited for its turn: it is taken off the list, and sent or queued
      obtain ⟨hdata, hlt⟩ := h.waits call _ hget
      have hserves := @sendLoop_serves μ options wire (q.unwait call) dataOf call data bytes
        (h.unwait call) hdata (notMem_unwait call) hlt
      have hstep : q.step options wire (.resume call) =
          (q.unwait call).sendLoop options wire call data bytes := by
        simp only [step, resume, hget]
      have haccepts : q.accepts options (.resume call) =
          admits options (q.unwait call) call bytes := by
        simp only [accepts, hget]
        rfl
      rw [hstep]
      obtain ⟨hsound, hperm, horder, hanswered, hwaits, hcall⟩ := hserves.of_unwait hget
      refine ⟨hsound, hperm, haccepts ▸ horder, hanswered, fun call' hmem => ?_,
        fun call' hmem => ?_, hcall⟩
      · exact (hwaits call' hmem).imp id fun hmem => absurd hmem.1 List.not_mem_nil
      · rw [haccepts] at hmem
        have heq := mem_admits hmem
        subst heq
        refine ⟨Or.inl ?_, fun hstill => ?_⟩
        · -- a call that is let in was one of those that waited
          by_contra hnone
          rw [JsMap.get_eq_none_iff.2 hnone] at hget
          cases hget
        · rcases hserves.waits call' hstill with hold | ⟨-, hnot⟩
          · exact notMem_unwait call' hold
          · exact hnot hmem

/-- **What one event does to a queue.** -/
theorem step_advances (h : q.Sound options dataOf) (e : Event μ) (hfits : q.Fits dataOf e) :
    Advances options dataOf q e (q.step options wire e) := by
  have hquiet : ∀ {q' : SendQueue μ}, q'.outboundQueue = q.outboundQueue →
      q'.outboundQueuedBytes = q.outboundQueuedBytes → q'.waiting = q.waiting →
        q'.nextCall = q.nextCall → Serves options dataOf q [] [] (q', []) :=
    fun hqueue hbytes hwaiting hnext =>
      Serves.quiet (h.congr hqueue hbytes hwaiting hnext.ge) hqueue hwaiting hnext rfl rfl .nil
  cases e with
  | sendMessage data bytes =>
    -- the number of the new call is in nobody's hands
    have hopen : q.nextCall ∉ q.waiting.keys := fun hmem => lt_irrefl _ (h.lt_of_mem hmem)
    have hsound : Sound options dataOf { q with nextCall := q.nextCall + 1 } :=
      h.congr rfl rfl rfl (Nat.le_succ _)
    obtain ⟨hsound, hperm, horder, hanswered, hwaits, hcall⟩ :=
      @sendLoop_serves μ options wire { q with nextCall := q.nextCall + 1 } dataOf q.nextCall data
        bytes hsound (hfits data rfl) hopen (Nat.lt_succ_self _)
    refine ⟨hsound, hperm, horder, hanswered, fun call hmem => ?_, fun call hmem => ?_, hcall⟩
    · exact (hwaits call hmem).imp id And.left
    · refine ⟨Or.inr (List.mem_singleton.2 (mem_admits hmem)), fun hstill => ?_⟩
      rcases hwaits call hstill with hold | ⟨-, hnot⟩
      · exact hopen (mem_admits hmem ▸ hold)
      · exact hnot hmem
  | microtask =>
    refine Serves.advances ?_ rfl rfl
    unfold step
    by_cases hnone : q.microtasks = 0
    · simp only [if_pos hnone]
      exact hquiet rfl rfl rfl rfl
    · simp only [if_neg hnone]
      obtain ⟨hsound, hperm, horder, hanswered, hwaits, hcall⟩ :=
        @drainLoop_serves μ options wire dataOf q.outboundQueue
          { q with microtasks := q.microtasks - 1, drainScheduled := false }
          (h.congr rfl rfl rfl le_rfl)
      exact ⟨hsound, hperm, horder, hanswered, hwaits, hcall⟩
  | timer =>
    refine Serves.advances ?_ rfl rfl
    unfold step
    by_cases htimer : q.drainTimer = true
    · simp only [if_pos htimer]
      obtain ⟨drainScheduled, microtasks, heq⟩ := @scheduleDrain_eq μ { q with drainTimer := false }
      rw [heq]
      exact hquiet rfl rfl rfl rfl
    · simp only [if_neg htimer]
      exact hquiet rfl rfl rfl rfl
  | poll call =>
    refine Serves.advances ?_ rfl rfl
    exact poll_serves h call
  | resume call => exact resume_advances h call
  | advance ms =>
    refine Serves.advances ?_ rfl rfl
    exact hquiet rfl rfl rfl rfl
  | socketCloses =>
    refine Serves.advances ?_ rfl rfl
    exact hquiet rfl rfl rfl rfl
  | unregisterSocket => exact (unregisterSocket_serves h).advances rfl rfl

/-! ### Runs -/

theorem Advances.nextCall_next {e : Event μ}
    (h : Advances options dataOf q e (q.step options wire e)) :
    (Machine.next (step options wire) q e).nextCall = q.nextCall + (q.opens e).length := h.nextCall

/-- The messages that are given in a run are those of its calls. -/
theorem along_fits (es : List (Event μ)) : ∀ q : SendQueue μ, q.Sound options dataOf →
    (∀ i, dataOf (q.nextCall + i) = (es.filterMap Event.given)[i]?) →
      Machine.Along (Machine.next (step options wire)) (Fits dataOf) q es := by
  induction es with
  | nil => exact fun _ _ _ => trivial
  | cons e es ih =>
    intro q h hdata
    have hfits : q.Fits dataOf e := by
      intro data hgiven
      have hfirst := hdata 0
      rwa [List.filterMap_cons_some hgiven] at hfirst
    have hadvances := @step_advances μ options wire q dataOf h e hfits
    refine ⟨hfits, ih _ hadvances.sound fun i => ?_⟩
    have hnext := hadvances.nextCall_next
    cases e with
    | sendMessage data bytes =>
      rw [hnext, Nat.add_assoc, hdata]
      exact congrArg _ (Nat.add_comm _ _)
    | _ =>
      rw [hnext]
      exact hdata i

/-- The calls that are opened are numbered. -/
theorem inputs_opens (es : List (Event μ)) : ∀ q : SendQueue μ, q.Sound options dataOf →
    Machine.Along (Machine.next (step options wire)) (Fits dataOf) q es →
      ∃ n, Machine.inputs (step options wire) opens q es = List.range' q.nextCall n := by
  induction es with
  | nil => exact fun _ _ _ => ⟨0, rfl⟩
  | cons e es ih =>
    rintro q h ⟨hfits, halong⟩
    have hadvances := @step_advances μ options wire q dataOf h e hfits
    have hnext := hadvances.nextCall_next
    obtain ⟨n, hn⟩ := ih (Machine.next (step options wire) q e) hadvances.sound halong
    rw [Machine.inputs, hn, hnext]
    cases e with
    | sendMessage data bytes => exact ⟨n + 1, rfl⟩
    | _ => exact ⟨n, rfl⟩

theorem nodup_accepts (e : Event μ) : (q.accepts options e).Nodup := by
  have hadmits : ∀ call bytes, (admits options q call bytes).Nodup := by
    intro call bytes
    unfold admits
    split_ifs
    · exact List.nodup_singleton call
    · exact List.nodup_nil
  unfold accepts
  split
  · exact hadmits _ _
  · split
    · exact hadmits _ _
    · exact List.nodup_nil
  · exact List.nodup_nil

/-- A call is accepted at most once, while it waits or when it is opened. -/
theorem inputs_accepts (es : List (Event μ)) : ∀ q : SendQueue μ, q.Sound options dataOf →
    Machine.Along (Machine.next (step options wire)) (Fits dataOf) q es →
      (Machine.inputs (step options wire) (accepts options) q es).Nodup ∧
        ∀ call ∈ Machine.inputs (step options wire) (accepts options) q es,
          call ∈ q.waiting.keys ∨ q.nextCall ≤ call := by
  induction es with
  | nil => exact fun _ _ _ => ⟨List.nodup_nil, fun _ hmem => absurd hmem List.not_mem_nil⟩
  | cons e es ih =>
    rintro q h ⟨hfits, halong⟩
    have hadvances := @step_advances μ options wire q dataOf h e hfits
    have hnext := hadvances.nextCall_next
    obtain ⟨hnodup, hlater⟩ :=
      ih (Machine.next (step options wire) q e) hadvances.sound halong
    -- only a new message opens a call, under the next number
    have hopens : ∀ call ∈ q.opens e, call = q.nextCall ∧ (q.opens e).length = 1 := by
      intro call hmem
      cases e with
      | sendMessage data bytes => exact ⟨List.mem_singleton.1 hmem, rfl⟩
      | _ => cases hmem
    rw [Machine.inputs]
    constructor
    · refine List.Nodup.append (nodup_accepts e) hnodup fun call hnow hmem => ?_
      obtain ⟨hbefore, hgone⟩ := hadvances.accepted call hnow
      rcases hlater call hmem with hstill | hle
      · exact hgone hstill
      · -- it is an earlier call
        rw [hnext] at hle
        rcases hbefore with hmem | hmem
        · exact absurd ((h.lt_of_mem hmem).trans_le (Nat.le_add_right _ _)) (Nat.not_lt.2 hle)
        · obtain ⟨rfl, hone⟩ := hopens call hmem
          omega
    · intro call hmem
      rcases List.mem_append.1 hmem with hnow | hmem
      · exact (hadvances.accepted call hnow).1.imp id fun hmem => (hopens call hmem).1.ge
      · rcases hlater call hmem with hstill | hle
        · exact (hadvances.waits call hstill).imp id fun hmem => (hopens call hmem).1.ge
        · exact Or.inr ((Nat.le_add_right _ _).trans (hnext ▸ hle))

theorem answered_outputs (es : List (Event μ)) : ∀ q : SendQueue μ, q.Sound options dataOf →
    Machine.Along (Machine.next (step options wire)) (Fits dataOf) q es →
      Answered dataOf (Machine.outputs (step options wire) q es) := by
  induction es with
  | nil => exact fun _ _ _ => .nil
  | cons e es ih =>
    rintro q h ⟨hfits, halong⟩
    have hadvances := @step_advances μ options wire q dataOf h e hfits
    exact hadvances.answered.append (ih _ hadvances.sound halong)

end SendQueue

/-- **The send queue of a cluster socket is correct.** In every run of it: the bytes are those of
the queue, the limits are kept, what is resolved comes in the order in which it was sent or queued,
each call is settled at most once, and it is resolved right after its own message has left. -/
theorem sendQueue_correct {μ : Type} (options : SendQueueOptions) (wire : ℕ → SendStatus)
    (es : List (SendQueue.Event μ)) :
    let q := Machine.run (Machine.next (SendQueue.step options wire)) {} es
    let effects := Machine.outputs (SendQueue.step options wire) {} es
    let accepted := Machine.inputs (SendQueue.step options wire) (SendQueue.accepts options) {} es
    let dataOf := fun call => (es.filterMap SendQueue.Event.given)[call]?
    q.outboundQueuedBytes = SendQueue.bytesOf q.outboundQueue ∧
      q.outboundQueue.length ≤ options.maxQueueMessages ∧
      q.outboundQueuedBytes ≤ options.maxQueueBytes ∧
      accepted.Nodup ∧ (effects.filterMap SendQueue.resolved).Sublist accepted ∧
      (effects.filterMap SendQueue.settled).Nodup ∧
      SendQueue.Answered dataOf effects := by
  intro q effects accepted dataOf
  have hempty : SendQueue.Sound options dataOf ({} : SendQueue μ) :=
    ⟨rfl, Nat.zero_le _, Int.natCast_nonneg _, fun m hm => absurd hm List.not_mem_nil,
      fun call waiting hget => by simp at hget⟩
  have halong := @SendQueue.along_fits μ options wire dataOf es {} hempty fun i =>
    congrArg _ (Nat.zero_add i)
  have hinv : ∀ (q : SendQueue μ) (e : SendQueue.Event μ), q.Sound options dataOf →
      q.Fits dataOf e → (Machine.next (SendQueue.step options wire) q e).Sound options dataOf :=
    fun q e h hfits => (SendQueue.step_advances h e hfits).sound
  have hsound : q.Sound options dataOf := halong.invariant hempty hinv
  obtain ⟨n, hn⟩ := SendQueue.inputs_opens es {} hempty halong
  have hperm := Machine.outputs_perm hinv
    (fun q e h hfits => (@SendQueue.step_advances μ options wire q dataOf h e hfits).settles)
    es {} hempty halong
  have horder := Machine.outputs_sublist hinv
    (fun q e h hfits => (@SendQueue.step_advances μ options wire q dataOf h e hfits).order)
    es {} hempty halong
  refine ⟨hsound.bytes, hsound.messages_le, hsound.bytes_le,
    (SendQueue.inputs_accepts es {} hempty halong).1, ?_, ?_,
    SendQueue.answered_outputs es {} hempty halong⟩
  · exact (List.sublist_append_left _ _).trans horder
  · rw [hn] at hperm
    -- what is settled is a part of the calls that were opened, which are numbered
    have hnodup := hperm.nodup_iff.2 (List.nodup_range' (s := 0) (n := n))
    exact hnodup.of_append_left

end Hardess
