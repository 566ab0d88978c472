import Hardess.Sdk.HardessClient

/-!
# What a delivery event settles

* `DeliveryStage.reaches`: which promises an event of a stage settles, and
  `ClientDeliveryEvent.settlement`: with what;
* `receive_waits`: these promises are settled, and no others;
* `settlementOf_receive`: what promises that are requested later are settled with, when the event
  overwrites no outcome;
* `Open`: what holds of a send as long as it is listed.
-/

namespace Hardess

/-- Does an event of this stage settle a promise of this kind? -/
def DeliveryStage.reaches : DeliveryStage → WaitKind → Bool
  | .route _, _ => false
  | .recvAck _, kind => kind = .stage .recvAck ∨ kind = .result .recvAck
  | .recvAckTimeout _, kind => kind ≠ .stage .handleAck
  | .handleAck _, kind => kind = .stage .handleAck ∨ kind = .result .handleAck
  | _, _ => true

/-- Does an event of this stage end the delivery? -/
def DeliveryStage.ends : DeliveryStage → Bool
  | .route _ | .recvAck _ | .recvAckTimeout _ => false
  | _ => true

/-- What an event settles promises with. -/
def ClientDeliveryEvent.settlement (event : ClientDeliveryEvent) : Settlement :=
  ((deliveryFailureError event).map Except.error).getD (.ok event)

@[simp] theorem Wait.settle_kind (wait : Wait) (settlement : Settlement) :
    (wait.settle settlement).kind = wait.kind := rfl

theorem Wait.isSome_settle (wait : Wait) (settlement : Settlement) :
    (wait.settle settlement).settlement.isSome = true := by
  cases hw : wait.settlement <;> simp [Wait.settle, hw]

namespace PendingDelivery

variable {pending : PendingDelivery} {event : ClientDeliveryEvent}

/-- **Exactly the promises that an event reaches are settled by it.** -/
theorem receive_waits (pending : PendingDelivery) (event : ClientDeliveryEvent) :
    (pending.receive event).waits = pending.waits.map fun wait =>
      if event.stage.reaches wait.kind then wait.settle event.settlement else wait := by
  obtain ⟨stage, msgId, traceId, protocol, version, action⟩ := event
  cases stage <;>
    simp only [receive, notifyListeners, settleStage, clearPendingTimeout, clearPendingTimers, fail,
      markPendingStageFailure, rejectPendingWaiters, deliveryFailureError, Option.map_some,
      Option.getD_some, List.map_map, ClientDeliveryEvent.settlement, Option.map_none,
      Option.getD_none] <;>
    refine List.map_congr_left fun wait _ => ?_ <;>
    obtain ⟨kind, settlement⟩ := wait <;>
    rcases kind with (_ | _) | (_ | _) <;>
    simp [notify, isResultSuccessEvent, deliveryFailureError, DeliveryStage.reaches, Wait.settle]

/-- The event overwrites no outcome. -/
def KeepsOutcome (pending : PendingDelivery) (event : ClientDeliveryEvent) : Prop :=
  match event.stage with
  | .recvAck _ => ∀ outcome, pending.recvAckOutcome = some outcome → outcome = .ok event
  | .recvAckTimeout _ => pending.recvAckOutcome = none
  | _ => True

/-- The outcomes are written by the events that settle those who wait for their stages. -/
theorem outcome_receive (hopen : pending.handleAckOutcome = none) (h : pending.KeepsOutcome event)
    (stage : AwaitableStage) :
    (pending.receive event).outcome stage =
      if event.stage.reaches (.stage stage) then
        (pending.outcome stage).or (some event.settlement)
      else pending.outcome stage := by
  obtain ⟨eventStage, msgId, traceId, protocol, version, action⟩ := event
  cases eventStage <;> rcases hrecv : pending.recvAckOutcome with _ | _ <;> cases stage <;>
    simp_all [KeepsOutcome, receive, notifyListeners, settleStage, clearPendingTimeout,
      clearPendingTimers, fail, markPendingStageFailure, rejectPendingWaiters, deliveryFailureError,
      ClientDeliveryEvent.settlement, DeliveryStage.reaches, outcome]

/-- **Later promises are settled like the ones that the event settles.** -/
theorem settlementOf_receive (hopen : pending.handleAckOutcome = none)
    (h : pending.KeepsOutcome event) (kind : WaitKind) :
    (pending.receive event).settlementOf kind =
      if event.stage.reaches kind then (pending.settlementOf kind).or (some event.settlement)
      else pending.settlementOf kind := by
  have hrecv := outcome_receive hopen h .recvAck
  have hhandle := outcome_receive hopen h .handleAck
  cases kind with
  | stage stage => exact outcome_receive hopen h stage
  | result until_ =>
    cases until_ with
    | recvAck =>
      have hsame : event.stage.reaches (.result .recvAck) =
          event.stage.reaches (.stage .recvAck) := by
        cases event.stage <;> rfl
      rw [hsame]
      exact hrecv
    | handleAck =>
      -- an error of the first stage comes before the outcome of the second one
      simp only [outcome] at hrecv hhandle
      simp only [settlementOf, pendingResultSettlement, hrecv, hhandle, hopen]
      obtain ⟨eventStage, msgId, traceId, protocol, version, action⟩ := event
      cases eventStage <;> rcases hold : pending.recvAckOutcome with _ | (_ | _) <;>
        simp_all [KeepsOutcome, DeliveryStage.reaches, ClientDeliveryEvent.settlement,
          deliveryFailureError]

/-! ### Listed sends -/

/-- What holds of a send as long as it is listed: it has not been handled, and nobody waits for what
is there. -/
structure Open (pending : PendingDelivery) : Prop where
  handleAckOutcome : pending.handleAckOutcome = none
  served : ∀ wait ∈ pending.waits, (pending.settlementOf wait.kind).isSome = true →
    wait.settlement.isSome = true

/-- What is there after an event was there before, or the event has settled it. -/
theorem isSome_settlementOf_receive (hopen : pending.handleAckOutcome = none) {kind : WaitKind}
    (h : ((pending.receive event).settlementOf kind).isSome = true) :
    event.stage.reaches kind = true ∨ (pending.settlementOf kind).isSome = true := by
  obtain ⟨stage, msgId, traceId, protocol, version, action⟩ := event
  cases stage <;> rcases hrecv : pending.recvAckOutcome with _ | (_ | _) <;>
    rcases kind with (_ | _) | (_ | _) <;>
    simp_all [receive, notifyListeners, settleStage, clearPendingTimeout, clearPendingTimers, fail,
      markPendingStageFailure, rejectPendingWaiters, deliveryFailureError, DeliveryStage.reaches,
      settlementOf, outcome, pendingResultSettlement]

/-- Nobody waits for what is there after an event. -/
theorem Open.served_receive (h : pending.Open) (event : ClientDeliveryEvent) :
    ∀ wait ∈ (pending.receive event).waits,
      ((pending.receive event).settlementOf wait.kind).isSome = true →
        wait.settlement.isSome = true := by
  rw [receive_waits]
  intro wait hmem hsome
  obtain ⟨old, hold, rfl⟩ := List.mem_map.1 hmem
  by_cases hreach : event.stage.reaches old.kind = true
  · rw [if_pos hreach]
    exact old.isSome_settle event.settlement
  · rw [if_neg hreach] at hsome ⊢
    exact h.served old hold
      ((isSome_settlementOf_receive h.handleAckOutcome hsome).resolve_left hreach)

theorem handleAckOutcome_receive (h : pending.handleAckOutcome = none)
    (hends : event.stage.ends = false) : (pending.receive event).handleAckOutcome = none := by
  obtain ⟨stage, msgId, traceId, protocol, version, action⟩ := event
  cases stage with
  | route | recvAck | recvAckTimeout => exact h
  | _ => simp [DeliveryStage.ends] at hends

theorem listed_receive (pending : PendingDelivery) (event : ClientDeliveryEvent) :
    (pending.receive event).listed = (pending.listed && !event.stage.ends) := by
  obtain ⟨stage, msgId, traceId, protocol, version, action⟩ := event
  cases stage <;> simp [receive, notifyListeners, settleStage, clearPendingTimeout,
    clearPendingTimers, DeliveryStage.ends]

/-- A send that is still listed after an event is still open. -/
theorem Open.receive (h : pending.Open) (event : ClientDeliveryEvent)
    (hends : event.stage.ends = false) : (pending.receive event).Open :=
  ⟨handleAckOutcome_receive h.handleAckOutcome hends, h.served_receive event⟩

theorem Open.waitFor (h : pending.Open) (kind : WaitKind) : (pending.waitFor kind).Open := by
  refine ⟨h.handleAckOutcome, fun wait hmem hsome => ?_⟩
  obtain hold | hnew := List.mem_append.1 hmem
  · exact h.served wait hold hsome
  · rw [List.mem_singleton.1 hnew] at hsome ⊢
    exact hsome

theorem Open.clearPendingTimeout (h : pending.Open) (stage : AwaitableStage) :
    (pending.clearPendingTimeout stage).Open := by
  cases stage <;> exact ⟨h.handleAckOutcome, h.served⟩

/-- Either a timer does nothing but stop, or its stage has no outcome and it reports a timeout. -/
theorem fire_cases (pending : PendingDelivery) (stage : AwaitableStage) (now : JsNumber) :
    pending.fire stage now = pending ∨
      pending.fire stage now = pending.clearPendingTimeout stage ∨
      (pending.clearPendingTimeout stage).outcome stage = none ∧ pending.fire stage now =
        (pending.clearPendingTimeout stage).onEvent
          ((pending.clearPendingTimeout stage).timeoutEvent stage now) := by
  unfold fire handlePendingTimeout
  split_ifs with htimer hdone
  · exact Or.inr (Or.inl rfl)
  · rw [not_or, Bool.not_eq_true, Option.isSome_eq_false_iff, Option.isNone_iff_eq_none] at hdone
    exact Or.inr (Or.inr ⟨hdone.1, rfl⟩)
  · exact Or.inl rfl

/-- What is listed is open. -/
def OpenIfListed (pending : PendingDelivery) : Prop := pending.listed = true → pending.Open

theorem OpenIfListed.onEvent (h : pending.OpenIfListed) (event : ClientDeliveryEvent) :
    (pending.onEvent event).OpenIfListed := by
  unfold PendingDelivery.onEvent
  split_ifs with hmine
  · intro hlisted
    rw [listed_receive, Bool.and_eq_true, Bool.not_eq_true'] at hlisted
    exact (h hmine.1).receive _ hlisted.2
  · exact h

theorem OpenIfListed.fire (h : pending.OpenIfListed) (stage : AwaitableStage) (now : JsNumber) :
    (pending.fire stage now).OpenIfListed := by
  have hclear : (pending.clearPendingTimeout stage).OpenIfListed := fun hlisted =>
    (h (by cases stage <;> exact hlisted)).clearPendingTimeout stage
  obtain heq | heq | ⟨_, heq⟩ := pending.fire_cases stage now
  · rwa [heq]
  · rwa [heq]
  · rw [heq]
    exact hclear.onEvent _

theorem OpenIfListed.onClientClose (h : pending.OpenIfListed) :
    pending.onClientClose.OpenIfListed := by
  unfold PendingDelivery.onClientClose
  split_ifs
  · exact fun hlisted => Bool.noConfusion hlisted
  · exact h

end PendingDelivery

/-! ### Steps of a client -/

namespace HardessClient

/-- What a step does to a send. -/
def effect (client : HardessClient) : ClientEvent → PendingDelivery → PendingDelivery
  | .message message => fun pending =>
    ((client.deliveryEvent message).map pending.onEvent).getD pending
  | .send msgId _ until_ _ => fun pending =>
    if client.readyState = .ready ∧ pending.msgId = msgId then
      pending.waitFor (.result (until_.getD .handleAck))
    else pending
  | .waitFor msgId kind => fun pending =>
    if pending.msgId = msgId then pending.waitFor kind else pending
  | .timer msgId stage now => fun pending =>
    if pending.msgId = msgId then pending.fire stage now else pending
  | .transportClosed info => fun pending => pending.onEvent (pending.transportClosedEvent info)
  | .close => fun pending => pending.onClientClose
  | .connect | .opened | .emitTracked .. => id

/-- The sends that a step creates. -/
def created (client : HardessClient) : ClientEvent → List PendingDelivery
  | .emitTracked msgId input now =>
    if client.readyState = .ready then [client.createPendingDelivery msgId input now] else []
  | .send msgId input until_ now =>
    if client.readyState = .ready then
      [(client.createPendingDelivery msgId input now).waitFor (.result (until_.getD .handleAck))]
    else []
  | _ => []

/-- **What a step does to the sends.** -/
theorem sends_step (client : HardessClient) (e : ClientEvent) :
    (client.step e).sends = client.sends.map (client.effect e) ++ client.created e := by
  cases e with
  | message message =>
    cases hevent : client.deliveryEvent message with
    | some event => simp [step, onMessage, effect, created, hevent, emitDeliveryEvent]
    | none => cases message <;> simp [step, onMessage, effect, created, hevent]
  | emitTracked msgId input now =>
    by_cases hready : client.readyState = .ready <;>
      simp [step, emitTracked, effect, created, hready]
  | send msgId input until_ now =>
    by_cases hready : client.readyState = .ready <;>
      simp [step, emitTracked, waitFor, effect, created, hready, createPendingDelivery]
  | _ => simp [step, waitFor, effect, created]

/-- What a step can do to a send, as a rule. -/
theorem effect_induction {P : PendingDelivery → Prop} (client : HardessClient) (e : ClientEvent)
    (pending : PendingDelivery) (hsame : P pending) (hwait : ∀ kind, P (pending.waitFor kind))
    (hmessage : ∀ message event, e = .message message →
      client.deliveryEvent message = some event → P (pending.onEvent event))
    (hfire : ∀ stage now, P (pending.fire stage now))
    (hclosed : ∀ info, P (pending.onEvent (pending.transportClosedEvent info)))
    (hclose : e = .close → P pending.onClientClose) : P (client.effect e pending) := by
  cases e with
  | message message =>
    cases hevent : client.deliveryEvent message with
    | none => simpa [effect, hevent] using hsame
    | some event => simpa [effect, hevent] using hmessage message event rfl hevent
  | send msgId input until_ now =>
    simp only [effect]
    split_ifs
    · exact hwait _
    · exact hsame
  | waitFor msgId kind =>
    simp only [effect]
    split_ifs
    · exact hwait kind
    · exact hsame
  | timer msgId stage now =>
    simp only [effect]
    split_ifs
    · exact hfire stage now
    · exact hsame
  | transportClosed info => exact hclosed info
  | close => exact hclose rfl
  | connect | opened | emitTracked => exact hsame

/-- An invariant of sends: it holds of those that are created, and survives what a step does. -/
theorem forall_sends_step {P : PendingDelivery → Prop} {client : HardessClient} {e : ClientEvent}
    (heffect : ∀ pending ∈ client.sends, P (client.effect e pending))
    (hcreated : ∀ pending ∈ client.created e, P pending) :
    ∀ pending ∈ (client.step e).sends, P pending := by
  intro pending hmem
  rw [sends_step, List.mem_append, List.mem_map] at hmem
  obtain ⟨old, hold, rfl⟩ | hnew := hmem
  · exact heffect old hold
  · exact hcreated pending hnew

/-- A created send is new, or new and waited for. -/
theorem created_cases {client : HardessClient} {e : ClientEvent} {pending : PendingDelivery}
    (h : pending ∈ client.created e) : ∃ msgId input now,
      pending = client.createPendingDelivery msgId input now ∨
        ∃ kind, pending = (client.createPendingDelivery msgId input now).waitFor kind := by
  unfold created at h
  split at h
  · split_ifs at h
    · exact ⟨_, _, _, Or.inl (List.mem_singleton.1 h)⟩
    · exact absurd h List.not_mem_nil
  · split_ifs at h
    · exact ⟨_, _, _, Or.inr ⟨_, List.mem_singleton.1 h⟩⟩
    · exact absurd h List.not_mem_nil
  · exact absurd h List.not_mem_nil

/-- A created send is open. -/
theorem open_of_mem_created {client : HardessClient} {e : ClientEvent} {pending : PendingDelivery}
    (h : pending ∈ client.created e) : pending.Open := by
  have hnew : ∀ msgId input now, (client.createPendingDelivery msgId input now).Open :=
    fun msgId input now => ⟨rfl, fun _ hmem => absurd hmem List.not_mem_nil⟩
  obtain ⟨msgId, input, now, rfl | ⟨kind, rfl⟩⟩ := created_cases h
  · exact hnew msgId input now
  · exact (hnew msgId input now).waitFor kind

/-- **Listed sends stay open** in every step. -/
theorem openIfListed_step (client : HardessClient) (e : ClientEvent)
    (h : ∀ pending ∈ client.sends, pending.OpenIfListed) :
    ∀ pending ∈ (client.step e).sends, pending.OpenIfListed := by
  refine forall_sends_step (fun pending hmem => ?_) fun pending hmem _ => open_of_mem_created hmem
  have hpending := h pending hmem
  refine effect_induction client e pending hpending ?_ ?_ ?_ ?_ ?_
  · exact fun kind hlisted => (hpending hlisted).waitFor kind
  · exact fun _ event _ _ => hpending.onEvent event
  · exact hpending.fire
  · exact fun info => hpending.onEvent _
  · exact fun _ => hpending.onClientClose

/-- The message that an event comes from. -/
theorem deliveryEvent_stage {client : HardessClient} {message : ClientMessage}
    {event : ClientDeliveryEvent} (h : client.deliveryEvent message = some event) :
    (∀ payload, event.stage = .recvAck payload → ∃ traceId, message = .recvAck payload traceId) ∧
      (∀ payload, event.stage = .handleAck payload →
        ∃ traceId, message = .handleAck payload traceId) ∧
      ∀ timeout, event.stage ≠ .recvAckTimeout timeout := by
  cases message with
  | authOk => simp [deliveryEvent] at h
  | recvAck payload traceId =>
    obtain rfl := Option.some.inj h
    simp
  | handleAck payload traceId =>
    obtain rfl := Option.some.inj h
    simp
  | route payload traceId | err payload traceId | rejected layer envelope message =>
    obtain ⟨msgId, -, rfl⟩ := Option.map_eq_some_iff.1 h
    simp

end HardessClient

end Hardess
