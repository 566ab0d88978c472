import Hardess.Lib.Machine
import Hardess.Sdk.Deliveries

/-!
# Every promise of a send settles

* `PendingDelivery.Done`: when a send has left the table, its promises are settled, and later ones
  are settled at once;
* `HardessClient.KeepsPromises`: the steps that keep that up: a `handleAck` comes after the first
  stage has its outcome, and `close()` finds nobody waiting for a result;
* `allDone_iff`: in every state of a run the promises are settled exactly when its steps are such;
* `not_allDone_close`: a client that is closed while a result is awaited.
-/

namespace Hardess

namespace PendingDelivery

variable {pending : PendingDelivery} {event : ClientDeliveryEvent}

/-- A send that has left the table: no promise is pending, and none will be. -/
def Done (pending : PendingDelivery) : Prop :=
  pending.listed = false → (∀ wait ∈ pending.waits, wait.settlement.isSome = true) ∧
    ∀ kind, (pending.settlementOf kind).isSome = true

theorem Done.waitFor (h : pending.Done) (kind : WaitKind) : (pending.waitFor kind).Done := by
  intro hlisted
  obtain ⟨hwaits, hlater⟩ := h hlisted
  refine ⟨fun wait hmem => ?_, hlater⟩
  obtain hold | hnew := List.mem_append.1 hmem
  · exact hwaits wait hold
  · rw [List.mem_singleton.1 hnew]
    exact hlater kind

/-- Both stages have an outcome exactly when every later promise is settled at once. -/
theorem isSome_settlementOf_iff : (∀ kind, (pending.settlementOf kind).isSome = true) ↔
    pending.recvAckOutcome.isSome = true ∧ pending.handleAckOutcome.isSome = true := by
  constructor
  · intro h
    exact ⟨h (.stage .recvAck), h (.stage .handleAck)⟩
  · rintro ⟨hrecv, hhandle⟩ kind
    rcases hold : pending.recvAckOutcome with _ | (_ | _)
    · simp [hold] at hrecv
    · rcases kind with (_ | _) | (_ | _) <;>
        simp [settlementOf, outcome, pendingResultSettlement, hold, hhandle]
    · rcases kind with (_ | _) | (_ | _) <;>
        simp [settlementOf, outcome, pendingResultSettlement, hold, hhandle]

/-- The outcomes that an event leaves behind when it ends a delivery. -/
theorem outcomes_receive_of_ends (hends : event.stage.ends = true) :
    (pending.receive event).handleAckOutcome.isSome = true ∧
      ((pending.receive event).recvAckOutcome.isSome = true ↔
        ∀ payload, event.stage = .handleAck payload → pending.recvAckOutcome.isSome = true) := by
  obtain ⟨stage, msgId, traceId, protocol, version, action⟩ := event
  cases stage with
  | route | recvAck | recvAckTimeout => exact absurd hends (by simp [DeliveryStage.ends])
  | handleAck payload =>
    refine ⟨rfl, fun h _ _ => h, fun h => h payload rfl⟩
  | _ =>
    rcases hrecv : pending.recvAckOutcome <;> rcases hhandle : pending.handleAckOutcome <;>
      simp [receive, notifyListeners, fail, clearPendingTimers, markPendingStageFailure,
        rejectPendingWaiters, settleStage, deliveryFailureError, hrecv, hhandle]

/-- When an event ends an open delivery, everything is settled, unless the delivery is handled
before its first stage has an outcome. -/
theorem Open.done_receive (h : pending.Open) (hends : event.stage.ends = true) :
    (pending.receive event).Done ↔
      ∀ payload, event.stage = .handleAck payload → pending.recvAckOutcome.isSome = true := by
  have hlisted : (pending.receive event).listed = false := by
    rw [listed_receive, hends]
    exact Bool.and_false _
  obtain ⟨hhandle, hrecv⟩ := @outcomes_receive_of_ends pending event hends
  constructor
  · intro hdone
    exact hrecv.1 (isSome_settlementOf_iff.1 (hdone hlisted).2).1
  · intro hcond _
    have hlater := isSome_settlementOf_iff.2 ⟨hrecv.2 hcond, hhandle⟩
    exact ⟨fun wait hmem => h.served_receive event wait hmem (hlater wait.kind), hlater⟩

theorem done_onEvent (hopen : pending.OpenIfListed) (hdone : pending.Done)
    (event : ClientDeliveryEvent) : (pending.onEvent event).Done ↔
      (pending.listed = true → pending.msgId = event.msgId → ∀ payload,
        event.stage = .handleAck payload → pending.recvAckOutcome.isSome = true) := by
  unfold PendingDelivery.onEvent
  split_ifs with hmine
  · have hstage : (pending.decorateDeliveryEvent event).stage = event.stage := rfl
    cases hends : event.stage.ends with
    | true =>
      rw [(hopen hmine.1).done_receive (by rw [hstage, hends])]
      exact ⟨fun h _ _ => h, fun h => h hmine.1 hmine.2⟩
    | false =>
      refine iff_of_true (fun hlisted => ?_) fun _ _ payload hhandle => ?_
      · rw [listed_receive, hstage, hends, hmine.1] at hlisted
        exact Bool.noConfusion hlisted
      · rw [hhandle] at hends
        exact Bool.noConfusion hends
  · exact iff_of_true hdone fun hlisted hid => absurd ⟨hlisted, hid⟩ hmine

/-- Failing settles those who wait for a stage, and nobody else. -/
theorem mem_fail_waits {error : HardessSdkError} {wait : Wait} :
    wait ∈ (pending.fail error).waits ↔ ∃ old ∈ pending.waits,
      wait = if old.kind = .stage .recvAck ∨ old.kind = .stage .handleAck then
        old.settle (.error error) else old := by
  simp only [fail, clearPendingTimers, markPendingStageFailure, rejectPendingWaiters, settleStage,
    List.map_map, List.mem_map]
  refine exists_congr fun old => and_congr_right fun _ => ?_
  rw [eq_comm]
  rcases hkind : old.kind with (_ | _) | _ <;> simp [hkind]

theorem outcomes_fail (error : HardessSdkError) :
    (pending.fail error).recvAckOutcome.isSome = true ∧
      (pending.fail error).handleAckOutcome.isSome = true := by
  rcases hrecv : pending.recvAckOutcome <;> rcases hhandle : pending.handleAckOutcome <;>
    simp [fail, clearPendingTimers, markPendingStageFailure, rejectPendingWaiters, settleStage,
      hrecv, hhandle]

/-- `close()` leaves exactly those behind who wait for a result. -/
theorem done_onClientClose (hdone : pending.Done) :
    pending.onClientClose.Done ↔ (pending.listed = true → ∀ wait ∈ pending.waits, ∀ until_,
      wait.kind = .result until_ → wait.settlement.isSome = true) := by
  unfold PendingDelivery.onClientClose
  split_ifs with hlisted
  · have hlater : ∀ kind, (({ pending.fail clientClosedError with
        listed := false } : PendingDelivery).settlementOf kind).isSome = true :=
      isSome_settlementOf_iff.2 (outcomes_fail clientClosedError)
    constructor
    · intro h _ wait hmem until_ hkind
      refine (h rfl).1 wait (mem_fail_waits.2 ⟨wait, hmem, ?_⟩)
      simp [hkind]
    · intro h _
      refine ⟨fun wait hmem => ?_, hlater⟩
      obtain ⟨old, hold, rfl⟩ := mem_fail_waits.1 hmem
      rcases hkind : old.kind with (_ | _) | until_
      · simp [old.isSome_settle]
      · simp [old.isSome_settle]
      · simpa using h hlisted old hold until_ hkind
  · exact iff_of_true hdone fun h => absurd h hlisted

/-- A timer does not end a delivery by a `handleAck`. -/
theorem Done.fire (hopen : pending.OpenIfListed) (hdone : pending.Done) (stage : AwaitableStage)
    (now : JsNumber) : (pending.fire stage now).Done := by
  have hclear : (pending.clearPendingTimeout stage).Done := by
    cases stage <;> exact hdone
  have hclearOpen : (pending.clearPendingTimeout stage).OpenIfListed := fun hlisted =>
    (hopen (by cases stage <;> exact hlisted)).clearPendingTimeout stage
  obtain heq | heq | ⟨_, heq⟩ := pending.fire_cases stage now
  · rwa [heq]
  · rwa [heq]
  · rw [heq, done_onEvent hclearOpen hclear]
    intro _ _ payload hstage
    cases stage <;> cases hstage

end PendingDelivery

namespace HardessClient

/-! ### Runs -/

/-- Every send that has left the table is done. -/
def AllDone (client : HardessClient) : Prop := ∀ pending ∈ client.sends, pending.Done

/-- A step after which nobody waits in vain: a `handleAck` finds the outcome of the first stage, and
`close()` finds nobody waiting for a result. -/
def KeepsPromises (client : HardessClient) : ClientEvent → Prop
  | .message (.handleAck payload _) => ∀ pending ∈ client.sends, pending.listed = true →
    pending.msgId = payload.ackFor → pending.recvAckOutcome.isSome = true
  | .close => ∀ pending ∈ client.sends, pending.listed = true → ∀ wait ∈ pending.waits,
    ∀ until_, wait.kind = .result until_ → wait.settlement.isSome = true
  | _ => True

theorem done_of_mem_created {client : HardessClient} {e : ClientEvent} {pending : PendingDelivery}
    (h : pending ∈ client.created e) : pending.Done := by
  obtain ⟨msgId, input, now, rfl | ⟨kind, rfl⟩⟩ := created_cases h
  · exact fun hlisted => Bool.noConfusion hlisted
  · exact fun hlisted => Bool.noConfusion hlisted

theorem allDone_step_iff {client : HardessClient} (e : ClientEvent)
    (hopen : ∀ pending ∈ client.sends, pending.OpenIfListed) (hdone : client.AllDone) :
    (client.step e).AllDone ↔ client.KeepsPromises e := by
  have hiff : (client.step e).AllDone ↔
      ∀ pending ∈ client.sends, (client.effect e pending).Done := by
    refine ⟨fun h pending hmem => h _ ?_, fun h => forall_sends_step h fun _ => done_of_mem_created⟩
    rw [sends_step]
    exact List.mem_append_left _ (List.mem_map_of_mem hmem)
  rw [hiff]
  -- the two steps that can leave somebody behind
  by_cases hack : ∃ payload traceId, e = .message (.handleAck payload traceId)
  · obtain ⟨payload, traceId, rfl⟩ := hack
    refine forall₂_congr fun pending hmem => ?_
    rw [show client.effect (.message (.handleAck payload traceId)) pending =
      pending.onEvent { stage := .handleAck payload, msgId := payload.ackFor, traceId } from rfl,
      PendingDelivery.done_onEvent (hopen pending hmem) (hdone pending hmem)]
    exact forall₂_congr fun _ _ => ⟨fun h => h payload rfl, fun h _ _ => h⟩
  by_cases hclose : e = .close
  · obtain rfl := hclose
    exact forall₂_congr fun pending hmem =>
      PendingDelivery.done_onClientClose (hdone pending hmem)
  have hkeeps : client.KeepsPromises e := by
    unfold KeepsPromises
    split
    · exact absurd ⟨_, _, rfl⟩ hack
    · exact absurd rfl hclose
    · trivial
  refine iff_of_true (fun pending hmem => ?_) hkeeps
  have hp := hopen pending hmem
  have hd := hdone pending hmem
  refine effect_induction client e pending hd hd.waitFor ?_ (hd.fire hp) ?_ fun h => absurd h hclose
  · intro message event he hevent
    refine (PendingDelivery.done_onEvent hp hd event).2 fun _ _ payload hstage => ?_
    obtain ⟨traceId, rfl⟩ := (deliveryEvent_stage hevent).2.1 payload hstage
    exact absurd ⟨payload, traceId, he⟩ hack
  · intro info
    refine (PendingDelivery.done_onEvent hp hd _).2 fun _ _ payload hstage => ?_
    cases hstage

/-- **Promises settle exactly when every step keeps them**: in each state of a run of a new client,
the promises of the sends that have left the table are settled, and later ones are settled at
once. -/
theorem allDone_iff (options : DeliveryTimeoutPolicy) (es : List ClientEvent) :
    (∀ pre post, es = pre ++ post →
      (Machine.run step { deliveryTimeoutMs := options } pre).AllDone) ↔
    Machine.Along step KeepsPromises { deliveryTimeoutMs := options } es :=
  Machine.prefixes_iff_along es (fun _ hmem => absurd hmem List.not_mem_nil)
    (fun _ hmem => absurd hmem List.not_mem_nil) openIfListed_step
    fun _ e hopen hdone => allDone_step_iff e hopen hdone

/-- A client that is ready sends a message. -/
def oneSend (until_ : AwaitableStage) : List ClientEvent :=
  [.connect, .opened, .message .authOk,
   .send (js "m1") ⟨js "demo", js "1.0", js "send", none, none, none⟩ (some until_) (.ofNat 0)]

/-- `close()` does not settle the promise of a send, and a `handleAck` that comes first does not
settle that of a send until its `recvAck`. -/
theorem not_allDone_close :
    ¬(Machine.run step {} (oneSend .handleAck ++ [.close])).AllDone ∧
    ¬(Machine.run step {} (oneSend .recvAck ++
      [.message (.handleAck ⟨js "m1", .ofNat 1⟩ none)])).AllDone := by
  constructor
  · intro h
    exact Bool.noConfusion ((h _ List.mem_cons_self rfl).1 _ List.mem_cons_self)
  · intro h
    exact Bool.noConfusion ((h _ List.mem_cons_self rfl).1 _ List.mem_cons_self)

end HardessClient

end Hardess
