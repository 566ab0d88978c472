import Hardess.Sdk.SettledWaits

/-!
# Promises of one kind settle alike

* `PendingDelivery.Stable`: every promise is settled with what a new one of its kind would be
  settled with;
* `HardessClient.KeepsOutcomes`: the steps that overwrite no outcome: a `recvAck` finds none, or
  itself, and `close()` finds nobody waiting for a result;
* `alike_run`: along such steps, promises of one kind are settled alike;
* `not_alike_lateRecvAck`: a `recvAck` that comes after its timeout.
-/

namespace Hardess

namespace PendingDelivery

variable {pending : PendingDelivery} {event : ClientDeliveryEvent}

/-- Early promises are settled like late ones. -/
def Stable (pending : PendingDelivery) : Prop :=
  ∀ wait ∈ pending.waits, wait.settlement = pending.settlementOf wait.kind

theorem Stable.waitFor (h : pending.Stable) (kind : WaitKind) : (pending.waitFor kind).Stable := by
  intro wait hmem
  obtain hold | hnew := List.mem_append.1 hmem
  · exact h wait hold
  · rw [List.mem_singleton.1 hnew]
    rfl

theorem Stable.clearPendingTimeout (h : pending.Stable) (stage : AwaitableStage) :
    (pending.clearPendingTimeout stage).Stable := by
  cases stage <;> exact h

/-- An event that overwrites no outcome settles early promises like late ones. -/
theorem Stable.receive (h : pending.Stable) (hopen : pending.handleAckOutcome = none)
    (hkeeps : pending.KeepsOutcome event) : (pending.receive event).Stable := by
  intro wait hmem
  rw [receive_waits] at hmem
  obtain ⟨old, hold, rfl⟩ := List.mem_map.1 hmem
  rw [settlementOf_receive hopen hkeeps]
  have heq := h old hold
  by_cases hreach : event.stage.reaches old.kind = true
  · simp only [if_pos hreach, Wait.settle, heq]
  · simp only [if_neg hreach, heq]

theorem Stable.onEvent (h : pending.Stable) (hopen : pending.OpenIfListed)
    (hkeeps : pending.listed = true → pending.msgId = event.msgId →
      pending.KeepsOutcome (pending.decorateDeliveryEvent event)) :
    (pending.onEvent event).Stable := by
  unfold PendingDelivery.onEvent
  split_ifs with hmine
  · exact h.receive (hopen hmine.1).handleAckOutcome (hkeeps hmine.1 hmine.2)
  · exact h

theorem Stable.fire (h : pending.Stable) (hopen : pending.OpenIfListed) (stage : AwaitableStage)
    (now : JsNumber) : (pending.fire stage now).Stable := by
  have hclearOpen : (pending.clearPendingTimeout stage).OpenIfListed := fun hlisted =>
    (hopen (by cases stage <;> exact hlisted)).clearPendingTimeout stage
  obtain heq | heq | ⟨hnone, heq⟩ := pending.fire_cases stage now
  · rwa [heq]
  · rw [heq]
    exact h.clearPendingTimeout stage
  · rw [heq]
    refine (h.clearPendingTimeout stage).onEvent hclearOpen fun _ _ => ?_
    cases stage with
    | recvAck => exact hnone
    | handleAck => trivial

theorem settlementOf_fail (hopen : pending.handleAckOutcome = none) (error : HardessSdkError)
    (kind : WaitKind) : (pending.fail error).settlementOf kind =
      (pending.settlementOf kind).or (some (.error error)) := by
  have houtcomes : (pending.fail error).recvAckOutcome =
        pending.recvAckOutcome.or (some (.error error)) ∧
      (pending.fail error).handleAckOutcome = some (.error error) :=
    ⟨rfl, by simp [fail, clearPendingTimers, markPendingStageFailure, rejectPendingWaiters,
      settleStage, hopen]⟩
  rcases kind with (_ | _) | (_ | _) <;> rcases hrecv : pending.recvAckOutcome with _ | (_ | _) <;>
    simp [settlementOf, outcome, pendingResultSettlement, houtcomes, hopen, hrecv]

/-- `close()` settles early promises like late ones when nobody waits for a result. -/
theorem Stable.onClientClose (h : pending.Stable) (hopen : pending.OpenIfListed)
    (hresults : pending.listed = true → ∀ wait ∈ pending.waits, ∀ until_,
      wait.kind = .result until_ → wait.settlement.isSome = true) :
    pending.onClientClose.Stable := by
  unfold PendingDelivery.onClientClose
  split_ifs with hlisted
  · intro wait hmem
    obtain ⟨old, hold, rfl⟩ := mem_fail_waits.1 hmem
    have heq := h old hold
    have hlater : ∀ kind, ({ pending.fail clientClosedError with
        listed := false } : PendingDelivery).settlementOf kind =
          (pending.settlementOf kind).or (some (.error clientClosedError)) :=
      settlementOf_fail (hopen hlisted).handleAckOutcome clientClosedError
    rw [hlater]
    split_ifs with hstage
    · simp only [Wait.settle, heq]
    · -- the promise of a result has been settled before
      have hsettled : old.settlement.isSome = true := by
        rcases hkind : old.kind with (_ | _) | until_
        · exact absurd (Or.inl hkind) hstage
        · exact absurd (Or.inr hkind) hstage
        · exact hresults hlisted old hold until_ hkind
      rw [heq] at hsettled ⊢
      rw [Option.or_of_isSome hsettled]
  · exact h

end PendingDelivery

namespace HardessClient

/-- Two promises of one kind are settled alike, or both pending. -/
def Alike (client : HardessClient) : Prop :=
  ∀ pending ∈ client.sends, ∀ wait ∈ pending.waits, ∀ wait' ∈ pending.waits,
    wait.kind = wait'.kind → wait.settlement = wait'.settlement

/-- A step that overwrites no outcome: a `recvAck` finds none, or the one that it leads to, and
`close()` finds nobody waiting for a result. -/
def KeepsOutcomes (client : HardessClient) : ClientEvent → Prop
  | .message (.recvAck payload traceId) => ∀ pending ∈ client.sends, pending.listed = true →
    pending.msgId = payload.ackFor → ∀ outcome, pending.recvAckOutcome = some outcome →
      outcome = .ok (pending.decorateDeliveryEvent
        { stage := .recvAck payload, msgId := payload.ackFor, traceId })
  | .close => ∀ pending ∈ client.sends, pending.listed = true → ∀ wait ∈ pending.waits,
    ∀ until_, wait.kind = .result until_ → wait.settlement.isSome = true
  | _ => True

/-- The invariant of the sends: listed ones are open, and all are stable. -/
structure Sound (client : HardessClient) : Prop where
  openIfListed : ∀ pending ∈ client.sends, pending.OpenIfListed
  stable : ∀ pending ∈ client.sends, pending.Stable

theorem Sound.alike {client : HardessClient} (h : client.Sound) : client.Alike := by
  intro pending hmem wait hwait wait' hwait' hkind
  rw [h.stable pending hmem wait hwait, h.stable pending hmem wait' hwait', hkind]

theorem Sound.step {client : HardessClient} (h : client.Sound) (e : ClientEvent)
    (hkeeps : client.KeepsOutcomes e) : (client.step e).Sound := by
  refine ⟨openIfListed_step client e h.openIfListed, forall_sends_step (fun pending hmem => ?_) ?_⟩
  · have hp := h.openIfListed pending hmem
    have hs := h.stable pending hmem
    refine effect_induction client e pending hs hs.waitFor ?_ (hs.fire hp) ?_ ?_
    · rintro message event rfl hevent
      refine hs.onEvent hp fun hlisted hid => ?_
      have hstages := deliveryEvent_stage hevent
      have hstage : (pending.decorateDeliveryEvent event).stage = event.stage := rfl
      unfold PendingDelivery.KeepsOutcome
      rw [hstage]
      split
      · rename_i payload hrecv
        obtain ⟨traceId, rfl⟩ := hstages.1 payload hrecv
        obtain rfl := Option.some.inj hevent
        exact hkeeps pending hmem hlisted hid
      · rename_i timeout htimeout
        exact absurd htimeout (hstages.2.2 timeout)
      · trivial
    · exact fun info => hs.onEvent hp fun _ _ => trivial
    · rintro rfl
      exact hs.onClientClose hp (hkeeps pending hmem)
  · intro pending hmem
    obtain ⟨msgId, input, now, rfl | ⟨kind, rfl⟩⟩ := created_cases hmem
    · exact fun wait hwait => absurd hwait List.not_mem_nil
    · have hnew : (client.createPendingDelivery msgId input now).Stable := fun wait hwait =>
        absurd hwait List.not_mem_nil
      exact hnew.waitFor kind

/-- **Outcomes are stable**: along steps that overwrite none, two promises of one kind are settled
alike in every state, no matter when they were requested. -/
theorem alike_run (options : DeliveryTimeoutPolicy) (es : List ClientEvent)
    (h : Machine.Along step KeepsOutcomes { deliveryTimeoutMs := options } es) :
    ∀ pre post, es = pre ++ post →
      (Machine.run step { deliveryTimeoutMs := options } pre).Alike := by
  rintro pre post rfl
  have hnew : Sound { deliveryTimeoutMs := options } :=
    ⟨fun _ hmem => absurd hmem List.not_mem_nil, fun _ hmem => absurd hmem List.not_mem_nil⟩
  have hsound := (Machine.along_append.1 h).1.invariant hnew fun _ e hs hkeeps => hs.step e hkeeps
  exact hsound.alike

/-- A message that is acknowledged twice, and handled, while its first stage is awaited. -/
def acknowledged : List ClientEvent :=
  oneSend .handleAck ++
    [.waitFor (js "m1") (.stage .recvAck),
     .message (.recvAck ⟨js "m1", .ofNat 1⟩ none),
     .message (.recvAck ⟨js "m1", .ofNat 1⟩ none),
     .waitFor (js "m1") (.stage .recvAck),
     .message (.handleAck ⟨js "m1", .ofNat 2⟩ none),
     .waitFor (js "m1") (.result .handleAck)]

theorem alike_acknowledged : (Machine.run step {} acknowledged).Alike := by
  refine alike_run {} acknowledged ?_ acknowledged [] (List.append_nil _).symm
  refine ⟨trivial, trivial, trivial, trivial, trivial, ?_, ?_, trivial, trivial, trivial, trivial⟩
  · intro pending hmem _ _ outcome houtcome
    obtain rfl := List.mem_singleton.1 hmem
    cases houtcome
  · intro pending hmem _ _ outcome houtcome
    obtain rfl := List.mem_singleton.1 hmem
    exact (Option.some.inj houtcome).symm

/-- Which promises have been resolved, and which rejected. -/
def verdicts (client : HardessClient) : List (List (WaitKind × Option Bool)) :=
  client.sends.map fun pending => pending.waits.map fun wait =>
    (wait.kind, wait.settlement.map Except.isOk)

theorem Alike.verdicts {client : HardessClient} (h : client.Alike) :
    ∀ waits ∈ client.verdicts, ∀ v ∈ waits, ∀ v' ∈ waits, v.1 = v'.1 → v.2 = v'.2 := by
  intro waits hmem v hv v' hv' hkind
  obtain ⟨pending, hpending, rfl⟩ := List.mem_map.1 hmem
  obtain ⟨wait, hwait, rfl⟩ := List.mem_map.1 hv
  obtain ⟨wait', hwait', rfl⟩ := List.mem_map.1 hv'
  exact congrArg (Option.map Except.isOk) (h pending hpending wait hwait wait' hwait' hkind)

/-- The first promise is rejected by the timeout; the second one resolves with the `recvAck` that
came after it. -/
theorem not_alike_lateRecvAck : ¬(Machine.run step {} (oneSend .handleAck ++
    [.waitFor (js "m1") (.stage .recvAck),
     .timer (js "m1") .recvAck (.ofNat 5000),
     .message (.recvAck ⟨js "m1", .ofNat 5001⟩ none),
     .waitFor (js "m1") (.stage .recvAck)])).Alike := by
  intro h
  have hverdicts := h.verdicts
  revert hverdicts
  decide +kernel

end HardessClient

end Hardess
