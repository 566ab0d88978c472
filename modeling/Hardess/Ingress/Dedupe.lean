import Hardess.Ingress.FanOut
import Hardess.Ingress.Registrations

/-!
# Relayed requests that come twice

`deliverCluster` looks for a mark of the message id before it serves a request, and leaves one when
it has reached somebody.

* `Delivery`, `upcoming`: a request that is served, and where its loop comes to;
* `enqueued_iff_takes`: when the target of a request gets the envelope;
* `Ledger`: the runtime with a record of the requests that were admitted and of the turns of their
  targets;
* `Recorded`: the record says which queues took an envelope;
* `Once`, `Unsuppressed`: what the marks are for;
* `Orderly`: the requests of one sender and id name each connection once and do not overlap, they
  end in the order in which they came, and what a mark turns away has been served;
* `Advances`: what an event does that moves one request on;
* **`deduplicates`**: a run whose events are orderly gives each envelope once and turns away nothing
  else.
-/

namespace Hardess

/-- A relayed request that is served: the targets that were reached, the one whose check is awaited,
and those after it. -/
structure Delivery where
  request : DeliverRequest
  startedAt : ℕ
  delivered : List ConnRef
  target : ConnRef
  rest : List ConnRef

/-- The targets that are still to come. -/
def Delivery.left (d : Delivery) : List ConnRef := d.target :: d.rest

/-- The call that serves a request. -/
def Delivery.call (d : Delivery) : Call :=
  .delivering d.request d.startedAt d.delivered d.target d.rest

/-- The targets that were reached, once the check is answered. -/
def Delivery.reached (d : Delivery) (ok : Bool) : List ConnRef :=
  if ok then d.delivered ++ [d.target] else d.delivered

/-- The relayed request that a call serves. -/
def Call.delivery : Call → Option Delivery
  | .delivering request startedAt delivered target rest =>
    some ⟨request, startedAt, delivered, target, rest⟩
  | _ => none

/-- How a connection stands at its turn in a relayed request. -/
inductive Standing
  /-- It is not in the table, or not authenticated. -/
  | absent
  /-- Its context is found invalid. -/
  | invalid
  | closed
  /-- Its queue throws. -/
  | overflowing
  /-- The request has ended at a target before. -/
  | unreached
  | able
  deriving DecidableEq

/-- The turn of a connection of this node in a relayed request. -/
structure Turn where
  call : ℕ
  connId : JsString
  standing : Standing
  deriving DecidableEq

/-- A relayed request that was admitted. -/
structure Admission where
  call : ℕ
  request : DeliverRequest
  startedAt : ℕ

/-- Two requests with one sender and message id. -/
def DeliverRequest.SameKey (request request' : DeliverRequest) : Prop :=
  request.sender.nodeId = request'.sender.nodeId ∧
    request.sender.connId = request'.sender.connId ∧
    request.envelope.msgId = request'.envelope.msgId

instance (request request' : DeliverRequest) : Decidable (request.SameKey request') :=
  inferInstanceAs (Decidable (_ ∧ _ ∧ _))

theorem DeliverRequest.SameKey.symm {request request' : DeliverRequest}
    (h : request.SameKey request') : request'.SameKey request :=
  ⟨h.1.symm, h.2.1.symm, h.2.2.symm⟩

theorem Call.delivery_eq_some_iff {call : Call} {d : Delivery} :
    call.delivery = some d ↔ call = d.call := by
  constructor
  · intro h
    cases call with
    | delivering =>
      obtain rfl := Option.some.inj h
      rfl
    | _ => cases h
  · rintro rfl
    rfl

/-- The relayed request that comes. -/
def WebSocketRuntime.Event.requested : WebSocketRuntime.Event → Option DeliverRequest
  | .deliverCluster request => some request
  | _ => none

/-- The call whose check is answered, and the answer. -/
def WebSocketRuntime.Event.answered : WebSocketRuntime.Event → Option (ℕ × Bool)
  | .resume id (.valid ok) => some (id, ok)
  | _ => none

theorem WebSocketRuntime.Event.answered_eq_some {e : WebSocketRuntime.Event} {p : ℕ × Bool} :
    e.answered = some p ↔ e = .resume p.1 (.valid p.2) := by
  constructor
  · intro h
    cases e with
    | resume id answer => cases answer with
      | valid ok =>
        cases h
        rfl
      | _ => cases h
    | _ => cases h
  · rintro rfl
    rfl

namespace WebSocketRuntime

variable {st s : WebSocketRuntime} {e : Event} {id : ℕ} {request : DeliverRequest}
  {startedAt : ℕ} {delivered : List ConnRef} {d : Delivery} {ok : Bool} {connId : JsString}

/-! ### Where the loop comes to -/

/-- The relayed request that a call serves. -/
def delivery (st : WebSocketRuntime) (id : ℕ) : Option Delivery :=
  (st.calls.get id).bind Call.delivery

/-- The connections of this node that targets name. -/
def own (st : WebSocketRuntime) (targets : List ConnRef) : List JsString :=
  (targets.filter fun target => target.nodeId = st.deps.nodeId).map (·.connId)

/-- The target whose check the loop of `deliverCluster` awaits next. -/
def upcoming (st : WebSocketRuntime) (request : DeliverRequest) (startedAt : ℕ)
    (delivered : List ConnRef) : List ConnRef → Option Delivery
  | [] => none
  | target :: rest =>
    if st.ready target then some ⟨request, startedAt, delivered, target, rest⟩
    else upcoming st request startedAt delivered rest

/-- The turns that the loop passes over before. -/
def passed (st : WebSocketRuntime) (id : ℕ) : List ConnRef → List Turn
  | [] => []
  | target :: rest =>
    if st.ready target then []
    else if target.nodeId = st.deps.nodeId then ⟨id, target.connId, .absent⟩ :: passed st id rest
    else passed st id rest

/-- The envelope fails at the queue of the target. -/
def fails (st : WebSocketRuntime) (d : Delivery) (ok : Bool) : Bool :=
  ok && (st.enqueueError d.target.connId (.envelope d.request.envelope)).isSome

/-- The queue of the target takes the envelope. -/
def takes (st : WebSocketRuntime) (d : Delivery) (ok : Bool) : Bool :=
  ok && !st.isClosed d.target.connId && !st.fails d ok

/-- How the target stands when its check is answered. -/
def standing (st : WebSocketRuntime) (d : Delivery) (ok : Bool) : Standing :=
  if ok = false then .invalid
  else if st.isClosed d.target.connId = true then .closed
  else if st.fails d ok = true then .overflowing
  else .able

/-- What is left of a request, once the check is answered. -/
def after (st : WebSocketRuntime) (d : Delivery) (ok : Bool) : Option Delivery :=
  if st.fails d ok then none else st.upcoming d.request d.startedAt (d.reached ok) d.rest

/-- The turns that the answer of the check is; a target that fails ends those after it. -/
def turns (st : WebSocketRuntime) (id : ℕ) (d : Delivery) (ok : Bool) : List Turn :=
  ⟨id, d.target.connId, st.standing d ok⟩ ::
    if st.fails d ok then (st.own d.rest).map (⟨id, ·, .unreached⟩) else st.passed id d.rest

/-- The request ends with the answer of the check, and leaves its mark. -/
def finishes (st : WebSocketRuntime) (d : Delivery) (ok : Bool) : Bool :=
  !st.fails d ok && (st.after d ok).isNone && !(d.reached ok).isEmpty

theorem standing_eq_able_iff : st.standing d ok = .able ↔ st.takes d ok = true := by
  unfold standing takes
  cases ok with
  | false => simp
  | true =>
    simp only [Bool.true_eq_false, if_false, Bool.true_and, Bool.and_eq_true, Bool.not_eq_true']
    split_ifs <;> simp_all

theorem delivery_eq_some_iff : st.delivery id = some d ↔ st.calls.get id = some d.call := by
  unfold delivery
  rw [Option.bind_eq_some_iff]
  constructor
  · rintro ⟨call, hcall, hd⟩
    rw [hcall, Call.delivery_eq_some_iff.1 hd]
  · exact fun h => ⟨_, h, rfl⟩

theorem ready_iff {target : ConnRef} :
    st.ready target = true ↔ st.Online target.connId ∧ target.nodeId = st.deps.nodeId := by
  unfold ready
  rw [Bool.and_eq_true_iff, online_iff, decide_eq_true_iff]

theorem Twin.ready (t : Twin st s) : s.ready = st.ready := by
  funext target
  rw [Bool.eq_iff_iff, ready_iff, ready_iff, t.online, t.deps]

theorem Twin.upcoming (t : Twin st s) (targets : List ConnRef) :
    s.upcoming request startedAt delivered targets =
      st.upcoming request startedAt delivered targets := by
  induction targets with
  | nil => rfl
  | cons target rest ih => rw [WebSocketRuntime.upcoming, WebSocketRuntime.upcoming, t.ready, ih]

theorem upcoming_spec {targets : List ConnRef}
    (h : st.upcoming request startedAt delivered targets = some d) :
    d.request = request ∧ d.startedAt = startedAt ∧ d.delivered = delivered ∧
      d.left <:+ targets ∧ d.target.nodeId = st.deps.nodeId ∧
      (st.authOf d.target.connId).isSome = true := by
  induction targets with
  | nil => cases h
  | cons target rest ih =>
    rw [upcoming] at h
    split_ifs at h with hready
    · cases h
      exact ⟨rfl, rfl, rfl, List.suffix_rfl, (ready_iff.1 hready).2, (ready_iff.1 hready).1.2⟩
    · obtain ⟨hr, hs, hd, hsuf, hn⟩ := ih h
      exact ⟨hr, hs, hd, hsuf.trans (List.suffix_cons _ _), hn⟩

/-- A connection whose turn was to come is passed over, or its turn is still to come. -/
theorem upcoming_or_passed {targets : List ConnRef} (h : connId ∈ st.own targets) (id : ℕ) :
    (∃ d, st.upcoming request startedAt delivered targets = some d ∧ connId ∈ st.own d.left) ∨
      ⟨id, connId, .absent⟩ ∈ st.passed id targets := by
  induction targets with
  | nil => cases h
  | cons target rest ih =>
    rw [upcoming, passed]
    split_ifs with hready hn
    · exact .inl ⟨_, rfl, h⟩
    · rw [own, List.filter_cons_of_pos (by simpa using hn), List.map_cons, List.mem_cons] at h
      rcases h with rfl | hrest
      · exact .inr List.mem_cons_self
      · exact (ih hrest).imp_right (List.mem_cons_of_mem _)
    · rw [own, List.filter_cons_of_neg (by simpa using hn)] at h
      exact ih h

theorem deliverNext_eq (id : ℕ) (targets : List ConnRef) :
    st.deliverNext id request startedAt delivered targets =
      ((st.upcoming request startedAt delivered targets).map fun d => st.await id d.call).getD
        (st.deliverNext id request startedAt delivered []) := by
  induction targets with
  | nil => rfl
  | cons target rest ih =>
    have hiff : ((st.connection target.connId).bind (·.auth)).isSome = true ∧
        target.nodeId = st.deps.nodeId ↔ st.ready target = true := by
      rw [ready_iff, online_iff]
    rw [upcoming]
    by_cases hr : st.ready target = true
    · rw [if_pos hr]
      exact if_pos (hiff.2 hr)
    · rw [if_neg hr, ← ih]
      exact if_neg fun hs => hr (hiff.1 hs)

theorem delivery_await : (st.await id d.call).delivery = Function.update st.delivery id (some d) := by
  funext id'
  show ((st.calls.set id d.call).get id').bind Call.delivery = _
  rw [JsMap.get_set, Function.update_apply]
  split_ifs with h
  · exact Call.delivery_eq_some_iff.2 rfl
  · rfl

/-- The loop leaves its next check, or nothing. -/
theorem delivery_deliverNext (hid : st.delivery id = none) (targets : List ConnRef) :
    (st.deliverNext id request startedAt delivered targets).delivery =
      Function.update st.delivery id (st.upcoming request startedAt delivered targets) := by
  rw [deliverNext_eq]
  cases st.upcoming request startedAt delivered targets with
  | some d => exact delivery_await
  | none =>
    have hsame : (st.deliverNext id request startedAt delivered []).delivery = st.delivery := by
      rw [deliverNext]
      split_ifs <;> rfl
    refine hsame.trans ?_
    rw [← hid, Function.update_eq_self]

/-- The loop leaves its mark when it is over and has reached somebody. -/
theorem recent_deliverNext (targets : List ConnRef) :
    (st.deliverNext id request startedAt delivered targets).recentClusterDeliveryByMsgId =
      if ((st.upcoming request startedAt delivered targets).isNone && !delivered.isEmpty) = true then
        st.recentClusterDeliveryByMsgId.set request.envelope.msgId (startedAt + st.deps.recentTtl)
      else st.recentClusterDeliveryByMsgId := by
  rw [deliverNext_eq]
  cases st.upcoming request startedAt delivered targets with
  | some d => rfl
  | none =>
    show (st.deliverNext id request startedAt delivered []).recentClusterDeliveryByMsgId = _
    rw [deliverNext]
    cases delivered <;> rfl

/-! ### What an event does to the requests -/

/-- What the answer of a check leaves of its request, and its mark. -/
theorem deliverTarget_spec (hid : st.delivery id = none) (d : Delivery) (ok : Bool) :
    (st.deliverTarget id d.request d.startedAt d.delivered d.target d.rest ok).delivery =
        Function.update st.delivery id (st.after d ok) ∧
      (st.deliverTarget id d.request d.startedAt d.delivered d.target d.rest
        ok).recentClusterDeliveryByMsgId =
          if st.finishes d ok = true then
            st.recentClusterDeliveryByMsgId.set d.request.envelope.msgId
              (d.startedAt + st.deps.recentTtl)
          else st.recentClusterDeliveryByMsgId := by
  unfold deliverTarget finishes after fails Delivery.reached
  cases ok with
  | false =>
    simp only [Bool.false_and, Bool.not_false, Bool.true_and, Bool.false_eq_true, if_false]
    exact ⟨delivery_deliverNext hid d.rest, recent_deliverNext d.rest⟩
  | true =>
    simp only [Bool.true_and, if_true]
    generalize hs : (if d.request.ack = .none then st
      else st.setPendingHandleAck d.request.envelope.msgId d.request.sender
        (d.startedAt + st.deps.pendingTtl)) = s
    -- the pending acknowledgement is no part of the deliveries
    have hsame : Twin st s ∧ s.objects = st.objects ∧ s.calls = st.calls ∧
        s.recentClusterDeliveryByMsgId = st.recentClusterDeliveryByMsgId := by
      rw [← hs]
      split_ifs <;> exact ⟨⟨rfl, rfl, rfl, rfl⟩, rfl, rfl, rfl⟩
    obtain ⟨htwin, hobj, hcalls, hrecent⟩ := hsame
    have hkeeps := @enqueueOutbound_keeps s d.target.connId (.envelope d.request.envelope)
    have herror := @enqueueOutbound_error s d.target.connId (.envelope d.request.envelope)
    rw [enqueueError_twin hobj htwin.deps] at herror
    rw [← herror]
    generalize s.enqueueOutbound d.target.connId (.envelope d.request.envelope) = result at *
    obtain ⟨s₁, error⟩ := result
    have htwin₁ : Twin st s₁ := hkeeps.twin htwin
    have hdelivery : s₁.delivery = st.delivery := by
      unfold delivery
      rw [show s₁.calls = _ from hkeeps.calls, hcalls]
    have hrecent₁ : s₁.recentClusterDeliveryByMsgId = st.recentClusterDeliveryByMsgId :=
      hkeeps.recent.trans hrecent
    cases error with
    | none =>
      have hloop := @delivery_deliverNext s₁ id d.request d.startedAt (d.delivered ++ [d.target])
        (by rw [hdelivery, hid]) d.rest
      have hmark := @recent_deliverNext s₁ id d.request d.startedAt (d.delivered ++ [d.target])
        d.rest
      rw [htwin₁.upcoming, hdelivery] at hloop
      rw [htwin₁.upcoming, hrecent₁, htwin₁.deps] at hmark
      exact ⟨hloop, hmark⟩
    | some error =>
      -- the loop ends with the error of the queue, and leaves no mark
      refine ⟨?_, hrecent₁⟩
      show s₁.delivery = _
      rw [hdelivery, ← hid]
      exact (Function.update_eq_self _ _).symm

theorem Twin.after (t : Twin st s) (ho : s.objects = st.objects) (d : Delivery) (ok : Bool) :
    s.after d ok = st.after d ok ∧ s.finishes d ok = st.finishes d ok := by
  unfold finishes WebSocketRuntime.after fails
  rw [enqueueError_twin ho t.deps, t.upcoming]
  exact ⟨rfl, rfl⟩

/-- The answer of a check goes on with its request, and leaves the other requests where they are. -/
theorem step_delivering (h : st.delivery id = some d) (ok : Bool) :
    (st.step (.resume id (.valid ok))).delivery =
        Function.update st.delivery id (st.after d ok) ∧
      (st.step (.resume id (.valid ok))).recentClusterDeliveryByMsgId =
        if st.finishes d ok = true then
          st.recentClusterDeliveryByMsgId.set d.request.envelope.msgId
            (d.startedAt + st.deps.recentTtl)
        else st.recentClusterDeliveryByMsgId := by
  have hstep : st.step (.resume id (.valid ok)) = ({ st.cleared with calls := st.calls.delete id } :
      WebSocketRuntime).deliverTarget id d.request d.startedAt d.delivered d.target d.rest ok :=
    step_resume (delivery_eq_some_iff.1 h) _
  rw [hstep]
  generalize hs : ({ st.cleared with calls := st.calls.delete id } : WebSocketRuntime) = s
  have hsame : Twin st s ∧ s.objects = st.objects ∧ s.calls = st.calls.delete id ∧
      s.recentClusterDeliveryByMsgId = st.recentClusterDeliveryByMsgId := by
    rw [← hs]
    exact ⟨⟨rfl, rfl, rfl, rfl⟩, rfl, rfl, rfl⟩
  obtain ⟨htwin, hobj, hcalls, hrecent⟩ := hsame
  -- while it goes on the call is not among those that wait
  have hid : s.delivery id = none := by
    unfold delivery
    rw [hcalls, JsMap.get_delete_self]
    rfl
  obtain ⟨hdelivery, hmark⟩ := deliverTarget_spec hid d ok
  obtain ⟨hafter, hfinishes⟩ := htwin.after hobj d ok
  rw [hafter] at hdelivery
  rw [hfinishes, hrecent, htwin.deps] at hmark
  refine ⟨?_, hmark⟩
  rw [hdelivery]
  funext id'
  rw [Function.update_apply, Function.update_apply]
  split_ifs with hne
  · rfl
  · unfold delivery
    rw [hcalls, JsMap.get_delete_of_ne _ hne]

/-- The loop itself gives nobody anything. -/
theorem mem_deliverNext {x : Effect} (hx : ∀ result, x ≠ .delivered id result)
    (targets : List ConnRef) :
    x ∈ (st.deliverNext id request startedAt delivered targets).effects ↔ x ∈ st.effects := by
  rw [deliverNext_eq]
  cases st.upcoming request startedAt delivered targets with
  | some d => exact Iff.rfl
  | none =>
    show x ∈ (st.deliverNext id request startedAt delivered []).effects ↔ _
    rw [deliverNext]
    split_ifs <;> simp [emit, hx]

theorem enqueued_mem_deliverTarget (he : st.effects = []) (d : Delivery)
    (ha : (st.authOf d.target.connId).isSome = true) (ok : Bool) :
    .enqueued d.target.connId (.envelope d.request.envelope) ∈
      (st.deliverTarget id d.request d.startedAt d.delivered d.target d.rest ok).effects ↔
        st.takes d ok = true := by
  have hother (result : Except EgressError (List ConnRef)) : Effect.enqueued d.target.connId
      (.envelope d.request.envelope) ≠ .delivered id result := by simp
  unfold deliverTarget takes fails
  cases ok with
  | false => simp [mem_deliverNext hother, he]
  | true =>
    simp only [if_true, Bool.true_and]
    generalize hs : (if d.request.ack = .none then st
      else st.setPendingHandleAck d.request.envelope.msgId d.request.sender
        (d.startedAt + st.deps.pendingTtl)) = s
    have hsame : s.objects = st.objects ∧ s.deps = st.deps ∧ s.effects = [] := by
      rw [← hs]
      split_ifs <;> exact ⟨rfl, rfl, he⟩
    obtain ⟨hobj, hdeps, heffects⟩ := hsame
    -- the target is still there, since it has a context
    have hhas : s.objects.has d.target.connId = true := by
      rw [hobj]
      exact has_of_authOf ha
    have hmem := mem_enqueueOutbound_iff hhas (.envelope d.request.envelope) d.target.connId
      (.envelope d.request.envelope)
    have herror := @enqueueOutbound_error s d.target.connId (.envelope d.request.envelope)
    rw [enqueueError_twin hobj hdeps] at hmem herror
    rw [heffects, show s.isClosed = st.isClosed by unfold isClosed; rw [hobj]] at hmem
    rw [← herror] at hmem ⊢
    generalize s.enqueueOutbound d.target.connId (.envelope d.request.envelope) = result at *
    obtain ⟨s₁, error⟩ := result
    cases error with
    | none =>
      refine (mem_deliverNext hother d.rest).trans (hmem.trans ?_)
      simp
    | some error =>
      simp only [emit, List.mem_append, hmem]
      simp

/-- **The target gets the envelope when its queue takes it.** -/
theorem enqueued_iff_takes (h : st.delivery id = some d)
    (ha : (st.authOf d.target.connId).isSome = true) (ok : Bool) :
    .enqueued d.target.connId (.envelope d.request.envelope) ∈
      (st.step (.resume id (.valid ok))).effects ↔ st.takes d ok = true := by
  rw [step_resume (delivery_eq_some_iff.1 h)]
  exact @enqueued_mem_deliverTarget { st.cleared with calls := st.calls.delete id } id rfl d ha ok

/-- The event touches no relayed request. -/
def Rests (st : WebSocketRuntime) : Event → Prop
  | .deliverCluster request => ¬st.Admits request
  | .resume id (.valid _) => st.delivery id = none
  | _ => True

theorem Serves.not_rests {targets : List ConnRef}
    (h : st.Serves e id request startedAt delivered targets) : ¬st.Rests e := by
  have hserved {d : Delivery} (hc : st.calls.get id = some d.call) (ok : Bool) :
      ¬st.Rests (.resume id (.valid ok)) := by
    intro hr
    have hsome := delivery_eq_some_iff.2 hc
    rw [show st.delivery id = none from hr] at hsome
    cases hsome
  cases h with
  | started ha => exact fun hr => hr ha
  | @skipped _ _ _ _ _ target hc =>
    exact hserved (d := ⟨request, startedAt, delivered, target, targets⟩) hc false
  | @served _ _ _ delivered _ target hc =>
    exact hserved (d := ⟨request, startedAt, delivered, target, targets⟩) hc true

theorem Starts.serves {call : Call} (h : st.Starts e id call) (hd : call.delivery = some d) :
    ∃ targets, st.Serves e id d.request d.startedAt d.delivered targets := by
  have hsearches {send : SendCall} (hs : call.Searches send) : call.delivery = none := by
    cases call <;> first | rfl | exact hs.elim
  cases h with
  | delivering hs =>
    obtain rfl := Option.some.inj hd
    exact ⟨_, hs⟩
  | searching _ hs => exact absurd hd (by rw [hsearches hs]; simp)
  | found _ _ hs => exact absurd hd (by rw [hsearches hs]; simp)
  | continuing _ hc =>
    cases hc with
    | searching _ _ hs => exact absurd hd (by rw [hsearches hs]; simp)
    | _ => cases hd
  | _ => cases hd

/-- An event that touches no relayed request leaves each where it is. -/
theorem delivery_rests (hn : st.Numbered) (h : st.Rests e) : (st.step e).delivery = st.delivery := by
  funext id
  refine Option.ext fun d => ?_
  rw [delivery_eq_some_iff, delivery_eq_some_iff]
  have hd : d.call.delivery = some d := Call.delivery_eq_some_iff.2 rfl
  constructor
  · intro hcall
    rcases (step_handles st e).calls id _ hcall with hold | hstart
    · exact hold
    · obtain ⟨targets, hserves⟩ := hstart.serves hd
      exact absurd h hserves.not_rests
  · intro hcall
    by_cases he : ∃ answer, e = .resume id answer
    · obtain ⟨answer, rfl⟩ := he
      rw [step_resume hcall]
      cases answer with
      | valid ok => exact absurd (h.symm.trans (delivery_eq_some_iff.2 hcall)) (by simp)
      | _ => exact JsMap.get_set_self _ _ _
    · exact ((step_handles st e).kept id (hn id _ hcall) (not_exists.1 he)).trans hcall

theorem disposed_step (h : st.disposed = true) (e : Event) : (st.step e).disposed = true := by
  by_cases hw : e.Rewires = false
  · exact (wired_step hw).disposed.trans h
  cases e with
  | openSocket connId =>
    obtain ⟨connections, w, -⟩ := @wired_openSocket st.cleared connId
    exact w.disposed.trans h
  | closeSocket connId => exact (@wired_closeSocket st.cleared connId).disposed.trans h
  | beginShutdown =>
    rw [step_beginShutdown_of_over (.inr h)]
    exact h
  | dispose =>
    rw [step_dispose_of_disposed h]
    exact h
  | resume id answer =>
    cases answer with
    | authenticated result =>
      cases result with
      | error thrown => exact absurd rfl hw
      | ok auth =>
        rcases @step_resume_auth st id auth with ⟨connId, message, -, heq⟩ | ⟨-, calls, heq⟩
        · rw [heq]
          cases hq : st.peerQuotaExceeded connId auth.peerId with
          | false =>
            exact (@wired_finishAuth { st.cleared with calls := st.calls.delete id } _ _ hq
              message).disposed.trans h
          | true =>
            exact (@finishAuth_keeps { st.cleared with calls := st.calls.delete id } _ _ hq
              message).disposed.trans h
        · rw [heq]
          exact h
    | _ => exact absurd rfl hw
  | _ => exact absurd rfl hw

/-- A mark that an event does not write over stays until it expires or the runtime is disposed. -/
theorem recent_step (hw : ∀ msgId until', ¬st.cleared.Marks e msgId until') {msgId : JsString} {until' : ℕ}
    (h : st.recentClusterDeliveryByMsgId.get msgId = some until') :
    (st.step e).disposed = true ∨ until' ≤ st.now ∨
      (st.step e).recentClusterDeliveryByMsgId.get msgId = some until' := by
  rcases (step_handles st e).recent.lower msgId until' h with (rfl | hold) | ⟨v, hv, rfl | hmark⟩
  · refine .inl ?_
    cases hd : st.disposed with
    | true => exact disposed_step hd _
    | false => exact (@wired_dispose st.cleared hd).disposed
  · exact .inr (.inl hold)
  · exact .inr (.inr hv)
  · exact absurd hmark (hw _ _)

theorem own_step (st : WebSocketRuntime) (e : Event) : (st.step e).own = st.own := by
  funext targets
  unfold own
  rw [deps_step]

theorem own_sublist {targets targets' : List ConnRef} (h : targets' <:+ targets) :
    (st.own targets').Sublist (st.own targets) :=
  (h.sublist.filter _).map _

theorem own_left (h : d.target.nodeId = st.deps.nodeId) :
    st.own d.left = d.target.connId :: st.own d.rest := by
  unfold own Delivery.left
  rw [List.filter_cons_of_pos (by simpa using h), List.map_cons]

theorem mem_passed {turn : Turn} {targets : List ConnRef} (h : turn ∈ st.passed id targets) :
    turn.call = id ∧ turn.standing ≠ .able := by
  induction targets with
  | nil => cases h
  | cons target rest ih =>
    rw [passed] at h
    split_ifs at h
    · cases h
    · rcases List.mem_cons.1 h with rfl | hrest
      · exact ⟨rfl, by simp⟩
      · exact ih hrest
    · exact ih h

theorem mem_turns {turn : Turn} (h : turn ∈ st.turns id d ok) : turn.call = id ∧
    (turn.standing = .able → turn.connId = d.target.connId ∧ st.takes d ok = true) := by
  rw [turns, List.mem_cons] at h
  rcases h with rfl | hrest
  · exact ⟨rfl, fun hable => ⟨rfl, standing_eq_able_iff.1 hable⟩⟩
  · have hmissed : turn.call = id ∧ turn.standing ≠ .able := by
      split_ifs at hrest
      · obtain ⟨connId, -, rfl⟩ := List.mem_map.1 hrest
        exact ⟨rfl, by simp⟩
      · exact mem_passed hrest
    exact ⟨hmissed.1, fun hable => absurd hable hmissed.2⟩

/-- A connection whose turn was to come has its turn, or still waits for it. -/
theorem after_or_turns (hn : d.target.nodeId = st.deps.nodeId) (h : connId ∈ st.own d.left)
    (id : ℕ) (ok : Bool) : (∃ d', st.after d ok = some d' ∧ connId ∈ st.own d'.left) ∨
      ∃ standing, ⟨id, connId, standing⟩ ∈ st.turns id d ok := by
  rw [own_left hn, List.mem_cons] at h
  rcases h with rfl | hrest
  · exact .inr ⟨_, List.mem_cons_self⟩
  · unfold after turns
    split_ifs
    · exact .inr ⟨.unreached, List.mem_cons_of_mem _ (List.mem_map.2 ⟨connId, hrest, rfl⟩)⟩
    · exact (upcoming_or_passed hrest id).imp_right fun hmem =>
        ⟨.absent, List.mem_cons_of_mem _ hmem⟩

theorem after_spec {d' : Delivery} (h : st.after d ok = some d') :
    d'.request = d.request ∧ d'.startedAt = d.startedAt ∧ d'.delivered = d.reached ok ∧
      d'.left <:+ d.rest ∧ d'.target.nodeId = st.deps.nodeId ∧
      (st.authOf d'.target.connId).isSome = true := by
  unfold after at h
  split_ifs at h
  exact upcoming_spec h

/-- What has been given to a target is what the request has reached. -/
theorem reached_ne_nil (h : d.delivered ≠ [] ∨ st.takes d ok = true) : d.reached ok ≠ [] := by
  unfold Delivery.reached
  split_ifs with hok
  · simp
  · exact h.resolve_right (by simp [takes, hok])

/-- Whoever was authenticated stays so. -/
theorem auth_step (st : WebSocketRuntime) (e : Event) (connId : JsString)
    (h : (st.authOf connId).isSome = true) : ((st.step e).authOf connId).isSome = true := by
  rcases (step_handles st e).auth connId with hsame | ⟨auth, hauth, -⟩
  · rwa [hsame]
  · rw [hauth]
    rfl

/-- What an event leaves of the requests and the marks where it takes a request on. -/
structure Follows (st s : WebSocketRuntime) : Prop where
  deps : s.deps = st.deps
  now : st.now ≤ s.now
  nextCall : st.nextCall ≤ s.nextCall
  auth : ∀ connId, (st.authOf connId).isSome = true → (s.authOf connId).isSome = true
  disposed : st.disposed = true → s.disposed = true
  marks : ∀ msgId until', st.recentClusterDeliveryByMsgId.get msgId = some until' →
    s.disposed = true ∨ until' ≤ s.now ∨
      ∃ later, s.recentClusterDeliveryByMsgId.get msgId = some later ∧ until' ≤ later

theorem follows_of_not_marks (hw : ∀ msgId until', ¬st.cleared.Marks e msgId until') :
    Follows st (st.step e) where
  deps := deps_step st e
  now := now_le_step st e
  nextCall := by
    rw [(step_handles st e).nextCall]
    exact Nat.le_add_right _ _
  auth := auth_step st e
  disposed h := disposed_step h e
  marks msgId until' h := by
    rcases recent_step hw h with hd | hold | hget
    · exact .inl hd
    · exact .inr (.inl (hold.trans (now_le_step st e)))
    · exact .inr (.inr ⟨until', hget, le_rfl⟩)

theorem follows_of_rests (h : st.Rests e) : Follows st (st.step e) :=
  follows_of_not_marks fun _ _ hmark => by
    cases hmark with
    | delivered hserves => exact hserves.not_rests h

theorem follows_deliverCluster (request : DeliverRequest) :
    Follows st (st.step (.deliverCluster request)) :=
  follows_of_not_marks fun _ _ hmark => by
    cases hmark with
    | delivered hserves hd => cases hserves with | started => exact hd rfl

/-- A request that ends writes no earlier mark. -/
theorem follows_delivering (h : st.delivery id = some d) (ok : Bool)
    (hm : st.finishes d ok = true →
      ∀ until' ∈ st.recentClusterDeliveryByMsgId.get d.request.envelope.msgId,
        st.now < until' → until' ≤ d.startedAt + st.deps.recentTtl) :
    Follows st (st.step (.resume id (.valid ok))) where
  deps := deps_step st _
  now := now_le_step st _
  nextCall := (step_handles st (.resume id (.valid ok))).nextCall.ge
  auth := auth_step st _
  disposed hd := disposed_step hd _
  marks msgId until' hget := by
    rw [(step_delivering h ok).2]
    split_ifs with hf
    · by_cases hold : until' ≤ st.now
      · exact .inr (.inl (hold.trans (now_le_step st _)))
      · refine .inr (.inr ?_)
        rw [JsMap.get_set]
        split_ifs with heq
        · subst heq
          exact ⟨_, rfl, hm hf until' hget (Nat.not_le.1 hold)⟩
        · exact ⟨until', hget, le_rfl⟩
    · exact .inr (.inr ⟨until', hget, le_rfl⟩)

/-- An admitted request goes to its first target. -/
theorem delivery_admitted (h : st.Admits request) (hn : st.Numbered) :
    (st.step (.deliverCluster request)).delivery = Function.update st.delivery st.nextCall
      (st.upcoming request st.now [] request.targets) := by
  have hstep := deliverCluster_of_admits
    (show Admits { st.cleared with nextCall := st.nextCall + 1 } request from h) st.nextCall
  rw [show st.step (.deliverCluster request) =
    ({ st.cleared with nextCall := st.nextCall + 1 } : WebSocketRuntime).deliverCluster st.nextCall
      request from rfl, hstep]
  have hnone : st.delivery st.nextCall = none := by
    unfold delivery
    rw [fresh_nextCall hn]
    rfl
  generalize hs : ({ st.cleared with nextCall := st.nextCall + 1 } : WebSocketRuntime
    ).prunePendingHandleAcks.pruneRecentClusterDeliveries = s
  have hsame : Twin st s ∧ s.delivery = st.delivery := by
    rw [← hs]
    exact ⟨⟨rfl, rfl, rfl, rfl⟩, rfl⟩
  obtain ⟨htwin, hdelivery⟩ := hsame
  have hloop := @delivery_deliverNext s st.nextCall request st.now [] (by rw [hdelivery, hnone])
    request.targets
  rw [htwin.upcoming, hdelivery] at hloop
  exact hloop

/-! ### The record -/

/-- The runtime with the relayed requests that were admitted, the turns of their targets and the
requests that failed. -/
structure Ledger where
  st : WebSocketRuntime
  admitted : List Admission := []
  turns : List Turn := []
  failed : List ℕ := []

instance (st : WebSocketRuntime) (request : DeliverRequest) : Decidable (st.Admits request) :=
  inferInstanceAs (Decidable (_ ∧ _ ∧ _))

/-- A mark turns the request away. -/
def Suppresses (st : WebSocketRuntime) (request : DeliverRequest) : Prop :=
  st.disposed = false ∧ ¬(st.shuttingDown = true ∧ request.envelope.kind = .biz) ∧
    ¬st.Admits request

instance (st : WebSocketRuntime) (request : DeliverRequest) : Decidable (st.Suppresses request) :=
  inferInstanceAs (Decidable (_ ∧ _ ∧ _))

/-- The connections of this node whose turns are still to come in a request. -/
def remaining (st : WebSocketRuntime) (id : ℕ) : List JsString :=
  (st.delivery id).elim [] fun d => st.own d.left

namespace Ledger

/-- One event, and what it adds to the record. -/
def step (L : Ledger) (e : Event) : Ledger :=
  let L₁ := { L with st := L.st.step e }
  match e with
  | .deliverCluster request =>
    if L.st.Admits request then
      { L₁ with
        admitted := ⟨L.st.nextCall, request, L.st.now⟩ :: L.admitted
        turns := L.st.passed L.st.nextCall request.targets ++ L.turns }
    else L₁
  | .resume id (.valid ok) =>
    match L.st.delivery id with
    | none => L₁
    | some d =>
      { L₁ with
        turns := L.st.turns id d ok ++ L.turns
        failed := if L.st.fails d ok then id :: L.failed else L.failed }
  | _ => L₁

/-- A new runtime with an empty record. -/
def create (deps : WebSocketRuntimeDeps) : Ledger := { st := WebSocketRuntime.create deps }

variable (L : Ledger)

/-- The connection was given the envelope of a request with the same sender and id, and the TTL of
that request is not over at the time `now`. -/
def Given (request : DeliverRequest) (connId : JsString) (now : ℕ) : Prop :=
  ∃ a ∈ L.admitted, a.request.SameKey request ∧ now < a.startedAt + L.st.deps.recentTtl ∧
    ⟨a.call, connId, .able⟩ ∈ L.turns

/-- The turn of a target is recorded as one at which it was able just in case its queue takes the
envelope. -/
def Recorded (e : Event) : Prop :=
  ∀ p ∈ e.answered, ∀ d ∈ L.st.delivery p.1,
    .enqueued d.target.connId (.envelope d.request.envelope) ∈ (L.st.step e).effects ↔
      L.st.standing d p.2 = .able

/-- Whoever gets the envelope of a request has not been given it before. -/
def Once (e : Event) : Prop :=
  ∀ p ∈ e.answered, ∀ d ∈ L.st.delivery p.1, L.st.standing d p.2 = .able →
    ¬L.Given d.request d.target.connId d.startedAt

/-- Whoever a suppressed request is for has been given its envelope by the same sender. -/
def Unsuppressed (e : Event) : Prop :=
  ∀ request ∈ e.requested, L.st.Suppresses request →
    ∀ connId ∈ L.st.own request.targets, L.Given request connId L.st.now

/-- No mark speaks for the request: it goes on, or it has failed. -/
def Unmarked (a : Admission) : Prop := (L.st.delivery a.call).isSome = true ∨ a.call ∈ L.failed

/-- An admitted request names each connection once, none whose turn is still to come in a request
of the same sender and id, and none that such a request has reached which goes on or has failed. -/
def Apart (request : DeliverRequest) : Prop :=
  (L.st.own request.targets).Nodup ∧ ∀ connId ∈ L.st.own request.targets, ∀ a ∈ L.admitted,
    a.request.SameKey request → connId ∉ L.st.remaining a.call ∧ (L.Unmarked a →
      L.st.now < a.startedAt + L.st.deps.recentTtl → ⟨a.call, connId, .able⟩ ∉ L.turns)

/-- A suppressed request names connections whose turn in a request of the same sender and id is
over, at which they were in the table, authenticated, valid, open and not overflowing. -/
def Repeats (request : DeliverRequest) : Prop :=
  ∀ connId ∈ L.st.own request.targets, ∃ a ∈ L.admitted, a.request.SameKey request ∧
    L.st.now < a.startedAt + L.st.deps.recentTtl ∧ connId ∈ L.st.own a.request.targets ∧
    connId ∉ L.st.remaining a.call ∧
      ∀ turn ∈ L.turns, turn.call = a.call → turn.connId = connId → turn.standing = .able

/-- No request leaves its mark while the one of a later request stands. -/
def InOrder (d : Delivery) (ok : Bool) : Prop :=
  L.st.finishes d ok = true →
    ∀ until' ∈ L.st.recentClusterDeliveryByMsgId.get d.request.envelope.msgId,
      L.st.now < until' → until' ≤ d.startedAt + L.st.deps.recentTtl

/-- The requests of one sender and id keep apart, what is suppressed is a repetition, and requests
end in the order in which they came. -/
structure Orderly (e : Event) : Prop where
  apart : ∀ request ∈ e.requested, L.st.Admits request → L.Apart request
  repeats : ∀ request ∈ e.requested, L.st.Suppresses request → L.Repeats request
  inOrder : ∀ p ∈ e.answered, ∀ d ∈ L.st.delivery p.1, L.InOrder d p.2

variable {L : Ledger}

/-! ### What an event adds -/

theorem step_of_rests (h : L.st.Rests e) : L.step e = { L with st := L.st.step e } := by
  unfold step
  cases e with
  | deliverCluster request => exact if_neg h
  | resume id answer =>
    cases answer with
    | valid ok =>
      dsimp only
      rw [show L.st.delivery id = none from h]
    | _ => rfl
  | _ => rfl

theorem step_of_admits (h : L.st.Admits request) : L.step (.deliverCluster request) =
    { st := L.st.step (.deliverCluster request)
      admitted := ⟨L.st.nextCall, request, L.st.now⟩ :: L.admitted
      turns := L.st.passed L.st.nextCall request.targets ++ L.turns
      failed := L.failed } := if_pos h

theorem step_of_delivery (h : L.st.delivery id = some d) (ok : Bool) :
    L.step (.resume id (.valid ok)) =
      { st := L.st.step (.resume id (.valid ok))
        admitted := L.admitted
        turns := L.st.turns id d ok ++ L.turns
        failed := if L.st.fails d ok then id :: L.failed else L.failed } := by
  unfold step
  dsimp only
  rw [h]

/-- The three things that an event can be for the requests. -/
theorem rests_or (L : Ledger) (e : Event) : L.st.Rests e ∨
    (∃ request, e = .deliverCluster request ∧ L.st.Admits request) ∨
    ∃ id ok d, e = .resume id (.valid ok) ∧ L.st.delivery id = some d := by
  cases e with
  | deliverCluster request =>
    by_cases h : L.st.Admits request
    · exact .inr (.inl ⟨request, rfl, h⟩)
    · exact .inl h
  | resume id answer =>
    cases answer with
    | valid ok =>
      cases h : L.st.delivery id with
      | none => exact .inl h
      | some d => exact .inr (.inr ⟨id, ok, d, rfl, h⟩)
    | _ => exact .inl trivial
  | _ => exact .inl trivial

@[simp] theorem step_st (L : Ledger) (e : Event) : (L.step e).st = L.st.step e := by
  rcases L.rests_or e with h | ⟨request, rfl, h⟩ | ⟨id, ok, d, rfl, h⟩
  · rw [step_of_rests h]
  · rw [step_of_admits h]
  · rw [step_of_delivery h]

/-! ### The invariant -/

/-- The request has failed, or it has left its mark. -/
def Settled (L : Ledger) (a : Admission) : Prop :=
  a.call ∈ L.failed ∨ L.st.disposed = true ∨ a.startedAt + L.st.deps.recentTtl ≤ L.st.now ∨
    ∃ until', L.st.recentClusterDeliveryByMsgId.get a.request.envelope.msgId = some until' ∧
      a.startedAt + L.st.deps.recentTtl ≤ until'

/-- What the record says of the requests that are served and of the marks. -/
structure Sound (L : Ledger) : Prop where
  numbered : L.st.Numbered
  call_lt : ∀ a ∈ L.admitted, a.call < L.st.nextCall
  unique : ∀ a ∈ L.admitted, ∀ a' ∈ L.admitted, a.call = a'.call → a = a'
  turn_lt : ∀ turn ∈ L.turns, turn.call < L.st.nextCall
  admitted : ∀ id d, L.st.delivery id = some d → ⟨id, d.request, d.startedAt⟩ ∈ L.admitted
  target : ∀ id d, L.st.delivery id = some d → d.target.nodeId = L.st.deps.nodeId
  /-- Whoever was authenticated stays so. -/
  auth : ∀ id d, L.st.delivery id = some d → (L.st.authOf d.target.connId).isSome = true
  nodup : ∀ id d, L.st.delivery id = some d → (L.st.own d.left).Nodup
  apart : ∀ id d id' d', L.st.delivery id = some d → L.st.delivery id' = some d' → id ≠ id' →
    d.request.SameKey d'.request → ∀ connId ∈ L.st.own d.left, connId ∉ L.st.own d'.left
  fresh : ∀ id d, L.st.delivery id = some d → ∀ connId ∈ L.st.own d.left,
    ¬L.Given d.request connId d.startedAt
  account : ∀ a ∈ L.admitted, ∀ connId, ⟨a.call, connId, .able⟩ ∈ L.turns →
    (∃ d, L.st.delivery a.call = some d ∧ d.delivered ≠ []) ∨ L.Settled a
  covered : ∀ a ∈ L.admitted, ∀ connId ∈ L.st.own a.request.targets,
    connId ∈ L.st.remaining a.call ∨ ∃ standing, ⟨a.call, connId, standing⟩ ∈ L.turns

theorem sound_create (deps : WebSocketRuntimeDeps) : (create deps).Sound where
  numbered := numbered_create deps
  call_lt a ha := by cases ha
  unique a ha := by cases ha
  turn_lt turn ht := by cases ht
  admitted id d h := by cases h
  target id d h := by cases h
  auth id d h := by cases h
  nodup id d h := by cases h
  apart id d id' d' h := by cases h
  fresh id d h := by cases h
  account a ha := by cases ha
  covered a ha := by cases ha

theorem mem_remaining : connId ∈ L.st.remaining id ↔
    ∃ d, L.st.delivery id = some d ∧ connId ∈ L.st.own d.left := by
  unfold remaining
  cases L.st.delivery id <;> simp

theorem Settled.follows {L' : Ledger} {a : Admission} (h : L.Settled a)
    (hf : Follows L.st L'.st) (hfailed : L.failed ⊆ L'.failed) : L'.Settled a := by
  unfold Settled
  rw [hf.deps]
  rcases h with h | h | h | ⟨until', hget, hle⟩
  · exact .inl (hfailed h)
  · exact .inr (.inl (hf.disposed h))
  · exact .inr (.inr (.inl (h.trans hf.now)))
  · rcases hf.marks _ _ hget with hd | hold | ⟨later, hget', hle'⟩
    · exact .inr (.inl hd)
    · exact .inr (.inr (.inl (hle.trans hold)))
    · exact .inr (.inr (.inr ⟨later, hget', hle.trans hle'⟩))

theorem Sound.rests (h : L.Sound) (hr : L.st.Rests e) :
    ({ L with st := L.st.step e } : Ledger).Sound := by
  have hf := follows_of_rests hr
  have hdelivery := delivery_rests h.numbered hr
  have hown := own_step L.st e
  have hgiven (request : DeliverRequest) (connId : JsString) (now : ℕ) :
      ({ L with st := L.st.step e } : Ledger).Given request connId now ↔
        L.Given request connId now := by
    unfold Given
    dsimp only
    rw [hf.deps]
  constructor
  case numbered => exact numbered_step h.numbered e
  case call_lt => exact fun a ha => (h.call_lt a ha).trans_le hf.nextCall
  case unique => exact h.unique
  case turn_lt => exact fun turn ht => (h.turn_lt turn ht).trans_le hf.nextCall
  case account =>
    intro a ha connId ht
    dsimp only
    rw [hdelivery]
    exact (h.account a ha connId ht).imp_right fun hs => hs.follows hf (List.Subset.refl _)
  case covered =>
    intro a ha connId hc
    unfold remaining
    dsimp only at hc ⊢
    rw [hdelivery, hown]
    rw [hown] at hc
    exact h.covered a ha connId hc
  all_goals
    dsimp only
    simp only [hdelivery, hown, hgiven, hf.deps]
  case admitted => exact h.admitted
  case target => exact h.target
  case auth => exact fun id d hd => hf.auth _ (h.auth id d hd)
  case nodup => exact h.nodup
  case apart => exact h.apart
  case fresh => exact h.fresh

/-! ### One request moves on -/

/-- What is still to come of a request keeps apart from the other requests, and has not been given
to anybody yet. -/
structure Joins (L L' : Ledger) (id : ℕ) (d : Delivery) : Prop where
  admitted : ⟨id, d.request, d.startedAt⟩ ∈ L'.admitted
  target : d.target.nodeId = L.st.deps.nodeId
  auth : (L.st.authOf d.target.connId).isSome = true
  nodup : (L.st.own d.left).Nodup
  apart : ∀ id' d', L.st.delivery id' = some d' → id' ≠ id → d.request.SameKey d'.request →
    ∀ connId ∈ L.st.own d.left, connId ∉ L.st.own d'.left
  fresh : ∀ connId ∈ L.st.own d.left, ¬L'.Given d.request connId d.startedAt

/-- `L'` is the record after an event that moves the request of the call `id` on to `next`. -/
structure Advances (L L' : Ledger) (id : ℕ) (next : Option Delivery) : Prop where
  follows : Follows L.st L'.st
  numbered : L'.st.Numbered
  own : L'.st.own = L.st.own
  call_lt : id < L'.st.nextCall
  delivery : L'.st.delivery = Function.update L.st.delivery id next
  admission : ∀ a ∈ L'.admitted, a.call ≠ id → a ∈ L.admitted
  admitted : L.admitted ⊆ L'.admitted
  unique : ∀ a ∈ L'.admitted, ∀ a' ∈ L'.admitted, a.call = id → a'.call = id → a = a'
  turn : ∀ turn ∈ L'.turns, turn.call ≠ id → turn ∈ L.turns
  turns : L.turns ⊆ L'.turns
  failed : L.failed ⊆ L'.failed
  joins : ∀ d, next = some d → L.Joins L' id d
  given : ∀ a ∈ L'.admitted, ∀ connId, a.call = id → ⟨id, connId, .able⟩ ∈ L'.turns →
    (a ∈ L.admitted ∧ ⟨id, connId, .able⟩ ∈ L.turns) ∨ ∀ id' d', L.st.delivery id' = some d' →
      id' ≠ id → a.request.SameKey d'.request → connId ∉ L.st.own d'.left
  account : ∀ a ∈ L'.admitted, ∀ connId, a.call = id → ⟨id, connId, .able⟩ ∈ L'.turns →
    (∃ d, next = some d ∧ d.delivered ≠ []) ∨ L'.Settled a
  covered : ∀ a ∈ L'.admitted, a.call = id → ∀ connId ∈ L.st.own a.request.targets,
    (∃ d, next = some d ∧ connId ∈ L.st.own d.left) ∨ ∃ standing, ⟨id, connId, standing⟩ ∈ L'.turns

namespace Advances

variable {L' : Ledger} {next : Option Delivery}

/-- A request that is served is the one that moves on, or was served before. -/
theorem delivery_cases (hm : L.Advances L' id next) {id' : ℕ} {d' : Delivery}
    (hd : L'.st.delivery id' = some d') :
    (id' = id ∧ L.Joins L' id d') ∨ (id' ≠ id ∧ L.st.delivery id' = some d') := by
  rw [hm.delivery, Function.update_apply] at hd
  split_ifs at hd with hid
  · exact .inl ⟨hid, hm.joins d' hd⟩
  · exact .inr ⟨hid, hd⟩

theorem call_lt_of_mem (h : L.Sound) (hm : L.Advances L' id next) {a : Admission}
    (ha : a ∈ L'.admitted) : a.call < L'.st.nextCall := by
  by_cases hid : a.call = id
  · exact hid ▸ hm.call_lt
  · exact (h.call_lt a (hm.admission a ha hid)).trans_le hm.follows.nextCall

theorem turn_lt (h : L.Sound) (hm : L.Advances L' id next) {turn : Turn}
    (ht : turn ∈ L'.turns) : turn.call < L'.st.nextCall := by
  by_cases hid : turn.call = id
  · exact hid ▸ hm.call_lt
  · exact (h.turn_lt turn (hm.turn turn ht hid)).trans_le hm.follows.nextCall

theorem eq_of_call_eq (h : L.Sound) (hm : L.Advances L' id next) {a a' : Admission}
    (ha : a ∈ L'.admitted) (ha' : a' ∈ L'.admitted) (heq : a.call = a'.call) : a = a' := by
  by_cases hid : a.call = id
  · exact hm.unique a ha a' ha' hid (heq ▸ hid)
  · exact h.unique a (hm.admission a ha hid) a' (hm.admission a' ha' (heq ▸ hid)) heq

/-- What the other requests are still to give, nobody has been given by the event either. -/
theorem fresh (h : L.Sound) (hm : L.Advances L' id next) {id' : ℕ} {d' : Delivery}
    (hd : L.st.delivery id' = some d') (hne : id' ≠ id) (hc : connId ∈ L.st.own d'.left) :
    ¬L'.Given d'.request connId d'.startedAt := by
  rintro ⟨a, ha, hkey, hlt, ht⟩
  rw [hm.follows.deps] at hlt
  by_cases hid : a.call = id
  · rcases hm.given a ha connId hid (hid ▸ ht) with ⟨hmem, hold⟩ | hapart
    · exact h.fresh id' d' hd connId hc ⟨a, hmem, hkey, hlt, hid ▸ hold⟩
    · exact hapart id' d' hd hne hkey hc
  · exact h.fresh id' d' hd connId hc
      ⟨a, hm.admission a ha hid, hkey, hlt, hm.turn _ ht hid⟩

theorem account_of_mem (h : L.Sound) (hm : L.Advances L' id next) {a : Admission}
    (ha : a ∈ L'.admitted) (ht : ⟨a.call, connId, .able⟩ ∈ L'.turns) :
    (∃ d, L'.st.delivery a.call = some d ∧ d.delivered ≠ []) ∨ L'.Settled a := by
  rw [hm.delivery]
  by_cases hid : a.call = id
  · rw [hid, Function.update_self]
    exact hm.account a ha connId hid (hid ▸ ht)
  · rw [Function.update_of_ne hid]
    exact (h.account a (hm.admission a ha hid) connId (hm.turn _ ht hid)).imp_right fun hs =>
      hs.follows hm.follows hm.failed

theorem covered_of_mem (h : L.Sound) (hm : L.Advances L' id next) {a : Admission}
    (ha : a ∈ L'.admitted) (hc : connId ∈ L.st.own a.request.targets) :
    connId ∈ L'.st.remaining a.call ∨ ∃ standing, ⟨a.call, connId, standing⟩ ∈ L'.turns := by
  rw [mem_remaining, hm.delivery, hm.own]
  by_cases hid : a.call = id
  · rw [hid, Function.update_self]
    exact hm.covered a ha hid connId hc
  · rw [Function.update_of_ne hid, ← mem_remaining]
    exact (h.covered a (hm.admission a ha hid) connId hc).imp_right fun ⟨standing, ht⟩ =>
      ⟨standing, hm.turns ht⟩

/-- The invariant holds on when one request moves on. -/
theorem sound (h : L.Sound) (hm : L.Advances L' id next) : L'.Sound where
  numbered := hm.numbered
  call_lt _ ha := hm.call_lt_of_mem h ha
  unique _ ha _ ha' heq := hm.eq_of_call_eq h ha ha' heq
  turn_lt _ ht := hm.turn_lt h ht
  admitted id' d' hd := by
    rcases hm.delivery_cases hd with ⟨rfl, hj⟩ | ⟨-, hd⟩
    · exact hj.admitted
    · exact hm.admitted (h.admitted id' d' hd)
  target id' d' hd := by
    rw [hm.follows.deps]
    rcases hm.delivery_cases hd with ⟨-, hj⟩ | ⟨-, hd⟩
    · exact hj.target
    · exact h.target id' d' hd
  auth id' d' hd := by
    refine hm.follows.auth _ ?_
    rcases hm.delivery_cases hd with ⟨-, hj⟩ | ⟨-, hd⟩
    · exact hj.auth
    · exact h.auth id' d' hd
  nodup id' d' hd := by
    rw [hm.own]
    rcases hm.delivery_cases hd with ⟨-, hj⟩ | ⟨-, hd⟩
    · exact hj.nodup
    · exact h.nodup id' d' hd
  apart id₁ d₁ id₂ d₂ hd₁ hd₂ hne hkey connId hc := by
    rw [hm.own] at hc ⊢
    -- at most one of the two has moved on, and the invariant is symmetric
    rcases hm.delivery_cases hd₁ with ⟨rfl, hj₁⟩ | ⟨hne₁, hd₁⟩ <;>
      rcases hm.delivery_cases hd₂ with ⟨rfl, hj₂⟩ | ⟨hne₂, hd₂⟩
    · exact absurd rfl hne
    · exact hj₁.apart id₂ d₂ hd₂ hne₂ hkey connId hc
    · exact fun hc' => hj₂.apart id₁ d₁ hd₁ hne₁ hkey.symm connId hc' hc
    · exact h.apart id₁ d₁ id₂ d₂ hd₁ hd₂ hne hkey connId hc
  fresh id' d' hd connId hc := by
    rw [hm.own] at hc
    rcases hm.delivery_cases hd with ⟨-, hj⟩ | ⟨hne, hd⟩
    · exact hj.fresh connId hc
    · exact hm.fresh h hd hne hc
  account _ ha _ ht := hm.account_of_mem h ha ht
  covered _ ha _ hc := hm.covered_of_mem h ha (hm.own ▸ hc)

end Advances

/-- A request that is admitted finds what has been given of its envelope neither marked nor still
going on. -/
theorem Sound.not_given (h : L.Sound) (ha : L.st.Admits request) (hp : L.Apart request)
    (hc : connId ∈ L.st.own request.targets) : ¬L.Given request connId L.st.now := by
  rintro ⟨a, hmem, hkey, hlt, hturn⟩
  have hmarked := fun hu => (hp.2 connId hc a hmem hkey).2 hu hlt hturn
  rcases h.account a hmem connId hturn with ⟨d, hd, -⟩ | hfailed | hdisposed | hold |
    ⟨until', hget, hle⟩
  · exact hmarked (.inl (by rw [hd]; rfl))
  · exact hmarked (.inr hfailed)
  · rw [ha.1] at hdisposed
    cases hdisposed
  · exact absurd hlt (Nat.not_lt.2 hold)
  · have hfresh := Option.filter_eq_none_iff.1 ha.2.2 until' (by rw [← hkey.2.2]; exact hget)
    exact absurd (decide_eq_true (hlt.trans_le hle)) hfresh

/-- The turns that a request takes when it is admitted give nobody anything. -/
theorem mem_turns_of_passed {targets : List ConnRef} {call : ℕ}
    (ht : ⟨call, connId, .able⟩ ∈ L.st.passed id targets ++ L.turns) :
    ⟨call, connId, .able⟩ ∈ L.turns :=
  (List.mem_append.1 ht).resolve_left fun hpassed => absurd rfl (mem_passed hpassed).2

/-- A request that has just been admitted has given nobody anything. -/
theorem Sound.notMem_turns_of_passed (h : L.Sound) {targets : List ConnRef} :
    ⟨L.st.nextCall, connId, .able⟩ ∉ L.st.passed L.st.nextCall targets ++ L.turns := fun ht =>
  absurd (h.turn_lt _ (mem_turns_of_passed ht)) (Nat.lt_irrefl _)

/-- What an admitted request has still to do joins the record. -/
theorem Sound.joins_admitted (h : L.Sound) (ha : L.st.Admits request) (hp : L.Apart request)
    (hup : L.st.upcoming request L.st.now [] request.targets = some d) :
    L.Joins (L.step (.deliverCluster request)) L.st.nextCall d := by
  rw [step_of_admits ha]
  obtain ⟨hr, hs, -, hsuf, hn, hauth⟩ := upcoming_spec hup
  have hnames := (@own_sublist L.st _ _ hsuf).subset
  refine ⟨?_, hn, hauth, hp.1.sublist (own_sublist hsuf), ?_, ?_⟩
  · rw [hr, hs]
    exact List.mem_cons_self
  · intro id' d' hd' _ hkey connId hc hin
    rw [hr] at hkey
    exact (hp.2 connId (hnames hc) _ (h.admitted id' d' hd') hkey.symm).1
      (mem_remaining.2 ⟨d', hd', hin⟩)
  · rintro connId hc ⟨a, hmem, hkey, hlt, ht⟩
    rw [hr] at hkey
    rw [deps_step, hs] at hlt
    rcases List.mem_cons.1 hmem with rfl | hmem
    · exact h.notMem_turns_of_passed ht
    · exact h.not_given ha hp (hnames hc) ⟨a, hmem, hkey, hlt, mem_turns_of_passed ht⟩

/-- An admitted request moves on to its first target that is ready. -/
theorem Sound.advances_admitted (h : L.Sound) (ha : L.st.Admits request) (hp : L.Apart request) :
    L.Advances (L.step (.deliverCluster request)) L.st.nextCall
      (L.st.upcoming request L.st.now [] request.targets) := by
  have hf := @follows_deliverCluster L.st request
  have hnumbered := numbered_step h.numbered (.deliverCluster request)
  have hown := own_step L.st (.deliverCluster request)
  have hdelivery := delivery_admitted ha h.numbered
  have hnext : L.st.nextCall < (L.st.step (.deliverCluster request)).nextCall := by
    rw [(step_handles L.st (.deliverCluster request)).nextCall]
    exact Nat.lt_succ_self _
  rw [← L.step_st] at hf hnumbered hown hdelivery hnext
  obtain ⟨hadmitted, hturns, hfailed⟩ : (L.step (.deliverCluster request)).admitted =
        ⟨L.st.nextCall, request, L.st.now⟩ :: L.admitted ∧
      (L.step (.deliverCluster request)).turns =
        L.st.passed L.st.nextCall request.targets ++ L.turns ∧
      (L.step (.deliverCluster request)).failed = L.failed := by
    rw [step_of_admits ha]
    exact ⟨rfl, rfl, rfl⟩
  have hjoins {d : Delivery} := @Sound.joins_admitted request d L h ha hp
  generalize L.step (.deliverCluster request) = L' at *
  have hself {a : Admission} (hmem : a ∈ L'.admitted) (hid : a.call = L.st.nextCall) :
      a = ⟨L.st.nextCall, request, L.st.now⟩ := by
    rw [hadmitted] at hmem
    exact (List.mem_cons.1 hmem).resolve_right fun hold => absurd hid (h.call_lt a hold).ne
  have hnobody {connId : JsString} (ht : ⟨L.st.nextCall, connId, .able⟩ ∈ L'.turns) : False :=
    h.notMem_turns_of_passed (hturns ▸ ht)
  constructor
  case follows => exact hf
  case numbered => exact hnumbered
  case own => exact hown
  case call_lt => exact hnext
  case delivery => exact hdelivery
  case admission =>
    intro a hmem hne
    rw [hadmitted] at hmem
    exact (List.mem_cons.1 hmem).resolve_left fun heq => hne (heq ▸ rfl)
  case admitted =>
    rw [hadmitted]
    exact List.subset_cons_self _ _
  case unique =>
    intro a hmem a' hmem' hid hid'
    exact (hself hmem hid).trans (hself hmem' hid').symm
  case turn =>
    intro turn ht hne
    rw [hturns, List.mem_append] at ht
    exact ht.resolve_left fun hpassed => hne (mem_passed hpassed).1
  case turns =>
    rw [hturns]
    exact List.subset_append_right _ _
  case failed => exact hfailed ▸ List.Subset.refl _
  case given => exact fun a _ connId _ ht => (hnobody ht).elim
  case account => exact fun a _ connId _ ht => (hnobody ht).elim
  case covered =>
    intro a hmem hid connId hc
    obtain rfl := hself hmem hid
    rw [hturns]
    exact (upcoming_or_passed hc L.st.nextCall).imp_right fun hpassed =>
      ⟨.absent, List.mem_append_left _ hpassed⟩
  case joins => exact fun d hup => hjoins hup

/-- A request that goes on or ends after it has reached somebody is accounted for. -/
theorem after_or_settled (hd : L.st.delivery id = some d) (hreached : d.reached ok ≠ []) :
    (∃ d', L.st.after d ok = some d' ∧ d'.delivered ≠ []) ∨
      (L.step (.resume id (.valid ok))).Settled ⟨id, d.request, d.startedAt⟩ := by
  cases hfails : L.st.fails d ok with
  | true =>
    refine .inr (.inl ?_)
    rw [step_of_delivery hd, hfails]
    exact List.mem_cons_self
  | false =>
    cases hafter : L.st.after d ok with
    | some d' => exact .inl ⟨d', rfl, by rwa [(after_spec hafter).2.2.1]⟩
    | none =>
      have hfinishes : L.st.finishes d ok = true := by
        rw [finishes, hfails, hafter]
        simpa using hreached
      refine .inr (.inr (.inr (.inr ⟨_, ?_, le_rfl⟩)))
      rw [step_st, (step_delivering hd ok).2, if_pos hfinishes, deps_step]
      exact JsMap.get_set_self _ _ _

/-- What is left of a request whose check is answered joins the record. -/
theorem Sound.joins_answered (h : L.Sound) (hd : L.st.delivery id = some d) {d' : Delivery}
    (hafter : L.st.after d ok = some d') : L.Joins (L.step (.resume id (.valid ok))) id d' := by
  rw [step_of_delivery hd]
  obtain ⟨hr, hs, -, hsuf, hn, hauth⟩ := after_spec hafter
  have hleft := @own_left L.st d (h.target id d hd)
  have hnodup := h.nodup id d hd
  rw [hleft, List.nodup_cons] at hnodup
  have hrest {connId : JsString} (hc : connId ∈ L.st.own d'.left) : connId ∈ L.st.own d.rest :=
    (own_sublist hsuf).subset hc
  have hstill {connId : JsString} (hc : connId ∈ L.st.own d'.left) : connId ∈ L.st.own d.left := by
    rw [hleft]
    exact List.mem_cons_of_mem _ (hrest hc)
  refine ⟨?_, hn, hauth, hnodup.2.sublist (own_sublist hsuf), ?_, ?_⟩
  · rw [hr, hs]
    exact h.admitted id d hd
  · intro id₂ d₂ hd₂ hne hkey connId hc
    rw [hr] at hkey
    exact h.apart id d id₂ d₂ hd hd₂ hne.symm hkey connId (hstill hc)
  · rintro connId hc ⟨a, hmem, hkey, hlt, ht⟩
    rw [hr] at hkey
    rw [deps_step, hs] at hlt
    -- the target has had its turn, and is not among the rest
    rcases List.mem_append.1 ht with hnew | hold
    · obtain ⟨-, hgiven⟩ := mem_turns hnew
      exact hnodup.1 ((hgiven rfl).1 ▸ hrest hc)
    · exact h.fresh id d hd connId (hstill hc) ⟨a, hmem, hkey, hlt, hold⟩

/-- The request whose check is answered moves on to what is left of it. -/
theorem Sound.advances_answered (h : L.Sound) (hd : L.st.delivery id = some d) (ok : Bool)
    (ho : L.Orderly (.resume id (.valid ok))) :
    L.Advances (L.step (.resume id (.valid ok))) id (L.st.after d ok) := by
  have hf := follows_delivering hd ok (ho.inOrder (id, ok) rfl d hd)
  have hnumbered := numbered_step h.numbered (.resume id (.valid ok))
  have hown := own_step L.st (.resume id (.valid ok))
  have hdelivery := (step_delivering hd ok).1
  rw [← L.step_st] at hf hnumbered hown hdelivery
  obtain ⟨hadmitted, hturns, hfailed⟩ :
      (L.step (.resume id (.valid ok))).admitted = L.admitted ∧
      (L.step (.resume id (.valid ok))).turns = L.st.turns id d ok ++ L.turns ∧
      L.failed ⊆ (L.step (.resume id (.valid ok))).failed := by
    rw [step_of_delivery hd]
    refine ⟨rfl, rfl, ?_⟩
    dsimp only
    split_ifs
    · exact List.subset_cons_self _ _
    · exact List.Subset.refl _
  have hsettled := @after_or_settled id d ok L hd
  have hjoins {d' : Delivery} := @Sound.joins_answered id d ok L h hd d'
  generalize L.step (.resume id (.valid ok)) = L' at *
  have hself {a : Admission} (hmem : a ∈ L'.admitted) (hid : a.call = id) :
      a = ⟨id, d.request, d.startedAt⟩ :=
    h.unique a (hadmitted ▸ hmem) _ (h.admitted id d hd) hid
  -- The only connection that is given anything is the target, and its turn is over.
  have htrue {connId : JsString} (ht : ⟨id, connId, .able⟩ ∈ L'.turns) :
      ⟨id, connId, .able⟩ ∈ L.turns ∨ connId = d.target.connId ∧ L.st.takes d ok = true := by
    rw [hturns, List.mem_append] at ht
    exact ht.symm.imp_right fun hnew => (mem_turns hnew).2 rfl
  have hleft := @own_left L.st d (h.target id d hd)
  constructor
  case follows => exact hf
  case numbered => exact hnumbered
  case own => exact hown
  case call_lt => exact (h.call_lt _ (h.admitted id d hd)).trans_le hf.nextCall
  case delivery => exact hdelivery
  case admission => exact fun a hmem _ => hadmitted ▸ hmem
  case admitted => exact hadmitted ▸ List.Subset.refl _
  case unique =>
    intro a hmem a' hmem' hid hid'
    exact (hself hmem hid).trans (hself hmem' hid').symm
  case turn =>
    intro turn ht hne
    rw [hturns, List.mem_append] at ht
    exact ht.resolve_left fun hnew => hne (mem_turns hnew).1
  case turns =>
    rw [hturns]
    exact List.subset_append_right _ _
  case failed => exact hfailed
  case given =>
    intro a hmem connId hid ht
    refine (htrue ht).imp (fun hold => ⟨hadmitted ▸ hmem, hold⟩) ?_
    rintro ⟨rfl, -⟩ id' d' hd' hne hkey
    obtain rfl := hself hmem hid
    exact h.apart id d id' d' hd hd' hne.symm hkey _ (hleft ▸ List.mem_cons_self)
  case account =>
    intro a hmem connId hid ht
    obtain rfl := hself hmem hid
    rcases htrue ht with hold | ⟨-, htakes⟩
    · rcases h.account _ (h.admitted id d hd) connId hold with ⟨d', hd', hne⟩ | hs
      · obtain rfl := Option.some.inj (hd.symm.trans hd')
        exact hsettled (@reached_ne_nil L.st _ _ (.inl hne))
      · exact .inr (hs.follows hf hfailed)
    · exact hsettled (reached_ne_nil (.inr htakes))
  case covered =>
    intro a hmem hid connId hc
    obtain rfl := hself hmem hid
    rw [hturns]
    rcases h.covered _ (h.admitted id d hd) connId hc with hin | ⟨standing, ht⟩
    · obtain ⟨d', hd', hin⟩ := mem_remaining.1 hin
      obtain rfl := Option.some.inj (hd.symm.trans hd')
      exact (after_or_turns (h.target id d hd) hin id ok).imp_right fun ⟨standing, ht⟩ =>
        ⟨standing, List.mem_append_left _ ht⟩
    · exact .inr ⟨standing, List.mem_append_right _ ht⟩
  case joins => exact fun d' hafter => hjoins hafter

/-- **An orderly event keeps the record sound.** -/
theorem Sound.step (h : L.Sound) (ho : L.Orderly e) : (L.step e).Sound := by
  rcases L.rests_or e with hr | ⟨request, rfl, ha⟩ | ⟨id, ok, d, rfl, hd⟩
  · rw [step_of_rests hr]
    exact h.rests hr
  · exact (h.advances_admitted ha (ho.apart request rfl ha)).sound h
  · exact (h.advances_answered hd ok ho).sound h

/-- The record says what the queues took. -/
theorem Sound.recorded (h : L.Sound) (e : Event) : L.Recorded e := by
  rintro ⟨id, ok⟩ hp d hd
  obtain rfl : e = .resume id (.valid ok) := Event.answered_eq_some.1 hp
  rw [standing_eq_able_iff]
  exact enqueued_iff_takes hd (h.auth id d hd) ok

/-- Whoever gets an envelope has not been given it before. -/
theorem Sound.once (h : L.Sound) (e : Event) : L.Once e :=
  fun p _ d hd _ =>
    h.fresh p.1 d hd _ (own_left (h.target p.1 d hd) ▸ List.mem_cons_self)

/-- What is suppressed has been given. -/
theorem Sound.unsuppressed (h : L.Sound) (ho : L.Orderly e) : L.Unsuppressed e := by
  intro request he hs connId hc
  obtain ⟨a, hmem, hkey, hlt, hin, hleft, hable⟩ := ho.repeats request he hs connId hc
  obtain ⟨standing, ht⟩ := (h.covered a hmem connId hin).resolve_left hleft
  obtain rfl : standing = .able := hable _ ht rfl rfl
  exact ⟨a, hmem, hkey, hlt, ht⟩

/-- Each envelope of a sender goes to each connection at most once within the TTL, and a request is
suppressed for no connection that has not been given its envelope; what is given is what the queues
took. -/
def Deduplicates (deps : WebSocketRuntimeDeps) (es : List Event) : Prop :=
  Machine.Along step (fun L e => L.Recorded e ∧ L.Once e ∧ L.Unsuppressed e) (create deps) es

/-- **In a run whose events are orderly, relayed requests are deduplicated.** -/
theorem deduplicates (deps : WebSocketRuntimeDeps) (es : List Event)
    (h : Machine.Along step Orderly (create deps) es) : Deduplicates deps es :=
  h.imp (sound_create deps) (fun _ _ hs ho => hs.step ho)
    fun _ e hs ho => ⟨hs.recorded e, hs.once e, hs.unsuppressed ho⟩

instance (L : Ledger) (request : DeliverRequest) (connId : JsString) (now : ℕ) :
    Decidable (L.Given request connId now) :=
  inferInstanceAs (Decidable (∃ a ∈ L.admitted, _ ∧ _ ∧ _))

instance (L : Ledger) (e : Event) : Decidable (L.Once e) :=
  inferInstanceAs (Decidable (∀ p ∈ e.answered, ∀ d ∈ L.st.delivery p.1, _ → _))

instance (L : Ledger) (a : Admission) : Decidable (L.Unmarked a) :=
  inferInstanceAs (Decidable (_ ∨ _))

instance (L : Ledger) (request : DeliverRequest) : Decidable (L.Apart request) :=
  inferInstanceAs (Decidable (_ ∧ ∀ connId ∈ _, ∀ a ∈ L.admitted, _ → _ ∧ (_ → _ → _)))

instance (L : Ledger) (request : DeliverRequest) : Decidable (L.Repeats request) :=
  inferInstanceAs (Decidable (∀ connId ∈ _, ∃ a ∈ L.admitted, _ ∧ _ ∧ _ ∧ _ ∧ _))

instance (L : Ledger) (d : Delivery) (ok : Bool) : Decidable (L.InOrder d ok) :=
  inferInstanceAs (Decidable (_ → ∀ until' ∈ _, _ → _))

instance (L : Ledger) (e : Event) : Decidable (L.Orderly e) :=
  decidable_of_iff ((∀ request ∈ e.requested, L.st.Admits request → L.Apart request) ∧
    (∀ request ∈ e.requested, L.st.Suppresses request → L.Repeats request) ∧
    ∀ p ∈ e.answered, ∀ d ∈ L.st.delivery p.1, L.InOrder d p.2)
    ⟨fun ⟨hapart, hrepeats, horder⟩ => ⟨hapart, hrepeats, horder⟩,
      fun h => ⟨h.apart, h.repeats, h.inOrder⟩⟩

/-- Carol's message comes, goes to Alice and Bob, and comes again. -/
theorem deduplicates_fromCarol : Deduplicates { nodeId := js "n" }
    (aliceAndBob ++ [.deliverCluster fromCarol, .resume 2 (.valid true), .resume 2 (.valid true),
      .deliverCluster fromCarol]) :=
  deduplicates { nodeId := js "n" } _ (by decide +kernel)

/-- Carol's message comes a second time while Alice is still checked: she gets it twice. -/
theorem alice_gets_two : ¬∀ deps es, Deduplicates deps es := by
  intro h
  have honce : Machine.Along step Once (create { nodeId := js "n" }) (aliceAndBob ++
      [.deliverCluster fromCarol, .deliverCluster fromCarol, .resume 2 (.valid true),
        .resume 3 (.valid true)]) :=
    Machine.Along.mono (h _ _) fun _ _ hall => hall.2.1
  revert honce
  decide +kernel

end Ledger

end WebSocketRuntime

end Hardess
