import Hardess.Ingress.Identity
import Hardess.Lib.Machine

/-!
# The two loops over the targets of a message

The loop of `attemptDelivery` catches the error of a target and goes on; the loop of
`deliverCluster` does not.

* `isolated`: the targets at whose turn the message is taken, where no target stops another;
* `near_loop`: the loop of `attemptDelivery` ends with these targets, whichever fail;
* `far_loop`: the effects of the loop of `deliverCluster`, which stops at the first that fails;
* `isolates_iff`: `deliverCluster` reports and reaches the same targets exactly when no target
  fails and none is closed.
-/

namespace Hardess

/-- The effect is a report of the call, or hands the message over. -/
def Effect.Concerns (id : ℕ) (outbound : OutboundMessage) : Effect → Prop
  | .delivered id' _ => id' = id
  | .enqueued _ message => message = outbound
  | _ => False

namespace WebSocketRuntime

/-! ### What should be reported -/

section reference

variable (outbound : OutboundMessage) (ok : ConnRef → Bool)

/-- The targets at whose turn the message is taken; `ok` says which connections are in the table,
authenticated and valid. -/
def isolated : WebSocketRuntime → List ConnRef → List ConnRef
  | _, [] => []
  | st, target :: rest =>
    if ok target then
      match st.enqueueOutbound target.connId outbound with
      | (st₁, none) => target :: isolated st₁ rest
      | (st₁, some _) => isolated st₁ rest
    else isolated st rest

/-- No target fails at its turn. -/
def Accepts : WebSocketRuntime → List ConnRef → Prop
  | _, [] => True
  | st, target :: rest =>
    if ok target then
      st.enqueueError target.connId outbound = none ∧
        Accepts (st.enqueueOutbound target.connId outbound).1 rest
    else Accepts st rest

/-- What `deliverCluster` makes of the targets. -/
def farResult : WebSocketRuntime → List ConnRef → List ConnRef →
    Except EgressError (List ConnRef)
  | _, delivered, [] => .ok delivered
  | st, delivered, target :: rest =>
    if ok target then
      match st.enqueueOutbound target.connId outbound with
      | (st₁, none) => farResult st₁ (delivered ++ [target]) rest
      | (_, some error) => .error error
    else farResult st delivered rest

/-- The connections that get the message from `deliverCluster`. -/
def farReached : WebSocketRuntime → List ConnRef → List JsString
  | _, [] => []
  | st, target :: rest =>
    if ok target then
      match st.enqueueOutbound target.connId outbound with
      | (st₁, none) =>
        (if st.isClosed target.connId then [] else [target.connId]) ++ farReached st₁ rest
      | (_, some _) => []
    else farReached st rest

end reference

variable {st r s : WebSocketRuntime} {outbound : OutboundMessage} {ok : ConnRef → Bool}

/-- A target that does not fail closes nothing. -/
theorem isClosed_of_accepted {connId : JsString} (h : st.enqueueError connId outbound = none)
    (connId' : JsString) :
    (st.enqueueOutbound connId outbound).1.isClosed connId' = st.isClosed connId' := by
  obtain ⟨new, -, hcarries, hclosed⟩ := (@enqueueOutbound_keeps st connId outbound).effects
  have hiff := hclosed connId'
  have hcloses : ¬Closes connId' new ∨ st.isClosed connId' = true := by
    by_cases hc : Closes connId' new
    · refine .inr ?_
      obtain ⟨code, reason, hmem⟩ := hc
      obtain rfl : connId' = connId := hcarries _ hmem
      by_cases ho : st.objects.has connId' = true
      · have hafter := (hclosed connId').2 (.inr ⟨code, reason, hmem⟩)
        exact ((isClosed_enqueueOutbound ho outbound).1 hafter).resolve_right (by simp [h])
      · have hnone : st.objects.get connId' = none := by simpa [JsMap.has] using ho
        have hafter := (hclosed connId').2 (.inr ⟨code, reason, hmem⟩)
        unfold enqueueOutbound at hafter
        rw [hnone] at hafter
        exact hafter
    · exact .inl hc
  rw [Bool.eq_iff_iff, hiff]
  exact ⟨fun hor => hor.elim id fun hc => hcloses.elim (fun hn => absurd hc hn) id, .inl⟩

theorem farResult_eq_ok_iff (targets : List ConnRef) : ∀ (st : WebSocketRuntime)
    (delivered delivered' : List ConnRef),
    farResult outbound ok st delivered targets = .ok delivered' ↔
      Accepts outbound ok st targets ∧ delivered' = delivered ++ targets.filter ok := by
  induction targets with
  | nil => simp [farResult, Accepts, eq_comm]
  | cons target rest ih =>
    intro st delivered delivered'
    rw [farResult, Accepts]
    by_cases hok : ok target = true
    · rw [if_pos hok, if_pos hok, List.filter_cons_of_pos hok, ← enqueueOutbound_error]
      cases hq : st.enqueueOutbound target.connId outbound with
      | mk st₁ error =>
        cases error with
        | none => simp [ih]
        | some error => simp
    · rw [if_neg hok, if_neg hok, List.filter_cons_of_neg hok]
      exact ih st delivered delivered'

theorem isolated_of_accepts (targets : List ConnRef) : ∀ st : WebSocketRuntime,
    Accepts outbound ok st targets → isolated outbound ok st targets = targets.filter ok := by
  induction targets with
  | nil => exact fun _ _ => rfl
  | cons target rest ih =>
    intro st h
    rw [Accepts] at h
    rw [isolated]
    by_cases hok : ok target = true
    · rw [if_pos hok, ← enqueueOutbound_error] at h
      rw [if_pos hok, List.filter_cons_of_pos hok]
      cases hq : st.enqueueOutbound target.connId outbound with
      | mk st₁ error =>
        rw [hq] at h
        obtain rfl : error = none := h.1
        exact congrArg (target :: ·) (ih st₁ h.2)
    · rw [if_neg hok] at h
      rw [if_neg hok, List.filter_cons_of_neg hok]
      exact ih st h

theorem mem_farReached (targets : List ConnRef) : ∀ st : WebSocketRuntime,
    Accepts outbound ok st targets → ∀ connId, connId ∈ farReached outbound ok st targets ↔
      st.isClosed connId = false ∧ ∃ target ∈ targets.filter ok, target.connId = connId := by
  induction targets with
  | nil => simp [farReached]
  | cons target rest ih =>
    intro st h connId
    rw [Accepts] at h
    rw [farReached]
    by_cases hok : ok target = true
    · rw [if_pos hok] at h
      rw [if_pos hok, List.filter_cons_of_pos hok]
      have hclosed := isClosed_of_accepted h.1 connId
      have herror := (@enqueueOutbound_error st target.connId outbound).trans h.1
      cases hq : st.enqueueOutbound target.connId outbound with
      | mk st₁ error =>
        rw [hq] at h hclosed herror
        obtain rfl : error = none := herror
        have hrest := ih st₁ h.2 connId
        rw [hclosed] at hrest
        simp only [List.mem_append, hrest, List.mem_cons, exists_eq_or_imp]
        by_cases hc : st.isClosed target.connId = true
        · rw [if_pos hc]
          simp only [List.not_mem_nil, false_or]
          refine and_congr_right fun hopen => (or_iff_right ?_).symm
          rintro rfl
          rw [hc] at hopen
          cases hopen
        · rw [if_neg hc, List.mem_singleton]
          rw [Bool.not_eq_true] at hc
          -- a target that is named twice counts once
          constructor
          · rintro (rfl | ⟨hopen, hex⟩)
            · exact ⟨hc, .inl rfl⟩
            · exact ⟨hopen, .inr hex⟩
          · rintro ⟨hopen, rfl | hex⟩
            · exact .inl rfl
            · exact .inr ⟨hopen, hex⟩
    · rw [if_neg hok] at h
      rw [if_neg hok, List.filter_cons_of_neg hok]
      exact ih st h connId

/-! ### The loops -/

/-- The effect is one of the state's, or one of a step of the run. -/
def Emits (st : WebSocketRuntime) (es : List Event) (x : Effect) : Prop :=
  x ∈ st.effects ∨ Machine.Past step st es fun s e => x ∈ (s.step e).effects

theorem emits_nil {x : Effect} : st.Emits [] x ↔ x ∈ st.effects :=
  or_iff_left Machine.past_nil

theorem emits_cons {e : Event} {es : List Event} {x : Effect} :
    st.Emits (e :: es) x ↔ x ∈ st.effects ∨ (st.step e).Emits es x := by
  unfold Emits
  rw [Machine.past_cons_iff]

/-- The queues, the options and the table of connections are the same. -/
structure Agrees (r s : WebSocketRuntime) : Prop where
  objects : s.objects = r.objects
  deps : s.deps = r.deps
  connections : s.connections = r.connections

/-- What a message does is the same where the queues are the same. -/
theorem Agrees.enqueueOutbound (h : Agrees r s) (connId : JsString) (message : OutboundMessage) :
    (s.enqueueOutbound connId message).2 = (r.enqueueOutbound connId message).2 ∧
      Agrees (r.enqueueOutbound connId message).1 (s.enqueueOutbound connId message).1 := by
  have hmod (f : ConnectionState → ConnectionState) :
      Agrees (r.modify connId f) (s.modify connId f) := by
    unfold WebSocketRuntime.modify
    rw [h.objects]
    split
    · exact h
    · exact ⟨rfl, h.deps, h.connections⟩
  unfold WebSocketRuntime.enqueueOutbound
  rw [h.objects, h.deps]
  cases r.objects.get connId with
  | none => exact ⟨rfl, h⟩
  | some connection =>
    dsimp only
    split_ifs
    · exact ⟨rfl, (hmod _).objects, (hmod _).deps, (hmod _).connections⟩
    · split <;> exact ⟨rfl, (hmod _).objects, (hmod _).deps, (hmod _).connections⟩

/-- The effects of a message, on an open connection that takes it. -/
theorem mem_enqueueOutbound_iff {connId : JsString} (ho : s.objects.has connId = true)
    (message : OutboundMessage) (connId' : JsString) (message' : OutboundMessage) :
    .enqueued connId' message' ∈ (s.enqueueOutbound connId message).1.effects ↔
      .enqueued connId' message' ∈ s.effects ∨ (connId' = connId ∧ message' = message ∧
        s.isClosed connId = false ∧ s.enqueueError connId message = none) := by
  obtain ⟨connection, hc⟩ := Option.isSome_iff_exists.1 ho
  have hegress (l : List (EgressEffect OutboundMessage)) :
      .enqueued connId' message' ∉ l.map (Effect.egress connId) := by
    intro hmem
    obtain ⟨x, -, heq⟩ := List.mem_map.1 hmem
    cases heq
  unfold enqueueOutbound enqueueError isClosed
  rw [hc]
  dsimp only [Option.any_some]
  generalize connection.egress.enqueueOutbound s.deps.outbound (s.deps.wire connId) message
    (s.deps.bytes message) = result
  obtain ⟨egress, error, effects⟩ := result
  by_cases hclosed : connection.egress.closed = true
  · rw [if_pos hclosed, if_pos hclosed]
    simp [modifyEgress, hegress, hclosed]
  · rw [if_neg hclosed, if_neg hclosed]
    cases error <;> simp [modifyEgress, emit, hegress, hclosed]

section loops

variable {ready valid : ConnRef → Bool} {id : ℕ}

/-- The answers that the loop over the targets waits for. -/
def answersTo (ready valid : ConnRef → Bool) (id : ℕ) (targets : List ConnRef) : List Event :=
  (targets.filter ready).map fun target => .resume id (.valid (valid target))

/-- The connections of this node that are in the table and authenticated. -/
def Readies (ready : ConnRef → Bool) (s : WebSocketRuntime) : Prop :=
  ∀ target, ready target = true ↔
    s.Online target.connId ∧ target.nodeId = s.deps.nodeId

theorem Readies.keeps {P : Effect → Prop} (h : Readies ready s) {s' : WebSocketRuntime}
    (k : Keeps P s s') : Readies ready s' := fun target => by
  rw [k.online, k.deps]
  exact h target

/-- Answers for a call that is over do nothing. -/
theorem emits_over (es : List Event) : ∀ s : WebSocketRuntime, s.calls.get id = none →
    (∀ e ∈ es, ∃ answer, e = .resume id answer) → ∀ x, s.Emits es x ↔ x ∈ s.effects := by
  induction es with
  | nil => exact fun s _ _ x => emits_nil
  | cons e es ih =>
    intro s hs hes x
    obtain ⟨answer, rfl⟩ := hes e List.mem_cons_self
    have hstep : s.step (.resume id answer) = s.cleared := by
      show s.cleared.resume id answer = _
      unfold resume
      rw [show s.cleared.calls.get id = none from hs]
    rw [emits_cons, hstep, ih s.cleared hs fun e he => hes e (List.mem_cons_of_mem _ he)]
    simp [cleared]

theorem mem_answersTo {targets : List ConnRef} {e : Event}
    (h : e ∈ answersTo ready valid id targets) : ∃ answer, e = .resume id answer := by
  obtain ⟨target, -, rfl⟩ := List.mem_map.1 h
  exact ⟨_, rfl⟩

theorem answersTo_cons (target : ConnRef) (rest : List ConnRef) :
    answersTo ready valid id (target :: rest) =
      (if ready target then [.resume id (.valid (valid target))] else []) ++
        answersTo ready valid id rest := by
  unfold answersTo
  split_ifs with h <;> simp [h]

/-- The effects of the loop of `deliverCluster`. -/
def farEffects (outbound : OutboundMessage) (ok : ConnRef → Bool) (id : ℕ)
    (r : WebSocketRuntime) (delivered targets : List ConnRef) : List Effect :=
  (farReached outbound ok r targets).map (.enqueued · outbound) ++
    [.delivered id (farResult outbound ok r delivered targets)]

/-- What a target that takes the message adds to the effects. -/
theorem mem_accepted_iff {connId : JsString} (ho : s.objects.has connId = true)
    (hs : s.effects = []) (he : s.enqueueError connId outbound = none) {x : Effect}
    (hx : x.Concerns id outbound) : x ∈ (s.enqueueOutbound connId outbound).1.effects ↔
      s.isClosed connId = false ∧ x = .enqueued connId outbound := by
  cases x with
  | enqueued connId' message =>
    obtain rfl : message = outbound := hx
    rw [mem_enqueueOutbound_iff ho, hs]
    simp [he, and_comm]
  | delivered id' result =>
    refine iff_of_false (fun hmem => ?_) (by simp)
    obtain ⟨new, hnew, hp, -⟩ := (@enqueueOutbound_keeps s connId outbound).effects
    rw [hnew, hs] at hmem
    exact hp _ hmem
  | _ => exact hx.elim

/-- A target that fails does not get the message. -/
theorem not_mem_failed {connId : JsString} (ho : s.objects.has connId = true)
    (hs : s.effects = []) (he : s.enqueueError connId outbound ≠ none) {x : Effect}
    (hx : x.Concerns id outbound) : x ∉ (s.enqueueOutbound connId outbound).1.effects := by
  intro hmem
  cases x with
  | enqueued connId' message =>
    obtain rfl : message = outbound := hx
    rw [mem_enqueueOutbound_iff ho, hs] at hmem
    simp [he] at hmem
  | delivered id' result =>
    obtain ⟨new, hnew, hp, -⟩ := (@enqueueOutbound_keeps s connId outbound).effects
    rw [hnew, hs] at hmem
    exact hp _ hmem
  | _ => exact hx

/-- A target at whose turn the connection is valid, with the rest of the loop. -/
theorem far_target {request : DeliverRequest} {startedAt : ℕ} {x : Effect}
    (hx : x.Concerns id (.envelope request.envelope)) {target : ConnRef} {rest : List ConnRef}
    {delivered : List ConnRef} (hok : (ready target && valid target) = true)
    (ih : ∀ (r s : WebSocketRuntime) (delivered : List ConnRef), Agrees r s → Readies ready s →
      s.calls.get id = none →
      ((s.deliverNext id request startedAt delivered rest).Emits (answersTo ready valid id rest) x ↔
        x ∈ s.effects ∨ x ∈ farEffects (.envelope request.envelope)
          (fun t => ready t && valid t) id r delivered rest))
    (ha : Agrees r s) (hr : Readies ready s) (hid : s.calls.get id = none) (hs : s.effects = []) :
    (s.deliverTarget id request startedAt delivered target rest true).Emits
      (answersTo ready valid id rest) x ↔
        x ∈ farEffects (.envelope request.envelope) (fun t => ready t && valid t) id r delivered
          (target :: rest) := by
  have ho := has_of_authOf ((hr target).1 (Bool.and_eq_true_iff.1 hok).1).1.2
  unfold deliverTarget
  simp only [if_true]
  generalize hs₁ : (if request.ack = .none then s
    else s.setPendingHandleAck request.envelope.msgId request.sender
      (startedAt + s.deps.pendingTtl)) = s₁
  -- what is remembered for the acknowledgement does not matter for the loop
  have hframe : Agrees r s₁ ∧ Readies ready s₁ ∧ s₁.calls.get id = none ∧ s₁.effects = [] ∧
      s₁.objects.has target.connId = true := by
    rw [← hs₁]
    split_ifs
    · exact ⟨ha, hr, hid, hs, ho⟩
    · exact ⟨⟨ha.objects, ha.deps, ha.connections⟩, hr, hid, hs, ho⟩
  obtain ⟨ha₁, hr₁, hid₁, hs₁, ho₁⟩ := hframe
  obtain ⟨herror, hagrees⟩ := ha₁.enqueueOutbound target.connId (.envelope request.envelope)
  have hkeeps := @enqueueOutbound_keeps s₁ target.connId (.envelope request.envelope)
  have hclosed : s₁.isClosed target.connId = r.isClosed target.connId := by
    unfold isClosed
    rw [ha₁.objects]
  have haccepted (he : s₁.enqueueError target.connId (.envelope request.envelope) = none) :=
    mem_accepted_iff ho₁ hs₁ he hx
  have hfailed (he : s₁.enqueueError target.connId (.envelope request.envelope) ≠ none) :=
    not_mem_failed ho₁ hs₁ he hx
  rw [← enqueueOutbound_error] at haccepted hfailed
  rw [farEffects, farReached, farResult, if_pos hok, if_pos hok]
  generalize s₁.enqueueOutbound target.connId (.envelope request.envelope) = result at *
  generalize r.enqueueOutbound target.connId (.envelope request.envelope) = result' at *
  obtain ⟨s₂, error⟩ := result
  obtain ⟨r₂, error'⟩ := result'
  obtain rfl : error = error' := herror
  cases error with
  | none =>
    dsimp only
    rw [ih r₂ s₂ _ hagrees (hr₁.keeps hkeeps) (by rw [hkeeps.calls]; exact hid₁),
      haccepted rfl, hclosed, farEffects]
    by_cases hc : r.isClosed target.connId = true
    · rw [if_pos hc, hc]
      simp
    · rw [if_neg hc, (Bool.not_eq_true _).mp hc]
      simp
  | some error =>
    -- the call has ended with the error: no later target is served
    have hover : (s₂.emit (.delivered id (.error error))).calls.get id = none := by
      show s₂.calls.get id = none
      rw [hkeeps.calls]
      exact hid₁
    dsimp only
    rw [emits_over _ _ hover fun e he => mem_answersTo he]
    simp only [emit, List.mem_append, List.map_nil, List.nil_append]
    exact or_iff_right (hfailed (by simp))

/-- **What the loop of `deliverCluster` does**, with the answers it waits for. -/
theorem far_loop {request : DeliverRequest} {startedAt : ℕ} {x : Effect}
    (hx : x.Concerns id (.envelope request.envelope)) (targets : List ConnRef) :
    ∀ (r s : WebSocketRuntime) (delivered : List ConnRef), Agrees r s → Readies ready s →
      s.calls.get id = none →
      ((s.deliverNext id request startedAt delivered targets).Emits
        (answersTo ready valid id targets) x ↔ x ∈ s.effects ∨
          x ∈ farEffects (.envelope request.envelope) (fun t => ready t && valid t) id r delivered
            targets) := by
  induction targets with
  | nil =>
    intro r s delivered _ _ _
    rw [deliverNext, show answersTo ready valid id [] = [] from rfl, emits_nil]
    simp only [emit, List.mem_append, farEffects, farReached, farResult, List.map_nil,
      List.nil_append]
    split_ifs <;> exact Iff.rfl
  | cons target rest ih =>
    intro r s delivered ha hr hid
    rw [answersTo_cons, deliverNext]
    have honline := hr target
    -- a target that is ready is checked, and the loop waits for the answer
    by_cases hready : ready target = true
    · obtain ⟨ho, hn⟩ := honline.1 hready
      rw [if_pos ⟨online_iff.2 ho, hn⟩, if_pos hready, List.singleton_append, emits_cons,
        step_resume (JsMap.get_set_self _ _ _)]
      refine or_congr Iff.rfl ?_
      have ha' : Agrees r { (s.await id (.delivering request startedAt delivered target rest)).cleared
          with calls := (s.await id (.delivering request startedAt delivered target
            rest)).calls.delete id } := ⟨ha.objects, ha.deps, ha.connections⟩
      by_cases hvalid : valid target = true
      · rw [hvalid]
        exact far_target hx (by rw [hready, hvalid]; rfl) ih ha' hr (JsMap.get_delete_self _ _) rfl
      · rw [(Bool.not_eq_true _).mp hvalid]
        refine (ih r _ delivered ha' hr (JsMap.get_delete_self _ _)).trans ?_
        rw [or_iff_right (by simp [cleared])]
        simp only [farEffects, farReached, farResult, hvalid, Bool.and_false]
        exact Iff.rfl
    · -- a target that has gone, or is on another node, is passed over without a check
      have hskip : ¬(((s.connection target.connId).bind (·.auth)).isSome = true ∧
          target.nodeId = s.deps.nodeId) := fun h => hready (honline.2 ⟨online_iff.1 h.1, h.2⟩)
      rw [if_neg hskip, if_neg hready, List.nil_append, ih r s delivered ha hr hid]
      refine or_congr Iff.rfl ?_
      simp only [farEffects, farReached, farResult, hready, Bool.false_and]
      exact Iff.rfl

/-- **The loop of `attemptDelivery` goes on after a target that fails**: it ends with the targets at
whose turn the message is taken. -/
theorem near_loop {send : SendCall} (targets : List ConnRef) :
    ∀ (r s : WebSocketRuntime) (delivered : List ConnRef), Agrees r s → Readies ready s →
      s.localEnvelope send = outbound → (∀ target ∈ targets, target.nodeId = s.deps.nodeId) →
      ∃ s' : WebSocketRuntime, Machine.run step (s.serveTargets id send delivered .empty targets)
        (answersTo ready valid id targets) = s'.attemptDone id send
          (delivered ++ isolated outbound (fun t => ready t && valid t) r targets) := by
  induction targets with
  | nil =>
    intro r s delivered _ _ _ _
    exact ⟨s, by simp [answersTo, isolated, serveTargets, JsMap.empty, relayNext]⟩
  | cons target rest ih =>
    intro r s delivered ha hr hout hown
    have hrest : ∀ target ∈ rest, target.nodeId = s.deps.nodeId :=
      fun t ht => hown t (List.mem_cons_of_mem _ ht)
    have hn := hown target List.mem_cons_self
    rw [answersTo_cons, serveTargets, if_neg (not_not.2 hn), isolated]
    by_cases hready : ready target = true
    · have ho := ((hr target).1 hready).1
      rw [if_pos (online_iff.2 ho), if_pos hready, List.singleton_append, Machine.run_cons,
        step_resume (JsMap.get_set_self _ _ _)]
      generalize hs₀ : ({ (s.await id (.checking send delivered .empty target rest)).cleared with
        calls := (s.await id (.checking send delivered .empty target rest)).calls.delete id } :
          WebSocketRuntime) = s₀
      -- the state in which the answer comes is that in which the call began to wait
      have hframe : Agrees r s₀ ∧ Readies ready s₀ ∧ s₀.localEnvelope send = outbound ∧
          s₀.deps = s.deps := by
        rw [← hs₀]
        exact ⟨⟨ha.objects, ha.deps, ha.connections⟩, hr, hout, rfl⟩
      obtain ⟨ha₀, hr₀, hout₀, hdeps⟩ := hframe
      rw [← hdeps] at hrest
      show ∃ s' : WebSocketRuntime, Machine.run step (s₀.serveTarget id send delivered .empty target rest
        (valid target)) _ = _
      unfold serveTarget
      rw [hready, Bool.true_and]
      by_cases hvalid : valid target = true
      · rw [if_pos hvalid, if_pos hvalid,
          show OutboundMessage.envelope _ = outbound from hout₀]
        obtain ⟨herror, hagrees⟩ := ha₀.enqueueOutbound target.connId outbound
        have hkeeps := @enqueueOutbound_keeps s₀ target.connId outbound
        generalize s₀.enqueueOutbound target.connId outbound = result at *
        generalize r.enqueueOutbound target.connId outbound = result' at *
        obtain ⟨s₁, error⟩ := result
        obtain ⟨r₁, error'⟩ := result'
        obtain rfl : error = error' := herror
        -- the source of the envelope is the context of the sender, which is the same
        have hout₁ : s₁.localEnvelope send = outbound := by
          rw [← hout₀]
          unfold localEnvelope sourceOf
          rw [hkeeps.authOf]
        rw [← hkeeps.deps] at hrest
        cases error with
        | none =>
          obtain ⟨s', hs'⟩ := ih r₁ s₁ (delivered ++ [target]) hagrees (hr₀.keeps hkeeps) hout₁ hrest
          exact ⟨s', by rw [hs', List.append_assoc]; rfl⟩
        | some error => exact ih r₁ s₁ delivered hagrees (hr₀.keeps hkeeps) hout₁ hrest
      · rw [if_neg hvalid, if_neg hvalid]
        exact ih r s₀ delivered ha₀ hr₀ hout₀ hrest
    · have hskip : ¬((s.connection target.connId).bind (·.auth)).isSome = true :=
        fun h => hready ((hr target).2 ⟨online_iff.1 h, hn⟩)
      rw [if_neg hskip, if_neg hready, List.nil_append, (Bool.not_eq_true _).mp hready,
        Bool.false_and, if_neg Bool.false_ne_true]
      exact ih r s delivered ha hr hout hrest

end loops

/-! ### Near and far -/

/-- The target is a connection of this node that is in the table and authenticated. -/
def ready (st : WebSocketRuntime) (target : ConnRef) : Bool :=
  ((st.connection target.connId).bind (·.auth)).isSome && target.nodeId = st.deps.nodeId

theorem Agrees.readies (h : Agrees r s) : Readies r.ready s := by
  intro target
  unfold ready Online authOf
  rw [Bool.and_eq_true_iff, online_iff, decide_eq_true_iff, h.connections, h.objects, h.deps]
  exact Iff.rfl

/-- The targets at whose turn the message of a request is taken; `valid` says which connections the
provider takes for valid. -/
def served (st : WebSocketRuntime) (request : DeliverRequest) (valid : ConnRef → Bool) :
    List ConnRef :=
  isolated (.envelope request.envelope) (fun t => st.ready t && valid t) st request.targets

/-- The loop of `attemptDelivery`, over the same targets, ends with those at whose turn the message
is taken. -/
def NearIsolates (st : WebSocketRuntime) (request : DeliverRequest) (valid : ConnRef → Bool) :
    Prop :=
  ∀ (s : WebSocketRuntime) (send : SendCall) (id : ℕ), Agrees st s →
    s.localEnvelope send = .envelope request.envelope →
    ∃ s' : WebSocketRuntime, Machine.run step (s.serveTargets id send [] .empty request.targets)
      (answersTo st.ready valid id request.targets) = s'.attemptDone id send (st.served request valid)

/-- `deliverCluster` reports the targets at whose turn the message is taken, once and as its only
report, and their connections are those that get it. -/
def FarIsolates (st : WebSocketRuntime) (request : DeliverRequest) (valid : ConnRef → Bool) : Prop :=
  let events := .deliverCluster request :: answersTo st.ready valid st.nextCall request.targets
  (∀ result, Machine.Past step st events (fun s e =>
      .delivered st.nextCall result ∈ (s.step e).effects) ↔
    result = .ok (st.served request valid)) ∧
  ∀ connId, Machine.Past step st events (fun s e =>
      .enqueued connId (.envelope request.envelope) ∈ (s.step e).effects) ↔
    ∃ target ∈ st.served request valid, target.connId = connId

theorem near_isolates {request : DeliverRequest} {valid : ConnRef → Bool}
    (hown : ∀ target ∈ request.targets, target.nodeId = st.deps.nodeId) :
    st.NearIsolates request valid := by
  intro s send id ha hout
  rw [← ha.deps] at hown
  exact near_loop request.targets st s [] ha ha.readies hout hown

/-- The effects of a request that is served, over its whole loop. -/
theorem past_deliverCluster {request : DeliverRequest} {valid : ConnRef → Bool}
    (h : st.Admits request) (hn : st.Numbered) {x : Effect}
    (hx : x.Concerns st.nextCall (.envelope request.envelope)) :
    Machine.Past step st
      (.deliverCluster request :: answersTo st.ready valid st.nextCall request.targets)
      (fun s e => x ∈ (s.step e).effects) ↔
    x ∈ farEffects (.envelope request.envelope) (fun t => st.ready t && valid t) st.nextCall st []
      request.targets := by
  rw [Machine.past_cons_iff]
  show (st.step (.deliverCluster request)).Emits _ x ↔ _
  have hstep := deliverCluster_of_admits
    (show Admits { st.cleared with nextCall := st.nextCall + 1 } request from h) st.nextCall
  rw [show st.step (.deliverCluster request) =
    ({ st.cleared with nextCall := st.nextCall + 1 } : WebSocketRuntime).deliverCluster st.nextCall
      request from rfl, hstep]
  generalize hs : ({ st.cleared with nextCall := st.nextCall + 1 } : WebSocketRuntime
    ).prunePendingHandleAcks.pruneRecentClusterDeliveries = s
  have ha : Agrees st s ∧ s.calls = st.calls ∧ s.effects = [] := by
    rw [← hs]
    exact ⟨⟨rfl, rfl, rfl⟩, rfl, rfl⟩
  obtain ⟨ha, hcalls, heffects⟩ := ha
  rw [far_loop hx request.targets st s [] ha ha.readies (by rw [hcalls, fresh_nextCall hn]),
    heffects]
  exact or_iff_right List.not_mem_nil

theorem mem_farEffects_delivered {r : WebSocketRuntime} {delivered targets : List ConnRef}
    {id : ℕ} {result : Except EgressError (List ConnRef)} :
    .delivered id result ∈ farEffects outbound ok id r delivered targets ↔
      result = farResult outbound ok r delivered targets := by
  simp [farEffects]

theorem mem_farEffects_enqueued {r : WebSocketRuntime} {delivered targets : List ConnRef}
    {id : ℕ} {connId : JsString} :
    .enqueued connId outbound ∈ farEffects outbound ok id r delivered targets ↔
      connId ∈ farReached outbound ok r targets := by
  simp [farEffects]

theorem farIsolates_iff {request : DeliverRequest} {valid : ConnRef → Bool}
    (h : st.Admits request) (hn : st.Numbered) : st.FarIsolates request valid ↔
      Accepts (.envelope request.envelope) (fun t => st.ready t && valid t) st request.targets ∧
        ∀ target ∈ request.targets, (st.ready target && valid target) = true →
          st.isClosed target.connId = false := by
  unfold FarIsolates served
  dsimp only
  simp only [past_deliverCluster h hn (show Effect.Concerns _ _ (.delivered st.nextCall _) from rfl),
    past_deliverCluster h hn (show Effect.Concerns _ _ (.enqueued _ _) from rfl),
    mem_farEffects_delivered, mem_farEffects_enqueued]
  constructor
  · rintro ⟨hresult, hreached⟩
    have hok := (hresult _).1 rfl
    have haccepts := ((farResult_eq_ok_iff request.targets st [] _).1 hok).1
    refine ⟨haccepts, fun target ht hserved => ?_⟩
    have hmem := (hreached target.connId).2 ⟨target, ?_, rfl⟩
    · exact ((mem_farReached request.targets st haccepts _).1 hmem).1
    · rw [isolated_of_accepts request.targets st haccepts]
      exact List.mem_filter.2 ⟨ht, hserved⟩
  · rintro ⟨haccepts, hopen⟩
    have hserved := isolated_of_accepts request.targets st haccepts
    rw [hserved]
    refine ⟨fun result => ?_, fun connId => ?_⟩
    · rw [(farResult_eq_ok_iff request.targets st [] _).2 ⟨haccepts, rfl⟩, List.nil_append]
    · rw [mem_farReached request.targets st haccepts]
      refine and_iff_right_of_imp ?_
      rintro ⟨target, ht, rfl⟩
      obtain ⟨hmem, hok⟩ := List.mem_filter.1 ht
      exact hopen target hmem hok

/-- **A relayed request reaches and reports exactly the targets that take it, as the local loop
does, exactly when no target fails and none that is served is closed.** -/
theorem isolates_iff (deps : WebSocketRuntimeDeps) (es : List Event) (request : DeliverRequest)
    (valid : ConnRef → Bool) (h : (Machine.run step (create deps) es).Admits request)
    (hown : ∀ target ∈ request.targets,
      target.nodeId = (Machine.run step (create deps) es).deps.nodeId) :
    (Machine.run step (create deps) es).NearIsolates request valid ∧
        (Machine.run step (create deps) es).FarIsolates request valid ↔
      Accepts (.envelope request.envelope)
          (fun t => (Machine.run step (create deps) es).ready t && valid t)
          (Machine.run step (create deps) es) request.targets ∧
        ∀ target ∈ request.targets,
          ((Machine.run step (create deps) es).ready target && valid target) = true →
            (Machine.run step (create deps) es).isClosed target.connId = false :=
  (and_iff_right (near_isolates hown)).trans
    (farIsolates_iff h (Machine.run_invariant (numbered_create deps) (fun _ e h => numbered_step h e)
      es))

/-- Carol's message for Alice and Bob comes from another node. -/
def fromCarol : DeliverRequest where
  sender := ⟨js "o", js "c", js "carol", none⟩
  envelope := clientMessage .biz (js "send") (js "m") none
  ack := .recv
  targets := [⟨js "n", js "a", js "alice", none⟩, ⟨js "n", js "b", js "bob", none⟩]

/-- Alice and Bob get the message and are reported. -/
theorem isolates_fromCarol :
    (Machine.run step (create { nodeId := js "n" }) aliceAndBob).NearIsolates fromCarol
        (fun _ => true) ∧
      (Machine.run step (create { nodeId := js "n" }) aliceAndBob).FarIsolates fromCarol
        (fun _ => true) := by
  refine (isolates_iff { nodeId := js "n" } aliceAndBob fromCarol (fun _ => true)
    ⟨rfl, by decide, rfl⟩ (by decide)).2 ⟨⟨rfl, rfl, trivial⟩, ?_⟩
  intro target ht _
  rcases List.mem_pair.1 ht with rfl | rfl <;> rfl

/-- The socket of Alice drops the message after the one that authenticates her. -/
def alicesSocketDropsOne : WebSocketRuntimeDeps where
  nodeId := js "n"
  wire connId k := if connId = js "a" ∧ k = 1 then { status := .dropped } else {}

/-- Alice's socket drops the message: the whole request fails, before Bob's turn. -/
theorem alice_stops_bob :
    ¬∀ deps es request valid, (Machine.run step (create deps) es).Admits request →
      (∀ target ∈ request.targets,
        target.nodeId = (Machine.run step (create deps) es).deps.nodeId) →
      (Machine.run step (create deps) es).NearIsolates request valid ∧
        (Machine.run step (create deps) es).FarIsolates request valid := by
  intro h
  have hfar := (h alicesSocketDropsOne aliceAndBob fromCarol (fun _ => true)
    ⟨rfl, by decide, rfl⟩ (by decide)).2
  have hfailed := (hfar.1 (.error .sendDropped)).1 ⟨[.deliverCluster fromCarol],
    .resume 2 (.valid true), [.resume 2 (.valid true)], rfl,
    List.mem_of_getElem? (i := 3) rfl⟩
  cases hfailed

end WebSocketRuntime

end Hardess
