import Hardess.Proxy.Upstream

/-!
# Requests in flight

The counter of `createRuntimeApp` in `src/runtime/app.ts`: `beginTrackedHttpRequest`,
`trackHttpResponseLifecycle`, `waitForHttpDrain` and the two flags of the shutdown.

* `TrackedRequest`: a request from its arrival to the end of its response, with the flag `released` of
  its closure;
* `HttpLifecycle.step`: requests, the streams of their responses, shutdown, drains, time;
* **`inFlight_run`**: the counter is the number of requests whose response has not ended;
* **`drained_run`**: when a drain says that nothing is in flight.

The reader that a tracked body reads may give any results. Times are milliseconds; a timer may fire
late.
-/

namespace Hardess

open ReadableStream (ReadResult Stream Pipe)

/-- The stream of `trackHttpResponseLifecycle`. -/
structure TrackedBody where
  body : Stream BodyChunk := {}
  /-- Does its cancellation await `reader.cancel`? -/
  cancelling : Bool := false

namespace TrackedBody

variable (tracked : TrackedBody)

/-- The read of `pull` has its result; is the request released? A chunk that the controller does not
take makes `enqueue` throw. -/
def answer (result : ReadResult BodyChunk) : TrackedBody × Bool :=
  ({ tracked with body := (tracked.body.settle result).1 },
    match result with
    | .chunk _ => !tracked.body.canCloseOrEnqueue
    | .done => true
    | .failed => true)

/-- `cancel`, up to its first `await`. -/
def cancel : TrackedBody :=
  if tracked.body.state = .readable then { body := tracked.body.cancel, cancelling := true }
  else tracked

end TrackedBody

/-- How far a request has come. -/
inductive RequestPhase
  | handling
  /-- There is a response with a body. -/
  | responding (tracked : TrackedBody)
  /-- The handler threw, or there is no body. -/
  | settled

/-- A request with the closure of `beginTrackedHttpRequest`. -/
structure TrackedRequest where
  phase : RequestPhase := .handling
  released : Bool := false

/-- A call of `waitForHttpDrain` that sleeps, or its result. -/
structure DrainWait where
  deadline : ℕ
  pollIntervalMs : ℕ
  wakeAt : ℕ
  result : Option Bool := none

/-- What the handlers of `createRuntimeApp` share. -/
structure HttpLifecycle where
  now : ℕ := 0
  shuttingDown : Bool := false
  disposed : Bool := false
  inFlightHttpRequests : ℤ := 0
  requests : List TrackedRequest := []
  drains : List DrainWait := []

/-- Where a request comes from: a client, or `/__cluster/http-forward`. -/
inductive RequestSource
  | client
  | forward
  deriving DecidableEq

/-- What happens. -/
inductive LifecycleEvent
  | fetch (source : RequestSource)
  /-- The handler of a request is done: with a body, or not. -/
  | handled (i : ℕ) (hasBody : Bool)
  | bodyStarted (i : ℕ)
  | bodyRead (i : ℕ)
  | bodyAnswer (i : ℕ) (result : ReadResult BodyChunk)
  | bodyCancel (i : ℕ)
  /-- What `cancel` awaits is done. -/
  | bodyCancelled (i : ℕ)
  | beginShutdown
  | dispose
  | waitForHttpDrain (timeoutMs pollIntervalMs : ℕ)
  | wake (i : ℕ)
  | advance (ms : ℕ)

namespace HttpLifecycle

variable (st : HttpLifecycle)

/-- `beginTrackedHttpRequest`. -/
def beginTrackedHttpRequest : HttpLifecycle :=
  { st with
    inFlightHttpRequests := st.inFlightHttpRequests + 1, requests := st.requests ++ [{}] }

/-- A request goes on to a phase; when `release` is called, it counts once. -/
def put (i : ℕ) (request : TrackedRequest) (phase : RequestPhase) (release : Bool) :
    HttpLifecycle :=
  { st with
    inFlightHttpRequests :=
      if release && !request.released then st.inFlightHttpRequests - 1 else st.inFlightHttpRequests
    requests := st.requests.set i { phase, released := request.released || release } }

/-- A request that is being handled. -/
def handled (i : ℕ) (hasBody : Bool) : HttpLifecycle :=
  match st.requests[i]? with
  | some request =>
    match request.phase with
    | .handling =>
      if hasBody then st.put i request (.responding {}) false else st.put i request .settled true
    | _ => st
  | none => st

/-- The tracked body of a request does something, and may release the request. -/
def onBody (i : ℕ) (f : TrackedBody → TrackedBody × Bool) : HttpLifecycle :=
  match st.requests[i]? with
  | some request =>
    match request.phase with
    | .responding tracked => st.put i request (.responding (f tracked).1) (f tracked).2
    | _ => st
  | none => st

/-- `waitForHttpDrain`, up to its first sleep. -/
def waitForHttpDrain (timeoutMs pollIntervalMs : ℕ) : HttpLifecycle :=
  let wait : DrainWait :=
    { deadline := st.now + timeoutMs, pollIntervalMs, wakeAt := st.now + min pollIntervalMs timeoutMs }
  let result :=
    if st.inFlightHttpRequests = 0 then some true
    else if timeoutMs = 0 then some false
    else if 0 < st.inFlightHttpRequests then none
    else some true
  { st with drains := st.drains ++ [{ wait with result }] }

/-- A sleep of `waitForHttpDrain` is over. -/
def wake (i : ℕ) : HttpLifecycle :=
  match st.drains[i]? with
  | some wait =>
    let next :=
      if ¬0 < st.inFlightHttpRequests then { wait with result := some true }
      else if wait.deadline ≤ st.now then { wait with result := some false }
      else { wait with wakeAt := st.now + min wait.pollIntervalMs (wait.deadline - st.now) }
    if wait.result.isSome ∨ st.now < wait.wakeAt then st
    else { st with drains := st.drains.set i next }
  | none => st

/-- One event. Forwarded requests are taken in during the shutdown as well. -/
def step (st : HttpLifecycle) : LifecycleEvent → HttpLifecycle
  | .fetch source =>
    if source = .client ∧ (st.shuttingDown ∨ st.disposed) then st else st.beginTrackedHttpRequest
  | .handled i hasBody => st.handled i hasBody
  | .bodyStarted i => st.onBody i fun t => ({ t with body := t.body.start.1 }, false)
  | .bodyRead i => st.onBody i fun t => ({ t with body := t.body.read.1 }, false)
  | .bodyAnswer i result =>
    st.onBody i fun t => if t.body.pulling then t.answer result else (t, false)
  | .bodyCancel i => st.onBody i fun t => (t.cancel, false)
  | .bodyCancelled i =>
    st.onBody i fun t => if t.cancelling then ({ t with cancelling := false }, true) else (t, false)
  | .beginShutdown => { st with shuttingDown := true }
  | .dispose => { st with shuttingDown := true, disposed := true }
  | .waitForHttpDrain timeoutMs pollIntervalMs => st.waitForHttpDrain timeoutMs pollIntervalMs
  | .wake i => st.wake i
  | .advance ms => { st with now := st.now + ms }

/-! ### The counter -/

/-- What the closure of a request knows of its response. -/
structure Accounted (request : TrackedRequest) : Prop where
  handling : request.phase = .handling → request.released = false
  settled : request.phase = .settled → request.released = true
  valid : ∀ tracked, request.phase = .responding tracked → tracked.body.Valid []
  /-- A body that takes chunks is in flight. -/
  open_ : ∀ tracked, request.phase = .responding tracked →
    tracked.body.canCloseOrEnqueue = true → request.released = false
  /-- A body that has come to its end, or failed, is not. -/
  ended : ∀ tracked, request.phase = .responding tracked → tracked.body.canCloseOrEnqueue = false →
    tracked.body.cancelled = false → request.released = true
  /-- Nor is one that was cancelled, once the reader is. -/
  cancelled : ∀ tracked, request.phase = .responding tracked → tracked.body.cancelled = true →
    tracked.cancelling = false → request.released = true
  cancelling : ∀ tracked, request.phase = .responding tracked → tracked.cancelling = true →
    tracked.body.canCloseOrEnqueue = false

/-- The invariant. -/
structure Counted (st : HttpLifecycle) : Prop where
  inFlight : st.inFlightHttpRequests = st.requests.countP fun request => !request.released
  accounted : ∀ request ∈ st.requests, Accounted request

variable {st : HttpLifecycle}

/-- A request that goes on stays counted until it is released. -/
theorem Counted.put (h : st.Counted) {i : ℕ} {request : TrackedRequest}
    (hi : st.requests[i]? = some request) {phase : RequestPhase} {release : Bool}
    (haccounted : Accounted { phase, released := request.released || release }) :
    (st.put i request phase release).Counted := by
  obtain ⟨hlt, heq⟩ := List.getElem?_eq_some_iff.1 hi
  refine ⟨?_, fun request' hmem => ?_⟩
  · have hpos : request.released = false →
        0 < st.requests.countP fun request => !request.released := fun hr =>
      List.countP_pos_iff.2 ⟨request, heq ▸ List.getElem_mem hlt, by simp [hr]⟩
    unfold HttpLifecycle.put
    simp only [List.countP_set hlt, heq, h.inFlight]
    cases hr : request.released with
    | true => cases release <;> simp
    | false =>
      have := hpos hr
      cases release <;> simp <;> omega
  · rcases List.mem_or_eq_of_mem_set hmem with hold | rfl
    · exact h.accounted _ hold
    · exact haccounted

/-- A body that does something: what is asked of its new state. -/
theorem Counted.onBody (h : st.Counted) (i : ℕ) {f : TrackedBody → TrackedBody × Bool}
    (hf : ∀ request tracked, Accounted request → request.phase = .responding tracked →
      Accounted
        { phase := .responding (f tracked).1, released := request.released || (f tracked).2 }) :
    (st.onBody i f).Counted := by
  unfold HttpLifecycle.onBody
  split
  · rename_i request hi
    split
    · rename_i tracked hphase
      exact h.put hi (hf request tracked (h.accounted _ (List.mem_of_getElem? hi)) hphase)
    · exact h
  · exact h

/-- A body that takes what it took before, or stops taking anything while it releases the request. -/
theorem Accounted.goes_on {request : TrackedRequest} {tracked tracked' : TrackedBody}
    {release : Bool} (h : Accounted request) (hphase : request.phase = .responding tracked)
    (hvalid : tracked'.body.Valid [])
    (hcan : tracked'.body.canCloseOrEnqueue = true →
      tracked.body.canCloseOrEnqueue = true ∧ release = false)
    (hended : tracked'.body.canCloseOrEnqueue = false →
      release = true ∨ tracked.body.canCloseOrEnqueue = false)
    (hcancelled : tracked'.body.cancelled = tracked.body.cancelled)
    (hcancelling : tracked'.cancelling = tracked.cancelling ∨ release = true) :
    Accounted { phase := .responding tracked', released := request.released || release } where
  handling := nofun
  settled := nofun
  valid _ := by rintro ⟨⟩; exact hvalid
  open_ _ := by
    rintro ⟨⟩ hc
    obtain ⟨hold, hrelease⟩ := hcan hc
    simp [h.open_ tracked hphase hold, hrelease]
  ended _ := by
    rintro ⟨⟩ hc hnot
    rcases hended hc with hrelease | hold
    · simp [hrelease]
    · simp [h.ended tracked hphase hold (hcancelled ▸ hnot)]
  cancelled _ := by
    rintro ⟨⟩ hc hidle
    rcases hcancelling with hsame | hrelease
    · simp [h.cancelled tracked hphase (hcancelled ▸ hc) (hsame ▸ hidle)]
    · simp [hrelease]
  cancelling _ := by
    rintro ⟨⟩ hc
    by_contra hopen
    obtain ⟨hold, hrelease⟩ := hcan (by simpa using hopen)
    have hsame := hcancelling.resolve_right (by simp [hrelease])
    simp [h.cancelling tracked hphase (hsame ▸ hc)] at hold

/-- What the source of the body hands over. -/
theorem Accounted.answer {request : TrackedRequest} {tracked : TrackedBody} (h : Accounted request)
    (hphase : request.phase = .responding tracked) (hpulling : tracked.body.pulling = true)
    (result : ReadResult BodyChunk) :
    Accounted
      { phase := .responding (tracked.answer result).1
        released := request.released || (tracked.answer result).2 } := by
  have hvalid := (h.valid tracked hphase).settle hpulling result
  have hsame := (Stream.gives_settle tracked.body result).cancelled
  cases result with
  | chunk value =>
    have hcan := Stream.canCloseOrEnqueue_settle_chunk tracked.body value
    refine h.goes_on hphase hvalid (fun hc => ?_) (fun hc => .inr (hcan.symm.trans hc)) hsame
      (.inl rfl)
    have hopen := hcan.symm.trans hc
    exact ⟨hopen, by simp [TrackedBody.answer, hopen]⟩
  | done =>
    have hcan := Stream.canCloseOrEnqueue_settle_end tracked.body .done rfl
    exact h.goes_on hphase hvalid (fun hc => absurd (hcan.symm.trans hc) Bool.false_ne_true)
      (fun _ => .inl rfl) hsame (.inl rfl)
  | failed =>
    have hcan := Stream.canCloseOrEnqueue_settle_end tracked.body .failed rfl
    exact h.goes_on hphase hvalid (fun hc => absurd (hcan.symm.trans hc) Bool.false_ne_true)
      (fun _ => .inl rfl) hsame (.inl rfl)

/-- A body that is cancelled stays in flight until its reader is cancelled. -/
theorem Accounted.cancel {request : TrackedRequest} {tracked : TrackedBody} (h : Accounted request)
    (hphase : request.phase = .responding tracked) :
    Accounted { phase := .responding tracked.cancel, released := request.released || false } := by
  unfold TrackedBody.cancel
  split_ifs with hstate
  · have hcan := Stream.canCloseOrEnqueue_cancel tracked.body
    have hcancelled : tracked.body.cancel.cancelled = true := by simp [Stream.cancel, hstate]
    exact
      { handling := by simp
        settled := by simp
        valid := fun _ => by rintro ⟨⟩; exact (h.valid tracked hphase).cancel
        open_ := fun _ => by rintro ⟨⟩ hc; simp [hcan] at hc
        ended := fun _ => by rintro ⟨⟩ - hc; simp [hcancelled] at hc
        cancelled := fun _ => by rintro ⟨⟩ - hc; simp at hc
        cancelling := fun _ => by rintro ⟨⟩ -; exact hcan }
  · exact h.goes_on hphase (h.valid tracked hphase) (fun hc => ⟨hc, rfl⟩) (fun hc => .inr hc) rfl
      (.inl rfl)

theorem Counted.step (h : st.Counted) (e : LifecycleEvent) : (st.step e).Counted := by
  have hfresh : Accounted {} := by constructor <;> simp
  cases e with
  | fetch source =>
    show (if _ then st else st.beginTrackedHttpRequest).Counted
    split_ifs
    · exact h
    · refine ⟨?_, fun request hmem => ?_⟩
      · simp [beginTrackedHttpRequest, h.inFlight]
      · rcases List.mem_append.1 hmem with hold | hnew
        · exact h.accounted request hold
        · obtain rfl := List.mem_singleton.1 hnew
          exact hfresh
  | handled i hasBody =>
    show (st.handled i hasBody).Counted
    unfold HttpLifecycle.handled
    split
    · rename_i request hi
      have haccounted := h.accounted _ (List.mem_of_getElem? hi)
      split
      · rename_i hphase
        have hheld := haccounted.handling hphase
        split_ifs
        · -- the body is new: nothing has been read of it, and the request is held
          refine h.put hi ⟨by simp, by simp, fun _ => ?_, fun _ => ?_, fun _ => ?_, fun _ => ?_,
            fun _ => ?_⟩
          · rintro ⟨⟩; exact Stream.valid_create []
          · rintro ⟨⟩ -; simp [hheld]
          · rintro ⟨⟩ hc; simp [Stream.canCloseOrEnqueue] at hc
          · rintro ⟨⟩ hc; simp at hc
          · rintro ⟨⟩ hc; simp at hc
        · exact h.put hi (by constructor <;> simp)
      · exact h
    · exact h
  | bodyStarted i =>
    refine h.onBody i fun request tracked ha hphase => ha.goes_on hphase
      (ha.valid tracked hphase).start ?_ ?_ (Stream.gives_start _).cancelled (.inl rfl)
    · rw [Stream.canCloseOrEnqueue_start]; exact fun hc => ⟨hc, rfl⟩
    · rw [Stream.canCloseOrEnqueue_start]; exact .inr
  | bodyRead i =>
    refine h.onBody i fun request tracked ha hphase => ha.goes_on hphase
      (ha.valid tracked hphase).read ?_ ?_ (Stream.gives_read _).cancelled (.inl rfl)
    · rw [Stream.canCloseOrEnqueue_read]; exact fun hc => ⟨hc, rfl⟩
    · rw [Stream.canCloseOrEnqueue_read]; exact .inr
  | bodyAnswer i result =>
    refine h.onBody i fun request tracked ha hphase => ?_
    split_ifs with hpulling
    · exact ha.answer hphase hpulling result
    · exact ha.goes_on hphase (ha.valid tracked hphase) (fun hc => ⟨hc, rfl⟩) (fun hc => .inr hc) rfl
        (.inl rfl)
  | bodyCancel i => exact h.onBody i fun request tracked ha hphase => ha.cancel hphase
  | bodyCancelled i =>
    refine h.onBody i fun request tracked ha hphase => ?_
    split_ifs with hcancelling
    · -- a body that is being cancelled takes nothing any more
      refine ha.goes_on hphase (ha.valid tracked hphase) (fun hc => ?_) (fun _ => .inl rfl) rfl
        (.inr rfl)
      simp [ha.cancelling tracked hphase hcancelling] at hc
    · exact ha.goes_on hphase (ha.valid tracked hphase) (fun hc => ⟨hc, rfl⟩) (fun hc => .inr hc) rfl
        (.inl rfl)
  | beginShutdown => exact ⟨h.inFlight, h.accounted⟩
  | dispose => exact ⟨h.inFlight, h.accounted⟩
  | waitForHttpDrain timeoutMs pollIntervalMs => exact ⟨h.inFlight, h.accounted⟩
  | wake i =>
    show (st.wake i).Counted
    unfold HttpLifecycle.wake
    split
    · dsimp only
      split_ifs <;> exact ⟨h.inFlight, h.accounted⟩
    · exact h
  | advance ms => exact ⟨h.inFlight, h.accounted⟩

theorem counted_start : Counted {} := ⟨rfl, fun _ hmem => by cases hmem⟩

/-- **The counter is the number of requests whose closure has not been released; these are the ones
that are handled or whose response goes on.** -/
theorem inFlight_run (es : List LifecycleEvent) : (Machine.run step {} es).Counted :=
  Machine.run_invariant counted_start (fun _ e h => h.step e) es

/-! ### Drains -/

/-- The result of a drain. -/
def drained (st : HttpLifecycle) (i : ℕ) : Option Bool := st.drains[i]?.bind (·.result)

/-- A drain that sleeps wakes up by its deadline, unless its timer is late. -/
def Punctual (st : HttpLifecycle) : Prop :=
  ∀ wait ∈ st.drains, wait.result = none → wait.wakeAt ≤ wait.deadline

theorem drains_onBody (i : ℕ) (f : TrackedBody → TrackedBody × Bool) :
    (st.onBody i f).drains = st.drains := by
  unfold HttpLifecycle.onBody
  split
  · split <;> rfl
  · rfl

theorem drains_handled (i : ℕ) (hasBody : Bool) : (st.handled i hasBody).drains = st.drains := by
  unfold HttpLifecycle.handled
  split
  · split
    · split_ifs <;> rfl
    · rfl
  · rfl

/-- The drains change only when one is called for or wakes up. -/
theorem drains_step {e : LifecycleEvent} (hcall : ∀ t p, e ≠ .waitForHttpDrain t p)
    (hwake : ∀ i, e ≠ .wake i) : (st.step e).drains = st.drains := by
  cases e with
  | fetch source =>
    show (if _ then st else st.beginTrackedHttpRequest).drains = _
    split_ifs <;> rfl
  | handled i hasBody => exact drains_handled i hasBody
  | bodyStarted i => exact drains_onBody i _
  | bodyRead i => exact drains_onBody i _
  | bodyAnswer i result => exact drains_onBody i _
  | bodyCancel i => exact drains_onBody i _
  | bodyCancelled i => exact drains_onBody i _
  | beginShutdown => rfl
  | dispose => rfl
  | waitForHttpDrain t p => exact absurd rfl (hcall t p)
  | wake i => exact absurd rfl (hwake i)
  | advance ms => rfl

/-- When a call of `waitForHttpDrain` comes to a result, and with which one. -/
structure Settles (st st' : HttpLifecycle) (i : ℕ) : Prop where
  true_ : st'.drained i = some true → st.drained i = some true ∨ st'.inFlightHttpRequests ≤ 0
  false_ : st'.drained i = some false → st.drained i = some false ∨
    st'.inFlightHttpRequests ≠ 0 ∧ ∃ wait, st'.drains[i]? = some wait ∧ wait.deadline ≤ st'.now

/-- A drain that is called for has its result at once, or sleeps. -/
theorem settles_waitForHttpDrain (timeoutMs pollIntervalMs i : ℕ) :
    Settles st (st.waitForHttpDrain timeoutMs pollIntervalMs) i := by
  unfold HttpLifecycle.waitForHttpDrain
  rcases lt_trichotomy i st.drains.length with hlt | rfl | hgt
  · refine ⟨fun h => .inl ?_, fun h => .inl ?_⟩ <;>
      rwa [drained, List.getElem?_append_left hlt] at h
  · constructor <;> intro h <;> right <;>
      simp only [drained, List.getElem?_concat_length, Option.bind_some] at h
    · show st.inFlightHttpRequests ≤ 0
      split_ifs at h
      · omega
      · cases h
      · omega
    · refine ⟨?_, _, List.getElem?_concat_length, ?_⟩
      · show st.inFlightHttpRequests ≠ 0
        intro hzero
        rw [if_pos hzero] at h
        cases h
      · show st.now + timeoutMs ≤ st.now
        split_ifs at h with _ hnone
        · cases h
        · omega
        · cases h
  · constructor <;> intro h <;>
      rw [drained, List.getElem?_eq_none (by simpa using hgt)] at h <;> cases h

theorem settles_step (st : HttpLifecycle) (e : LifecycleEvent) (i : ℕ) :
    Settles st (st.step e) i := by
  have hsame : ∀ st' : HttpLifecycle, st'.drains[i]? = st.drains[i]? → Settles st st' i :=
    fun st' h => ⟨fun hi => .inl (by rwa [drained, h] at hi), fun hi => .inl (by rwa [drained, h] at hi)⟩
  -- only a new drain and the end of a sleep can settle one
  by_cases hcall : ∃ t p, e = .waitForHttpDrain t p
  · obtain ⟨t, p, rfl⟩ := hcall
    exact settles_waitForHttpDrain t p i
  by_cases hwake : ∃ j, e = .wake j
  · obtain ⟨j, rfl⟩ := hwake
    show Settles st (st.wake j) i
    unfold HttpLifecycle.wake
    split
    · rename_i wait hj
      dsimp only
      by_cases hij : j = i
      · subst hij
        have hlt := (List.getElem?_eq_some_iff.1 hj).1
        split_ifs with hsleeps hsome hlate
        · exact hsame _ rfl
        all_goals
          constructor <;> intro h <;>
            simp only [drained, List.getElem?_set_self hlt, Option.bind_some] at h
        · cases h
        · exact .inr ⟨hsome.ne', _, List.getElem?_set_self hlt, hlate⟩
        · exact .inl (by rw [drained, hj]; exact h)
        · exact .inl (by rw [drained, hj]; exact h)
        · exact .inr (not_lt.1 hsome)
        · cases h
      · split_ifs
        · exact hsame _ rfl
        all_goals exact hsame _ (List.getElem?_set_ne hij)
    · exact hsame _ rfl
  · exact hsame _ (by rw [drains_step (fun t p h => hcall ⟨t, p, h⟩) fun j h => hwake ⟨j, h⟩])

theorem punctual_step (h : st.Punctual) (e : LifecycleEvent) : (st.step e).Punctual := by
  by_cases hcall : ∃ t p, e = .waitForHttpDrain t p
  · obtain ⟨t, p, rfl⟩ := hcall
    intro wait hmem _
    rcases List.mem_append.1 hmem with hold | hnew
    · exact h wait hold ‹_›
    · obtain rfl := List.mem_singleton.1 hnew
      -- the first sleep ends at the deadline at the latest
      exact Nat.add_le_add_left (min_le_right p t) _
  by_cases hwake : ∃ j, e = .wake j
  · obtain ⟨j, rfl⟩ := hwake
    intro wait hmem hnone
    simp only [step, HttpLifecycle.wake] at hmem
    split at hmem
    · rename_i old hj
      have hold := h old (List.mem_of_getElem? hj)
      split_ifs at hmem with hsleeps hsome hlate
      · exact h wait hmem hnone
      all_goals
        rcases List.mem_or_eq_of_mem_set hmem with hmem | rfl
        · exact h wait hmem hnone
      · cases hnone
      · -- the next sleep is no longer than what is left
        show st.now + min old.pollIntervalMs (old.deadline - st.now) ≤ old.deadline
        have := min_le_right old.pollIntervalMs (old.deadline - st.now)
        omega
      · cases hnone
    · exact h wait hmem hnone
  · have hdrains := @drains_step st e (fun t p h => hcall ⟨t, p, h⟩) fun j h => hwake ⟨j, h⟩
    intro wait hmem hnone
    exact h wait (hdrains ▸ hmem) hnone

/-! ### Shutdown -/

theorem inFlight_put_le (i : ℕ) (request : TrackedRequest) (phase : RequestPhase) (release : Bool) :
    (st.put i request phase release).inFlightHttpRequests ≤ st.inFlightHttpRequests := by
  unfold HttpLifecycle.put
  dsimp only
  split_ifs <;> omega

theorem inFlight_onBody_le (i : ℕ) (f : TrackedBody → TrackedBody × Bool) :
    (st.onBody i f).inFlightHttpRequests ≤ st.inFlightHttpRequests := by
  unfold HttpLifecycle.onBody
  split
  · split
    · exact inFlight_put_le ..
    · exact le_rfl
  · exact le_rfl

/-- During the shutdown only a forwarded request raises the counter. -/
theorem step_shuttingDown (hdown : st.shuttingDown = true) {e : LifecycleEvent}
    (he : e ≠ .fetch .forward) : (st.step e).shuttingDown = true ∧
      (st.step e).inFlightHttpRequests ≤ st.inFlightHttpRequests := by
  have hbody : ∀ i f, (st.onBody i f).shuttingDown = true := fun i f => by
    unfold HttpLifecycle.onBody
    split
    · split <;> exact hdown
    · exact hdown
  cases e with
  | fetch source =>
    cases source with
    | client => simp [step, hdown]
    | forward => exact absurd rfl he
  | handled i hasBody =>
    show (st.handled i hasBody).shuttingDown = true ∧ (st.handled i hasBody).inFlightHttpRequests ≤ _
    unfold HttpLifecycle.handled
    split
    · split
      · split_ifs <;> exact ⟨hdown, inFlight_put_le ..⟩
      · exact ⟨hdown, le_rfl⟩
    · exact ⟨hdown, le_rfl⟩
  | bodyStarted i => exact ⟨hbody .., inFlight_onBody_le ..⟩
  | bodyRead i => exact ⟨hbody .., inFlight_onBody_le ..⟩
  | bodyAnswer i result => exact ⟨hbody .., inFlight_onBody_le ..⟩
  | bodyCancel i => exact ⟨hbody .., inFlight_onBody_le ..⟩
  | bodyCancelled i => exact ⟨hbody .., inFlight_onBody_le ..⟩
  | beginShutdown => exact ⟨rfl, le_rfl⟩
  | dispose => exact ⟨rfl, le_rfl⟩
  | waitForHttpDrain t p => exact ⟨hdown, le_rfl⟩
  | wake i =>
    show (st.wake i).shuttingDown = true ∧ (st.wake i).inFlightHttpRequests ≤ _
    unfold HttpLifecycle.wake
    split
    · dsimp only
      split_ifs <;> exact ⟨hdown, le_rfl⟩
    · exact ⟨hdown, le_rfl⟩
  | advance ms => exact ⟨hdown, le_rfl⟩

theorem run_shuttingDown (hdown : st.shuttingDown = true) {es : List LifecycleEvent}
    (hes : ∀ e ∈ es, e ≠ .fetch .forward) :
    (Machine.run step st es).inFlightHttpRequests ≤ st.inFlightHttpRequests := by
  induction es generalizing st with
  | nil => exact le_rfl
  | cons e es ih =>
    obtain ⟨hstill, hle⟩ := step_shuttingDown hdown (hes e List.mem_cons_self)
    exact (ih hstill fun e' he' => hes e' (List.mem_cons_of_mem e he')).trans hle

/-- **A drain says that nothing is in flight only when every request has been released, and says the
opposite only at its deadline, with requests in flight; it sleeps no longer than that. A runtime that
shuts down with nothing in flight stays so, unless another node forwards a request.** -/
theorem drained_run (es : List LifecycleEvent) (e : LifecycleEvent) (i : ℕ) :
    let st := Machine.run step {} es
    let st' := Machine.run step {} (es ++ [e])
    (st'.drained i = some true → st.drained i ≠ some true →
        st'.inFlightHttpRequests = 0 ∧ ∀ request ∈ st'.requests, request.released = true) ∧
      (st'.drained i = some false → st.drained i ≠ some false →
        0 < st'.inFlightHttpRequests ∧ ∃ wait, st'.drains[i]? = some wait ∧ wait.deadline ≤ st'.now) ∧
      st'.Punctual ∧
      ∀ es', st'.shuttingDown = true → st'.inFlightHttpRequests = 0 →
        (∀ e ∈ es', e ≠ .fetch .forward) →
        (Machine.run step {} (es ++ [e] ++ es')).inFlightHttpRequests = 0 := by
  intro st st'
  have hall : ∀ es, (Machine.run step {} es).Counted :=
    Machine.run_invariant counted_start fun _ e h => h.step e
  have hcounted : st'.Counted := hall (es ++ [e])
  have hsettles : Settles st st' i := by
    have hstep : st' = st.step e := Machine.run_concat _ es e
    exact hstep ▸ settles_step st e i
  have hnonneg : 0 ≤ st'.inFlightHttpRequests := hcounted.inFlight ▸ Int.natCast_nonneg _
  refine ⟨fun htrue hnew => ?_, fun hfalse hnew => ?_, ?_, fun es' hdown hzero hes => ?_⟩
  · -- no request is left that a counter of zero would have to count
    have hzero := le_antisymm ((hsettles.true_ htrue).resolve_left hnew) hnonneg
    refine ⟨hzero, fun request hmem => ?_⟩
    rw [hcounted.inFlight] at hzero
    have hnone := List.countP_eq_zero.1 (by exact_mod_cast hzero) request hmem
    simpa using hnone
  · obtain ⟨hne, hlate⟩ := (hsettles.false_ hfalse).resolve_left hnew
    exact ⟨lt_of_le_of_ne hnonneg hne.symm, hlate⟩
  · have hstart : Punctual {} := fun wait hmem => by cases hmem
    exact Machine.run_invariant hstart (fun _ e h => punctual_step h e) (es ++ [e])
  · -- the counter does not rise any more, and is never negative
    have hle := run_shuttingDown hdown hes
    have hend : 0 ≤ (Machine.run step {} (es ++ [e] ++ es')).inFlightHttpRequests :=
      (hall _).inFlight ▸ Int.natCast_nonneg _
    rw [Machine.run_append] at hend ⊢
    exact le_antisymm (hle.trans hzero.le) hend

end HttpLifecycle

end Hardess
