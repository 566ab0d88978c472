import Hardess.Control.Rollout

/-!
# The host agent

`src/runtime/control/host-agent.ts`: a loop that polls the admin for the desired state of the host.

* `HostAgent`: the fields of the agent, the cycles that have not let go of `cycleInFlight`, and the
  timers that are armed;
* `HostAgent.resume`: `performReconcileCycle`, from one `await` to the next;
* `HostAgent.step`: calls, timers, settled promises, and the `finally` of `reconcileOnce`;
* `HostAgent.resume_cases`: what a cycle does when it goes on.

An adapter that throws at once is one whose call fails before anything else happens. The handles of
timers are truthy.
-/

namespace Hardess

/-- `HostAgentOptions`. -/
structure HostAgentOptions where
  defaultPollAfterMs : JsNumber := .ofNat 5000
  retryPollAfterMs : JsNumber := .ofNat 1000
  reportObservedAfterApply : Bool := true

/-- What a cycle awaits: a call of the runtime adapter or of the admin client. -/
inductive HostCall
  | getHostRegistration
  | registerHost (registration : HostRegistration)
  | getDesiredHostState (hostId : JsString) (ifRevision : Option JsString)
  | fetchArtifactManifests (manifestIds : List JsString) (desired : DesiredHostState)
  | applyDesiredHostState (desired : DesiredHostState)
      (artifacts : List (JsString × ArtifactManifest))
  | collectObservedHostState
  | reportObservedHostState (observed : ObservedHostState)
  | heartbeatHost (observed : ObservedHostState)

/-- What an awaited call comes to. A rejection has the text that is made of its error, if one can be
made (`String(error)` may throw). -/
inductive HostReply
  | registration (registration : HostRegistration)
  | registered (accepted : Bool) (hostId : JsString) (pollAfterMs : Option JsNumber)
  | desired (changed : Bool) (desired : Option DesiredHostState)
  | manifests (manifests : List ArtifactManifest)
  | applied
  | observed (observed : ObservedHostState)
  | reported
  | heartbeat (nextPollAfterMs : Option JsNumber)
  | rejected (message : Option JsString)

/-- A call of `performReconcileCycle`: its variables, and what it awaits. -/
structure ReconcileCycle where
  /-- `none` when it has ended and the `finally` of `reconcileOnce` is still to come. -/
  awaits : Option HostCall
  nextPollAfterMs : JsNumber
  shouldReportObserved : Bool := false
  cycleFailed : Bool := false
  registration : Option HostRegistration := none
  observed : Option ObservedHostState := none

/-- `HostAgent`. -/
structure HostAgent where
  running : Bool := false
  registered : Bool := false
  hostId : Option JsString := none
  desiredRevision : Option JsString := none
  lastPollAfterMs : Option JsNumber := none
  lastError : Option JsString := none
  pollTimer : Option ℕ := none
  /-- Is there a `cycleInFlight`? -/
  cycleInFlight : Bool := false
  cycles : List ReconcileCycle := []
  /-- The timers that may fire. -/
  armed : List ℕ := []
  nextTimer : ℕ := 1
  /-- The revisions of the desired states that were applied. -/
  applied : List JsString := []

/-- What happens to an agent. -/
inductive HostAgentEvent
  | start
  | stop
  | reconcileOnce
  | fire (timer : ℕ)
  /-- A cycle goes on with what its call came to. -/
  | settle (i : ℕ) (reply : HostReply)
  /-- The `finally` of the `reconcileOnce` that began the cycle. -/
  | release (i : ℕ)

namespace HostAgent

variable (options : HostAgentOptions) (agent : HostAgent) (cycle : ReconcileCycle)

/-! ### Timers -/

/-- `clearTimeout`. -/
def clearTimeout (timer : Option ℕ) : HostAgent :=
  { agent with armed := agent.armed.filter fun t => some t ≠ timer }

/-- `scheduleNextPoll`. -/
def scheduleNextPoll (delayMs : JsNumber) : HostAgent :=
  let agent := { agent with lastPollAfterMs := some delayMs }
  if ¬agent.running then agent
  else
    let agent := agent.clearTimeout agent.pollTimer
    { agent with
      pollTimer := some agent.nextTimer
      armed := agent.nextTimer :: agent.armed
      nextTimer := agent.nextTimer + 1 }

/-! ### A cycle -/

/-- The cycle goes as far as the `await` of a call. -/
def await (call : HostCall) : HostAgent × ReconcileCycle :=
  (agent, { cycle with awaits := some call })

/-- The end of a cycle. -/
def endCycle : HostAgent × ReconcileCycle :=
  let ended := { cycle with awaits := none }
  if ¬cycle.cycleFailed then
    (({ agent with lastError := none } : HostAgent).scheduleNextPoll cycle.nextPollAfterMs, ended)
  else (agent.scheduleNextPoll options.retryPollAfterMs, ended)

/-- The `heartbeatHost` part, if there is something to send. -/
def callHeartbeat : HostAgent × ReconcileCycle :=
  match cycle.observed with
  | none => agent.endCycle options cycle
  | some observed => agent.await cycle (.heartbeatHost observed)

/-- The `reportObservedHostState` part, if there is something to report. -/
def callReport : HostAgent × ReconcileCycle :=
  match cycle.observed with
  | none => agent.callHeartbeat options cycle
  | some observed =>
    if cycle.shouldReportObserved then agent.await cycle (.reportObservedHostState observed)
    else agent.callHeartbeat options cycle

/-- A `catch` block, and what comes after it: the cycle fails for good when the error has no
text. -/
def caught (message : Option JsString)
    (next : HostAgent → ReconcileCycle → HostAgent × ReconcileCycle) :
    HostAgent × ReconcileCycle :=
  let cycle := { cycle with cycleFailed := true }
  match message with
  | none => (agent, { cycle with awaits := none })
  | some message => next { agent with lastError := some message } cycle

/-- The `collectObservedHostState` part. -/
def callCollect : HostAgent × ReconcileCycle := agent.await cycle .collectObservedHostState

/-- The error of `assertStableHostIdentity`. -/
def assertStableHostIdentity (registration : HostRegistration) : Option JsString :=
  match agent.hostId with
  | none => none
  | some hostId =>
    if hostId ≠ [] ∧ registration.hostId ≠ hostId then
      some (js "HostRegistration hostId changed from " ++ hostId ++ js " to " ++
        registration.hostId)
    else none

/-- The error of an observed state of another host. -/
def hostIdMismatch (registration : Option HostRegistration) (observed : ObservedHostState) :
    Option JsString :=
  match registration with
  | none => none
  | some registration =>
    if observed.hostId ≠ registration.hostId then
      some (js "Observed hostId " ++ observed.hostId ++
        js " does not match registered hostId " ++ registration.hostId)
    else none

/-- `resolveArtifactManifests`: the manifests that are fetched. -/
def manifestIds (desired : DesiredHostState) : List JsString :=
  (desired.assignments.map fun assignment => assignment.artifact.manifestId).eraseDups

/-- What follows the `try` block that a rejected call is in. -/
def afterFailure (call : HostCall) : HostAgent → ReconcileCycle → HostAgent × ReconcileCycle :=
  match call with
  | .collectObservedHostState => fun agent cycle => agent.callReport options cycle
  | .reportObservedHostState _ => fun agent cycle => agent.callHeartbeat options cycle
  | .heartbeatHost _ => fun agent cycle => agent.endCycle options cycle
  | _ => fun agent cycle => agent.callCollect cycle

/-- `performReconcileCycle`, from one `await` to the next. -/
def resume (call : HostCall) (reply : HostReply) : HostAgent × ReconcileCycle :=
  match call, reply with
  | call, .rejected message => agent.caught cycle message (afterFailure options call)
  | .getHostRegistration, .registration registration =>
    let cycle := { cycle with registration := some registration }
    match agent.assertStableHostIdentity registration with
    | some message => agent.caught cycle (some message) fun agent cycle => agent.callCollect cycle
    | none =>
      if agent.registered then
        agent.await cycle (.getDesiredHostState registration.hostId agent.desiredRevision)
      else agent.await cycle (.registerHost registration)
  | .registerHost registration, .registered accepted hostId pollAfterMs =>
    let agent := { agent with registered := accepted, hostId := some hostId }
    let cycle := { cycle with nextPollAfterMs := pollAfterMs.getD cycle.nextPollAfterMs }
    agent.await cycle (.getDesiredHostState registration.hostId agent.desiredRevision)
  | .getDesiredHostState _ _, .desired true (some desired) =>
    agent.await cycle (.fetchArtifactManifests (manifestIds desired) desired)
  | .getDesiredHostState _ _, .desired _ _ => agent.callCollect cycle
  | .fetchArtifactManifests ids desired, .manifests manifests =>
    agent.await cycle (.applyDesiredHostState desired (ids.zip manifests))
  | .applyDesiredHostState desired _, .applied =>
    let agent :=
      { agent with
        desiredRevision := some desired.revision
        applied := agent.applied ++ [desired.revision] }
    agent.callCollect { cycle with shouldReportObserved := options.reportObservedAfterApply }
  | .collectObservedHostState, .observed observed =>
    let cycle := { cycle with observed := some observed }
    match hostIdMismatch cycle.registration observed with
    | some message =>
      agent.caught cycle (some message) fun agent cycle => agent.callReport options cycle
    | none => agent.callReport options cycle
  | .reportObservedHostState _, .reported => agent.callHeartbeat options cycle
  | .heartbeatHost _, .heartbeat nextPollAfterMs =>
    agent.endCycle options
      { cycle with nextPollAfterMs := nextPollAfterMs.getD cycle.nextPollAfterMs }
  -- the reply of another call
  | _, _ => (agent, { cycle with awaits := some call })

/-! ### The agent -/

/-- `reconcileOnce`. -/
def reconcileOnce : HostAgent :=
  if agent.cycleInFlight then agent
  else
    { agent with
      cycleInFlight := true
      cycles := agent.cycles ++
        [{ awaits := some .getHostRegistration, nextPollAfterMs := options.defaultPollAfterMs }] }

/-- `start`. -/
def start : HostAgent :=
  if agent.running then agent
  else ({ agent with running := true } : HostAgent).reconcileOnce options

/-- `stop`. -/
def stop : HostAgent :=
  let agent := { agent with running := false }
  match agent.pollTimer with
  | none => agent
  | some timer => { agent.clearTimeout (some timer) with pollTimer := none }

/-- The callback of a timer. -/
def fire (timer : ℕ) : HostAgent :=
  if timer ∈ agent.armed then
    ({ agent with armed := agent.armed.erase timer, pollTimer := none } : HostAgent).reconcileOnce
      options
  else agent

/-- A cycle goes on. -/
def settle (i : ℕ) (reply : HostReply) : HostAgent :=
  match agent.cycles[i]? with
  | none => agent
  | some cycle =>
    match cycle.awaits with
    | none => agent
    | some call =>
      let resumed := agent.resume options cycle call reply
      { resumed.1 with cycles := resumed.1.cycles.set i resumed.2 }

/-- The `finally` of `reconcileOnce`. -/
def release (i : ℕ) : HostAgent :=
  match agent.cycles[i]? with
  | none => agent
  | some cycle =>
    if cycle.awaits.isSome then agent
    else { agent with cycleInFlight := false, cycles := agent.cycles.eraseIdx i }

/-- What an event does. -/
def step : HostAgentEvent → HostAgent
  | .start => agent.start options
  | .stop => agent.stop
  | .reconcileOnce => agent.reconcileOnce options
  | .fire timer => agent.fire options timer
  | .settle i reply => agent.settle options i reply
  | .release i => agent.release i

/-! ### What a cycle does -/

variable {options agent cycle}

/-- The calls and timers are as before, and an applied desired state is kept as the last one. -/
structure Untouched (agent agent' : HostAgent) : Prop where
  running : agent'.running = agent.running
  pollTimer : agent'.pollTimer = agent.pollTimer
  cycleInFlight : agent'.cycleInFlight = agent.cycleInFlight
  cycles : agent'.cycles = agent.cycles
  armed : agent'.armed = agent.armed
  revision : agent.desiredRevision = agent.applied.getLast? →
    agent'.desiredRevision = agent'.applied.getLast?

/-- The agent and the cycle when the cycle has gone on: it awaits the next call, or it has armed the
timer if the agent runs. -/
inductive Resumed (agent : HostAgent) : HostAgent × ReconcileCycle → Prop
  | awaits {agent' : HostAgent} {cycle' : ReconcileCycle} (untouched : Untouched agent agent')
      (hawaits : cycle'.awaits.isSome) : Resumed agent (agent', cycle')
  | ended {agent' : HostAgent} {cycle' : ReconcileCycle} (untouched : Untouched agent agent')
      (hended : cycle'.awaits = none) (delayMs : JsNumber) :
      Resumed agent (agent'.scheduleNextPoll delayMs, cycle')

theorem Untouched.refl (agent : HostAgent) : Untouched agent agent :=
  ⟨rfl, rfl, rfl, rfl, rfl, id⟩

theorem Untouched.trans {agent' agent'' : HostAgent} (h : Untouched agent agent')
    (h' : Untouched agent' agent'') : Untouched agent agent'' where
  running := h'.running.trans h.running
  pollTimer := h'.pollTimer.trans h.pollTimer
  cycleInFlight := h'.cycleInFlight.trans h.cycleInFlight
  cycles := h'.cycles.trans h.cycles
  armed := h'.armed.trans h.armed
  revision := h'.revision ∘ h.revision

theorem Untouched.resumed {agent' : HostAgent} {r : HostAgent × ReconcileCycle}
    (h : Untouched agent agent') (hr : Resumed agent' r) : Resumed agent r := by
  cases hr with
  | awaits untouched hawaits => exact .awaits (h.trans untouched) hawaits
  | ended untouched hended delayMs => exact .ended (h.trans untouched) hended delayMs

theorem resumed_await (agent : HostAgent) (cycle : ReconcileCycle) (call : HostCall) :
    Resumed agent (agent.await cycle call) := .awaits (.refl agent) rfl

theorem resumed_endCycle (agent : HostAgent) (cycle : ReconcileCycle) :
    Resumed agent (agent.endCycle options cycle) := by
  have hcleared : Untouched agent { agent with lastError := none } :=
    ⟨rfl, rfl, rfl, rfl, rfl, id⟩
  unfold endCycle
  split_ifs
  · exact .ended (.refl agent) rfl _
  · exact .ended hcleared rfl _

theorem resumed_callHeartbeat (agent : HostAgent) (cycle : ReconcileCycle) :
    Resumed agent (agent.callHeartbeat options cycle) := by
  unfold callHeartbeat
  cases cycle.observed with
  | none => exact resumed_endCycle agent cycle
  | some observed => exact resumed_await agent cycle _

theorem resumed_callReport (agent : HostAgent) (cycle : ReconcileCycle) :
    Resumed agent (agent.callReport options cycle) := by
  unfold callReport
  cases cycle.observed with
  | none => exact resumed_callHeartbeat agent cycle
  | some observed =>
    dsimp only
    split_ifs
    · exact resumed_await agent cycle _
    · exact resumed_callHeartbeat agent cycle

theorem resumed_caught {next : HostAgent → ReconcileCycle → HostAgent × ReconcileCycle}
    (hnext : ∀ agent cycle, Resumed agent (next agent cycle)) (message : JsString) :
    Resumed agent (agent.caught cycle (some message) next) := by
  have hfailed : Untouched agent { agent with lastError := some message } :=
    ⟨rfl, rfl, rfl, rfl, rfl, id⟩
  exact hfailed.resumed (hnext _ _)

theorem resumed_afterFailure (call : HostCall) (agent : HostAgent) (cycle : ReconcileCycle) :
    Resumed agent (afterFailure options call agent cycle) := by
  cases call with
  | collectObservedHostState => exact resumed_callReport agent cycle
  | reportObservedHostState _ => exact resumed_callHeartbeat agent cycle
  | heartbeatHost _ => exact resumed_endCycle agent cycle
  | _ => exact resumed_await agent cycle _

/-- **What a cycle does when it goes on**, unless it fails with an error without a text. -/
theorem resume_cases (call : HostCall) {reply : HostReply} (hreply : reply ≠ .rejected none) :
    Resumed agent (agent.resume options cycle call reply) := by
  -- the revision is noted together with what was applied
  have happlied : ∀ desired : DesiredHostState, Untouched agent
      { agent with
        desiredRevision := some desired.revision
        applied := agent.applied ++ [desired.revision] } := fun desired =>
    ⟨rfl, rfl, rfl, rfl, rfl, fun _ => List.getLast?_concat.symm⟩
  have hregistered : ∀ (accepted : Bool) (hostId : JsString), Untouched agent
      { agent with registered := accepted, hostId := some hostId } := fun _ _ =>
    ⟨rfl, rfl, rfl, rfl, rfl, id⟩
  unfold resume
  split
  · rename_i message
    cases message with
    | none => exact absurd rfl hreply
    | some message => exact resumed_caught (resumed_afterFailure _) message
  · dsimp only
    split
    · exact resumed_caught (fun agent cycle => resumed_await agent cycle _) _
    · split_ifs
      · exact resumed_await agent _ _
      · exact resumed_await agent _ _
  · exact (hregistered _ _).resumed (resumed_await _ _ _)
  · exact resumed_await agent _ _
  · exact resumed_await agent _ _
  · exact resumed_await agent _ _
  · exact (happlied _).resumed (resumed_await _ _ _)
  · dsimp only
    split
    · exact resumed_caught (fun agent cycle => resumed_callReport agent cycle) _
    · exact resumed_callReport agent _
  · exact resumed_callHeartbeat agent cycle
  · exact resumed_endCycle agent _
  · exact resumed_await agent cycle _

/-- An error without a text ends the cycle, which arms no timer. -/
theorem resume_rejected_none (call : HostCall) :
    agent.resume options cycle call (.rejected none) =
      (agent, { cycle with cycleFailed := true, awaits := none }) := by
  cases call <;> rfl

end HostAgent

end Hardess
