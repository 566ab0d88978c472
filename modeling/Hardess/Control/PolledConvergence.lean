import Hardess.Control.PolledHosts

/-!
# What a cycle of a polled host leaves

* `PolledHost.Settled`: the host is at the revision that the admin holds for it;
* `PolledHost.Fresh`: what holds since no cycle was under way, while the desired state of the host
  is not set again;
* **`converged_run`**: a cycle that begins after the desired state was set, and does not fail,
  leaves the host at its revision.
-/

namespace Hardess

/-- The desired state that a call works on. -/
def HostCall.state? : HostCall → Option DesiredHostState
  | .fetchArtifactManifests _ desired => some desired
  | .applyDesiredHostState desired _ => some desired
  | _ => none

/-- The desired state of a host is not set. -/
def PolledHostEvent.Leaves (hostId : JsString) : PolledHostEvent → Prop
  | .setDesiredHostState desired => desired.hostId ≠ hostId
  | _ => True

namespace PolledHost

variable {isUrl : JsString → Bool} {options : HostAgentOptions} {host host' : PolledHost}
  {hostId : JsString} {call : HostCall} {reply : HostReply} {desired : DesiredHostState}

/-- A cycle has ended, and nothing in it has failed. -/
def succeeded (host : PolledHost) : Bool :=
  host.agent.cycles.any fun cycle => cycle.awaits.isNone && !cycle.cycleFailed

/-- The host has applied what the admin holds for it. -/
def Settled (hostId : JsString) (host : PolledHost) : Prop :=
  ∃ desired, host.admin.desiredHostStates.get hostId = some desired ∧
    host.agent.desiredRevision = some desired.revision

/-- What the answers to a question about the desired state say. -/
def Current (hostId : JsString) (host : PolledHost) : HostCall → HostReply → Prop
  | .getDesiredHostState .., .desired changed state =>
    (∀ desired, changed = true → state = some desired →
      host.admin.desiredHostStates.get hostId = some desired) ∧
    (changed = false ∨ state = none → host.Settled hostId)
  | _, _ => True

/-- What holds since no cycle was under way. -/
structure Fresh (hostId : JsString) (host : PolledHost) : Prop where
  pending : ∀ {call desired}, host.inFlight = some call → call.state? = some desired →
    host.admin.desiredHostStates.get hostId = some desired
  answered : ∀ {call reply}, host.inFlight = some call → host.answer = some reply →
    host.Current hostId call reply
  passed : ∀ cycle ∈ host.agent.cycles, HostAgent.Late cycle.awaits → cycle.cycleFailed = false →
    host.Settled hostId

theorem Settled.imp (h : host.Settled hostId)
    (hrevision : host'.agent.desiredRevision = host.agent.desiredRevision)
    (hkept : ∀ desired, host.admin.desiredHostStates.get hostId = some desired →
      host'.admin.desiredHostStates.get hostId = some desired) : host'.Settled hostId := by
  obtain ⟨desired, hget, hsettled⟩ := h
  exact ⟨desired, hkept desired hget, hrevision.trans hsettled⟩

theorem Current.imp (h : host.Current hostId call reply)
    (hrevision : host'.agent.desiredRevision = host.agent.desiredRevision)
    (hkept : ∀ desired, host.admin.desiredHostStates.get hostId = some desired →
      host'.admin.desiredHostStates.get hostId = some desired) :
    host'.Current hostId call reply := by
  unfold Current at h
  split at h
  · exact ⟨fun desired hchanged hstate => hkept _ (h.1 desired hchanged hstate),
      fun hnone => (h.2 hnone).imp hrevision hkept⟩
  · rename_i hnot
    unfold Current
    split
    · exact (hnot _ _ _ _ rfl rfl).elim
    · trivial

/-! ### Steps -/

theorem Fresh.act (h : host.Fresh hostId) {agent : HostAgent} (hacts : host.agent.Acts agent) :
    (host.act agent).Fresh hostId where
  pending hcall hstate := by
    rcases inFlight_act hacts hcall with hbefore | rfl
    · exact h.pending hbefore hstate
    · cases hstate
  answered hcall hanswer := by
    rcases inFlight_act hacts hcall with hbefore | rfl
    · exact (h.answered hbefore hanswer).imp hacts.desiredRevision fun _ => id
    · trivial
  passed cycle hmem hlate hfailed := by
    have hsettled : host.Settled hostId → (host.act agent).Settled hostId := fun hsettled =>
      hsettled.imp hacts.desiredRevision fun _ => id
    change cycle ∈ agent.cycles at hmem
    rcases hacts.cycles with hsame | hnil | ⟨cycle', hcycle, hawaits⟩
    · rw [hsame] at hmem
      exact hsettled (h.passed cycle hmem hlate hfailed)
    · rw [hnil] at hmem
      cases hmem
    · rw [hcycle, List.mem_singleton] at hmem
      rw [hmem, hawaits] at hlate
      cases hlate

/-- The admin's tables have changed, but not for the host. -/
theorem Fresh.govern (h : host.Fresh hostId) {admin : MockAdminTransport}
    (hkept : ∀ desired, host.admin.desiredHostStates.get hostId = some desired →
      admin.desiredHostStates.get hostId = some desired) : (host.govern admin).Fresh hostId where
  pending hcall hstate := hkept _ (h.pending hcall hstate)
  answered hcall hanswer := (h.answered hcall hanswer).imp rfl hkept
  passed cycle hmem hlate hfailed := (h.passed cycle hmem hlate hfailed).imp rfl hkept

theorem Fresh.handle (h : host.Fresh hostId) (hsound : host.Sound isUrl)
    (hhostId : host.agent.hostId = some hostId) {request : AdminRequest}
    (hrequest : host.inFlight.bind HostCall.request = some request) :
    (host.handle isUrl request).Fresh hostId := by
  have hlater := @HardessAdminClient.later_request isUrl host.admin request
  have hgoverned := h.govern fun _ hget => hlater.kept hget
  obtain ⟨call, hcall, hof⟩ := Option.bind_eq_some_iff.1 hrequest
  refine ⟨hgoverned.pending, fun {call' reply} hflight hanswer => ?_, hgoverned.passed⟩
  obtain rfl := Option.some.inj (hcall.symm.trans hflight)
  obtain ⟨response, hresponse, hreply⟩ := Option.bind_eq_some_iff.1 hanswer
  cases call with
  | getDesiredHostState hostId' ifRevision =>
    obtain rfl := Option.some.inj hof
    obtain ⟨hhostId', hrevision⟩ := hsound.fits hcall
    obtain rfl := Option.some.inj (hhostId.symm.trans hhostId')
    obtain ⟨desired, hget, ⟨hsame, rfl⟩ | ⟨-, rfl⟩⟩ :=
      HardessAdminClient.request_getDesiredHostState hsound.admin hresponse
    · obtain rfl := Option.some.inj hreply
      exact ⟨nofun, fun _ => ⟨desired, hget, hrevision.symm.trans hsame⟩⟩
    · obtain rfl := Option.some.inj hreply
      refine ⟨fun desired' _ hstate => ?_, nofun⟩
      rw [← Option.some.inj hstate]
      exact hget
  | _ => trivial

theorem Fresh.handleManifest (h : host.Fresh hostId) (manifestId : JsString) :
    (host.handleManifest isUrl manifestId).Fresh hostId := by
  have hlater := @HardessAdminClient.later_request isUrl host.admin
    (.fetchArtifactManifest manifestId)
  have hgoverned := h.govern fun _ hget => hlater.kept hget
  unfold PolledHost.handleManifest
  split
  · rename_i admin manifest hhandled
    rw [hhandled] at hgoverned
    exact ⟨hgoverned.pending, hgoverned.answered, hgoverned.passed⟩
  · rename_i admin response hnot hhandled
    rw [hhandled] at hgoverned
    exact hgoverned

/-- The agent has gone on to a call, and nothing has been answered to it. -/
theorem Fresh.awaiting {agent : HostAgent} {cycle : ReconcileCycle}
    {applied : List (DesiredHostState × List (JsString × ArtifactManifest))}
    (hcycles : agent.cycles = [cycle])
    (hpending : ∀ {call desired}, cycle.awaits = some call → call.state? = some desired →
      host.admin.desiredHostStates.get hostId = some desired)
    (hpassed : HostAgent.Late cycle.awaits → cycle.cycleFailed = false →
      (host.act agent).Settled hostId) :
    Fresh hostId { host with agent, answer := none, fetched := .empty, applied } where
  pending hcall hstate := by
    refine hpending (hcall.symm.trans ?_).symm hstate
    unfold inFlight
    dsimp only
    rw [hcycles]
    rfl
  answered _ hanswer := nomatch hanswer
  passed cycle' hmem hlate hfailed := by
    change cycle' ∈ agent.cycles at hmem
    rw [hcycles, List.mem_singleton] at hmem
    rw [hmem] at hlate hfailed
    exact hpassed hlate hfailed

theorem state?_of_late (h : HostAgent.Late (some call)) : call.state? = none := by
  cases call with
  | fetchArtifactManifests ids desired => cases h
  | applyDesiredHostState desired artifacts => cases h
  | _ => rfl

/-- A reply to the call in flight, by what the cycle makes of it. -/
theorem Fresh.settle (h : host.agent.hostId = some hostId → host.Fresh hostId)
    (hsound : host.Sound isUrl) (hcall : host.inFlight = some call)
    (hcurrent : host.agent.hostId = some hostId → host.Current hostId call reply)
    (hhostId : (host.settle options call reply).agent.hostId = some hostId) :
    (host.settle options call reply).Fresh hostId := by
  unfold PolledHost.settle at hhostId ⊢
  obtain ⟨hnone, -⟩ | ⟨cycle, call', -, hcycles, hawaits, hsettle⟩ :=
    @HostAgent.Sound.settle_cases options _ hsound.agent 0 reply
  · obtain ⟨cycle, hhead, hawaits⟩ := Option.bind_eq_some_iff.1 hcall
    rw [List.head?_eq_getElem?] at hhead
    rw [hnone cycle hhead] at hawaits
    cases hawaits
  · obtain rfl : call' = call := by
      rw [inFlight, hcycles] at hcall
      exact Option.some.inj (hawaits.symm.trans hcall)
    rw [show _ = HostAgent.withCycle _ _ from hsettle] at hhostId ⊢
    have hres := @HostAgent.resumption options host.agent cycle call' reply
    generalize host.agent.resume options cycle call' reply = r at hres hhostId ⊢
    change r.1.hostId = some hostId at hhostId
    have hset : r.1.cycles = host.agent.cycles → (r.1.withCycle r.2).cycles = [r.2] := by
      intro hsame
      change r.1.cycles.set 0 r.2 = [r.2]
      rw [hsame, hcycles]
      rfl
    have hmem : cycle ∈ host.agent.cycles := by
      rw [hcycles]
      exact List.mem_singleton_self cycle
    -- a cycle that is past its first `try` block works on no desired state
    have hpassed : HostAgent.Passed host.agent cycle r →
        (r.2.cycleFailed = false → host.Settled hostId) →
        Fresh hostId { host with
          agent := r.1.withCycle r.2
          answer := none
          fetched := .empty
          applied := host.applied ++ applies call' reply } := by
      intro hp hsettled
      refine .awaiting (hset hp.keeps.cycles) (fun hnow hstate => ?_) fun _ hfailed => ?_
      · have hlate := hp.late
        rw [hnow] at hlate
        rw [state?_of_late hlate] at hstate
        cases hstate
      · exact (hsettled hfailed).imp hp.keeps.desiredRevision fun _ => id
    -- a cycle that awaits a call of its first `try` block
    have hworks : r.1.cycles = host.agent.cycles → ∀ {call}, r.2.awaits = some call →
        (HostAgent.Late (some call) → False) →
        (∀ {desired}, call.state? = some desired →
          host.admin.desiredHostStates.get hostId = some desired) →
        Fresh hostId { host with
          agent := r.1.withCycle r.2
          answer := none
          fetched := .empty
          applied := host.applied ++ applies call' reply } := by
      intro hsame call hawaits' hearly hstates
      refine .awaiting (hset hsame) (fun hnow hstate => ?_) fun hlate _ => ?_
      · obtain rfl := Option.some.inj (hawaits'.symm.trans hnow)
        exact hstates hstate
      · rw [hawaits'] at hlate
        exact (hearly hlate).elim
    cases hres with
    | failed hreply passed hfailed =>
      exact hpassed passed fun hok => by simp [hfailed] at hok
    | goesOn hlate passed =>
      refine hpassed passed fun hok => ?_
      have hsome := passed.keeps.hostId.symm.trans hhostId
      refine (h hsome).passed cycle hmem (by rwa [hawaits]) (Bool.eq_false_iff.2 fun hfailed => ?_)
      rw [passed.failed hfailed] at hok
      cases hok
    | ignored hreply keeps hawaits' hfailed =>
      rw [keeps] at hhostId
      refine .awaiting (hset (by rw [keeps])) (fun hnow hstate => ?_) fun hlate hok => ?_
      · obtain rfl := Option.some.inj (hawaits'.symm.trans hnow)
        exact (h hhostId).pending hcall hstate
      · rw [hawaits', ← hawaits] at hlate
        refine ((h hhostId).passed cycle hmem hlate (hfailed.symm.trans hok)).imp ?_ fun _ => id
        change r.1.desiredRevision = _
        rw [keeps]
    | identified hregistered hstable keeps hawaits' =>
      exact hworks (by rw [keeps]) hawaits' id (by simp [HostCall.state?])
    | registers hregistered keeps hawaits' => exact hworks (by rw [keeps]) hawaits' id (by simp [HostCall.state?])
    | registered hagent hawaits' => exact hworks (by rw [hagent]) hawaits' id (by simp [HostCall.state?])
    | unchanged hstate passed =>
      exact hpassed passed fun _ =>
        (hcurrent (passed.keeps.hostId.symm.trans hhostId)).2 hstate
    | @fetches _ _ desired _ keeps hawaits' =>
      rw [keeps] at hhostId
      refine hworks (by rw [keeps]) hawaits' id fun hstate => ?_
      rw [← Option.some.inj hstate]
      exact (hcurrent hhostId).1 desired rfl rfl
    | applies keeps hawaits' =>
      rw [keeps] at hhostId
      exact hworks (by rw [keeps]) hawaits' id fun hstate => (h hhostId).pending hcall hstate
    | @applied desired artifacts _ hagent hawaits' =>
      rw [hagent] at hhostId
      refine .awaiting (hset (by rw [hagent])) (fun hnow hstate => ?_) fun _ _ => ?_
      · obtain rfl := Option.some.inj (hawaits'.symm.trans hnow)
        cases hstate
      · refine ⟨desired, (h hhostId).pending hcall rfl, ?_⟩
        exact congrArg HostAgent.desiredRevision hagent

/-! ### Runs -/

theorem fresh_step (h : host.agent.hostId = some hostId → host.Fresh hostId)
    (hsound : host.Sound isUrl) {e : PolledHostEvent} (he : e.Leaves hostId)
    (hhostId : (host.step isUrl options e).agent.hostId = some hostId) :
    (host.step isUrl options e).Fresh hostId := by
  -- what the agent does by itself leaves the admin and the messages alone
  have hact : ∀ {agent : HostAgent}, host.agent.Acts agent → agent.hostId = some hostId →
      (host.act agent).Fresh hostId := fun hacts hsome =>
    (h (hacts.hostId.symm.trans hsome)).act hacts
  cases e with
  | start => exact hact hsound.agent.acts_start hhostId
  | stop => exact hact host.agent.acts_stop hhostId
  | reconcileOnce => exact hact hsound.agent.acts_reconcileOnce hhostId
  | fire timer => exact hact (hsound.agent.acts_fire timer) hhostId
  | release => exact hact (hsound.agent.acts_release 0) hhostId
  | runtime reply =>
    unfold step at hhostId ⊢
    dsimp only at hhostId ⊢
    split at hhostId
    · rename_i call hcall
      split_ifs at hhostId ⊢ with hruntime
      · refine .settle h hsound hcall (fun _ => ?_) hhostId
        cases call with
        | getDesiredHostState hostId' ifRevision => cases hruntime
        | _ => trivial
      · exact h hhostId
    · exact h hhostId
  | handle =>
    unfold step at hhostId ⊢
    dsimp only at hhostId ⊢
    split at hhostId
    · rename_i request hrequest
      exact (h hhostId).handle hsound hhostId hrequest
    · exact h hhostId
  | handleManifest manifestId =>
    refine (h ?_).handleManifest manifestId
    change (host.handleManifest isUrl manifestId).agent.hostId = some hostId at hhostId
    unfold PolledHost.handleManifest at hhostId
    split at hhostId <;> exact hhostId
  | deliver =>
    unfold step at hhostId ⊢
    dsimp only at hhostId ⊢
    split at hhostId
    · rename_i call hcall
      split at hhostId
      · rename_i reply hreply
        split_ifs at hhostId ⊢
        · exact h hhostId
        · refine .settle h hsound hcall (fun hsome => ?_) hhostId
          cases call with
          | getDesiredHostState hostId' ifRevision => exact (h hsome).answered hcall hreply
          | _ => trivial
      · exact h hhostId
    · exact h hhostId
  | fail message =>
    unfold step at hhostId ⊢
    dsimp only at hhostId ⊢
    split at hhostId
    · rename_i call hcall
      refine .settle h hsound hcall (fun _ => ?_) hhostId
      cases call <;> trivial
    · exact h hhostId
  | other request =>
    exact (h hhostId).govern fun _ hget => (host.admin.later_request request).kept hget
  | setDesiredHostState desired =>
    refine (h hhostId).govern fun state hget => ?_
    unfold MockAdminTransport.setDesiredHostState
    cases hparse : desired.parse isUrl with
    | none => exact hget
    | some desired' =>
      refine (JsMap.get_set_of_ne _ ?_ _).trans hget
      rw [DesiredHostState.hostId_of_parse hparse]
      exact Ne.symm he
  | putArtifactManifest manifest =>
    refine (h hhostId).govern fun state hget => ?_
    unfold MockAdminTransport.putArtifactManifest
    split_ifs <;> exact hget

theorem fresh_run {es : List PolledHostEvent} : ∀ {host : PolledHost},
    host.Sound isUrl → (host.agent.hostId = some hostId → host.Fresh hostId) →
    (∀ e ∈ es, e.Leaves hostId) →
    let host' := Machine.run (step isUrl options) host es
    host'.agent.hostId = some hostId → host'.Fresh hostId := by
  induction es with
  | nil => exact fun _ h _ => h
  | cons e es ih =>
    intro host hsound h hleaves
    obtain ⟨he, hes⟩ := List.forall_mem_cons.1 hleaves
    exact ih (sound_step hsound e) (fresh_step h hsound he) hes

/-- **A cycle that begins when the desired state of the host has been set, and ends without a
failure before it is set again, leaves the host at the revision that the admin holds for it.** -/
theorem converged_run (isUrl : JsString → Bool) (options : HostAgentOptions)
    (pollAfterMs nextPollAfterMs : JsNumber) (es₁ es₂ : List PolledHostEvent) (hostId : JsString) :
    let created : PolledHost := { admin := { pollAfterMs, nextPollAfterMs } }
    let host := Machine.run (step isUrl options) created (es₁ ++ es₂)
    (Machine.run (step isUrl options) created es₁).agent.cycles = [] →
      (∀ e ∈ es₂, e.Leaves hostId) → host.agent.hostId = some hostId → host.succeeded = true →
      host.Settled hostId := by
  intro created host hidle hleaves hhostId hsucceeded
  have hfresh : (Machine.run (step isUrl options) created es₁).Fresh hostId := by
    have hnone : (Machine.run (step isUrl options) created es₁).inFlight = none := by
      rw [inFlight, hidle]
      rfl
    refine ⟨fun hcall => by simp [hnone] at hcall, fun hcall => by simp [hnone] at hcall,
      fun cycle hmem => ?_⟩
    rw [hidle] at hmem
    cases hmem
  have hlater := @fresh_run isUrl options hostId es₂ _ (sound_run pollAfterMs nextPollAfterMs es₁)
    (fun _ => hfresh) hleaves
  rw [← Machine.run_append] at hlater
  obtain ⟨cycle, hmem, hended⟩ := List.any_eq_true.1 hsucceeded
  rw [Bool.and_eq_true, Option.isNone_iff_eq_none, Bool.not_eq_true'] at hended
  refine (hlater hhostId).passed cycle hmem ?_ hended.2
  rw [hended.1]
  trivial

/-! ### A worker is assigned -/

/-- The artifact of a worker. -/
def workerManifest : ArtifactManifest where
  manifestId := js "m1"
  sourceUri := js "file:///worker"
  entry := js "index.ts"
  packageManager := .bun none none none none

/-- A host that is assigned the worker. -/
def workerState : DesiredHostState where
  hostId := js "a"
  revision := js "rev-2"
  assignments := [{
    assignmentId := js "assign-1"
    hostId := js "a"
    deploymentId := js "chat"
    deploymentKind := .httpWorker
    declaredVersion := js "1"
    artifact := ⟨js "m1", js "file:///worker", none⟩
    httpWorker := some { entry := js "index.ts" } }]

/-- What the host says of itself. -/
def observedState : ObservedHostState where
  hostId := js "a"
  ready := true
  draining := false
  currentAssignmentCount := 0
  assignmentStatuses := []

/-- The worker is assigned before the host starts. -/
def assigned : List PolledHostEvent :=
  [.putArtifactManifest workerManifest, .setDesiredHostState workerState]

/-- A cycle, from the registration to the heartbeat. -/
def firstCycle : List PolledHostEvent :=
  [.start, .runtime (.registration { hostId := js "a" }), .handle, .deliver, .handle, .deliver,
    .handleManifest (js "m1"), .deliver, .runtime .applied, .runtime (.observed observedState),
    .handle, .deliver, .handle, .deliver]

theorem converged_run_firstCycle :
    (Machine.run (step (fun _ => true) {}) {} (assigned ++ firstCycle)).Settled (js "a") ∧
      (Machine.run (step (fun _ => true) {}) {} (assigned ++ firstCycle)).agent.desiredRevision =
        some (js "rev-2") :=
  ⟨converged_run (fun _ => true) {} (.ofNat 5000) (.ofNat 5000) assigned firstCycle (js "a") rfl
    (by simp [firstCycle, PolledHostEvent.Leaves]) (by decide +kernel) (by decide +kernel),
    by decide +kernel⟩

end PolledHost

end Hardess
