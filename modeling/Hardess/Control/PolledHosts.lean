import Hardess.Control.AdminTransport
import Hardess.Control.HostResumption
import Hardess.Lib.ListMapM

/-!
# A host and the admin that it polls

`HostAgent` of `src/runtime/control/host-agent.ts` against the admin of `src/sdk/admin/mock.ts`,
with what is on its way between them.

* `PolledHost.step`: the agent's calls, its runtime, the admin, other clients, and lost requests, in
  any order;
* `PolledHost.Sound`: what holds in every state;
* **`applied_run`**: a host applies desired states that it was given, in that order, none twice.

A request that the admin handles after the agent has given it up is one of another client.
-/

namespace Hardess

/-! ### What the agent asks the admin -/

/-- The request of a call; the manifests are fetched with a request each. -/
def HostCall.request : HostCall → Option AdminRequest
  | .registerHost registration => some (.registerHost registration)
  | .getDesiredHostState hostId ifRevision => some (.getDesiredHostState hostId ifRevision)
  | .reportObservedHostState observed => some (.reportObservedHostState observed)
  | .heartbeatHost observed => some (.heartbeatHost observed.hostId observed)
  | _ => none

/-- The call is one of the runtime adapter. -/
def HostCall.isRuntime : HostCall → Bool
  | .getHostRegistration => true
  | .applyDesiredHostState .. => true
  | .collectObservedHostState => true
  | _ => false

/-- What a call comes to when it is answered. -/
def AdminResponse.reply : AdminResponse → Option HostReply
  | .registered hostId accepted pollAfterMs => some (.registered accepted hostId pollAfterMs)
  | .heartbeat _ nextPollAfterMs => some (.heartbeat nextPollAfterMs)
  | .desired changed state => some (.desired changed state)
  | .reported _ => some .reported
  | .manifest _ => none

/-- A host agent, the admin, and what is between them. -/
structure PolledHost where
  agent : HostAgent := {}
  admin : MockAdminTransport := {}
  /-- What the admin has answered to the call in flight. -/
  answer : Option HostReply := none
  /-- The manifests that have been fetched for the call in flight. -/
  fetched : JsMap JsString ArtifactManifest := .empty
  /-- What the runtime has applied, with the artifacts that it was given. -/
  applied : List (DesiredHostState × List (JsString × ArtifactManifest)) := []

/-- What happens to a host and its admin. -/
inductive PolledHostEvent
  | start
  | stop
  | reconcileOnce
  | fire (timer : ℕ)
  | release
  /-- A call of the runtime adapter comes to something. -/
  | runtime (reply : HostReply)
  /-- The admin handles the request of the call in flight. -/
  | handle
  | handleManifest (manifestId : JsString)
  /-- The answer reaches the agent. -/
  | deliver
  /-- The call in flight fails, whether or not it was handled. -/
  | fail (message : Option JsString)
  /-- A request of another client. -/
  | other (request : AdminRequest)
  | setDesiredHostState (desired : DesiredHostState)
  | putArtifactManifest (manifest : ArtifactManifest)

namespace PolledHost

section steps

variable (isUrl : JsString → Bool) (options : HostAgentOptions) (host : PolledHost)

/-- What the cycle in flight awaits. -/
def inFlight : Option HostCall := host.agent.cycles.head?.bind (·.awaits)

/-- What is applied when a call comes to something. -/
def applies : HostCall → HostReply → List (DesiredHostState × List (JsString × ArtifactManifest))
  | .applyDesiredHostState desired artifacts, .applied => [(desired, artifacts)]
  | _, _ => []

/-- The call in flight comes to something. -/
def settle (call : HostCall) (reply : HostReply) : PolledHost :=
  { host with
    agent := host.agent.settle options 0 reply
    answer := none
    fetched := .empty
    applied := host.applied ++ applies call reply }

/-- The agent's own steps. -/
def act (agent : HostAgent) : PolledHost := { host with agent }

/-- The admin's own steps. -/
def govern (admin : MockAdminTransport) : PolledHost := { host with admin }

/-- The admin handles a request. -/
def handle (request : AdminRequest) : PolledHost :=
  let handled := HardessAdminClient.request isUrl host.admin request
  { host with admin := handled.1, answer := handled.2.bind (·.reply) }

/-- The admin handles the request for a manifest. -/
def handleManifest (manifestId : JsString) : PolledHost :=
  match HardessAdminClient.request isUrl host.admin (.fetchArtifactManifest manifestId) with
  | (admin, some (.manifest manifest)) =>
    { host with admin, fetched := host.fetched.set manifestId manifest }
  | (admin, _) => { host with admin }

/-- What the call in flight comes to, if it has been answered. -/
def reply : HostCall → Option HostReply
  | .fetchArtifactManifests manifestIds _ => (manifestIds.mapM host.fetched.get).map .manifests
  | _ => host.answer

/-- What an event does. -/
def step (host : PolledHost) : PolledHostEvent → PolledHost
  | .start => host.act (host.agent.start options)
  | .stop => host.act host.agent.stop
  | .reconcileOnce => host.act (host.agent.reconcileOnce options)
  | .fire timer => host.act (host.agent.fire options timer)
  | .release => host.act (host.agent.release 0)
  | .runtime reply =>
    match host.inFlight with
    | some call => if call.isRuntime then host.settle options call reply else host
    | none => host
  | .handle =>
    match host.inFlight.bind HostCall.request with
    | some request => host.handle isUrl request
    | none => host
  | .handleManifest manifestId => host.handleManifest isUrl manifestId
  | .deliver =>
    match host.inFlight with
    | some call =>
      match host.reply call with
      | some reply => if call.isRuntime then host else host.settle options call reply
      | none => host
    | none => host
  | .fail message =>
    match host.inFlight with
    | some call => host.settle options call (.rejected message)
    | none => host
  | .other request => host.govern (host.admin.request isUrl request).1
  | .setDesiredHostState desired => host.govern (host.admin.setDesiredHostState isUrl desired)
  | .putArtifactManifest manifest => host.govern (host.admin.putArtifactManifest isUrl manifest)

end steps

end PolledHost

namespace PolledHost

variable {isUrl : JsString → Bool} {options : HostAgentOptions} {host : PolledHost}

/-! ### What holds in every state -/

/-- The manifests are those of the assignments. -/
def Complete (desired : DesiredHostState) (artifacts : List (JsString × ArtifactManifest)) : Prop :=
  artifacts.map Prod.fst = HostAgent.manifestIds desired ∧
    ∀ artifact ∈ artifacts, artifact.2.manifestId = artifact.1

/-- The desired states that were applied. -/
def appliedStates (host : PolledHost) : List DesiredHostState := host.applied.map Prod.fst

/-- The host was given this desired state after the last one that it applied. -/
def Next (host : PolledHost) (desired : DesiredHostState) : Prop :=
  ∃ hostId, host.agent.hostId = some hostId ∧
    (host.appliedStates ++ [desired]).Sublist (host.admin.heldFor hostId)

/-- What is known of a call in flight. -/
def Fits (host : PolledHost) : HostCall → Prop
  | .registerHost _ => host.agent.hostId = none
  | .getDesiredHostState hostId ifRevision =>
    host.agent.hostId = some hostId ∧ ifRevision = host.agent.desiredRevision
  | .fetchArtifactManifests manifestIds desired =>
    host.Next desired ∧ manifestIds = HostAgent.manifestIds desired
  | .applyDesiredHostState desired artifacts => host.Next desired ∧ Complete desired artifacts
  | _ => True

/-- What is known of a reply to a call. -/
def Answers (host : PolledHost) : HostCall → HostReply → Prop
  | .registerHost registration, .registered accepted hostId _ =>
    accepted = true ∧ hostId = registration.hostId ∧ hostId ≠ []
  | .getDesiredHostState .., .desired _ (some desired) => host.Next desired
  | .fetchArtifactManifests manifestIds _, .manifests manifests =>
    manifests.length = manifestIds.length ∧
      ∀ artifact ∈ manifestIds.zip manifests, artifact.2.manifestId = artifact.1
  | _, _ => True

/-- What holds in every state. -/
structure Sound (isUrl : JsString → Bool) (host : PolledHost) : Prop where
  agent : host.agent.Sound
  admin : host.admin.Tidy isUrl
  registered : host.agent.registered = host.agent.hostId.isSome
  nonempty : host.agent.hostId ≠ some []
  revisions : host.agent.applied = host.appliedStates.map (·.revision)
  owned : host.agent.hostId = none → host.applied = []
  inOrder : ∀ {hostId}, host.agent.hostId = some hostId →
    host.appliedStates.Sublist (host.admin.heldFor hostId)
  complete : ∀ p ∈ host.applied, Complete p.1 p.2
  fits : ∀ {call}, host.inFlight = some call → host.Fits call
  answers : ∀ {call reply}, host.inFlight = some call → host.answer = some reply →
    host.Answers call reply
  fetched : ∀ {manifestId manifest}, host.fetched.get manifestId = some manifest →
    manifest.manifestId = manifestId

theorem sound_create (pollAfterMs nextPollAfterMs : JsNumber) :
    Sound isUrl { admin := { pollAfterMs, nextPollAfterMs } } where
  agent := HostAgent.sound_create
  admin := MockAdminTransport.tidy_create ..
  registered := rfl
  nonempty := nofun
  revisions := rfl
  owned _ := rfl
  inOrder h := by cases h
  complete := List.forall_mem_nil _
  fits h := by cases h
  answers h := by cases h
  fetched h := by cases h

variable {host' : PolledHost} {call : HostCall} {reply : HostReply}

/-- What is known of a call does not depend on the admin's other steps. -/
theorem Fits.imp (h : host.Fits call) (hnext : ∀ desired, host.Next desired → host'.Next desired)
    (hhostId : host'.agent.hostId = host.agent.hostId)
    (hrevision : host'.agent.desiredRevision = host.agent.desiredRevision) : host'.Fits call := by
  cases call with
  | registerHost registration => exact hhostId.trans h
  | getDesiredHostState hostId ifRevision => exact ⟨hhostId.trans h.1, h.2.trans hrevision.symm⟩
  | fetchArtifactManifests ids desired => exact ⟨hnext desired h.1, h.2⟩
  | applyDesiredHostState desired artifacts => exact ⟨hnext desired h.1, h.2⟩
  | _ => trivial

theorem Answers.imp (h : host.Answers call reply)
    (hnext : ∀ desired, host.Next desired → host'.Next desired) : host'.Answers call reply := by
  unfold Answers at h
  split at h
  · exact h
  · exact hnext _ h
  · exact h
  · rename_i hregister hdesired hmanifests
    unfold Answers
    split
    · exact (hregister _ _ _ _ rfl rfl).elim
    · exact (hdesired _ _ _ _ rfl rfl).elim
    · exact (hmanifests _ _ _ rfl rfl).elim
    · trivial

/-! ### The agent's own steps -/

/-- What is awaited now was awaited before, or a cycle has begun. -/
theorem inFlight_act {agent : HostAgent} (hacts : host.agent.Acts agent)
    (hcall : (host.act agent).inFlight = some call) :
    host.inFlight = some call ∨ call = .getHostRegistration := by
  unfold inFlight PolledHost.act at hcall
  rcases hacts.cycles with hsame | hnil | ⟨cycle, hcycle, hawaits⟩
  · rw [hsame] at hcall
    exact .inl hcall
  · rw [hnil] at hcall
    cases hcall
  · rw [hcycle] at hcall
    exact .inr (Option.some.inj (hcall.symm.trans hawaits))

theorem Sound.act (h : host.Sound isUrl) {agent : HostAgent} (hsound : agent.Sound)
    (hacts : host.agent.Acts agent) : (host.act agent).Sound isUrl := by
  have hhostId := hacts.hostId
  have hnext : ∀ desired, host.Next desired → (host.act agent).Next desired := by
    rintro desired ⟨hostId, hsome, hsublist⟩
    exact ⟨hostId, hhostId.trans hsome, hsublist⟩
  refine ⟨hsound, h.admin, ?_, ?_, ?_, ?_, ?_, h.complete, ?_, ?_, h.fetched⟩
  · change agent.registered = agent.hostId.isSome
    rw [hacts.registered, hhostId, h.registered]
  · exact fun hempty => h.nonempty (hhostId.symm.trans hempty)
  · exact hacts.applied.trans h.revisions
  · exact fun hnone => h.owned (hhostId.symm.trans hnone)
  · exact fun hsome => h.inOrder (hhostId.symm.trans hsome)
  · intro call hcall
    rcases inFlight_act hacts hcall with hbefore | rfl
    · exact (h.fits hbefore).imp hnext hhostId hacts.desiredRevision
    · trivial
  · intro call reply hcall hanswer
    rcases inFlight_act hacts hcall with hbefore | rfl
    · exact (h.answers hbefore hanswer).imp hnext
    · trivial

/-! ### The admin's own steps -/

theorem Next.govern {admin : MockAdminTransport} (hheld : host.admin.held <+: admin.held)
    {desired : DesiredHostState} (h : host.Next desired) : (host.govern admin).Next desired := by
  obtain ⟨hostId, hsome, hsublist⟩ := h
  exact ⟨hostId, hsome, hsublist.trans (hheld.filter _).sublist⟩

/-- The admin's tables have grown. -/
theorem Sound.govern (h : host.Sound isUrl) {admin : MockAdminTransport}
    (htidy : admin.Tidy isUrl) (hheld : host.admin.held <+: admin.held) :
    (host.govern admin).Sound isUrl where
  agent := h.agent
  admin := htidy
  registered := h.registered
  nonempty := h.nonempty
  revisions := h.revisions
  owned := h.owned
  inOrder hsome := (h.inOrder hsome).trans (hheld.filter _).sublist
  complete := h.complete
  fits hcall := (h.fits hcall).imp (fun _ => Next.govern hheld) rfl rfl
  answers hcall hanswer := (h.answers hcall hanswer).imp fun _ => Next.govern hheld
  fetched := h.fetched

theorem Sound.later (h : host.Sound isUrl) {admin : MockAdminTransport}
    (hlater : host.admin.Later isUrl admin) : (host.govern admin).Sound isUrl :=
  h.govern (hlater.tidy h.admin) hlater.held

/-! ### Answers -/

/-- A part of a list that does not end where the list ends, with the end of the list. -/
theorem concat_sublist {α : Type*} {l held : List α} {a : α} (h : l.Sublist held)
    (hlast : held.getLast? = some a) (hne : l.getLast? ≠ some a) : (l ++ [a]).Sublist held := by
  obtain ⟨init, rfl⟩ := List.getLast?_eq_some_iff.1 hlast
  obtain ⟨l₁, l₂, rfl, h₁, h₂⟩ := List.sublist_append_iff.1 h
  rcases List.sublist_singleton.1 h₂ with rfl | rfl
  · rw [List.append_nil]
    exact h₁.append (List.Sublist.refl _)
  · exact absurd List.getLast?_concat hne

/-- The agent awaits the call whose request the admin handles. -/
theorem Sound.handle (h : host.Sound isUrl) {request : AdminRequest}
    (hrequest : host.inFlight.bind HostCall.request = some request) :
    (host.handle isUrl request).Sound isUrl := by
  have hlater := @HardessAdminClient.later_request isUrl host.admin request
  have hgoverned := h.later hlater
  obtain ⟨call, hcall, hof⟩ := Option.bind_eq_some_iff.1 hrequest
  -- the answer fits the call that waits for it
  have hanswers : ∀ {reply}, (host.handle isUrl request).answer = some reply →
      (host.handle isUrl request).Answers call reply := by
    intro reply hanswer
    obtain ⟨response, hresponse, hreply⟩ := Option.bind_eq_some_iff.1 hanswer
    cases call with
    | registerHost registration =>
      obtain rfl := Option.some.inj hof
      obtain ⟨hne, pollAfterMs, rfl⟩ := HardessAdminClient.request_registerHost hresponse
      obtain rfl := Option.some.inj hreply
      exact ⟨rfl, rfl, hne⟩
    | getDesiredHostState hostId ifRevision =>
      obtain rfl := Option.some.inj hof
      obtain ⟨desired, hget, ⟨-, rfl⟩ | ⟨hother, rfl⟩⟩ :=
        HardessAdminClient.request_getDesiredHostState h.admin hresponse
      · obtain rfl := Option.some.inj hreply
        trivial
      · obtain rfl := Option.some.inj hreply
        obtain ⟨hhostId, hrevision⟩ := h.fits hcall
        refine ⟨hostId, hhostId, ?_⟩
        -- a state that is sent is another than the last one, and is the current one
        refine concat_sublist (hgoverned.inOrder hhostId)
          ((hgoverned.admin.current hostId).symm.trans hget) fun hsame => hother ?_
        rw [hrevision, h.agent.revision, h.revisions, List.getLast?_map]
        exact congrArg (Option.map DesiredHostState.revision) hsame
    | reportObservedHostState observed => trivial
    | heartbeatHost observed => trivial
    | _ => cases hof
  refine ⟨hgoverned.agent, hgoverned.admin, hgoverned.registered, hgoverned.nonempty,
    hgoverned.revisions, hgoverned.owned, hgoverned.inOrder, hgoverned.complete,
    fun hflight => (hgoverned.fits hflight).imp (fun _ => id) rfl rfl, fun hflight hanswer => ?_,
    hgoverned.fetched⟩
  obtain rfl := Option.some.inj (hcall.symm.trans hflight)
  exact hanswers hanswer

theorem Sound.handleManifest (h : host.Sound isUrl) (manifestId : JsString) :
    (host.handleManifest isUrl manifestId).Sound isUrl := by
  have hlater := @HardessAdminClient.later_request isUrl host.admin
    (.fetchArtifactManifest manifestId)
  have hgoverned := h.later hlater
  unfold PolledHost.handleManifest
  split
  · rename_i admin manifest hhandled
    obtain ⟨found, hfound, hmanifest⟩ := HardessAdminClient.request_fetchArtifactManifest h.admin
      (congrArg Prod.snd hhandled)
    obtain rfl := AdminResponse.manifest.inj hmanifest
    rw [hhandled] at hgoverned
    refine ⟨hgoverned.agent, hgoverned.admin, hgoverned.registered, hgoverned.nonempty,
      hgoverned.revisions, hgoverned.owned, hgoverned.inOrder, hgoverned.complete,
      fun hflight => (hgoverned.fits hflight).imp (fun _ => id) rfl rfl,
      fun hflight hanswer => (hgoverned.answers hflight hanswer).imp fun _ => id,
      fun {id other} hother => ?_⟩
    replace hother := (JsMap.get_set ..).symm.trans hother
    split_ifs at hother with hid
    · rw [← Option.some.inj hother, hfound, hid]
    · exact h.fetched hother
  · rename_i admin response hnot hhandled
    rw [hhandled] at hgoverned
    exact hgoverned

/-! ### Replies -/

/-- The call in flight is another one, and nothing has been answered to it. -/
theorem Sound.awaiting (h : host.Sound isUrl) {agent : HostAgent} (hsound : agent.Sound)
    (hregistered : agent.registered = host.agent.registered)
    (hhostId : agent.hostId = host.agent.hostId)
    (happlied : agent.applied = host.agent.applied)
    (hfits : ∀ {call}, (host.act agent).inFlight = some call → (host.act agent).Fits call) :
    Sound isUrl { host with agent, answer := none, fetched := .empty } := by
  refine ⟨hsound, h.admin, ?_, ?_, ?_, ?_, ?_, h.complete, hfits,
    (fun _ hanswer => nomatch hanswer), (fun hfetched => nomatch hfetched)⟩
  · exact (hregistered.trans h.registered).trans (congrArg Option.isSome hhostId.symm)
  · exact fun hempty => h.nonempty (hhostId.symm.trans hempty)
  · exact happlied.trans h.revisions
  · exact fun hnone => h.owned (hhostId.symm.trans hnone)
  · exact fun hsome => h.inOrder (hhostId.symm.trans hsome)

theorem Fits.of_late (h : HostAgent.Late (some call)) : host.Fits call := by
  cases call with
  | collectObservedHostState => trivial
  | reportObservedHostState _ => trivial
  | heartbeatHost _ => trivial
  | _ => cases h

theorem applies_eq_nil (h : ∀ desired artifacts, call = .applyDesiredHostState desired artifacts →
    reply ≠ .applied) : applies call reply = [] := by
  unfold applies
  split
  · exact absurd rfl (h _ _ rfl)
  · rfl

/-- The host registers: what it applies from now on is its own. -/
theorem Sound.joined (h : host.Sound isUrl) {agent : HostAgent} (hsound : agent.Sound)
    (hnone : host.agent.hostId = none) {hostId : JsString} (hne : hostId ≠ [])
    (hregistered : agent.registered = true) (hhostId : agent.hostId = some hostId)
    (happlied : agent.applied = host.agent.applied)
    (hfits : ∀ {call}, (host.act agent).inFlight = some call → (host.act agent).Fits call) :
    Sound isUrl { host with agent, answer := none, fetched := .empty } := by
  have hnil : host.applied = [] := h.owned hnone
  refine ⟨hsound, h.admin, ?_, ?_, happlied.trans h.revisions, fun _ => hnil, fun _ => ?_,
    h.complete, hfits, (fun _ hanswer => nomatch hanswer), (fun hfetched => nomatch hfetched)⟩
  · exact hregistered.trans (congrArg Option.isSome hhostId).symm
  · exact fun hempty => hne (Option.some.inj (hhostId.symm.trans hempty))
  · change (host.applied.map Prod.fst).Sublist _
    rw [hnil]
    exact List.nil_sublist _

/-- The runtime has applied a desired state. -/
theorem Sound.applied (h : host.Sound isUrl) {agent : HostAgent} (hsound : agent.Sound)
    {desired : DesiredHostState} {artifacts : List (JsString × ArtifactManifest)}
    (hnext : host.Next desired) (hcomplete : Complete desired artifacts)
    (hregistered : agent.registered = host.agent.registered)
    (hhostId : agent.hostId = host.agent.hostId)
    (happlied : agent.applied = host.agent.applied ++ [desired.revision])
    (hlate : HostAgent.Late (host.act agent).inFlight) :
    Sound isUrl { host with
      agent
      answer := none
      fetched := .empty
      applied := host.applied ++ [(desired, artifacts)] } := by
  obtain ⟨hostId, hsome, hsublist⟩ := hnext
  refine ⟨hsound, h.admin, ?_, ?_, ?_, ?_, ?_, ?_, ?_, (fun _ hanswer => nomatch hanswer),
    (fun hfetched => nomatch hfetched)⟩
  · exact (hregistered.trans h.registered).trans (congrArg Option.isSome hhostId.symm)
  · exact fun hempty => h.nonempty (hhostId.symm.trans hempty)
  · refine happlied.trans ?_
    rw [h.revisions, appliedStates, appliedStates, List.map_append, List.map_append]
    rfl
  · exact fun hnone => nomatch hsome.symm.trans (hhostId.symm.trans hnone)
  · intro hostId' hsome'
    obtain rfl := Option.some.inj (hsome.symm.trans (hhostId.symm.trans hsome'))
    change ((host.applied ++ [(desired, artifacts)]).map Prod.fst).Sublist _
    rw [List.map_append]
    exact hsublist
  · exact List.forall_mem_append.2 ⟨h.complete, List.forall_mem_singleton.2 hcomplete⟩
  · intro call hcall
    rw [show (host.act agent).inFlight = some call from hcall] at hlate
    exact .of_late hlate

theorem Sound.settle (h : host.Sound isUrl) (hcall : host.inFlight = some call)
    (hanswers : host.Answers call reply) : (host.settle options call reply).Sound isUrl := by
  have hsound : (host.agent.settle options 0 reply).Sound := h.agent.settle 0 reply
  unfold PolledHost.settle
  obtain ⟨hnone, -⟩ | ⟨cycle, call', -, hcycles, hawaits, hsettle⟩ :=
    @HostAgent.Sound.settle_cases options _ h.agent 0 reply
  · obtain ⟨cycle, hhead, hawaits⟩ := Option.bind_eq_some_iff.1 hcall
    rw [List.head?_eq_getElem?] at hhead
    exact nomatch (hnone cycle hhead).symm.trans hawaits
  · obtain rfl : call' = call := by
      rw [inFlight, hcycles] at hcall
      exact Option.some.inj (hawaits.symm.trans hcall)
    rw [show _ = HostAgent.withCycle _ _ from hsettle] at hsound ⊢
    have hres := @HostAgent.resumption options host.agent cycle call' reply
    generalize host.agent.resume options cycle call' reply = r at hsound hres ⊢
    -- what the cycle awaits is in flight
    have hflight : r.1.cycles = host.agent.cycles →
        (host.act (r.1.withCycle r.2)).inFlight = r.2.awaits := by
      intro hsame
      unfold inFlight PolledHost.act HostAgent.withCycle
      dsimp only
      rw [hsame, hcycles]
      rfl
    have hfits := h.fits hcall
    -- the agent is as before, and the applied states are
    have hkept : ∀ (hkeeps : HostAgent.Keeps host.agent r.1),
        (∀ desired artifacts, call' = .applyDesiredHostState desired artifacts →
          reply ≠ .applied) →
        (∀ call, r.2.awaits = some call →
          (host.act (r.1.withCycle r.2)).Fits call) →
        Sound isUrl { host with
          agent := r.1.withCycle r.2
          answer := none
          fetched := .empty
          applied := host.applied ++ applies call' reply } := by
      intro hkeeps hreply hnew
      rw [applies_eq_nil hreply, List.append_nil]
      refine h.awaiting hsound hkeeps.registered hkeeps.hostId hkeeps.applied fun {call} hnow => ?_
      rw [hflight hkeeps.cycles] at hnow
      exact hnew call hnow
    have hlateFits : HostAgent.Late r.2.awaits → ∀ call, r.2.awaits = some call →
        (host.act (r.1.withCycle r.2)).Fits call := by
      intro hlate call hnow
      rw [hnow] at hlate
      exact .of_late hlate
    -- the agent is as before, and what it awaits is known
    have hsame : r.1 = host.agent →
        (∀ desired artifacts, call' = .applyDesiredHostState desired artifacts →
          reply ≠ .applied) →
        ∀ {call}, r.2.awaits = some call → host.Fits call →
        Sound isUrl { host with
          agent := r.1.withCycle r.2
          answer := none
          fetched := .empty
          applied := host.applied ++ applies call' reply } := by
      intro hagent hreply call hawaits' hfits'
      have hkeeps : HostAgent.Keeps host.agent r.1 := by
        rw [hagent]
        exact .refl _
      refine hkept hkeeps hreply fun call' hnow => ?_
      obtain rfl := Option.some.inj (hawaits'.symm.trans hnow)
      refine hfits'.imp (fun desired => ?_) hkeeps.hostId hkeeps.desiredRevision
      rintro ⟨hostId, hsome, hsublist⟩
      exact ⟨hostId, hkeeps.hostId.trans hsome, hsublist⟩
    cases hres with
    | failed hreply passed hfailed =>
      exact hkept passed.keeps (fun _ _ _ => hreply) (hlateFits passed.late)
    | goesOn hlate passed =>
      refine hkept passed.keeps (fun desired artifacts happly => ?_) (hlateFits passed.late)
      rw [happly] at hlate
      cases hlate
    | ignored hreply keeps hawaits' _ => exact hsame keeps hreply hawaits' hfits
    | @identified registration _ hregistered hstable keeps hawaits' =>
      refine hsame keeps nofun hawaits' ⟨?_, rfl⟩
      rw [h.registered] at hregistered
      obtain ⟨hostId, hsome⟩ := Option.isSome_iff_exists.1 hregistered
      refine hsome.trans (congrArg some (hstable hostId hsome fun hempty => h.nonempty ?_).symm)
      rw [hsome, hempty]
    | registers hregistered keeps hawaits' =>
      rw [h.registered, Option.isSome_eq_false_iff, Option.isNone_iff_eq_none] at hregistered
      exact hsame keeps nofun hawaits' hregistered
    | @registered registration accepted hostId pollAfterMs _ hagent hawaits' =>
      obtain ⟨rfl, rfl, hne⟩ := hanswers
      obtain ⟨agent', cycle'⟩ := r
      obtain rfl : agent' = _ := hagent
      rw [show applies _ (.registered ..) = [] from rfl, List.append_nil]
      refine h.joined hsound hfits hne rfl rfl rfl fun {call} hnow => ?_
      rw [hflight rfl, hawaits'] at hnow
      obtain rfl := Option.some.inj hnow
      exact ⟨rfl, rfl⟩
    | unchanged hstate passed => exact hkept passed.keeps nofun (hlateFits passed.late)
    | fetches keeps hawaits' => exact hsame keeps nofun hawaits' ⟨hanswers, rfl⟩
    | @applies ids desired manifests _ keeps hawaits' =>
      obtain ⟨hnext, hids⟩ := hfits
      refine hsame keeps nofun hawaits' ⟨hnext, ?_, hanswers.2⟩
      rw [← hids, List.map_fst_zip hanswers.1.ge]
    | @applied desired artifacts _ hagent hawaits' =>
      obtain ⟨hnext, hcomplete⟩ := hfits
      obtain ⟨agent', cycle'⟩ := r
      obtain rfl : agent' = _ := hagent
      refine h.applied hsound hnext hcomplete rfl rfl rfl ?_
      rw [hflight rfl, hawaits']
      trivial

/-! ### Runs -/

/-- The reply that reaches the agent is known. -/
theorem Sound.answers_reply (h : host.Sound isUrl) (hcall : host.inFlight = some call)
    (hreply : host.reply call = some reply) : host.Answers call reply := by
  unfold PolledHost.reply at hreply
  split at hreply
  · rename_i manifestIds desired
    obtain ⟨manifests, hmanifests, rfl⟩ := Option.map_eq_some_iff.1 hreply
    have hall := List.forall₂_of_mapM hmanifests
    refine ⟨hall.length_eq.symm, fun artifact hmem => h.fetched ?_⟩
    exact (List.forall₂_iff_zip.1 hall).2 hmem
  · exact h.answers hcall hreply

theorem sound_step (h : host.Sound isUrl) (e : PolledHostEvent) :
    (host.step isUrl options e).Sound isUrl := by
  cases e with
  | start => exact h.act h.agent.start h.agent.acts_start
  | stop => exact h.act h.agent.stop host.agent.acts_stop
  | reconcileOnce => exact h.act h.agent.reconcileOnce h.agent.acts_reconcileOnce
  | fire timer => exact h.act (h.agent.fire timer) (h.agent.acts_fire timer)
  | release => exact h.act (h.agent.release 0) (h.agent.acts_release 0)
  | runtime reply =>
    unfold step
    dsimp only
    split
    · rename_i call hcall
      split_ifs with hruntime
      · refine h.settle hcall ?_
        cases call with
        | getHostRegistration => trivial
        | applyDesiredHostState desired artifacts => trivial
        | collectObservedHostState => trivial
        | _ => cases hruntime
      · exact h
    · exact h
  | handle =>
    unfold step
    dsimp only
    split
    · rename_i request hrequest
      exact h.handle hrequest
    · exact h
  | handleManifest manifestId => exact h.handleManifest manifestId
  | deliver =>
    unfold step
    dsimp only
    split
    · rename_i call hcall
      split
      · rename_i reply hreply
        split_ifs
        · exact h
        · exact h.settle hcall (h.answers_reply hcall hreply)
      · exact h
    · exact h
  | fail message =>
    unfold step
    dsimp only
    split
    · rename_i call hcall
      refine h.settle hcall ?_
      cases call <;> trivial
    · exact h
  | other request => exact h.later (host.admin.later_request request)
  | setDesiredHostState desired =>
    exact h.govern (h.admin.setDesiredHostState desired)
      (host.admin.held_setDesiredHostState desired)
  | putArtifactManifest manifest =>
    refine h.govern (h.admin.putArtifactManifest manifest) ?_
    rw [host.admin.held_putArtifactManifest]

theorem sound_run (pollAfterMs nextPollAfterMs : JsNumber) (es : List PolledHostEvent) :
    (Machine.run (step isUrl options) { admin := { pollAfterMs, nextPollAfterMs } } es).Sound
      isUrl := by
  exact Machine.run_invariant (sound_create pollAfterMs nextPollAfterMs)
    (fun _ e h => sound_step h e) es

/-- **A host applies desired states that it was given, in the order in which it was given them and
none twice, each with the manifests of its assignments.** -/
theorem applied_run (isUrl : JsString → Bool) (options : HostAgentOptions)
    (pollAfterMs nextPollAfterMs : JsNumber) (es : List PolledHostEvent) :
    let host := Machine.run (step isUrl options) { admin := { pollAfterMs, nextPollAfterMs } } es
    host.appliedStates.Sublist (host.admin.heldFor (host.agent.hostId.getD [])) ∧
      (∀ p ∈ host.applied, Complete p.1 p.2) ∧
      host.agent.applied = host.appliedStates.map (·.revision) := by
  intro host
  have h : host.Sound isUrl := sound_run pollAfterMs nextPollAfterMs es
  refine ⟨?_, h.complete, h.revisions⟩
  cases hhostId : host.agent.hostId with
  | none =>
    rw [appliedStates, h.owned hhostId]
    exact List.nil_sublist _
  | some hostId => exact h.inOrder hhostId

end PolledHost

end Hardess
