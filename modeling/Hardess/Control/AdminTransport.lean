import Hardess.Control.HostAgent

/-!
# The admin of the hosts

`src/sdk/admin/mock.ts`, the admin that lives in memory, and `src/sdk/admin/client.ts`, through
which a host agent speaks to it.

* `DesiredHostState.parse`, …: what `src/shared/admin-schema.ts` checks of the fields that are
  modelled; what fails otherwise is a request that fails;
* `MockAdminTransport.request`: the operations of the admin;
* `HardessAdminClient.request`: a call of the client, which checks what it sends and what it gets;
* `MockAdminTransport.Tidy`: what holds of its tables.

`z.string().url()` is a parameter. The query for a summary only reads the tables, and is left out.
-/

namespace Hardess

variable (isUrl : JsString → Bool)

/-! ### Checks -/

/-- `z.number().int().nonnegative().optional()`. -/
def optionalCount (value : Option JsNumber) : Bool :=
  value.all fun x => x.isSafeInteger && !x.lt (.ofNat 0)

/-- `hostRegistrationSchema`. -/
def HostRegistration.accepted (registration : HostRegistration) : Bool :=
  registration.hostId ≠ [] && optionalNonempty registration.groupId &&
    optionalNonempty registration.nodeId && registration.publicBaseUrl.all isUrl &&
    registration.internalBaseUrl.all isUrl

/-- `httpWorkerAssignmentSchema` and `serveAppAssignmentSchema`. -/
def HttpExecutable.accepted (executable : HttpExecutable) : Bool :=
  executable.entry ≠ [] && executable.routeRefs.all fun refs => refs.all (· ≠ [])

/-- `serviceModuleAssignmentSchema`. -/
def ServiceModuleAssignment.accepted (serviceModule : ServiceModuleAssignment) : Bool :=
  let protocolPackage := serviceModule.protocolPackage
  serviceModule.entry ≠ [] && protocolPackage.packageId ≠ [] && protocolPackage.protocol ≠ [] &&
    protocolPackage.version ≠ [] && protocolPackage.digest ≠ [] && protocolPackage.actions ≠ [] &&
    protocolPackage.actions.all (· ≠ []) && decide protocolPackage.actions.Nodup

/-- `assignmentSchema`. -/
def Assignment.accepted (assignment : Assignment) : Bool :=
  assignment.assignmentId ≠ [] && assignment.hostId ≠ [] && assignment.deploymentId ≠ [] &&
    optionalNonempty assignment.groupId && assignment.declaredVersion ≠ [] &&
    (assignment.artifact.manifestId ≠ [] && isUrl assignment.artifact.sourceUri &&
      optionalNonempty assignment.artifact.digest) &&
    (assignment.httpWorker.all HttpExecutable.accepted &&
      assignment.serviceModule.all ServiceModuleAssignment.accepted &&
      assignment.serveApp.all HttpExecutable.accepted) &&
    -- each kind has its own part and no other
    (assignment.httpWorker.isSome ↔ assignment.deploymentKind = .httpWorker) &&
    (assignment.serviceModule.isSome ↔ assignment.deploymentKind = .serviceModule) &&
    (assignment.serveApp.isSome ↔ assignment.deploymentKind = .serve)

/-- `desiredTopologySchema`. -/
def DesiredTopology.accepted (topology : DesiredTopology) : Bool :=
  topology.membership.revision ≠ [] && topology.placement.revision ≠ [] &&
    (topology.membership.hosts.all fun host =>
      host.hostId ≠ [] && optionalNonempty host.groupId && optionalNonempty host.nodeId &&
        host.publicBaseUrl.all isUrl && host.internalBaseUrl.all isUrl) &&
    topology.placement.deployments.all fun deployment =>
      deployment.deploymentId ≠ [] && optionalNonempty deployment.groupId &&
        deployment.ownerHostIds.all (· ≠ []) &&
        deployment.routes.all fun route =>
          route.routeId ≠ [] && (js "/").isPrefixOf route.pathPrefix &&
            route.ownerHostIds.all (· ≠ [])

/-- `z.enum(["RS256", "ES256"])`. -/
def isAlgorithm (alg : JsString) : Bool := alg = js "RS256" || alg = js "ES256"

/-- `runtimeAuthTokenIssuerTrustSchema`. -/
def RuntimeAuthTokenIssuerTrust.accepted (trust : RuntimeAuthTokenIssuerTrust) : Bool :=
  trust.issuer ≠ [] && trust.audiences ≠ [] && trust.audiences.all (· ≠ []) &&
    trust.jwksUrl.all isUrl &&
    (trust.publicKeys.all fun keys =>
      keys.all fun key => key.kid ≠ [] && isAlgorithm key.alg && key.pem ≠ []) &&
    (trust.algorithms.all fun algorithms => algorithms.all isAlgorithm) &&
    (trust.requiredClaims.all fun claims => claims.all (· ≠ [])) &&
    trust.maxTokenTtlSec.all (0 < ·) &&
    ((trust.jwksUrl.filter (· ≠ [])).isSome || trust.publicKeys.any (· ≠ []))

/-- `desiredHostStateSchema`. -/
def DesiredHostState.accepted (desired : DesiredHostState) : Bool :=
  desired.hostId ≠ [] && desired.revision ≠ [] && desired.assignments.all (·.accepted isUrl) &&
    desired.topology.all (·.accepted isUrl) &&
    (desired.runtimeAuthTrust.all fun trust => trust.tokenIssuers.all (·.accepted isUrl)) &&
    desired.routes.all fun routes =>
      routes.all fun route =>
        route.routeId ≠ [] && (js "/").isPrefixOf route.pathPrefix && isUrl route.baseUrl

/-- The schema of a deployment does not name `instanceKey`, and drops it. -/
def HttpExecutable.stripped (executable : HttpExecutable) : HttpExecutable :=
  { executable with
    deployment := executable.deployment.map fun deployment =>
      { deployment with instanceKey := none } }

/-- What a schema drops of an assignment. -/
def Assignment.stripped (assignment : Assignment) : Assignment :=
  { assignment with
    httpWorker := assignment.httpWorker.map HttpExecutable.stripped
    serveApp := assignment.serveApp.map HttpExecutable.stripped }

/-- What a schema drops of a desired state. -/
def DesiredHostState.stripped (desired : DesiredHostState) : DesiredHostState :=
  { desired with assignments := desired.assignments.map Assignment.stripped }

/-- `parseDesiredHostState`; `none`: it throws. -/
def DesiredHostState.parse (desired : DesiredHostState) : Option DesiredHostState :=
  if desired.accepted isUrl then some desired.stripped else none

/-- `observedHostStateSchema`. -/
def ObservedHostState.accepted (observed : ObservedHostState) : Bool :=
  observed.hostId ≠ [] && observed.assignmentStatuses.all fun status =>
    status.assignmentId ≠ [] && status.deploymentId ≠ [] && status.declaredVersion ≠ [] &&
      optionalNonempty status.generationId &&
      status.lastError.all fun error => error.code ≠ [] && error.message ≠ []

/-! ### Requests -/

/-- `AdminTransportOperation`, with its payload. -/
inductive AdminRequest
  | registerHost (registration : HostRegistration)
  | heartbeatHost (hostId : JsString) (observed : ObservedHostState)
  | getDesiredHostState (hostId : JsString) (ifRevision : Option JsString)
  | reportObservedHostState (observed : ObservedHostState)
  | fetchArtifactManifest (manifestId : JsString)

/-- What an operation answers. -/
inductive AdminResponse
  | registered (hostId : JsString) (accepted : Bool) (pollAfterMs : Option JsNumber)
  | heartbeat (accepted : Bool) (nextPollAfterMs : Option JsNumber)
  | desired (changed : Bool) (desired : Option DesiredHostState)
  | reported (accepted : Bool)
  | manifest (manifest : ArtifactManifest)

/-- The schema of an operation accepts its payload. No schema drops anything of it. -/
def AdminRequest.accepted : AdminRequest → Bool
  | .registerHost registration => registration.accepted isUrl
  | .heartbeatHost hostId observed =>
    hostId ≠ [] && observed.accepted && hostId = observed.hostId
  | .getDesiredHostState hostId ifRevision => hostId ≠ [] && optionalNonempty ifRevision
  | .reportObservedHostState observed => observed.accepted
  | .fetchArtifactManifest manifestId => manifestId ≠ []

/-- The client checks what is answered; `none`: it throws. -/
def AdminResponse.parse : AdminResponse → Option AdminResponse
  | .registered hostId accepted pollAfterMs =>
    if hostId ≠ [] ∧ optionalCount pollAfterMs then some (.registered hostId accepted pollAfterMs)
    else none
  | .heartbeat accepted nextPollAfterMs =>
    if optionalCount nextPollAfterMs then some (.heartbeat accepted nextPollAfterMs) else none
  | .desired changed none => some (.desired changed none)
  | .desired changed (some state) =>
    if changed then (state.parse isUrl).map fun state => .desired changed (some state) else none
  | .reported accepted => some (.reported accepted)
  | .manifest found => if found.accepted isUrl then some (.manifest found) else none

/-! ### The admin -/

/-- `MockAdminTransport`. -/
structure MockAdminTransport where
  pollAfterMs : JsNumber := .ofNat 5000
  nextPollAfterMs : JsNumber := .ofNat 5000
  registeredHosts : JsMap JsString HostRegistration := .empty
  desiredHostStates : JsMap JsString DesiredHostState := .empty
  observedHostStates : JsMap JsString ObservedHostState := .empty
  artifactManifests : JsMap JsString ArtifactManifest := .empty
  /-- The desired states that were put in the table, in this order. -/
  held : List DesiredHostState := []

namespace MockAdminTransport

variable (admin : MockAdminTransport)

/-- `this.desiredHostStates.set(desired.hostId, desired)`. -/
def hold (desired : DesiredHostState) : MockAdminTransport :=
  { admin with
    desiredHostStates := admin.desiredHostStates.set desired.hostId desired
    held := admin.held ++ [desired] }

/-- `setDesiredHostState`; it may throw. -/
def setDesiredHostState (desired : DesiredHostState) : MockAdminTransport :=
  match desired.parse isUrl with
  | none => admin
  | some desired => admin.hold desired

/-- `putArtifactManifest`; it may throw. -/
def putArtifactManifest (manifest : ArtifactManifest) : MockAdminTransport :=
  if manifest.accepted isUrl then
    { admin with
      artifactManifests := admin.artifactManifests.set manifest.manifestId manifest }
  else admin

/-- The state that a host begins with. -/
def initial (hostId : JsString) : DesiredHostState where
  hostId
  revision := js "initial:" ++ hostId
  assignments := []

/-- `ensureDesiredHostState`. -/
def ensureDesiredHostState (hostId : JsString) : MockAdminTransport × DesiredHostState :=
  match admin.desiredHostStates.get hostId with
  | some existing => (admin, existing)
  | none => (admin.hold (initial hostId), initial hostId)

/-- `handleRegisterHost`, once the payload is parsed. -/
def handleRegisterHost (registration : HostRegistration) : MockAdminTransport × AdminResponse :=
  let admin :=
    { admin with
      registeredHosts := admin.registeredHosts.set registration.hostId registration }
  ((admin.ensureDesiredHostState registration.hostId).1,
    .registered registration.hostId true (some admin.pollAfterMs))

/-- `handleHeartbeatHost`. -/
def handleHeartbeatHost (hostId : JsString) (observed : ObservedHostState) :
    MockAdminTransport × AdminResponse :=
  let admin := { admin with observedHostStates := admin.observedHostStates.set hostId observed }
  ((admin.ensureDesiredHostState hostId).1, .heartbeat true (some admin.nextPollAfterMs))

/-- `handleGetDesiredHostState`. -/
def handleGetDesiredHostState (hostId : JsString) (ifRevision : Option JsString) :
    MockAdminTransport × AdminResponse :=
  let ensured := admin.ensureDesiredHostState hostId
  if ifRevision.any (· ≠ []) ∧ ifRevision = some ensured.2.revision then
    (ensured.1, .desired false none)
  else (ensured.1, .desired true (some ensured.2))

/-- `handleReportObservedHostState`. -/
def handleReportObservedHostState (observed : ObservedHostState) :
    MockAdminTransport × AdminResponse :=
  let admin :=
    { admin with observedHostStates := admin.observedHostStates.set observed.hostId observed }
  ((admin.ensureDesiredHostState observed.hostId).1, .reported true)

/-- `handleFetchArtifactManifest`; it throws when there is none. -/
def handleFetchArtifactManifest (manifestId : JsString) : Option AdminResponse :=
  (admin.artifactManifests.get manifestId).map .manifest

/-- The operation of a payload that is parsed. -/
def handle : AdminRequest → MockAdminTransport × Option AdminResponse
  | .registerHost registration =>
    (admin.handleRegisterHost registration).map id some
  | .heartbeatHost hostId observed => (admin.handleHeartbeatHost hostId observed).map id some
  | .getDesiredHostState hostId ifRevision =>
    (admin.handleGetDesiredHostState hostId ifRevision).map id some
  | .reportObservedHostState observed =>
    (admin.handleReportObservedHostState observed).map id some
  | .fetchArtifactManifest manifestId => (admin, admin.handleFetchArtifactManifest manifestId)

/-- `request`; `none`: it throws. -/
def request (request : AdminRequest) : MockAdminTransport × Option AdminResponse :=
  if request.accepted isUrl then admin.handle request else (admin, none)

end MockAdminTransport

/-- A method of `HardessAdminClient`; `none`: it throws. -/
def HardessAdminClient.request (admin : MockAdminTransport) (request : AdminRequest) :
    MockAdminTransport × Option AdminResponse :=
  if request.accepted isUrl then
    (admin.request isUrl request).map id fun response => response.bind (·.parse isUrl)
  else (admin, none)

/-! ### Parsing twice -/

variable {isUrl}

theorem Assignment.accepted_stripped (assignment : Assignment) :
    assignment.stripped.accepted isUrl = assignment.accepted isUrl := by
  have hexecutable : ∀ executable : Option HttpExecutable,
      (executable.map HttpExecutable.stripped).all HttpExecutable.accepted =
        executable.all HttpExecutable.accepted := by
    rintro (_ | executable) <;> rfl
  unfold Assignment.accepted Assignment.stripped
  simp only [hexecutable, Option.isSome_map]

theorem Assignment.stripped_stripped (assignment : Assignment) :
    assignment.stripped.stripped = assignment.stripped := by
  have hexecutable : ∀ executable : Option HttpExecutable,
      (executable.map HttpExecutable.stripped).map HttpExecutable.stripped =
        executable.map HttpExecutable.stripped := by
    rintro (_ | ⟨entry, routeRefs, _ | deployment⟩) <;> rfl
  simp only [Assignment.stripped, hexecutable]

namespace DesiredHostState

variable {desired desired' : DesiredHostState}

theorem parse_stripped (h : desired.accepted isUrl = true) :
    desired.stripped.parse isUrl = some desired.stripped := by
  have haccepted : desired.stripped.accepted isUrl = desired.accepted isUrl := by
    unfold accepted stripped
    simp only [List.all_map, Function.comp_def, Assignment.accepted_stripped]
  have hstripped : desired.stripped.stripped = desired.stripped := by
    simp only [stripped, List.map_map, Function.comp_def, Assignment.stripped_stripped]
  rw [parse, if_pos (haccepted.trans h), hstripped]

/-- What has been parsed is parsed to itself. -/
theorem parse_parse (h : desired.parse isUrl = some desired') :
    desired'.parse isUrl = some desired' := by
  unfold parse at h
  split_ifs at h with haccepted
  obtain rfl := Option.some.inj h
  exact parse_stripped haccepted

theorem hostId_of_parse (h : desired.parse isUrl = some desired') :
    desired'.hostId = desired.hostId := by
  unfold parse at h
  split_ifs at h
  obtain rfl := Option.some.inj h
  rfl

theorem revision_ne_nil (h : desired.parse isUrl = some desired') : desired'.revision ≠ [] := by
  unfold parse at h
  split_ifs at h with haccepted
  obtain rfl := Option.some.inj h
  simp only [accepted, Bool.and_eq_true, decide_eq_true_eq] at haccepted
  exact haccepted.1.1.1.1.2

end DesiredHostState

/-! ### The tables -/

namespace MockAdminTransport

variable {admin admin' : MockAdminTransport} {hostId : JsString}

/-- The desired states that a host has had. -/
def heldFor (admin : MockAdminTransport) (hostId : JsString) : List DesiredHostState :=
  admin.held.filter (·.hostId = hostId)

/-- What holds of the tables. -/
structure Tidy (isUrl : JsString → Bool) (admin : MockAdminTransport) : Prop where
  current : ∀ hostId, admin.desiredHostStates.get hostId = (admin.heldFor hostId).getLast?
  parsed : ∀ desired ∈ admin.held, desired.parse isUrl = some desired
  manifest : ∀ {manifestId manifest}, admin.artifactManifests.get manifestId = some manifest →
    manifest.manifestId = manifestId

theorem tidy_create (pollAfterMs nextPollAfterMs : JsNumber) :
    Tidy isUrl { pollAfterMs, nextPollAfterMs } :=
  ⟨fun _ => rfl, List.forall_mem_nil _, fun h => by cases h⟩

theorem heldFor_hold (admin : MockAdminTransport) (desired : DesiredHostState)
    (hostId : JsString) : (admin.hold desired).heldFor hostId =
      admin.heldFor hostId ++ if desired.hostId = hostId then [desired] else [] := by
  unfold heldFor hold
  rw [List.filter_append]
  split_ifs with h <;> simp [h]

theorem Tidy.hold (h : admin.Tidy isUrl) {desired : DesiredHostState}
    (hparsed : desired.parse isUrl = some desired) : (admin.hold desired).Tidy isUrl where
  current hostId := by
    rw [heldFor_hold]
    refine (JsMap.get_set ..).trans ?_
    by_cases hhost : desired.hostId = hostId
    · rw [if_pos hhost.symm, if_pos hhost, List.getLast?_concat]
    · rw [if_neg (Ne.symm hhost), if_neg hhost, List.append_nil]
      exact h.current hostId
  parsed := List.forall_mem_append.2 ⟨h.parsed, List.forall_mem_singleton.2 hparsed⟩
  manifest := h.manifest

/-- What a request does to the tables: a host that has a desired state keeps it. -/
structure Later (isUrl : JsString → Bool) (admin admin' : MockAdminTransport) : Prop where
  tidy : admin.Tidy isUrl → admin'.Tidy isUrl
  held : admin.held <+: admin'.held
  kept : ∀ {hostId desired}, admin.desiredHostStates.get hostId = some desired →
    admin'.desiredHostStates.get hostId = some desired

theorem Later.refl (admin : MockAdminTransport) : admin.Later isUrl admin :=
  ⟨id, List.prefix_rfl, id⟩

theorem parse_initial (hhost : hostId ≠ []) :
    (initial hostId).parse isUrl = some (initial hostId) := by
  simp [DesiredHostState.parse, DesiredHostState.accepted, DesiredHostState.stripped, initial,
    hhost]

theorem later_ensureDesiredHostState (admin : MockAdminTransport) (hhost : hostId ≠ []) :
    admin.Later isUrl (admin.ensureDesiredHostState hostId).1 := by
  unfold ensureDesiredHostState
  cases hget : admin.desiredHostStates.get hostId with
  | some existing => exact .refl admin
  | none =>
    refine ⟨fun h => h.hold (parse_initial hhost), List.prefix_append _ _, fun hkept => ?_⟩
    refine (JsMap.get_set_of_ne _ ?_ _).trans hkept
    rintro rfl
    exact nomatch hget.symm.trans hkept

theorem get_ensureDesiredHostState (admin : MockAdminTransport) (hostId : JsString) :
    (admin.ensureDesiredHostState hostId).1.desiredHostStates.get hostId =
      some (admin.ensureDesiredHostState hostId).2 := by
  unfold ensureDesiredHostState
  cases hget : admin.desiredHostStates.get hostId with
  | some existing => exact hget
  | none => exact JsMap.get_set_self ..

theorem Later.trans {admin'' : MockAdminTransport} (h : admin.Later isUrl admin')
    (h' : admin'.Later isUrl admin'') : admin.Later isUrl admin'' :=
  ⟨h'.tidy ∘ h.tidy, h.held.trans h'.held, h'.kept ∘ h.kept⟩

theorem later_request (admin : MockAdminTransport) (request : AdminRequest) :
    admin.Later isUrl (admin.request isUrl request).1 := by
  -- a step that leaves the desired states and the manifests alone is one that may come later
  have htables : ∀ {tables : MockAdminTransport},
      tables.desiredHostStates = admin.desiredHostStates → tables.held = admin.held →
      tables.artifactManifests = admin.artifactManifests → admin.Later isUrl tables := by
    intro tables hdesired hheld hmanifests
    refine ⟨fun h => ⟨fun hostId => ?_, ?_, ?_⟩, ?_, ?_⟩
    · rw [hdesired, h.current, heldFor, heldFor, hheld]
    · rw [hheld]
      exact h.parsed
    · rw [hmanifests]
      exact h.manifest
    · rw [hheld]
    · rw [hdesired]
      exact id
  unfold MockAdminTransport.request
  split_ifs with haccepted
  swap
  · exact .refl admin
  cases request with
  | registerHost registration =>
    simp only [AdminRequest.accepted, HostRegistration.accepted, Bool.and_eq_true,
      decide_eq_true_eq] at haccepted
    change admin.Later isUrl (admin.handleRegisterHost registration).1
    refine Later.trans ?_ (later_ensureDesiredHostState _ haccepted.1.1.1.1)
    exact htables rfl rfl rfl
  | heartbeatHost hostId observed =>
    simp only [AdminRequest.accepted, Bool.and_eq_true, decide_eq_true_eq] at haccepted
    change admin.Later isUrl (admin.handleHeartbeatHost hostId observed).1
    refine Later.trans ?_ (later_ensureDesiredHostState _ haccepted.1.1)
    exact htables rfl rfl rfl
  | getDesiredHostState hostId ifRevision =>
    simp only [AdminRequest.accepted, Bool.and_eq_true, decide_eq_true_eq] at haccepted
    change admin.Later isUrl (admin.handleGetDesiredHostState hostId ifRevision).1
    unfold handleGetDesiredHostState
    dsimp only
    split_ifs
    · exact later_ensureDesiredHostState admin haccepted.1
    · exact later_ensureDesiredHostState admin haccepted.1
  | reportObservedHostState observed =>
    simp only [AdminRequest.accepted, ObservedHostState.accepted, Bool.and_eq_true,
      decide_eq_true_eq] at haccepted
    change admin.Later isUrl (admin.handleReportObservedHostState observed).1
    refine Later.trans ?_ (later_ensureDesiredHostState _ haccepted.1)
    exact htables rfl rfl rfl
  | fetchArtifactManifest manifestId => exact .refl admin

theorem Tidy.setDesiredHostState (h : admin.Tidy isUrl) (desired : DesiredHostState) :
    (admin.setDesiredHostState isUrl desired).Tidy isUrl := by
  unfold MockAdminTransport.setDesiredHostState
  cases hparse : desired.parse isUrl with
  | none => exact h
  | some desired' => exact h.hold (DesiredHostState.parse_parse hparse)

theorem Tidy.putArtifactManifest (h : admin.Tidy isUrl) (manifest : ArtifactManifest) :
    (admin.putArtifactManifest isUrl manifest).Tidy isUrl := by
  unfold MockAdminTransport.putArtifactManifest
  split_ifs
  · refine ⟨h.current, h.parsed, fun {manifestId found} hfound => ?_⟩
    replace hfound := (JsMap.get_set ..).symm.trans hfound
    split_ifs at hfound with hid
    · rw [hid, Option.some.inj hfound]
    · exact h.manifest hfound
  · exact h

theorem held_setDesiredHostState (admin : MockAdminTransport) (desired : DesiredHostState) :
    admin.held <+: (admin.setDesiredHostState isUrl desired).held := by
  unfold setDesiredHostState
  cases desired.parse isUrl with
  | none => exact List.prefix_rfl
  | some desired' => exact List.prefix_append _ _

theorem held_putArtifactManifest (admin : MockAdminTransport) (manifest : ArtifactManifest) :
    (admin.putArtifactManifest isUrl manifest).held = admin.held := by
  unfold putArtifactManifest
  split_ifs <;> rfl

end MockAdminTransport

/-! ### What the client is answered -/

namespace HardessAdminClient

variable {admin : MockAdminTransport}

theorem later_request (admin : MockAdminTransport) (request : AdminRequest) :
    admin.Later isUrl (HardessAdminClient.request isUrl admin request).1 := by
  unfold HardessAdminClient.request
  split_ifs
  · exact admin.later_request request
  · exact .refl admin

/-- A request that is answered was accepted and handled, and its answer parsed. -/
theorem request_eq_some {request : AdminRequest} {response : AdminResponse}
    (h : (HardessAdminClient.request isUrl admin request).2 = some response) :
    request.accepted isUrl = true ∧
      (HardessAdminClient.request isUrl admin request).1 = (admin.handle request).1 ∧
      ∃ answer, (admin.handle request).2 = some answer ∧ answer.parse isUrl = some response := by
  unfold HardessAdminClient.request MockAdminTransport.request at h ⊢
  split_ifs at h ⊢ with haccepted
  exact ⟨haccepted, rfl, Option.bind_eq_some_iff.1 h⟩

theorem request_registerHost {registration : HostRegistration} {response : AdminResponse}
    (h : (request isUrl admin (.registerHost registration)).2 = some response) :
    registration.hostId ≠ [] ∧
      ∃ pollAfterMs, response = .registered registration.hostId true pollAfterMs := by
  obtain ⟨-, -, answer, hanswer, hparse⟩ := request_eq_some h
  obtain rfl := Option.some.inj hanswer
  simp only [AdminResponse.parse] at hparse
  split_ifs at hparse with hchecks
  exact ⟨hchecks.1, _, (Option.some.inj hparse).symm⟩

/-- The desired state is the present one, unless that is the revision that was asked about. -/
theorem request_getDesiredHostState (htidy : admin.Tidy isUrl) {hostId : JsString}
    {ifRevision : Option JsString} {response : AdminResponse}
    (h : (request isUrl admin (.getDesiredHostState hostId ifRevision)).2 = some response) :
    let admin' := (request isUrl admin (.getDesiredHostState hostId ifRevision)).1
    ∃ desired, admin'.desiredHostStates.get hostId = some desired ∧
      (ifRevision = some desired.revision ∧ response = .desired false none ∨
        ifRevision ≠ some desired.revision ∧ response = .desired true (some desired)) := by
  obtain ⟨haccepted, hadmin, answer, hanswer, hparse⟩ := request_eq_some h
  simp only [AdminRequest.accepted, Bool.and_eq_true, decide_eq_true_eq] at haccepted
  have hget := admin.get_ensureDesiredHostState hostId
  have htidy' := (admin.later_ensureDesiredHostState haccepted.1).tidy htidy
  intro admin'
  refine ⟨(admin.ensureDesiredHostState hostId).2, ?_⟩
  rw [show admin' = _ from hadmin]
  simp only [MockAdminTransport.handle, MockAdminTransport.handleGetDesiredHostState] at hanswer ⊢
  split_ifs at hanswer ⊢ with hsame
  · refine ⟨hget, .inl ⟨hsame.2, ?_⟩⟩
    obtain rfl := Option.some.inj hanswer
    exact (Option.some.inj hparse).symm
  · obtain rfl := Option.some.inj hanswer
    have hmem := List.mem_of_getLast? ((htidy'.current hostId).symm.trans hget)
    have hparsed := htidy'.parsed _ (List.mem_of_mem_filter hmem)
    refine ⟨hget, .inr ⟨fun hsame' => hsame ⟨?_, hsame'⟩, ?_⟩⟩
    · rw [hsame']
      exact decide_eq_true (DesiredHostState.revision_ne_nil hparsed)
    · simp only [AdminResponse.parse, if_true, hparsed, Option.map_some] at hparse
      exact (Option.some.inj hparse).symm

theorem request_fetchArtifactManifest (htidy : admin.Tidy isUrl) {manifestId : JsString}
    {response : AdminResponse}
    (h : (request isUrl admin (.fetchArtifactManifest manifestId)).2 = some response) :
    ∃ manifest, manifest.manifestId = manifestId ∧ response = .manifest manifest := by
  obtain ⟨-, -, answer, hanswer, hparse⟩ := request_eq_some h
  obtain ⟨manifest, hget, rfl⟩ := Option.map_eq_some_iff.1 hanswer
  simp only [AdminResponse.parse] at hparse
  split_ifs at hparse
  exact ⟨manifest, htidy.manifest hget, (Option.some.inj hparse).symm⟩

end HardessAdminClient

end Hardess
