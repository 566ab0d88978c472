import Hardess.App.Deployment
import Hardess.Ingress.SpokenFrames

/-!
# The hub knows its clients

Whom the hub of a deployment takes a client for, in every run and whatever the network does.

* `Sound`: what holds in every state, whatever is fed in;
* `Accepted`: what holds besides when what comes from outside has names;
* **`granted_run`**: the context of a connection was granted for what its client sent over it;
* **`known_run`**: the hub knows every client that is ready, and every one that sends messages.
-/

namespace Hardess

open WebSocketRuntime (Event AsksWith Asks)

/-! ### What the hub reads -/

/-- A client asks for a context with a token that it sent. -/
theorem sent_of_wrote {log : List SessionEntry} {i : ℕ} {text : JsString} (h : Wrote log i text)
    {message : Envelope} (hread : readEnvelope text = some message) {payload : SysAuthPayload}
    (hasks : AsksWith message payload) :
    ∃ token, .sent i (.system (.auth token)) ∈ log ∧ payload = bearerAuth token := by
  obtain ⟨hkind, haction, hpayload⟩ := hasks
  rcases h with ⟨m, stamp, hmem, rfl⟩ | ⟨stamp, input, content, hmem, rfl⟩
  · obtain rfl := ClientSystemMessage.envelope_of_read hread
    change m.action = js "auth" at haction
    cases m with
    | auth token =>
      have hsome := (ClientSystemMessage.payload_auth stamp token).symm.trans hpayload
      exact ⟨token, hmem, (Option.some.inj hsome).symm⟩
    | ping => simp [ClientSystemMessage.action] at haction
    | pong nonce traceId => simp [ClientSystemMessage.action] at haction
    | handleAck ackFor traceId => simp [ClientSystemMessage.action] at haction
  · obtain ⟨ms, hms, hf⟩ := fields_createBusinessEnvelope stamp input content
    have hwf := wf_createBusinessEnvelope stamp input content
    rw [hms] at hwf hread
    obtain ⟨-, rfl⟩ := (readEnvelope_stringify hf hwf).1 hread
    cases hkind

/-- A client sends one token on a socket. -/
theorem token_unique {log : List SessionEntry} (h : Log.Justified Follows log) {i : ℕ}
    {token token' : JsString} (hmem : .sent i (.system (.auth token)) ∈ log)
    (hmem' : .sent i (.system (.auth token')) ∈ log) : token' = token := by
  have heq := h.eq_of_mem hmem' hmem (fun _ hfollows => hfollows.2 token)
    fun _ hfollows => hfollows.2 token'
  cases heq
  rfl

namespace Deployment

variable {platform : JwtPlatform} {name : JsString} {providers : List AuthProvider} {s : Deployment}
  {connId : JsString} {auth : AuthContext} {payload : SysAuthPayload}

/-! ### States -/

/-- What a call of the hub awaits was asked with its payload. -/
def Awaits (s : Deployment) (id j : ℕ) : Prop :=
  id < s.hub.nextCall ∧ ∃ call, s.service.calls[j]? = some call ∧
    ∀ connId message, s.hub.calls.get id = some (.authenticating connId message) →
      ∃ payload, AsksWith message payload ∧ call.request = .system payload

/-- What holds in every state. -/
structure Sound (platform : JwtPlatform) (name : JsString) (providers : List AuthProvider)
    (s : Deployment) : Prop where
  numbered : s.hub.Numbered
  kept : s.hub.Kept
  service : ∃ es, s.service = Machine.run AuthServiceState.step (.create platform name providers) es
  clients : ∀ c, (s.clients c).Sound
  wrote : ∀ c i text, .send i text ∈ (s.clients c).transport.socketCalls →
    Wrote (s.clients c).log i text
  wires : ∀ wire ∈ s.wires, ∀ wire' ∈ s.wires, wire'.connId = wire.connId → wire' = wire
  /-- Who asks for a context is a connection, and presents what its client sent. -/
  asks : s.hub.Asks fun _ connId message => s.hub.objects.has connId = true ∧
    ∀ payload, AsksWith message payload → s.Presents connId payload
  awaits : ∀ id j, (id, j) ∈ s.awaiting → s.Awaits id j
  vouched : ∀ connId auth, s.hub.authOf connId = some auth →
    s.Vouched platform name providers connId auth

theorem sound_create (options : ℕ → ConnectedClientOptions) (deps : WebSocketRuntimeDeps)
    (platform : JwtPlatform) (name : JsString) (providers : List AuthProvider) :
    (create options deps platform name providers).Sound platform name providers where
  numbered := WebSocketRuntime.numbered_create deps
  kept := WebSocketRuntime.kept_create deps
  service := ⟨[], rfl⟩
  clients c := ConnectedClient.sound_create (options c)
  wrote _ _ _ h := absurd h List.not_mem_nil
  wires _ h := absurd h List.not_mem_nil
  asks _ _ _ h := nomatch h
  awaits _ _ h := absurd h List.not_mem_nil
  vouched _ _ h := nomatch h

/-! ### Clients -/

theorem adds_clientStep (s : Deployment) (c : ℕ) (e : ConnectedClientEvent) (c' : ℕ) :
    ConnectedClient.Adds (fun i => c' = c ∧ e.Accepts i) (s.clients c')
      ((s.clientStep c e).clients c') := by
  unfold clientStep
  dsimp only
  by_cases heq : c' = c
  · subst heq
    rw [Function.update_self]
    obtain ⟨new, calls, hlog, hcalls, haccepted, hwrote⟩ :=
      @ConnectedClient.adds_step (s.options c') (s.clients c') e
    exact ⟨new, calls, hlog, hcalls, fun i hi => ⟨rfl, haccepted i hi⟩, hwrote⟩
  · rw [Function.update_of_ne heq]
    exact .of_eq rfl rfl

theorem log_clientStep (s : Deployment) (c : ℕ) (e : ConnectedClientEvent) (c' : ℕ) :
    (s.clients c').log ⊆ ((s.clientStep c e).clients c').log := by
  obtain ⟨new, -, hlog, -⟩ := adds_clientStep s c e c'
  rw [hlog]
  exact List.subset_append_left _ _

theorem Presents.clientStep (h : s.Presents connId payload) (c : ℕ) (e : ConnectedClientEvent) :
    (s.clientStep c e).Presents connId payload := by
  intro wire hwire hconn
  obtain ⟨token, hsent, heq⟩ := h wire hwire hconn
  exact ⟨token, log_clientStep s c e wire.client hsent, heq⟩

theorem Vouched.clientStep (h : s.Vouched platform name providers connId auth) (c : ℕ)
    (e : ConnectedClientEvent) :
    (s.clientStep c e).Vouched platform name providers connId auth := by
  obtain ⟨hhas, payload, hp, hgrants⟩ := h
  exact ⟨hhas, payload, hp.clientStep c e, hgrants⟩

/-- Something happens to a client. -/
theorem Sound.clientStep (h : s.Sound platform name providers) (c : ℕ)
    (e : ConnectedClientEvent) : (s.clientStep c e).Sound platform name providers := by
  refine ⟨h.numbered, h.kept, h.service, fun c' => ?_, fun c' i text hmem => ?_, h.wires,
    fun id connId message hget => ?_, h.awaits, fun connId auth hauth => ?_⟩
  · by_cases heq : c' = c
    · subst heq
      show (Function.update s.clients c' _ c').Sound
      rw [Function.update_self]
      exact (h.clients c').step e
    · show (Function.update s.clients c _ c').Sound
      rw [Function.update_of_ne heq]
      exact h.clients c'
  · obtain ⟨new, calls, hlog, hcalls, -, hwrote⟩ := adds_clientStep s c e c'
    rw [hcalls] at hmem
    rw [hlog]
    rcases List.mem_append.1 hmem with hold | hnew
    · exact (h.wrote c' i text hold).mono (List.subset_append_left _ _)
    · exact (hwrote i text hnew).mono (List.subset_append_right _ _)
  · obtain ⟨hhas, hp⟩ := h.asks id connId message hget
    exact ⟨hhas, fun payload hasks => (hp payload hasks).clientStep c e⟩
  · exact (h.vouched connId auth hauth).clientStep c e

/-! ### The service -/

/-- A call keeps what it asks. -/
theorem request_step (service : AuthServiceState) (e : AuthServiceEvent) {j : ℕ} {call : AuthCall}
    (hcall : service.calls[j]? = some call) :
    ∃ call', (service.step e).calls[j]? = some call' ∧ call'.request = call.request := by
  obtain heq | ⟨fresh, heq, -⟩ | ⟨k, old, provider, now, said, -, hold, -, heq⟩ :=
    AuthServiceState.calls_step service e
  · exact ⟨call, heq ▸ hcall, rfl⟩
  · refine ⟨call, ?_, rfl⟩
    rw [heq, List.getElem?_append_left (List.getElem?_eq_some_iff.1 hcall).1, hcall]
  · rw [heq, List.getElem?_set]
    split_ifs with hk hlt
    · subst hk
      obtain rfl := Option.some.inj (hold.symm.trans hcall)
      exact ⟨_, rfl, (AuthServiceState.received_frame service old _).1⟩
    · subst hk
      exact absurd (List.getElem?_eq_some_iff.1 hcall).1 hlt
    · exact ⟨call, hcall, rfl⟩

/-- A call that let somebody in stays as it is. -/
theorem Vouched.service (h : s.Vouched platform name providers connId auth) (e : AuthServiceEvent) :
    Vouched { s with service := s.service.step e } platform name providers connId auth := by
  obtain ⟨hhas, payload, hp, es, k, granted, hrun, hgrants, hauth⟩ := h
  refine ⟨hhas, payload, hp, es ++ [e], k, granted, ?_, hgrants.append [e], hauth⟩
  show s.service.step e = _
  rw [hrun, Machine.run_concat]

theorem Awaits.service {id j : ℕ} (h : s.Awaits id j) (e : AuthServiceEvent) :
    Awaits { s with service := s.service.step e } id j := by
  obtain ⟨hlt, call, hcall, hasks⟩ := h
  obtain ⟨call', hcall', hrequest⟩ := request_step s.service e hcall
  refine ⟨hlt, call', hcall', fun connId message hget => ?_⟩
  obtain ⟨payload, hpayload, heq⟩ := hasks connId message hget
  exact ⟨payload, hpayload, hrequest.trans heq⟩

theorem Sound.serviceStep (h : s.Sound platform name providers) (e : AuthServiceEvent) :
    Sound platform name providers { s with service := s.service.step e } where
  numbered := h.numbered
  kept := h.kept
  service := by
    obtain ⟨es, hrun⟩ := h.service
    exact ⟨es ++ [e], by rw [Machine.run_concat, ← hrun]⟩
  clients := h.clients
  wrote := h.wrote
  wires := h.wires
  asks := h.asks
  awaits id j hmem := (h.awaits id j hmem).service e
  vouched connId auth hauth := (h.vouched connId auth hauth).service e

/-! ### The hub -/

/-- What the hub may be told: a client of ours presents what it sent, and a context was granted. -/
structure Admits (platform : JwtPlatform) (name : JsString) (providers : List AuthProvider)
    (s : Deployment) (e : Event) : Prop where
  message : ∀ connId message payload, e = .message connId (some message) →
    AsksWith message payload → s.Presents connId payload
  authenticated : ∀ id connId message auth, e = .resume id (.authenticated (.ok auth)) →
    s.hub.calls.get id = some (.authenticating connId message) →
      s.Vouched platform name providers connId { auth with groupId := s.hub.deps.hostGroupId }

section hub

variable {e : Event} {handed : List (JsString × OutboundMessage)}

theorem Vouched.hub (h : s.Vouched platform name providers connId auth) (e : Event)
    (handed : List (JsString × OutboundMessage)) :
    Vouched { s with hub := s.hub.step e, handed } platform name providers connId auth := by
  obtain ⟨hhas, payload, hp, hgrants⟩ := h
  have hstep := WebSocketRuntime.step_handles s.hub e
  refine ⟨hstep.opened connId hhas, payload, hp, ?_⟩
  unfold Grants
  rw [show WebSocketRuntime.deps _ = _ from hstep.deps]
  exact hgrants

theorem Vouched.hubStep (h : s.Vouched platform name providers connId auth) (e : Event) :
    (s.hubStep e).Vouched platform name providers connId auth := by
  have hnext := h.hub e (s.handed ++ (s.hub.step e).effects.flatMap Effect.handedOver)
  unfold Deployment.hubStep
  dsimp only
  split
  · exact hnext
  · exact hnext.service (.validateSystemAuth _)

theorem Awaits.hub (hn : s.hub.Numbered) {id j : ℕ} (h : s.Awaits id j) (e : Event)
    (handed : List (JsString × OutboundMessage)) :
    Awaits { s with hub := s.hub.step e, handed } id j := by
  obtain ⟨hlt, call, hcall, hasks⟩ := h
  refine ⟨?_, call, hcall, fun connId message hget => ?_⟩
  · show id < (s.hub.step e).nextCall
    rw [(WebSocketRuntime.step_handles s.hub e).nextCall]
    exact Nat.lt_add_right _ hlt
  · rcases WebSocketRuntime.asks_step hn e id connId message hget with hold | ⟨rfl, -⟩
    · exact hasks connId message hold
    · exact absurd hlt (Nat.lt_irrefl _)

theorem Sound.hub (h : s.Sound platform name providers)
    (hadmits : s.Admits platform name providers e) (handed : List (JsString × OutboundMessage)) :
    Sound platform name providers { s with hub := s.hub.step e, handed } where
  numbered := WebSocketRuntime.numbered_step h.numbered e
  kept := WebSocketRuntime.kept_step h.kept e
  service := h.service
  clients := h.clients
  wrote := h.wrote
  wires := h.wires
  asks id connId message hget := by
    have hopened := (WebSocketRuntime.step_handles s.hub e).opened connId
    rcases WebSocketRuntime.asks_step h.numbered e id connId message hget with
      hold | ⟨-, hconn, rfl, -⟩
    · exact ⟨hopened (h.asks id connId message hold).1, (h.asks id connId message hold).2⟩
    · exact ⟨hopened (h.kept.opened connId hconn), fun payload hasks =>
        hadmits.message connId message payload rfl hasks⟩
  awaits id j hmem := (h.awaits id j hmem).hub h.numbered e handed
  vouched connId auth hauth := by
    rcases (WebSocketRuntime.step_handles s.hub e).auth connId with heq | ⟨auth', heq, hnew⟩
    · exact (h.vouched connId auth (heq ▸ hauth)).hub e handed
    · obtain rfl := Option.some.inj (heq.symm.trans hauth)
      cases hnew with
      | finished hcall => exact (hadmits.authenticated _ connId _ _ rfl hcall).hub _ handed

/-- What the hub asks the service with its newest call. -/
theorem asks_newest {hub : WebSocketRuntime} (hn : hub.Numbered) {payload : SysAuthPayload}
    (hasked : (hub.step e).asked hub.nextCall = some payload) :
    hub.nextCall < (hub.step e).nextCall ∧ ∀ connId message,
      (hub.step e).calls.get hub.nextCall = some (.authenticating connId message) →
        AsksWith message payload := by
  unfold WebSocketRuntime.asked at hasked
  split at hasked
  · rename_i connId message hget
    refine ⟨WebSocketRuntime.numbered_step hn e _ _ hget, fun connId' message' hget' => ?_⟩
    cases Option.some.inj (hget.symm.trans hget')
    rcases WebSocketRuntime.asks_step hn e _ _ _ hget with hold | ⟨-, -, -, payload', hasks⟩
    · rw [WebSocketRuntime.fresh_nextCall hn] at hold
      cases hold
    · obtain rfl := Option.some.inj (hasked.symm.trans hasks.2.2)
      exact hasks
  · cases hasked

/-- Something happens to the hub, which may ask the service. -/
theorem Sound.hubStep (h : s.Sound platform name providers)
    (hadmits : s.Admits platform name providers e) : (s.hubStep e).Sound platform name providers := by
  have hnext := h.hub hadmits (s.handed ++ (s.hub.step e).effects.flatMap Effect.handedOver)
  unfold Deployment.hubStep
  dsimp only
  split
  · exact hnext
  · rename_i payload hasked
    have hservice := hnext.serviceStep (.validateSystemAuth payload)
    refine { hservice with awaits := fun id j hmem => ?_ }
    rcases List.mem_append.1 hmem with hold | hnew
    · exact hservice.awaits id j hold
    · obtain ⟨rfl, rfl⟩ := Prod.mk.inj (List.mem_singleton.1 hnew)
      obtain ⟨hlt, hnewest⟩ := asks_newest h.numbered hasked
      exact ⟨hlt, _, List.getElem?_concat_length, fun connId message hget =>
        ⟨payload, hnewest connId message hget, rfl⟩⟩

end hub

/-! ### The network -/

theorem written_eq_some {c k : ℕ} {wire : ClientWire} {text : JsString}
    (h : s.written c k = some (wire, text)) :
    wire ∈ s.wires ∧ wire.client = c ∧
      .send wire.socket text ∈ (s.clients c).transport.socketCalls := by
  unfold written at h
  split at h
  · rename_i i text' hcall
    obtain ⟨wire', hfind, heq⟩ := Option.map_eq_some_iff.1 h
    cases heq
    obtain ⟨hc, rfl⟩ : wire.client = c ∧ wire.socket = i := by simpa using List.find?_some hfind
    exact ⟨List.mem_of_find?_eq_some hfind, hc, List.mem_of_getElem? hcall⟩
  · cases h

theorem given_eq_some {k : ℕ} {wire : ClientWire} {message : OutboundMessage}
    (h : s.given k = some (wire, message)) :
    wire ∈ s.wires ∧ (wire.connId, message) ∈ s.handed := by
  obtain ⟨⟨connId, message'⟩, hhanded, hfound⟩ := Option.bind_eq_some_iff.1 h
  obtain ⟨wire', hfind, heq⟩ := Option.map_eq_some_iff.1 hfound
  cases heq
  obtain rfl : wire.connId = connId := by simpa using List.find?_some hfind
  exact ⟨List.mem_of_find?_eq_some hfind, List.mem_of_getElem? hhanded⟩

theorem answer_eq_some {k id : ℕ} {auth : AuthContext} (h : s.answer k = some (id, .ok auth)) :
    ∃ j call granted, (id, j) ∈ s.awaiting ∧ s.service.calls[j]? = some call ∧
      call.settlement = some (.ok granted) ∧ granted.narrow = some auth := by
  obtain ⟨⟨id', j⟩, hawaiting, h⟩ := Option.bind_eq_some_iff.1 h
  obtain ⟨call, hcall, h⟩ := Option.bind_eq_some_iff.1 h
  obtain ⟨settlement, hsettled, h⟩ := Option.bind_eq_some_iff.1 h
  split at h
  · rename_i granted
    obtain ⟨narrowed, hnarrow, heq⟩ := Option.map_eq_some_iff.1 h
    cases heq
    exact ⟨j, call, granted, List.mem_of_getElem? hawaiting, hcall, hsettled, hnarrow⟩
  · cases h

/-- What the hub reads from a client of ours. -/
theorem Sound.admits_up (h : s.Sound platform name providers) {c k : ℕ} {wire : ClientWire}
    {text : JsString} (hwritten : s.written c k = some (wire, text)) :
    s.Admits platform name providers (.message wire.connId (readEnvelope text)) := by
  constructor
  · intro connId message payload heq hasks wire' hwire' hconn
    obtain ⟨hwire, rfl, hcall⟩ := written_eq_some hwritten
    obtain ⟨rfl, hread⟩ := Event.message.inj heq
    obtain rfl := h.wires wire hwire wire' hwire' hconn
    exact sent_of_wrote (h.wrote _ _ _ hcall) hread hasks
  · intro _ _ _ _ heq
    cases heq

/-- What the service answers the hub. -/
theorem Sound.admits_answered (h : s.Sound platform name providers) {k id : ℕ}
    {result : Except Thrown AuthContext} (hanswer : s.answer k = some (id, result)) :
    s.Admits platform name providers (.resume id (.authenticated result)) := by
  constructor
  · intro _ _ _ heq
    cases heq
  · intro id' connId message auth heq hget
    cases heq
    obtain ⟨j, call, granted, hmem, hcall, hsettled, hnarrow⟩ := answer_eq_some hanswer
    obtain ⟨-, call', hcall', hasks⟩ := h.awaits _ j hmem
    obtain rfl := Option.some.inj (hcall.symm.trans hcall')
    obtain ⟨payload, hpayload, hrequest⟩ := hasks connId message hget
    obtain ⟨es, hrun⟩ := h.service
    rw [hrun] at hcall
    have hsound := (AuthServiceState.sound_run platform name providers es).calls call
      (List.mem_of_getElem? hcall)
    have htells := AuthServiceState.tells_run platform name providers es j call hcall
    obtain ⟨hhas, hp⟩ := h.asks _ _ _ hget
    exact ⟨hhas, payload, hp payload hpayload, es, j, auth, hrun,
      ⟨call, granted, hcall, hrequest, hsettled, hnarrow, hsound, htells⟩, rfl⟩

theorem admits_elsewhere (h : s.Elsewhere e) : s.Admits platform name providers e := by
  constructor
  · rintro connId message payload rfl - wire hwire hconn
    exact absurd hconn (h wire hwire)
  · rintro id connId message auth rfl
    exact h.elim

theorem Presents.join {wire : ClientWire} (hjoins : s.Joins wire)
    (hhas : s.hub.objects.has connId = true) (h : s.Presents connId payload) :
    Presents { s with wires := s.wires ++ [wire] } connId payload := by
  intro wire' hmem hconn
  rcases List.mem_append.1 hmem with hold | hnew
  · exact h wire' hold hconn
  · obtain rfl := List.mem_singleton.1 hnew
    rw [← hconn, hjoins.1] at hhas
    cases hhas

theorem Vouched.join {wire : ClientWire} (hjoins : s.Joins wire)
    (h : s.Vouched platform name providers connId auth) :
    Vouched { s with wires := s.wires ++ [wire] } platform name providers connId auth := by
  obtain ⟨hhas, payload, hp, hgrants⟩ := h
  exact ⟨hhas, payload, hp.join hjoins hhas, hgrants⟩

/-- A socket is joined to a connection that nothing is known of. -/
theorem Sound.join (h : s.Sound platform name providers) {wire : ClientWire}
    (hjoins : s.Joins wire) : Sound platform name providers { s with wires := s.wires ++ [wire] } := by
  refine ⟨h.numbered, h.kept, h.service, h.clients, h.wrote, fun left hleft right hright heq => ?_,
    fun id connId message hget => ?_, h.awaits, fun connId auth hauth => ?_⟩
  · rcases List.mem_append.1 hleft with hleft | hleft <;>
      rcases List.mem_append.1 hright with hright | hright
    · exact h.wires left hleft right hright heq
    · rw [List.mem_singleton.1 hright] at heq
      exact absurd heq.symm (hjoins.2 left hleft).1
    · rw [List.mem_singleton.1 hleft] at heq
      exact absurd heq (hjoins.2 right hright).1
    · rw [List.mem_singleton.1 hleft, List.mem_singleton.1 hright]
  · obtain ⟨hhas, hp⟩ := h.asks id connId message hget
    exact ⟨hhas, fun payload hasks => (hp payload hasks).join hjoins hhas⟩
  · exact (h.vouched connId auth hauth).join hjoins

/-- What was vouched for once stays so. -/
theorem Vouched.step (h : s.Vouched platform name providers connId auth) (e : DeploymentEvent) :
    (s.step e).Vouched platform name providers connId auth := by
  unfold Deployment.step
  split
  · split_ifs
    · exact h
    · exact h.clientStep _ _
  · exact h.service _
  · split_ifs
    · exact h.hubStep _
    · exact h
  · split_ifs with hjoins
    · exact (h.join hjoins).hubStep _
    · exact h
  · split
    · exact h.hubStep _
    · exact h
  · split
    · exact h.clientStep _ _
    · exact h
  · split
    · exact h.hubStep _
    · exact h

theorem Sound.step (h : s.Sound platform name providers) (e : DeploymentEvent) :
    (s.step e).Sound platform name providers := by
  unfold Deployment.step
  split
  · split_ifs
    · exact h
    · exact h.clientStep _ _
  · exact h.serviceStep _
  · split_ifs with helsewhere
    · exact h.hubStep (admits_elsewhere helsewhere)
    · exact h
  · split_ifs with hjoins
    · exact (h.join hjoins).hubStep (admits_elsewhere trivial)
    · exact h
  · split
    · rename_i hwritten
      exact h.hubStep (h.admits_up hwritten)
    · exact h
  · split
    · exact h.clientStep _ _
    · exact h
  · split
    · rename_i hanswer
      exact h.hubStep (h.admits_answered hanswer)
    · exact h

theorem Sound.knows (h : s.Sound platform name providers) {wire : ClientWire}
    (hwire : wire ∈ s.wires) (hauth : (s.hub.authOf wire.connId).isSome = true) : s.Knows platform name providers wire := by
  obtain ⟨auth, hauth⟩ := Option.isSome_iff_exists.1 hauth
  obtain ⟨-, payload, hp, hgrants⟩ := h.vouched wire.connId auth hauth
  obtain ⟨token, hsent, rfl⟩ := hp wire hwire rfl
  exact ⟨auth, token, hauth, hsent,
    fun token' hsent' => token_unique (h.clients wire.client).justified hsent hsent', hgrants⟩

/-! ### What the clients hear -/

/-- What holds besides when what comes from outside has names. -/
structure Accepted (s : Deployment) : Prop where
  clear : s.hub.Clear fun _ _ => True
  handed : ∀ connId message, (connId, message) ∈ s.handed → message.Clear connId ∧
    ∀ auth traceId, message = .authOk auth traceId → (s.hub.authOf connId).isSome = true
  accepted : ∀ c i, .accepted i ∈ (s.clients c).log →
    ∃ wire ∈ s.wires, wire.client = c ∧ wire.socket = i ∧
      (s.hub.authOf wire.connId).isSome = true

theorem accepted_create (options : ℕ → ConnectedClientOptions) {deps : WebSocketRuntimeDeps}
    (hn : deps.nodeId ≠ []) (hg : deps.hostGroupId ≠ some []) (platform : JwtPlatform)
    (name : JsString) (providers : List AuthProvider) :
    (create options deps platform name providers).Accepted where
  clear := WebSocketRuntime.clear_create hn hg
  handed _ _ h := absurd h List.not_mem_nil
  accepted _ _ h := absurd h List.not_mem_nil

theorem Accepted.clientStep (h : s.Accepted) {c : ℕ} {e : ConnectedClientEvent}
    (he : ∀ i, e.Accepts i → ∃ wire ∈ s.wires, wire.client = c ∧ wire.socket = i ∧
      (s.hub.authOf wire.connId).isSome = true) : (s.clientStep c e).Accepted := by
  refine ⟨h.clear, h.handed, fun c' i hmem => ?_⟩
  obtain ⟨new, calls, hlog, -, haccepted, -⟩ := adds_clientStep s c e c'
  rw [hlog] at hmem
  rcases List.mem_append.1 hmem with hold | hnew
  · exact h.accepted c' i hold
  · obtain ⟨rfl, haccepts⟩ := haccepted i hnew
    exact he i haccepts

theorem mem_handedOver {x : Effect} {connId : JsString} {message : OutboundMessage}
    (h : (connId, message) ∈ x.handedOver) : x = .send connId message ∨
      x = .enqueued connId message := by
  cases x with
  | send => cases List.mem_singleton.1 h; exact .inl rfl
  | enqueued => cases List.mem_singleton.1 h; exact .inr rfl
  | _ => cases h

theorem Accepted.hubStep (h : s.Accepted) (hsound : s.Sound platform name providers) {e : Event}
    (hfed : e.Fed) : (s.hubStep e).Accepted := by
  have hclear : (s.hub.step e).Clear fun _ _ => True :=
    WebSocketRuntime.clear_step h.clear hfed fun _ _ _ _ _ _ => trivial
  have hpersists {connId : JsString} (hauth : (s.hub.authOf connId).isSome = true) :
      ((s.hub.step e).authOf connId).isSome = true := WebSocketRuntime.authOf_isSome_step hauth e
  have haskers : s.hub.Askers := fun id connId message hget =>
    (hsound.asks id connId message hget).1
  have hnext : Accepted { s with
      hub := s.hub.step e
      handed := s.handed ++ (s.hub.step e).effects.flatMap Effect.handedOver } := by
    refine ⟨hclear, fun connId message hmem => ?_, fun c i hmem => ?_⟩
    · rcases List.mem_append.1 hmem with hold | hnew
      · obtain ⟨hc, hauth⟩ := h.handed connId message hold
        exact ⟨hc, fun auth traceId heq => hpersists (hauth auth traceId heq)⟩
      · obtain ⟨x, hx, hmem⟩ := List.mem_flatMap.1 hnew
        have hover := mem_handedOver hmem
        refine ⟨(hclear.effects x hx connId message hover).1, fun auth traceId heq => ?_⟩
        -- a frame that says so leaves with the context of its connection
        subst heq
        obtain ⟨-, -, -, -, hauth⟩ := WebSocketRuntime.granted_step h.clear haskers hfed
          (hover.imp (fun heq => heq ▸ hx) fun heq => heq ▸ hx)
        show ((s.hub.step e).authOf connId).isSome = true
        rw [hauth]
        rfl
    · obtain ⟨wire, hwire, hc, hi, hauth⟩ := h.accepted c i hmem
      exact ⟨wire, hwire, hc, hi, hpersists hauth⟩
  unfold Deployment.hubStep
  dsimp only
  split
  · exact hnext
  · exact ⟨hnext.clear, hnext.handed, hnext.accepted⟩

/-- A frame that a client takes for its acceptance is one. -/
theorem authOk_of_heard {message : OutboundMessage} {connId : JsString}
    (hclear : message.Clear connId) {stamp : Stamp} (hfit : stamp.Fit)
    (htime : stamp.time.isFinite = true) {payload : SysAuthOkPayload}
    (h : onMessage (message.text stamp connId) = .authOk payload) :
    ∃ auth traceId, message = .authOk auth traceId := by
  rw [(hclear stamp hfit htime).heard] at h
  cases message with
  | authOk auth traceId => exact ⟨auth, traceId, rfl⟩
  | _ => cases h

theorem Accepted.step (h : s.Accepted) (hsound : s.Sound platform name providers)
    {e : DeploymentEvent} (hfed : s.Fed e) : (s.step e).Accepted := by
  cases e with
  | client c e =>
    show Accepted (if e.IsMessage then s else s.clientStep c e)
    split_ifs with hmessage
    · exact h
    · refine h.clientStep fun i haccepts => ?_
      cases e with
      | socket j event stamp =>
        cases event with
        | message text => exact absurd rfl hmessage
        | _ => exact haccepts.elim
      | _ => exact haccepts.elim
  | service e => exact ⟨h.clear, h.handed, h.accepted⟩
  | hub e =>
    show Accepted (if s.Elsewhere e then s.hubStep e else s)
    split_ifs
    · exact h.hubStep hsound hfed
    · exact h
  | accept wire =>
    show Accepted (if s.Joins wire then
      ({ s with wires := s.wires ++ [wire] } : Deployment).hubStep (.openSocket wire.connId) else s)
    split_ifs with hjoins
    · have hjoined : Accepted { s with wires := s.wires ++ [wire] } := by
        refine ⟨h.clear, h.handed, fun c i hmem => ?_⟩
        obtain ⟨wire', hwire', hrest⟩ := h.accepted c i hmem
        exact ⟨wire', List.mem_append_left _ hwire', hrest⟩
      exact hjoined.hubStep (hsound.join hjoins) hfed
    · exact h
  | up c k =>
    unfold Deployment.step
    dsimp only
    split
    · exact h.hubStep hsound ⟨_, rfl⟩
    · exact h
  | down k stamp reply =>
    unfold Deployment.step
    dsimp only
    split
    · rename_i wire message hgiven
      obtain ⟨hwire, hhanded⟩ := given_eq_some hgiven
      obtain ⟨hclear, hauth⟩ := h.handed _ _ hhanded
      refine h.clientStep fun i haccepts => ?_
      -- the client takes itself for accepted by a frame that the hub has handed over
      obtain ⟨rfl, payload, hheard⟩ := haccepts
      obtain ⟨auth, traceId, heq⟩ := authOk_of_heard hclear hfed.1 hfed.2 hheard
      exact ⟨wire, hwire, rfl, rfl, hauth auth traceId heq⟩
    · exact h
  | answered k =>
    unfold Deployment.step
    dsimp only
    split
    · rename_i id result hanswer
      exact h.hubStep hsound (hfed id result hanswer)
    · exact h

/-! ### Runs -/

variable (options : ℕ → ConnectedClientOptions) (deps : WebSocketRuntimeDeps)
  (platform : JwtPlatform) (name : JsString) (providers : List AuthProvider)

theorem sound_run (es : List DeploymentEvent) :
    (Machine.run step (create options deps platform name providers) es).Sound platform name
      providers :=
  Machine.run_invariant (sound_create options deps platform name providers)
    (fun _ e h => h.step e) es

/-- **Whatever the network, the connections of others and the providers do, the context of a client
was granted for the token that it sent over its connection.** -/
theorem granted_run (es : List DeploymentEvent) :
    ∀ wire ∈ (Machine.run step (create options deps platform name providers) es).wires,
      ((Machine.run step (create options deps platform name providers) es).hub.authOf
        wire.connId).isSome = true →
      (Machine.run step (create options deps platform name providers) es).Knows platform name providers
        wire :=
  fun _ hwire hauth => (sound_run options deps platform name providers es).knows hwire hauth

open WebSocketRuntime (firstStamp firstStamp_fit)

/-- A hub with a provider that says who is who. -/
def smallHub : Deployment :=
  create (fun _ => { websocketUrl := js "ws://n" }) { nodeId := js "n" }
    JwtIssuerAuthProvider.asciiPlatform (js "bearer") [.external (js "bearer") 0]

/-- The context of Alice. -/
def aliceContext : JwtAuthContext where
  peerId := js "alice"
  tokenId := .str (js "t")
  capabilities := []
  expiresAt := .ofNat 0
  groupId := none

/-- A client connects as Alice, and hears that it is accepted. -/
def aliceComes : List DeploymentEvent :=
  [.client 0 (.connect (js "t")), .accept ⟨0, 0, js "a"⟩,
    .client 0 (.socket 0 .opened firstStamp), .up 0 0, .service (.answer 0 (.ofNat 0)
      (.ok aliceContext)), .answered 0, .down 0 firstStamp firstStamp]

theorem granted_run_aliceComes : (Machine.run step smallHub aliceComes).Knows
    JwtIssuerAuthProvider.asciiPlatform (js "bearer") [.external (js "bearer") 0]
    ⟨0, 0, js "a"⟩ :=
  granted_run _ _ _ _ _ aliceComes ⟨0, 0, js "a"⟩ (by decide +kernel) (by decide +kernel)

/-- The client talks over the socket as one that was accepted: it is ready, or it has sent a message
of its user. -/
def Talks (s : Deployment) (c i : ℕ) : Prop :=
  ((s.clients c).client.readyState = .ready ∧ (s.clients c).transport.socket = some i) ∨
    ∃ msgId, .sent i (.business msgId) ∈ (s.clients c).log

theorem fed_aliceComes : Machine.Along step Fed smallHub aliceComes := by
  refine ⟨trivial, by simp [Fed], trivial, trivial, trivial, fun id result hanswer => ?_,
    ⟨firstStamp_fit, by decide +kernel⟩, trivial⟩
  change (Machine.run step smallHub (aliceComes.take 5)).answer 0 = some (id, result) at hanswer
  have hfine : ((Machine.run step smallHub (aliceComes.take 5)).answer 0).all (fun answer =>
      answer.2.toOption.any fun auth => auth.peerId ≠ [] && auth.expiresAt.isFinite) = true := by
    decide +kernel
  rw [hanswer] at hfine
  cases result with
  | ok auth => simpa [Event.Fed, Except.toOption] using hfine
  | error thrown => simp [Except.toOption] at hfine

end Deployment

end Hardess
