import Hardess.Auth.AcceptedTokens
import Hardess.Auth.AuthErrors
import Hardess.Auth.TokenLifetime
import Hardess.Lib.Machine

/-!
# The authentication service over whole runs

`RuntimeAuthService` of `src/runtime/auth/service.ts`, with `DemoBearerAuthProvider` of
`src/runtime/auth/provider.ts` and `JwtIssuerAuthProvider`: calls overlap, and the trust changes and
tokens are revoked while providers answer.

* `AuthServiceState.step`: calls, answers, revocations and new trusts;
* `AuthCall.Sound`: what the providers of a call answered, and why it is settled as it is;
* `AuthServiceState.Tells`: the calls and the answers of a state are those of its run;
* **`accepted_run`**: who is let in, by whom and when, and why the others are not;
* **`revoked_run`**: a token that was revoked lets nobody in, whatever is in flight.

What a provider throws is not nullish. A provider that is neither of the two answers as it pleases.
The token provider reads the clock and its key sets when it answers.
-/

namespace Hardess

/-! ### Providers -/

/-- `AuthProvider`: of the demo, of a trust, each with a cache of its own, or another one. -/
inductive AuthProvider
  | demo
  | jwt (trust : RuntimeAuthTrust) (cache : ℕ)
  | external (name : JsString) (id : ℕ)
  deriving DecidableEq

/-- `AuthProvider.name`. -/
def AuthProvider.name : AuthProvider → JsString
  | .demo => js "bearer"
  | .jwt .. => js "bearer"
  | .external name _ => name

/-- What a call asks the providers. -/
inductive AuthRequest
  | bearer (token : JsString)
  | system (payload : SysAuthPayload)

/-- `bearerSysAuthPayloadSchema`, of a payload that `sysAuthPayloadSchema` made. -/
def bearerSysAuthPayloadSchema (payload : SysAuthPayload) : Option JsString := do
  guard (payload.provider = js "bearer")
  let token ← Zod.nonempty payload.payload
  guard (payload.groupId ≠ some [])
  some token

/-- The token that a provider checks: `parseBearerSysAuthPayload`, for a system message. -/
def AuthRequest.token (platform : JwtPlatform) : AuthRequest → Except Thrown JsString
  | .bearer token => .ok token
  | .system payload =>
    match bearerSysAuthPayloadSchema payload with
    | some token => .ok token
    | none => .error (invalidPayload (js "Invalid bearer auth payload") (platform.issues payload))

/-- `DemoBearerAuthProvider.validateBearerToken`. -/
def demoValidate (now : JsNumber) (token : JsString) : Except Thrown JwtAuthContext :=
  let normalized := JwtIssuerAuthProvider.normalized token
  match normalized.splitOn (unit ':') with
  | scheme :: peerId :: _ =>
    if scheme ≠ js "demo" ∨ peerId = [] then
      .error (invalidToken (js "Unsupported token format"))
    else
      .ok
        { peerId
          tokenId := .str normalized
          capabilities := [.str (js "notify.conn"), .str (js "push.system")]
          expiresAt := now.add (.ofNat (60 * 60 * 1000))
          groupId := none }
  | _ => .error (invalidToken (js "Unsupported token format"))

/-- What a provider answers, with the caches it leaves. What is said matters for an external one. -/
def AuthProvider.ask (platform : JwtPlatform) (caches : List JwksCache) (request : AuthRequest)
    (now : JsNumber) (said : Except Thrown JwtAuthContext) :
    AuthProvider → List JwksCache × Except Thrown JwtAuthContext
  | .demo => (caches, (request.token platform).bind (demoValidate now))
  | .jwt trust cache =>
    match request.token platform with
    | .error error => (caches, .error error)
    | .ok token =>
      let jwt : JwtIssuerAuthProvider := { trust, platform }
      let (after, answer) := jwt.validateBearerToken (caches[cache]?.getD .empty) now token
      (caches.set cache after, answer)
  | .external _ _ => (caches, said)

/-! ### The service -/

/-- What a provider answered to a call, with the time, the caches and the revoked tokens of then. -/
structure AuthAnswer where
  now : JsNumber
  caches : List JwksCache
  revokedTokenIds : List JsString
  result : Except Thrown JwtAuthContext

/-- The error of a provider that refused. -/
def AuthAnswer.refusal (answer : AuthAnswer) : Option Thrown :=
  match answer.result with
  | .ok _ => none
  | .error error => some error

/-- A call of `validateBearerToken` or `validateSystemAuth`. -/
structure AuthCall where
  request : AuthRequest
  /-- The trust that was in force when the call was made. -/
  trust : Option RuntimeAuthTrust
  /-- What `resolveProviders` gave. -/
  providers : List AuthProvider
  /-- What those that were asked have answered. -/
  answers : List AuthAnswer := []
  settlement : Option (Except Thrown JwtAuthContext) := none

/-- The provider that is asked. -/
def AuthCall.current (call : AuthCall) : Option AuthProvider :=
  if call.settlement.isSome then none else call.providers[call.answers.length]?

/-- `firstError`. -/
def AuthCall.firstError (call : AuthCall) : Option Thrown :=
  call.answers.findSome? AuthAnswer.refusal

/-- The error of a call that finds nobody to ask; a call without a token asks with the empty one. -/
def AuthRequest.unanswerable : AuthRequest → Thrown
  | .bearer token =>
    if token = [] then invalidToken (js "Missing bearer token")
    else .hardess { code := .INTERNAL_ERROR, message := js "Default auth provider is not configured" }
  | .system _ => invalidToken (js "Unsupported auth provider")

/-- `RuntimeAuthService`, with the calls that were made. -/
structure AuthServiceState where
  platform : JwtPlatform
  defaultProviderName : JsString := js "bearer"
  providers : JsMap JsString AuthProvider
  dynamicProviders : JsMap JsString AuthProvider := .empty
  revokedTokenIds : List JsString := []
  /-- The last trust that was applied. -/
  trust : Option RuntimeAuthTrust := none
  /-- The caches of token providers; those that the service was built with come first. -/
  caches : List JwksCache := []
  calls : List AuthCall := []

/-- What happens to a service. -/
inductive AuthServiceEvent
  | validateBearerToken (token : Option JsString)
  | validateSystemAuth (payload : SysAuthPayload)
  /-- The provider that the call asks answers; what it says matters for an external one. -/
  | answer (k : ℕ) (now : JsNumber) (said : Except Thrown JwtAuthContext)
  | revoke (tokenId : JsString)
  | applyRuntimeAuthTrust (trust : Option RuntimeAuthTrust)

namespace AuthServiceState

variable (s : AuthServiceState)

/-- `new RuntimeAuthService`. -/
def create (platform : JwtPlatform) (defaultProviderName : JsString)
    (providers : List AuthProvider) : AuthServiceState where
  platform
  defaultProviderName
  providers := providers.foldl (fun map provider => map.set provider.name provider) .empty
  caches := providers.map fun _ => .empty

/-- The part that says which contexts are valid. -/
def service : RuntimeAuthService := ⟨s.revokedTokenIds⟩

/-- `resolveProviders`. -/
def resolveProviders (name : JsString) : List AuthProvider :=
  (s.dynamicProviders.get name).toList ++ (s.providers.get name).toList

/-- A call is made: it asks the first provider, or there is none. -/
def begin (request : AuthRequest) (providers : List AuthProvider) : AuthServiceState :=
  { s with
    calls := s.calls ++
      [{ request
         trust := s.trust
         providers
         settlement := if providers = [] then some (.error request.unanswerable) else none }] }

/-- `validateBearerToken`. -/
def validateBearerToken (token : Option JsString) : AuthServiceState :=
  match token.filter (· ≠ []) with
  | none => s.begin (.bearer []) []
  | some token => s.begin (.bearer token) (s.resolveProviders s.defaultProviderName)

/-- `validateSystemAuth`. -/
def validateSystemAuth (payload : SysAuthPayload) : AuthServiceState :=
  s.begin (.system payload) (s.resolveProviders payload.provider)

/-- The loop of `validateWithProviders` goes on, or the call ends. -/
def received (call : AuthCall) (answer : AuthAnswer) : AuthCall :=
  let call := { call with answers := call.answers ++ [answer] }
  match answer.result with
  | .ok auth => { call with settlement := some (s.service.validateSystemAuth (.ok auth)) }
  | .error error =>
    if call.answers.length < call.providers.length then call
    else { call with settlement := some (.error (call.firstError.getD error)) }

/-- The answer of a provider, in this state. -/
def answerOf (provider : AuthProvider) (request : AuthRequest) (now : JsNumber)
    (said : Except Thrown JwtAuthContext) : AuthAnswer where
  now
  caches := s.caches
  revokedTokenIds := s.revokedTokenIds
  result := (provider.ask s.platform s.caches request now said).2

/-- The provider that call `k` asks answers. -/
def answer (k : ℕ) (now : JsNumber) (said : Except Thrown JwtAuthContext) : AuthServiceState :=
  match s.calls[k]? with
  | none => s
  | some call =>
    match call.current with
    | none => s
    | some provider =>
      { s with
        caches := (provider.ask s.platform s.caches call.request now said).1
        calls := s.calls.set k (s.received call (s.answerOf provider call.request now said)) }

/-- `applyRuntimeAuthTrust`. -/
def applyRuntimeAuthTrust (trust : Option RuntimeAuthTrust) : AuthServiceState :=
  match trust.filter (·.tokenIssuers ≠ []) with
  | none => { s with trust, dynamicProviders := .empty }
  | some issuers =>
    let provider := AuthProvider.jwt issuers s.caches.length
    { s with
      trust
      dynamicProviders := JsMap.empty.set provider.name provider
      caches := s.caches ++ [.empty] }

/-- What an event does. -/
def step (s : AuthServiceState) : AuthServiceEvent → AuthServiceState
  | .validateBearerToken token => s.validateBearerToken token
  | .validateSystemAuth payload => s.validateSystemAuth payload
  | .answer k now said => s.answer k now said
  | .revoke tokenId => { s with revokedTokenIds := s.revokedTokenIds ++ [tokenId] }
  | .applyRuntimeAuthTrust trust => s.applyRuntimeAuthTrust trust

end AuthServiceState

/-- The context as it is declared, if its token id and its capabilities are strings. -/
def JwtAuthContext.narrow (auth : JwtAuthContext) : Option AuthContext := do
  let tokenId ← Zod.string auth.tokenId
  let capabilities ← auth.capabilities.mapM fun capability => Zod.string capability
  some
    { peerId := auth.peerId
      tokenId
      capabilities
      expiresAt := auth.expiresAt
      groupId := auth.groupId }

/-! ### Statements -/

/-- Whom a provider lets in for a request with an answer, by the time and the caches of then. -/
def AuthProvider.Vouches (platform : JwtPlatform) (answer : AuthAnswer) (request : AuthRequest)
    (auth : JwtAuthContext) : AuthProvider → Prop
  | .demo => ∃ token, request.token platform = .ok token ∧ demoValidate answer.now token = .ok auth
  | .jwt trust cache => ∃ token payload, ∃ issuer ∈ trust.tokenIssuers,
      request.token platform = .ok token ∧
        ((⟨trust, platform, .ofNat 300000⟩ : JwtIssuerAuthProvider).verifiedPayload
          (answer.caches[cache]?.getD .empty) answer.now
          (JwtIssuerAuthProvider.normalized token)).2 = .ok (payload, issuer) ∧
        contextOf issuer answer.now payload = .ok auth
  | .external _ _ => True

/-- A provider was given to the service, or is that of a trust. -/
def AuthProvider.Known (given : List AuthProvider) (trust : Option RuntimeAuthTrust)
    (provider : AuthProvider) : Prop :=
  provider ∈ given ∨ ∃ issuers cache, provider = .jwt issuers cache ∧ trust = some issuers ∧
    issuers.tokenIssuers ≠ []

/-- The error of `ensureNotRevoked`. -/
def revokedError : Thrown :=
  .hardess { code := .AUTH_REVOKED_TOKEN, message := js "Token has been revoked" }

/-- Why a call is settled as it is. -/
inductive AuthCall.Settles (call : AuthCall) : Except Thrown JwtAuthContext → Prop
  /-- There is nobody to ask. -/
  | unanswerable (h : call.providers = []) (ha : call.answers = []) :
      Settles call (.error call.request.unanswerable)
  /-- All refuse: the error is that of the first. -/
  | refused {answer : AuthAnswer} {later : List AuthAnswer} {error : Thrown}
      (h : call.answers.length = call.providers.length) (ha : call.answers = answer :: later)
      (hr : ∀ answer ∈ later, answer.refusal.isSome = true) (he : answer.result = .error error) :
      Settles call (.error error)
  /-- Those before refused, and the last one lets somebody in whose token is not revoked. -/
  | accepted {earlier : List AuthAnswer} {answer : AuthAnswer} {auth : JwtAuthContext}
      (ha : call.answers = earlier ++ [answer])
      (hr : ∀ answer ∈ earlier, answer.refusal.isSome = true) (he : answer.result = .ok auth)
      (hn : (⟨answer.revokedTokenIds⟩ : RuntimeAuthService).isRevoked auth.tokenId = false) :
      Settles call (.ok auth)
  /-- The same for a token that was revoked. -/
  | revoked {earlier : List AuthAnswer} {answer : AuthAnswer} {auth : JwtAuthContext}
      (ha : call.answers = earlier ++ [answer])
      (hr : ∀ answer ∈ earlier, answer.refusal.isSome = true) (he : answer.result = .ok auth)
      (hn : (⟨answer.revokedTokenIds⟩ : RuntimeAuthService).isRevoked auth.tokenId = true) :
      Settles call (.error revokedError)

/-- What the providers of a call answered, and why it is settled as it is. -/
structure AuthCall.Sound (platform : JwtPlatform) (given : List AuthProvider) (call : AuthCall) :
    Prop where
  /-- Only providers that were in force when the call was made are asked. -/
  captured : ∀ provider ∈ call.providers, provider.Known given call.trust
  /-- They are asked in their order, and each answer is that of its provider. -/
  answered : ∀ (i : ℕ) (answer : AuthAnswer), call.answers[i]? = some answer →
    ∃ provider said, call.providers[i]? = some provider ∧
      answer.result = (provider.ask platform answer.caches call.request answer.now said).2
  /-- Whoever is let in was vouched for. -/
  vouched : ∀ (i : ℕ) (answer : AuthAnswer) (provider : AuthProvider) (auth : JwtAuthContext),
    call.answers[i]? = some answer → call.providers[i]? = some provider →
      answer.result = .ok auth → provider.Vouches platform answer call.request auth
  /-- A call goes on as long as those that were asked refuse and others are left. -/
  pending : call.settlement = none → call.answers.length < call.providers.length ∧
    ∀ answer ∈ call.answers, answer.refusal.isSome = true
  settled : ∀ result, call.settlement = some result → call.Settles result

/-- What holds in every state of a service. -/
structure AuthServiceState.Sound (platform : JwtPlatform) (given : List AuthProvider)
    (s : AuthServiceState) : Prop where
  samePlatform : s.platform = platform
  static : ∀ name provider, s.providers.get name = some provider → provider ∈ given
  dynamic : ∀ name provider, s.dynamicProviders.get name = some provider →
    ∃ issuers cache, provider = .jwt issuers cache ∧ s.trust = some issuers ∧
      issuers.tokenIssuers ≠ []
  calls : ∀ call ∈ s.calls, call.Sound platform given

/-- The event makes a call, which is to ask these providers. -/
inductive AuthServiceState.Makes (s : AuthServiceState) :
    AuthServiceEvent → AuthRequest → List AuthProvider → Prop
  | missing {token : Option JsString} (h : token.filter (· ≠ []) = none) :
      Makes s (.validateBearerToken token) (.bearer []) []
  | bearer {token : JsString} (h : token ≠ []) :
      Makes s (.validateBearerToken (some token)) (.bearer token)
        (s.resolveProviders s.defaultProviderName)
  | system {payload : SysAuthPayload} :
      Makes s (.validateSystemAuth payload) (.system payload) (s.resolveProviders payload.provider)

/-- A call of a state was made in its run, with the providers of then, and its answers came in its
run, one after the other, with the caches and the revoked tokens of then. -/
structure AuthServiceState.Tells (start : AuthServiceState) (es : List AuthServiceEvent) (k : ℕ)
    (call : AuthCall) : Prop where
  made : Machine.Past step start es fun s e =>
    s.calls.length = k ∧ s.trust = call.trust ∧ s.Makes e call.request call.providers
  heard : ∀ (i : ℕ) (answer : AuthAnswer), call.answers[i]? = some answer →
    Machine.Past step start es fun s e => ∃ provider said, e = .answer k answer.now said ∧
      (s.calls[k]?.map fun call => call.answers.length) = some i ∧
      call.providers[i]? = some provider ∧
      answer = s.answerOf provider call.request answer.now said

/-- In a run of a service, call `k` asks with the request and has granted the context; what its
providers answered, and when, is told by the run. -/
def AuthServiceState.Grants (platform : JwtPlatform) (name : JsString) (given : List AuthProvider)
    (es : List AuthServiceEvent) (k : ℕ) (request : AuthRequest) (auth : AuthContext) : Prop :=
  ∃ (call : AuthCall) (granted : JwtAuthContext),
    (Machine.run step (create platform name given) es).calls[k]? = some call ∧
      call.request = request ∧ call.settlement = some (.ok granted) ∧
      granted.narrow = some auth ∧ call.Sound platform given ∧
      Tells (create platform name given) es k call

namespace AuthServiceState

variable {platform : JwtPlatform} {given : List AuthProvider} {s start : AuthServiceState}
  {es : List AuthServiceEvent}

/-! ### Providers -/

/-- **Whom a provider lets in.** -/
theorem vouches_of_ask {provider : AuthProvider} {request : AuthRequest} {answer : AuthAnswer}
    {said : Except Thrown JwtAuthContext} {auth : JwtAuthContext}
    (h : (provider.ask platform answer.caches request answer.now said).2 = .ok auth) :
    provider.Vouches platform answer request auth := by
  cases provider with
  | demo =>
    obtain ⟨token, htoken, hauth⟩ := except_bind_ok_iff.1 h
    exact ⟨token, htoken, hauth⟩
  | jwt trust cache =>
    unfold AuthProvider.ask at h
    cases htoken : request.token platform with
    | error error =>
      rw [htoken] at h
      cases h
    | ok token =>
      rw [htoken] at h
      obtain ⟨payload, issuer, hverified, hcontext⟩ :=
        (JwtIssuerAuthProvider.validateBearerToken_ok_iff _).1 h
      obtain ⟨_, _, _, header, -, -, -, htrust, -⟩ :=
        JwtIssuerAuthProvider.exists_of_verifiedPayload _ hverified
      obtain ⟨_, _, -, -, hfind, -⟩ := JwtIssuerAuthProvider.resolveIssuerTrust_ok_iff.1 htrust
      exact ⟨token, payload, issuer, List.mem_of_find?_eq_some hfind, htoken, hverified, hcontext⟩
  | external name id => trivial

/-- A map that is made of providers by their names holds nothing else. -/
theorem mem_of_get_foldl {name : JsString} {provider : AuthProvider} :
    ∀ (providers : List AuthProvider) (map : JsMap JsString AuthProvider),
      (providers.foldl (fun map provider => map.set provider.name provider) map).get name =
          some provider → provider ∈ providers ∨ map.get name = some provider
  | [], _, h => .inr h
  | p :: ps, map, h => by
    obtain hmem | hget := mem_of_get_foldl ps (map.set p.name p) h
    · exact .inl (List.mem_cons_of_mem _ hmem)
    · rw [JsMap.get_set] at hget
      split_ifs at hget
      · cases hget
        exact .inl List.mem_cons_self
      · exact .inr hget

theorem sound_create (platform : JwtPlatform) (name : JsString) (given : List AuthProvider) :
    (create platform name given).Sound platform given where
  samePlatform := rfl
  static _ _ hget := (mem_of_get_foldl given _ hget).resolve_right fun hnone => nomatch hnone
  dynamic _ _ hget := nomatch hget
  calls _ hmem := absurd hmem List.not_mem_nil

/-- The providers that a call would ask. -/
theorem Sound.known (h : s.Sound platform given) (name : JsString) :
    ∀ provider ∈ s.resolveProviders name, provider.Known given s.trust := by
  intro provider hmem
  simp only [resolveProviders, List.mem_append, Option.mem_toList] at hmem
  obtain hdynamic | hstatic := hmem
  · exact .inr (h.dynamic name provider hdynamic)
  · exact .inl (h.static name provider hstatic)

/-! ### Steps -/

/-- A call that has just been made. -/
structure Fresh (s : AuthServiceState) (e : AuthServiceEvent) (call : AuthCall) : Prop where
  trust : call.trust = s.trust
  made : s.Makes e call.request call.providers
  answers : call.answers = []
  settled : call.settlement =
    if call.providers = [] then some (.error call.request.unanswerable) else none

theorem fresh_begin {e : AuthServiceEvent} {request : AuthRequest} {providers : List AuthProvider}
    (h : s.Makes e request providers) :
    ∃ call, (s.begin request providers).calls = s.calls ++ [call] ∧ s.Fresh e call :=
  ⟨_, rfl, rfl, h, rfl, rfl⟩

theorem fresh_validateBearerToken (s : AuthServiceState) (token : Option JsString) :
    ∃ call, (s.validateBearerToken token).calls = s.calls ++ [call] ∧
      s.Fresh (.validateBearerToken token) call := by
  unfold validateBearerToken
  cases htoken : token.filter (· ≠ []) with
  | none => exact fresh_begin (.missing htoken)
  | some text =>
    obtain ⟨rfl, hne⟩ := Option.filter_eq_some_iff.1 htoken
    exact fresh_begin (.bearer (of_decide_eq_true hne))

/-- An answer is heard by the call that asked for it. -/
theorem calls_answer (s : AuthServiceState) (k : ℕ) (now : JsNumber)
    (said : Except Thrown JwtAuthContext) :
    (s.answer k now said).calls = s.calls ∨
      ∃ call provider, s.calls[k]? = some call ∧ call.current = some provider ∧
        (s.answer k now said).calls =
          s.calls.set k (s.received call (s.answerOf provider call.request now said)) := by
  unfold answer
  split
  · exact .inl rfl
  · rename_i call hcall
    split
    · exact .inl rfl
    · rename_i provider hcurrent
      exact .inr ⟨call, provider, hcall, hcurrent, rfl⟩

theorem calls_applyRuntimeAuthTrust (s : AuthServiceState) (trust : Option RuntimeAuthTrust) :
    (s.applyRuntimeAuthTrust trust).calls = s.calls := by
  unfold applyRuntimeAuthTrust
  split <;> rfl

/-- **What a step does to the calls.** -/
theorem calls_step (s : AuthServiceState) (e : AuthServiceEvent) :
    (s.step e).calls = s.calls ∨
      (∃ call, (s.step e).calls = s.calls ++ [call] ∧ s.Fresh e call) ∨
      ∃ k call provider now said, e = .answer k now said ∧ s.calls[k]? = some call ∧
        call.current = some provider ∧ (s.step e).calls =
          s.calls.set k (s.received call (s.answerOf provider call.request now said)) := by
  cases e with
  | validateBearerToken token => exact .inr (.inl (fresh_validateBearerToken s token))
  | validateSystemAuth payload => exact .inr (.inl (fresh_begin .system))
  | answer k now said =>
    obtain heq | ⟨call, provider, h⟩ := calls_answer s k now said
    · exact .inl heq
    · exact .inr (.inr ⟨k, call, provider, now, said, rfl, h⟩)
  | revoke tokenId => exact .inl rfl
  | applyRuntimeAuthTrust trust => exact .inl (calls_applyRuntimeAuthTrust s trust)

/-- The provider that is asked has not been asked before. -/
theorem current_eq_some {call : AuthCall} {provider : AuthProvider}
    (h : call.current = some provider) :
    call.settlement = none ∧ call.providers[call.answers.length]? = some provider := by
  unfold AuthCall.current at h
  split_ifs at h with hsome
  exact ⟨Option.not_isSome_iff_eq_none.1 hsome, h⟩

theorem validateSystemAuth_cases (service : RuntimeAuthService) (auth : JwtAuthContext) :
    service.isRevoked auth.tokenId = false ∧ service.validateSystemAuth (.ok auth) = .ok auth ∨
      service.isRevoked auth.tokenId = true ∧
        service.validateSystemAuth (.ok auth) = .error revokedError := by
  have heq : service.validateSystemAuth (.ok auth) =
      (check (!service.isRevoked auth.tokenId) revokedError).bind fun _ => .ok auth := rfl
  rw [heq]
  cases service.isRevoked auth.tokenId with
  | false => exact .inl ⟨rfl, rfl⟩
  | true => exact .inr ⟨rfl, rfl⟩

theorem Fresh.sound {e : AuthServiceEvent} {call : AuthCall} (h : s.Fresh e call)
    (hknown : ∀ name, ∀ provider ∈ s.resolveProviders name, provider.Known given s.trust) :
    call.Sound platform given where
  captured provider hmem := by
    rw [h.trust]
    -- the providers of a new call are those that are resolved for it
    obtain ⟨name, hname⟩ : ∃ name, provider ∈ s.resolveProviders name := by
      have hmade := h.made
      generalize call.request = request at hmade
      generalize call.providers = providers at hmade hmem
      cases hmade with
      | missing => cases hmem
      | bearer => exact ⟨_, hmem⟩
      | system => exact ⟨_, hmem⟩
    exact hknown name provider hname
  answered i answer hget := by
    rw [h.answers] at hget
    cases hget
  vouched i answer provider auth hget := by
    rw [h.answers] at hget
    cases hget
  pending hnone := by
    rw [h.settled] at hnone
    split_ifs at hnone with hnil
    rw [h.answers]
    exact ⟨List.length_pos_of_ne_nil hnil, fun _ hmem => absurd hmem List.not_mem_nil⟩
  settled result hsome := by
    rw [h.settled] at hsome
    split_ifs at hsome with hnil
    cases hsome
    exact .unanswerable hnil h.answers

theorem getElem?_concat_cases {α : Type*} {l : List α} {a b : α} {i : ℕ}
    (h : (l ++ [a])[i]? = some b) : l[i]? = some b ∨ (i = l.length ∧ b = a) := by
  rw [List.getElem?_append] at h
  split_ifs at h with hi
  · exact .inl h
  · rw [List.getElem?_singleton] at h
    split_ifs at h with hzero
    exact .inr ⟨by omega, (Option.some.inj h).symm⟩

theorem received_frame (s : AuthServiceState) (call : AuthCall) (answer : AuthAnswer) :
    (s.received call answer).request = call.request ∧
      (s.received call answer).trust = call.trust ∧
      (s.received call answer).providers = call.providers ∧
      (s.received call answer).answers = call.answers ++ [answer] := by
  unfold received
  dsimp only
  split
  · exact ⟨rfl, rfl, rfl, rfl⟩
  · split_ifs <;> exact ⟨rfl, rfl, rfl, rfl⟩

theorem refusal_of_error {answer : AuthAnswer} {error : Thrown} (h : answer.result = .error error) :
    answer.refusal = some error := by
  rw [AuthAnswer.refusal, h]

/-- When all have refused, the first error is that of the first. -/
theorem firstError_eq {call : AuthCall} {answer : AuthAnswer} {later : List AuthAnswer}
    {error : Thrown} (ha : call.answers = answer :: later) (he : answer.result = .error error) :
    call.firstError = some error := by
  rw [AuthCall.firstError, ha, List.findSome?_cons, refusal_of_error he]

theorem exists_error_of_refusal {answer : AuthAnswer} (h : answer.refusal.isSome = true) :
    ∃ error, answer.result = .error error := by
  unfold AuthAnswer.refusal at h
  cases hresult : answer.result with
  | ok auth =>
    rw [hresult] at h
    cases h
  | error error => exact ⟨error, rfl⟩

/-- One provider more has refused. -/
theorem refused_concat {call : AuthCall} {answer : AuthAnswer} {error : Thrown}
    (hrefused : ∀ answer ∈ call.answers, answer.refusal.isSome = true)
    (h : answer.result = .error error) :
    ∀ answer' ∈ call.answers ++ [answer], answer'.refusal.isSome = true := by
  intro answer' hmem
  rcases List.mem_append.1 hmem with hold | hnew
  · exact hrefused answer' hold
  · rw [List.mem_singleton.1 hnew, refusal_of_error h]
    rfl

/-- A call that goes on was refused, and others are left. -/
theorem pending_received {call : AuthCall} {answer : AuthAnswer}
    (hrefused : ∀ answer ∈ call.answers, answer.refusal.isSome = true)
    (h : (s.received call answer).settlement = none) :
    (call.answers ++ [answer]).length < call.providers.length ∧
      ∀ answer' ∈ call.answers ++ [answer], answer'.refusal.isSome = true := by
  cases hresult : answer.result with
  | ok auth => simp [received, hresult] at h
  | error error =>
    simp only [received, hresult] at h
    split_ifs at h with hmore
    · exact ⟨hmore, refused_concat hrefused hresult⟩

/-- **Why a call is settled.** -/
theorem settles_received {call : AuthCall} (hpending : ∀ answer ∈ call.answers,
      answer.refusal.isSome = true) (hlt : call.answers.length < call.providers.length)
    (hnone : call.settlement = none) {answer : AuthAnswer}
    (hrevoked : answer.revokedTokenIds = s.revokedTokenIds) {result : Except Thrown JwtAuthContext}
    (h : (s.received call answer).settlement = some result) :
    (s.received call answer).Settles result := by
  have hservice : s.service = ⟨answer.revokedTokenIds⟩ := by rw [hrevoked]; rfl
  cases hresult : answer.result with
  | ok auth =>
    obtain ⟨hfree, hsettled⟩ | ⟨hbarred, hsettled⟩ := validateSystemAuth_cases s.service auth
    · simp only [received, hresult, hsettled, Option.some.injEq] at h ⊢
      rw [← h]
      exact .accepted rfl hpending hresult (hservice ▸ hfree)
    · simp only [received, hresult, hsettled, Option.some.injEq] at h ⊢
      rw [← h]
      exact .revoked rfl hpending hresult (hservice ▸ hbarred)
  | error error =>
    simp only [received, hresult] at h ⊢
    split_ifs at h ⊢ with hmore
    · rw [hnone] at h
      cases h
    · have hlength : (call.answers ++ [answer]).length = call.providers.length := by
        simp only [List.length_append, List.length_singleton] at hmore ⊢
        omega
      -- The error is that of the first answer, be it this one or an earlier one.
      obtain ⟨first, later, heq⟩ :=
        List.exists_cons_of_ne_nil (List.concat_ne_nil answer call.answers)
      have hrefused := refused_concat hpending hresult
      rw [heq, List.forall_mem_cons] at hrefused
      obtain ⟨firstError, hfirst⟩ := exists_error_of_refusal hrefused.1
      rw [@firstError_eq { call with answers := call.answers ++ [answer] } _ _ _ heq hfirst] at h ⊢
      cases h
      exact .refused hlength heq hrefused.2 hfirst

/-- A call after an answer. -/
theorem sound_received {call : AuthCall} (h : call.Sound platform given)
    (hplatform : s.platform = platform) {provider : AuthProvider}
    (hcurrent : call.current = some provider) (now : JsNumber)
    (said : Except Thrown JwtAuthContext) :
    (s.received call (s.answerOf provider call.request now said)).Sound platform given := by
  obtain ⟨hnone, hprovider⟩ := current_eq_some hcurrent
  obtain ⟨hlt, hrefused⟩ := h.pending hnone
  obtain ⟨hrequest, htrust, hproviders, hanswers⟩ :=
    received_frame s call (s.answerOf provider call.request now said)
  refine ⟨fun provider' hmem => ?_, fun i answer hget => ?_, fun i answer provider' auth hget => ?_,
    fun hpending => ?_, fun result hsettled => ?_⟩
  · rw [hproviders] at hmem
    rw [htrust]
    exact h.captured provider' hmem
  · rw [hanswers] at hget
    rw [hproviders, hrequest]
    obtain hold | ⟨rfl, rfl⟩ := getElem?_concat_cases hget
    · exact h.answered i answer hold
    · exact ⟨provider, said, hprovider, by rw [answerOf, hplatform]⟩
  · rw [hanswers] at hget
    rw [hproviders, hrequest]
    obtain hold | ⟨rfl, rfl⟩ := getElem?_concat_cases hget
    · exact h.vouched i answer provider' auth hold
    · intro hget' hresult
      obtain rfl := Option.some.inj (hprovider.symm.trans hget')
      -- the last answer is that of the provider whose turn it is
      refine @vouches_of_ask platform _ _ _ said _ ?_
      rw [← hresult, answerOf, hplatform]
  · rw [hanswers, hproviders]
    exact pending_received hrefused hpending
  · exact settles_received hrefused hlt hnone rfl hsettled

/-- The rest of the state after a step that applies no trust. -/
theorem frame_step (s : AuthServiceState) {e : AuthServiceEvent}
    (h : ∀ trust, e ≠ .applyRuntimeAuthTrust trust) :
    (s.step e).platform = s.platform ∧ (s.step e).trust = s.trust ∧
      (s.step e).providers = s.providers ∧ (s.step e).dynamicProviders = s.dynamicProviders := by
  cases e with
  | validateBearerToken token =>
    change (s.validateBearerToken token).platform = _ ∧ (s.validateBearerToken token).trust = _ ∧
      (s.validateBearerToken token).providers = _ ∧
      (s.validateBearerToken token).dynamicProviders = _
    unfold validateBearerToken
    split <;> exact ⟨rfl, rfl, rfl, rfl⟩
  | validateSystemAuth payload => exact ⟨rfl, rfl, rfl, rfl⟩
  | answer k now said =>
    change (s.answer k now said).platform = _ ∧ (s.answer k now said).trust = _ ∧
      (s.answer k now said).providers = _ ∧ (s.answer k now said).dynamicProviders = _
    unfold answer
    split
    · exact ⟨rfl, rfl, rfl, rfl⟩
    · split <;> exact ⟨rfl, rfl, rfl, rfl⟩
  | revoke tokenId => exact ⟨rfl, rfl, rfl, rfl⟩
  | applyRuntimeAuthTrust trust => exact absurd rfl (h trust)

/-- The providers of a trust that was just applied. -/
theorem dynamic_applyRuntimeAuthTrust (s : AuthServiceState) (trust : Option RuntimeAuthTrust)
    {name : JsString} {provider : AuthProvider}
    (hget : (s.applyRuntimeAuthTrust trust).dynamicProviders.get name = some provider) :
    ∃ issuers cache, provider = .jwt issuers cache ∧
      (s.applyRuntimeAuthTrust trust).trust = some issuers ∧ issuers.tokenIssuers ≠ [] := by
  unfold applyRuntimeAuthTrust at hget ⊢
  split at hget
  · cases hget
  · rename_i issuers hissuers
    obtain ⟨htrust, hne⟩ := Option.filter_eq_some_iff.1 hissuers
    rw [JsMap.get_set] at hget
    split_ifs at hget
    · cases hget
      exact ⟨issuers, _, rfl, htrust, by simpa using hne⟩
    · cases hget

theorem Sound.step (h : s.Sound platform given) (e : AuthServiceEvent) :
    (s.step e).Sound platform given := by
  have hcalls : ∀ call ∈ (s.step e).calls, call.Sound platform given := by
    obtain heq | ⟨call, heq, hfresh⟩ | ⟨k, call, provider, now, said, -, hcall, hcurrent, heq⟩ :=
      calls_step s e
    · rw [heq]
      exact h.calls
    · rw [heq]
      intro call' hmem
      obtain hold | hnew := List.mem_append.1 hmem
      · exact h.calls call' hold
      · rw [List.mem_singleton.1 hnew]
        exact hfresh.sound h.known
    · rw [heq]
      intro call' hmem
      obtain hold | rfl := List.mem_or_eq_of_mem_set hmem
      · exact h.calls call' hold
      · exact sound_received (h.calls call (List.mem_of_getElem? hcall)) h.samePlatform hcurrent
          now said
  by_cases htrust : ∃ trust, e = .applyRuntimeAuthTrust trust
  · obtain ⟨trust, rfl⟩ := htrust
    -- only the dynamic provider changes
    have hframe : (s.applyRuntimeAuthTrust trust).platform = s.platform ∧
        (s.applyRuntimeAuthTrust trust).providers = s.providers := by
      unfold applyRuntimeAuthTrust
      split <;> exact ⟨rfl, rfl⟩
    refine ⟨hframe.1.trans h.samePlatform, fun name provider hget => ?_,
      fun name provider hget => dynamic_applyRuntimeAuthTrust s trust hget, hcalls⟩
    exact h.static name provider (hframe.2 ▸ hget)
  · obtain ⟨hplatform, heq, hstatic, hdynamic⟩ :=
      frame_step s fun trust heq => htrust ⟨trust, heq⟩
    refine ⟨hplatform.trans h.samePlatform, fun name provider hget => ?_,
      fun name provider hget => ?_, hcalls⟩
    · exact h.static name provider (hstatic ▸ hget)
    · rw [heq]
      exact h.dynamic name provider (hdynamic ▸ hget)

/-- A call is settled once. -/
theorem settled_step (s : AuthServiceState) (e : AuthServiceEvent) {k : ℕ} {call : AuthCall}
    (hcall : s.calls[k]? = some call) (hsettled : call.settlement.isSome = true) :
    (s.step e).calls[k]? = some call := by
  obtain heq | ⟨fresh, heq, -⟩ | ⟨j, old, provider, now, said, -, hold, hcurrent, heq⟩ :=
    calls_step s e
  · rwa [heq]
  · rw [heq, List.getElem?_append_left (List.getElem?_eq_some_iff.1 hcall).1, hcall]
  · rw [heq, List.getElem?_set_ne, hcall]
    rintro rfl
    obtain rfl := Option.some.inj (hold.symm.trans hcall)
    rw [(current_eq_some hcurrent).1] at hsettled
    cases hsettled

/-- What a call asks, and whom, is fixed when it is made. -/
theorem call_step (s : AuthServiceState) (e : AuthServiceEvent) {k : ℕ} {call : AuthCall}
    (hcall : s.calls[k]? = some call) : ∃ call', (s.step e).calls[k]? = some call' ∧
      call'.request = call.request ∧ call'.providers = call.providers := by
  obtain heq | ⟨fresh, heq, -⟩ | ⟨j, old, provider, now, said, -, hold, -, heq⟩ := calls_step s e
  · exact ⟨call, heq ▸ hcall, rfl, rfl⟩
  · exact ⟨call, by rw [heq, List.getElem?_append_left (List.getElem?_eq_some_iff.1 hcall).1, hcall],
      rfl, rfl⟩
  · by_cases hj : j = k
    · subst hj
      obtain rfl := Option.some.inj (hold.symm.trans hcall)
      obtain ⟨hrequest, -, hproviders, -⟩ :=
        received_frame s old (s.answerOf provider old.request now said)
      rw [heq, List.getElem?_set_self (List.getElem?_eq_some_iff.1 hcall).1]
      exact ⟨_, rfl, hrequest, hproviders⟩
    · rw [heq, List.getElem?_set_ne hj]
      exact ⟨call, hcall, rfl, rfl⟩

theorem call_run (es : List AuthServiceEvent) {k : ℕ} {call : AuthCall}
    (hcall : s.calls[k]? = some call) : ∃ call', (Machine.run step s es).calls[k]? = some call' ∧
      call'.request = call.request ∧ call'.providers = call.providers :=
  @Machine.run_invariant _ _ step (fun s => ∃ call', s.calls[k]? = some call' ∧
    call'.request = call.request ∧ call'.providers = call.providers) s ⟨call, hcall, rfl, rfl⟩
    (fun s e hinv => by
      obtain ⟨call', hcall', hrequest, hproviders⟩ := hinv
      obtain ⟨call'', hcall'', hrequest', hproviders'⟩ := call_step s e hcall'
      exact ⟨call'', hcall'', hrequest'.trans hrequest, hproviders'.trans hproviders⟩) es

theorem Tells.append {k : ℕ} {call : AuthCall} (h : Tells start es k call)
    (fs : List AuthServiceEvent) : Tells start (es ++ fs) k call :=
  ⟨h.made.append fs, fun i answer hget => (h.heard i answer hget).append fs⟩

/-- What an event adds to the calls is told by the run. -/
theorem tells_step (h : ∀ (k : ℕ) (call : AuthCall),
      (Machine.run step start es).calls[k]? = some call → Tells start es k call)
    (e : AuthServiceEvent) (k : ℕ) (call : AuthCall)
    (hcall : ((Machine.run step start es).step e).calls[k]? = some call) :
    Tells start (es ++ [e]) k call := by
  obtain heq | ⟨fresh, heq, hfresh⟩ | ⟨j, old, provider, now, said, he, hold, hcurrent, heq⟩ :=
    calls_step (Machine.run step start es) e
  · exact (h k call (heq ▸ hcall)).append [e]
  · rw [heq] at hcall
    obtain hold | ⟨rfl, rfl⟩ := getElem?_concat_cases hcall
    · exact (h k call hold).append [e]
    · refine ⟨Machine.Past.last ⟨rfl, hfresh.trust.symm, hfresh.made⟩, fun i answer hget => ?_⟩
      rw [hfresh.answers] at hget
      cases hget
  · rw [heq, List.getElem?_set] at hcall
    split_ifs at hcall with hj hlt
    · -- the call that is answered keeps its request, and hears one answer more
      subst hj
      cases hcall
      have htold := (h j old hold).append [e]
      obtain ⟨hrequest, htrust, hproviders, hanswers⟩ :=
        received_frame (Machine.run step start es) old
          ((Machine.run step start es).answerOf provider old.request now said)
      refine ⟨by rw [hrequest, htrust, hproviders]; exact htold.made, fun i answer hget => ?_⟩
      rw [hanswers] at hget
      rw [hproviders, hrequest]
      obtain hheard | ⟨rfl, rfl⟩ := getElem?_concat_cases hget
      · exact htold.heard i answer hheard
      · exact Machine.Past.last
          ⟨provider, said, he, by rw [hold]; rfl, (current_eq_some hcurrent).2, rfl⟩
    · exact (h k call hcall).append [e]

theorem sound_run (platform : JwtPlatform) (name : JsString) (given : List AuthProvider)
    (es : List AuthServiceEvent) :
    (Machine.run step (create platform name given) es).Sound platform given :=
  Machine.run_invariant (sound_create platform name given) (fun _ e h => h.step e) es

theorem tells_run (platform : JwtPlatform) (name : JsString) (given : List AuthProvider)
    (es : List AuthServiceEvent) (k : ℕ) (call : AuthCall)
    (hcall : (Machine.run step (create platform name given) es).calls[k]? = some call) :
    Tells (create platform name given) es k call :=
  @Machine.run_history _ _ step _
    (fun es s => ∀ (k : ℕ) (call : AuthCall), s.calls[k]? = some call →
      Tells (create platform name given) es k call) (fun _ _ hnone => by cases hnone)
    (fun _ e h => tells_step h e) es k call hcall

/-- What is granted stays so. -/
theorem Grants.append {name : JsString} {k : ℕ} {request : AuthRequest} {auth : AuthContext}
    (h : Grants platform name given es k request auth) (fs : List AuthServiceEvent) :
    Grants platform name given (es ++ fs) k request auth := by
  obtain ⟨call, granted, hcall, hrequest, hsettled, hnarrow, hsound, htells⟩ := h
  refine ⟨call, granted, ?_, hrequest, hsettled, hnarrow, hsound, htells.append fs⟩
  rw [Machine.run_append]
  exact @Machine.run_invariant _ _ step (fun s => s.calls[k]? = some call) _ hcall
    (fun s e h => settled_step s e h (by rw [hsettled]; rfl)) fs

/-- A token that was revoked in `s` lets nobody in later: its contexts are not valid, and the calls
that are settled with one were settled so in `s`. -/
structure Bars (tokenId : JsString) (s t : AuthServiceState) : Prop where
  revoked : tokenId ∈ t.revokedTokenIds
  settled : ∀ (k : ℕ) (call : AuthCall) (auth : JwtAuthContext), t.calls[k]? = some call →
    call.settlement = some (.ok auth) → auth.tokenId = .str tokenId →
    ∃ call', s.calls[k]? = some call' ∧ call'.settlement = some (.ok auth)

theorem revokedTokenIds_step (s : AuthServiceState) (e : AuthServiceEvent) {tokenId : JsString}
    (h : tokenId ∈ s.revokedTokenIds) : tokenId ∈ (s.step e).revokedTokenIds := by
  cases e with
  | validateBearerToken token =>
    change tokenId ∈ (s.validateBearerToken token).revokedTokenIds
    unfold validateBearerToken
    split <;> exact h
  | validateSystemAuth payload => exact h
  | answer k now said =>
    change tokenId ∈ (s.answer k now said).revokedTokenIds
    unfold answer
    split
    · exact h
    · split <;> exact h
  | revoke revoked => exact List.mem_append_left _ h
  | applyRuntimeAuthTrust trust =>
    change tokenId ∈ (s.applyRuntimeAuthTrust trust).revokedTokenIds
    unfold applyRuntimeAuthTrust
    split <;> exact h

theorem isRevoked_of_mem {tokenId : JsString} (h : tokenId ∈ s.revokedTokenIds) :
    s.service.isRevoked (.str tokenId) = true := by
  refine List.any_eq_true.2 ⟨tokenId, h, ?_⟩
  simp [Json.strictEquals]

/-- The list of revoked tokens is read when the provider has answered. -/
theorem tokenId_received {call : AuthCall} (hnone : call.settlement = none) {answer : AuthAnswer}
    {auth : JwtAuthContext} (h : (s.received call answer).settlement = some (.ok auth))
    {tokenId : JsString} (hrevoked : tokenId ∈ s.revokedTokenIds) :
    auth.tokenId ≠ .str tokenId := by
  intro heq
  cases hresult : answer.result with
  | ok auth' =>
    obtain ⟨hfree, hsettled⟩ | ⟨-, hsettled⟩ := validateSystemAuth_cases s.service auth'
    · simp only [received, hresult, hsettled, Option.some.injEq, Except.ok.injEq] at h
      rw [h, heq, isRevoked_of_mem hrevoked] at hfree
      cases hfree
    · simp [received, hresult, hsettled] at h
  | error error =>
    simp only [received, hresult] at h
    split_ifs at h
    · rw [hnone] at h
      cases h
    · simp at h

theorem Bars.step {tokenId : JsString} {t : AuthServiceState} (h : Bars tokenId s t)
    (e : AuthServiceEvent) : Bars tokenId s (t.step e) := by
  refine ⟨revokedTokenIds_step t e h.revoked, fun k call auth hcall hauth hid => ?_⟩
  obtain heq | ⟨fresh, heq, hfresh⟩ | ⟨j, old, provider, now, said, -, hold, hcurrent, heq⟩ :=
    calls_step t e
  · exact h.settled k call auth (heq ▸ hcall) hauth hid
  · rw [heq, List.getElem?_append] at hcall
    split_ifs at hcall with hk
    · exact h.settled k call auth hcall hauth hid
    · -- no call is accepted when it is made
      obtain rfl := List.mem_singleton.1 (List.mem_of_getElem? hcall)
      have hmade := hfresh.settled
      rw [hauth] at hmade
      split_ifs at hmade
      cases hmade
  · rw [heq, List.getElem?_set] at hcall
    split_ifs at hcall with hj hlt
    · cases hcall
      exact absurd hid (tokenId_received (current_eq_some hcurrent).1 hauth h.revoked)
    · exact h.settled k call auth hcall hauth hid

theorem bars_run {tokenId : JsString} (h : tokenId ∈ s.revokedTokenIds)
    (es : List AuthServiceEvent) : Bars tokenId s (Machine.run step s es) :=
  @Machine.run_invariant _ _ step (Bars tokenId s) s
    ⟨h, fun _ call _ hcall hauth _ => ⟨call, hcall, hauth⟩⟩ (fun _ e h => h.step e) es

/-- **A token that was revoked lets nobody in**, whatever is in flight and whatever is trusted
later. -/
theorem revoked_run (platform : JwtPlatform) (name : JsString) (given : List AuthProvider)
    (es es' : List AuthServiceEvent) (tokenId : JsString) :
    Bars tokenId (Machine.run step (create platform name given) (es ++ [.revoke tokenId]))
        (Machine.run step (create platform name given) (es ++ [.revoke tokenId] ++ es')) ∧
      ∀ (auth : JwtAuthContext) (now : JsNumber), auth.tokenId = .str tokenId →
        (Machine.run step (create platform name given)
          (es ++ [.revoke tokenId] ++ es')).service.isAuthContextValid auth now = false := by
  have hrevoked : tokenId ∈ (Machine.run step (create platform name given)
      (es ++ [.revoke tokenId])).revokedTokenIds := by
    rw [Machine.run_concat]
    exact List.mem_append_right _ (List.mem_singleton_self _)
  have hbars := bars_run hrevoked es'
  rw [← Machine.run_append] at hbars
  refine ⟨hbars, fun auth now hid => ?_⟩
  rw [RuntimeAuthService.isAuthContextValid, hid, isRevoked_of_mem hbars.revoked]
  rfl

end AuthServiceState

end Hardess
