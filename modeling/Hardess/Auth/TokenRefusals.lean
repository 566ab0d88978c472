import Hardess.Auth.AuthService

/-!
# What the service refuses

`RuntimeAuthService` and its providers never call a payload malformed that
`bearerSysAuthPayloadSchema` accepts, unless a provider of another kind does.

* `Understood`: what a computation throws does not say that its input was malformed;
* `understood_validateBearerToken`: the token provider, when the platform throws nothing of the kind;
* **`not_malformed_of_settled`**: a call of the service, in every run.
-/

namespace Hardess

/-! ### Errors -/

/-- The error says that a message or its payload was malformed. -/
def Thrown.Malformed (thrown : Thrown) : Prop :=
  thrown.normalized.code = .PROTO_INVALID_PAYLOAD ∨ thrown.normalized.code = .PROTO_UNKNOWN_ACTION

/-- Nothing that is thrown says that something was malformed. -/
def Understood {α : Type} (x : Except Thrown α) : Prop :=
  ∀ error, x = .error error → ¬error.Malformed

theorem not_malformed_invalidToken (message : JsString) : ¬(invalidToken message).Malformed := by
  simp [Thrown.Malformed, Thrown.normalized, invalidToken]

theorem not_malformed_typeError : ¬typeError.Malformed := by
  simp [Thrown.Malformed, Thrown.normalized, typeError]

section Understood

variable {α β : Type}

theorem understood_ok (a : α) : Understood (.ok a : Except Thrown α) := fun _ h => by cases h

theorem understood_error {error : Thrown} (h : ¬error.Malformed) :
    Understood (.error error : Except Thrown α) := fun _ heq => by
  cases heq
  exact h

/-- One computation after another. -/
theorem Understood.bind {x : Except Thrown α} {f : α → Except Thrown β} (h : Understood x)
    (hf : ∀ a, Understood (f a)) : Understood (x.bind f) := by
  cases x with
  | error error => exact understood_error (h error rfl)
  | ok a => exact hf a

theorem Understood.map {x : Except Thrown α} (h : Understood x) (f : α → β) :
    Understood (x.map f) := by
  cases x with
  | error error => exact understood_error (h error rfl)
  | ok a => exact understood_ok (f a)

theorem understood_check {ok : Bool} {error : Thrown} (h : ¬error.Malformed) :
    Understood (check ok error) := by
  unfold check
  split_ifs
  · exact understood_ok ()
  · exact understood_error h

theorem understood_template (value : Json) : Understood (template value) := by
  unfold template
  split
  · exact understood_error not_malformed_typeError
  · exact understood_ok _

theorem understood_property (value : Json) (key : JsString) : Understood (property value key) := by
  unfold property
  split
  · exact understood_error not_malformed_typeError
  · exact understood_ok _

end Understood

/-! ### Claims -/

theorem understood_validateClaims (trust : RuntimeAuthTokenIssuerTrust) (now : JsNumber)
    (payload : Json) : Understood (validateClaims trust now payload) := by
  have hinvalid {ok : Bool} {message : JsString} : Understood (check ok (invalidToken message)) :=
    understood_check (not_malformed_invalidToken message)
  have hexpired : ¬(Thrown.hardess
      { code := .AUTH_EXPIRED_TOKEN, message := js "JWT has expired" }).Malformed := by
    simp [Thrown.Malformed, Thrown.normalized]
  refine hinvalid.bind fun _ => ?_
  split
  · exact understood_error hexpired
  · refine (understood_check hexpired).bind fun _ => hinvalid.bind fun _ =>
      hinvalid.bind fun _ => hinvalid.bind fun _ => ?_
    split
    · exact understood_ok ()
    · exact understood_error (not_malformed_invalidToken _)

theorem understood_resolveCapabilities (payload : Json) :
    Understood (resolveCapabilities payload) := by
  unfold resolveCapabilities
  dsimp only
  split
  · exact (understood_ok _).bind fun _ => understood_ok _
  · exact (understood_ok _).bind fun _ => understood_ok _
  · exact (understood_error not_malformed_typeError).bind fun _ => understood_ok _

theorem understood_tokenIdOf (payload : Json) (peerId : JsString) :
    Understood (tokenIdOf payload peerId) := by
  unfold tokenIdOf
  split
  · exact (understood_template _).bind fun _ => (understood_template _).bind fun _ =>
      understood_ok _
  · exact (understood_template _).bind fun _ => (understood_template _).bind fun _ =>
      understood_ok _
  · exact understood_ok _

theorem understood_contextOf (trust : RuntimeAuthTokenIssuerTrust) (now : JsNumber)
    (payload : Json) : Understood (contextOf trust now payload) := by
  refine (understood_validateClaims trust now payload).bind fun _ => ?_
  split
  · exact understood_error (not_malformed_invalidToken _)
  · exact (understood_tokenIdOf _ _).bind fun _ =>
      (understood_resolveCapabilities payload).bind fun _ => understood_ok _

/-! ### The token provider -/

/-- The platform itself throws nothing that says so. -/
structure JwtPlatform.Plain (platform : JwtPlatform) : Prop where
  fetched : ∀ url, Understood (platform.fetchFn url)
  json : ∀ url response, platform.fetchFn url = .ok response → Understood response.json

namespace JwtIssuerAuthProvider

variable {provider : JwtIssuerAuthProvider} {cache : JwksCache} {now : JsNumber} {header : Json}
  {trust : RuntimeAuthTokenIssuerTrust}

theorem understood_parseJwtJson (encoded message : JsString) :
    Understood (provider.parseJwtJson encoded message) := by
  unfold parseJwtJson
  split
  · exact understood_error (not_malformed_invalidToken _)
  · exact understood_ok _

theorem understood_resolveIssuerTrust (payload : Json) :
    Understood (provider.resolveIssuerTrust payload header) := by
  refine (understood_property _ _).bind fun issuer =>
    (understood_check (not_malformed_invalidToken _)).bind fun _ => ?_
  dsimp only
  split
  · exact (understood_template _).bind fun _ => understood_error (not_malformed_invalidToken _)
  · refine (understood_property _ _).bind fun alg => ?_
    split_ifs
    · exact understood_ok _
    · exact (understood_template _).bind fun _ => understood_error (not_malformed_invalidToken _)

theorem understood_fetchJwks (hplain : provider.platform.Plain) (url : JsString) :
    Understood (provider.fetchJwks cache now url).2 := by
  unfold fetchJwks
  split
  · exact understood_ok _
  · dsimp only
    split
    · rename_i error herror
      cases hresponse : provider.platform.fetchFn url with
      | error thrown =>
        obtain rfl : thrown = error := by
          rw [hresponse] at herror
          exact Except.error.inj herror
        exact understood_error (hplain.fetched url thrown hresponse)
      | ok response =>
        rw [hresponse] at herror
        refine understood_error ((?_ : Understood _) error herror)
        refine (understood_check (not_malformed_invalidToken _)).bind fun _ =>
          (hplain.json url response hresponse).bind fun body =>
            (understood_property _ _).bind fun keys => ?_
        split <;> exact understood_ok _
    · exact understood_ok _

theorem understood_fitsHeader (key : Json) : Understood (fitsHeader header key) := by
  have hrest (alg : Json) (kidFits : Bool) : Understood (if kidFits && alg.truthy then
      (property key (js "alg")).map fun keyAlg =>
        let keyAlg := orElse keyAlg .null
        !keyAlg.truthy || keyAlg.strictEquals alg
      else .ok kidFits) := by
    split_ifs
    · exact (understood_property _ _).map _
    · exact understood_ok _
  unfold fitsHeader
  dsimp only
  split_ifs
  · exact ((understood_property _ _).map _).bind (hrest _)
  · exact (understood_ok _).bind (hrest _)

theorem understood_filterM (keys fitting : List Json) :
    Understood (List.filterAuxM (fitsHeader header) keys fitting) := by
  induction keys generalizing fitting with
  | nil => exact understood_ok _
  | cons key keys ih => exact (understood_fitsHeader key).bind fun _ => ih _

theorem understood_verifySignature (hplain : provider.platform.Plain)
    (signingInput signature : JsString) :
    Understood (provider.verifySignature cache now trust header signingInput signature).2 := by
  have hkeys : Understood (provider.resolveVerificationKeys cache now trust header).2 := by
    unfold resolveVerificationKeys
    dsimp only
    split_ifs
    · exact understood_ok _
    · split
      · exact understood_ok _
      · rename_i url hurl
        exact (understood_fetchJwks hplain url).bind fun keys =>
          Understood.map ((understood_filterM keys []).bind fun _ => understood_ok _) _
  unfold verifySignature
  dsimp only
  split_ifs
  · exact (understood_template _).bind fun _ => understood_error (not_malformed_invalidToken _)
  · exact hkeys.bind fun _ => understood_check (not_malformed_invalidToken _)

/-- **The token provider never calls a token malformed.** -/
theorem understood_validateBearerToken (hplain : provider.platform.Plain) (token : JsString) :
    Understood (provider.validateBearerToken cache now token).2 := by
  refine Understood.bind ?_ fun p => understood_contextOf p.2 now p.1
  dsimp only [validateJwt, verifiedPayload]
  split
  · rename_i encodedHeader encodedPayload encodedSignature _
    have hparsed : Understood (do
        let header ← provider.parseJwtJson encodedHeader (js "Invalid JWT header")
        let payload ← provider.parseJwtJson encodedPayload (js "Invalid JWT payload")
        let trust ← provider.resolveIssuerTrust payload header
        (.ok (header, payload, trust) :
          Except Thrown (Json × Json × RuntimeAuthTokenIssuerTrust))) :=
      (understood_parseJwtJson _ _).bind fun header => (understood_parseJwtJson _ _).bind
        fun payload => (understood_resolveIssuerTrust payload).bind fun _ => understood_ok _
    split
    · rename_i error herror
      exact understood_error (hparsed error herror)
    · exact (understood_verifySignature hplain _ _).map _
  · exact understood_error (not_malformed_invalidToken _)

end JwtIssuerAuthProvider

/-! ### The service -/

/-- No provider of another kind says that the payload was malformed. -/
def AuthCall.Civil (call : AuthCall) : Prop :=
  ∀ (i : ℕ) (answer : AuthAnswer) (name : JsString) (id : ℕ), call.answers[i]? = some answer →
    call.providers[i]? = some (.external name id) → Understood answer.result

variable {platform : JwtPlatform} {given : List AuthProvider}

theorem understood_demoValidate (now : JsNumber) (token : JsString) :
    Understood (demoValidate now token) := by
  unfold demoValidate
  dsimp only
  split
  · split_ifs
    · exact understood_error (not_malformed_invalidToken _)
    · exact understood_ok _
  · exact understood_error (not_malformed_invalidToken _)

/-- A provider that is given a token. -/
theorem understood_ask (hplain : platform.Plain) {provider : AuthProvider}
    (hkind : ∀ name id, provider ≠ .external name id) {request : AuthRequest} {token : JsString}
    (htoken : request.token platform = .ok token) (caches : List JwksCache) (now : JsNumber)
    (said : Except Thrown JwtAuthContext) :
    Understood (provider.ask platform caches request now said).2 := by
  cases provider with
  | demo =>
    rw [AuthProvider.ask, htoken]
    exact understood_demoValidate now token
  | jwt trust cache =>
    rw [AuthProvider.ask, htoken]
    exact @JwtIssuerAuthProvider.understood_validateBearerToken ⟨trust, platform, _⟩ _ now hplain
      token
  | external name id => exact absurd rfl (hkind name id)

/-- **A call with a payload that has a token is not refused as malformed.** -/
theorem not_malformed_of_settled (hplain : platform.Plain) {call : AuthCall}
    (h : call.Sound platform given) (hcivil : call.Civil) {payload : SysAuthPayload}
    (hrequest : call.request = .system payload) {token : JsString}
    (htoken : (AuthRequest.system payload).token platform = .ok token) {error : Thrown}
    (hsettled : call.settlement = some (.error error)) : ¬error.Malformed := by
  cases h.settled _ hsettled with
  | unanswerable =>
    rw [hrequest]
    exact not_malformed_invalidToken _
  | @refused answer later _ _ ha _ he =>
    -- the error is that of the first provider
    have hget : call.answers[0]? = some answer := by rw [ha, List.getElem?_cons_zero]
    obtain ⟨provider, said, hprovider, hresult⟩ := h.answered 0 answer hget
    by_cases hkind : ∃ name id, provider = .external name id
    · obtain ⟨name, id, rfl⟩ := hkind
      exact hcivil 0 answer name id hget hprovider error he
    · rw [hrequest] at hresult
      exact understood_ask hplain (fun name id heq => hkind ⟨name, id, heq⟩) htoken _ _ _ error
        (hresult.symm.trans he)
  | revoked => simp [Thrown.Malformed, Thrown.normalized, revokedError]

end Hardess
