import Hardess.Auth.JwtProvider

/-!
# Accepted tokens

The provider lets a token be as old as the clock skew, in seconds; `isAuthContextValid` compares
milliseconds and knows no skew.

* `OtherwiseAccepted`: the checks of a verified token that do not look at its expiry;
* `contextOf_ok_iff`: a token is accepted when it passes them and has not expired for the provider;
* `acceptedIsValid_iff`: the two agree on a token exactly when it does not expire between the two
  limits.
-/

namespace Hardess

/-! ### Checks -/

@[simp] theorem check_ok_iff {ok : Bool} {error : Thrown} {u : Unit} :
    check ok error = .ok u ↔ ok = true := by
  unfold check
  split_ifs with h <;> simp [h]

theorem except_bind_ok_iff {α β : Type} {x : Except Thrown α} {f : α → Except Thrown β} {b : β} :
    (x >>= f) = .ok b ↔ ∃ a, x = .ok a ∧ f a = .ok b := by
  cases x with
  | error error => exact ⟨fun h => (by cases h), fun ⟨_, h, _⟩ => by cases h⟩
  | ok a => exact ⟨fun h => ⟨a, rfl, h⟩, fun ⟨a', h, hf⟩ => by cases h; exact hf⟩

/-- **What `validateClaims` accepts.** -/
theorem validateClaims_ok_iff {trust : RuntimeAuthTokenIssuerTrust} {now : JsNumber} {payload : Json} :
    validateClaims trust now payload = .ok () ↔
      ∃ exp, Json.number? (payload.get? (js "exp")) = some exp ∧ isExpired trust now exp = false ∧
        matchesAudience (payload.get? (js "aud")) trust.audiences = true ∧
        isTooEarly trust now payload = false ∧ exceedsTtl trust exp payload = false ∧
        isIssuedLater trust now payload = false ∧ missingClaim trust payload = none := by
  unfold validateClaims
  simp only [except_bind_ok_iff, check_ok_iff]
  cases hexp : Json.number? (payload.get? (js "exp")) with
  | none => simp
  | some exp =>
    simp only [except_bind_ok_iff, check_ok_iff, Bool.not_eq_true', Option.some.injEq]
    cases missingClaim trust payload with
    | some claim => simp
    | none =>
      constructor
      · rintro ⟨-, haudience, -, hexpired, -, hearly, -, httl, -, hissued, -⟩
        exact ⟨exp, rfl, hexpired, haudience, hearly, httl, hissued, rfl⟩
      · rintro ⟨_, rfl, hexpired, haudience, hearly, httl, hissued, -⟩
        exact ⟨(), haudience, (), hexpired, (), hearly, (), httl, (), hissued, rfl⟩

/-- What the provider and the service ask of a verified payload, apart from its expiry. -/
structure OtherwiseAccepted (service : RuntimeAuthService) (trust : RuntimeAuthTokenIssuerTrust)
    (now exp : JsNumber) (payload : Json) : Prop where
  audience : matchesAudience (payload.get? (js "aud")) trust.audiences = true
  notTooEarly : isTooEarly trust now payload = false
  ttl : exceedsTtl trust exp payload = false
  issued : isIssuedLater trust now payload = false
  claims : missingClaim trust payload = none
  context : ∃ peerId ∈ resolvePeerId payload, ∃ tokenId, tokenIdOf payload peerId = .ok tokenId ∧
    service.isRevoked tokenId = false ∧ ∃ capabilities, resolveCapabilities payload = .ok capabilities

/-- **What becomes a context**: a payload whose claims are accepted, with a peer, a token id and
capabilities. -/
theorem contextOf_ok_iff {trust : RuntimeAuthTokenIssuerTrust} {now : JsNumber} {payload : Json}
    {auth : JwtAuthContext} :
    contextOf trust now payload = .ok auth ↔
      validateClaims trust now payload = .ok () ∧
        ∃ peerId ∈ resolvePeerId payload, ∃ tokenId, tokenIdOf payload peerId = .ok tokenId ∧
          ∃ capabilities, resolveCapabilities payload = .ok capabilities ∧
            auth =
              { peerId, tokenId, capabilities
                expiresAt := ((Json.number? (payload.get? (js "exp"))).getD .nan).timesNat 1000
                groupId := Json.string? (payload.get? (js "workspaceId")) } := by
  unfold contextOf
  rw [except_bind_ok_iff]
  cases resolvePeerId payload with
  | none => simp
  | some peerId =>
    simp only [except_bind_ok_iff]
    constructor
    · rintro ⟨_, hclaims, tokenId, htoken, capabilities, hcapabilities, hauth⟩
      cases hauth
      exact ⟨hclaims, peerId, rfl, tokenId, htoken, capabilities, hcapabilities, rfl⟩
    · rintro ⟨hclaims, _, ⟨⟩, tokenId, htoken, capabilities, hcapabilities, rfl⟩
      exact ⟨(), hclaims, tokenId, htoken, capabilities, hcapabilities, rfl⟩

/-! ### Two checks of one expiry -/

namespace JwtIssuerAuthProvider

variable (provider : JwtIssuerAuthProvider) (service : RuntimeAuthService)

/-- What the provider accepts at a time is valid at that time, unless it was revoked. -/
def AcceptedIsValid (cache : JwksCache) (now : JsNumber) (token : JsString) : Prop :=
  ∀ auth, (provider.validateBearerToken cache now token).2 = .ok auth →
    service.isRevoked auth.tokenId = false → service.isAuthContextValid auth now = true

theorem validateBearerToken_ok_iff {cache : JwksCache} {now : JsNumber} {token : JsString}
    {auth : JwtAuthContext} :
    (provider.validateBearerToken cache now token).2 = .ok auth ↔
      ∃ payload trust, (provider.verifiedPayload cache now (normalized token)).2 =
        .ok (payload, trust) ∧ contextOf trust now payload = .ok auth := by
  have hbind : (provider.validateBearerToken cache now token).2 =
      ((provider.verifiedPayload cache now (normalized token)).2 >>= fun p =>
        contextOf p.2 now p.1) := rfl
  rw [hbind, except_bind_ok_iff]
  exact ⟨fun ⟨p, hp, hauth⟩ => ⟨p.1, p.2, hp, hauth⟩,
    fun ⟨payload, trust, hp, hauth⟩ => ⟨(payload, trust), hp, hauth⟩⟩

/-- **When acceptance and validity agree on a token**: a token that passes every other check is still
valid by its `exp` in milliseconds, or has expired for the provider too. -/
theorem acceptedIsValid_iff (cache : JwksCache) (now : JsNumber) (token : JsString) :
    provider.AcceptedIsValid service cache now token ↔
      ∀ payload trust exp, (provider.verifiedPayload cache now (normalized token)).2 =
          .ok (payload, trust) →
        Json.number? (payload.get? (js "exp")) = some exp →
        OtherwiseAccepted service trust now exp payload →
        now.lt (exp.timesNat 1000) = true ∨ isExpired trust now exp = true := by
  constructor
  · intro h payload trust exp hverified hexp hothers
    by_contra hneither
    obtain ⟨hlate, hnotExpired⟩ := not_or.1 hneither
    obtain ⟨peerId, hpeer, tokenId, htoken, hrevoked, capabilities, hcapabilities⟩ :=
      hothers.context
    -- the provider accepts the token
    have hclaims : validateClaims trust now payload = .ok () :=
      validateClaims_ok_iff.2 ⟨exp, hexp, by simpa using hnotExpired, hothers.audience,
        hothers.notTooEarly, hothers.ttl, hothers.issued, hothers.claims⟩
    have hcontext := contextOf_ok_iff.2
      ⟨hclaims, peerId, hpeer, tokenId, htoken, capabilities, hcapabilities, rfl⟩
    have hvalid := h _ ((provider.validateBearerToken_ok_iff).2
      ⟨payload, trust, hverified, hcontext⟩) hrevoked
    simp only [RuntimeAuthService.isAuthContextValid, hexp, Option.getD_some,
      Bool.and_eq_true] at hvalid
    exact hlate hvalid.2
  · intro h auth haccepted hrevoked
    obtain ⟨payload, trust, hverified, hcontext⟩ := (provider.validateBearerToken_ok_iff).1 haccepted
    obtain ⟨hclaims, peerId, hpeer, tokenId, htoken, capabilities, hcapabilities, rfl⟩ :=
      contextOf_ok_iff.1 hcontext
    obtain ⟨exp, hexp, hnotExpired, haudience, hearly, httl, hissued, hmissing⟩ :=
      validateClaims_ok_iff.1 hclaims
    have hlimit := (h payload trust exp hverified hexp
      ⟨haudience, hearly, httl, hissued, hmissing,
        peerId, hpeer, tokenId, htoken, hrevoked, capabilities, hcapabilities⟩).resolve_right
        (by simp [hnotExpired])
    simp [RuntimeAuthService.isAuthContextValid, hrevoked, hexp, hlimit]

/-! ### A token within the clock skew -/

/-- The value of a base64 digit. -/
def base64Digit (u : UInt16) : Option ℕ :=
  let n := u.toNat
  if 65 ≤ n ∧ n ≤ 90 then some (n - 65)
  else if 97 ≤ n ∧ n ≤ 122 then some (n - 71)
  else if 48 ≤ n ∧ n ≤ 57 then some (n + 4)
  else if u = unit '+' then some 62
  else if u = unit '/' then some 63
  else none

/-- The bytes of base64 digits, up to the padding. -/
def base64Bytes : List ℕ → List UInt8
  | a :: b :: c :: d :: rest =>
    .ofNat (a * 4 + b / 16) :: .ofNat (b * 16 + c / 4) :: .ofNat (c * 64 + d) :: base64Bytes rest
  | [a, b, c] => [.ofNat (a * 4 + b / 16), .ofNat (b * 16 + c / 4)]
  | [a, b] => [.ofNat (a * 4 + b / 16)]
  | _ => []

/-- A platform for ASCII texts whose signatures are all good. -/
def asciiPlatform : JwtPlatform where
  fromBase64 s := base64Bytes (s.filterMap base64Digit)
  decode bytes := bytes.map fun b => b.toUInt16
  fetchFn _ := .error typeError
  verifies _ _ _ := true

/-- A provider that trusts one issuer. -/
def oneIssuer : JwtIssuerAuthProvider where
  trust :=
    { tokenIssuers :=
      [{ issuer := js "i", audiences := [js "a"]
         publicKeys := some [{ kid := js "k", alg := js "RS256", pem := js "pem" }] }] }
  platform := asciiPlatform

/-- A token of this issuer for the audience `a` and the subject `u`, which expires after 100 s. -/
def hundredSeconds : JsString :=
  js "eyJhbGciOiJSUzI1NiJ9.eyJpc3MiOiJpIiwiYXVkIjoiYSIsInN1YiI6InUiLCJleHAiOjEwMH0.c2ln"

/-- Ten seconds later it is accepted, but not valid. -/
theorem not_acceptedIsValid_hundredSeconds :
    ¬∀ (provider : JwtIssuerAuthProvider) (service : RuntimeAuthService) (cache : JwksCache)
      (now : JsNumber) (token : JsString), provider.AcceptedIsValid service cache now token := by
  intro h
  have hall : ((oneIssuer.validateBearerToken .empty (.ofNat 110000) hundredSeconds).2.toOption.any
      fun auth => !(RuntimeAuthService.mk []).isRevoked auth.tokenId &&
        !(RuntimeAuthService.mk []).isAuthContextValid auth (.ofNat 110000)) = true := by
    decide +kernel
  obtain ⟨auth, hauth, hinvalid⟩ := (Option.any_eq_true _ _).1 hall
  have haccepted : (oneIssuer.validateBearerToken .empty (.ofNat 110000) hundredSeconds).2 =
      .ok auth := by
    revert hauth
    cases (oneIssuer.validateBearerToken .empty (.ofNat 110000) hundredSeconds).2 with
    | error error => exact fun hnone => by cases hnone
    | ok context => exact fun hsome => by cases hsome; rfl
  simp only [Bool.and_eq_true, Bool.not_eq_true'] at hinvalid
  have hvalid := h oneIssuer ⟨[]⟩ .empty (.ofNat 110000) hundredSeconds auth haccepted hinvalid.1
  rw [hinvalid.2] at hvalid
  exact Bool.false_ne_true hvalid

end JwtIssuerAuthProvider

end Hardess
