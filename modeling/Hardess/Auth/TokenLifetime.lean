import Hardess.Auth.AcceptedTokens
import Hardess.Lib.JsonRoundTrip

/-!
# The lifetime of a token

The checks of `validateClaims` of `src/runtime/auth/jwt-provider.ts` on `exp` and `iat` keep the
expiry of a token that says when it was issued within the lifetime and the clock skew of its trust.
The checks are made on rounded numbers; they lose nothing as long as the limit is a safe integer.

* `latestExpiry`: the limit;
* **`respectsLifetime_of_iat`**: an accepted token with a number for `iat` keeps to it.
-/

namespace Hardess

/-- The latest expiry that the policy of a trust allows, in seconds. -/
def RuntimeAuthTokenIssuerTrust.latestExpiry (trust : RuntimeAuthTokenIssuerTrust) (seconds : ℕ) :
    ℕ :=
  seconds + trust.maxTokenTtlSec.getD (15 * 60) + 2 * trust.clockSkewSec.getD 30

variable {trust : RuntimeAuthTokenIssuerTrust} {now exp iat : JsNumber} {payload : Json}
  {seconds : ℕ}

/-! ### The checks on numbers -/

theorem number?_eq_some_iff {value : Option Json} {x : JsNumber} :
    Json.number? value = some x ↔ value = some (.num x) := by
  cases value with
  | none => simp [Json.number?]
  | some value => cases value <;> simp [Json.number?]

theorem finite_sub_ofNat (x : Float64) {k : ℕ} (hk : k < 2 ^ 53) :
    (JsNumber.finite x).sub (.ofNat k) = .ofRat (x.val - k) := by
  obtain ⟨hq, he⟩ := JsNumber.ofNat_eq hk
  rw [JsNumber.sub, he, JsNumber.neg, JsNumber.finite_add, sub_eq_add_neg]
  rfl

/-- A token that was not issued later was issued before the skew runs out. -/
theorem iat_le_of_not_isIssuedLater (hnow : nowSec now = .ofNat seconds)
    (hsafe : seconds + trust.clockSkewSec.getD 30 < 2 ^ 53) {y : Float64}
    (hiat : Json.number? (payload.get? (js "iat")) = some (.finite y))
    (h : isIssuedLater trust now payload = false) :
    y.val ≤ ((seconds + trust.clockSkewSec.getD 30 : ℕ) : ℚ) := by
  rw [isIssuedLater, hiat, Option.any_some, hnow, RuntimeAuthTokenIssuerTrust.clockSkew,
    finite_sub_ofNat y (by omega)] at h
  exact JsNumber.le_of_not_lt_ofRat hsafe le_rfl h

/-- A token with a lifetime within the policy expires soon after it was issued. -/
theorem exp_le_of_not_exceedsTtl {k : ℕ} (hsafe : trust.maxTokenTtlSec.getD (15 * 60) +
    trust.clockSkewSec.getD 30 + k < 2 ^ 53) {x y : Float64} (hy : y.val ≤ k)
    (hiat : Json.number? (payload.get? (js "iat")) = some (.finite y))
    (h : exceedsTtl trust (.finite x) payload = false) :
    x.val ≤ ((trust.maxTokenTtlSec.getD (15 * 60) + trust.clockSkewSec.getD 30 + k : ℕ) : ℚ) := by
  rw [exceedsTtl, hiat, Option.any_some, RuntimeAuthTokenIssuerTrust.maxTokenTtl,
    RuntimeAuthTokenIssuerTrust.clockSkew, JsNumber.ofNat_add (by omega), JsNumber.sub,
    JsNumber.neg, JsNumber.finite_add] at h
  refine JsNumber.le_of_not_lt_ofRat hsafe ?_ h
  have hneg : (JsNumber.negFinite y).val = -y.val := rfl
  rw [hneg]
  linarith

/-- The checks let no infinite claims through. -/
theorem finite_of_checks (hnow : nowSec now = .ofNat seconds)
    (hsafe : trust.latestExpiry seconds < 2 ^ 53) (hexp : exp ≠ .nan) (hnan : iat ≠ .nan)
    (hiat : Json.number? (payload.get? (js "iat")) = some iat)
    (hexpired : isExpired trust now exp = false) (httl : exceedsTtl trust exp payload = false)
    (hissued : isIssuedLater trust now payload = false) :
    (∃ x, exp = .finite x) ∧ ∃ y, iat = .finite y := by
  unfold RuntimeAuthTokenIssuerTrust.latestExpiry at hsafe
  obtain ⟨hs, hse⟩ := JsNumber.ofNat_eq (n := seconds) (by omega)
  obtain ⟨hk, hke⟩ := JsNumber.ofNat_eq (n := trust.clockSkewSec.getD 30) (by omega)
  have hlimit := JsNumber.ofNat_eq
    (n := trust.maxTokenTtlSec.getD (15 * 60) + trust.clockSkewSec.getD 30) (by omega)
  obtain ⟨hl, hle⟩ := hlimit
  rw [isExpired, hnow, hse, RuntimeAuthTokenIssuerTrust.clockSkew, hke] at hexpired
  rw [isIssuedLater, hiat, Option.any_some, hnow, hse, RuntimeAuthTokenIssuerTrust.clockSkew,
    hke] at hissued
  rw [exceedsTtl, hiat, Option.any_some, RuntimeAuthTokenIssuerTrust.maxTokenTtl,
    RuntimeAuthTokenIssuerTrust.clockSkew, JsNumber.ofNat_add (by omega), hle] at httl
  -- an infinite `iat` is too late, or makes the lifetime too long
  have hiatFinite : ∃ y, iat = .finite y := by
    cases iat with
    | finite y => exact ⟨y, rfl⟩
    | posInfinity => simp [JsNumber.sub, JsNumber.neg, JsNumber.add, JsNumber.lt] at hissued
    | negInfinity =>
      cases exp with
      | nan => exact absurd rfl hexp
      | finite x => simp [JsNumber.sub, JsNumber.neg, JsNumber.add, JsNumber.lt] at httl
      | posInfinity => simp [JsNumber.sub, JsNumber.neg, JsNumber.add, JsNumber.lt] at httl
      | negInfinity => simp [JsNumber.add, JsNumber.ge, JsNumber.lt] at hexpired
    | nan => exact absurd rfl hnan
  refine ⟨?_, hiatFinite⟩
  obtain ⟨y, rfl⟩ := hiatFinite
  cases exp with
  | finite x => exact ⟨x, rfl⟩
  | posInfinity => simp [JsNumber.sub, JsNumber.neg, JsNumber.add, JsNumber.lt] at httl
  | negInfinity => simp [JsNumber.add, JsNumber.ge, JsNumber.lt] at hexpired
  | nan => exact absurd rfl hexp

/-! ### Accepted tokens -/

namespace JwtIssuerAuthProvider

variable (provider : JwtIssuerAuthProvider)

/-- What a verified token consists of. -/
theorem exists_of_verifiedPayload {cache : JwksCache} {token : JsString}
    (h : (provider.verifiedPayload cache now token).2 = .ok (payload, trust)) :
    ∃ encodedHeader encodedPayload encodedSignature header,
      token.splitOn (unit '.') = [encodedHeader, encodedPayload, encodedSignature] ∧
        provider.parseJwtJson encodedHeader (js "Invalid JWT header") = .ok header ∧
        provider.parseJwtJson encodedPayload (js "Invalid JWT payload") = .ok payload ∧
        provider.resolveIssuerTrust payload header = .ok trust ∧
        (provider.verifySignature cache now trust header
          (encodedHeader ++ js "." ++ encodedPayload) encodedSignature).2 = .ok () := by
  unfold verifiedPayload at h
  split at h
  · rename_i encodedHeader encodedPayload encodedSignature hparts
    dsimp only at h
    split at h
    · cases h
    · rename_i hparsed
      simp only [except_bind_ok_iff, Except.ok.injEq, Prod.mk.injEq] at hparsed
      obtain ⟨header, hheader, payload', hpayload, trust', htrust, rfl, rfl, rfl⟩ := hparsed
      cases hverified : provider.verifySignature cache now trust' header
        (encodedHeader ++ js "." ++ encodedPayload) encodedSignature with
      | mk cache' verified =>
        rw [hverified] at h
        cases verified with
        | error error => cases h
        | ok _ =>
          cases h
          exact ⟨_, _, _, _, hparts, hheader, hpayload, htrust, by rw [hverified]⟩
  · cases h

theorem notNan_of_parseJwtJson {encoded message : JsString}
    (h : provider.parseJwtJson encoded message = .ok payload) : payload.NotNan := by
  unfold parseJwtJson at h
  split at h
  · cases h
  · rename_i value hparse
    cases h
    exact Json.notNan_of_parse hparse

/-- The token keeps to the lifetime policy of its trust, if it is accepted: its `exp` is a finite
number up to the limit. -/
def RespectsLifetime (cache : JwksCache) (now : JsNumber) (seconds : ℕ) (token : JsString) : Prop :=
  ∀ auth payload trust, (provider.validateBearerToken cache now token).2 = .ok auth →
    (provider.verifiedPayload cache now (normalized token)).2 = .ok (payload, trust) →
    ∃ exp : Float64, payload.get? (js "exp") = some (.num (.finite exp)) ∧
      exp.val ≤ (trust.latestExpiry seconds : ℚ)

/-- The token has a number for `iat`, and the limit of its trust is a safe integer. -/
def StatesIssue (cache : JwksCache) (now : JsNumber) (seconds : ℕ) (token : JsString) : Prop :=
  ∀ payload trust,
    (provider.verifiedPayload cache now (normalized token)).2 = .ok (payload, trust) →
    (∃ iat, payload.get? (js "iat") = some (.num iat)) ∧ trust.latestExpiry seconds < 2 ^ 53

/-- **An accepted token that says when it was issued keeps to the lifetime policy**, whatever other
claims it has. -/
theorem respectsLifetime_of_iat (cache : JwksCache) {now : JsNumber} {seconds : ℕ}
    (hnow : nowSec now = .ofNat seconds) {token : JsString}
    (hiat : provider.StatesIssue cache now seconds token) :
    provider.RespectsLifetime cache now seconds token := by
  intro auth payload trust haccepted hverified
  obtain ⟨⟨iat, hiat⟩, hsafe⟩ := hiat payload trust hverified
  obtain ⟨payload', trust', hverified', hcontext⟩ :=
    (provider.validateBearerToken_ok_iff).1 haccepted
  rw [hverified] at hverified'
  cases hverified'
  obtain ⟨hclaims, -⟩ := contextOf_ok_iff.1 hcontext
  obtain ⟨exp, hexp, hexpired, -, -, httl, hissued, -⟩ := validateClaims_ok_iff.1 hclaims
  -- the numbers of the payload come from `JSON.parse`
  obtain ⟨_, _, _, _, -, -, hpayload, -⟩ := provider.exists_of_verifiedPayload hverified
  have hnan := (provider.notNan_of_parseJwtJson hpayload).2
  have hexp' := number?_eq_some_iff.1 hexp
  have hiat' := number?_eq_some_iff.2 hiat
  obtain ⟨⟨x, rfl⟩, y, rfl⟩ := finite_of_checks hnow hsafe (hnan _ _ hexp') (hnan _ _ hiat) hiat'
    hexpired httl hissued
  unfold RuntimeAuthTokenIssuerTrust.latestExpiry at hsafe ⊢
  have hy := iat_le_of_not_isIssuedLater hnow (by omega) hiat' hissued
  have hx := exp_le_of_not_exceedsTtl (by omega) hy hiat' httl
  refine ⟨x, hexp', hx.trans ?_⟩
  exact_mod_cast (by omega)

/-! ### Tokens of one issuer -/

/-- A token that was issued at 50 s and expires at 100 s. -/
def issuedToken : JsString :=
  js "eyJhbGciOiJSUzI1NiJ9.eyJpc3MiOiJpIiwiYXVkIjoiYSIsInN1YiI6InUiLCJleHAiOjEwMCwiaWF0Ijo1MH0.c2ln"

theorem respectsLifetime_issuedToken :
    oneIssuer.RespectsLifetime .empty (.ofNat 60000) 60 issuedToken := by
  refine respectsLifetime_of_iat oneIssuer .empty (by decide +kernel) ?_
  intro payload trust hverified
  have hall : (oneIssuer.verifiedPayload .empty (.ofNat 60000)
      (normalized issuedToken)).2.toOption.all fun p =>
        (Json.number? (p.1.get? (js "iat"))).isSome && p.2.latestExpiry 60 < 2 ^ 53 := by
    decide +kernel
  rw [hverified] at hall
  simp only [Except.toOption, Option.all_some, Bool.and_eq_true, decide_eq_true_eq,
    Option.isSome_iff_exists, number?_eq_some_iff] at hall
  exact hall

/-- A token that expires at 100000 s and does not say when it was issued. -/
def lastingToken : JsString :=
  js "eyJhbGciOiJSUzI1NiJ9.eyJpc3MiOiJpIiwiYXVkIjoiYSIsInN1YiI6InUiLCJleHAiOjEwMDAwMH0.c2ln"

/-- A provider whose policy is at the largest safe integer. -/
def wideIssuer : JwtIssuerAuthProvider where
  trust :=
    { tokenIssuers :=
      [{ issuer := js "i", audiences := [js "a"]
         publicKeys := some [{ kid := js "k", alg := js "RS256", pem := js "pem" }]
         clockSkewSec := some 4, maxTokenTtlSec := some (2 ^ 53 - 1) }] }
  platform := asciiPlatform

/-- A token that was issued at 4 s and expires at `2 ^ 53 + 8` s. -/
def wideToken : JsString :=
  js "eyJhbGciOiJSUzI1NiJ9." ++
    js "eyJpc3MiOiJpIiwiYXVkIjoiYSIsInN1YiI6InUiLCJleHAiOjkwMDcxOTkyNTQ3NDEwMDAsImlhdCI6NH0.c2ln"

/-- An accepted token that expires later. -/
def expiresLater (cache : JwksCache) (now : JsNumber) (seconds : ℕ) (token : JsString) : Bool :=
  (provider.validateBearerToken cache now token).2.toOption.isSome &&
    (provider.verifiedPayload cache now (normalized token)).2.toOption.any fun p =>
      match p.1.get? (js "exp") with
      | some (.num (.finite exp)) => decide ((p.2.latestExpiry seconds : ℚ) < exp.val)
      | _ => false

theorem not_respectsLifetime_of_expiresLater {cache : JwksCache} {now : JsNumber} {seconds : ℕ}
    {token : JsString} (h : provider.expiresLater cache now seconds token = true) :
    ¬provider.RespectsLifetime cache now seconds token := by
  intro hrespects
  rw [expiresLater, Bool.and_eq_true] at h
  obtain ⟨haccepted, hlater⟩ := h
  cases hauth : (provider.validateBearerToken cache now token).2 with
  | error error => simp [hauth, Except.toOption] at haccepted
  | ok auth =>
    cases hp : (provider.verifiedPayload cache now (normalized token)).2 with
    | error error => simp [hp, Except.toOption] at hlater
    | ok p =>
      obtain ⟨exp, hexp, hle⟩ := hrespects auth p.1 p.2 hauth hp
      simp only [hp, Except.toOption, Option.any_some, hexp, decide_eq_true_eq] at hlater
      exact absurd hle (not_le.2 hlater)

/-- At the time 0 a token without `iat` is accepted long before it expires, and under a policy at
the limit of the safe integers the rounding lets a token through. -/
theorem not_respectsLifetime :
    nowSec (.ofNat 0) = .ofNat 0 ∧
      ¬oneIssuer.RespectsLifetime .empty (.ofNat 0) 0 lastingToken ∧
      ¬wideIssuer.RespectsLifetime .empty (.ofNat 0) 0 wideToken :=
  ⟨by decide +kernel, oneIssuer.not_respectsLifetime_of_expiresLater (by decide +kernel),
    wideIssuer.not_respectsLifetime_of_expiresLater (by decide +kernel)⟩

end JwtIssuerAuthProvider

end Hardess
