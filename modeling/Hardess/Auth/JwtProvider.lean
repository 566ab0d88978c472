import Hardess.Ingress.WebSocket
import Hardess.Lib.JsonParse
import Hardess.Lib.NumberOrder
import Hardess.Lib.StringToNumber
import Hardess.Shared.AdminTypes

/-!
# Bearer tokens

`JwtIssuerAuthProvider` of `src/runtime/auth/jwt-provider.ts`, and the validity checks of
`RuntimeAuthService` in `src/runtime/auth/service.ts`.

* A claim of a token is whatever its JSON text holds: the declared types of `JwtPayload` are not
  checked, and so a `tokenId` or a capability may be any value (`JwtAuthContext`);
* `verifiedPayload` is `validateJwt` up to the signature, `contextOf` what follows;
* base64, UTF-8, the fetch of a key set and the verification of a signature are those of the platform
  (`JwtPlatform`). The message of a `TypeError` is not modelled.
-/

namespace JsNumber

/-- `a - b`. -/
def sub (a b : JsNumber) : JsNumber := a.add b.neg

/-- `a * n` for a positive literal. -/
def timesNat : JsNumber → ℕ → JsNumber
  | .finite x, n => .ofRat (x.val * n)
  | a, _ => a

/-- `a / n` for a positive literal. -/
def overNat : JsNumber → ℕ → JsNumber
  | .finite x, n => .ofRat (x.val / n)
  | a, _ => a

/-- `Math.floor(a)`. -/
def floor : JsNumber → JsNumber
  | .finite x => .ofRat ⌊x.val⌋
  | a => a

end JsNumber

namespace Json

/-- `Boolean(value)`. -/
def truthy : Json → Bool
  | .null => false
  | .bool b => b
  | .num x => x ≠ .nan && x ≠ .ofNat 0
  | .str s => s ≠ []
  | .arr _ => true
  | .obj _ => true

/-- `left === right`: no two objects that were parsed apart are the same. -/
def strictEquals : Json → Json → Bool
  | .null, .null => true
  | .bool a, .bool b => a = b
  | .num x, .num y => x ≠ .nan && x = y
  | .str s, .str t => s = t
  | _, _ => false

/-- `String(value)`; `none`: an own property `toString` is no function, and the conversion throws. -/
def toText? : Json → Option JsString
  | .null => some (js "null")
  | .bool true => some (js "true")
  | .bool false => some (js "false")
  | .num x => some x.text
  | .str s => some s
  | .arr xs => (elems xs).map fun texts => (texts.intersperse (js ",")).flatten
  | .obj ms => if (lookup ms (js "toString")).isSome then none else some (js "[object Object]")
where
  /-- The texts that `Array.prototype.join` joins. -/
  elems : List Json → Option (List JsString)
    | [] => some []
    | .null :: xs => (elems xs).map ([] :: ·)
    | x :: xs => do
      let text ← toText? x
      let texts ← elems xs
      some (text :: texts)

/-- The value if it is a string. -/
def string? : Option Json → Option JsString
  | some (.str s) => some s
  | _ => none

/-- The value if it is a number. -/
def number? : Option Json → Option JsNumber
  | some (.num x) => some x
  | _ => none

end Json

namespace Hardess

/-! ### Errors -/

/-- An error of the token. -/
def invalidToken (message : JsString) : Thrown := .hardess { code := .AUTH_INVALID_TOKEN, message }

/-- A `TypeError` of the language. -/
def typeError : Thrown := .other (js "TypeError")

/-- A check that throws. -/
def check (ok : Bool) (error : Thrown) : Except Thrown Unit := if ok then .ok () else .error error

/-- A value in a template literal. -/
def template (value : Json) : Except Thrown JsString :=
  match value.toText? with
  | none => .error typeError
  | some text => .ok text

/-- `value.key`: `null` has no properties. -/
def property (value : Json) (key : JsString) : Except Thrown (Option Json) :=
  match value with
  | .null => .error typeError
  | value => .ok (value.get? key)

/-- `value ?? fallback`. -/
def orElse (value : Option Json) (fallback : Json) : Json :=
  match value with
  | none => fallback
  | some .null => fallback
  | some value => value

/-! ### The platform -/

/-- A key of a trust, or one of a fetched key set. -/
inductive VerificationKey
  | pem (key : RuntimeAuthTrustPublicKey)
  | jwk (key : Json)

/-- What `fetch` answers for a key set. -/
structure JwksResponse where
  ok : Bool
  status : ℕ
  json : Except Thrown Json

/-- What the provider finds outside. -/
structure JwtPlatform where
  /-- `Buffer.from(_, "base64")`. -/
  fromBase64 : JsString → List UInt8
  /-- `new TextDecoder().decode`. -/
  decode : List UInt8 → JsString
  fetchFn : JsString → Except Thrown JwksResponse
  /-- Does a key verify the signature of a text, without a throw? -/
  verifies : VerificationKey → JsString → List UInt8 → Bool
  /-- What `formatZodError` says of a payload that `bearerSysAuthPayloadSchema` refuses. -/
  issues : SysAuthPayload → JsString := fun _ => []

/-- The key sets that were fetched, with the time. -/
abbrev JwksCache := JsMap JsString (JsNumber × List Json)

/-- What a provider is built with. -/
structure JwtIssuerAuthProvider where
  trust : RuntimeAuthTrust
  platform : JwtPlatform
  jwksCacheTtlMs : JsNumber := .ofNat 300000

/-- The `AuthContext` of a token. -/
structure JwtAuthContext where
  peerId : JsString
  tokenId : Json
  capabilities : List Json
  expiresAt : JsNumber
  groupId : Option JsString

/-! ### Claims -/

/-- `Math.floor(now / 1000)`. -/
def nowSec (now : JsNumber) : JsNumber := (now.overNat 1000).floor

namespace RuntimeAuthTokenIssuerTrust

/-- `clockSkewSec`, with `DEFAULT_CLOCK_SKEW_SEC`. -/
def clockSkew (trust : RuntimeAuthTokenIssuerTrust) : JsNumber :=
  .ofNat (trust.clockSkewSec.getD 30)

/-- `maxTokenTtlSec`, with `DEFAULT_MAX_TOKEN_TTL_SEC`. -/
def maxTokenTtl (trust : RuntimeAuthTokenIssuerTrust) : JsNumber :=
  .ofNat (trust.maxTokenTtlSec.getD (15 * 60))

end RuntimeAuthTokenIssuerTrust

/-- `matchesAudience`. -/
def matchesAudience (actual : Option Json) (accepted : List JsString) : Bool :=
  let values :=
    match actual with
    | none => []
    | some (.arr xs) => xs
    | some value => if value.truthy then [value] else []
  values.any fun value => accepted.any fun audience => value.strictEquals (.str audience)

/-- Has the token expired for `validateClaims`? -/
def isExpired (trust : RuntimeAuthTokenIssuerTrust) (now exp : JsNumber) : Bool :=
  (nowSec now).ge (exp.add trust.clockSkew)

/-- Is `nbf` a number that lies in the future? -/
def isTooEarly (trust : RuntimeAuthTokenIssuerTrust) (now : JsNumber) (payload : Json) : Bool :=
  (Json.number? (payload.get? (js "nbf"))).any fun nbf =>
    (nowSec now).lt (nbf.sub trust.clockSkew)

/-- Is `iat` a number too long before `exp`? -/
def exceedsTtl (trust : RuntimeAuthTokenIssuerTrust) (exp : JsNumber) (payload : Json) : Bool :=
  (Json.number? (payload.get? (js "iat"))).any fun iat =>
    (trust.maxTokenTtl.add trust.clockSkew).lt (exp.sub iat)

/-- Is `iat` a number that lies in the future? -/
def isIssuedLater (trust : RuntimeAuthTokenIssuerTrust) (now : JsNumber) (payload : Json) : Bool :=
  (Json.number? (payload.get? (js "iat"))).any fun iat =>
    (nowSec now).lt (iat.sub trust.clockSkew)

/-- The properties that `in` finds in every object. -/
def objectPrototype : List JsString :=
  [js "constructor", js "__defineGetter__", js "__defineSetter__", js "hasOwnProperty",
    js "__lookupGetter__", js "__lookupSetter__", js "isPrototypeOf", js "propertyIsEnumerable",
    js "toString", js "valueOf", js "__proto__", js "toLocaleString"]

/-- The first required claim that the payload has not got. -/
def missingClaim (trust : RuntimeAuthTokenIssuerTrust) (payload : Json) : Option JsString :=
  (trust.requiredClaims.getD []).find? fun claim =>
    (payload.get? claim).isNone && !objectPrototype.contains claim

/-- `validateClaims`. -/
def validateClaims (trust : RuntimeAuthTokenIssuerTrust) (now : JsNumber) (payload : Json) :
    Except Thrown Unit := do
  check (matchesAudience (payload.get? (js "aud")) trust.audiences)
    (invalidToken (js "JWT audience is not accepted"))
  match Json.number? (payload.get? (js "exp")) with
  | none => .error (.hardess { code := .AUTH_EXPIRED_TOKEN, message := js "JWT has expired" })
  | some exp =>
    check (!isExpired trust now exp)
      (.hardess { code := .AUTH_EXPIRED_TOKEN, message := js "JWT has expired" })
    check (!isTooEarly trust now payload) (invalidToken (js "JWT is not valid yet"))
    check (!exceedsTtl trust exp payload) (invalidToken (js "JWT TTL exceeds trust policy"))
    check (!isIssuedLater trust now payload)
      (invalidToken (js "JWT issued-at is in the future"))
    match missingClaim trust payload with
    | none => .ok ()
    | some claim => .error (invalidToken (js "JWT missing required claim: " ++ claim))

/-- `resolvePeerId`. -/
def resolvePeerId (payload : Json) : Option JsString :=
  let notBlank (key : JsString) :=
    (Json.string? (payload.get? key)).filter fun s => JsNumber.trim s ≠ []
  let principal := do
    let workspaceId ← Json.string? (payload.get? (js "workspaceId"))
    let principalId ← Json.string? (payload.get? (js "principalId"))
    some (workspaceId ++ js ":" ++ principalId)
  ((notBlank (js "peerId")).or principal).or (notBlank (js "sub"))

/-- The characters of a string, as its iterator gives them. -/
def characters : JsString → List JsString
  | [] => []
  | [u] => [[u]]
  | high :: low :: us =>
    if JsString.isHigh high && JsString.isLow low then [high, low] :: characters us
    else [high] :: characters (low :: us)

/-- `resolveCapabilities`. The empty pieces of a scope are dropped as the other falsy values are. -/
def resolveCapabilities (payload : Json) : Except Thrown (List Json) := do
  let scopeCapabilities :=
    match payload.get? (js "scope") with
    | some (.arr xs) => xs
    | some (.str s) => (s.splitOnP JsNumber.isWhiteSpace).map .str
    | _ => []
  let capabilities ←
    match orElse (payload.get? (js "capabilities")) (.arr []) with
    | .arr xs => .ok xs
    | .str s => .ok ((characters s).map .str)
    | _ => .error typeError
  .ok (((capabilities ++ scopeCapabilities).filter Json.truthy).foldl
    (fun set value => if set.any value.strictEquals then set else set ++ [value]) [])

/-- `tokenId`. -/
def tokenIdOf (payload : Json) (peerId : JsString) : Except Thrown Json :=
  match payload.get? (js "jti") with
  | some .null | none => do
    let iss ← template (orElse (payload.get? (js "iss")) (.str (js "unknown")))
    let iat ← template (orElse (payload.get? (js "iat")) (.num (.ofNat 0)))
    .ok (.str (iss ++ js ":" ++ peerId ++ js ":" ++ iat))
  | some jti => .ok jti

/-- `validateJwt` after the signature. -/
def contextOf (trust : RuntimeAuthTokenIssuerTrust) (now : JsNumber) (payload : Json) :
    Except Thrown JwtAuthContext := do
  validateClaims trust now payload
  match resolvePeerId payload with
  | none => .error (invalidToken (js "JWT must include peerId, principalId, or sub"))
  | some peerId =>
    let tokenId ← tokenIdOf payload peerId
    let capabilities ← resolveCapabilities payload
    .ok
      { peerId
        tokenId
        capabilities
        expiresAt := ((Json.number? (payload.get? (js "exp"))).getD .nan).timesNat 1000
        groupId := Json.string? (payload.get? (js "workspaceId")) }

/-! ### The provider -/

namespace JwtIssuerAuthProvider

variable (provider : JwtIssuerAuthProvider)

/-- `base64UrlDecode`. -/
def base64UrlDecode (value : JsString) : List UInt8 :=
  let normalized := value.map fun u =>
    if u = unit '-' then unit '+' else if u = unit '_' then unit '/' else u
  provider.platform.fromBase64
    (normalized ++ List.replicate ((normalized.length + 3) / 4 * 4 - normalized.length) (unit '='))

/-- `parseJwtJson`. -/
def parseJwtJson (encoded message : JsString) : Except Thrown Json :=
  match Json.parse (provider.platform.decode (provider.base64UrlDecode encoded)) with
  | none => .error (invalidToken message)
  | some value => .ok value

/-- `resolveIssuerTrust`. -/
def resolveIssuerTrust (payload header : Json) : Except Thrown RuntimeAuthTokenIssuerTrust := do
  let issuer ← property payload (js "iss")
  check (issuer.any Json.truthy) (invalidToken (js "JWT issuer is required"))
  let issuer := orElse issuer .null
  match provider.trust.tokenIssuers.find? fun entry => (Json.str entry.issuer).strictEquals issuer with
  | none =>
    let text ← template issuer
    .error (invalidToken (js "Unsupported JWT issuer: " ++ text))
  | some trust =>
    let alg ← property header (js "alg")
    let allowedAlgorithms := trust.algorithms.getD [js "RS256"]
    if alg.any fun alg =>
        alg.truthy && allowedAlgorithms.any fun allowed => (Json.str allowed).strictEquals alg then
      .ok trust
    else
      let text ← template (orElse alg (.str (js "missing")))
      .error (invalidToken (js "Unsupported JWT algorithm: " ++ text))

/-- `fetchJwks`. -/
def fetchJwks (cache : JwksCache) (now : JsNumber) (jwksUrl : JsString) :
    JwksCache × Except Thrown (List Json) :=
  match (cache.get jwksUrl).filter fun cached => (now.sub cached.1).lt provider.jwksCacheTtlMs with
  | some cached => (cache, .ok cached.2)
  | none =>
    let fetched : Except Thrown (List Json) := do
      let response ← provider.platform.fetchFn jwksUrl
      check response.ok
        (invalidToken (js "JWKS fetch failed with " ++ (JsNumber.ofNat response.status).text))
      let body ← response.json
      let keys ← property body (js "keys")
      match keys with
      | some (.arr keys) => .ok keys
      | _ => .ok []
    match fetched with
    | .error error => (cache, .error error)
    | .ok keys => (cache.set jwksUrl (now, keys), .ok keys)

/-- Does a key of a key set fit the header? -/
def fitsHeader (header key : Json) : Except Thrown Bool := do
  let kid := orElse (header.get? (js "kid")) .null
  let alg := orElse (header.get? (js "alg")) .null
  let kidFits ←
    if kid.truthy then
      (property key (js "kid")).map fun keyKid => (orElse keyKid .null).strictEquals kid
    else .ok true
  if kidFits && alg.truthy then
    (property key (js "alg")).map fun keyAlg =>
      let keyAlg := orElse keyAlg .null
      !keyAlg.truthy || keyAlg.strictEquals alg
  else .ok kidFits

/-- `resolveVerificationKeys`. -/
def resolveVerificationKeys (cache : JwksCache) (now : JsNumber)
    (trust : RuntimeAuthTokenIssuerTrust) (header : Json) :
    JwksCache × Except Thrown (List VerificationKey) :=
  let kid := orElse (header.get? (js "kid")) .null
  let alg := orElse (header.get? (js "alg")) .null
  let staticKeys := (trust.publicKeys.getD []).filter fun key =>
    (!kid.truthy || (Json.str key.kid).strictEquals kid) &&
      (!alg.truthy || (Json.str key.alg).strictEquals alg)
  if staticKeys ≠ [] then (cache, .ok (staticKeys.map .pem))
  else
    match trust.jwksUrl.filter (· ≠ []) with
    | none => (cache, .ok [])
    | some jwksUrl =>
      let (cache, jwks) := provider.fetchJwks cache now jwksUrl
      (cache, jwks.bind fun keys => (keys.filterM (fitsHeader header)).map (·.map .jwk))

/-- `verifySignature`. -/
def verifySignature (cache : JwksCache) (now : JsNumber) (trust : RuntimeAuthTokenIssuerTrust)
    (header : Json) (signingInput signature : JsString) : JwksCache × Except Thrown Unit :=
  let alg := orElse (header.get? (js "alg")) .null
  if !alg.strictEquals (.str (js "RS256")) then
    (cache, (template alg).bind fun text =>
      .error (invalidToken (js "Unsupported JWT algorithm: " ++ text)))
  else
    let (cache, keys) := provider.resolveVerificationKeys cache now trust header
    (cache, keys.bind fun keys =>
      check (keys.any fun key =>
          provider.platform.verifies key signingInput (provider.base64UrlDecode signature))
        (invalidToken (js "JWT signature verification failed")))

/-- `validateJwt` up to the signature. -/
def verifiedPayload (cache : JwksCache) (now : JsNumber) (token : JsString) :
    JwksCache × Except Thrown (Json × RuntimeAuthTokenIssuerTrust) :=
  match token.splitOn (unit '.') with
  | [encodedHeader, encodedPayload, encodedSignature] =>
    let parsed : Except Thrown (Json × Json × RuntimeAuthTokenIssuerTrust) := do
      let header ← provider.parseJwtJson encodedHeader (js "Invalid JWT header")
      let payload ← provider.parseJwtJson encodedPayload (js "Invalid JWT payload")
      let trust ← provider.resolveIssuerTrust payload header
      .ok (header, payload, trust)
    match parsed with
    | .error error => (cache, .error error)
    | .ok (header, payload, trust) =>
      let (cache, verified) := provider.verifySignature cache now trust header
        (encodedHeader ++ js "." ++ encodedPayload) encodedSignature
      (cache, verified.map fun _ => (payload, trust))
  | _ => (cache, .error (invalidToken (js "Malformed JWT bearer token")))

/-- `validateJwt`. -/
def validateJwt (cache : JwksCache) (now : JsNumber) (token : JsString) :
    JwksCache × Except Thrown JwtAuthContext :=
  let (cache, verified) := provider.verifiedPayload cache now token
  (cache, verified.bind fun p => contextOf p.2 now p.1)

/-- The token without `"Bearer "`. -/
def normalized (token : JsString) : JsString :=
  if (js "Bearer ").isPrefixOf token then token.drop 7 else token

/-- `validateBearerToken`. -/
def validateBearerToken (cache : JwksCache) (now : JsNumber) (token : JsString) :
    JwksCache × Except Thrown JwtAuthContext :=
  provider.validateJwt cache now (normalized token)

end JwtIssuerAuthProvider

/-! ### The service -/

/-- The part of `RuntimeAuthService` that says which contexts are valid. -/
structure RuntimeAuthService where
  revokedTokenIds : List JsString

namespace RuntimeAuthService

variable (service : RuntimeAuthService)

/-- `revokedTokenIds.has`. -/
def isRevoked (tokenId : Json) : Bool :=
  service.revokedTokenIds.any fun revoked => (Json.str revoked).strictEquals tokenId

/-- `validateSystemAuth`, from what the provider answers. -/
def validateSystemAuth (answer : Except Thrown JwtAuthContext) : Except Thrown JwtAuthContext := do
  let auth ← answer
  check (!service.isRevoked auth.tokenId)
    (.hardess { code := .AUTH_REVOKED_TOKEN, message := js "Token has been revoked" })
  .ok auth

/-- `isAuthContextValid`. -/
def isAuthContextValid (auth : JwtAuthContext) (now : JsNumber) : Bool :=
  !service.isRevoked auth.tokenId && now.lt auth.expiresAt

end RuntimeAuthService

end Hardess
