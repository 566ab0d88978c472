import Hardess.Auth.TokenLifetime

/-!
# Errors up to the signature

`JwtIssuerAuthProvider` of `src/runtime/auth/jwt-provider.ts` uses the header and the payload of a
token and the keys of a key set as values of their declared types. Where they have another shape, a
use may throw an error of the language.

* `Typed`: a computation throws authentication errors only;
* `SoundIssuer`, `SoundKeys`: what the uses need;
* `typed_resolveIssuerTrust`, `typed_verifySignature`: they need no more.
-/

namespace Hardess

/-! ### Authentication errors -/

/-- A `HardessError` with an `AUTH_` code. -/
def Thrown.IsAuth : Thrown → Prop
  | .hardess error => error.code = .AUTH_INVALID_TOKEN ∨ error.code = .AUTH_EXPIRED_TOKEN ∨
    error.code = .AUTH_REVOKED_TOKEN
  | .other _ => False

theorem isAuth_invalidToken (message : JsString) : (invalidToken message).IsAuth := .inl rfl

theorem not_isAuth_typeError : ¬typeError.IsAuth := id

/-- What is thrown is an authentication error. -/
def Typed {α : Type} (x : Except Thrown α) : Prop := ∀ error, x = .error error → error.IsAuth

section Typed

variable {α β : Type}

@[simp] theorem typed_ok (a : α) : Typed (.ok a : Except Thrown α) := fun _ h => by cases h

@[simp] theorem typed_error {error : Thrown} :
    Typed (.error error : Except Thrown α) ↔ error.IsAuth :=
  ⟨fun h => h error rfl, fun h _ he => by cases he; exact h⟩

/-- One computation after another. -/
theorem typed_bind {x : Except Thrown α} {f : α → Except Thrown β} :
    Typed (x >>= f) ↔ Typed x ∧ ∀ a, x = .ok a → Typed (f a) := by
  cases x with
  | error error =>
    have hbind : (Except.error error >>= f) = .error error := rfl
    simp [hbind]
  | ok a =>
    have hbind : (Except.ok a >>= f) = f a := rfl
    simp [hbind]

theorem typed_map {x : Except Thrown α} {f : α → β} : Typed (x.map f) ↔ Typed x := by
  cases x <;> simp [Except.map]

theorem typed_check {ok : Bool} {error : Thrown} (h : error.IsAuth) : Typed (check ok error) := by
  unfold check
  split_ifs <;> simp [h]

@[simp] theorem typed_template {value : Json} :
    Typed (template value) ↔ value.toText?.isSome = true := by
  unfold template
  cases value.toText? with
  | none => simp [not_isAuth_typeError]
  | some text => simp

theorem typed_property {value : Json} {key : JsString} :
    Typed (property value key) ↔ value ≠ .null := by
  unfold property
  split
  · simp [not_isAuth_typeError]
  · rename_i hnull
    simpa using hnull

theorem property_of_ne_null {value : Json} (h : value ≠ .null) (key : JsString) :
    property value key = .ok (value.get? key) := by
  unfold property
  split
  · exact absurd rfl h
  · rfl

end Typed

/-- The value can be turned to text. -/
def HasText (value : Json) : Prop := value.toText?.isSome = true

theorem hasText_str (text : JsString) : HasText (.str text) := rfl

theorem hasText_orElse {value : Option Json} {fallback : Json} (hfallback : HasText fallback) :
    HasText (orElse value fallback) ↔ ∀ v ∈ value, HasText v := by
  have hnull : HasText .null := rfl
  cases value with
  | none => simpa [orElse] using hfallback
  | some v => cases v <;> simp [orElse, hfallback, hnull]

theorem hasText_of_not_truthy {value : Json} (h : ¬value.truthy = true) : HasText value := by
  cases value with
  | null => rfl
  | bool b => cases b <;> rfl
  | num x => rfl
  | str s => rfl
  | arr xs => exact absurd rfl h
  | obj ms => exact absurd rfl h

namespace JwtIssuerAuthProvider

variable (provider : JwtIssuerAuthProvider)

/-! ### The issuer -/

/-- The trust in an issuer, the first one. -/
def trustOf (issuer : JsString) : Option RuntimeAuthTokenIssuerTrust :=
  provider.trust.tokenIssuers.find? fun entry => entry.issuer = issuer

/-- What the code needs to find the trust of a token. -/
structure SoundIssuer (header payload : Json) : Prop where
  notNull : payload ≠ .null
  issuer : ∀ issuer ∈ payload.get? (js "iss"), HasText issuer
  algorithm : ∀ issuer ≠ [], payload.get? (js "iss") = some (.str issuer) →
    (provider.trustOf issuer).isSome = true →
      header ≠ .null ∧ ∀ alg ∈ header.get? (js "alg"), HasText alg

/-- The payload names an issuer with a trust that allows the algorithm of the header. -/
def Trusts (header payload : Json) (trust : RuntimeAuthTokenIssuerTrust) : Prop :=
  ∃ issuer alg, issuer ≠ [] ∧ payload.get? (js "iss") = some (.str issuer) ∧
    provider.trustOf issuer = some trust ∧
    alg ≠ [] ∧ header.get? (js "alg") = some (.str alg) ∧
    alg ∈ trust.algorithms.getD [js "RS256"]

variable {provider} {header payload : Json} {trust : RuntimeAuthTokenIssuerTrust}

theorem find?_strictEquals (issuers : List RuntimeAuthTokenIssuerTrust) (issuer : Json) :
    issuers.find? (fun entry => (Json.str entry.issuer).strictEquals issuer) =
      (Json.string? (some issuer)).bind fun text =>
        issuers.find? fun entry => entry.issuer = text := by
  cases issuer <;> simp [Json.strictEquals, Json.string?]

/-- Is the algorithm allowed? -/
theorem any_strictEquals_iff {algorithms : List JsString} {alg : Option Json} :
    (alg.any fun alg => alg.truthy &&
      algorithms.any fun allowed => (Json.str allowed).strictEquals alg) = true ↔
      ∃ text ≠ [], alg = some (.str text) ∧ text ∈ algorithms := by
  cases alg with
  | none => simp
  | some alg => cases alg <;> simp [Json.strictEquals, Json.truthy]

/-- The check of the algorithm, with its error. -/
theorem typed_algorithm {algorithms : List JsString} {error : JsString → Thrown}
    (herror : ∀ text, (error text).IsAuth) :
    (Typed do
      let alg ← property header (js "alg")
      if alg.any fun alg =>
          alg.truthy && algorithms.any fun allowed => (Json.str allowed).strictEquals alg then
        .ok trust
      else
        let text ← template (orElse alg (.str (js "missing")))
        .error (error text)) ↔
      header ≠ .null ∧ ∀ alg ∈ header.get? (js "alg"), HasText alg := by
  rw [typed_bind, typed_property]
  refine and_congr_right fun hheader => ?_
  rw [property_of_ne_null hheader]
  simp only [Except.ok.injEq, forall_eq']
  split_ifs with hallowed
  · obtain ⟨alg, -, halg, -⟩ := any_strictEquals_iff.1 hallowed
    rw [halg]
    refine iff_of_true (by simp) ?_
    rintro _ ⟨⟩
    exact hasText_str alg
  · rw [typed_bind, typed_template]
    exact (and_iff_left fun text _ => by simp [herror]).trans (hasText_orElse (hasText_str _))

theorem typed_resolveIssuerTrust :
    Typed (provider.resolveIssuerTrust payload header) ↔ provider.SoundIssuer header payload := by
  unfold resolveIssuerTrust
  by_cases hnull : payload = .null
  · exact iff_of_false (by simp [hnull, typed_bind, typed_property]) fun h => h.notNull hnull
  rw [property_of_ne_null hnull, typed_bind]
  simp only [typed_ok, Except.ok.injEq, forall_eq', true_and]
  rw [typed_bind, and_iff_right (typed_check (isAuth_invalidToken _))]
  simp only [check_ok_iff, forall_const, find?_strictEquals]
  cases hissuer : payload.get? (js "iss") with
  | none => exact iff_of_true (by simp) ⟨hnull, by simp [hissuer], by simp [hissuer]⟩
  | some issuer =>
    -- an issuer that is there is taken as it is
    have horElse : orElse (some issuer) .null = issuer := by cases issuer <;> rfl
    rw [horElse, Option.any_some]
    cases hfind : (Json.string? (some issuer)).bind provider.trustOf with
    | none =>
      have hfind' : ((Json.string? (some issuer)).bind fun text =>
          provider.trust.tokenIssuers.find? fun entry => entry.issuer = text) = none := hfind
      rw [hfind']
      -- nobody trusts the issuer: the message of the error must be one that can be written
      simp only [typed_bind, typed_template, typed_error, isAuth_invalidToken, implies_true,
        and_true]
      constructor
      · intro h
        refine ⟨hnull, ?_, ?_⟩
        · rintro _ hmem
          obtain rfl := Option.mem_some_iff.1 (hissuer ▸ hmem)
          by_cases ht : issuer.truthy = true
          · exact h ht
          · exact hasText_of_not_truthy ht
        · rintro text - htext hknown
          obtain rfl := Option.some.inj (hissuer.symm.trans htext)
          rw [Json.string?, Option.bind_some] at hfind
          simp [hfind] at hknown
      · exact fun h _ => h.issuer issuer hissuer
    | some trust =>
      obtain ⟨text, htext, htrust⟩ := Option.bind_eq_some_iff.1 hfind
      obtain rfl : issuer = .str text := by
        cases issuer <;> simp [Json.string?] at htext
        rw [htext]
      have hfind' : ((Json.string? (some (.str text))).bind fun text =>
          provider.trust.tokenIssuers.find? fun entry => entry.issuer = text) = some trust := hfind
      rw [hfind']
      have htruthy : (Json.str text).truthy = true ↔ text ≠ [] := by simp [Json.truthy]
      rw [htruthy]
      simp only [typed_algorithm fun _ => isAuth_invalidToken _]
      constructor
      · intro h
        refine ⟨hnull, ?_, ?_⟩
        · rintro _ hmem
          obtain rfl := Option.mem_some_iff.1 (hissuer ▸ hmem)
          exact hasText_str text
        · rintro text' hne htext' -
          obtain rfl : text = text' := by simpa [hissuer] using htext'
          exact h hne
      · exact fun h hne => h.algorithm text hne hissuer (by simp [htrust])

theorem property_ok_iff {value : Json} {key : JsString} {found : Option Json} :
    property value key = .ok found ↔ value ≠ .null ∧ value.get? key = found := by
  by_cases hnull : value = .null
  · simp [hnull, property]
  · rw [property_of_ne_null hnull, Except.ok.injEq, and_iff_right hnull]

theorem ne_null_of_get? {value v : Json} {key : JsString} (h : value.get? key = some v) :
    value ≠ .null := by
  rintro rfl
  cases h

/-- **The tokens whose trust is found.** -/
theorem resolveIssuerTrust_ok_iff :
    provider.resolveIssuerTrust payload header = .ok trust ↔
      provider.Trusts header payload trust := by
  unfold resolveIssuerTrust
  simp only [except_bind_ok_iff, check_ok_iff, property_ok_iff, find?_strictEquals]
  constructor
  · rintro ⟨issuer, ⟨-, hissuer⟩, -, htruthy, h⟩
    obtain ⟨issuer, rfl, htruthy⟩ := (Option.any_eq_true _ _).1 htruthy
    have horElse : orElse (some issuer) .null = issuer := by cases issuer <;> rfl
    rw [horElse] at h
    split at h
    · obtain ⟨_, -, herror⟩ := except_bind_ok_iff.1 h
      cases herror
    · rename_i trust' hfind
      obtain ⟨text, htext, htrust⟩ := Option.bind_eq_some_iff.1 hfind
      obtain rfl : issuer = .str text := by
        cases issuer <;> simp [Json.string?] at htext
        rw [htext]
      -- the algorithm of the header must be one of those that the trust allows
      obtain ⟨alg, halg, h⟩ := except_bind_ok_iff.1 h
      obtain ⟨-, rfl⟩ := property_ok_iff.1 halg
      split_ifs at h with hallowed
      · cases h
        obtain ⟨alg, hne, halg, hmem⟩ := any_strictEquals_iff.1 hallowed
        exact ⟨text, alg, by simpa [Json.truthy] using htruthy, hissuer, htrust, hne, halg, hmem⟩
      · obtain ⟨_, -, herror⟩ := except_bind_ok_iff.1 h
        cases herror
  · rintro ⟨text, alg, hne, hissuer, htrust, halgNe, halg, hmem⟩
    refine ⟨_, ⟨ne_null_of_get? hissuer, rfl⟩, (), by simpa [hissuer, Json.truthy] using hne, ?_⟩
    have hfind : ((Json.string? (some (orElse (payload.get? (js "iss")) .null))).bind fun text =>
        provider.trust.tokenIssuers.find? fun entry => entry.issuer = text) = some trust := by
      rw [hissuer]
      exact htrust
    rw [hfind]
    refine except_bind_ok_iff.2 ⟨_, property_of_ne_null (ne_null_of_get? halg) _, ?_⟩
    rw [if_pos (any_strictEquals_iff.2 ⟨alg, halgNe, halg, hmem⟩)]

/-! ### The keys -/

variable (provider)

/-- Does a key of the trust fit the header? -/
def fitsStatic (header : Json) (key : RuntimeAuthTrustPublicKey) : Bool :=
  let kid := orElse (header.get? (js "kid")) .null
  let alg := orElse (header.get? (js "alg")) .null
  (!kid.truthy || (Json.str key.kid).strictEquals kid) &&
    (!alg.truthy || (Json.str key.alg).strictEquals alg)

/-- The answer for a key set, or the one that was kept, can be read as a key set. -/
def SoundJwks (cache : JwksCache) (now : JsNumber) (jwksUrl : JsString) : Prop :=
  match (cache.get jwksUrl).filter fun cached => (now.sub cached.1).lt provider.jwksCacheTtlMs with
  | some cached => .null ∉ cached.2
  | none =>
    match provider.platform.fetchFn jwksUrl with
    | .error error => error.IsAuth
    | .ok response => response.ok = true →
      match response.json with
      | .error error => error.IsAuth
      | .ok body => body ≠ .null ∧ ∀ keys, body.get? (js "keys") = some (.arr keys) → .null ∉ keys

/-- What the code needs to find the keys of a token. -/
def SoundKeys (cache : JwksCache) (now : JsNumber) (trust : RuntimeAuthTokenIssuerTrust)
    (header : Json) : Prop :=
  ((trust.publicKeys.getD []).filter (fitsStatic header)) = [] →
    ∀ jwksUrl ∈ trust.jwksUrl, jwksUrl ≠ [] → provider.SoundJwks cache now jwksUrl

variable {provider} {cache : JwksCache} {now : JsNumber}

theorem exists_fitsHeader {key : Json} (h : key ≠ .null) :
    ∃ fits, fitsHeader header key = .ok fits := by
  have hok : ∀ {α : Type} (k : JsString) (f : Option Json → α),
      (property key k).map f = .ok (f (key.get? k)) := by
    intro α k f
    rw [property_of_ne_null h]
    rfl
  unfold fitsHeader
  simp only [hok]
  by_cases hkid : (orElse (header.get? (js "kid")) .null).truthy = true
  · rw [if_pos hkid]
    change ∃ fits, ite _ _ _ = Except.ok fits
    split_ifs <;> exact ⟨_, rfl⟩
  · rw [if_neg hkid]
    change ∃ fits, ite _ _ _ = Except.ok fits
    split_ifs <;> exact ⟨_, rfl⟩

theorem fitsHeader_null {alg : JsString} (hne : alg ≠ [])
    (halg : header.get? (js "alg") = some (.str alg)) :
    fitsHeader header .null = .error typeError := by
  have htruthy : (orElse (some (Json.str alg)) .null).truthy = true := by
    simpa [orElse, Json.truthy] using hne
  unfold fitsHeader
  rw [halg]
  by_cases hkid : (orElse (header.get? (js "kid")) .null).truthy = true
  · simp only [if_pos hkid]
    rfl
  · simp only [if_neg hkid]
    change ite ((true && (orElse (some (Json.str alg)) .null).truthy) = true) _ _ = _
    rw [Bool.true_and, if_pos htruthy]
    rfl

theorem typed_filterAuxM_fitsHeader {alg : JsString} (hne : alg ≠ [])
    (halg : header.get? (js "alg") = some (.str alg)) (keys fitting : List Json) :
    Typed (List.filterAuxM (fitsHeader header) keys fitting) ↔ .null ∉ keys := by
  induction keys generalizing fitting with
  | nil => exact iff_of_true (typed_ok _) List.not_mem_nil
  | cons key keys ih =>
    rw [List.filterAuxM, typed_bind]
    by_cases hnull : key = .null
    · subst hnull
      rw [fitsHeader_null hne halg]
      simp [not_isAuth_typeError]
    · obtain ⟨fits, hfits⟩ := @exists_fitsHeader header key hnull
      simp [hfits, ih, Ne.symm hnull]

/-- The keys of a set are looked at one after the other. -/
theorem typed_filterM_fitsHeader {alg : JsString} (hne : alg ≠ [])
    (halg : header.get? (js "alg") = some (.str alg)) (keys : List Json) :
    Typed (keys.filterM (fitsHeader header)) ↔ .null ∉ keys := by
  rw [List.filterM, typed_bind, typed_filterAuxM_fitsHeader hne halg]
  exact and_iff_left fun fitting _ => typed_ok _

theorem typed_fetchJwks {jwksUrl : JsString} :
    (Typed (provider.fetchJwks cache now jwksUrl).2 ∧
      ∀ keys, (provider.fetchJwks cache now jwksUrl).2 = .ok keys → .null ∉ keys) ↔
      provider.SoundJwks cache now jwksUrl := by
  unfold fetchJwks SoundJwks
  cases (cache.get jwksUrl).filter fun cached =>
      (now.sub cached.1).lt provider.jwksCacheTtlMs with
  | some cached => simp
  | none =>
    cases provider.platform.fetchFn jwksUrl with
    | error error => simp [bind, Except.bind]
    | ok response =>
      by_cases hok : response.ok = true
      · cases hjson : response.json with
        | error error => simp [bind, Except.bind, check, hok, hjson]
        | ok body =>
          by_cases hnull : body = .null
          · simp [bind, Except.bind, check, hok, hjson, hnull, property, not_isAuth_typeError]
          · simp only [bind, Except.bind, check, hok, hjson, property_of_ne_null hnull, if_true]
            cases hkeys : body.get? (js "keys") with
            | none => simp [hnull]
            | some keys => cases keys <;> simp [hnull]
      · simp [bind, Except.bind, check, hok, isAuth_invalidToken]

theorem typed_resolveVerificationKeys {alg : JsString} (hne : alg ≠ [])
    (halg : header.get? (js "alg") = some (.str alg)) :
    Typed (provider.resolveVerificationKeys cache now trust header).2 ↔
      provider.SoundKeys cache now trust header := by
  unfold resolveVerificationKeys SoundKeys
  change Typed (Prod.snd (ite ((trust.publicKeys.getD []).filter (fitsStatic header) ≠ []) _ _)) ↔ _
  split_ifs with hstatic
  · simp [hstatic]
  · rw [not_not] at hstatic
    rw [forall_prop_of_true hstatic]
    cases hurl : trust.jwksUrl.filter (· ≠ []) with
    | none =>
      -- without a URL nothing is fetched
      refine iff_of_true (typed_ok _) fun jwksUrl hmem hurlNe => ?_
      simp only [Option.filter_eq_none_iff] at hurl
      exact absurd hurlNe (by simpa using hurl jwksUrl hmem)
    | some jwksUrl =>
      obtain ⟨hmem, hurlNe⟩ := Option.filter_eq_some_iff.1 hurl
      change Typed (((provider.fetchJwks cache now jwksUrl).2 >>= fun keys =>
        (keys.filterM (fitsHeader header)).map (·.map VerificationKey.jwk))) ↔ _
      simp only [typed_bind, typed_map, typed_filterM_fitsHeader hne halg]
      rw [typed_fetchJwks]
      constructor
      · rintro h url hurl' -
        rw [Option.mem_unique hurl' hmem]
        exact h
      · exact fun h => h jwksUrl hmem (by simpa using hurlNe)

theorem typed_verifySignature {signingInput signature : JsString}
    (htrusts : provider.Trusts header payload trust) :
    Typed (provider.verifySignature cache now trust header signingInput signature).2 ↔
      (header.get? (js "alg") = some (.str (js "RS256")) →
        provider.SoundKeys cache now trust header) := by
  obtain ⟨-, alg, -, -, -, hne, halg, -⟩ := htrusts
  unfold verifySignature
  simp only [halg, orElse, Json.strictEquals, Option.some.injEq, Json.str.injEq]
  by_cases hrs : alg = js "RS256"
  · rw [if_neg (by simpa using hrs)]
    change Typed ((provider.resolveVerificationKeys cache now trust header).2 >>= fun keys =>
      check _ _) ↔ _
    rw [typed_bind, typed_resolveVerificationKeys hne halg, forall_prop_of_true hrs]
    exact and_iff_left fun keys _ => typed_check (isAuth_invalidToken _)
  · rw [if_pos (by simpa using hrs)]
    refine iff_of_true ?_ fun h => absurd h hrs
    change Typed (template (.str alg) >>= fun text => .error _)
    rw [typed_bind]
    exact ⟨typed_template.2 (hasText_str alg), fun _ _ => typed_error.2 (isAuth_invalidToken _)⟩

end JwtIssuerAuthProvider

end Hardess
