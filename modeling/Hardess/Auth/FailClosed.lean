import Hardess.Auth.AuthErrors

/-!
# What validating a token ends in

`validateBearerToken` of `src/runtime/auth/jwt-provider.ts` makes a context of the claims of a
token. Where a claim has another type than the declared one, its use may throw an error of the
language, or a capability may be no string.

* `SoundClaims`: what the uses need, and `contextOf_iff`;
* **`failsClosed_iff`**: validation ends in an authentication error or in a proper context exactly
  when the values that it comes to have the shapes that their uses need.
-/

namespace Hardess

/-! ### The claims -/

/-- A string of the capabilities or of the scope of a token. -/
def Taken (payload : Json) (capability : JsString) : Prop :=
  (∃ xs, payload.get? (js "capabilities") = some (.arr xs) ∧ .str capability ∈ xs) ∨
    (∃ xs, payload.get? (js "scope") = some (.arr xs) ∧ .str capability ∈ xs) ∨
    ∃ text, payload.get? (js "scope") = some (.str text) ∧
      capability ∈ text.splitOnP JsNumber.isWhiteSpace

/-- The peer has a name, the capabilities are strings that the payload holds, and the expiry is a
time. -/
structure ProperContext (payload : Json) (auth : JwtAuthContext) : Prop where
  peer : auth.peerId ≠ []
  capabilities : ∀ c ∈ auth.capabilities, ∃ text, c = .str text ∧ Taken payload text
  expiry : auth.expiresAt.isFinite = true

/-- The value is a string, or it counts as false. -/
def StringOrFalsy (value : Json) : Prop := value.truthy = true → ∃ text, value = .str text

/-- The capabilities are an array of strings, or there are none. (A string is spread into its
characters.) -/
def SoundCapabilities (payload : Json) : Prop :=
  match payload.get? (js "capabilities") with
  | none | some .null => True
  | some (.arr xs) => ∀ x ∈ xs, StringOrFalsy x
  | some (.str text) => ∀ c ∈ characters text, Taken payload c
  | some _ => False

/-- What the code needs of the claims to make a proper context of them. -/
structure SoundClaims (payload : Json) : Prop where
  tokenId : (∃ jti ≠ .null, payload.get? (js "jti") = some jti) ∨
    ∀ iat ∈ payload.get? (js "iat"), HasText iat
  capabilities : SoundCapabilities payload
  scope : ∀ xs, payload.get? (js "scope") = some (.arr xs) → ∀ x ∈ xs, StringOrFalsy x
  expiry : ∀ exp, payload.get? (js "exp") = some (.num exp) → (exp.timesNat 1000).isFinite = true

section Claims

variable {payload : Json} {trust : RuntimeAuthTokenIssuerTrust} {now : JsNumber}

theorem typed_validateClaims : Typed (validateClaims trust now payload) := by
  have hexpired : Thrown.IsAuth
      (.hardess { code := .AUTH_EXPIRED_TOKEN, message := js "JWT has expired" }) :=
    .inr (.inl rfl)
  unfold validateClaims
  refine typed_bind.2 ⟨typed_check (isAuth_invalidToken _), fun _ _ => ?_⟩
  split
  · exact typed_error.2 hexpired
  · refine typed_bind.2 ⟨typed_check hexpired, fun _ _ => ?_⟩
    refine typed_bind.2 ⟨typed_check (isAuth_invalidToken _), fun _ _ => ?_⟩
    refine typed_bind.2 ⟨typed_check (isAuth_invalidToken _), fun _ _ => ?_⟩
    refine typed_bind.2 ⟨typed_check (isAuth_invalidToken _), fun _ _ => ?_⟩
    split
    · exact typed_ok _
    · exact typed_error.2 (isAuth_invalidToken _)

theorem peerId_ne_nil {peerId : JsString} (h : peerId ∈ resolvePeerId payload) : peerId ≠ [] := by
  have hblank : ∀ {key : JsString}, peerId ∈ (Json.string? (payload.get? key)).filter
      (fun s => JsNumber.trim s ≠ []) → peerId ≠ [] := by
    rintro key hmem rfl
    obtain ⟨-, htrim⟩ := Option.filter_eq_some_iff.1 hmem
    exact absurd htrim (by decide)
  unfold resolvePeerId at h
  obtain h | ⟨-, h⟩ := Option.or_eq_some_iff.1 h
  · obtain h | ⟨-, h⟩ := Option.or_eq_some_iff.1 h
    · exact hblank h
    · simp only [Option.bind_eq_bind, Option.bind_eq_some_iff, Option.some.injEq] at h
      obtain ⟨_, -, _, -, rfl⟩ := h
      simp
  · exact hblank h

theorem typed_tokenIdOf {peerId : JsString}
    (hiss : ∀ iss ∈ payload.get? (js "iss"), HasText iss) :
    Typed (tokenIdOf payload peerId) ↔
      (∃ jti ≠ .null, payload.get? (js "jti") = some jti) ∨
        ∀ iat ∈ payload.get? (js "iat"), HasText iat := by
  have hmade : Typed (do
      let iss ← template (orElse (payload.get? (js "iss")) (.str (js "unknown")))
      let iat ← template (orElse (payload.get? (js "iat")) (.num (.ofNat 0)))
      .ok (.str (iss ++ js ":" ++ peerId ++ js ":" ++ iat)) : Except Thrown Json) ↔
      ∀ iat ∈ payload.get? (js "iat"), HasText iat := by
    -- the text of the issuer is there, so that the text of `iat` decides
    have hissText := (hasText_orElse (hasText_str (js "unknown"))).2 hiss
    obtain ⟨text, htext⟩ := Option.isSome_iff_exists.1 hissText
    have htemplate : template (orElse (payload.get? (js "iss")) (.str (js "unknown"))) =
        .ok text := by
      rw [template, htext]
    have hzero : HasText (.num (.ofNat 0)) := rfl
    rw [← hasText_orElse hzero]
    simp [typed_bind, htemplate, HasText]
  unfold tokenIdOf
  split
  · rename_i hjti
    rw [hmade, hjti]
    simp
  · rename_i hjti
    rw [hmade, hjti]
    simp
  · rename_i jti hnull hjti
    refine iff_of_true (typed_ok _) (.inl ⟨jti, ?_, hjti⟩)
    rintro rfl
    exact hnull rfl

theorem eq_of_strictEquals {left right : Json} (h : left.strictEquals right = true) :
    left = right := by
  cases left <;> cases right <;> simp_all [Json.strictEquals]

/-- A `Set` of values has the values that were put into it. -/
theorem mem_foldl_set {values set : List Json} {c : Json} :
    c ∈ values.foldl (fun set value => if set.any value.strictEquals then set else set ++ [value])
      set ↔ c ∈ set ∨ c ∈ values := by
  induction values generalizing set with
  | nil => simp
  | cons value values ih =>
    rw [List.foldl_cons, ih]
    split_ifs with hany
    · obtain ⟨kept, hkept, heq⟩ := List.any_eq_true.1 hany
      obtain rfl := eq_of_strictEquals heq
      rw [List.mem_cons]
      exact ⟨Or.imp_right .inr,
        fun h => h.elim .inl fun h => h.elim (fun h => .inl (h ▸ hkept)) .inr⟩
    · rw [List.mem_append, List.mem_singleton, List.mem_cons, or_assoc]

/-- The capability is a string that the claims give. -/
def Given (payload : Json) (c : Json) : Prop := ∃ text, c = .str text ∧ Taken payload text

theorem given_arr_iff {xs : List Json}
    (htaken : ∀ text, .str text ∈ xs → Taken payload text) :
    (∀ x ∈ xs, x.truthy = true → Given payload x) ↔ ∀ x ∈ xs, StringOrFalsy x := by
  refine forall₂_congr fun x hx => forall_congr' fun _ => ?_
  refine exists_congr fun text => and_iff_left_of_imp ?_
  rintro rfl
  exact htaken text hx

/-- What the scope gives. -/
def scopeCapabilities (payload : Json) : List Json :=
  match payload.get? (js "scope") with
  | some (.arr xs) => xs
  | some (.str s) => (s.splitOnP JsNumber.isWhiteSpace).map .str
  | _ => []

theorem given_scope_iff :
    (∀ c ∈ scopeCapabilities payload, c.truthy = true → Given payload c) ↔
      ∀ xs, payload.get? (js "scope") = some (.arr xs) → ∀ x ∈ xs, StringOrFalsy x := by
  unfold scopeCapabilities
  split
  · rename_i xs hscope
    rw [given_arr_iff fun text htext => .inr (.inl ⟨xs, hscope, htext⟩)]
    constructor
    · rintro h _ heq
      rw [hscope] at heq
      cases heq
      exact h
    · exact fun h => h xs hscope
  · rename_i text hscope
    refine iff_of_true ?_ fun xs heq => by simp [hscope] at heq
    rintro _ hc -
    obtain ⟨word, hword, rfl⟩ := List.mem_map.1 hc
    exact ⟨word, rfl, .inr (.inr ⟨text, hscope, hword⟩)⟩
  · rename_i hnot _
    exact iff_of_true (by simp) fun xs heq => absurd heq (hnot xs)

theorem ne_nil_of_mem_characters : ∀ {text c : JsString}, c ∈ characters text → c ≠ []
  | [], _, h => by simp [characters] at h
  | [u], _, h => by
    rw [characters, List.mem_singleton] at h
    simp [h]
  | high :: low :: us, c, h => by
    rw [characters] at h
    split_ifs at h
    · obtain rfl | h := List.mem_cons.1 h
      · simp
      · exact ne_nil_of_mem_characters h
    · obtain rfl | h := List.mem_cons.1 h
      · simp
      · exact ne_nil_of_mem_characters h

/-- The set that is made of some capabilities and those of the scope. -/
def capabilitySet (payload : Json) (capabilities : List Json) : List Json :=
  ((capabilities ++ scopeCapabilities payload).filter Json.truthy).foldl
    (fun set value => if set.any value.strictEquals then set else set ++ [value]) []

theorem given_capabilitySet_iff {capabilities : List Json} :
    (∀ c ∈ capabilitySet payload capabilities, Given payload c) ↔
      (∀ c ∈ capabilities, c.truthy = true → Given payload c) ∧
        ∀ c ∈ scopeCapabilities payload, c.truthy = true → Given payload c := by
  have hmem : ∀ c, c ∈ capabilitySet payload capabilities ↔
      (c ∈ capabilities ∨ c ∈ scopeCapabilities payload) ∧ c.truthy = true := by
    intro c
    rw [capabilitySet, mem_foldl_set, List.mem_filter, List.mem_append]
    simp
  simp only [hmem, and_imp, or_imp, forall_and]

theorem resolveCapabilities_eq :
    resolveCapabilities payload =
      match orElse (payload.get? (js "capabilities")) (.arr []) with
      | .arr xs => .ok (capabilitySet payload xs)
      | .str s => .ok (capabilitySet payload ((characters s).map .str))
      | _ => .error typeError := by
  unfold resolveCapabilities
  cases orElse (payload.get? (js "capabilities")) (.arr []) <;> rfl

/-- **The capabilities are strings of the claims** exactly when the claims have the shapes. -/
theorem capabilities_iff :
    (Typed (resolveCapabilities payload) ∧ ∀ capabilities,
      resolveCapabilities payload = .ok capabilities → ∀ c ∈ capabilities, Given payload c) ↔
      SoundCapabilities payload ∧
        ∀ xs, payload.get? (js "scope") = some (.arr xs) → ∀ x ∈ xs, StringOrFalsy x := by
  rw [← given_scope_iff]
  -- what is left to show when the claim is read as a list
  have hlist : ∀ capabilities : List Json,
      resolveCapabilities payload = .ok (capabilitySet payload capabilities) →
      ((∀ c ∈ capabilities, c.truthy = true → Given payload c) ↔ SoundCapabilities payload) →
      ((Typed (resolveCapabilities payload) ∧ ∀ set, resolveCapabilities payload = .ok set →
        ∀ c ∈ set, Given payload c) ↔ SoundCapabilities payload ∧
          ∀ c ∈ scopeCapabilities payload, c.truthy = true → Given payload c) := by
    intro capabilities hok hsound
    rw [hok, ← hsound, ← given_capabilitySet_iff, and_iff_right (typed_ok _)]
    simp
  -- what is left to show when it cannot be read
  have herror : resolveCapabilities payload = .error typeError → ¬SoundCapabilities payload →
      ((Typed (resolveCapabilities payload) ∧ ∀ set, resolveCapabilities payload = .ok set →
        ∀ c ∈ set, Given payload c) ↔ SoundCapabilities payload ∧
          ∀ c ∈ scopeCapabilities payload, c.truthy = true → Given payload c) := by
    intro herror hsound
    refine iff_of_false (fun h => ?_) fun h => hsound h.1
    rw [herror] at h
    exact not_isAuth_typeError (typed_error.1 h.1)
  have hresolve : ∀ claim, payload.get? (js "capabilities") = claim →
      resolveCapabilities payload =
        (match orElse claim (.arr []) with
        | .arr xs => .ok (capabilitySet payload xs)
        | .str s => .ok (capabilitySet payload ((characters s).map .str))
        | _ => .error typeError) := by
    rintro claim rfl
    exact resolveCapabilities_eq
  cases hclaim : payload.get? (js "capabilities") with
  | none => exact hlist [] (hresolve _ hclaim) (by simp [SoundCapabilities, hclaim])
  | some claim =>
    cases claim with
    | null => exact hlist [] (hresolve _ hclaim) (by simp [SoundCapabilities, hclaim])
    | bool b => exact herror (hresolve _ hclaim) (by simp [SoundCapabilities, hclaim])
    | num x => exact herror (hresolve _ hclaim) (by simp [SoundCapabilities, hclaim])
    | obj ms => exact herror (hresolve _ hclaim) (by simp [SoundCapabilities, hclaim])
    | arr xs =>
      refine hlist xs (hresolve _ hclaim) ?_
      rw [given_arr_iff fun text htext => .inl ⟨xs, hclaim, htext⟩]
      simp [SoundCapabilities, hclaim]
    | str s =>
      refine hlist _ (hresolve _ hclaim) ?_
      have hne : ∀ c ∈ characters s, c ≠ [] := fun c hc => ne_nil_of_mem_characters hc
      simp only [SoundCapabilities, hclaim, List.forall_mem_map, Given, Json.str.injEq,
        exists_eq_left', Json.truthy, decide_eq_true_eq]
      exact forall₂_congr fun c hc => forall_prop_of_true (hne c hc)

theorem template_cases (value : Json) :
    template value = .error typeError ∨ ∃ text, template value = .ok text := by
  unfold template
  cases value.toText? with
  | none => exact .inl rfl
  | some text => exact .inr ⟨text, rfl⟩

theorem exists_tokenIdOf {peerId : JsString} (h : Typed (tokenIdOf payload peerId)) :
    ∃ tokenId, tokenIdOf payload peerId = .ok tokenId := by
  have hmade : ∀ first second : Json, Typed (do
      let iss ← template first
      let iat ← template second
      .ok (.str (iss ++ js ":" ++ peerId ++ js ":" ++ iat)) : Except Thrown Json) →
      ∃ tokenId, (do
        let iss ← template first
        let iat ← template second
        .ok (.str (iss ++ js ":" ++ peerId ++ js ":" ++ iat)) : Except Thrown Json) =
          .ok tokenId := by
    intro first second h
    -- a claim without a text throws a `TypeError`
    obtain hfirst | ⟨iss, hfirst⟩ := template_cases first
    · rw [hfirst] at h
      exact absurd (h _ rfl) not_isAuth_typeError
    obtain hsecond | ⟨iat, hsecond⟩ := template_cases second
    · rw [hfirst, hsecond] at h
      exact absurd (h _ rfl) not_isAuth_typeError
    · rw [hfirst, hsecond]
      exact ⟨_, rfl⟩
  unfold tokenIdOf at h ⊢
  split at h
  · exact hmade _ _ h
  · exact hmade _ _ h
  · exact ⟨_, rfl⟩

theorem exists_resolveCapabilities (h : Typed (resolveCapabilities payload)) :
    ∃ set, resolveCapabilities payload = .ok set := by
  rw [resolveCapabilities_eq] at h ⊢
  split at h
  · exact ⟨_, rfl⟩
  · exact ⟨_, rfl⟩
  · exact absurd (h _ rfl) not_isAuth_typeError

/-- What becomes of claims that name a peer. -/
theorem contextOf_iff_of_peer (hiss : ∀ iss ∈ payload.get? (js "iss"), HasText iss)
    (hclaims : validateClaims trust now payload = .ok ()) {peerId : JsString}
    (hpeer : resolvePeerId payload = some peerId) :
    (Typed (contextOf trust now payload) ∧
      ∀ auth, contextOf trust now payload = .ok auth → ProperContext payload auth) ↔
      SoundClaims payload := by
  obtain ⟨exp, hexp, -⟩ := validateClaims_ok_iff.1 hclaims
  have hcontext : contextOf trust now payload = tokenIdOf payload peerId >>= fun tokenId =>
      resolveCapabilities payload >>= fun capabilities => .ok
        { peerId, tokenId, capabilities
          expiresAt := ((Json.number? (payload.get? (js "exp"))).getD .nan).timesNat 1000
          groupId := Json.string? (payload.get? (js "workspaceId")) } := by
    rw [contextOf, hclaims, hpeer]
    rfl
  have hexp' := number?_eq_some_iff.1 hexp
  rw [hcontext, hexp, Option.getD_some]
  constructor
  · rintro ⟨htyped, hproper⟩
    obtain ⟨htoken, hrest⟩ := typed_bind.1 htyped
    obtain ⟨tokenId, htokenId⟩ := exists_tokenIdOf htoken
    have hcapabilities := (typed_bind.1 (hrest tokenId htokenId)).1
    obtain ⟨set, hset⟩ := exists_resolveCapabilities hcapabilities
    -- the context that comes out says what the capabilities must have been
    have hauth := hproper _ (except_bind_ok_iff.2
      ⟨tokenId, htokenId, except_bind_ok_iff.2 ⟨set, hset, rfl⟩⟩)
    obtain ⟨hcaps, hscope⟩ := capabilities_iff.1 ⟨hcapabilities, fun set' hset' => by
      rw [hset] at hset'
      cases hset'
      exact hauth.capabilities⟩
    refine ⟨(typed_tokenIdOf hiss).1 htoken, hcaps, hscope, fun exp' hexp'' => ?_⟩
    rw [hexp'] at hexp''
    cases hexp''
    exact hauth.expiry
  · intro h
    obtain ⟨hcapabilities, hgiven⟩ := capabilities_iff.2 ⟨h.capabilities, h.scope⟩
    refine ⟨typed_bind.2 ⟨(typed_tokenIdOf hiss).2 h.tokenId, fun tokenId _ =>
      typed_bind.2 ⟨hcapabilities, fun _ _ => typed_ok _⟩⟩, fun auth hauth => ?_⟩
    obtain ⟨tokenId, -, hauth⟩ := except_bind_ok_iff.1 hauth
    obtain ⟨set, hset, hauth⟩ := except_bind_ok_iff.1 hauth
    cases hauth
    exact ⟨peerId_ne_nil hpeer, hgiven set hset, h.expiry exp hexp'⟩

/-- **What becomes of verified claims.** -/
theorem contextOf_iff (hiss : ∀ iss ∈ payload.get? (js "iss"), HasText iss) :
    (Typed (contextOf trust now payload) ∧
      ∀ auth, contextOf trust now payload = .ok auth → ProperContext payload auth) ↔
      (validateClaims trust now payload = .ok () → (resolvePeerId payload).isSome = true →
        SoundClaims payload) := by
  cases hclaims : validateClaims trust now payload with
  | error error =>
    have herror : contextOf trust now payload = .error error := by
      rw [contextOf, hclaims]
      rfl
    refine iff_of_true ?_ fun h => by cases h
    rw [herror]
    exact ⟨typed_error.2 (typed_validateClaims _ hclaims), fun _ h => by cases h⟩
  | ok _ =>
    cases hpeer : resolvePeerId payload with
    | none =>
      have herror : contextOf trust now payload =
          .error (invalidToken (js "JWT must include peerId, principalId, or sub")) := by
        rw [contextOf, hclaims, hpeer]
        rfl
      refine iff_of_true ?_ fun _ h => by cases h
      rw [herror]
      exact ⟨typed_error.2 (isAuth_invalidToken _), fun _ h => by cases h⟩
    | some peerId =>
      simp only [forall_const, Option.isSome_some]
      exact contextOf_iff_of_peer hiss hclaims hpeer

end Claims

/-! ### Validation -/

namespace JwtIssuerAuthProvider

variable (provider : JwtIssuerAuthProvider)

/-- The parts of a token, with what its header and its payload decode to. -/
structure Decodes (token encodedHeader encodedPayload encodedSignature : JsString)
    (header payload : Json) : Prop where
  parts : (normalized token).splitOn (unit '.') =
    [encodedHeader, encodedPayload, encodedSignature]
  header : provider.parseJwtJson encodedHeader (js "Invalid JWT header") = .ok header
  payload : provider.parseJwtJson encodedPayload (js "Invalid JWT payload") = .ok payload

/-- Validation ends in an authentication error or in a proper context. -/
def FailsClosed (cache : JwksCache) (now : JsNumber) (token : JsString) : Prop :=
  Typed (provider.validateBearerToken cache now token).2 ∧
    ∀ auth, (provider.validateBearerToken cache now token).2 = .ok auth →
      ∀ encodedHeader encodedPayload encodedSignature header payload,
        provider.Decodes token encodedHeader encodedPayload encodedSignature header payload →
          ProperContext payload auth

/-- What the code needs of a token: an issuer, keys and claims that it can use, as far as it comes
to them. -/
def Sound (cache : JwksCache) (now : JsNumber)
    (encodedHeader encodedPayload encodedSignature : JsString) (header payload : Json) : Prop :=
  provider.SoundIssuer header payload ∧
    ∀ trust, provider.Trusts header payload trust →
      (header.get? (js "alg") = some (.str (js "RS256")) →
        provider.SoundKeys cache now trust header) ∧
      ((provider.verifySignature cache now trust header
          (encodedHeader ++ js "." ++ encodedPayload) encodedSignature).2 = .ok () →
        validateClaims trust now payload = .ok () → (resolvePeerId payload).isSome = true →
          SoundClaims payload)

variable {provider} {cache : JwksCache} {now : JsNumber}
  {token encodedHeader encodedPayload encodedSignature : JsString} {header payload : Json}

/-- The checks of a token that decodes, one after the other. -/
theorem validateBearerToken_of_decodes
    (h : provider.Decodes token encodedHeader encodedPayload encodedSignature header payload) :
    (provider.validateBearerToken cache now token).2 =
      (provider.resolveIssuerTrust payload header >>= fun trust =>
        (provider.verifySignature cache now trust header
          (encodedHeader ++ js "." ++ encodedPayload) encodedSignature).2 >>= fun _ =>
            contextOf trust now payload) := by
  unfold validateBearerToken validateJwt verifiedPayload
  rw [h.parts]
  dsimp only
  rw [h.header, h.payload]
  dsimp only [bind, Except.bind]
  cases provider.resolveIssuerTrust payload header with
  | error error => rfl
  | ok trust =>
    dsimp only
    cases (provider.verifySignature cache now trust header
      (encodedHeader ++ js "." ++ encodedPayload) encodedSignature).2 <;> rfl

/-- A token that does not decode is refused. -/
theorem validateBearerToken_of_not_decodes
    (h : ∀ encodedHeader encodedPayload encodedSignature header payload,
      ¬provider.Decodes token encodedHeader encodedPayload encodedSignature header payload) :
    ∃ message, (provider.validateBearerToken cache now token).2 =
      .error (invalidToken message) := by
  -- a part that cannot be parsed is refused with the message of its place
  have hparse : ∀ encoded message, (∃ value, provider.parseJwtJson encoded message = .ok value) ∨
      provider.parseJwtJson encoded message = .error (invalidToken message) := by
    intro encoded message
    unfold parseJwtJson
    split
    · exact .inr rfl
    · exact .inl ⟨_, rfl⟩
  have hverified : ∃ message, (provider.verifiedPayload cache now (normalized token)).2 =
      .error (invalidToken message) := by
    unfold verifiedPayload
    split
    · rename_i encodedHeader encodedPayload encodedSignature hparts
      obtain ⟨header, hheader⟩ | hheader := hparse encodedHeader (js "Invalid JWT header")
      · obtain ⟨payload, hpayload⟩ | hpayload := hparse encodedPayload (js "Invalid JWT payload")
        · exact absurd ⟨hparts, hheader, hpayload⟩ (h _ _ _ _ _)
        · rw [hheader, hpayload]
          exact ⟨_, rfl⟩
      · rw [hheader]
        exact ⟨_, rfl⟩
    · exact ⟨_, rfl⟩
  obtain ⟨message, hmessage⟩ := hverified
  have hbind : (provider.validateBearerToken cache now token).2 =
      ((provider.verifiedPayload cache now (normalized token)).2 >>= fun p =>
        contextOf p.2 now p.1) := rfl
  rw [hbind, hmessage]
  exact ⟨message, rfl⟩

/-- What becomes of a token that decodes. -/
theorem sound_iff
    (h : provider.Decodes token encodedHeader encodedPayload encodedSignature header payload) :
    (Typed (provider.validateBearerToken cache now token).2 ∧
      ∀ auth, (provider.validateBearerToken cache now token).2 = .ok auth →
        ProperContext payload auth) ↔
      provider.Sound cache now encodedHeader encodedPayload encodedSignature header payload := by
  rw [validateBearerToken_of_decodes h, Sound, ← typed_resolveIssuerTrust, typed_bind]
  simp only [← resolveIssuerTrust_ok_iff, except_bind_ok_iff]
  rw [and_assoc]
  -- the issuer comes first: what follows is looked at only if it is known
  refine and_congr_right fun hissuer => ?_
  have hiss := (typed_resolveIssuerTrust.1 hissuer).issuer
  constructor
  · rintro ⟨htyped, hproper⟩ trust htrust
    obtain ⟨hsignature, hcontext⟩ := typed_bind.1 (htyped trust htrust)
    refine ⟨(typed_verifySignature (resolveIssuerTrust_ok_iff.1 htrust)).1 hsignature,
      fun hok => ?_⟩
    refine (contextOf_iff hiss).1 ⟨hcontext () hok, fun auth hauth => ?_⟩
    exact hproper auth ⟨trust, htrust, (), hok, hauth⟩
  · intro hsound
    refine ⟨fun trust htrust => ?_, ?_⟩
    · obtain ⟨hkeys, hclaims⟩ := hsound trust htrust
      refine typed_bind.2
        ⟨(typed_verifySignature (resolveIssuerTrust_ok_iff.1 htrust)).2 hkeys, fun _ hok => ?_⟩
      exact ((contextOf_iff hiss).2 (hclaims hok)).1
    · rintro auth ⟨trust, htrust, _, hok, hauth⟩
      exact ((contextOf_iff hiss).2 ((hsound trust htrust).2 hok)).2 auth hauth

/-- A token decodes in one way. -/
theorem Decodes.unique {encodedHeader' encodedPayload' encodedSignature' : JsString}
    {header' payload' : Json}
    (h : provider.Decodes token encodedHeader encodedPayload encodedSignature header payload)
    (h' : provider.Decodes token encodedHeader' encodedPayload' encodedSignature' header'
      payload') :
    encodedHeader' = encodedHeader ∧ encodedPayload' = encodedPayload ∧
      encodedSignature' = encodedSignature ∧ header' = header ∧ payload' = payload := by
  have hparts := h'.parts
  rw [h.parts] at hparts
  simp only [List.cons.injEq, and_true] at hparts
  obtain ⟨rfl, rfl, rfl⟩ := hparts
  have hheader := h'.header
  have hpayload := h'.payload
  rw [h.header] at hheader
  rw [h.payload] at hpayload
  exact ⟨rfl, rfl, rfl, (Except.ok.inj hheader).symm, (Except.ok.inj hpayload).symm⟩

/-- **Validation fails closed** exactly when the code can use the values of the token that it comes
to. -/
theorem failsClosed_iff (provider : JwtIssuerAuthProvider) (cache : JwksCache) (now : JsNumber)
    (token : JsString) :
    provider.FailsClosed cache now token ↔
      ∀ encodedHeader encodedPayload encodedSignature header payload,
        provider.Decodes token encodedHeader encodedPayload encodedSignature header payload →
          provider.Sound cache now encodedHeader encodedPayload encodedSignature header
            payload := by
  by_cases hdecodes : ∃ encodedHeader encodedPayload encodedSignature header payload,
      provider.Decodes token encodedHeader encodedPayload encodedSignature header payload
  · obtain ⟨encodedHeader, encodedPayload, encodedSignature, header, payload, h⟩ := hdecodes
    have hsound := @sound_iff provider cache now _ _ _ _ _ _ h
    constructor
    · rintro ⟨htyped, hproper⟩ _ _ _ _ _ h'
      -- a token decodes in one way
      obtain ⟨rfl, rfl, rfl, rfl, rfl⟩ := h.unique h'
      exact hsound.1 ⟨htyped, fun auth hauth => hproper auth hauth _ _ _ _ _ h⟩
    · intro hall
      obtain ⟨htyped, hproper⟩ := hsound.2 (hall _ _ _ _ _ h)
      refine ⟨htyped, fun auth hauth _ _ _ _ _ h' => ?_⟩
      obtain ⟨rfl, rfl, rfl, rfl, rfl⟩ := h.unique h'
      exact hproper auth hauth
  · simp only [not_exists] at hdecodes
    obtain ⟨message, herror⟩ :=
      @validateBearerToken_of_not_decodes provider cache now token hdecodes
    refine iff_of_true ⟨?_, ?_⟩ fun _ _ _ _ _ h => absurd h (hdecodes _ _ _ _ _)
    · rw [herror]
      exact typed_error.2 (isAuth_invalidToken _)
    · exact fun _ _ _ _ _ _ _ h => absurd h (hdecodes _ _ _ _ _)

/-! ### A payload that is null -/

/-- A token whose payload is `null`. -/
def nullToken : JsString := js "eyJhbGciOiJSUzI1NiJ9.bnVsbA.c2ln"

/-- The text of an error of the language. -/
def languageError {α : Type} : Except Thrown α → Option JsString
  | .error (.other message) => some message
  | _ => none

/-- Its issuer is looked up in `null`, which throws an error of the language. -/
theorem not_failsClosed_nullToken : ¬oneIssuer.FailsClosed .empty (.ofNat 0) nullToken := by
  have hnull : languageError (oneIssuer.validateBearerToken .empty (.ofNat 0) nullToken).2 =
      some (js "TypeError") := by
    decide +kernel
  rintro ⟨htyped, -⟩
  cases hresult : (oneIssuer.validateBearerToken .empty (.ofNat 0) nullToken).2 with
  | error error =>
    rw [hresult] at hnull
    cases error with
    | hardess error => cases hnull
    | other message => exact htyped _ hresult
  | ok auth =>
    rw [hresult] at hnull
    cases hnull

end JwtIssuerAuthProvider

end Hardess
