import Hardess.Auth.AuthService
import Hardess.Ingress.ForwardHops
import Hardess.Proxy.Upstream

/-!
# Who an upstream is told the client is

A request may be forwarded between nodes before one of them proxies it. The node that does so
validates the token of the request that reaches it, or a fixed one where the pipeline asks for none.

* `AuthServiceState.LetsIn`: what the service of the node answers to a token;
* `authorization_arrival`: the token is that of the client, whatever way the request went;
* **`identity_arrival`**: what the upstream is told.
-/

namespace Hardess

/-! ### The service -/

namespace AuthServiceState

variable {platform : JwtPlatform} {name : JsString} {given : List AuthProvider}
  {es : List AuthServiceEvent} {k : ℕ} {auth : AuthContext}

/-- In a run of a service, its call `k` is one of `validateBearerToken` that has been answered with
the context. -/
def LetsIn (platform : JwtPlatform) (name : JsString) (given : List AuthProvider)
    (es : List AuthServiceEvent) (k : ℕ) (token : Option JsString) (auth : AuthContext) : Prop :=
  Machine.Past step (create platform name given) es
      (fun s e => s.calls.length = k ∧ e = .validateBearerToken token) ∧
    ∃ (call : AuthCall) (granted : JwtAuthContext),
      (Machine.run step (create platform name given) es).calls[k]? = some call ∧
        call.settlement = some (.ok granted) ∧ granted.narrow = some auth

/-- Nobody is let in without a token. -/
theorem LetsIn.grants {token : Option JsString} (h : LetsIn platform name given es k token auth) :
    ∃ text, token = some text ∧ Grants platform name given es k (.bearer text) auth := by
  obtain ⟨⟨before, _, after, rfl, hlength, rfl⟩, call, granted, hcall, hsettled, hnarrow⟩ := h
  have hsound := (sound_run platform name given _).calls call (List.mem_of_getElem? hcall)
  have htells := tells_run platform name given _ k call hcall
  -- the call is the one that was made with the token
  have hmade : ∃ made, (Machine.run step (create platform name given)
      before).Fresh (.validateBearerToken token) made ∧ call.request = made.request ∧
        call.providers = made.providers := by
    rw [Machine.run_append, Machine.run_cons] at hcall
    generalize Machine.run step (create platform name given) before = s at hcall hlength
    obtain ⟨made, hmade, hfresh⟩ := fresh_validateBearerToken s token
    have hget : (s.step (.validateBearerToken token)).calls[k]? = some made := by
      rw [show (s.step (.validateBearerToken token)).calls = _ from hmade, ← hlength,
        List.getElem?_concat_length]
    obtain ⟨call', hcall', hrequest, hproviders⟩ := call_run after hget
    obtain rfl := Option.some.inj (hcall'.symm.trans hcall)
    exact ⟨made, hfresh, hrequest, hproviders⟩
  obtain ⟨made, hfresh, hrequest, hproviders⟩ := hmade
  have hmakes := hfresh.made
  rw [← hrequest, ← hproviders] at hmakes
  generalize hasked : call.request = asked at hmakes
  generalize hlist : call.providers = providers at hmakes
  cases hmakes with
  | missing =>
    -- without a provider nobody is let in
    cases hsound.settled _ hsettled with
    | @accepted earlier answer _ ha =>
      obtain ⟨provider, -, hprovider, -⟩ := hsound.answered earlier.length answer (by
        rw [ha, List.getElem?_concat_length])
      rw [hlist] at hprovider
      cases hprovider
  | bearer =>
    exact ⟨_, rfl, call, granted, hcall, hasked, hsettled, hnarrow, hsound, htells⟩

end AuthServiceState

/-! ### The request -/

namespace Request

variable {network : Network} {deps here : HttpRuntimeDeps} {request request' : Request}

/-- A forward takes the token along. -/
theorem authorization_sentHeaders :
    (deps.sentHeaders request).get authorizationHeader =
      request.headers.get authorizationHeader := by
  have hadded : lastValue (deps.forwardHeaders request) authorizationHeader = none := by
    unfold HttpRuntimeDeps.forwardHeaders lastValue
    cases givenSecret deps.clusterSharedSecret <;>
      simp [internalForwardHopHeader, internalForwardPathHeader, traceIdHeader,
        clusterSecretHeader, authorizationHeader]
  unfold HttpRuntimeDeps.sentHeaders
  split_ifs
  · rw [sanitizeHeadersForForwardedWebSocket, get_setAll_or, hadded, Option.none_or,
      get_foldl_delete, if_neg]
    simp [hopByHopHeaders, upstreamHandshakeHeaders, authorizationHeader]
  · rw [get_setAll_or, hadded, Option.none_or]

/-- And it is taken in as it is. -/
theorem authorization_accept {forward : InternalForward}
    (h : (deps.accept forward).toOption = some request') :
    request'.headers.get authorizationHeader = forward.headers.get authorizationHeader := by
  have hfinish : ∀ finish : Headers → Headers,
      (∀ headers : Headers, (finish headers).get authorizationHeader =
        headers.get authorizationHeader) →
      (deps.acceptForward finish forward.headers).toOption = some request' →
        request'.headers.get authorizationHeader = forward.headers.get authorizationHeader := by
    intro finish hget hsome
    unfold HttpRuntimeDeps.acceptForward at hsome
    split_ifs at hsome with hsecret
    · cases hsome
    dsimp only at hsome
    split_ifs at hsome
    · cases hsome
      rw [hget, JsMap.get_delete_of_ne _ (by simp [authorizationHeader, internalForwardPathHeader]),
        JsMap.get_delete_of_ne _ (by simp [authorizationHeader, clusterSecretHeader])]
    · cases hsome
  unfold HttpRuntimeDeps.accept at h
  split_ifs at h
  · refine hfinish _ (fun headers => ?_) h
    rw [JsMap.get_set_of_ne _ (by simp [authorizationHeader]),
      JsMap.get_set_of_ne _ (by simp [authorizationHeader])]
  · exact hfinish id (fun _ => rfl) h

/-- **The token that a node validates is the client's.** -/
theorem authorization_arrival {n : ℕ} (h : arrival network deps request n = some (here, request')) :
    request'.headers.get authorizationHeader = request.headers.get authorizationHeader := by
  induction n generalizing here request' with
  | zero => cases h; rfl
  | succ n ih =>
    simp only [arrival, Option.bind_eq_bind, Option.bind_eq_some_iff, Option.some.injEq] at h
    obtain ⟨⟨before, r⟩, hbefore, forward, hforward, there, -, r', haccept, heq⟩ := h
    cases heq
    rw [authorization_accept haccept, forward_headers hforward, authorization_sentHeaders,
      ih hbefore]

/-- The token that `handleHttpRequest` has validated; `required` is `auth.required` of the
pipeline. -/
def validatedToken (required : Option Bool) (request : Request) : Option JsString :=
  if required = some false then some (js "demo:anonymous")
  else request.headers.get authorizationHeader

/-- A client that claims to be somebody else, and whose request is forwarded once. -/
def impostor : Request :=
  { wordHop with headers :=
      ((JsMap.empty.set (js "x-hardess-peer-id") (js "bob")).set authorizationHeader
        (js "Bearer demo:alice")).set (js "connection") (js "keep-alive") }

/-- The demo is asked with a token, and answers. -/
def demoAnswers : List AuthServiceEvent :=
  [.validateBearerToken (some (js "Bearer demo:alice")), .answer 0 (.ofNat 0) (.error typeError)]

/-- It lets the token in as Alice. -/
theorem letsIn_alice : AuthServiceState.LetsIn JwtIssuerAuthProvider.asciiPlatform (js "bearer")
    [.demo] demoAnswers 0 (some (js "Bearer demo:alice"))
    ⟨js "alice", js "demo:alice", [js "notify.conn", js "push.system"],
      (JsNumber.ofNat 0).add (.ofNat (60 * 60 * 1000)), none⟩ :=
  ⟨⟨[], _, _, rfl, rfl, rfl⟩, _, _, rfl, rfl, rfl⟩

end Request

end Hardess
