import Hardess.Ingress.Http
import Hardess.Lib.JsMapIndex

/-!
# How often a request is forwarded

A request goes from node to node. What a node is like when the request gets there is arbitrary: a
`Network` says it for each hop and each base URL.

* `arrival`, `nthForward`: where the request is after some hops, and what is sent from there;
* `forwardHop_arrival`: the number in the header counts the hops, starting from what the client has
  written into it;
* **`forwardsBounded_iff`**: the bound holds for a request exactly when that is a number, and not
  one below half a unit in the last place under zero.
-/

namespace Hardess

/-- The node behind a base URL when the request comes there as its nth hop, if it gets there. -/
abbrev Network := ℕ → JsString → Option HttpRuntimeDeps

namespace Request

variable (network : Network) (deps : HttpRuntimeDeps) (request : Request)

/-- The node where the request is after some hops, and the request there. -/
def arrival : ℕ → Option (HttpRuntimeDeps × Request)
  | 0 => some (deps, request)
  | n + 1 => do
    let (here, request) ← arrival n
    let forward ← (here.handleHttpRequest request).forward?
    let there ← network n forward.target.baseUrl
    let request ← (there.accept forward).toOption
    some (there, request)

/-- What is sent to another node after some hops. -/
def nthForward (n : ℕ) : Option InternalForward :=
  (arrival network deps request n).bind fun here => (here.1.handleHttpRequest here.2).forward?

/-- In every network and from every node in it, the request is forwarded at most
`maxInternalForwardHops` times. -/
def ForwardsBounded : Prop :=
  ∀ network deps n, (nthForward network deps request n).isSome = true → n < maxInternalForwardHops

/-! ### What a hop does to the header -/

theorem get_setAll (added : List (JsString × JsString)) (headers : Headers) (k : JsString) :
    (setAll headers added).get k =
      ((added.reverse.find? fun header => header.1 = k).map Prod.snd).or (headers.get k) :=
  JsMap.get_foldl_set Prod.fst Prod.snd added headers k

variable {network deps request}

/-- What is sent says which hop it is and which path it is for, and has the secret. -/
theorem get_sentHeaders :
    (deps.sentHeaders request).get internalForwardHopHeader =
        some (JsNumber.text (request.forwardHop.add (.ofNat 1))) ∧
      (deps.sentHeaders request).get internalForwardPathHeader = some request.url.href ∧
        ∀ secret, givenSecret deps.clusterSharedSecret = some secret →
          (deps.sentHeaders request).get clusterSecretHeader = some secret := by
  have hall : ∀ headers : Headers,
      (setAll headers (deps.forwardHeaders request)).get internalForwardHopHeader =
          some (JsNumber.text (request.forwardHop.add (.ofNat 1))) ∧
        (setAll headers (deps.forwardHeaders request)).get internalForwardPathHeader =
            some request.url.href ∧
          ∀ secret, givenSecret deps.clusterSharedSecret = some secret →
            (setAll headers (deps.forwardHeaders request)).get clusterSecretHeader =
              some secret := by
    intro headers
    simp only [get_setAll]
    unfold HttpRuntimeDeps.forwardHeaders
    cases givenSecret deps.clusterSharedSecret <;>
      simp [internalForwardHopHeader, internalForwardPathHeader, traceIdHeader, clusterSecretHeader]
  unfold HttpRuntimeDeps.sentHeaders
  split_ifs
  · exact hall _
  · exact hall request.headers

/-- What is forwarded internally: the hops are not used up, and a target is resolved. -/
theorem tryForwardInternally_eq_some_iff {forward : InternalForward} :
    deps.tryForwardInternally request = some forward ↔
      request.forwardHop.ge (.ofNat maxInternalForwardHops) = false ∧
        ∃ store target, deps.topologyStore = some store ∧
          store.resolveHttpRouteTarget request.url.pathname deps.nodeId
            (some (deps.traceId request ++ js ":" ++ request.url.href)) = some target ∧
          forward = { target, webSocket := isWebSocketUpgradeRequest request,
                      headers := deps.sentHeaders request } := by
  unfold HttpRuntimeDeps.tryForwardInternally
  cases request.forwardHop.ge (.ofNat maxInternalForwardHops) with
  | true => simp
  | false =>
    simp only [Bool.false_eq_true, if_false, Option.bind_eq_bind, Option.bind_eq_some_iff,
      Option.some.injEq, true_and, eq_comm (b := forward)]
    constructor
    · rintro ⟨store, hstore, target, htarget, rfl⟩
      exact ⟨store, target, hstore, htarget, rfl⟩
    · rintro ⟨store, target, hstore, htarget, rfl⟩
      exact ⟨store, hstore, target, htarget, rfl⟩

/-- A node forwards what it has no pipeline for. -/
theorem forward?_eq_some_iff {forward : InternalForward} :
    (deps.handleHttpRequest request).forward? = some forward ↔
      findPipeline request.url.pathname deps.pipelines = none ∧
        deps.tryForwardInternally request = some forward := by
  unfold HttpRuntimeDeps.handleHttpRequest
  cases findPipeline request.url.pathname deps.pipelines with
  | some pipeline =>
    simp only [reduceCtorEq, false_and, iff_false]
    split_ifs <;> simp [HttpOutcome.forward?]
  | none => cases deps.tryForwardInternally request <;> simp [HttpOutcome.forward?]

theorem forward_headers {forward : InternalForward}
    (h : (deps.handleHttpRequest request).forward? = some forward) :
    forward.headers = deps.sentHeaders request := by
  obtain ⟨-, -, -, -, -, rfl⟩ := tryForwardInternally_eq_some_iff.1 (forward?_eq_some_iff.1 h).2
  rfl

/-- Taking a forward in keeps its hop. -/
theorem forwardHop_accept {forward : InternalForward} {request' : Request}
    (h : (deps.accept forward).toOption = some request') :
    request'.headers.get internalForwardHopHeader =
      forward.headers.get internalForwardHopHeader := by
  have hfinish : ∀ finish : Headers → Headers,
      (∀ headers, (finish headers).get internalForwardHopHeader =
        headers.get internalForwardHopHeader) →
      (deps.acceptForward finish forward.headers).toOption = some request' →
        request'.headers.get internalForwardHopHeader =
          forward.headers.get internalForwardHopHeader := by
    intro finish hget hok
    unfold HttpRuntimeDeps.acceptForward at hok
    split_ifs at hok
    · exact absurd hok (by simp [Except.toOption])
    dsimp only at hok
    split_ifs at hok
    · cases hok
      rw [hget, JsMap.get_delete_of_ne _ (by simp [internalForwardHopHeader,
        internalForwardPathHeader]), JsMap.get_delete_of_ne _ (by simp [internalForwardHopHeader,
        clusterSecretHeader])]
    · exact absurd hok (by simp [Except.toOption])
  unfold HttpRuntimeDeps.accept at h
  split_ifs at h
  · refine hfinish _ (fun headers => ?_) h
    rw [JsMap.get_set_of_ne _ (by simp [internalForwardHopHeader]),
      JsMap.get_set_of_ne _ (by simp [internalForwardHopHeader])]
  · exact hfinish id (fun _ => rfl) h

/-- One hop adds one to the number in the header. -/
theorem forwardHop_step {here there : HttpRuntimeDeps} {forward : InternalForward}
    {request' : Request} (hf : (here.handleHttpRequest request).forward? = some forward)
    (ha : (there.accept forward).toOption = some request') :
    request'.forwardHop = request.forwardHop.add (.ofNat 1) := by
  rw [forwardHop, forwardHop_accept ha, forward_headers hf, get_sentHeaders.1, Option.getD_some,
    JsNumber.toNumber_text]

/-- A node that has no other secret than the sender takes the forward in, for the same URL. -/
theorem exists_accept {here there : HttpRuntimeDeps} {forward : InternalForward}
    (hf : (here.handleHttpRequest request).forward? = some forward)
    (hs : ∀ secret, givenSecret there.clusterSharedSecret = some secret →
      givenSecret here.clusterSharedSecret = some secret) :
    ∃ request', (there.accept forward).toOption = some request' ∧ request'.url = request.url := by
  obtain ⟨-, hpath, hsecret⟩ := @get_sentHeaders here request
  rw [← forward_headers hf] at hpath hsecret
  have hopen : (givenSecret there.clusterSharedSecret).any (fun secret =>
      forward.headers.get clusterSecretHeader ≠ some secret) = false := by
    cases hgiven : givenSecret there.clusterSharedSecret with
    | none => rfl
    | some secret => simp [hsecret secret (hs secret hgiven)]
  have haccept : ∀ finish : Headers → Headers, ∃ request',
      (there.acceptForward finish forward.headers).toOption = some request' ∧
        request'.url = request.url := by
    intro finish
    rw [HttpRuntimeDeps.acceptForward, hopen, hpath, if_neg (by decide), Option.getD_some]
    dsimp only
    rw [dif_pos request.url.href_absolute]
    exact ⟨_, rfl, Url.parse_href request.url request.url.href_absolute⟩
  unfold HttpRuntimeDeps.accept
  split_ifs
  · exact haccept _
  · exact haccept _

theorem arrival_succ {n : ℕ} {there : HttpRuntimeDeps × Request}
    (h : arrival network deps request (n + 1) = some there) :
    ∃ here forward, arrival network deps request n = some here ∧
      nthForward network deps request n = some forward ∧
        (there.1.accept forward).toOption = some there.2 ∧
        (here.1.handleHttpRequest here.2).forward? = some forward := by
  obtain ⟨⟨here, r⟩, hhere, h⟩ := Option.bind_eq_some_iff.1 h
  obtain ⟨forward, hforward, h⟩ := Option.bind_eq_some_iff.1 h
  obtain ⟨next, -, h⟩ := Option.bind_eq_some_iff.1 h
  obtain ⟨r', hr', h⟩ := Option.bind_eq_some_iff.1 h
  cases h
  refine ⟨(here, r), forward, hhere, ?_, hr', hforward⟩
  rw [nthForward, hhere, Option.bind_some, hforward]

/-- **The header counts the hops**, starting from the number that the client has written. -/
theorem forwardHop_arrival {n : ℕ} {here : HttpRuntimeDeps × Request}
    (h : arrival network deps request n = some here) :
    here.2.forwardHop = (fun hop => hop.add (.ofNat 1))^[n] request.forwardHop := by
  induction n generalizing here with
  | zero => cases h; rfl
  | succ n ih =>
    obtain ⟨before, forward, hbefore, -, hr, hf⟩ := arrival_succ h
    rw [forwardHop_step hf hr, ih hbefore, Function.iterate_succ_apply']

/-- What is forwarded after some hops has been forwarded after fewer. -/
theorem nthForward_isSome_of_le {m n : ℕ} (hle : m ≤ n)
    (h : (nthForward network deps request n).isSome = true) :
    (nthForward network deps request m).isSome = true := by
  induction n, hle using Nat.le_induction with
  | base => exact h
  | succ n _ ih =>
    obtain ⟨forward, hforward⟩ := Option.isSome_iff_exists.1 h
    obtain ⟨there, hthere, -⟩ := Option.bind_eq_some_iff.1 hforward
    obtain ⟨_, forward', -, hn, -⟩ := arrival_succ hthere
    exact ih (by rw [hn, Option.isSome_some])

/-! ### The bound -/

/-- A route to another host for every path. -/
def relayRoute : PlacementRoute where
  routeId := js "all"
  pathPrefix := js "/"
  ownerHostIds := [js "host-2"]

/-- What a relay knows: another host, and the route to it. -/
def relayStore : HttpTopologyStore where
  precedes := fun _ _ => true
  hosts := [{ hostId := js "host-2", nodeId := some (js "node-2"),
              publicBaseUrl := some (js "http://node-2") }]
  deployments := [{ deploymentId := js "app", deploymentKind := .httpWorker,
                    ownerHostIds := [js "host-2"], routes := [relayRoute] }]

/-- A node without pipelines that knows where every path goes. -/
def relay : HttpRuntimeDeps where
  pipelines := []
  nodeId := some (js "node-1")
  topologyStore := some relayStore
  randomUUID := js "trace"

theorem relayStore_resolves (url : Url) (traceKey : Option JsString) :
    (relayStore.resolveHttpRouteTarget url.pathname (some (js "node-1")) traceKey).isSome =
      true := by
  have hroutes : relayStore.routes = [relayRoute] := rfl
  have hmatches : relayRoute.pathPrefix <+: url.pathname := by
    obtain ⟨us, hus⟩ := List.head?_eq_some_iff.1 url.absolute
    exact ⟨us, hus.symm⟩
  refine HttpTopologyStore.resolveHttpRouteTarget_isSome_iff.2 ⟨relayRoute, ?_, ?_⟩
  · simp [HttpTopologyStore.findBestRoute, hroutes, LongestMatch.better, hmatches]
  · decide +kernel

/-- A relay forwards every request whose hops are not used up. -/
theorem relay_forwards (h : request.forwardHop.ge (.ofNat maxInternalForwardHops) = false) :
    ((relay.handleHttpRequest request).forward?).isSome = true := by
  obtain ⟨target, htarget⟩ := Option.isSome_iff_exists.1
    (relayStore_resolves request.url (some (relay.traceId request ++ js ":" ++ request.url.href)))
  exact Option.isSome_iff_exists.2 ⟨_, forward?_eq_some_iff.2
    ⟨rfl, tryForwardInternally_eq_some_iff.2 ⟨h, relayStore, target, rfl, htarget, rfl⟩⟩⟩

/-- Among relays a request is forwarded again. -/
theorem relay_nthForward {n : ℕ}
    (h : (nthForward (fun _ _ => some relay) relay request n).isSome = true) :
    ∃ request', arrival (fun _ _ => some relay) relay request (n + 1) = some (relay, request') := by
  obtain ⟨forward, hforward⟩ := Option.isSome_iff_exists.1 h
  obtain ⟨⟨here, r⟩, hhere, hsent⟩ := Option.bind_eq_some_iff.1 hforward
  obtain ⟨r', hr', -⟩ := exists_accept hsent fun secret (h : givenSecret relay.clusterSharedSecret =
    some secret) => absurd h (by simp [relay, givenSecret])
  refine ⟨r', ?_⟩
  rw [arrival, hhere]
  simp only [Option.bind_eq_bind, Option.bind_some]
  rw [hsent]
  simp only [Option.bind_some, hr']

/-- Is the hop that a client has written one that leaves the bound in force? -/
def HopCounts (request : Request) : Prop :=
  request.forwardHop ≠ .nan ∧ request.forwardHop.lt (.ofRat (-(1 / 2 ^ 54))) = false

theorem hopCounts_iff :
    request.HopCounts ↔
      (request.forwardHop.add (.ofNat 1)).ge (.ofNat maxInternalForwardHops) = true := by
  have hone : JsNumber.ofNat maxInternalForwardHops ≠ .nan := by decide +kernel
  rw [HopCounts, JsNumber.ge, Bool.and_eq_true, decide_eq_true_eq, Bool.not_eq_true', ne_eq, ne_eq,
    JsNumber.add_one_eq_nan, maxInternalForwardHops, JsNumber.add_one_lt_one]
  tauto

/-- **The bound on the forwards holds for a request exactly when its header has no hop, or one that
reads as a number and not as one below half a unit in the last place under zero.** -/
theorem forwardsBounded_iff :
    request.ForwardsBounded ↔ request.HopCounts := by
  rw [hopCounts_iff]
  constructor
  · intro h
    by_contra hge
    rw [Bool.not_eq_true] at hge
    -- relays forward the request, and then forward it once more
    have hfirst : request.forwardHop.ge (.ofNat maxInternalForwardHops) = false := by
      by_contra hone
      rw [Bool.not_eq_false] at hone
      rw [maxInternalForwardHops, JsNumber.add_one_ge_one hone] at hge
      exact absurd hge (by decide)
    obtain ⟨request', harrival⟩ := @relay_nthForward request 0 (by
      rw [nthForward, arrival, Option.bind_some]
      exact relay_forwards hfirst)
    have hhop : request'.forwardHop = request.forwardHop.add (.ofNat 1) :=
      forwardHop_arrival harrival
    have hsecond : (nthForward (fun _ _ => some relay) relay request 1).isSome = true := by
      rw [nthForward, harrival, Option.bind_some]
      exact relay_forwards (by rw [hhop, hge])
    exact absurd (h _ _ 1 hsecond) (by decide)
  · intro hge network deps n hn
    by_contra hlt
    -- what is forwarded more often is forwarded a second time
    have hsecond := nthForward_isSome_of_le (m := 1) (not_lt.1 hlt) hn
    obtain ⟨forward, hforward⟩ := Option.isSome_iff_exists.1 hsecond
    obtain ⟨here, harrival, hsent⟩ := Option.bind_eq_some_iff.1 hforward
    have hhop : here.2.forwardHop = request.forwardHop.add (.ofNat 1) :=
      forwardHop_arrival harrival
    have hused := (tryForwardInternally_eq_some_iff.1 (forward?_eq_some_iff.1 hsent).2).1
    rw [hhop, hge] at hused
    exact absurd hused (by decide)

/-! ### Two nodes that send a request back and forth -/

/-- A node that knows the other one as the owner of every path. -/
def towards (self other : JsString) (baseUrl : JsString) : HttpRuntimeDeps where
  pipelines := []
  nodeId := some self
  topologyStore := some
    { precedes := fun _ _ => true
      hosts := [{ hostId := other, nodeId := some other, publicBaseUrl := some baseUrl }]
      deployments := [{ deploymentId := js "app", deploymentKind := .httpWorker,
                        ownerHostIds := [other],
                        routes := [{ routeId := js "all", pathPrefix := js "/",
                                     ownerHostIds := [other] }] }] }
  randomUUID := js "trace"

/-- Two nodes whose topologies name each other. -/
def pingPong : Network := fun _ baseUrl =>
  if baseUrl = js "http://a" then some (towards (js "a") (js "b") (js "http://b"))
  else if baseUrl = js "http://b" then some (towards (js "b") (js "a") (js "http://a"))
  else none

/-- A client asks for `/` with a hop that is no number. -/
def wordHop : Request where
  url := { pathname := js "/", search := [], absolute := by decide, plain := by decide
           query := Url.no_query }
  headers := JsMap.empty.set internalForwardHopHeader (js "abc")

/-- It is sent on a third time. -/
theorem not_forwardsBounded_word : ¬∀ request : Request, request.ForwardsBounded := by
  intro h
  have hthird : (nthForward pingPong (towards (js "a") (js "b") (js "http://b")) wordHop 2).isSome =
      true := by decide +kernel
  exact absurd (h wordHop pingPong _ 2 hthird) (by decide)

end Request

end Hardess
