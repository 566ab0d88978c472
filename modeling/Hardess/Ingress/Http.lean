import Hardess.Control.TopologyStore
import Hardess.Lib.NumberOrder
import Hardess.Shared.Config
import Mathlib

/-!
# HTTP requests at a node

How `handleHttpRequest` of `src/runtime/ingress/http.ts` routes a request: to a pipeline of the
node, to another node, or nowhere; and the two handlers of `src/runtime/app.ts` that take a
forwarded request in.

* `tryForwardInternally` writes the hop, the path, the trace and the secret into the headers of what
  it sends, over HTTP and over a websocket;
* `acceptForward` reads the path back; `Url.parse_href` is what it relies on;
* what a pipeline does with its request (authentication, worker, upstream) is not followed.
-/

namespace Hardess

/-! ### Requests -/

/-- The path and the query of a URL, as `new URL` leaves them. -/
@[ext] structure Url where
  pathname : JsString
  search : JsString
  absolute : pathname.head? = some (unit '/')
  plain : unit '?' ∉ pathname ∧ unit '#' ∉ pathname ∧ unit '#' ∉ search
  query : search = [] ∨ search.head? = some (unit '?') ∧ search.length ≠ 1

namespace Url

instance : DecidableEq Url := fun _ _ => decidable_of_iff _ Url.ext_iff.symm

/-- A URL may have no query. -/
theorem no_query : ([] : JsString) = [] ∨
    ([] : JsString).head? = some (unit '?') ∧ ([] : JsString).length ≠ 1 := .inl rfl

/-- The two in one text. -/
def href (url : Url) : JsString := url.pathname ++ url.search

/-- The path up to its query, and the query up to a fragment. -/
def splitPath (path : JsString) : JsString × JsString :=
  let path := path.takeWhile (· ≠ unit '#')
  let query := path.dropWhile (· ≠ unit '?')
  (path.takeWhile (· ≠ unit '?'), if query.length = 1 then [] else query)

/-- `new URL` of an origin and an absolute path. Dot segments and characters that have to be
encoded are not looked at: the text of a URL has none of them left. -/
def parse (path : JsString) (h : path.head? = some (unit '/')) : Url where
  pathname := (splitPath path).1
  search := (splitPath path).2
  absolute := by
    obtain ⟨us, rfl⟩ := List.head?_eq_some_iff.1 h
    simp [splitPath, unit]
  plain := by
    have hhash : unit '#' ∉ path.takeWhile (· ≠ unit '#') := fun h => by
      simpa using List.mem_takeWhile_imp h
    refine ⟨fun h => by simpa using List.mem_takeWhile_imp h,
      fun h => hhash ((List.takeWhile_sublist _).subset h), fun h => hhash ?_⟩
    simp only [splitPath] at h
    split_ifs at h
    · exact absurd h List.not_mem_nil
    · exact (List.dropWhile_sublist _).subset h
  query := by
    simp only [splitPath]
    split_ifs with hone
    · exact Or.inl rfl
    · have hhead := List.head?_dropWhile_not (· ≠ unit '?') (path.takeWhile (· ≠ unit '#'))
      cases hq : (path.takeWhile (· ≠ unit '#')).dropWhile (· ≠ unit '?') with
      | nil => exact Or.inl rfl
      | cons u us =>
        rw [hq] at hhead hone
        exact Or.inr ⟨by simpa using hhead, hone⟩

/-- **The text of a URL is read back.** -/
theorem parse_href (url : Url) (h : url.href.head? = some (unit '/')) : parse url.href h = url := by
  have hpath : ∀ u ∈ url.pathname, u ≠ unit '?' ∧ u ≠ unit '#' := fun u hu =>
    ⟨fun e => url.plain.1 (e ▸ hu), fun e => url.plain.2.1 (e ▸ hu)⟩
  have hhash : url.href.takeWhile (· ≠ unit '#') = url.href := by
    rw [List.takeWhile_eq_self_iff]
    intro u hu
    rcases List.mem_append.1 hu with hu | hu
    · simpa using (hpath u hu).2
    · have hne : u ≠ unit '#' := fun e => url.plain.2.2 (e ▸ hu)
      simpa using hne
  have htake : url.search.takeWhile (· ≠ unit '?') = [] ∧
      url.search.dropWhile (· ≠ unit '?') = url.search := by
    rcases url.query with hq | ⟨hq, -⟩
    · simp [hq]
    · obtain ⟨us, hus⟩ := List.head?_eq_some_iff.1 hq
      simp [hus]
  have hlen : url.search.length ≠ 1 := by
    rcases url.query with hq | ⟨-, hq⟩
    · simp [hq]
    · exact hq
  have hpos : ∀ u ∈ url.pathname, decide (u ≠ unit '?') = true := fun u hu =>
    decide_eq_true (hpath u hu).1
  have hsplit : splitPath url.href = (url.pathname, url.search) := by
    rw [splitPath, hhash, href, List.takeWhile_append_of_pos hpos, List.dropWhile_append_of_pos hpos,
      htake.1, htake.2, List.append_nil, if_neg hlen]
  exact Url.ext (congrArg Prod.fst hsplit) (congrArg Prod.snd hsplit)

/-- It starts with a slash. -/
theorem href_absolute (url : Url) : url.href.head? = some (unit '/') := by
  obtain ⟨us, hus⟩ := List.head?_eq_some_iff.1 url.absolute
  simp [href, hus]

end Url

/-- `Headers`: the names are in lower case. -/
abbrev Headers := JsMap JsString JsString

/-- A `Request`, without its method and body. -/
structure Request where
  url : Url
  headers : Headers

/-- `toLowerCase`, of ASCII letters. -/
def toLowerCase (s : JsString) : JsString :=
  s.map fun u => if 65 ≤ u.toNat ∧ u.toNat ≤ 90 then u + 32 else u

/-- `isWebSocketUpgradeRequest`. -/
def isWebSocketUpgradeRequest (request : Request) : Bool :=
  (request.headers.get (js "upgrade")).map toLowerCase = some (js "websocket")

/-! ### Routing at a node -/

/-- `INTERNAL_FORWARD_HOP_HEADER`. -/
def internalForwardHopHeader : JsString := js "x-hardess-forward-hop"

/-- `INTERNAL_FORWARD_PATH_HEADER`. -/
def internalForwardPathHeader : JsString := js "x-hardess-forward-path"

/-- The header of the trace. -/
def traceIdHeader : JsString := js "x-trace-id"

/-- The header of the secret that the nodes of a cluster share. -/
def clusterSecretHeader : JsString := js "x-hardess-cluster-secret"

/-- `MAX_INTERNAL_FORWARD_HOPS`. -/
def maxInternalForwardHops : ℕ := 1

/-- `HOP_BY_HOP_HEADERS`. -/
def hopByHopHeaders : List JsString :=
  [js "connection", js "keep-alive", js "proxy-authenticate", js "proxy-authorization", js "te",
   js "trailer", js "transfer-encoding", js "upgrade", js "host"]

/-- `UPSTREAM_HANDSHAKE_HEADERS`. -/
def upstreamHandshakeHeaders : List JsString :=
  [js "sec-websocket-key", js "sec-websocket-version", js "sec-websocket-extensions",
   js "sec-websocket-accept"]

/-- `HttpRuntimeDeps`, with the pipelines of the live configuration and the next value of
`crypto.randomUUID`. -/
structure HttpRuntimeDeps where
  pipelines : List PipelineConfig
  nodeId : Option JsString := none
  clusterSharedSecret : Option JsString := none
  topologyStore : Option HttpTopologyStore := none
  randomUUID : JsString

/-- What a node sends to another one: the path of the handler depends on `webSocket`. -/
structure InternalForward where
  target : ResolvedHttpRouteTarget
  webSocket : Bool
  headers : Headers

/-- What becomes of a request. -/
inductive HttpOutcome
  /-- A pipeline of the node takes it. -/
  | pipeline (pipeline : PipelineConfig)
  /-- The pipeline takes no websockets: 426. -/
  | webSocketDisabled (pipeline : PipelineConfig)
  /-- It is sent to another node. -/
  | forwarded (forward : InternalForward)
  /-- `ROUTE_NO_RECIPIENT`, with its message. -/
  | noRecipient (message : JsString)

/-- The forward, if it is one. -/
def HttpOutcome.forward? : HttpOutcome → Option InternalForward
  | .forwarded forward => some forward
  | _ => none

/-- `findPipeline`. -/
def findPipeline (pathname : JsString) (pipelines : List PipelineConfig) : Option PipelineConfig :=
  (pipelines.insertionSort fun left right =>
    right.matchPrefix.length ≤ left.matchPrefix.length).find? fun pipeline =>
      pipeline.matchPrefix <+: pathname

/-- Set headers one after the other. -/
def setAll (headers : Headers) (added : List (JsString × JsString)) : Headers :=
  added.foldl (fun headers header => headers.set header.1 header.2) headers

/-- `sanitizeHeadersForForwardedWebSocket`. -/
def sanitizeHeadersForForwardedWebSocket (headers : Headers)
    (extraHeaders : List (JsString × JsString)) : Headers :=
  setAll ((hopByHopHeaders ++ upstreamHandshakeHeaders ++ [js "sec-websocket-protocol"]).foldl
    JsMap.delete headers) extraHeaders

/-- The secret, where it is given and not empty. -/
def givenSecret (secret : Option JsString) : Option JsString := secret.filter (· ≠ [])

/-- `forwardHop` of `handleHttpRequest`. -/
def Request.forwardHop (request : Request) : JsNumber :=
  JsNumber.toNumber ((request.headers.get internalForwardHopHeader).getD (js "0"))

namespace HttpRuntimeDeps

variable (deps : HttpRuntimeDeps) (request : Request)

/-- `traceId`. -/
def traceId : JsString := (request.headers.get traceIdHeader).getD deps.randomUUID

/-- The headers that a forward adds. -/
def forwardHeaders : List (JsString × JsString) :=
  [(internalForwardHopHeader, JsNumber.text (request.forwardHop.add (.ofNat 1))),
   (internalForwardPathHeader, request.url.href),
   (traceIdHeader, deps.traceId request)] ++
    ((givenSecret deps.clusterSharedSecret).map fun secret => (clusterSecretHeader, secret)).toList

/-- The headers of what is sent: of a websocket, or of a request. -/
def sentHeaders : Headers :=
  if isWebSocketUpgradeRequest request then
    sanitizeHeadersForForwardedWebSocket request.headers (deps.forwardHeaders request)
  else setAll request.headers (deps.forwardHeaders request)

/-- `tryForwardInternally`, up to what it sends. -/
def tryForwardInternally : Option InternalForward :=
  if request.forwardHop.ge (.ofNat maxInternalForwardHops) then none
  else do
    let topologyStore ← deps.topologyStore
    let target ← topologyStore.resolveHttpRouteTarget request.url.pathname deps.nodeId
      (some (deps.traceId request ++ js ":" ++ request.url.href))
    some { target, webSocket := isWebSocketUpgradeRequest request
           headers := deps.sentHeaders request }

/-- `handleHttpRequest`, up to what a pipeline or another node does. -/
def handleHttpRequest : HttpOutcome :=
  match findPipeline request.url.pathname deps.pipelines with
  | none =>
    match deps.tryForwardInternally request with
    | some forward => .forwarded forward
    | none => .noRecipient (js "No pipeline for " ++ request.url.pathname)
  | some pipeline =>
    if isWebSocketUpgradeRequest request ∧ pipeline.downstream.websocket ≠ some true then
      .webSocketDisabled pipeline
    else .pipeline pipeline

/-! ### Taking a forwarded request in -/

/-- What the two handlers of forwarded requests have in common; one that is refused has a status and
an error. -/
def acceptForward (finish : Headers → Headers) (headers : Headers) :
    Except (ℕ × JsString) Request :=
  if (givenSecret deps.clusterSharedSecret).any fun secret =>
      headers.get clusterSecretHeader ≠ some secret then
    .error (401, js "Unauthorized cluster request")
  else
    let forwardedPath := (headers.get internalForwardPathHeader).getD []
    if h : forwardedPath.head? = some (unit '/') then
      .ok { url := Url.parse forwardedPath h
            headers := finish ((headers.delete clusterSecretHeader).delete
              internalForwardPathHeader) }
    else .error (400, js "Missing x-hardess-forward-path")

/-- The handler of `/__cluster/http-forward`. -/
def acceptHttpForward : Headers → Except (ℕ × JsString) Request := deps.acceptForward id

/-- The handler of `/__cluster/ws-forward`. -/
def acceptWsForward : Headers → Except (ℕ × JsString) Request :=
  deps.acceptForward fun headers =>
    (headers.set (js "connection") (js "Upgrade")).set (js "upgrade") (js "websocket")

/-- The request that a forward comes in as. -/
def accept (forward : InternalForward) : Except (ℕ × JsString) Request :=
  if forward.webSocket then deps.acceptWsForward forward.headers
  else deps.acceptHttpForward forward.headers

end HttpRuntimeDeps

end Hardess
