import Hardess.Ingress.WebSocket
import Hardess.Ingress.Http
import Hardess.Lib.JsMapIndex
import Hardess.Lib.ReadableStream

/-!
# The proxy of requests

`src/runtime/proxy/upstream.ts`, and the headers of `sanitizeHeadersForUpstreamWebSocket` in
`upstream-websocket.ts`, which are made in the same way.

* `upstreamHeaders`: what an upstream is sent, and **`get_upstreamHeaders`**, header by header;
* `proxyUpstream`: what becomes of a request, from what `fetch` and the first read give;
* `ProxiedBody`: the stream of the response inside the one that counts it as in flight, and
  **`relays_run`**: the client reads what the upstream sends.

The URL of the upstream is left out, and of the metrics the times.
-/

namespace Hardess

/-! ### Headers -/

/-- `HOP_BY_HOP_HEADERS` of `upstream.ts`. -/
def proxyHopByHopHeaders : List JsString :=
  [js "connection", js "keep-alive", js "proxy-authenticate", js "proxy-authorization", js "te",
   js "trailer", js "transfer-encoding", js "upgrade"]

/-- The headers of a websocket that are not sent on. -/
def webSocketDroppedHeaders : List JsString :=
  hopByHopHeaders ++ upstreamHandshakeHeaders ++ [js "sec-websocket-protocol"]

/-- What `PipelineConfig["downstream"]` says about headers. -/
structure DownstreamHeaders where
  forwardAuthContext : Option Bool := none
  injectedHeaders : Option (List (JsString × JsString)) := none

/-- The headers of an authenticated request. -/
def identityHeaders (auth : AuthContext) (traceId : JsString) : List (JsString × JsString) :=
  [(js "x-hardess-trace-id", traceId), (js "x-hardess-peer-id", auth.peerId),
   (js "x-hardess-token-id", auth.tokenId)]

/-- The header of the client's token. -/
def authorizationHeader : JsString := js "authorization"

namespace DownstreamHeaders

variable (downstream : DownstreamHeaders)

/-- The injected headers, with their names as `Headers` has them. -/
def injected : List (JsString × JsString) :=
  (downstream.injectedHeaders.getD []).map fun header => (toLowerCase header.1, header.2)

/-- The headers of the request to the upstream. -/
def upstreamHeaders (dropped : List JsString) (auth : AuthContext) (traceId : JsString)
    (headers : Headers) : Headers :=
  let headers := setAll (dropped.foldl JsMap.delete headers) (identityHeaders auth traceId)
  let headers :=
    if downstream.forwardAuthContext ≠ some true then headers.delete authorizationHeader else headers
  setAll headers downstream.injected

/-- The headers of `proxyUpstream`. -/
def proxyHeaders (auth : AuthContext) (traceId : JsString) (headers : Headers) : Headers :=
  downstream.upstreamHeaders proxyHopByHopHeaders auth traceId headers

/-- The headers of `sanitizeHeadersForUpstreamWebSocket`. -/
def webSocketHeaders (auth : AuthContext) (traceId : JsString) (headers : Headers) : Headers :=
  downstream.upstreamHeaders webSocketDroppedHeaders auth traceId headers

end DownstreamHeaders

theorem get_foldl_delete (names : List JsString) (headers : Headers) (k : JsString) :
    (names.foldl JsMap.delete headers).get k = if k ∈ names then none else headers.get k := by
  induction names generalizing headers with
  | nil => simp
  | cons name names ih =>
    rw [List.foldl_cons, ih, JsMap.get_delete]
    by_cases hk : k = name <;> simp [hk]

/-- The value that a list of headers sets last. -/
def lastValue (added : List (JsString × JsString)) (k : JsString) : Option JsString :=
  (added.reverse.find? fun header => header.1 = k).map Prod.snd

theorem lastValue_eq_none_iff {added : List (JsString × JsString)} {k : JsString} :
    lastValue added k = none ↔ k ∉ added.map Prod.fst := by
  simp only [lastValue, Option.map_eq_none_iff, List.find?_eq_none, List.mem_reverse,
    decide_eq_true_eq, List.mem_map, not_exists, not_and]

theorem get_setAll_or (added : List (JsString × JsString)) (headers : Headers) (k : JsString) :
    (setAll headers added).get k = (lastValue added k).or (headers.get k) :=
  JsMap.get_foldl_set Prod.fst Prod.snd added headers k

/-- What the client has sent under a name, as far as it is sent on. -/
def DownstreamHeaders.passed (downstream : DownstreamHeaders) (dropped : List JsString)
    (headers : Headers) (k : JsString) : Option JsString :=
  if k ∈ dropped ∨ k = authorizationHeader ∧ downstream.forwardAuthContext ≠ some true then none
  else headers.get k

/-- **What an upstream sees**: the injected headers; the identity of the token, whatever the client
claims; and of the client's headers those that belong to it, with the token only where the pipeline
forwards it. -/
theorem DownstreamHeaders.get_upstreamHeaders (downstream : DownstreamHeaders)
    (dropped : List JsString) (auth : AuthContext) (traceId : JsString) (headers : Headers)
    (k : JsString) :
    (downstream.upstreamHeaders dropped auth traceId headers).get k =
      (lastValue downstream.injected k).or
        ((lastValue (identityHeaders auth traceId) k).or (downstream.passed dropped headers k)) := by
  have hauth : lastValue (identityHeaders auth traceId) authorizationHeader = none := by
    simp [lastValue, identityHeaders, authorizationHeader]
  unfold upstreamHeaders passed
  rw [get_setAll_or]
  congr 1
  by_cases hforward : downstream.forwardAuthContext = some true
  · simp [hforward, get_setAll_or, get_foldl_delete]
  · rw [if_pos hforward, JsMap.get_delete]
    by_cases hk : k = authorizationHeader
    · simp [hk, hauth, hforward]
    · simp [hk, get_setAll_or, get_foldl_delete]

/-! ### Outcomes -/

/-- The stage of a timeout. -/
inductive TimeoutStage
  | connect
  | response
  deriving DecidableEq

/-- `createTimeoutError`. -/
def createTimeoutError (stage : TimeoutStage) : HardessError where
  code := .GATEWAY_UPSTREAM_TIMEOUT
  message :=
    match stage with
    | .connect => js "Upstream connect timed out"
    | .response => js "Upstream request timed out"
  retryable := true
  detail := some (.str (js "timeout_stage=" ++
    match stage with
    | .connect => js "connect"
    | .response => js "response"))

/-- `createUnavailableError`. -/
def createUnavailableError (message : JsString) : HardessError where
  code := .GATEWAY_UPSTREAM_UNAVAILABLE
  message := js "Upstream service is unavailable"
  retryable := true
  detail := some (.str message)

/-- A `Uint8Array` of a body. -/
abbrev BodyChunk := List UInt8

/-- What `readResponseChunk` ends in. -/
inductive ChunkRead
  | chunk (value : BodyChunk)
  | done
  | failed (message : JsString)
  | timedOut

/-- A response of an upstream, or of the proxy: its body is known by its first chunk. -/
structure ProxyResponse (β : Type) where
  status : ℕ
  statusText : JsString
  headers : Headers
  body : β

/-- What `fetch` ends in; it may be aborted by the timer of the connection. -/
inductive FetchOutcome
  | response (response : ProxyResponse Bool)
  | failed (aborted : Bool) (message : JsString)

/-- `proxyUpstream`, from what `fetch` gives and, where there is a body, its first read: the response
or the error, and the counter that it adds to. -/
def proxyUpstream (fetched : FetchOutcome) (first : ChunkRead) :
    Except HardessError (ProxyResponse (Option BodyChunk)) × JsString :=
  match fetched with
  | .failed true _ => (.error (createTimeoutError .connect), js "http.upstream_connect_timeout")
  | .failed false message => (.error (createUnavailableError message), js "http.upstream_unavailable")
  | .response response =>
    let respond (body : Option BodyChunk) :=
      { response with headers := proxyHopByHopHeaders.foldl JsMap.delete response.headers, body }
    if response.body then
      match first with
      | .chunk value => (.ok (respond (some value)), js "http.upstream_ok")
      | .done => (.ok (respond none), js "http.upstream_ok")
      | .failed message =>
        (.error (createUnavailableError message), js "http.upstream_unavailable")
      | .timedOut => (.error (createTimeoutError .response), js "http.upstream_timeout")
    else (.ok (respond none), js "http.upstream_ok")

/-! ### Bodies -/

open ReadableStream (ReadResult Pipe chunks)

/-- What happens to a body that is proxied: the inner stream is that of `createStreamingResponseBody`,
the outer one that of `trackHttpResponseLifecycle`. -/
inductive ProxiedBodyEvent
  | startInner
  | startOuter
  | read
  | cancel
  | upstreamRead (result : ReadResult BodyChunk)
  /-- The timer of `readResponseChunk`. -/
  | readTimeout
  | deliver

/-- A read that times out fails. -/
def ProxiedBodyEvent.pipe : ProxiedBodyEvent → Pipe.Event BodyChunk
  | .startInner => .startInner
  | .startOuter => .startOuter
  | .read => .read
  | .cancel => .cancel
  | .upstreamRead result => .settle result
  | .readTimeout => .settle .failed
  | .deliver => .deliver

/-- The two streams after some events, for a body with a first chunk. -/
def proxiedBody (first : BodyChunk) (es : List ProxiedBodyEvent) : Pipe BodyChunk :=
  Machine.run Pipe.step { inner := { queue := [first] } } (es.map ProxiedBodyEvent.pipe)

/-- **The client reads what the upstream sends**: its chunks in order, from the first one on; it is
told that the body is done only after all of them, when the upstream is done and the client has not
cancelled; a failure is one of the upstream, or a timeout. A read that waits has its answer on the
way, or a read of the upstream, with its timer, is under way for it. -/
theorem relays_run (first : BodyChunk) (es : List ProxiedBodyEvent) :
    let body := proxiedBody first es
    chunks body.outer.given <+: first :: chunks body.inner.taken ∧
      (.done ∈ body.outer.given → body.outer.cancelled = false →
        chunks body.outer.given = first :: chunks body.inner.taken ∧ .done ∈ body.inner.taken) ∧
      (.failed ∈ body.outer.given → .failed ∈ body.inner.taken) ∧
      (body.outer.started = true → body.inner.started = true → 0 < body.outer.readRequests →
        body.next.isSome = true ∨ body.inner.pulling = true) := by
  intro body
  have hvalid : body.Valid [first] := Pipe.valid_run [first] _
  exact ⟨hvalid.given_prefix, hvalid.given_done, hvalid.given_failed, hvalid.awaits⟩

end Hardess
