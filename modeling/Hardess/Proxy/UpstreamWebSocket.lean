import Mathlib.Data.List.TakeWhile
import Hardess.Lib.JsString
import Hardess.Lib.Machine

/-!
# The websocket proxy

`src/runtime/proxy/upstream-websocket.ts`: a bridge between the websocket of a client and that of an
upstream, from the successful upgrade on.

* `UpstreamWebSocketBridge.step`: the events of a bridge, and the calls that it makes on the two
  sockets;
* `calls_open_first` and `calls_close_first`: the calls when the upstream sends frames and closes,
  and the client socket opens somewhere in between;
* `relays_iff`: when these are the frames, and the code of the upstream;
* `not_relays`: an empty text, and a close that comes too early.

The id of a bridge comes from `crypto.randomUUID`, so other bridges do not touch it.
-/

namespace Hardess

/-- What a websocket delivers: a text frame, or a binary one as either type of buffer. -/
inductive SocketData
  | text (text : JsString)
  | uint8Array (bytes : List UInt8)
  | arrayBuffer (bytes : List UInt8)
  deriving DecidableEq

/-- `string | Uint8Array`. -/
inductive SocketMessage
  | text (text : JsString)
  | bytes (bytes : List UInt8)
  deriving DecidableEq

/-- `normalizeSocketMessage`, for data of a frame. -/
def normalizeSocketMessage : SocketData → SocketMessage
  | .text text => .text text
  | .uint8Array bytes => .bytes bytes
  | .arrayBuffer bytes => .bytes bytes

/-- `!message`: of strings and buffers, only the empty string is falsy. -/
def SocketMessage.isFalsy (message : SocketMessage) : Bool := message = .text []

/-- `UpstreamProxyCloseEvent`. -/
structure UpstreamCloseInfo where
  code : Option ℕ := none
  reason : Option JsString := none
  deriving DecidableEq

/-- `isValidCloseCode`. -/
def isValidCloseCode (code : Option ℕ) : Bool :=
  code.any fun code => code ≥ 1000 ∧ code ≤ 4999 ∧ code ≠ 1004 ∧ code ≠ 1005 ∧ code ≠ 1006 ∧
    code ≠ 1015

/-- The code that the client socket is closed with. -/
def clientCloseCode (code : Option ℕ) : ℕ := (code.filter (isValidCloseCode ∘ some)).getD 1011

/-- A call on one of the two sockets. -/
inductive ProxyCall
  | clientSend (message : SocketMessage)
  | clientClose (code : ℕ) (reason : Option JsString)
  | upstreamSend (message : SocketMessage)
  | upstreamClose (code : Option ℕ) (reason : Option JsString)
  deriving DecidableEq

/-- `UpstreamWebSocketBridge`. -/
structure UpstreamWebSocketBridge where
  /-- Is there a `clientSocket`? -/
  hasClientSocket : Bool := false
  pendingUpstreamMessages : List SocketMessage := []
  closed : Bool := false
  upstreamClosed : Option UpstreamCloseInfo := none
  /-- Is it in `bridges`? -/
  registered : Bool := true

/-- What happens to a bridge. -/
inductive ProxyEvent
  | upstreamMessage (data : SocketData)
  | upstreamClose (info : UpstreamCloseInfo)
  | upstreamError
  | clientOpen
  | clientMessage (data : SocketData)
  | clientClose (code : Option ℕ) (reason : Option JsString)
  | dispose

namespace UpstreamWebSocketBridge

variable (bridge : UpstreamWebSocketBridge)

/-- The loop of `openClientSocket`: the messages that are sent, and those that are left. -/
def flush : List SocketMessage → List SocketMessage × List SocketMessage
  | [] => ([], [])
  | message :: messages =>
    if message.isFalsy then ([], messages)
    else (message :: (flush messages).1, (flush messages).2)

/-- The close of a socket for which there is no bridge. -/
def bridgeUnavailable : ProxyCall :=
  .clientClose 1011 (some (js "upstream websocket bridge unavailable"))

/-- `openClientSocket`. -/
def openClientSocket : UpstreamWebSocketBridge × List ProxyCall :=
  if ¬bridge.registered ∨ bridge.closed then (bridge, [bridgeUnavailable])
  else
    let flushed := flush bridge.pendingUpstreamMessages
    let opened := { bridge with hasClientSocket := true, pendingUpstreamMessages := flushed.2 }
    match bridge.upstreamClosed with
    | none => (opened, flushed.1.map .clientSend)
    | some info =>
      ({ opened with registered := false },
        flushed.1.map .clientSend ++ [.clientClose (clientCloseCode info.code) info.reason])

/-- `closeBridge`. -/
def closeBridge (code : Option ℕ) (reason : Option JsString) :
    UpstreamWebSocketBridge × List ProxyCall :=
  if bridge.closed then (bridge, [])
  else
    ({ bridge with closed := true, registered := false },
      .upstreamClose (code.filter (isValidCloseCode ∘ some)) reason ::
        if bridge.hasClientSocket then [.clientClose (clientCloseCode code) reason] else [])

/-- The listener of upstream messages. -/
def onUpstreamMessage (data : SocketData) : UpstreamWebSocketBridge × List ProxyCall :=
  let message := normalizeSocketMessage data
  if bridge.closed then (bridge, [])
  else if bridge.hasClientSocket then (bridge, [.clientSend message])
  else
    ({ bridge with pendingUpstreamMessages := bridge.pendingUpstreamMessages ++ [message] }, [])

/-- The listener of the upstream close. -/
def onUpstreamClose (info : UpstreamCloseInfo) : UpstreamWebSocketBridge × List ProxyCall :=
  if bridge.closed then (bridge, [])
  else
    ({ bridge with upstreamClosed := some info, closed := true, registered := false },
      if bridge.hasClientSocket then [.clientClose (clientCloseCode info.code) info.reason] else [])

/-- `clientMessage`. -/
def clientMessage (data : SocketData) : UpstreamWebSocketBridge × List ProxyCall :=
  if ¬bridge.registered ∨ bridge.closed then (bridge, [bridgeUnavailable])
  else (bridge, [.upstreamSend (normalizeSocketMessage data)])

/-- `clientClose`. -/
def clientClose (code : Option ℕ) (reason : Option JsString) :
    UpstreamWebSocketBridge × List ProxyCall :=
  if ¬bridge.registered ∨ bridge.closed then (bridge, [])
  else closeBridge { bridge with hasClientSocket := false } code reason

/-- What a bridge does on an event, with the calls that it makes. -/
def step (bridge : UpstreamWebSocketBridge) :
    ProxyEvent → UpstreamWebSocketBridge × List ProxyCall
  | .upstreamMessage data => bridge.onUpstreamMessage data
  | .upstreamClose info => bridge.onUpstreamClose info
  | .upstreamError =>
    if bridge.closed then (bridge, [])
    else bridge.closeBridge (some 1011) (some (js "upstream websocket error"))
  | .clientOpen => bridge.openClientSocket
  | .clientMessage data => bridge.clientMessage data
  | .clientClose code reason => bridge.clientClose code reason
  | .dispose =>
    if bridge.registered then bridge.closeBridge (some 1001) (some (js "runtime disposed"))
    else (bridge, [])

/-! ### Relaying -/

/-- The frames and the close of the upstream. -/
def upstreamEvents (frames : List SocketData) (info : UpstreamCloseInfo) : List ProxyEvent :=
  frames.map .upstreamMessage ++ [.upstreamClose info]

/-- The open event of the client socket comes after the first `k` events of the upstream. -/
def interleave (frames : List SocketData) (info : UpstreamCloseInfo) (k : ℕ) : List ProxyEvent :=
  (upstreamEvents frames info).take k ++ .clientOpen :: (upstreamEvents frames info).drop k

/-- The calls of a new bridge. -/
def calls (es : List ProxyEvent) : List ProxyCall := Machine.outputs step {} es

/-- A call that sends a frame to the client. -/
def sendFrame (data : SocketData) : ProxyCall := .clientSend (normalizeSocketMessage data)

/-- The client is sent the frames, and then closed with a code. -/
def Relays (frames : List SocketData) (code : ℕ) (calls : List ProxyCall) : Prop :=
  ∃ reason, calls = frames.map sendFrame ++ [.clientClose code reason]

/-- While the client is attached, frames are sent on as they come, and so is the close. -/
theorem outputs_attached (frames : List SocketData) (info : UpstreamCloseInfo)
    (h : bridge.hasClientSocket = true) (hopen : bridge.closed = false) :
    Machine.outputs step bridge (upstreamEvents frames info) =
      frames.map sendFrame ++ [.clientClose (clientCloseCode info.code) info.reason] := by
  induction frames with
  | nil => simp [upstreamEvents, Machine.outputs, step, onUpstreamClose, h, hopen]
  | cons data frames ih =>
    have hstep : step bridge (.upstreamMessage data) = (bridge, [sendFrame data]) := by
      simp [step, onUpstreamMessage, sendFrame, h, hopen]
    unfold upstreamEvents at ih ⊢
    rw [List.map_cons, List.cons_append, Machine.outputs, Machine.next, hstep, ih]
    rfl

/-- Before, they are kept. -/
theorem outputs_detached (frames : List SocketData) (es : List ProxyEvent)
    (h : bridge.hasClientSocket = false) (hopen : bridge.closed = false) :
    Machine.outputs step bridge (frames.map .upstreamMessage ++ es) =
      Machine.outputs step { bridge with pendingUpstreamMessages :=
        bridge.pendingUpstreamMessages ++ frames.map normalizeSocketMessage } es := by
  induction frames generalizing bridge with
  | nil => simp
  | cons data frames ih =>
    have hstep : step bridge (.upstreamMessage data) = ({ bridge with pendingUpstreamMessages :=
        bridge.pendingUpstreamMessages ++ [normalizeSocketMessage data] }, []) := by
      simp [step, onUpstreamMessage, h, hopen]
    have hrest := ih { bridge with pendingUpstreamMessages :=
      bridge.pendingUpstreamMessages ++ [normalizeSocketMessage data] } h hopen
    rw [List.map_cons, List.cons_append, Machine.outputs, Machine.next, hstep, List.nil_append,
      hrest]
    simp

/-- The loop sends the messages before the first empty text. -/
theorem flush_fst (messages : List SocketMessage) :
    (flush messages).1 = messages.takeWhile fun message => !message.isFalsy := by
  induction messages with
  | nil => rfl
  | cons message messages ih =>
    cases hm : message.isFalsy with
    | true => simp [flush, hm]
    | false => simp [flush, hm, ih]

/-- **The calls when the client socket opens before the upstream closes.** -/
theorem calls_open_first (frames : List SocketData) (info : UpstreamCloseInfo) {k : ℕ}
    (hk : k ≤ frames.length) : calls (interleave frames info k) =
      (((frames.take k).map normalizeSocketMessage).takeWhile fun message =>
        !message.isFalsy).map .clientSend ++ ((frames.drop k).map sendFrame ++
          [.clientClose (clientCloseCode info.code) info.reason]) := by
  have htake : (upstreamEvents frames info).take k = (frames.take k).map .upstreamMessage := by
    rw [upstreamEvents, List.take_append_of_le_length (by simpa using hk), List.map_take]
  have hdrop : (upstreamEvents frames info).drop k = upstreamEvents (frames.drop k) info := by
    rw [upstreamEvents, upstreamEvents, List.drop_append_of_le_length (by simpa using hk),
      List.map_drop]
  unfold calls interleave
  rw [htake, hdrop, outputs_detached _ _ _ rfl rfl, Machine.outputs, Machine.next,
    outputs_attached _ _ _ rfl rfl]
  simp [step, openClientSocket, flush_fst]

/-- **The calls when the upstream closes first**: the frames are lost. -/
theorem calls_close_first (frames : List SocketData) (info : UpstreamCloseInfo) {k : ℕ}
    (hk : frames.length < k) : calls (interleave frames info k) = [bridgeUnavailable] := by
  have hlength : (upstreamEvents frames info).length ≤ k := by
    simpa [upstreamEvents] using hk
  unfold calls interleave
  rw [List.take_of_length_le hlength, List.drop_of_length_le hlength, upstreamEvents,
    List.append_assoc, outputs_detached _ _ _ rfl rfl]
  simp [Machine.outputs, Machine.next, step, onUpstreamClose, openClientSocket]

/-- Only an empty text frame is dropped. -/
theorem isFalsy_normalizeSocketMessage (data : SocketData) :
    (normalizeSocketMessage data).isFalsy = true ↔ data = .text [] := by
  cases data <;> simp [normalizeSocketMessage, SocketMessage.isFalsy]

/-- Nothing is dropped when nothing is an empty text. -/
theorem takeWhile_eq_self_iff (frames : List SocketData) :
    ((frames.map normalizeSocketMessage).takeWhile fun message => !message.isFalsy) =
      frames.map normalizeSocketMessage ↔ ∀ data ∈ frames, data ≠ .text [] := by
  rw [List.takeWhile_eq_self_iff, List.forall_mem_map]
  refine forall₂_congr fun data _ => ?_
  rw [Bool.not_eq_true', ← Bool.not_eq_true, isFalsy_normalizeSocketMessage]

/-- The frames reach the client, and the close has the code of the upstream: the client socket opens
before the close and no empty text comes before it; or there are no frames, and the code is the one
that the client is given anyway. -/
def KeepsFrames (frames : List SocketData) (info : UpstreamCloseInfo) (k : ℕ) : Prop :=
  (k ≤ frames.length ∧ ∀ data ∈ frames.take k, data ≠ .text []) ∨
    (frames.length < k ∧ frames = [] ∧ clientCloseCode info.code = 1011)

/-- **When the proxy relays the stream of the upstream.** -/
theorem relays_iff (frames : List SocketData) (info : UpstreamCloseInfo) (k : ℕ) :
    Relays frames (clientCloseCode info.code) (calls (interleave frames info k)) ↔
      KeepsFrames frames info k := by
  unfold KeepsFrames
  rcases le_or_gt k frames.length with hk | hk
  · rw [calls_open_first frames info hk, or_iff_left (fun h => absurd h.1 hk.not_gt),
      and_iff_right hk, ← takeWhile_eq_self_iff]
    set sent := ((frames.take k).map normalizeSocketMessage).takeWhile fun message =>
      !message.isFalsy with hsent
    constructor
    · rintro ⟨reason, heq⟩
      -- an empty frame that is dropped would be missing from the count
      have hlength := congrArg List.length heq
      simp only [List.length_append, List.length_map, List.length_drop, List.length_cons,
        List.length_nil] at hlength
      refine (List.takeWhile_prefix _).eq_of_length ?_
      rw [← hsent, List.length_map, List.length_take]
      omega
    · intro hall
      refine ⟨info.reason, ?_⟩
      have hframes : frames.map sendFrame =
          (frames.take k).map sendFrame ++ (frames.drop k).map sendFrame := by
        rw [← List.map_append, List.take_append_drop]
      rw [hall, hframes, List.map_map, List.append_assoc]
      rfl
  · rw [calls_close_first frames info hk, or_iff_right (fun h => absurd h.1 hk.not_ge),
      and_iff_right hk]
    constructor
    · rintro ⟨reason, heq⟩
      cases frames with
      | nil =>
        refine ⟨rfl, ?_⟩
        simp only [List.map_nil, List.nil_append, bridgeUnavailable, List.cons.injEq,
          ProxyCall.clientClose.injEq] at heq
        exact heq.1.1.symm
      | cons data frames =>
        have hlength := congrArg List.length heq
        simp at hlength
    · rintro ⟨rfl, hcode⟩
      rw [hcode]
      exact ⟨_, rfl⟩

/-- An empty text stops the loop that sends what has been kept, and a close that comes before the
client socket opens takes all frames with it. -/
theorem not_relays :
    ¬Relays [.text (js "a"), .text [], .text (js "b")] 1000 (calls (interleave
      [.text (js "a"), .text [], .text (js "b")] ⟨some 1000, none⟩ 3)) ∧
    ¬Relays [.text (js "a")] 1000 (calls (interleave [.text (js "a")] ⟨some 1000, none⟩ 2)) := by
  constructor
  · rintro ⟨reason, heq⟩
    have hlength : (calls (interleave [.text (js "a"), .text [], .text (js "b")]
      ⟨some 1000, none⟩ 3)).length = 2 := by decide
    rw [heq] at hlength
    simp at hlength
  · rintro ⟨reason, heq⟩
    have hlength : (calls (interleave [.text (js "a")] ⟨some 1000, none⟩ 2)).length = 1 := by
      decide
    rw [heq] at hlength
    simp at hlength

end UpstreamWebSocketBridge

end Hardess
