import Hardess.Lib.StringToNumber
import Hardess.Ingress.WebSocket

/-!
# Tracked sends of the client

`src/sdk/runtime/client.ts`: what becomes of the sends of a client and of the promises that wait for
them.

* `PendingDelivery.receive`: what a delivery event does to a send and to those who wait for it;
* `PendingDelivery.settlementOf`: what a promise that is requested now is settled with;
* `HardessClient.step`: the calls, messages and timers of a client.

The ids of messages come from `crypto.randomUUID`, so no two sends share one; the table
`pendingDeliveries` is the sends that are `listed`. The handlers of the user return, and do not call
the client.
-/

namespace Hardess

/-! ### Delivery events -/

/-- `ClientAwaitableDeliveryStage`. -/
inductive AwaitableStage
  | recvAck
  | handleAck
  deriving DecidableEq

/-- The string of a stage. -/
def AwaitableStage.text : AwaitableStage → JsString
  | .recvAck => js "recvAck"
  | .handleAck => js "handleAck"

/-- `ClientCloseInfo`. -/
structure ClientCloseInfo where
  code : Option JsNumber := none
  reason : Option JsString := none
  wasClean : Option Bool := none
  deriving DecidableEq

/-- `SysRecvAckPayload`. -/
structure SysRecvAckPayload where
  ackFor : JsString
  acceptedAt : JsNumber
  deriving DecidableEq

/-- `SysHandleAckPayload`. -/
structure SysHandleAckPayload where
  ackFor : JsString
  handledAt : JsNumber
  deriving DecidableEq

/-- `SysRoutePayload`. -/
structure SysRoutePayload where
  resolvedPeers : List JsString
  deliveredConns : List ConnRef
  deriving DecidableEq

/-- `SysErrPayload`. -/
structure SysErrPayload where
  code : ErrorCode
  message : JsString
  retryable : Bool
  detail : Option Json := none
  refMsgId : Option JsString := none
  traceId : Option JsString := none

/-- `ClientProtocolErrorInfo["layer"]`, for a message that is associated with a send. -/
inductive ProtocolErrorLayer
  | system
  | business
  deriving DecidableEq

/-- `ClientProtocolErrorInfo`. -/
structure ClientProtocolErrorInfo where
  layer : ProtocolErrorLayer
  message : JsString
  protocol : JsString
  version : JsString
  action : JsString
  msgId : JsString
  traceId : Option JsString
  deriving DecidableEq

/-- `ClientDeliveryTimeoutInfo`. -/
structure ClientDeliveryTimeoutInfo where
  stage : AwaitableStage
  timeoutMs : JsNumber
  startedAt : JsNumber
  timedOutAt : JsNumber
  deriving DecidableEq

/-- `CLIENT_ERROR_CODES`. -/
inductive ClientErrorCode
  | CLIENT_NOT_READY
  | CLIENT_TRANSPORT_CLOSED
  | CLIENT_DELIVERY_TIMEOUT
  | CLIENT_PROTOCOL_ERROR
  deriving DecidableEq

/-- `SdkErrorCode` with `source`: the codes of the client are those of errors of the client. -/
inductive SdkErrorCode
  | client (code : ClientErrorCode)
  | remote (code : ErrorCode)
  deriving DecidableEq

/-- The `detail` of an error of the client. -/
inductive SdkErrorDetail
  | timeout (timeout : ClientDeliveryTimeoutInfo)
  | protocolError (info : ClientProtocolErrorInfo)
  | remote (detail : Json)

/-- `HardessSdkError`. -/
structure HardessSdkError where
  code : SdkErrorCode
  message : JsString
  retryable : Bool := false
  traceId : Option JsString := none
  refMsgId : Option JsString := none
  detail : Option SdkErrorDetail := none
  close : Option ClientCloseInfo := none

/-- `createRemoteSdkError`. -/
def createRemoteSdkError (payload : SysErrPayload) : HardessSdkError where
  code := .remote payload.code
  message := payload.message
  retryable := payload.retryable
  traceId := payload.traceId
  refMsgId := payload.refMsgId
  detail := payload.detail.map .remote

/-- The stage of a delivery event with what comes with that stage. -/
inductive DeliveryStage
  | route (route : SysRoutePayload)
  | recvAck (recvAck : SysRecvAckPayload)
  | handleAck (handleAck : SysHandleAckPayload)
  | recvAckTimeout (timeout : ClientDeliveryTimeoutInfo)
  | handleAckTimeout (timeout : ClientDeliveryTimeoutInfo)
  | transportClosed (close : ClientCloseInfo) (sdkError : HardessSdkError)
  | error (error : SysErrPayload) (sdkError : HardessSdkError)
  | protocolError (info : ClientProtocolErrorInfo)

/-- `ClientDeliveryEvent`. -/
structure ClientDeliveryEvent where
  stage : DeliveryStage
  msgId : JsString
  traceId : Option JsString := none
  protocol : Option JsString := none
  version : Option JsString := none
  action : Option JsString := none

/-- `formatCloseSuffix`. -/
def formatCloseSuffix (info : ClientCloseInfo) : JsString :=
  let reason := info.reason.filter (· ≠ [])
  (info.code.map fun code => js " (code " ++ code.text).getD [] ++
    (reason.map fun reason =>
      (if info.code.isSome then js ", " else js " (") ++ js "reason " ++ reason).getD [] ++
    if info.code.isSome ∨ reason.isSome then js ")" else []

/-- The error of a timeout. -/
def timeoutError (event : ClientDeliveryEvent) (timeout : ClientDeliveryTimeoutInfo) :
    HardessSdkError where
  code := .client .CLIENT_DELIVERY_TIMEOUT
  message := js "Timed out waiting for " ++ timeout.stage.text ++ js " after " ++
    timeout.timeoutMs.text ++ js "ms"
  retryable := true
  traceId := event.traceId
  refMsgId := some event.msgId
  detail := some (.timeout timeout)

/-- `deliveryFailureError`; the stages that are no failures have no error. -/
def deliveryFailureError (event : ClientDeliveryEvent) : Option HardessSdkError :=
  match event.stage with
  | .recvAckTimeout timeout => some (timeoutError event timeout)
  | .handleAckTimeout timeout => some (timeoutError event timeout)
  | .transportClosed _ sdkError => some sdkError
  | .error _ sdkError => some sdkError
  | .protocolError info => some
      { code := .client .CLIENT_PROTOCOL_ERROR
        message := info.message
        traceId := event.traceId
        refMsgId := some event.msgId
        detail := some (.protocolError info) }
  | _ => none

/-- `isResultSuccessEvent`. -/
def isResultSuccessEvent (event : ClientDeliveryEvent) (until_ : AwaitableStage) : Bool :=
  match event.stage with
  | .recvAck _ => until_ = .recvAck
  | .handleAck _ => until_ = .handleAck
  | _ => false

/-! ### Sends and those who wait for them -/

/-- How a promise is settled. -/
abbrev Settlement := Except HardessSdkError ClientDeliveryEvent

/-- `waitForRecvAck` and `waitForHandleAck`, or `waitForResult`. -/
inductive WaitKind
  | stage (stage : AwaitableStage)
  | result (until_ : AwaitableStage)
  deriving DecidableEq

/-- A promise that has been returned. While it is not settled, its waiter is in its queue, or its
listener among the listeners. -/
structure Wait where
  kind : WaitKind
  settlement : Option Settlement

/-- Settle a promise that is not settled yet. -/
def Wait.settle (wait : Wait) (settlement : Settlement) : Wait :=
  { wait with settlement := wait.settlement.or (some settlement) }

/-- `PendingDelivery`. -/
structure PendingDelivery where
  msgId : JsString
  traceId : JsString
  protocol : JsString
  version : JsString
  action : JsString
  createdAt : JsNumber
  /-- What is left in `recvAckWaiters`, `handleAckWaiters` and `listeners`, and what has been. -/
  waits : List Wait := []
  recvAckOutcome : Option Settlement := none
  handleAckOutcome : Option Settlement := none
  recvAckTimeoutMs : JsNumber
  handleAckTimeoutMs : JsNumber
  recvAckTimer : Bool
  handleAckTimer : Bool
  completed : Bool := false
  /-- Is it in `pendingDeliveries`? -/
  listed : Bool := true

namespace PendingDelivery

variable (pending : PendingDelivery)

/-- The outcome of a stage. -/
def outcome : AwaitableStage → Option Settlement
  | .recvAck => pending.recvAckOutcome
  | .handleAck => pending.handleAckOutcome

/-- The timer of a stage. -/
def timer : AwaitableStage → Bool
  | .recvAck => pending.recvAckTimer
  | .handleAck => pending.handleAckTimer

/-- `pendingResultSettlement`. -/
def pendingResultSettlement : AwaitableStage → Option Settlement
  | .recvAck => pending.recvAckOutcome
  | .handleAck =>
    match pending.recvAckOutcome with
    | some (.error error) => some (.error error)
    | _ => pending.handleAckOutcome

/-- What a promise that is requested now is settled with at once. -/
def settlementOf : WaitKind → Option Settlement
  | .stage stage => pending.outcome stage
  | .result until_ => pending.pendingResultSettlement until_

/-- `waitForPendingStage` and `waitForPendingResult`. -/
def waitFor (kind : WaitKind) : PendingDelivery :=
  { pending with waits := pending.waits ++ [⟨kind, pending.settlementOf kind⟩] }

/-- `clearPendingTimeout`. -/
def clearPendingTimeout : AwaitableStage → PendingDelivery
  | .recvAck => { pending with recvAckTimer := false }
  | .handleAck => { pending with handleAckTimer := false }

/-- `clearPendingTimers`. -/
def clearPendingTimers : PendingDelivery :=
  { pending with recvAckTimer := false, handleAckTimer := false }

/-- Settle those who wait for a stage. -/
def settleStage (stage : AwaitableStage) (settlement : Settlement) : PendingDelivery :=
  { pending with waits := pending.waits.map fun wait =>
      if wait.kind = .stage stage then wait.settle settlement else wait }

/-- `rejectPendingWaiters`. -/
def rejectPendingWaiters (error : HardessSdkError) : PendingDelivery :=
  (pending.settleStage .recvAck (.error error)).settleStage .handleAck (.error error)

/-- `markPendingStageFailure`. -/
def markPendingStageFailure (error : HardessSdkError) : AwaitableStage → PendingDelivery
  | .recvAck => { pending with recvAckOutcome := pending.recvAckOutcome.or (some (.error error)) }
  | .handleAck =>
    { pending with handleAckOutcome := pending.handleAckOutcome.or (some (.error error)) }

/-- The listener of `waitForPendingResult`. -/
def notify (event : ClientDeliveryEvent) (wait : Wait) : Wait :=
  match wait.kind with
  | .stage _ => wait
  | .result until_ =>
    if isResultSuccessEvent event until_ then wait.settle (.ok event)
    else ((deliveryFailureError event).map fun error => wait.settle (.error error)).getD wait

/-- The loop over the listeners. -/
def notifyListeners (event : ClientDeliveryEvent) : PendingDelivery :=
  { pending with waits := pending.waits.map (notify event) }

/-- The failures that end a delivery. -/
def fail (error : HardessSdkError) : PendingDelivery :=
  let failed := (pending.clearPendingTimers.markPendingStageFailure error .recvAck)
    |>.markPendingStageFailure error .handleAck
  failed.rejectPendingWaiters error

/-- `decorateDeliveryEvent`. -/
def decorateDeliveryEvent (event : ClientDeliveryEvent) : ClientDeliveryEvent :=
  { event with
    traceId := event.traceId.or (some pending.traceId)
    protocol := some pending.protocol
    version := some pending.version
    action := some pending.action }

/-- The rest of `emitDeliveryEvent` for a send that is listed; the event has been decorated. -/
def receive (event : ClientDeliveryEvent) : PendingDelivery :=
  let pending := pending.notifyListeners event
  match event.stage with
  | .route _ => pending
  | .recvAck _ =>
    { pending.clearPendingTimeout .recvAck with recvAckOutcome := some (.ok event) }.settleStage
      .recvAck (.ok event)
  | .recvAckTimeout timeout =>
    let error := timeoutError event timeout
    { pending.clearPendingTimeout .recvAck with
      recvAckOutcome := some (.error error) }.settleStage .recvAck (.error error)
  | .handleAck _ =>
    let resolved := { pending.clearPendingTimers with
      handleAckOutcome := some (.ok event) }.settleStage .handleAck (.ok event)
    { resolved with listed := false, completed := true }
  | _ =>
    let failed := ((deliveryFailureError event).map pending.fail).getD pending
    { failed with listed := false, completed := true }

/-- `emitDeliveryEvent`, for the send that the event names. -/
def onEvent (event : ClientDeliveryEvent) : PendingDelivery :=
  if pending.listed ∧ pending.msgId = event.msgId then
    pending.receive (pending.decorateDeliveryEvent event)
  else pending

/-- The timeout of a stage. -/
def timeoutMs : AwaitableStage → JsNumber
  | .recvAck => pending.recvAckTimeoutMs
  | .handleAck => pending.handleAckTimeoutMs

/-- The event of a timeout. -/
def timeoutEvent (stage : AwaitableStage) (now : JsNumber) : ClientDeliveryEvent where
  stage :=
    match stage with
    | .recvAck => .recvAckTimeout ⟨stage, pending.timeoutMs stage, pending.createdAt, now⟩
    | .handleAck => .handleAckTimeout ⟨stage, pending.timeoutMs stage, pending.createdAt, now⟩
  msgId := pending.msgId
  traceId := some pending.traceId

/-- `handlePendingTimeout`, when the timer of the stage fires. -/
def handlePendingTimeout (stage : AwaitableStage) (now : JsNumber) : PendingDelivery :=
  if (pending.outcome stage).isSome ∨ pending.completed then pending
  else pending.onEvent (pending.timeoutEvent stage now)

/-- A timer fires once, unless it has been cleared. -/
def fire (stage : AwaitableStage) (now : JsNumber) : PendingDelivery :=
  if pending.timer stage then (pending.clearPendingTimeout stage).handlePendingTimeout stage now
  else pending

/-- The event of `failPendingDeliveriesOnClose`. -/
def transportClosedEvent (info : ClientCloseInfo) : ClientDeliveryEvent where
  stage := .transportClosed info
    { code := .client .CLIENT_TRANSPORT_CLOSED
      message := js "Transport closed before delivery completed" ++ formatCloseSuffix info
      retryable := true
      traceId := some pending.traceId
      refMsgId := some pending.msgId
      close := some info }
  msgId := pending.msgId
  traceId := some pending.traceId

/-- The error of `close`. -/
def clientClosedError : HardessSdkError where
  code := .client .CLIENT_TRANSPORT_CLOSED
  message := js "Client closed before delivery completed"
  close := some { reason := some (js "client closed") }

/-- The body of the loop of `close`, and the end of the table. -/
def onClientClose : PendingDelivery :=
  if pending.listed then { pending.fail clientClosedError with listed := false } else pending

end PendingDelivery

/-! ### The client -/

/-- `ClientReadyState`. -/
inductive ClientReadyState
  | idle
  | connecting
  | authenticating
  | ready
  | closed
  deriving DecidableEq

/-- `ClientEmitInput`, as far as a delivery keeps it. -/
structure ClientEmitInput where
  protocol : JsString
  version : JsString
  action : JsString
  traceId : Option JsString := none
  recvAckMs : Option JsNumber := none
  handleAckMs : Option JsNumber := none

/-- `deliveryTimeoutMs` of the options. -/
structure DeliveryTimeoutPolicy where
  recvAckMs : Option JsNumber := none
  handleAckMs : Option JsNumber := none

/-- `HardessClient`: its state, the token apart from whether there is one. -/
structure HardessClient where
  deliveryTimeoutMs : DeliveryTimeoutPolicy := {}
  readyState : ClientReadyState := .idle
  hasToken : Bool := false
  sends : List PendingDelivery := []

/-- What arrives on the socket: a system message, or one that cannot be handled. -/
inductive ClientMessage
  | authOk
  | recvAck (payload : SysRecvAckPayload) (traceId : Option JsString)
  | handleAck (payload : SysHandleAckPayload) (traceId : Option JsString)
  | route (payload : SysRoutePayload) (traceId : Option JsString)
  | err (payload : SysErrPayload) (traceId : Option JsString)
  | rejected (layer : ProtocolErrorLayer) (envelope : Envelope) (message : JsString)

/-- What happens to a client. -/
inductive ClientEvent
  | connect
  | opened
  | message (message : ClientMessage)
  | emitTracked (msgId : JsString) (input : ClientEmitInput) (now : JsNumber)
  | send (msgId : JsString) (input : ClientEmitInput) (until_ : Option AwaitableStage)
      (now : JsNumber)
  | waitFor (msgId : JsString) (kind : WaitKind)
  | timer (msgId : JsString) (stage : AwaitableStage) (now : JsNumber)
  | transportClosed (info : ClientCloseInfo)
  | close

/-- `!timeoutMs`, negated: a timer is set. -/
def isTimeout (timeoutMs : JsNumber) : Bool := timeoutMs ≠ .ofNat 0 ∧ timeoutMs ≠ .nan

namespace HardessClient

variable (client : HardessClient)

/-- `createPendingDelivery`. -/
def createPendingDelivery (msgId : JsString) (input : ClientEmitInput) (now : JsNumber) :
    PendingDelivery :=
  let recvAckTimeoutMs :=
    (input.recvAckMs.or client.deliveryTimeoutMs.recvAckMs).getD (.ofNat 5000)
  let handleAckTimeoutMs :=
    (input.handleAckMs.or client.deliveryTimeoutMs.handleAckMs).getD (.ofNat 15000)
  { msgId
    traceId := input.traceId.getD msgId
    protocol := input.protocol
    version := input.version
    action := input.action
    createdAt := now
    recvAckTimeoutMs
    handleAckTimeoutMs
    recvAckTimer := isTimeout recvAckTimeoutMs
    handleAckTimer := isTimeout handleAckTimeoutMs }

/-- `emitDeliveryEvent`. -/
def emitDeliveryEvent (event : ClientDeliveryEvent) : HardessClient :=
  { client with sends := client.sends.map (·.onEvent event) }

/-- `pendingDeliveries.has`. -/
def hasPending (msgId : JsString) : Bool :=
  client.sends.any fun pending => pending.listed ∧ pending.msgId = msgId

/-- `associateDeliveryMsgId`; the `msgId` of the info is that of the envelope. -/
def associateDeliveryMsgId (envelope : Envelope) : Option JsString :=
  if client.hasPending envelope.msgId then some envelope.msgId
  else envelope.traceId.filter fun traceId => traceId ≠ [] ∧ client.hasPending traceId

/-- The delivery event that `handleSystem` or `reportProtocolErrorFromEnvelope` emits. -/
def deliveryEvent : ClientMessage → Option ClientDeliveryEvent
  | .authOk => none
  | .recvAck payload traceId => some { stage := .recvAck payload, msgId := payload.ackFor, traceId }
  | .handleAck payload traceId => some
      { stage := .handleAck payload, msgId := payload.ackFor, traceId }
  | .route payload traceId => (traceId.filter (· ≠ [])).map fun msgId =>
      { stage := .route payload, msgId, traceId }
  | .err payload traceId => ((payload.refMsgId.or traceId).filter (· ≠ [])).map fun msgId =>
      { stage := .error payload (createRemoteSdkError payload), msgId, traceId }
  | .rejected layer envelope message => (client.associateDeliveryMsgId envelope).map fun msgId =>
      { stage := .protocolError
          ⟨layer, message, envelope.protocol, envelope.version, envelope.action, envelope.msgId,
            envelope.traceId⟩
        msgId
        traceId := envelope.traceId
        protocol := some envelope.protocol
        version := some envelope.version
        action := some envelope.action }

/-- `onMessage`. -/
def onMessage (message : ClientMessage) : HardessClient :=
  match client.deliveryEvent message with
  | some event => client.emitDeliveryEvent event
  | none =>
    match message with
    | .authOk => { client with readyState := .ready }
    | _ => client

/-- `emitTracked`, and `emit`; unless the client is ready, it throws and nothing is sent. -/
def emitTracked (msgId : JsString) (input : ClientEmitInput) (now : JsNumber) : HardessClient :=
  if client.readyState = .ready then
    { client with sends := client.sends ++ [client.createPendingDelivery msgId input now] }
  else client

/-- A method of the tracker of a send. -/
def waitFor (msgId : JsString) (kind : WaitKind) : HardessClient :=
  { client with sends := client.sends.map fun pending =>
      if pending.msgId = msgId then pending.waitFor kind else pending }

/-- What a call, a message or a timer does. -/
def step (client : HardessClient) : ClientEvent → HardessClient
  | .connect => { client with hasToken := true, readyState := .connecting }
  | .opened => { client with readyState := .authenticating }
  | .message message => client.onMessage message
  | .emitTracked msgId input now => client.emitTracked msgId input now
  | .send msgId input until_ now =>
    -- the promise of a send that throws is rejected at once
    if client.readyState = .ready then
      (client.emitTracked msgId input now).waitFor msgId (.result (until_.getD .handleAck))
    else client
  | .waitFor msgId kind => client.waitFor msgId kind
  | .timer msgId stage now =>
    { client with sends := client.sends.map fun pending =>
        if pending.msgId = msgId then pending.fire stage now else pending }
  | .transportClosed info =>
    { client with
      readyState := if client.hasToken then .connecting else .closed
      sends := client.sends.map fun pending =>
        pending.onEvent (pending.transportClosedEvent info) }
  | .close =>
    { client with
      readyState := .closed
      hasToken := false
      sends := client.sends.map (·.onClientClose) }

end HardessClient

end Hardess
