import Hardess.Cluster.Membership

/-!
# What the network reports of its peers

The health observer hears of the peers by `markAlive`, `markSuspect` and `applyRumor`.

* `ClusterEffect.observed`: the call of the health store that an effect of the network is;
* `Suspects`: the events by which the network reports a node suspect, read off the tables before
  them;
* `gossip`: the calls by which a frame with rumors is handed over;
* **`step_reports`**: an event hands over its gossip and nothing else, or it hands over no rumor
  and reports only those nodes suspect that it suspects.
-/

namespace Hardess

/-- The call of the health store that an effect of the network is. -/
def ClusterEffect.observed : ClusterEffect → Option ClusterPeerHealthStore.Event
  | .markAlive nodeId detail => some (.markAlive nodeId (some detail))
  | .markSuspect nodeId detail => some (.markSuspect nodeId (some detail))
  | .applyRumor rumor fromNodeId => some (.applyRumor rumor fromNodeId)
  | _ => none

/-- The effect hands over no rumor, and reports only nodes suspect that meet `S`. -/
def ClusterEffect.Blames (S : JsString → Prop) : ClusterEffect → Prop
  | .markSuspect n _ => S n
  | .applyRumor .. => False
  | _ => True

theorem ClusterEffect.Blames.mono {S T : JsString → Prop} {c : ClusterEffect} (h : c.Blames S)
    (hST : ∀ n, S n → T n) : c.Blames T := by
  cases c with
  | markSuspect n detail => exact hST n h
  | applyRumor rumor fromNodeId => exact h
  | _ => trivial

namespace ClusterNetwork

variable {st st' : ClusterNetwork}

/-! ### Suspicion and gossip, read off the tables -/

/-- The socket belongs to a node. -/
def Known (st : ClusterNetwork) (socket : SocketId) : Prop :=
  (st.nodeIdBySocket.get socket).getD [] ≠ []

/-- A request to the node `n` is pending under this reference. -/
def Awaits (st : ClusterNetwork) (n ref : JsString) : Prop :=
  ∃ pending, st.pendingRequests.get ref = some pending ∧ pending.nodeId = n

/-- A frame on the socket by which the network reports the node `n` suspect: a `helloAck` of another
node than the one it dialled, or the answer that a request failed. -/
def SuspectsBy (st : ClusterNetwork) (n : JsString) (socket : SocketId) :
    ClusterSocketMessage → Prop
  | .helloAck named => named ≠ n ∧ st.Dials socket n
  | .deliverResult ref _ error => st.Known socket ∧ error.filter (· ≠ []) ≠ none ∧ st.Awaits n ref
  | .handleAckResult ref ok _ => st.Known socket ∧ ok = false ∧ st.Awaits n ref
  | _ => False

/-- An event by which the network reports the node `n` suspect. -/
def Suspects (st : ClusterNetwork) (n : JsString) : Event → Prop
  | .resume i _ _ => ∃ message, st.resumable[i]? = some (⟨n, .probe⟩, .error message)
  | .messageServerSocket k raw => st.readyState (.inbound k) = .open ∧
      ∃ message, parseClusterSocketMessage raw = some message ∧
        st.SuspectsBy n (.inbound k) message
  | .closeServerSocket k =>
      (st.readyState (.inbound k) = .open ∨ st.readyState (.inbound k) = .closing) ∧
        st.nodeIdBySocket.get (.inbound k) = some n
  | .socketMessage k raw => st.readyState (.outbound k) = .open ∧
      ∃ message, parseClusterSocketMessage raw = some message ∧
        st.SuspectsBy n (.outbound k) message
  | .socketClosed k => (k < st.nextOutbound ∧ st.readyState (.outbound k) ≠ .closed) ∧
      (st.nodeIdBySocket.get (.outbound k) = some n ∨
        st.attemptConnecting (.outbound k) = true ∧ st.Dials (.outbound k) n)
  | .socketError k => st.attemptConnecting (.outbound k) = true ∧ st.Dials (.outbound k) n
  | .connectTimeout k => st.Dials (.outbound k) n
  | .handlingFailed (.outbound k) _ => st.Dials (.outbound k) n
  | .requestTimeout ref => st.Awaits n ref
  | .probeTimeout timer => st.probeTimers.get timer = some n
  | .probeSendFailed m _ => m = n
  | .httpFailed m _ => m = n
  | .disconnectPeer m _ => m = n ∧ st.channelsByNodeId.get n ≠ none
  | _ => False

/-- The calls of the health store by which a frame with rumors is handed over. -/
def gossipIn (st : ClusterNetwork) (socket : SocketId) :
    ClusterSocketMessage → List ClusterPeerHealthStore.Event
  | .peerHealthRumor rumor =>
    match (st.nodeIdBySocket.get socket).getD [] with
    | [] => []
    | nodeId => [.markAlive nodeId (some (js "peer_health_rumor")),
        .applyRumor (rumorOf rumor) nodeId]
  | .peerHealthSync rumors =>
    match (st.nodeIdBySocket.get socket).getD [] with
    | [] => []
    | nodeId => .markAlive nodeId (some (js "peer_health_sync")) ::
        rumors.map fun r => .applyRumor (rumorOf r) nodeId
  | _ => []

/-- The gossip that an event brings. -/
def gossip (st : ClusterNetwork) : Event → List ClusterPeerHealthStore.Event
  | .messageServerSocket k raw =>
    if st.readyState (.inbound k) = .open then
      ((parseClusterSocketMessage raw).map (st.gossipIn (.inbound k))).getD []
    else []
  | .socketMessage k raw =>
    if st.readyState (.outbound k) = .open then
      ((parseClusterSocketMessage raw).map (st.gossipIn (.outbound k))).getD []
    else []
  | _ => []

/-- The event hands over the gossip it brings, and the channels stay as they are. -/
def Relays (gossip : List ClusterPeerHealthStore.Event) (st st' : ClusterNetwork) : Prop :=
  (∃ new, st'.effects = st.effects ++ new ∧ new.filterMap ClusterEffect.observed = gossip) ∧
    st'.channelsByNodeId = st.channelsByNodeId

/-! ### Frames -/

section blames

variable {S : JsString → Prop}

theorem blames_finishReject {socket : SocketId} (hS : ∀ n, st.Dials socket n → S n)
    (message : JsString) : Emits (ClusterEffect.Blames S) st (st.finishReject socket message) := by
  by_cases hd : ∃ n, st.Dials socket n
  · obtain ⟨n, hd⟩ := hd
    refine ⟨_, finishReject_of_dials hd message, ?_⟩
    rintro c (_ | ⟨_, _ | ⟨_, ⟨⟩⟩⟩)
    · trivial
    · exact hS n hd
  · rw [finishReject_of_not_dials fun n h => hd ⟨n, h⟩]
    exact .of_eq rfl

theorem blames_unregisterSocket (h : st.Sound) {socket : SocketId}
    (hS : ∀ n, st.nodeIdBySocket.get socket = some n → S n) :
    Emits (ClusterEffect.Blames S) st (st.unregisterSocket socket) := by
  rcases unregisterSocket_cases h socket with ⟨-, heq⟩ | ⟨n, hn, heq⟩
  · rw [heq]
    exact .of_eq rfl
  · refine ⟨_, heq, fun c hc => ?_⟩
    rcases List.mem_cons.1 hc with rfl | hc
    · exact hS n hn
    · obtain ⟨e, -, rfl⟩ := List.mem_map.1 hc
      trivial

theorem blames_notePeerSuspect {n : JsString} (hS : S n) (detail : JsString) :
    Emits (ClusterEffect.Blames S) st (st.notePeerSuspect n detail) :=
  .one (effects_notePeerSuspect _ _) hS

theorem blames_notePeerAlive (n detail : JsString) :
    Emits (ClusterEffect.Blames S) st (st.notePeerAlive n detail) :=
  notePeerAlive_emits (fun _ _ => trivial) _ _

theorem blames_closeSocket (socket : SocketId) (code : ℕ) (reason : JsString) :
    Emits (ClusterEffect.Blames S) st (st.closeSocket socket code reason) :=
  closeSocket_emits (fun _ _ _ => trivial) _ _ _

theorem blames_ensureChannel (nodeId : JsString) (purpose : AwaitPurpose) :
    Emits (ClusterEffect.Blames S) st (st.ensureChannel nodeId purpose) :=
  ensureChannel_emits (fun _ _ => trivial) _ _

theorem blames_finishResolve (socket : SocketId) :
    Emits (ClusterEffect.Blames S) st (st.finishResolve socket) := by
  unfold finishResolve
  split
  · exact .of_eq rfl
  · split_ifs
    · exact .of_eq rfl
    · exact .of_eq rfl

/-- A `helloAck` of another node than the dialled one makes the dialled one suspect. -/
theorem blames_handleHelloAck {socket : SocketId} {named : JsString}
    (hS : ∀ n, named ≠ n → st.Dials socket n → S n) :
    Emits (ClusterEffect.Blames S) st (st.handleHelloAck socket named) := by
  have hbind : Emits (ClusterEffect.Blames S) st
      ((st.bindSocket socket named).notePeerAlive named (js "hello_ack")) :=
    (show Emits _ st (st.bindSocket socket named) from .of_eq rfl).trans (blames_notePeerAlive _ _)
  have hattempts := @helloAck_attempts st socket named
  refine hbind.trans ?_
  unfold handleHelloAck onHelloAck
  split
  · exact .of_eq rfl
  · rename_i attempt hattempt
    split_ifs with hne
    · refine blames_finishReject (fun n hd => ?_) _
      have hd' : st.Dials socket n := (dials_congr hattempts).1 hd
      obtain ⟨a, ha, -, rfl⟩ := hd
      rw [hattempt] at ha
      cases ha
      exact hS _ hne hd'
    · exact (registerChannel_emits (fun _ _ _ => trivial) _ _).trans
        ((blames_notePeerAlive _ _).trans (blames_finishResolve _))

/-- What a frame of an authenticated channel without rumors reports. -/
theorem blames_handleChannelMessage {socket : SocketId} {remoteNodeId : JsString}
    {message : ClusterSocketMessage} (hknown : st.Known socket)
    (hS : ∀ n, st.SuspectsBy n socket message → S n)
    (hr : ∀ rumor, message ≠ .peerHealthRumor rumor) (hs : ∀ rs, message ≠ .peerHealthSync rs) :
    Emits (ClusterEffect.Blames S) st (st.handleChannelMessage socket remoteNodeId message) := by
  cases message with
  | hello nodeId secret => exact .of_eq rfl
  | helloAck nodeId => exact .of_eq rfl
  | ping ts => exact (blames_notePeerAlive _ _).trans (.one rfl trivial)
  | pong ts => exact blames_notePeerAlive _ _
  | peerHealthRumor rumor => exact absurd rfl (hr rumor)
  | peerHealthDigest digests =>
    unfold handleChannelMessage
    dsimp only
    split_ifs
    · exact blames_notePeerAlive _ _
    · exact (blames_notePeerAlive _ _).trans (blames_ensureChannel _ _)
  | peerHealthRepairRequest peerNodeIds =>
    unfold handleChannelMessage sendPeerHealthSyncToPeer
    dsimp only
    split_ifs
    · exact blames_notePeerAlive _ _
    · exact (blames_notePeerAlive _ _).trans (blames_ensureChannel _ _)
  | peerHealthSync rumors => exact absurd rfl (hs rumors)
  | deliver ref sender envelope ack targets =>
    unfold handleChannelMessage
    dsimp only
    split_ifs
    · exact .one rfl trivial
    · exact .one rfl trivial
  | deliverResult ref deliveredConns error =>
    unfold handleChannelMessage
    dsimp only
    split
    · exact .of_eq rfl
    · rename_i pending hpending
      split
      · rename_i message herror
        have hfail := hS pending.nodeId ⟨hknown, by rw [herror]; simp, pending, hpending, rfl⟩
        exact (settlePending_emits ref).trans
          ((blames_notePeerSuspect hfail _).trans (emit_emits trivial))
      · exact (settlePending_emits ref).trans
          ((blames_notePeerAlive _ _).trans (emit_emits trivial))
  | handleAck ref sender ackFor traceId =>
    unfold handleChannelMessage
    dsimp only
    split_ifs
    · exact .one rfl trivial
    · exact .one rfl trivial
  | handleAckResult ref ok error =>
    unfold handleChannelMessage
    dsimp only
    split
    · exact .of_eq rfl
    · rename_i pending hpending
      split_ifs with hok
      · exact (settlePending_emits ref).trans
          ((blames_notePeerAlive _ _).trans (emit_emits trivial))
      · have hfail := hS pending.nodeId ⟨hknown, by simpa using hok, pending, hpending, rfl⟩
        exact (settlePending_emits ref).trans
          ((blames_notePeerSuspect hfail _).trans (emit_emits trivial))

end blames

theorem channels_notePeerAlive (n detail : JsString) :
    (st.notePeerAlive n detail).channelsByNodeId = st.channelsByNodeId :=
  eq_of_tables channelsByNodeId (fun _ => rfl) (tables_notePeerAlive n detail)

/-- What a frame reports. -/
theorem handleMessage_reports (socket : SocketId) (message : ClusterSocketMessage) :
    Relays (st.gossipIn socket message) st (st.handleMessage socket message) ∨
      Emits (ClusterEffect.Blames fun n => st.SuspectsBy n socket message) st
        (st.handleMessage socket message) := by
  by_cases hm : isHandshake message = false
  · rw [handleMessage_of_not_handshake hm]
    split_ifs with hu
    · exact .inr (blames_closeSocket _ _ _)
    · obtain ⟨u, us, hnode⟩ := List.exists_cons_of_ne_nil hu
      -- a rumor, a sync of rumors, or a frame without any
      by_cases hr : ∃ rumor, message = .peerHealthRumor rumor
      · obtain ⟨rumor, rfl⟩ := hr
        refine .inl ⟨⟨[.markAlive (u :: us) (js "peer_health_rumor"),
          .applyRumor (rumorOf rumor) (u :: us)], ?_, ?_⟩, ?_⟩
        · simp [handleChannelMessage, hnode]
        · simp [gossipIn, hnode, ClusterEffect.observed]
        · simpa [handleChannelMessage, emit] using channels_notePeerAlive _ _
      by_cases hs : ∃ rumors, message = .peerHealthSync rumors
      · obtain ⟨rumors, rfl⟩ := hs
        refine .inl ⟨⟨.markAlive (u :: us) (js "peer_health_sync") ::
          rumors.map fun r => .applyRumor (rumorOf r) (u :: us), ?_, ?_⟩, ?_⟩
        · simp [handleChannelMessage, hnode]
        · simp [gossipIn, hnode, ClusterEffect.observed, List.filterMap_map, Function.comp_def]
        · simpa [handleChannelMessage] using channels_notePeerAlive _ _
      · exact .inr (blames_handleChannelMessage hu (fun _ h => h) (fun r h => hr ⟨r, h⟩)
          fun rs h => hs ⟨rs, h⟩)
  · cases message with
    | hello nodeId secret =>
      rw [handleMessage_hello]
      exact .inr (handleHello_emits (fun _ _ _ => trivial) (fun _ _ => trivial)
        (fun _ _ => trivial) _ _ _)
    | helloAck nodeId =>
      rw [handleMessage_helloAck]
      exact .inr (blames_handleHelloAck fun n hne hd => ⟨hne, hd⟩)
    | _ => exact absurd rfl hm

/-- What a raw frame reports. -/
theorem handleIncomingMessage_reports (socket : SocketId) (raw : JsString) :
    Relays (((parseClusterSocketMessage raw).map (st.gossipIn socket)).getD []) st
        (st.handleIncomingMessage socket raw) ∨
      Emits (ClusterEffect.Blames fun n => ∃ message, parseClusterSocketMessage raw = some message ∧
        st.SuspectsBy n socket message) st (st.handleIncomingMessage socket raw) := by
  cases hp : parseClusterSocketMessage raw with
  | none =>
    rw [handleIncomingMessage, hp]
    exact .inr (blames_closeSocket _ _ _)
  | some message =>
    rw [handleIncomingMessage_of_parse hp]
    simpa using handleMessage_reports socket message

/-! ### Events -/

/-- What the close event of a socket reports. -/
theorem blames_closed (h : st.Sound) {S : JsString → Prop} {socket : SocketId}
    (hS : ∀ n, st.nodeIdBySocket.get socket = some n → S n) :
    Emits (ClusterEffect.Blames S) st
      ((st.setReadyState socket .closed).unregisterSocket socket) :=
  (show Emits _ st (st.setReadyState socket .closed) from .of_eq rfl).trans
    (blames_unregisterSocket (closed_evolves (t := none) h socket).sound hS)

theorem blames_resume (i : ℕ) (ref : JsString) (ts : JsNumber) :
    Emits (ClusterEffect.Blames fun n => st.Suspects n (.resume i ref ts)) st
      (st.resume i ref ts) := by
  unfold resume
  split
  · exact .of_eq rfl
  · rename_i awaiting outcome hi
    obtain ⟨nodeId, purpose⟩ := awaiting
    dsimp only
    split
    · split_ifs
      · exact .of_eq rfl
      · exact .one rfl trivial
    · exact .one rfl trivial
    · exact .one rfl trivial
    · exact (Emits.of_eq rfl).trans (blames_notePeerSuspect ⟨_, hi⟩ _)
    · exact .one rfl trivial
    · exact .of_eq rfl
    · exact .of_eq rfl

/-- A dialled socket that closes blames the node of its channel, and the one that it was dialled
for. -/
theorem blames_socketClosed (h : st.Sound) {k : ℕ}
    (ho : k < st.nextOutbound ∧ st.readyState (.outbound k) ≠ .closed) :
    Emits (ClusterEffect.Blames fun n => st.Suspects n (.socketClosed k)) st
      (st.socketClosed k) := by
  unfold socketClosed
  rw [if_pos ho]
  dsimp only
  have hclosed : Emits (ClusterEffect.Blames fun n => st.Suspects n (.socketClosed k)) st
      ((st.setReadyState (.outbound k) .closed).unregisterSocket (.outbound k)) :=
    blames_closed h fun n hn => ⟨ho, .inl hn⟩
  obtain ⟨hattempts, hconnecting⟩ := @unregisterSocket_tables
    (st.setReadyState (.outbound k) .closed) (.outbound k)
  split_ifs with hcon
  · refine hclosed.trans (blames_finishReject (fun n hn => ⟨ho, .inr ⟨?_, ?_⟩⟩) _)
    · rw [← hcon, attemptConnecting, attemptConnecting, hattempts, hconnecting]
      rfl
    · exact (dials_congr hattempts).1 hn
  · exact hclosed

theorem blames_disconnectPeer (nodeId reason : JsString) :
    Emits (ClusterEffect.Blames fun n => st.Suspects n (.disconnectPeer nodeId reason)) st
      (st.disconnectPeer nodeId reason) := by
  have hchannels : (st.clearPendingProbe nodeId).channelsByNodeId = st.channelsByNodeId :=
    eq_of_tables channelsByNodeId (fun _ => rfl) (tables_clearPendingProbe nodeId)
  unfold disconnectPeer
  dsimp only
  rw [hchannels]
  split
  · exact .of_eq (effects_clearPendingProbe nodeId)
  · rename_i socket hget
    refine ((Emits.of_eq (effects_clearPendingProbe nodeId)).trans
      (blames_closeSocket socket 1012 reason)).trans ?_
    exact (Emits.of_eq rfl).trans (blames_notePeerSuspect ⟨rfl, by rw [hget]; simp⟩ _)

/-- What the operation of an event reports. -/
theorem handle_reports (h : st.Sound) (e : Event) :
    Relays (st.gossip e) st (st.handle e) ∨
      Emits (ClusterEffect.Blames fun n => st.Suspects n e) st (st.handle e) := by
  cases e with
  | setPeers peers => exact .inr (setPeers_emits (fun _ _ _ => trivial) peers)
  | setServerHandlers => exact .inr (.of_eq rfl)
  | healthChanged snapshots => exact .inr (.of_eq rfl)
  | ensureChannel nodeId purpose => exact .inr (blames_ensureChannel _ _)
  | probePeer nodeId =>
    refine .inr (show Emits _ st (st.probePeer nodeId) from ?_)
    unfold probePeer
    split_ifs
    · exact .of_eq rfl
    · exact blames_ensureChannel _ _
  | resume i ref ts => exact .inr (blames_resume i ref ts)
  | openServerSocket n =>
    refine .inr (show Emits _ st (st.openServerSocket n) from ?_)
    unfold openServerSocket
    split_ifs
    · exact .of_eq rfl
    · exact .of_eq rfl
  | messageServerSocket n raw =>
    by_cases ho : st.readyState (.inbound n) = .open
    · have hstep : st.handle (.messageServerSocket n raw) =
          st.handleIncomingMessage (.inbound n) raw := if_pos ho
      -- a frame relays the rumors that it carries, or reports the sender only
      rw [hstep, gossip, if_pos ho]
      exact (handleIncomingMessage_reports _ _).imp id fun hb =>
        hb.mono fun c hc => hc.mono fun _ hs => ⟨ho, hs⟩
    · exact .inr (.of_eq (congrArg effects (if_neg ho)))
  | closeServerSocket n =>
    by_cases ho : st.readyState (.inbound n) = .open ∨ st.readyState (.inbound n) = .closing
    · have hstep : st.handle (.closeServerSocket n) =
        (st.setReadyState (.inbound n) .closed).unregisterSocket (.inbound n) := if_pos ho
      rw [hstep]
      exact .inr (blames_closed h fun m hm => ⟨ho, hm⟩)
    · exact .inr (.of_eq (congrArg effects (if_neg ho)))
  | socketOpened n =>
    refine .inr (show Emits _ st (st.socketOpened n) from ?_)
    unfold socketOpened
    split_ifs
    · exact .one rfl trivial
    · exact .of_eq rfl
  | socketMessage n raw =>
    by_cases ho : st.readyState (.outbound n) = .open
    · have hstep : st.handle (.socketMessage n raw) =
          st.handleIncomingMessage (.outbound n) raw := if_pos ho
      rw [hstep, gossip, if_pos ho]
      exact (handleIncomingMessage_reports _ _).imp id fun hb =>
        hb.mono fun c hc => hc.mono fun _ hs => ⟨ho, hs⟩
    · exact .inr (.of_eq (congrArg effects (if_neg ho)))
  | socketClosed n =>
    by_cases ho : n < st.nextOutbound ∧ st.readyState (.outbound n) ≠ .closed
    · exact .inr (blames_socketClosed h ho)
    · exact .inr (.of_eq (congrArg effects (if_neg ho)))
  | socketError n =>
    by_cases hcon : st.attemptConnecting (.outbound n) = true
    · have hstep : st.handle (.socketError n) = st.finishReject (.outbound n) _ := if_pos hcon
      rw [hstep]
      exact .inr (blames_finishReject (fun m hm => ⟨hcon, hm⟩) _)
    · exact .inr (.of_eq (congrArg effects (if_neg hcon)))
  | connectTimeout n => exact .inr (blames_finishReject (fun m hm => hm) _)
  | handlingFailed socket message =>
    cases socket with
    | inbound n => exact .inr (blames_closeSocket _ _ _)
    | outbound n => exact .inr (blames_finishReject (fun m hm => hm) _)
  | drainFailed socket => exact .inr (blames_closeSocket _ _ _)
  | requestTimeout ref =>
    refine .inr (show Emits _ st (st.requestTimeout ref) from ?_)
    unfold requestTimeout
    split
    · exact .of_eq rfl
    · rename_i pending hpending
      exact (settlePending_emits ref).trans
        ((blames_notePeerSuspect ⟨pending, hpending, rfl⟩ _).trans (emit_emits trivial))
  | requestSendFailed ref message =>
    refine .inr (show Emits _ st (st.requestSendFailed ref message) from ?_)
    unfold requestSendFailed
    split_ifs
    · exact (settlePending_emits ref).trans (emit_emits trivial)
    · exact .of_eq rfl
  | probeTimeout timer =>
    refine .inr (show Emits _ st (st.probeTimeout timer) from ?_)
    unfold probeTimeout
    split
    · exact .of_eq rfl
    · rename_i nodeId htimer
      exact (Emits.of_eq rfl).trans (blames_notePeerSuspect htimer _)
  | probeSendFailed nodeId message => exact .inr (blames_notePeerSuspect rfl _)
  | handlerSettled i result =>
    refine .inr (show Emits _ st (st.handlerSettled i result) from ?_)
    unfold handlerSettled
    split
    · exact .of_eq rfl
    · cases result with
      | delivered conns => exact .one rfl trivial
      | forwarded ok => exact .one rfl trivial
      | failed message => exact .one rfl trivial
  | httpFailed nodeId detail => exact .inr (blames_notePeerSuspect rfl _)
  | httpOk nodeId path => exact .inr (blames_notePeerAlive _ _)
  | disconnectPeer nodeId reason => exact .inr (blames_disconnectPeer nodeId reason)
  | stopPeerProbes => exact .inr stopPeerProbes_emits
  | dispose => exact .inr (dispose_emits (fun _ _ _ => trivial) fun _ => trivial)

/-- **An event hands over the gossip that it brings and nothing else, or it hands over no rumor and
reports only those nodes suspect that it suspects.** -/
theorem step_reports (h : st.Sound) (e : Event) :
    ((st.step e).effects.filterMap ClusterEffect.observed = st.gossip e ∧
        (st.step e).channelsByNodeId = st.channelsByNodeId) ∨
      ∀ c ∈ (st.step e).effects, c.Blames fun n => st.Suspects n e := by
  refine (handle_reports (cleared_evolves (t := none) h).sound e).imp ?_ fun hb => ?_
  · rintro ⟨⟨new, hnew, hgossip⟩, hchannels⟩
    refine ⟨?_, hchannels⟩
    have heffects : (st.step e).effects = new := hnew
    rw [heffects, hgossip]
    rfl
  · exact hb.mem rfl

end ClusterNetwork

end Hardess
