import Hardess.Cluster.NetworkEffects

/-!
# The operations that neither dial nor register

* `Tracked`: the unsettled connect attempts are the ones in the connecting table;
* `Calm`: an operation keeps the peers, adds no channel, keeps the connecting table tracked and
  rejects or forgives no node;
* `handle_calm`: every event is calm but `setPeers`, a frame, and a call of `ensureChannel`.
-/

namespace Hardess

namespace ClusterNetwork

variable {st st' st'' : ClusterNetwork}

/-- The unsettled attempts are the ones in the connecting table. -/
def Tracked (st : ClusterNetwork) : Prop :=
  ∀ s n, st.Dials s n ↔ st.connectingByNodeId.get n = some (.attempt s)

/-- The entry of the node is a promise that was rejected while it was made. -/
def Rejected (st : ClusterNetwork) (nodeId : JsString) : Prop :=
  ∃ message, st.connectingByNodeId.get nodeId = some (.rejected message)

/-- The operation keeps the table tracked, and rejects or forgives no node. -/
def Keeps (st st' : ClusterNetwork) : Prop :=
  st.Tracked → st'.Tracked ∧ ∀ n, st'.Rejected n ↔ st.Rejected n

theorem Keeps.of_same (ha : st'.attempts = st.attempts)
    (hc : st'.connectingByNodeId = st.connectingByNodeId) : Keeps st st' := by
  intro h
  refine ⟨fun s n => ?_, fun n => ?_⟩
  · rw [dials_congr ha, hc]
    exact h s n
  · rw [Rejected, Rejected, hc]

theorem Keeps.trans (h : Keeps st st') (h' : Keeps st' st'') : Keeps st st'' := fun ht =>
  ⟨(h' (h ht).1).1, fun n => ((h' (h ht).1).2 n).trans ((h ht).2 n)⟩

/-- An attempt is over: it leaves the table. -/
theorem settled_keeps {socket : SocketId} {a : ConnectAttempt}
    (ha : st.attempts.get socket = some a) (hs : a.settled = false) :
    Keeps st { st with
      attempts := st.attempts.set socket { a with settled := true }
      connectingByNodeId := st.connectingByNodeId.delete a.nodeId } := by
  intro h
  have hsocket := (h socket a.nodeId).1 ⟨a, ha, hs, rfl⟩
  -- the attempts that are under way are those that were, but for this one
  have hdials (s : SocketId) (n : JsString) : Dials { st with
      attempts := st.attempts.set socket { a with settled := true }
      connectingByNodeId := st.connectingByNodeId.delete a.nodeId } s n ↔
        s ≠ socket ∧ st.Dials s n := by
    unfold Dials
    dsimp only
    rw [JsMap.get_set]
    by_cases hne : s = socket
    · simp [hne]
    · simp [hne]
  refine ⟨fun s n => ?_, fun n => ?_⟩
  · rw [hdials, h s n, JsMap.get_delete]
    by_cases hn : n = a.nodeId
    · -- the node had one attempt, the one that is over
      subst hn
      rw [if_pos rfl, hsocket]
      constructor
      · rintro ⟨hne, heq⟩
        cases heq
        exact absurd rfl hne
      · exact fun heq => by cases heq
    · rw [if_neg hn]
      refine and_iff_right_of_imp ?_
      rintro heq rfl
      obtain ⟨b, hb, -, hbn⟩ := (h s n).2 heq
      rw [ha] at hb
      cases hb
      exact hn hbn.symm
  · unfold Rejected
    dsimp only
    rw [JsMap.get_delete]
    by_cases hn : n = a.nodeId
    · subst hn
      rw [if_pos rfl, hsocket]
      simp
    · rw [if_neg hn]

/-! ### Calm operations -/

/-- The operation keeps the peers, adds no channel, and changes the connecting table only by
settling attempts. -/
structure Calm (st st' : ClusterNetwork) : Prop where
  peers : st'.peersByNodeId = st.peersByNodeId
  channels : ∀ n s, st'.channelsByNodeId.get n = some s → st.channelsByNodeId.get n = some s
  connecting : Keeps st st'

theorem Calm.of_same (hp : st'.peersByNodeId = st.peersByNodeId)
    (hc : st'.channelsByNodeId = st.channelsByNodeId) (ha : st'.attempts = st.attempts)
    (hcon : st'.connectingByNodeId = st.connectingByNodeId) : Calm st st' :=
  ⟨hp, fun n s h => by rwa [hc] at h, .of_same ha hcon⟩

theorem Calm.of_tables (hp : st'.peersByNodeId = st.peersByNodeId) (h : st'.tables = st.tables) :
    Calm st st' :=
  .of_same hp (eq_of_tables channelsByNodeId (fun _ => rfl) h)
    (eq_of_tables attempts (fun _ => rfl) h) (eq_of_tables connectingByNodeId (fun _ => rfl) h)

theorem Calm.refl : Calm st st := .of_same rfl rfl rfl rfl

theorem Calm.trans (h : Calm st st') (h' : Calm st' st'') : Calm st st'' :=
  ⟨h'.peers.trans h.peers, fun n s hs => h.channels n s (h'.channels n s hs),
    h.connecting.trans h'.connecting⟩

theorem Calm.foldl {α : Type} {f : ClusterNetwork → α → ClusterNetwork}
    (h : ∀ st a, Calm st (f st a)) (as : List α) : Calm st (as.foldl f st) := by
  induction as generalizing st with
  | nil => exact .refl
  | cons a as ih => exact (h st a).trans ih

theorem clearPendingProbe_calm (nodeId : JsString) : Calm st (st.clearPendingProbe nodeId) :=
  .of_tables (peers_clearPendingProbe nodeId) (tables_clearPendingProbe nodeId)

theorem notePeerAlive_calm (nodeId detail : JsString) : Calm st (st.notePeerAlive nodeId detail) :=
  .of_tables (peers_clearPendingProbe nodeId) (tables_notePeerAlive nodeId detail)

theorem notePeerSuspect_calm (nodeId detail : JsString) :
    Calm st (st.notePeerSuspect nodeId detail) :=
  .of_tables (peers_clearPendingProbe nodeId) (tables_notePeerSuspect nodeId detail)

theorem emit_calm (c : ClusterEffect) : Calm st (st.emit c) := .of_same rfl rfl rfl rfl

theorem settlePending_calm (ref : JsString) : Calm st (st.settlePending ref) :=
  .of_same rfl rfl rfl rfl

theorem setReadyState_calm (socket : SocketId) (r : ReadyState) :
    Calm st (st.setReadyState socket r) := .of_same rfl rfl rfl rfl

theorem bindSocket_calm (socket : SocketId) (nodeId : JsString) :
    Calm st (st.bindSocket socket nodeId) := .of_same rfl rfl rfl rfl

theorem closeSocket_calm (socket : SocketId) (code : ℕ) (reason : JsString) :
    Calm st (st.closeSocket socket code reason) :=
  .of_same (closeSocket_same peersByNodeId (fun _ _ _ => rfl) _ _ _) (closeSocket_channels _ _ _)
    (closeSocket_same attempts (fun _ _ _ => rfl) _ _ _)
    (closeSocket_same connectingByNodeId (fun _ _ _ => rfl) _ _ _)

/-- A channel is closed and taken off its node. -/
theorem dropChannel_calm (nodeId : JsString) (socket : SocketId) (code : ℕ) (reason : JsString) :
    Calm st { st.closeSocket socket code reason with
      channelsByNodeId := (st.closeSocket socket code reason).channelsByNodeId.delete nodeId } :=
  (closeSocket_calm socket code reason).trans
    ⟨rfl, fun _ _ h => (JsMap.get_of_get_delete h).2, .of_same rfl rfl⟩

/-- An attempt that is over, and the calls that waited for it. -/
theorem settled_calm {socket : SocketId} {a : ConnectAttempt}
    (ha : st.attempts.get socket = some a) (hs : a.settled = false) :
    Calm st { st with
      attempts := st.attempts.set socket { a with settled := true }
      connectingByNodeId := st.connectingByNodeId.delete a.nodeId } :=
  ⟨rfl, fun _ _ h => h, settled_keeps ha hs⟩

theorem settleWaiting_calm (socket : SocketId) (outcome : Except JsString SocketId) :
    Calm st (st.settleWaiting socket outcome) := .of_same rfl rfl rfl rfl

theorem finishReject_calm (socket : SocketId) (message : JsString) :
    Calm st (st.finishReject socket message) := by
  unfold finishReject
  split
  · exact .refl
  · rename_i a ha
    split_ifs with hs
    · exact .refl
    · exact (settled_calm ha (by simpa using hs)).trans
        (((closeSocket_calm socket 1013 message).trans
          (notePeerSuspect_calm a.nodeId message)).trans (settleWaiting_calm _ _))

theorem finishResolve_calm (socket : SocketId) : Calm st (st.finishResolve socket) := by
  unfold finishResolve
  split
  · exact .refl
  · rename_i a ha
    split_ifs with hs
    · exact .refl
    · exact (settled_calm ha (by simpa using hs)).trans (settleWaiting_calm _ _)

theorem unregisterSocket_calm (socket : SocketId) : Calm st (st.unregisterSocket socket) := by
  have hkeeps : Keeps st (st.unregisterSocket socket) :=
    .of_same (unregisterSocket_tables socket).1 (unregisterSocket_tables socket).2
  unfold unregisterSocket at hkeeps ⊢
  split at hkeeps
  · exact .refl
  · rename_i n _
    have hnote : Calm st ((st.clearPendingProbe n).notePeerSuspect n (js "channel_closed")) :=
      (clearPendingProbe_calm n).trans (notePeerSuspect_calm n _)
    dsimp only at hkeeps ⊢
    by_cases hn : n = []
    · rw [if_pos hn]
      exact .of_same rfl rfl rfl rfl
    · rw [if_neg hn] at hkeeps ⊢
      refine ⟨hnote.peers, fun m s hs => hnote.channels m s ?_, hkeeps⟩
      dsimp only at hs
      split_ifs at hs
      · exact (JsMap.get_of_get_delete hs).2
      · exact hs

/-- The tables after `registerChannel`. -/
theorem registerChannel_keeps (nodeId : JsString) (socket : SocketId) :
    Keeps st (st.registerChannel nodeId socket) :=
  .of_same (registerChannel_attempts _ _)
    (registerChannel_same connectingByNodeId (fun _ _ _ => rfl) (fun _ _ _ => rfl) _ _)

/-! ### Calm messages and events -/

/-- The message makes the network send something to the node it came from. -/
def Repairs (st : ClusterNetwork) : ClusterSocketMessage → Prop
  | .peerHealthDigest digests => st.collectPeerHealthRepairTargets digests ≠ []
  | .peerHealthRepairRequest peerNodeIds =>
    (st.healthSnapshots.filter fun s => s.nodeId ∈ peerNodeIds).filterMap healthItem ≠ []
  | _ => False

/-- What a message does on an authenticated channel: it is calm, or it notes its node alive and
asks for its channel. -/
theorem handleChannelMessage_cases (st : ClusterNetwork) (socket : SocketId)
    (remoteNodeId : JsString) (message : ClusterSocketMessage) :
    (¬st.Repairs message ∧ Calm st (st.handleChannelMessage socket remoteNodeId message)) ∨
      (st.Repairs message ∧ ∃ detail purpose,
        st.handleChannelMessage socket remoteNodeId message =
          (st.notePeerAlive remoteNodeId detail).ensureChannel remoteNodeId purpose) := by
  have halive (detail : JsString) : Calm st (st.notePeerAlive remoteNodeId detail) :=
    notePeerAlive_calm _ _
  have hanswer (ref : JsString) {st' : ClusterNetwork} (h : Calm (st.settlePending ref) st')
      (c : ClusterEffect) : Calm st (st'.emit c) :=
    (settlePending_calm ref).trans (h.trans (emit_calm c))
  cases message with
  | hello nodeId secret => exact .inl ⟨id, .refl⟩
  | helloAck nodeId => exact .inl ⟨id, .refl⟩
  | ping ts => exact .inl ⟨id, (halive (js "ping")).trans (emit_calm _)⟩
  | pong ts => exact .inl ⟨id, halive (js "pong")⟩
  | peerHealthRumor rumor =>
    exact .inl ⟨id, (halive (js "peer_health_rumor")).trans (emit_calm _)⟩
  | peerHealthDigest digests =>
    -- what is asked for does not depend on the mark of life
    have hsame : (st.notePeerAlive remoteNodeId
        (js "peer_health_digest")).collectPeerHealthRepairTargets digests =
          st.collectPeerHealthRepairTargets digests := by
      unfold notePeerAlive clearPendingProbe
      split <;> rfl
    unfold handleChannelMessage
    dsimp only
    rw [hsame]
    by_cases hreq : st.collectPeerHealthRepairTargets digests = []
    · rw [if_pos hreq]
      exact .inl ⟨fun hm => hm hreq, halive _⟩
    · rw [if_neg hreq]
      exact .inr ⟨hreq, _, _, rfl⟩
  | peerHealthRepairRequest peerNodeIds =>
    have hsame : (st.notePeerAlive remoteNodeId
        (js "peer_health_repair_request")).healthSnapshots = st.healthSnapshots := by
      unfold notePeerAlive clearPendingProbe
      split <;> rfl
    unfold handleChannelMessage sendPeerHealthSyncToPeer
    dsimp only
    rw [hsame]
    by_cases hreq : (st.healthSnapshots.filter fun s => s.nodeId ∈ peerNodeIds).filterMap
        healthItem = []
    · rw [if_pos hreq]
      exact .inl ⟨fun hm => hm hreq, halive _⟩
    · rw [if_neg hreq]
      exact .inr ⟨hreq, _, _, rfl⟩
  | peerHealthSync rumors =>
    exact .inl ⟨id, (halive (js "peer_health_sync")).trans (.of_same rfl rfl rfl rfl)⟩
  | deliver ref sender envelope ack targets =>
    refine .inl ⟨id, ?_⟩
    unfold handleChannelMessage
    dsimp only
    split_ifs <;> exact .of_same rfl rfl rfl rfl
  | deliverResult ref deliveredConns error =>
    refine .inl ⟨id, ?_⟩
    unfold handleChannelMessage
    dsimp only
    split
    · exact .refl
    · split
      · exact hanswer ref (notePeerSuspect_calm _ _) _
      · exact hanswer ref (notePeerAlive_calm _ _) _
  | handleAck ref sender ackFor traceId =>
    refine .inl ⟨id, ?_⟩
    unfold handleChannelMessage
    dsimp only
    split_ifs <;> exact .of_same rfl rfl rfl rfl
  | handleAckResult ref ok error =>
    refine .inl ⟨id, ?_⟩
    unfold handleChannelMessage
    dsimp only
    split
    · exact .refl
    · split_ifs
      · exact hanswer ref (notePeerAlive_calm _ _) _
      · exact hanswer ref (notePeerSuspect_calm _ _) _

theorem closeRemoved_calm (next : JsMap JsString ClusterPeerNode) (c : JsString × SocketId) :
    Calm st (st.closeRemoved next c) := by
  unfold closeRemoved
  split_ifs
  · exact .refl
  · exact (clearPendingProbe_calm c.1).trans (dropChannel_calm _ _ _ _)

theorem disconnectPeer_calm (nodeId reason : JsString) :
    Calm st (st.disconnectPeer nodeId reason) := by
  unfold disconnectPeer
  dsimp only
  split
  · exact clearPendingProbe_calm nodeId
  · exact (clearPendingProbe_calm nodeId).trans
      ((dropChannel_calm _ _ _ _).trans (notePeerSuspect_calm _ _))

theorem stopPeerProbes_calm : Calm st st.stopPeerProbes :=
  Calm.foldl (fun _ n => clearPendingProbe_calm n) _

theorem dispose_calm : Calm st st.dispose := by
  have hreject : Calm st (st.stopPeerProbes.rejectPending (js "Cluster network disposed")) :=
    stopPeerProbes_calm.trans (.of_same rfl rfl rfl rfl)
  exact (hreject.trans (Calm.foldl (fun _ _ => closeSocket_calm _ _ _) _)).trans
    ⟨rfl, fun _ _ h => (by cases h), .of_same rfl rfl⟩

theorem resume_calm (i : ℕ) (ref : JsString) (ts : JsNumber) : Calm st (st.resume i ref ts) := by
  unfold resume
  split
  · exact .refl
  · have herase : Calm st { st with resumable := st.resumable.eraseIdx i } :=
      .of_same rfl rfl rfl rfl
    dsimp only
    split
    · split_ifs
      · exact .refl
      · exact .of_same rfl rfl rfl rfl
    · exact herase.trans (emit_calm _)
    · exact .of_same rfl rfl rfl rfl
    · exact herase.trans (notePeerSuspect_calm _ _)
    · exact herase.trans (emit_calm _)
    · exact herase
    · exact herase

theorem closed_unregister_calm (socket : SocketId) :
    Calm st ((st.setReadyState socket .closed).unregisterSocket socket) :=
  (setReadyState_calm socket .closed).trans (unregisterSocket_calm socket)

theorem socketClosed_calm (n : ℕ) : Calm st (st.socketClosed n) := by
  unfold socketClosed
  split_ifs
  · dsimp only
    split_ifs
    · exact (closed_unregister_calm _).trans (finishReject_calm _ _)
    · exact closed_unregister_calm _
  · exact .refl

theorem probeTimeout_calm (timer : ℕ) : Calm st (st.probeTimeout timer) := by
  unfold probeTimeout
  split
  · exact .refl
  · rename_i nodeId _
    have hdelete : Calm st { st with
        probeTimers := st.probeTimers.delete timer
        pendingProbeByNodeId := st.pendingProbeByNodeId.delete nodeId } := .of_same rfl rfl rfl rfl
    exact hdelete.trans (notePeerSuspect_calm _ _)

theorem requestTimeout_calm (ref : JsString) : Calm st (st.requestTimeout ref) := by
  unfold requestTimeout
  split
  · exact .refl
  · exact (settlePending_calm ref).trans ((notePeerSuspect_calm _ _).trans (emit_calm _))

/-- The events that may dial a node or register a channel, or that set the peers. -/
def Event.Stirs : Event → Prop
  | .setPeers _ => True
  | .ensureChannel _ _ => True
  | .probePeer _ => True
  | .messageServerSocket _ _ => True
  | .socketMessage _ _ => True
  | _ => False

/-- **Every other event is calm.** -/
theorem handle_calm (st : ClusterNetwork) {e : Event} (he : ¬e.Stirs) : Calm st (st.handle e) := by
  cases e with
  | setServerHandlers => exact .of_same rfl rfl rfl rfl
  | healthChanged snapshots => exact .of_same rfl rfl rfl rfl
  | resume i ref ts => exact resume_calm i ref ts
  | openServerSocket n =>
    show Calm st (st.openServerSocket n)
    unfold openServerSocket
    split_ifs
    · exact setReadyState_calm _ _
    · exact .refl
  | closeServerSocket n =>
    show Calm st (st.closeServerSocket n)
    unfold closeServerSocket
    split_ifs
    · exact closed_unregister_calm _
    · exact .refl
  | socketOpened n =>
    show Calm st (st.socketOpened n)
    unfold socketOpened
    split_ifs
    · exact (setReadyState_calm _ _).trans (emit_calm _)
    · exact .refl
  | socketClosed n => exact socketClosed_calm n
  | socketError n =>
    show Calm st (st.socketError n)
    unfold socketError
    split_ifs
    · exact finishReject_calm _ _
    · exact .refl
  | connectTimeout n => exact finishReject_calm _ _
  | handlingFailed socket message =>
    cases socket with
    | inbound n => exact closeSocket_calm _ _ _
    | outbound n => exact finishReject_calm _ _
  | drainFailed socket => exact closeSocket_calm _ _ _
  | requestTimeout ref => exact requestTimeout_calm ref
  | requestSendFailed ref message =>
    show Calm st (st.requestSendFailed ref message)
    unfold requestSendFailed
    split_ifs
    · exact (settlePending_calm ref).trans (emit_calm _)
    · exact .refl
  | probeTimeout timer => exact probeTimeout_calm timer
  | probeSendFailed nodeId message => exact notePeerSuspect_calm _ _
  | handlerSettled i result =>
    show Calm st (st.handlerSettled i result)
    unfold handlerSettled
    split
    · exact .refl
    · cases result <;> exact .of_same rfl rfl rfl rfl
  | httpFailed nodeId detail => exact notePeerSuspect_calm _ _
  | httpOk nodeId path => exact notePeerAlive_calm _ _
  | disconnectPeer nodeId reason => exact disconnectPeer_calm _ _
  | stopPeerProbes => exact stopPeerProbes_calm
  | dispose => exact dispose_calm
  | _ => exact absurd trivial he

end ClusterNetwork

end Hardess
