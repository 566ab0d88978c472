import Hardess.Cluster.NetworkStep

/-!
# What the operations of the cluster network emit

* `Emits P`: an operation only adds effects that meet `P`;
* the operations that close no socket, and those that do no harm: they mark no node suspect and
  reject no request for a lost channel;
* the exact effects of the operations that do both.
-/

namespace Hardess

/-- An effect that closes a socket. -/
def ClusterEffect.Closes : ClusterEffect → Prop
  | .close .. => True
  | _ => False

/-- An effect that marks a node suspect, or rejects a request that lost its channel. -/
def ClusterEffect.Harms : ClusterEffect → Prop
  | .markSuspect .. => True
  | .reject _ message => ∃ nodeId, message = ClusterNetwork.channelClosed nodeId
  | _ => False

/-- A frame that the network sends to a peer of its own accord: a request, a probe or gossip. -/
def ClusterSocketMessage.IsTraffic : ClusterSocketMessage → Prop
  | .deliver .. => True
  | .handleAck .. => True
  | .ping .. => True
  | .peerHealthRumor .. => True
  | .peerHealthDigest .. => True
  | .peerHealthRepairRequest .. => True
  | .peerHealthSync .. => True
  | _ => False

/-- An effect that sends such a frame. -/
def ClusterEffect.Traffic : ClusterEffect → Prop
  | .send _ message => message.IsTraffic
  | _ => False

/-- An effect that neither closes a socket nor sends traffic. -/
def ClusterEffect.Mild (c : ClusterEffect) : Prop := ¬c.Closes ∧ ¬c.Traffic

namespace ClusterNetwork

variable {st st' st'' : ClusterNetwork} {P Q : ClusterEffect → Prop}

/-- The operation only adds effects that meet `P`. -/
def Emits (P : ClusterEffect → Prop) (st st' : ClusterNetwork) : Prop :=
  ∃ new, st'.effects = st.effects ++ new ∧ ∀ c ∈ new, P c

theorem Emits.of_eq (h : st'.effects = st.effects) : Emits P st st' :=
  ⟨[], by rw [h, List.append_nil], by simp⟩

theorem Emits.one {c : ClusterEffect} (h : st'.effects = st.effects ++ [c]) (hc : P c) :
    Emits P st st' :=
  ⟨[c], h, by simpa using hc⟩

theorem Emits.trans (h : Emits P st st') (h' : Emits P st' st'') : Emits P st st'' := by
  obtain ⟨new, hnew, hp⟩ := h
  obtain ⟨new', hnew', hp'⟩ := h'
  refine ⟨new ++ new', by rw [hnew', hnew, List.append_assoc], fun c hc => ?_⟩
  rcases List.mem_append.1 hc with hc | hc
  · exact hp c hc
  · exact hp' c hc

theorem Emits.foldl {α : Type} {f : ClusterNetwork → α → ClusterNetwork}
    (h : ∀ st a, Emits P st (f st a)) (as : List α) : Emits P st (as.foldl f st) := by
  induction as generalizing st with
  | nil => exact .of_eq rfl
  | cons a as ih => exact (h st a).trans ih

theorem Emits.mono (h : Emits P st st') (hPQ : ∀ c, P c → Q c) : Emits Q st st' := by
  obtain ⟨new, hnew, hp⟩ := h
  exact ⟨new, hnew, fun c hc => hPQ c (hp c hc)⟩

/-- From no effects, every effect afterwards meets `P`. -/
theorem Emits.mem (h : Emits P st st') (h0 : st.effects = []) : ∀ c ∈ st'.effects, P c := by
  obtain ⟨new, hnew, hp⟩ := h
  rw [hnew, h0, List.nil_append]
  exact hp

/-! ### Single effects -/

@[simp] theorem effects_emit (c : ClusterEffect) : (st.emit c).effects = st.effects ++ [c] := rfl

@[simp] theorem effects_sendMessage (socket : SocketId) (message : ClusterSocketMessage) :
    (st.sendMessage socket message).effects = st.effects ++ [.send socket message] := rfl

@[simp] theorem effects_clearPendingProbe (nodeId : JsString) :
    (st.clearPendingProbe nodeId).effects = st.effects := by
  unfold clearPendingProbe
  split <;> rfl

@[simp] theorem effects_notePeerAlive (nodeId detail : JsString) :
    (st.notePeerAlive nodeId detail).effects = st.effects ++ [.markAlive nodeId detail] := by
  rw [notePeerAlive, effects_emit, effects_clearPendingProbe]

@[simp] theorem effects_notePeerSuspect (nodeId detail : JsString) :
    (st.notePeerSuspect nodeId detail).effects = st.effects ++ [.markSuspect nodeId detail] := by
  rw [notePeerSuspect, effects_emit, effects_clearPendingProbe]

@[simp] theorem effects_closeSocket (socket : SocketId) (code : ℕ) (reason : JsString) :
    (st.closeSocket socket code reason).effects = st.effects ++ [.close socket code reason] := by
  unfold closeSocket
  split_ifs <;> rfl

theorem emit_emits {c : ClusterEffect} (hc : P c) : Emits P st (st.emit c) := .one rfl hc

theorem notePeerAlive_emits (hP : ∀ n d, P (.markAlive n d)) (nodeId detail : JsString) :
    Emits P st (st.notePeerAlive nodeId detail) :=
  .one (effects_notePeerAlive _ _) (hP _ _)

theorem notePeerSuspect_emits (hP : ∀ n d, P (.markSuspect n d)) (nodeId detail : JsString) :
    Emits P st (st.notePeerSuspect nodeId detail) :=
  .one (effects_notePeerSuspect _ _) (hP _ _)

theorem settlePending_emits (ref : JsString) : Emits P st (st.settlePending ref) := .of_eq rfl

theorem closeSocket_emits (hP : ∀ s c r, P (.close s c r)) (socket : SocketId) (code : ℕ)
    (reason : JsString) : Emits P st (st.closeSocket socket code reason) :=
  .one (effects_closeSocket _ _ _) (hP _ _ _)

/-! ### Operations that close no socket -/

theorem ensureChannel_emits (hP : ∀ s url, P (.connect s url)) (nodeId : JsString)
    (purpose : AwaitPurpose) : Emits P st (st.ensureChannel nodeId purpose) := by
  unfold ensureChannel
  split
  · exact .of_eq rfl
  · split
    · exact .of_eq rfl
    · exact .of_eq rfl
    · split
      · exact .of_eq rfl
      · split
        · exact .of_eq rfl
        · exact .one rfl (hP _ _)

/-- What an authenticated channel says closes no socket, and is answered with no traffic. -/
theorem handleChannelMessage_emits (socket : SocketId) (remoteNodeId : JsString)
    (message : ClusterSocketMessage) :
    Emits ClusterEffect.Mild st (st.handleChannelMessage socket remoteNodeId message) := by
  -- nearly every frame is a mark of life of its sender first
  have halive (detail : JsString) :
      Emits ClusterEffect.Mild st (st.notePeerAlive remoteNodeId detail) :=
    notePeerAlive_emits (fun _ _ => ⟨id, id⟩) _ _
  have hensure (st : ClusterNetwork) (purpose : AwaitPurpose) :
      Emits ClusterEffect.Mild st (st.ensureChannel remoteNodeId purpose) :=
    ensureChannel_emits (fun _ _ => ⟨id, id⟩) _ _
  cases message with
  | hello nodeId secret => exact .of_eq rfl
  | helloAck nodeId => exact .of_eq rfl
  | ping ts => exact (halive (js "ping")).trans (.one rfl ⟨id, id⟩)
  | pong ts => exact halive (js "pong")
  | peerHealthRumor rumor => exact (halive (js "peer_health_rumor")).trans (.one rfl ⟨id, id⟩)
  | peerHealthDigest digests =>
    unfold handleChannelMessage
    dsimp only
    split_ifs
    · exact halive _
    · exact (halive _).trans (hensure _ _)
  | peerHealthRepairRequest peerNodeIds =>
    unfold handleChannelMessage sendPeerHealthSyncToPeer
    dsimp only
    split_ifs
    · exact halive _
    · exact (halive _).trans (hensure _ _)
  | peerHealthSync rumors =>
    refine (halive (js "peer_health_sync")).trans ⟨_, rfl, fun c hc => ?_⟩
    obtain ⟨r, -, rfl⟩ := List.mem_map.1 hc
    exact ⟨id, id⟩
  | deliver ref sender envelope ack targets =>
    unfold handleChannelMessage
    dsimp only
    split_ifs
    · exact .one rfl ⟨id, id⟩
    · exact .one rfl ⟨id, id⟩
  | deliverResult ref deliveredConns error =>
    unfold handleChannelMessage
    dsimp only
    split
    · exact .of_eq rfl
    · split
      · exact (settlePending_emits ref).trans
          ((notePeerSuspect_emits (fun _ _ => ⟨id, id⟩) _ _).trans (emit_emits ⟨id, id⟩))
      · exact (settlePending_emits ref).trans
          ((notePeerAlive_emits (fun _ _ => ⟨id, id⟩) _ _).trans (emit_emits ⟨id, id⟩))
  | handleAck ref sender ackFor traceId =>
    unfold handleChannelMessage
    dsimp only
    split_ifs
    · exact .one rfl ⟨id, id⟩
    · exact .one rfl ⟨id, id⟩
  | handleAckResult ref ok error =>
    unfold handleChannelMessage
    dsimp only
    split
    · exact .of_eq rfl
    · split_ifs
      · exact (settlePending_emits ref).trans
          ((notePeerAlive_emits (fun _ _ => ⟨id, id⟩) _ _).trans (emit_emits ⟨id, id⟩))
      · exact (settlePending_emits ref).trans
          ((notePeerSuspect_emits (fun _ _ => ⟨id, id⟩) _ _).trans (emit_emits ⟨id, id⟩))

theorem resume_emits (i : ℕ) (ref : JsString) (ts : JsNumber) :
    Emits (fun c => ¬c.Closes) st (st.resume i ref ts) := by
  unfold resume
  split
  · exact .of_eq rfl
  · dsimp only
    split
    · split_ifs
      · exact .of_eq rfl
      · exact .one rfl id
    · exact .one rfl id
    · exact .one rfl id
    · exact (Emits.of_eq rfl).trans (notePeerSuspect_emits (fun _ _ => id) _ _)
    · exact .one rfl id
    · exact .of_eq rfl
    · exact .of_eq rfl

theorem probeTimeout_emits (timer : ℕ) :
    Emits ClusterEffect.Mild st (st.probeTimeout timer) := by
  unfold probeTimeout
  split
  · exact .of_eq rfl
  · exact (Emits.of_eq rfl).trans (notePeerSuspect_emits (fun _ _ => ⟨id, id⟩) _ _)

theorem requestTimeout_emits (ref : JsString) :
    Emits ClusterEffect.Mild st (st.requestTimeout ref) := by
  unfold requestTimeout
  split
  · exact .of_eq rfl
  · exact (settlePending_emits ref).trans
      ((notePeerSuspect_emits (fun _ _ => ⟨id, id⟩) _ _).trans (emit_emits ⟨id, id⟩))

theorem requestSendFailed_emits (ref message : JsString) :
    Emits ClusterEffect.Mild st (st.requestSendFailed ref message) := by
  unfold requestSendFailed
  split_ifs
  · exact (settlePending_emits ref).trans (emit_emits ⟨id, id⟩)
  · exact .of_eq rfl

theorem handlerSettled_emits (i : ℕ) (result : HandlerResult) :
    Emits ClusterEffect.Mild st (st.handlerSettled i result) := by
  unfold handlerSettled
  split
  · exact .of_eq rfl
  · cases result with
    | delivered conns => exact .one rfl ⟨id, id⟩
    | forwarded ok => exact .one rfl ⟨id, id⟩
    | failed message =>
      refine .one rfl ⟨id, ?_⟩
      dsimp only
      split_ifs <;> exact id

theorem stopPeerProbes_emits : Emits P st st.stopPeerProbes :=
  Emits.foldl (fun _ n => .of_eq (effects_clearPendingProbe n)) _

/-! ### Operations that do no harm -/

theorem closeReplaced_emits (hP : ∀ s c r, P (.close s c r)) (nodeId : JsString)
    (socket : SocketId) : Emits P st (st.closeReplaced nodeId socket) := by
  unfold closeReplaced
  split
  · split_ifs
    · exact closeSocket_emits hP _ _ _
    · exact .of_eq rfl
  · exact .of_eq rfl

theorem registerChannel_emits (hP : ∀ s c r, P (.close s c r)) (nodeId : JsString)
    (socket : SocketId) : Emits P st (st.registerChannel nodeId socket) :=
  (closeReplaced_emits hP nodeId socket).trans (.of_eq rfl)

/-- The channel that `registerChannel` replaces. -/
theorem closeReplaced_eq (nodeId : JsString) (socket : SocketId) :
    st.closeReplaced nodeId socket =
      match (st.channelsByNodeId.get nodeId).filter (· ≠ socket) with
      | none => st
      | some existing => st.closeSocket existing 1000 (js "cluster channel replaced") := by
  unfold closeReplaced
  cases st.channelsByNodeId.get nodeId with
  | none => rfl
  | some existing => by_cases he : existing = socket <;> simp [Option.filter, he]

theorem readyState_registerChannel (nodeId : JsString) (socket s : SocketId) :
    (st.registerChannel nodeId socket).readyState s =
      if st.channelsByNodeId.get nodeId = some s ∧ s ≠ socket ∧ st.readyState s ≠ .closed then
        .closing
      else st.readyState s := by
  show (st.closeReplaced nodeId socket).readyState s = _
  rw [closeReplaced_eq]
  cases hc : (st.channelsByNodeId.get nodeId).filter (· ≠ socket) with
  | none =>
    dsimp only
    rw [if_neg]
    rintro ⟨hs, hne, -⟩
    simp [hs, hne] at hc
  | some existing =>
    obtain ⟨hs, hne⟩ := Option.filter_eq_some_iff.1 hc
    dsimp only
    rw [readyState_closeSocket, hs]
    refine if_congr ?_ rfl rfl
    simp only [Option.some.injEq]
    constructor
    · rintro ⟨rfl, hr⟩
      exact ⟨rfl, of_decide_eq_true hne, hr⟩
    · rintro ⟨rfl, -, hr⟩
      exact ⟨rfl, hr⟩

theorem effects_registerChannel (nodeId : JsString) (socket : SocketId) :
    (st.registerChannel nodeId socket).effects = st.effects ++
      ((st.channelsByNodeId.get nodeId).filter (· ≠ socket)).toList.map
        fun s => .close s 1000 (js "cluster channel replaced") := by
  show (st.closeReplaced nodeId socket).effects = _
  rw [closeReplaced_eq]
  cases (st.channelsByNodeId.get nodeId).filter (· ≠ socket) with
  | none => simp
  | some existing => simp

theorem handleHello_emits (hclose : ∀ s c r, P (.close s c r)) (halive : ∀ n d, P (.markAlive n d))
    (hack : ∀ s n, P (.send s (.helloAck n))) (socket : SocketId) (nodeId : JsString)
    (secret : Option JsString) : Emits P st (st.handleHello socket nodeId secret) := by
  unfold handleHello
  split_ifs
  · exact closeSocket_emits hclose _ _ _
  · exact (registerChannel_emits hclose nodeId socket).trans
      ((notePeerAlive_emits halive _ _).trans (.one rfl (hack _ _)))

theorem setPeers_emits (hP : ∀ s c r, P (.close s c r)) (peers : List ClusterPeerNode) :
    Emits P st (st.setPeers peers) := by
  unfold setPeers
  dsimp only
  refine (Emits.foldl (fun st c => ?_) _).trans
    ((Emits.foldl (fun st n => ?_) _).trans (.of_eq rfl))
  · unfold closeRemoved
    split_ifs
    · exact .of_eq rfl
    · exact ((Emits.of_eq (effects_clearPendingProbe c.1)).trans
        (closeSocket_emits hP _ _ _)).trans (.of_eq rfl)
  · split_ifs
    · exact .of_eq rfl
    · exact .of_eq (effects_clearPendingProbe n)

theorem channelClosed_ne_disposed (nodeId : JsString) :
    js "Cluster network disposed" ≠ channelClosed nodeId := by
  intro h
  have := congrArg (List.take 9) h
  rw [channelClosed, List.take_append_of_le_length (by decide)] at this
  exact absurd this (by decide)

theorem dispose_emits (hclose : ∀ s c r, P (.close s c r))
    (hreject : ∀ ref, P (.reject ref (js "Cluster network disposed"))) :
    Emits P st st.dispose := by
  have hpending : Emits P st.stopPeerProbes
      (st.stopPeerProbes.rejectPending (js "Cluster network disposed")) := by
    refine ⟨_, rfl, fun c hc => ?_⟩
    obtain ⟨e, -, rfl⟩ := List.mem_map.1 hc
    exact hreject _
  exact (stopPeerProbes_emits.trans hpending).trans
    ((Emits.foldl (fun _ _ => closeSocket_emits hclose _ _ _) _).trans (.of_eq rfl))

/-! ### Operations that close a socket and do harm -/

/-- The socket belongs to an unsettled connect attempt for the node. -/
def Dials (st : ClusterNetwork) (socket : SocketId) (nodeId : JsString) : Prop :=
  ∃ a, st.attempts.get socket = some a ∧ a.settled = false ∧ a.nodeId = nodeId

theorem dials_congr {st' : ClusterNetwork} {socket : SocketId} {n : JsString}
    (h : st'.attempts = st.attempts) : st'.Dials socket n ↔ st.Dials socket n := by
  rw [Dials, Dials, h]

/-- The network when `onHelloAck` is called. -/
theorem helloAck_attempts (socket : SocketId) (named : JsString) :
    ((st.bindSocket socket named).notePeerAlive named (js "hello_ack")).attempts = st.attempts :=
  show _ = (st.bindSocket socket named).attempts from
    eq_of_tables attempts (fun _ => rfl) (tables_notePeerAlive named (js "hello_ack"))

theorem finishReject_of_dials {socket : SocketId} {nodeId : JsString} (h : st.Dials socket nodeId)
    (message : JsString) : (st.finishReject socket message).effects =
      st.effects ++ [.close socket 1013 message, .markSuspect nodeId message] := by
  obtain ⟨a, ha, hs, rfl⟩ := h
  unfold finishReject
  rw [ha]
  dsimp only
  rw [if_neg (by simp [hs])]
  show (notePeerSuspect _ _ _).effects = _
  rw [effects_notePeerSuspect, effects_closeSocket]
  simp

theorem finishReject_of_not_dials {socket : SocketId} (h : ∀ nodeId, ¬st.Dials socket nodeId)
    (message : JsString) : st.finishReject socket message = st := by
  unfold finishReject
  split
  · rfl
  · rename_i a ha
    rw [if_pos]
    by_contra hs
    exact h a.nodeId ⟨a, ha, by simpa using hs, rfl⟩

theorem unregisterSocket_of_bound {socket : SocketId} {nodeId : JsString}
    (h : st.nodeIdBySocket.get socket = some nodeId) (hn : nodeId ≠ []) :
    (st.unregisterSocket socket).effects = st.effects ++ (.markSuspect nodeId (js "channel_closed") ::
      (st.pendingRequests.entries.filter fun e => e.2.nodeId = nodeId).map
        fun e => .reject e.1 (channelClosed nodeId)) := by
  unfold unregisterSocket
  rw [h]
  dsimp only
  rw [if_neg hn]
  dsimp only
  rw [effects_notePeerSuspect, effects_clearPendingProbe, List.append_assoc, List.singleton_append,
    eq_of_tables pendingRequests (fun _ => rfl) (by simp : _ = st.tables)]

/-- What `unregisterSocket` does to a socket without a node, and with one. -/
theorem unregisterSocket_cases (h : st.Sound) (socket : SocketId) :
    (st.nodeIdBySocket.get socket = none ∧ st.unregisterSocket socket = st) ∨
    ∃ n, st.nodeIdBySocket.get socket = some n ∧ (st.unregisterSocket socket).effects =
      st.effects ++ (.markSuspect n (js "channel_closed") ::
        (st.pendingRequests.entries.filter fun e => e.2.nodeId = n).map
          fun e => .reject e.1 (channelClosed n)) := by
  cases hb : st.nodeIdBySocket.get socket with
  | none => exact .inl ⟨rfl, by rw [unregisterSocket, hb]⟩
  | some n => exact .inr ⟨n, rfl, unregisterSocket_of_bound hb (h.bound _ _ hb)⟩

theorem unregisterSocket_tables (socket : SocketId) :
    (st.unregisterSocket socket).attempts = st.attempts ∧
      (st.unregisterSocket socket).connectingByNodeId = st.connectingByNodeId := by
  unfold unregisterSocket
  split
  · exact ⟨rfl, rfl⟩
  · dsimp only
    rename_i n _
    have ht : ((st.clearPendingProbe n).notePeerSuspect n (js "channel_closed")).tables =
        st.tables := by simp
    by_cases hn : n = []
    · rw [if_pos hn]
      exact ⟨rfl, rfl⟩
    · rw [if_neg hn]
      have hattempts := eq_of_tables attempts (fun _ => rfl) ht
      have hconnecting := eq_of_tables connectingByNodeId (fun _ => rfl) ht
      exact ⟨hattempts, hconnecting⟩

/-- The tables after the close event of a socket that belongs to a node. -/
theorem tables_unregisterSocket {socket : SocketId} {nodeId : JsString}
    (h : st.nodeIdBySocket.get socket = some nodeId) (hn : nodeId ≠ []) :
    (st.unregisterSocket socket).tables = ClusterNetwork.tables { st with
      channelsByNodeId :=
        if st.channelsByNodeId.get nodeId = some socket then st.channelsByNodeId.delete nodeId
        else st.channelsByNodeId
      nodeIdBySocket := st.nodeIdBySocket.delete socket
      pendingRequests := st.pendingRequests.filter fun _ p => p.nodeId ≠ nodeId } := by
  have hnote : ((st.clearPendingProbe nodeId).notePeerSuspect nodeId
      (js "channel_closed")).tables = st.tables := by simp
  unfold unregisterSocket
  rw [h]
  dsimp only
  rw [if_neg hn]
  generalize (st.clearPendingProbe nodeId).notePeerSuspect nodeId (js "channel_closed") = st₁ at hnote
  cases st
  cases st₁
  simp only [tables, mk.injEq] at hnote
  obtain ⟨rfl, -, rfl, rfl, -, -, rfl, rfl, rfl, rfl, rfl, rfl, -, -, -, rfl, rfl, -, -⟩ := hnote
  rfl

end ClusterNetwork

end Hardess
