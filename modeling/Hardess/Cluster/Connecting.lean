import Hardess.Cluster.Calm

/-!
# The connecting table

* `Unblocked`: a node without an unsettled attempt has no entry in the table, and asking for its
  channel dials it;
* `Undialable`: asking for the channel of a node would dial it, and dialling throws;
* `unblocked_iff`: the table is unblocked in every state of a run exactly when no event asks for
  the channel of such a node.
-/

namespace Hardess

namespace ClusterNetwork

variable {st st' st'' : ClusterNetwork}

/-- A node without an unsettled attempt has no entry in the connecting table, and asking for its
channel dials it. -/
def Unblocked (st : ClusterNetwork) : Prop :=
  ∀ n, (∀ s, ¬st.Dials s n) → st.connectingByNodeId.get n = none ∧
    ∀ purpose peer, st.peersByNodeId.get n = some peer →
      (∀ s, st.channelsByNodeId.get n = some s → st.readyState s = .closed) →
      st.options.socketFactory st.dials peer.baseUrl = none →
      .connect (.outbound st.nextOutbound) peer.baseUrl ∈
        (st.step (.ensureChannel n purpose)).effects

/-- `ensureChannel` of the node would dial it, and dialling throws. -/
def Undialable (st : ClusterNetwork) (nodeId : JsString) : Prop :=
  (∀ s, st.channelsByNodeId.get nodeId = some s → st.readyState s = .closed) ∧
    st.connectingByNodeId.get nodeId = none ∧
    ∃ peer message, st.peersByNodeId.get nodeId = some peer ∧
      st.options.socketFactory st.dials peer.baseUrl = some message

/-- A frame on the socket makes the network ask for the channel of the node. -/
def Gossips (st : ClusterNetwork) (socket : SocketId) (raw nodeId : JsString) : Prop :=
  st.readyState socket = .open ∧ st.nodeIdBySocket.get socket = some nodeId ∧
    ∃ message, parseClusterSocketMessage raw = some message ∧ st.Repairs message

/-- The event asks for the channel of the node. -/
def Asks (st : ClusterNetwork) (nodeId : JsString) : Event → Prop
  | .ensureChannel n _ => nodeId = n
  | .probePeer n => nodeId = n ∧ st.pendingProbeByNodeId.has n = false
  | .messageServerSocket k raw => st.Gossips (.inbound k) raw nodeId
  | .socketMessage k raw => st.Gossips (.outbound k) raw nodeId
  | _ => False

/-- The event asks for no channel that cannot be dialled. -/
def Dialable (st : ClusterNetwork) (e : Event) : Prop := ∀ n, st.Asks n e → ¬st.Undialable n

/-! ### Entries and attempts -/

/-- In a tracked table only rejected promises block a node. -/
theorem Tracked.unblocked_iff_not_rejected (h : st.Tracked) : st.Unblocked ↔ ∀ n, ¬st.Rejected n := by
  constructor
  · rintro hun n ⟨message, hm⟩
    have hnone := (hun n fun s hd => by
      rw [(h s n).1 hd] at hm
      cases hm).1
    rw [hm] at hnone
    cases hnone
  · intro hno n hn
    have hnone : st.connectingByNodeId.get n = none := by
      cases hc : st.connectingByNodeId.get n with
      | none => rfl
      | some promise =>
        cases promise with
        | attempt s => exact absurd ((h s n).2 hc) (hn s)
        | rejected message => exact absurd ⟨message, hc⟩ (hno n)
    -- no channel and no promise are in the way, so that the node is dialled
    refine ⟨hnone, fun purpose peer hpeer hclosed hdial => ?_⟩
    have hchannel : (st.channelsByNodeId.get n).filter
        (fun s => decide (st.readyState s ≠ .closed)) = none := by
      cases hs : st.channelsByNodeId.get n with
      | none => rfl
      | some s => simp [Option.filter, hclosed s hs]
    show _ ∈ (st.cleared.ensureChannel n purpose).effects
    unfold ensureChannel
    rw [show ((st.cleared.channelsByNodeId.get n).filter fun s =>
        decide (st.cleared.readyState s ≠ .closed)) = none from hchannel,
      show st.cleared.connectingByNodeId.get n = none from hnone,
      show st.cleared.peersByNodeId.get n = some peer from hpeer]
    dsimp only
    rw [show st.cleared.options.socketFactory st.cleared.dials peer.baseUrl = none from hdial]
    exact List.mem_append_right _ (List.mem_singleton.2 rfl)

/-! ### Attempts come and go -/

/-- A fresh attempt enters the table. -/
theorem connect_keeps (h : st.Sound) {nodeId : JsString}
    (hnone : st.connectingByNodeId.get nodeId = none) (peer : ClusterPeerNode)
    (purpose : AwaitPurpose) : Keeps st (st.connect peer ⟨nodeId, purpose⟩) := by
  intro ht
  -- the socket is new: no attempt is under way on it
  have hfresh : st.attempts.get (.outbound st.nextOutbound) = none := by
    cases ha : st.attempts.get (.outbound st.nextOutbound) with
    | none => rfl
    | some a =>
      obtain ⟨k, hk, heq⟩ := h.attempt _ a ha
      cases heq
      exact absurd hk (lt_irrefl _)
  -- nobody dials the node, for its place in the table is free
  have hno (s : SocketId) : ¬st.Dials s nodeId := fun hd => by
    rw [(ht s nodeId).1 hd] at hnone
    cases hnone
  refine ⟨fun s n => ?_, fun n => ?_⟩
  · have hdials : (st.connect peer ⟨nodeId, purpose⟩).Dials s n ↔
        (s = .outbound st.nextOutbound ∧ n = nodeId) ∨ st.Dials s n := by
      unfold Dials connect
      dsimp only
      rw [JsMap.get_set]
      by_cases hs : s = .outbound st.nextOutbound
      · rw [if_pos hs, hs, hfresh]
        constructor
        · rintro ⟨a, ha, -, rfl⟩
          cases ha
          exact .inl ⟨rfl, rfl⟩
        · rintro (⟨-, rfl⟩ | ⟨a, ha, -⟩)
          · exact ⟨_, rfl, rfl, rfl⟩
          · cases ha
      · rw [if_neg hs]
        exact (or_iff_right fun hc => hs hc.1).symm
    rw [hdials, show (st.connect peer ⟨nodeId, purpose⟩).connectingByNodeId =
      st.connectingByNodeId.set nodeId (.attempt (.outbound st.nextOutbound)) from rfl,
      JsMap.get_set]
    by_cases hn : n = nodeId
    · subst hn
      rw [if_pos rfl, or_iff_left (hno s), and_iff_left rfl, Option.some.injEq,
        ConnectPromise.attempt.injEq, eq_comm]
    · rw [if_neg hn, ← ht s n]
      exact or_iff_right fun hc => hn hc.2
  · unfold Rejected connect
    dsimp only
    rw [JsMap.get_set]
    by_cases hn : n = nodeId
    · subst hn
      rw [if_pos rfl, hnone]
      simp
    · rw [if_neg hn]

/-- What `ensureChannel` does: the call waits for an outcome or has one, the node is dialled, or
dialling it throws. -/
theorem ensureChannel_cases (st : ClusterNetwork) (nodeId : JsString) (purpose : AwaitPurpose) :
    (¬st.Undialable nodeId ∧ ∃ w r, st.ensureChannel nodeId purpose =
      { st with waiting := w, resumable := r }) ∨
    (¬st.Undialable nodeId ∧ st.connectingByNodeId.get nodeId = none ∧ ∃ peer,
      st.ensureChannel nodeId purpose = st.connect peer ⟨nodeId, purpose⟩) ∨
    (st.Undialable nodeId ∧ ∃ message, st.ensureChannel nodeId purpose =
      { st.settleNow ⟨nodeId, purpose⟩ (.error message) with
        dials := st.dials + 1
        connectingByNodeId := st.connectingByNodeId.set nodeId (.rejected message) }) := by
  unfold ensureChannel
  cases hchannel : (st.channelsByNodeId.get nodeId).filter
      fun s => decide (st.readyState s ≠ .closed) with
  | some socket =>
    obtain ⟨hs, hr⟩ := Option.filter_eq_some_iff.1 hchannel
    exact .inl ⟨fun hd => of_decide_eq_true hr (hd.1 _ hs), _, _, rfl⟩
  | none =>
    -- a channel that is still in the table is closed
    have hclosed (s : SocketId) (hs : st.channelsByNodeId.get nodeId = some s) :
        st.readyState s = .closed := by
      rw [hs] at hchannel
      simpa [Option.filter] using hchannel
    cases hconnecting : st.connectingByNodeId.get nodeId with
    | some promise =>
      have hdial : ¬st.Undialable nodeId := fun hd => by cases hconnecting.symm.trans hd.2.1
      cases promise with
      | attempt socket => exact .inl ⟨hdial, _, _, rfl⟩
      | rejected message => exact .inl ⟨hdial, _, _, rfl⟩
    | none =>
      cases hpeer : st.peersByNodeId.get nodeId with
      | none =>
        refine .inl ⟨?_, _, _, rfl⟩
        rintro ⟨-, -, peer, message, hp, -⟩
        cases hpeer.symm.trans hp
      | some peer =>
        dsimp only
        cases hdial : st.options.socketFactory st.dials peer.baseUrl with
        | none =>
          refine .inr (.inl ⟨?_, rfl, peer, rfl⟩)
          rintro ⟨-, -, peer', message, hp, hm⟩
          cases hpeer.symm.trans hp
          cases hdial.symm.trans hm
        | some message =>
          exact .inr (.inr ⟨⟨hclosed, hconnecting, peer, message, hpeer, hdial⟩, message, rfl⟩)

/-- The operation keeps the table tracked, and rejects the nodes it asks for that cannot be
dialled. -/
def Turns (asks : JsString → Prop) (st st' : ClusterNetwork) : Prop :=
  st'.Tracked ∧ ∀ n, st'.Rejected n ↔ st.Rejected n ∨ asks n ∧ st.Undialable n

theorem Keeps.turns {asks : JsString → Prop} (h : Keeps st st') (ht : st.Tracked)
    (hno : ∀ n, asks n → ¬st.Undialable n) : Turns asks st st' :=
  ⟨(h ht).1, fun n => ((h ht).2 n).trans (or_iff_left fun hc => hno n hc.1 hc.2).symm⟩

theorem ensureChannel_turns (h : st.Sound) (ht : st.Tracked) (nodeId : JsString)
    (purpose : AwaitPurpose) : Turns (· = nodeId) st (st.ensureChannel nodeId purpose) := by
  have hkeeps (hd : ¬st.Undialable nodeId) (hk : Keeps st (st.ensureChannel nodeId purpose)) :
      Turns (· = nodeId) st (st.ensureChannel nodeId purpose) :=
    hk.turns ht fun n hn => hn ▸ hd
  rcases ensureChannel_cases st nodeId purpose with
    ⟨hd, w, r, heq⟩ | ⟨hd, hnone, peer, heq⟩ | ⟨hd, message, heq⟩
  · exact hkeeps hd (by rw [heq]; exact .of_same rfl rfl)
  · exact hkeeps hd (by rw [heq]; exact connect_keeps h hnone peer purpose)
  · -- the promise is put into the table although it is rejected already
    have hget (n : JsString) : (st.ensureChannel nodeId purpose).connectingByNodeId.get n =
        if n = nodeId then some (.rejected message) else st.connectingByNodeId.get n := by
      rw [heq]
      exact JsMap.get_set _ _ _ _
    have hattempts : (st.ensureChannel nodeId purpose).attempts = st.attempts := by rw [heq]; rfl
    refine ⟨fun s n => ?_, fun n => ?_⟩
    · rw [dials_congr hattempts, hget, ht s n]
      by_cases hn : n = nodeId
      · subst hn
        rw [if_pos rfl, hd.2.1]
        simp
      · rw [if_neg hn]
    · unfold Rejected
      rw [hget]
      by_cases hn : n = nodeId
      · subst hn
        rw [if_pos rfl]
        exact iff_of_true ⟨message, rfl⟩ (.inr ⟨rfl, hd⟩)
      · rw [if_neg hn]
        exact (or_iff_left fun hc => hn hc.1).symm

/-! ### Messages and events -/

theorem Calm.turns {asks : JsString → Prop} (h : Calm st st') (ht : st.Tracked)
    (hno : ∀ n, ¬asks n) : Turns asks st st' :=
  h.connecting.turns ht fun n hn => absurd hn (hno n)

/-- Health evidence changes nothing that dialling reads. -/
theorem undialable_notePeerAlive (nodeId detail n : JsString) :
    (st.notePeerAlive nodeId detail).Undialable n ↔ st.Undialable n := by
  have ht := @tables_notePeerAlive st nodeId detail
  have hready (s : SocketId) := readyState_of_tables ht s
  unfold Undialable
  rw [eq_of_tables channelsByNodeId (fun _ => rfl) ht,
    eq_of_tables connectingByNodeId (fun _ => rfl) ht, eq_of_tables options (fun _ => rfl) ht,
    eq_of_tables dials (fun _ => rfl) ht, show (st.notePeerAlive nodeId detail).peersByNodeId =
      st.peersByNodeId from peers_clearPendingProbe nodeId]
  simp only [hready]

/-- A message asks for the channel of its node, after it noted it alive. -/
theorem alive_ensure_turns (h : st.Sound) (ht : st.Tracked) (nodeId detail : JsString)
    (purpose : AwaitPurpose) :
    Turns (· = nodeId) st ((st.notePeerAlive nodeId detail).ensureChannel nodeId purpose) := by
  have hsound := (Evolves.of_tables (t := none) h (tables_notePeerAlive nodeId detail)).sound
  obtain ⟨ht₁, hr⟩ := (notePeerAlive_calm nodeId detail).connecting ht
  obtain ⟨ht₂, hr₂⟩ := ensureChannel_turns hsound ht₁ nodeId purpose
  refine ⟨ht₂, fun n => (hr₂ n).trans ?_⟩
  rw [hr, undialable_notePeerAlive]

theorem handleChannelMessage_turns (h : st.Sound) (ht : st.Tracked) (socket : SocketId)
    (remoteNodeId : JsString) (message : ClusterSocketMessage) :
    Turns (fun n => n = remoteNodeId ∧ st.Repairs message) st
      (st.handleChannelMessage socket remoteNodeId message) := by
  rcases handleChannelMessage_cases st socket remoteNodeId message with
    ⟨hno, hcalm⟩ | ⟨hrep, detail, purpose, heq⟩
  · exact hcalm.turns ht fun n hn => hno hn.2
  · obtain ⟨ht', hr⟩ := alive_ensure_turns h ht remoteNodeId detail purpose
    rw [heq]
    exact ⟨ht', fun n => (hr n).trans (or_congr_right (and_congr_left' (and_iff_left hrep).symm))⟩

theorem handleHello_keeps (socket : SocketId) (nodeId : JsString) (secret : Option JsString) :
    Keeps st (st.handleHello socket nodeId secret) := by
  unfold handleHello
  split_ifs
  · exact (closeSocket_calm _ _ _).connecting
  · exact (registerChannel_keeps nodeId socket).trans
      ((notePeerAlive_calm nodeId (js "hello")).trans (emit_calm _)).connecting

theorem handleHelloAck_keeps (socket : SocketId) (nodeId : JsString) :
    Keeps st (st.handleHelloAck socket nodeId) := by
  have hbind : Calm st ((st.bindSocket socket nodeId).notePeerAlive nodeId (js "hello_ack")) :=
    (bindSocket_calm socket nodeId).trans (notePeerAlive_calm _ _)
  refine hbind.connecting.trans ?_
  unfold handleHelloAck onHelloAck
  split
  · exact Calm.refl.connecting
  · split_ifs
    · exact (finishReject_calm _ _).connecting
    · exact (registerChannel_keeps _ _).trans
        ((notePeerAlive_calm _ _).trans (finishResolve_calm _)).connecting

theorem handleIncomingMessage_turns (h : st.Sound) (ht : st.Tracked) {socket : SocketId}
    (ho : st.readyState socket = .open) (raw : JsString) :
    Turns (st.Gossips socket raw) st (st.handleIncomingMessage socket raw) := by
  have hgossips {message : ClusterSocketMessage} (hp : parseClusterSocketMessage raw = some message)
      (n : JsString) : st.Gossips socket raw n ↔
        st.nodeIdBySocket.get socket = some n ∧ st.Repairs message := by
    unfold Gossips
    simp [ho, hp]
  cases hp : parseClusterSocketMessage raw with
  | none =>
    rw [handleIncomingMessage, hp]
    refine (closeSocket_calm _ _ _).turns ht ?_
    rintro n ⟨-, -, message, hm, -⟩
    rw [hp] at hm
    cases hm
  | some message =>
    rw [handleIncomingMessage_of_parse hp]
    by_cases hm : isHandshake message = false
    · rw [handleMessage_of_not_handshake hm]
      cases hb : st.nodeIdBySocket.get socket with
      | none =>
        rw [Option.getD_none, if_pos rfl]
        refine (closeSocket_calm _ _ _).turns ht fun n hn => ?_
        rw [hgossips hp, hb] at hn
        cases hn.1
      | some nodeId =>
        rw [Option.getD_some, if_neg (h.bound _ _ hb)]
        have hturns := handleChannelMessage_turns h ht socket nodeId message
        refine ⟨hturns.1, fun n => (hturns.2 n).trans ?_⟩
        rw [hgossips hp, hb, Option.some.injEq, eq_comm]
    · have hno : ¬st.Repairs message := by
        cases message <;> first | exact id | exact absurd rfl hm
      refine Keeps.turns ?_ ht fun n hn => absurd ((hgossips hp n).1 hn).2 hno
      cases message with
      | hello nodeId secret =>
        rw [handleMessage_hello]
        exact handleHello_keeps _ _ _
      | helloAck nodeId =>
        rw [handleMessage_helloAck]
        exact handleHelloAck_keeps _ _
      | _ => exact absurd rfl hm

theorem setPeers_keeps (peers : List ClusterPeerNode) : Keeps st (st.setPeers peers) := by
  have hprobes (next : JsMap JsString ClusterPeerNode) (st : ClusterNetwork) (n : JsString) :
      Calm st (if next.has n then st else st.clearPendingProbe n) := by
    split_ifs
    · exact .refl
    · exact clearPendingProbe_calm n
  exact ((Calm.foldl (fun _ c => closeRemoved_calm _ c) _).trans
    (Calm.foldl (fun _ n => hprobes _ _ n) _)).connecting.trans (.of_same rfl rfl)

/-- **What one event does to the connecting table.** -/
theorem handle_turns (h : st.Sound) (ht : st.Tracked) (e : Event) :
    Turns (fun n => st.Asks n e) st (st.handle e) := by
  by_cases he : e.Stirs
  · cases e with
    | setPeers peers => exact (setPeers_keeps peers).turns ht fun _ hn => absurd hn id
    | ensureChannel nodeId purpose => exact ensureChannel_turns h ht nodeId purpose
    | probePeer nodeId =>
      show Turns _ st (st.probePeer nodeId)
      unfold probePeer
      by_cases hp : st.pendingProbeByNodeId.has nodeId
      · rw [if_pos hp]
        refine Calm.refl.turns ht ?_
        rintro n ⟨-, hno⟩
        rw [hp] at hno
        cases hno
      · rw [if_neg hp]
        obtain ⟨ht', hr⟩ := ensureChannel_turns h ht nodeId .probe
        exact ⟨ht', fun n => (hr n).trans (by simp [Asks, hp])⟩
    | messageServerSocket n raw =>
      show Turns (st.Gossips (.inbound n) raw) st (st.messageServerSocket n raw)
      unfold messageServerSocket
      split_ifs with ho
      · exact handleIncomingMessage_turns h ht ho raw
      · exact Calm.refl.turns ht fun _ hn => ho hn.1
    | socketMessage n raw =>
      show Turns (st.Gossips (.outbound n) raw) st (st.socketMessage n raw)
      unfold socketMessage
      split_ifs with ho
      · exact handleIncomingMessage_turns h ht ho raw
      · exact Calm.refl.turns ht fun _ hn => ho hn.1
    | _ => exact absurd he id
  · refine (handle_calm st he).turns ht fun n hn => he ?_
    cases e <;> first | exact trivial | exact hn

theorem step_turns (h : st.Sound) (ht : st.Tracked) (e : Event) :
    Turns (fun n => st.Asks n e) st (st.step e) :=
  -- what an event asks for does not depend on the effects of the last one
  @handle_turns st.cleared (cleared_evolves (t := none) h).sound ht e

/-- The invariant of the connecting table, with that of the other tables. -/
structure SoundTracked (st : ClusterNetwork) : Prop where
  sound : st.Sound
  tracked : st.Tracked

theorem soundTracked_create (options : ClusterNetworkOptions) : (create options).SoundTracked := by
  refine ⟨sound_create options, fun s n => ⟨?_, fun h => by cases h⟩⟩
  rintro ⟨a, ha, -⟩
  cases ha

theorem soundTracked_step (h : st.SoundTracked) (e : Event) : (st.step e).SoundTracked :=
  ⟨(step_evolves h.sound e).sound, (step_turns h.sound h.tracked e).1⟩

/-- One event leaves no node blocked exactly when it asks for no channel that cannot be
dialled. -/
theorem unblocked_step_iff (h : st.SoundTracked) (hun : st.Unblocked) (e : Event) :
    (st.step e).Unblocked ↔ st.Dialable e := by
  obtain ⟨ht', hr⟩ := step_turns h.sound h.tracked e
  rw [ht'.unblocked_iff_not_rejected]
  refine forall_congr' fun n => ?_
  rw [hr n, not_or, not_and]
  exact and_iff_right (h.tracked.unblocked_iff_not_rejected.1 hun n)

theorem unblocked_create (options : ClusterNetworkOptions) : (create options).Unblocked := by
  refine (soundTracked_create options).tracked.unblocked_iff_not_rejected.2 ?_
  rintro n ⟨message, hm⟩
  cases hm

/-- **Along a run no failed attempt blocks a node exactly when every event that has to dial a node
can.** -/
theorem unblocked_iff (options : ClusterNetworkOptions) (es : List Event) :
    (∀ pre post, es = pre ++ post → (Machine.run step (create options) pre).Unblocked) ↔
      Machine.Along step Dialable (create options) es :=
  Machine.prefixes_iff_along es (soundTracked_create options) (unblocked_create options)
    (fun _ e h => soundTracked_step h e) fun _ e h hun => unblocked_step_iff h hun e

/-- A factory that throws for the URL that is no URL. -/
def picky : ClusterNetworkOptions where
  nodeId := js "a"
  socketFactory := fun _ url => if url = js "no url" then some (js "Invalid URL") else none

/-- The URL of a peer is wrong, and is corrected after it was dialled. -/
def corrected : List Event :=
  [.setPeers [⟨js "b", js "no url"⟩], .ensureChannel (js "b") .warm,
    .setPeers [⟨js "b", js "http://b"⟩]]

/-- The peer can be dialled now, and never is. -/
theorem never_dialled : ¬∀ options es pre post, es = pre ++ post →
    (Machine.run step (create options) pre).Unblocked := by
  intro h
  have hun := h picky corrected corrected [] rfl (js "b") (fun s hd => by
    obtain ⟨a, ha, -⟩ := hd
    exact absurd ha (by simp [show (Machine.run step (create picky) corrected).attempts = .empty
      from rfl]))
  exact absurd hun.1 (by decide)

end ClusterNetwork

end Hardess
