import Hardess.Cluster.Calm

/-!
# Channels and the peers that admin projects

* `Contained`: every node with a channel is a peer, and traffic goes over an open socket only when
  it is the channel of a peer;
* `Registers`: an event puts a channel of a node into the table, by an accepted `hello` or by the
  `helloAck` that a connect attempt waits for;
* `contained_iff`: the channels are contained in every state of a run exactly when only peers are
  registered.
-/

namespace Hardess

namespace ClusterNetwork

variable {st st' st'' : ClusterNetwork}

/-- Every node with a channel is a peer. -/
def ChannelsOfPeers (st : ClusterNetwork) : Prop :=
  ∀ n s, st.channelsByNodeId.get n = some s → st.peersByNodeId.has n = true

/-- Every node with a channel is a peer, and the traffic of the last event went to peers: the
socket is no longer open, or the channel of a peer. -/
def Contained (st : ClusterNetwork) : Prop :=
  st.ChannelsOfPeers ∧
    ∀ s m, .send s m ∈ st.effects → m.IsTraffic → st.readyState s = .open →
      ∃ n, st.channelsByNodeId.get n = some s ∧ st.peersByNodeId.has n = true

/-- The frame makes the network register a channel of the node. -/
def Introduces (st : ClusterNetwork) (socket : SocketId) (raw nodeId : JsString) : Prop :=
  st.readyState socket = .open ∧
    ((∃ secret, parseClusterSocketMessage raw = some (.hello nodeId secret) ∧
        ¬((st.options.sharedSecret.filter (· ≠ [])).isSome ∧ secret ≠ st.options.sharedSecret)) ∨
      (parseClusterSocketMessage raw = some (.helloAck nodeId) ∧
        ∃ a, st.attempts.get socket = some a ∧ a.nodeId = nodeId))

/-- The event makes the network register a channel of the node. -/
def Registers (st : ClusterNetwork) (nodeId : JsString) : Event → Prop
  | .messageServerSocket n raw => st.Introduces (.inbound n) raw nodeId
  | .socketMessage n raw => st.Introduces (.outbound n) raw nodeId
  | _ => False

/-- Only peers are registered. -/
def Admits (st : ClusterNetwork) (e : Event) : Prop :=
  ∀ n, st.Registers n e → st.peersByNodeId.has n = true

/-! ### Operations that register no channel -/

theorem ensureChannel_channels (nodeId : JsString) (purpose : AwaitPurpose) :
    (st.ensureChannel nodeId purpose).peersByNodeId = st.peersByNodeId ∧
      (st.ensureChannel nodeId purpose).channelsByNodeId = st.channelsByNodeId := by
  unfold ensureChannel
  split
  · exact ⟨rfl, rfl⟩
  · split
    · exact ⟨rfl, rfl⟩
    · exact ⟨rfl, rfl⟩
    · split
      · exact ⟨rfl, rfl⟩
      · split
        · exact ⟨rfl, rfl⟩
        · exact ⟨rfl, rfl⟩

/-- The operation keeps the peers, and adds no channel. -/
def Drops (st st' : ClusterNetwork) : Prop :=
  st'.peersByNodeId = st.peersByNodeId ∧
    ∀ n s, st'.channelsByNodeId.get n = some s → st.channelsByNodeId.get n = some s

theorem Calm.drops (h : Calm st st') : Drops st st' := ⟨h.peers, h.channels⟩

theorem ensureChannel_drops (nodeId : JsString) (purpose : AwaitPurpose) :
    Drops st (st.ensureChannel nodeId purpose) := by
  obtain ⟨hp, hc⟩ := @ensureChannel_channels st nodeId purpose
  exact ⟨hp, fun n s hs => by rwa [hc] at hs⟩

theorem handleChannelMessage_drops (socket : SocketId) (remoteNodeId : JsString)
    (message : ClusterSocketMessage) :
    Drops st (st.handleChannelMessage socket remoteNodeId message) := by
  rcases handleChannelMessage_cases st socket remoteNodeId message with
    ⟨-, hcalm⟩ | ⟨-, detail, purpose, heq⟩
  · exact hcalm.drops
  · have halive := @notePeerAlive_calm st remoteNodeId detail
    obtain ⟨hp, hc⟩ := @ensureChannel_drops (st.notePeerAlive remoteNodeId detail) remoteNodeId
      purpose
    rw [heq]
    exact ⟨hp.trans halive.peers, fun n s hs => halive.channels n s (hc n s hs)⟩

/-! ### Operations that register a channel -/

/-- The operation makes a socket the channel of the node. -/
def Adds (nodeId : JsString) (st st' : ClusterNetwork) : Prop :=
  st'.peersByNodeId = st.peersByNodeId ∧
    ∃ socket, st'.channelsByNodeId = st.channelsByNodeId.set nodeId socket

/-- The tables of peers and channels after `registerChannel` and what follows it. -/
theorem registerChannel_adds (nodeId : JsString) (socket : SocketId)
    (hp : st'.peersByNodeId = (st.registerChannel nodeId socket).peersByNodeId)
    (hc : st'.channelsByNodeId = (st.registerChannel nodeId socket).channelsByNodeId) :
    Adds nodeId st st' := by
  refine ⟨hp.trans (registerChannel_same peersByNodeId (fun _ _ _ => rfl) (fun _ _ _ => rfl) _ _),
    socket, hc.trans ?_⟩
  show (st.closeReplaced nodeId socket).channelsByNodeId.set nodeId socket = _
  congr 1
  unfold closeReplaced
  split
  · split_ifs
    · exact closeSocket_channels _ _ _
    · rfl
  · rfl

theorem finishResolve_same (socket : SocketId) :
    (st.finishResolve socket).peersByNodeId = st.peersByNodeId ∧
      (st.finishResolve socket).channelsByNodeId = st.channelsByNodeId := by
  unfold finishResolve
  split
  · exact ⟨rfl, rfl⟩
  · split_ifs
    · exact ⟨rfl, rfl⟩
    · exact ⟨rfl, rfl⟩

theorem notePeerAlive_same (nodeId detail : JsString) :
    (st.notePeerAlive nodeId detail).peersByNodeId = st.peersByNodeId ∧
      (st.notePeerAlive nodeId detail).channelsByNodeId = st.channelsByNodeId :=
  ⟨peers_clearPendingProbe nodeId,
    eq_of_tables channelsByNodeId (fun _ => rfl) (tables_notePeerAlive nodeId detail)⟩

/-- A `hello` makes its socket the channel of the node that it names, unless the secrets differ. -/
theorem handleHello_channels (socket : SocketId) (nodeId : JsString) (secret : Option JsString) :
    (((st.options.sharedSecret.filter (· ≠ [])).isSome ∧ secret ≠ st.options.sharedSecret) ∧
        Drops st (st.handleHello socket nodeId secret)) ∨
      (¬((st.options.sharedSecret.filter (· ≠ [])).isSome ∧ secret ≠ st.options.sharedSecret) ∧
        Adds nodeId st (st.handleHello socket nodeId secret)) := by
  unfold handleHello
  split_ifs with hsecret
  · exact .inl ⟨hsecret, (closeSocket_calm _ _ _).drops⟩
  · obtain ⟨hpeers, hchannels⟩ :=
      @notePeerAlive_same (st.registerChannel nodeId socket) nodeId (js "hello")
    exact .inr ⟨hsecret, registerChannel_adds nodeId socket hpeers hchannels⟩

/-- A `helloAck` makes its socket the channel of the node that it names, if it was dialled
for that node. -/
theorem handleHelloAck_channels (socket : SocketId) (nodeId : JsString) :
    ((¬∃ a, st.attempts.get socket = some a ∧ a.nodeId = nodeId) ∧
        Drops st (st.handleHelloAck socket nodeId)) ∨
      ((∃ a, st.attempts.get socket = some a ∧ a.nodeId = nodeId) ∧
        Adds nodeId st (st.handleHelloAck socket nodeId)) := by
  rw [handleHelloAck, onHelloAck]
  have hnote := @notePeerAlive_same (st.bindSocket socket nodeId) nodeId (js "hello_ack")
  have hattempts := @helloAck_attempts st socket nodeId
  have hcalm := (bindSocket_calm socket nodeId).trans
    (@notePeerAlive_calm (st.bindSocket socket nodeId) nodeId (js "hello_ack"))
  generalize (st.bindSocket socket nodeId).notePeerAlive nodeId (js "hello_ack") = st₁
    at hnote hattempts hcalm
  rw [hattempts]
  cases ha : st.attempts.get socket with
  | none => exact .inl ⟨by simp, hcalm.drops⟩
  | some a =>
    dsimp only
    split_ifs with hne
    · refine .inl ⟨?_, (hcalm.trans (finishReject_calm _ _)).drops⟩
      rintro ⟨b, hb, hbn⟩
      cases hb
      exact hne hbn.symm
    · -- the node was dialled under this name: its channel is registered between two marks of life
      obtain rfl : nodeId = a.nodeId := not_not.1 hne
      obtain ⟨hp₁, hc₁⟩ := @finishResolve_same
        ((st₁.registerChannel a.nodeId socket).notePeerAlive a.nodeId (js "hello_ack")) socket
      obtain ⟨hp₂, hc₂⟩ := @notePeerAlive_same (st₁.registerChannel a.nodeId socket)
        a.nodeId (js "hello_ack")
      obtain ⟨hp₃, t, hc₃⟩ := registerChannel_adds a.nodeId socket (hp₁.trans hp₂)
        (hc₁.trans hc₂)
      refine .inr ⟨⟨a, rfl, rfl⟩, hp₃.trans hnote.1, t, ?_⟩
      rw [hc₃, hnote.2]
      rfl

/-- What a frame does to the channels. -/
theorem handleIncomingMessage_channels {socket : SocketId} (ho : st.readyState socket = .open)
    (raw : JsString) :
    (Drops st (st.handleIncomingMessage socket raw) ∧ ∀ n, ¬st.Introduces socket raw n) ∨
      ∃ n, (∀ m, st.Introduces socket raw m ↔ m = n) ∧
        Adds n st (st.handleIncomingMessage socket raw) := by
  cases hp : parseClusterSocketMessage raw with
  | none =>
    refine .inl ⟨?_, fun n hn => ?_⟩
    · rw [handleIncomingMessage, hp]
      exact (closeSocket_calm _ _ _).drops
    · rcases hn.2 with ⟨_, h, -⟩ | ⟨h, -⟩
      · rw [hp] at h
        cases h
      · rw [hp] at h
        cases h
  | some message =>
    rw [handleIncomingMessage_of_parse hp]
    -- only the two handshakes introduce a node
    have hintro (n : JsString) : st.Introduces socket raw n ↔
        (∃ secret, message = .hello n secret ∧
          ¬((st.options.sharedSecret.filter (· ≠ [])).isSome ∧
            secret ≠ st.options.sharedSecret)) ∨
        (message = .helloAck n ∧ ∃ a, st.attempts.get socket = some a ∧ a.nodeId = n) := by
      unfold Introduces
      rw [hp]
      simp only [ho, true_and, Option.some.injEq]
    by_cases hm : isHandshake message = false
    · refine .inl ⟨?_, fun n hn => ?_⟩
      · rw [handleMessage_of_not_handshake hm]
        split_ifs
        · exact (closeSocket_calm _ _ _).drops
        · exact handleChannelMessage_drops _ _ _
      · rcases (hintro n).1 hn with ⟨_, rfl, -⟩ | ⟨rfl, -⟩
        · cases hm
        · cases hm
    · cases message with
      | hello nodeId secret =>
        rw [handleMessage_hello]
        rcases @handleHello_channels st socket nodeId secret with ⟨hs, hdrops⟩ | ⟨hs, hadds⟩
        · refine .inl ⟨hdrops, fun n hn => ?_⟩
          rcases (hintro n).1 hn with ⟨_, heq, hs'⟩ | ⟨heq, -⟩
          · cases heq
            exact hs' hs
          · cases heq
        · refine .inr ⟨nodeId, fun m => ?_, hadds⟩
          rw [hintro]
          constructor
          · rintro (⟨_, heq, -⟩ | ⟨heq, -⟩)
            · cases heq
              rfl
            · cases heq
          · rintro rfl
            exact .inl ⟨secret, rfl, hs⟩
      | helloAck nodeId =>
        rw [handleMessage_helloAck]
        rcases @handleHelloAck_channels st socket nodeId with ⟨ha, hdrops⟩ | ⟨ha, hadds⟩
        · refine .inl ⟨hdrops, fun n hn => ?_⟩
          rcases (hintro n).1 hn with ⟨_, heq, -⟩ | ⟨heq, ha'⟩
          · cases heq
          · cases heq
            exact ha ha'
        · refine .inr ⟨nodeId, fun m => ?_, hadds⟩
          rw [hintro]
          constructor
          · rintro (⟨_, heq, -⟩ | ⟨heq, -⟩)
            · cases heq
            · cases heq
              rfl
          · rintro rfl
            exact .inr ⟨rfl, ha⟩
      | _ => exact absurd rfl hm

/-! ### The peer set changes -/

/-- No channel that was looked at stays, unless its node is one of the new peers. -/
theorem closeRemoved_foldl (next : JsMap JsString ClusterPeerNode)
    (cs : List (JsString × SocketId)) {n : JsString} {s : SocketId}
    (h : (cs.foldl (fun st c => closeRemoved st next c) st).channelsByNodeId.get n = some s)
    (hc : ∃ c ∈ cs, c.1 = n) : next.has n = true := by
  induction cs generalizing st with
  | nil => simp at hc
  | cons c cs ih =>
    rw [List.foldl_cons] at h
    by_cases hrest : ∃ c ∈ cs, c.1 = n
    · exact ih h hrest
    · -- the channel of `n` is looked at now, and nothing later brings it back
      obtain ⟨d, hd, rfl⟩ := hc
      obtain rfl : d = c := by
        rcases List.mem_cons.1 hd with rfl | hd
        · rfl
        · exact absurd ⟨d, hd, rfl⟩ hrest
      have hget := (Calm.foldl (fun st c => closeRemoved_calm next c) cs).channels _ _ h
      by_contra hno
      unfold closeRemoved at hget
      rw [if_neg hno] at hget
      simp at hget

theorem setPeers_channels (peers : List ClusterPeerNode) : (st.setPeers peers).ChannelsOfPeers := by
  intro n s hs
  show (peers.foldl (fun m p => m.set p.nodeId p) JsMap.empty).has n = true
  have hprobes (keys : List JsString) (st₁ : ClusterNetwork) : Calm st₁ (keys.foldl (fun s n =>
      if (peers.foldl (fun m p => m.set p.nodeId p) JsMap.empty).has n then s
      else s.clearPendingProbe n) st₁) := by
    refine Calm.foldl (fun st n => ?_) keys
    split_ifs
    · exact .refl
    · exact clearPendingProbe_calm n
  have hget := (hprobes _ _).channels n s hs
  have hold := (Calm.foldl (fun st c => closeRemoved_calm _ c) _).channels n s hget
  exact closeRemoved_foldl _ _ hget ⟨(n, s), JsMap.get_eq_some_iff.1 hold, rfl⟩

/-! ### Events -/

/-- What one event does to the channels: it sets the peers, it adds none, or it adds that of the
one node that it registers. -/
theorem handle_channels (st : ClusterNetwork) (e : Event) :
    (∃ peers, e = .setPeers peers) ∨ (Drops st (st.handle e) ∧ ∀ n, ¬st.Registers n e) ∨
      ∃ n, (∀ m, st.Registers m e ↔ m = n) ∧ Adds n st (st.handle e) := by
  by_cases he : e.Stirs
  · cases e with
    | setPeers peers => exact .inl ⟨peers, rfl⟩
    | ensureChannel nodeId purpose => exact .inr (.inl ⟨ensureChannel_drops _ _, fun _ => id⟩)
    | probePeer nodeId =>
      refine .inr (.inl ⟨?_, fun _ => id⟩)
      show Drops st (st.probePeer nodeId)
      unfold probePeer
      split_ifs
      · exact Calm.refl.drops
      · exact ensureChannel_drops _ _
    | messageServerSocket n raw =>
      by_cases ho : st.readyState (.inbound n) = .open
      · rw [show st.handle (.messageServerSocket n raw) =
          st.handleIncomingMessage (.inbound n) raw from if_pos ho]
        exact .inr (handleIncomingMessage_channels ho raw)
      · rw [show st.handle (.messageServerSocket n raw) = st from if_neg ho]
        exact .inr (.inl ⟨Calm.refl.drops, fun _ h => ho h.1⟩)
    | socketMessage n raw =>
      by_cases ho : st.readyState (.outbound n) = .open
      · rw [show st.handle (.socketMessage n raw) =
          st.handleIncomingMessage (.outbound n) raw from if_pos ho]
        exact .inr (handleIncomingMessage_channels ho raw)
      · rw [show st.handle (.socketMessage n raw) = st from if_neg ho]
        exact .inr (.inl ⟨Calm.refl.drops, fun _ h => ho h.1⟩)
    | _ => exact absurd he id
  · refine .inr (.inl ⟨(handle_calm st he).drops, fun n hn => he ?_⟩)
    cases e <;> first | exact trivial | exact hn

/-- One event keeps the channels with the peers exactly when it registers only peers. -/
theorem channelsOfPeers_step_iff (h : st.ChannelsOfPeers) (e : Event) :
    (st.step e).ChannelsOfPeers ↔ st.Admits e := by
  rcases handle_channels st.cleared e with ⟨peers, rfl⟩ | ⟨⟨hp, hc⟩, hno⟩ | ⟨n, hn, hp, s, hc⟩
  · exact iff_of_true (setPeers_channels peers) fun n hn => absurd hn id
  · refine iff_of_true (fun n s hs => ?_) fun n hn => absurd hn (hno n)
    show (st.cleared.handle e).peersByNodeId.has n = true
    rw [hp]
    exact h n s (hc n s hs)
  · have hget (m : JsString) : (st.step e).channelsByNodeId.get m =
        if m = n then some s else st.channelsByNodeId.get m := by
      show (st.cleared.handle e).channelsByNodeId.get m = _
      rw [hc]
      exact JsMap.get_set _ _ _ _
    have hpeers : (st.step e).peersByNodeId = st.peersByNodeId := hp
    constructor
    · intro hk m hm
      obtain rfl : m = n := (hn m).1 hm
      rw [← hpeers]
      exact hk m s (by rw [hget, if_pos rfl])
    · intro ha m t ht
      rw [hpeers]
      rw [hget] at ht
      split_ifs at ht with hm
      · exact ha m ((hn m).2 hm)
      · exact h m t ht

/-! ### Traffic -/

/-- Traffic is only sent on a socket that serves some node. -/
def Served (st : ClusterNetwork) (c : ClusterEffect) : Prop :=
  ∀ s m, c = .send s m → m.IsTraffic → ∃ n, st.Serves n s

theorem served_of_not_traffic {c : ClusterEffect} (h : ¬c.Traffic) : st.Served c := by
  rintro s m rfl hm
  exact absurd hm h

/-- A call that goes on sends on the socket it got, and that one serves its node. -/
theorem resume_served (h : st.Sound) (i : ℕ) (ref : JsString) (ts : JsNumber) :
    Emits st.Served st (st.resume i ref ts) := by
  unfold resume
  split
  · exact .of_eq rfl
  · rename_i awaiting outcome hi
    have hserves {socket : SocketId} (ho : outcome = .ok socket) (m : ClusterSocketMessage) :
        st.Served (.send socket m) := by
      rintro s _ heq -
      cases heq
      exact ⟨_, h.resumable awaiting socket (ho ▸ List.mem_of_getElem? hi)⟩
    have hother {c : ClusterEffect} (hc : ¬c.Traffic) : st.Served c := served_of_not_traffic hc
    dsimp only
    split
    · split_ifs
      · exact .of_eq rfl
      · exact .one rfl (hserves rfl _)
    · exact .one rfl (hother id)
    · exact .one rfl (hserves rfl _)
    · exact (Emits.of_eq rfl).trans (notePeerSuspect_emits (fun _ _ => hother id) _ _)
    · exact .one rfl (hserves rfl _)
    · exact .of_eq rfl
    · exact .of_eq rfl

theorem finishReject_emits {P : ClusterEffect → Prop} (hclose : ∀ s c r, P (.close s c r))
    (hsuspect : ∀ n d, P (.markSuspect n d)) (socket : SocketId) (message : JsString) :
    Emits P st (st.finishReject socket message) := by
  by_cases hd : ∃ n, st.Dials socket n
  · obtain ⟨n, hd⟩ := hd
    refine ⟨_, finishReject_of_dials hd message, ?_⟩
    simp [hclose, hsuspect]
  · rw [finishReject_of_not_dials fun n h => hd ⟨n, h⟩]
    exact .of_eq rfl

theorem unregisterSocket_emits {P : ClusterEffect → Prop} (h : st.Sound)
    (hsuspect : ∀ n d, P (.markSuspect n d)) (hreject : ∀ ref m, P (.reject ref m))
    (socket : SocketId) : Emits P st (st.unregisterSocket socket) := by
  rcases unregisterSocket_cases h socket with ⟨-, heq⟩ | ⟨n, -, heq⟩
  · rw [heq]
    exact .of_eq rfl
  · refine ⟨_, heq, fun c hc => ?_⟩
    rcases List.mem_cons.1 hc with rfl | hc
    · exact hsuspect _ _
    · obtain ⟨e, -, rfl⟩ := List.mem_map.1 hc
      exact hreject _ _

theorem handleHelloAck_emits {P : ClusterEffect → Prop} (hclose : ∀ s c r, P (.close s c r))
    (halive : ∀ n d, P (.markAlive n d)) (hsuspect : ∀ n d, P (.markSuspect n d))
    (socket : SocketId) (nodeId : JsString) : Emits P st (st.handleHelloAck socket nodeId) := by
  have hbind : Emits P st ((st.bindSocket socket nodeId).notePeerAlive nodeId (js "hello_ack")) :=
    (show Emits P st (st.bindSocket socket nodeId) from .of_eq rfl).trans
      (notePeerAlive_emits halive _ _)
  have hresolve (st : ClusterNetwork) : Emits P st (st.finishResolve socket) := by
    unfold finishResolve
    split
    · exact .of_eq rfl
    · split_ifs
      · exact .of_eq rfl
      · exact .of_eq rfl
  refine hbind.trans ?_
  unfold handleHelloAck onHelloAck
  split
  · exact .of_eq rfl
  · split_ifs
    · exact finishReject_emits hclose hsuspect _ _
    · exact (registerChannel_emits hclose _ _).trans
        ((notePeerAlive_emits halive _ _).trans (hresolve _))

theorem handleIncomingMessage_quiet (socket : SocketId) (raw : JsString) :
    Emits (fun c => ¬c.Traffic) st (st.handleIncomingMessage socket raw) := by
  cases hp : parseClusterSocketMessage raw with
  | none =>
    rw [handleIncomingMessage, hp]
    exact closeSocket_emits (fun _ _ _ => id) _ _ _
  | some message =>
    rw [handleIncomingMessage_of_parse hp]
    by_cases hm : isHandshake message = false
    · rw [handleMessage_of_not_handshake hm]
      split_ifs
      · exact closeSocket_emits (fun _ _ _ => id) _ _ _
      · exact (handleChannelMessage_emits _ _ _).mono fun _ => And.right
    · cases message with
      | hello nodeId secret =>
        rw [handleMessage_hello]
        exact handleHello_emits (fun _ _ _ => id) (fun _ _ => id) (fun _ _ => id) _ _ _
      | helloAck nodeId =>
        rw [handleMessage_helloAck]
        exact handleHelloAck_emits (fun _ _ _ => id) (fun _ _ => id) (fun _ _ => id) _ _
      | _ => exact absurd rfl hm

/-- **Traffic is sent by the calls that got a channel only.** -/
theorem handle_served (h : st.Sound) (e : Event) : Emits st.Served st (st.handle e) := by
  have hquiet {st' : ClusterNetwork} (hq : Emits (fun c => ¬c.Traffic) st st') :
      Emits st.Served st st' := hq.mono fun _ => served_of_not_traffic
  have hsuspect (nodeId detail : JsString) : Emits st.Served st (st.notePeerSuspect nodeId detail) :=
    hquiet (notePeerSuspect_emits (fun _ _ => id) _ _)
  have hmild {st' : ClusterNetwork} (hm : Emits ClusterEffect.Mild st st') :
      Emits st.Served st st' := hquiet (hm.mono fun _ => And.right)
  have hclose (socket : SocketId) (code : ℕ) (reason : JsString) :
      Emits st.Served st (st.closeSocket socket code reason) :=
    hquiet (closeSocket_emits (fun _ _ _ => id) _ _ _)
  have hensure (nodeId : JsString) (purpose : AwaitPurpose) :
      Emits st.Served st (st.ensureChannel nodeId purpose) :=
    hquiet (ensureChannel_emits (fun _ _ => id) _ _)
  have hfail (socket : SocketId) (message : JsString) :
      Emits st.Served st (st.finishReject socket message) :=
    hquiet (finishReject_emits (fun _ _ _ => id) (fun _ _ => id) _ _)
  -- a socket that is closed takes no traffic with it: what waits for it is rejected
  have hgone (socket : SocketId) : Emits (fun c => ¬c.Traffic) st
      ((st.setReadyState socket .closed).unregisterSocket socket) :=
    (show Emits _ st (st.setReadyState socket .closed) from .of_eq rfl).trans
      (unregisterSocket_emits (closed_evolves (t := none) h socket).sound (fun _ _ => id)
        (fun _ _ => id) _)
  cases e with
  | setPeers peers => exact hquiet (setPeers_emits (fun _ _ _ => id) peers)
  | setServerHandlers => exact .of_eq rfl
  | healthChanged snapshots => exact .of_eq rfl
  | ensureChannel nodeId purpose => exact hensure _ _
  | probePeer nodeId =>
    show Emits _ st (st.probePeer nodeId)
    unfold probePeer
    split_ifs
    · exact .of_eq rfl
    · exact hensure _ _
  | resume i ref ts => exact resume_served h i ref ts
  | openServerSocket n =>
    show Emits _ st (st.openServerSocket n)
    unfold openServerSocket
    split_ifs
    · exact .of_eq rfl
    · exact .of_eq rfl
  | messageServerSocket n raw =>
    show Emits _ st (st.messageServerSocket n raw)
    unfold messageServerSocket
    split_ifs
    · exact hquiet (handleIncomingMessage_quiet _ _)
    · exact .of_eq rfl
  | closeServerSocket n =>
    show Emits _ st (st.closeServerSocket n)
    unfold closeServerSocket
    split_ifs
    · exact hquiet (hgone _)
    · exact .of_eq rfl
  | socketOpened n =>
    show Emits _ st (st.socketOpened n)
    unfold socketOpened
    split_ifs
    · exact hquiet (.one rfl id)
    · exact .of_eq rfl
  | socketMessage n raw =>
    show Emits _ st (st.socketMessage n raw)
    unfold socketMessage
    split_ifs
    · exact hquiet (handleIncomingMessage_quiet _ _)
    · exact .of_eq rfl
  | socketClosed n =>
    show Emits _ st (st.socketClosed n)
    unfold socketClosed
    split_ifs
    · dsimp only
      split_ifs
      · exact hquiet ((hgone _).trans (finishReject_emits (fun _ _ _ => id) (fun _ _ => id) _ _))
      · exact hquiet (hgone _)
    · exact .of_eq rfl
  | socketError n =>
    show Emits _ st (st.socketError n)
    unfold socketError
    split_ifs
    · exact hfail _ _
    · exact .of_eq rfl
  | connectTimeout n => exact hfail _ _
  | handlingFailed socket message =>
    cases socket with
    | inbound n => exact hclose _ _ _
    | outbound n => exact hfail _ _
  | drainFailed socket => exact hclose _ _ _
  | requestTimeout ref => exact hmild (requestTimeout_emits ref)
  | requestSendFailed ref message => exact hmild (requestSendFailed_emits ref message)
  | probeTimeout timer => exact hmild (probeTimeout_emits timer)
  | probeSendFailed nodeId message => exact hsuspect _ _
  | handlerSettled i result => exact hmild (handlerSettled_emits i result)
  | httpFailed nodeId detail => exact hsuspect _ _
  | httpOk nodeId path => exact hquiet (notePeerAlive_emits (fun _ _ => id) _ _)
  | disconnectPeer nodeId reason =>
    have hclear : Emits (fun c => ¬c.Traffic) st (st.clearPendingProbe nodeId) :=
      .of_eq (effects_clearPendingProbe nodeId)
    show Emits _ st (st.disconnectPeer nodeId reason)
    unfold disconnectPeer
    dsimp only
    split
    · exact hquiet hclear
    · -- the probe is dropped, the peer is marked and its channel is closed
      refine hquiet (hclear.trans (Emits.trans ?_ (notePeerSuspect_emits (fun _ _ => id) _ _)))
      exact (closeSocket_emits (fun _ _ _ => id) _ _ _).trans (.of_eq rfl)
  | stopPeerProbes => exact hquiet stopPeerProbes_emits
  | dispose => exact hquiet (dispose_emits (fun _ _ _ => id) fun _ => id)

/-- One event keeps the channels and the traffic with the peers exactly when it registers only
peers. -/
theorem contained_step_iff (h : st.Sound) (hk : st.ChannelsOfPeers) (e : Event) :
    (st.step e).Contained ↔ st.Admits e := by
  rw [← channelsOfPeers_step_iff hk e]
  refine and_iff_left_of_imp fun hk' s m hmem hm ho => ?_
  have hsound := (cleared_evolves (t := none) h).sound
  obtain ⟨n, hserves⟩ := (handle_served hsound e).mem rfl _ hmem s m rfl hm
  have hchannel := ((handle_evolves hsound e).serves n s hserves).2 ho
  exact ⟨n, hchannel, hk' n s hchannel⟩

theorem contained_create (options : ClusterNetworkOptions) : (create options).Contained :=
  ⟨fun n s h => (by cases h), fun s m h => (by cases h)⟩

/-- **Along a run the channels and the traffic stay with the peers exactly when every node that an
event registers is a peer.** -/
theorem contained_iff (options : ClusterNetworkOptions) (es : List Event) :
    (∀ pre post, es = pre ++ post → (Machine.run step (create options) pre).Contained) ↔
      Machine.Along step Admits (create options) es :=
  Machine.prefixes_iff_along es (sound_create options) (contained_create options)
    (fun _ e h => (step_evolves h e).sound) fun _ e h hk => contained_step_iff h hk.1 e

/-- The answer of a peer to the `hello` on the socket that was dialled. -/
def peerAck : ClusterSocketMessage := .helloAck (js "b")

/-- A peer is dialled for a request, and is removed before it answers. -/
def removedInFlight : List Event :=
  [.setPeers [⟨js "b", js "http://b"⟩],
    .ensureChannel (js "b") (.request (.handleAck alice (js "m1") none)),
    .socketOpened 0, .setPeers [], .socketMessage 0 peerAck.toJson.stringify]

/-- The removed node gets a channel. -/
theorem removed_registered : ¬∀ options es pre post, es = pre ++ post →
    (Machine.run step (create options) pre).Contained := by
  intro h
  have hcontained := h { nodeId := js "a" } removedInFlight (removedInFlight.take 4)
    (removedInFlight.drop 4) rfl
  have hlast := h { nodeId := js "a" } removedInFlight removedInFlight [] rfl
  have hsound := sound_run { nodeId := js "a" } (removedInFlight.take 4)
  have hadmits := (contained_step_iff hsound hcontained.1
    (.socketMessage 0 peerAck.toJson.stringify)).1 hlast
  exact absurd (hadmits (js "b") ⟨by decide, .inr
    ⟨ClusterSocketMessage.parse_helloAck (by decide), _, rfl, rfl⟩⟩) (by decide)

end ClusterNetwork

end Hardess
