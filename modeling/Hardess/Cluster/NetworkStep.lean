import Hardess.Cluster.Codec
import Hardess.Cluster.Network
import Hardess.Lib.Machine

/-!
# What an event can do to the channels

The invariant of the cluster network, and what each operation keeps of it.

* `Serves`: a socket is no longer connecting, and while it is open it is the channel of its node;
* `Sound`: the sockets of channels, of pending requests and of the calls that will send on them
  serve their nodes, and only outgoing sockets have connect attempts;
* `Evolves`: an operation keeps `Sound`, lets no socket grow younger, takes no node from an open
  socket that serves it, and binds no socket but the one it is about;
* `step_evolves`: every event does so.
-/

namespace Hardess

/-- How far a socket is in its life. -/
def ReadyState.age : ReadyState → ℕ
  | .connecting => 0
  | .open => 1
  | .closing => 2
  | .closed => 3

theorem ReadyState.age_pos {r : ReadyState} : r ≠ .connecting ↔ 0 < r.age := by
  cases r <;> simp [ReadyState.age]

namespace ClusterNetwork

variable {st st' st'' : ClusterNetwork}

/-- The tables that the invariant reads. -/
def tables (st : ClusterNetwork) : ClusterNetwork :=
  { st with
    peersByNodeId := .empty
    pendingProbeByNodeId := .empty
    probeTimers := .empty
    handling := []
    serverHandlers := false
    healthSnapshots := []
    nextTimer := 0
    effects := [] }

/-! ### The invariant -/

/-- The socket is past connecting, and the channel of the node while it is open. -/
def Serves (st : ClusterNetwork) (nodeId : JsString) (socket : SocketId) : Prop :=
  st.readyState socket ≠ .connecting ∧
    (st.readyState socket = .open → st.channelsByNodeId.get nodeId = some socket)

/-- The invariant of the tables. -/
structure Sound (st : ClusterNetwork) : Prop where
  attempt : ∀ s a, st.attempts.get s = some a → ∃ n < st.nextOutbound, s = .outbound n
  connecting : ∀ n s, st.connectingByNodeId.get n = some (.attempt s) →
    ∃ a, st.attempts.get s = some a ∧ a.nodeId = n
  waiting : ∀ s w, (s, w) ∈ st.waiting → ∃ a, st.attempts.get s = some a ∧ a.nodeId = w.nodeId
  resumable : ∀ w s, (w, .ok s) ∈ st.resumable → st.Serves w.nodeId s
  pending : ∀ ref p, st.pendingRequests.get ref = some p → st.Serves p.nodeId p.socket
  channel : ∀ n s, st.channelsByNodeId.get n = some s → st.Serves n s
  bound : ∀ s n, st.nodeIdBySocket.get s = some n → n ≠ []

theorem sound_create (options : ClusterNetworkOptions) : (create options).Sound where
  attempt _ _ h := by cases h
  connecting _ _ h := by cases h
  waiting _ _ h := by cases h
  resumable _ _ h := by cases h
  pending _ _ h := by cases h
  channel _ _ h := by cases h
  bound _ _ h := by cases h

/-- What an operation about the socket `touched` keeps. -/
structure Evolves (touched : Option SocketId) (st st' : ClusterNetwork) : Prop where
  sound : st'.Sound
  options : st'.options = st.options
  ages : ∀ s, (st.readyState s).age ≤ (st'.readyState s).age
  serves : ∀ n s, st.Serves n s → st'.Serves n s
  unbound : ∀ s, touched ≠ some s → st'.nodeIdBySocket.get s = st.nodeIdBySocket.get s

theorem Evolves.refl {t : Option SocketId} (h : st.Sound) : Evolves t st st :=
  ⟨h, rfl, fun _ => le_rfl, fun _ _ hs => hs, fun _ _ => rfl⟩

theorem Evolves.trans {t : Option SocketId} (h : Evolves t st st')
    (h' : Evolves t st' st'') : Evolves t st st'' where
  sound := h'.sound
  options := h'.options.trans h.options
  ages s := (h.ages s).trans (h'.ages s)
  serves n s hs := h'.serves n s (h.serves n s hs)
  unbound s hs := (h'.unbound s hs).trans (h.unbound s hs)

theorem evolves_tables {t : Option SocketId} (h : Evolves t st st'.tables) :
    Evolves t st st' :=
  ⟨⟨h.1.1, h.1.2, h.1.3, h.1.4, h.1.5, h.1.6, h.1.7⟩, h.2, h.3, h.4, h.5⟩

/-- An operation that leaves the tables alone. -/
theorem Evolves.of_tables {t : Option SocketId} (h : st.Sound)
    (ht : st'.tables = st.tables) : Evolves t st st' := by
  have hself : Evolves t st st.tables :=
    ⟨⟨h.1, h.2, h.3, h.4, h.5, h.6, h.7⟩, rfl, fun _ => le_rfl, fun _ _ hs => hs, fun _ _ => rfl⟩
  exact evolves_tables (ht ▸ hself)

/-- What is read off the tables is the same. -/
theorem eq_of_tables {α : Type} (f : ClusterNetwork → α) (hf : ∀ st, f st.tables = f st)
    (h : st'.tables = st.tables) : f st' = f st := by
  rw [← hf, h, hf]

theorem readyState_of_tables (h : st'.tables = st.tables) (s : SocketId) :
    st'.readyState s = st.readyState s :=
  eq_of_tables (fun st => st.readyState s) (fun _ => rfl) h

/-! ### Operations that leave the tables alone -/

@[simp] theorem tables_emit (e : ClusterEffect) : (st.emit e).tables = st.tables := rfl

@[simp] theorem tables_sendMessage (socket : SocketId) (message : ClusterSocketMessage) :
    (st.sendMessage socket message).tables = st.tables := rfl

@[simp] theorem tables_clearPendingProbe (nodeId : JsString) :
    (st.clearPendingProbe nodeId).tables = st.tables := by
  unfold clearPendingProbe
  split <;> rfl

@[simp] theorem peers_clearPendingProbe (nodeId : JsString) :
    (st.clearPendingProbe nodeId).peersByNodeId = st.peersByNodeId := by
  unfold clearPendingProbe
  split <;> rfl

@[simp] theorem tables_notePeerAlive (nodeId detail : JsString) :
    (st.notePeerAlive nodeId detail).tables = st.tables := tables_clearPendingProbe nodeId

@[simp] theorem tables_notePeerSuspect (nodeId detail : JsString) :
    (st.notePeerSuspect nodeId detail).tables = st.tables := tables_clearPendingProbe nodeId

@[simp] theorem tables_callHandler (socket : SocketId) (ref : JsString) (request : ClusterRequest) :
    (st.callHandler socket ref request).tables = st.tables := rfl

theorem tables_foldl {α : Type} {f : ClusterNetwork → α → ClusterNetwork}
    (h : ∀ st a, (f st a).tables = st.tables) (as : List α) :
    (as.foldl f st).tables = st.tables := by
  induction as generalizing st with
  | nil => rfl
  | cons a as ih => rw [List.foldl_cons, ih, h]

@[simp] theorem tables_stopPeerProbes : st.stopPeerProbes.tables = st.tables :=
  tables_foldl (fun _ n => tables_clearPendingProbe n) _

/-! ### Ready states -/

theorem readyState_setReadyState (socket s : SocketId) (r : ReadyState) :
    (st.setReadyState socket r).readyState s = if s = socket then r else st.readyState s := by
  unfold setReadyState readyState
  rw [JsMap.get_set]
  split_ifs <;> rfl

theorem readyState_closeSocket (socket s : SocketId) (code : ℕ) (reason : JsString) :
    (st.closeSocket socket code reason).readyState s =
      if s = socket ∧ st.readyState s ≠ .closed then .closing else st.readyState s := by
  unfold closeSocket
  by_cases hc : st.readyState socket = .closed
  · rw [if_pos hc, if_neg]
    · rfl
    · rintro ⟨rfl, h⟩
      exact h hc
  · rw [if_neg hc]
    show (st.setReadyState socket .closing).readyState s = _
    rw [readyState_setReadyState]
    by_cases hs : s = socket
    · subst hs
      rw [if_pos rfl, if_pos ⟨rfl, hc⟩]
    · rw [if_neg hs, if_neg fun h => hs h.1]

/-- A socket that is being closed is not open. -/
theorem closeSocket_not_open (socket : SocketId) (code : ℕ) (reason : JsString) :
    (st.closeSocket socket code reason).readyState socket ≠ .open := by
  rw [readyState_closeSocket]
  split_ifs with h
  · decide
  · intro ho
    exact h ⟨rfl, by rw [ho]; decide⟩

/-- A socket that is open after a close was open before, and is another one. -/
theorem open_of_closeSocket {socket s : SocketId} {code : ℕ} {reason : JsString}
    (h : (st.closeSocket socket code reason).readyState s = .open) :
    s ≠ socket ∧ st.readyState s = .open := by
  have hs : s ≠ socket := by
    rintro rfl
    exact closeSocket_not_open s code reason h
  rw [readyState_closeSocket, if_neg fun h => hs h.1] at h
  exact ⟨hs, h⟩

theorem closeSocket_ages (socket s : SocketId) (code : ℕ) (reason : JsString) :
    (st.readyState s).age ≤ ((st.closeSocket socket code reason).readyState s).age := by
  rw [readyState_closeSocket]
  split_ifs with h
  · obtain ⟨-, h⟩ := h
    cases hr : st.readyState s <;> simp_all [ReadyState.age]
  · exact le_rfl

/-! ### Operations on the channels -/

/-- A socket may open once, and may always grow older otherwise. -/
theorem setReadyState_evolves {t : Option SocketId} (h : st.Sound) {socket : SocketId}
    {r : ReadyState} (hage : (st.readyState socket).age ≤ r.age)
    (hopen : r = .open → st.readyState socket = .connecting) :
    Evolves t st (st.setReadyState socket r) := by
  have hserves : ∀ n s, st.Serves n s → (st.setReadyState socket r).Serves n s := by
    rintro n s ⟨h1, h2⟩
    unfold Serves
    rw [readyState_setReadyState]
    split_ifs with hs
    · subst hs
      refine ⟨?_, fun ho => absurd (hopen ho) h1⟩
      rw [ReadyState.age_pos] at h1 ⊢
      exact h1.trans_le hage
    · exact ⟨h1, h2⟩
  refine ⟨⟨h.attempt, h.connecting, h.waiting, fun w s hw => hserves _ _ (h.resumable w s hw),
    fun ref p hp => hserves _ _ (h.pending ref p hp),
    fun n s hs => hserves _ _ (h.channel n s hs), h.bound⟩, rfl, fun s => ?_, hserves,
    fun _ _ => rfl⟩
  rw [readyState_setReadyState]
  split_ifs with hs
  · exact hs ▸ hage
  · exact le_rfl

theorem closeSocket_evolves {t : Option SocketId} (h : st.Sound) (socket : SocketId)
    (code : ℕ) (reason : JsString) : Evolves t st (st.closeSocket socket code reason) := by
  unfold closeSocket
  by_cases hc : st.readyState socket = .closed
  · rw [if_pos hc]
    exact .of_tables h rfl
  · rw [if_neg hc]
    have hclose : Evolves t st (st.setReadyState socket .closing) := by
      refine setReadyState_evolves h ?_ (by simp)
      cases hr : st.readyState socket <;> simp_all [ReadyState.age]
    exact hclose.trans (.of_tables hclose.sound rfl)

/-- A change of the channel of one node, whose old channel is not open. -/
theorem channels_evolves {t : Option SocketId} (h : st.Sound) {nodeId : JsString}
    (channels : JsMap JsString SocketId)
    (hold : ∀ s, st.channelsByNodeId.get nodeId = some s → channels.get nodeId ≠ some s →
      st.readyState s ≠ .open)
    (hother : ∀ n, n ≠ nodeId → channels.get n = st.channelsByNodeId.get n)
    (hnew : ∀ s, channels.get nodeId = some s → st.readyState s ≠ .connecting) :
    Evolves t st { st with channelsByNodeId := channels } := by
  have hserves : ∀ n s, st.Serves n s → Serves { st with channelsByNodeId := channels } n s := by
    rintro n s ⟨h1, h2⟩
    refine ⟨h1, fun ho => ?_⟩
    show channels.get n = some s
    by_cases hn : n = nodeId
    · subst hn
      by_contra hne
      exact hold s (h2 ho) hne ho
    · rw [hother n hn]
      exact h2 ho
  refine ⟨⟨h.attempt, h.connecting, h.waiting, fun w s hw => hserves _ _ (h.resumable w s hw),
    fun ref p hp => hserves _ _ (h.pending ref p hp), fun n s hs => ?_, h.bound⟩, rfl,
    fun _ => le_rfl, hserves, fun _ _ => rfl⟩
  by_cases hn : n = nodeId
  · subst hn
    exact ⟨hnew s hs, fun _ => hs⟩
  · exact hserves n s (h.channel n s ((hother n hn).symm.trans hs))

/-- No channel is open any more. -/
theorem clearChannels_evolves {t : Option SocketId} (h : st.Sound)
    (hold : ∀ n s, st.channelsByNodeId.get n = some s → st.readyState s ≠ .open) :
    Evolves t st { st with channelsByNodeId := .empty } := by
  have hserves : ∀ n s, st.Serves n s → Serves { st with channelsByNodeId := .empty } n s := by
    rintro n s ⟨h1, h2⟩
    exact ⟨h1, fun ho => absurd ho (hold n s (h2 ho))⟩
  exact ⟨⟨h.attempt, h.connecting, h.waiting, fun w s hw => hserves _ _ (h.resumable w s hw),
    fun ref p hp => hserves _ _ (h.pending ref p hp), fun n s hs => (by cases hs), h.bound⟩, rfl,
    fun _ => le_rfl, hserves, fun _ _ => rfl⟩

theorem deleteChannel_evolves {t : Option SocketId} (h : st.Sound) {nodeId : JsString}
    (hold : ∀ s, st.channelsByNodeId.get nodeId = some s → st.readyState s ≠ .open) :
    Evolves t st { st with channelsByNodeId := st.channelsByNodeId.delete nodeId } :=
  channels_evolves h _ (fun s hs _ => hold s hs) (fun _ hn => JsMap.get_delete_of_ne _ hn)
    (fun s hs => by simp at hs)

theorem bindSocket_evolves (h : st.Sound) {nodeId : JsString} (hn : nodeId ≠ [])
    (socket : SocketId) : Evolves (some socket) st (st.bindSocket socket nodeId) := by
  refine ⟨⟨h.attempt, h.connecting, h.waiting, h.resumable, h.pending, h.channel,
    fun s n hs => ?_⟩, rfl, fun _ => le_rfl, fun _ _ hs => hs, fun s hs => ?_⟩
  · dsimp only [bindSocket] at hs
    rw [JsMap.get_set] at hs
    split_ifs at hs with heq
    · cases hs
      exact hn
    · exact h.bound s n hs
  · exact JsMap.get_set_of_ne _ (fun heq => hs (by rw [heq])) _

/-- `closeSocket` is about ready states only. -/
theorem closeSocket_same {α : Type} (f : ClusterNetwork → α)
    (hf : ∀ st r es, f { st with readyStates := r, effects := es } = f st) (socket : SocketId)
    (code : ℕ) (reason : JsString) : f (st.closeSocket socket code reason) = f st := by
  unfold closeSocket
  split_ifs
  · exact hf st st.readyStates _
  · exact hf st _ _

theorem closeSocket_channels (socket : SocketId) (code : ℕ) (reason : JsString) :
    (st.closeSocket socket code reason).channelsByNodeId = st.channelsByNodeId :=
  closeSocket_same channelsByNodeId (fun _ _ _ => rfl) _ _ _

theorem closeReplaced_evolves (h : st.Sound) (nodeId : JsString) (socket : SocketId) :
    Evolves (some socket) st (st.closeReplaced nodeId socket) := by
  unfold closeReplaced
  split
  · split_ifs
    · exact closeSocket_evolves h _ _ _
    · exact .refl h
  · exact .refl h

/-- No channel of the node over another socket stays open, and the new socket is left alone. -/
theorem closeReplaced_readyState (nodeId : JsString) (socket : SocketId) :
    (∀ s, (st.closeReplaced nodeId socket).channelsByNodeId.get nodeId = some s → s ≠ socket →
      (st.closeReplaced nodeId socket).readyState s ≠ .open) ∧
    (st.closeReplaced nodeId socket).readyState socket = st.readyState socket := by
  unfold closeReplaced
  cases hc : st.channelsByNodeId.get nodeId with
  | none => exact ⟨fun s hs => by simp [hc] at hs, rfl⟩
  | some existing =>
    dsimp only
    by_cases he : existing = socket
    · subst he
      simp [hc]
    · rw [if_pos he]
      refine ⟨fun s hs _ => ?_, ?_⟩
      · rw [closeSocket_channels, hc] at hs
        cases hs
        exact closeSocket_not_open _ _ _
      · rw [readyState_closeSocket, if_neg fun hcon => he hcon.1.symm]

theorem registerChannel_evolves (h : st.Sound) {nodeId : JsString} (hn : nodeId ≠ [])
    {socket : SocketId} (ho : st.readyState socket = .open) :
    Evolves (some socket) st (st.registerChannel nodeId socket) := by
  have hclose := closeReplaced_evolves h nodeId socket
  obtain ⟨hother, hself⟩ := @closeReplaced_readyState st nodeId socket
  have hset := channels_evolves (t := some socket) hclose.sound
    ((st.closeReplaced nodeId socket).channelsByNodeId.set nodeId socket)
    (fun s hs hne => hother s hs fun heq => hne (by rw [heq, JsMap.get_set_self]))
    (fun n hne => JsMap.get_set_of_ne _ hne _)
    (fun s hs => by
      rw [JsMap.get_set_self] at hs
      cases hs
      rw [hself, ho]
      exact ReadyState.noConfusion)
  exact (hclose.trans hset).trans (bindSocket_evolves hset.sound hn socket)

/-- `nodeIdBySocket.delete`. -/
theorem unbind_evolves (h : st.Sound) (socket : SocketId) :
    Evolves (some socket) st { st with nodeIdBySocket := st.nodeIdBySocket.delete socket } :=
  ⟨⟨h.attempt, h.connecting, h.waiting, h.resumable, h.pending, h.channel,
    fun s n hs => h.bound s n (JsMap.get_of_get_delete hs).2⟩, rfl, fun _ => le_rfl,
    fun _ _ hs => hs, fun _ hs => JsMap.get_delete_of_ne _ fun heq => hs (by rw [heq])⟩

/-- Pending requests are taken away. -/
theorem pendingRequests_evolves {t : Option SocketId} (h : st.Sound)
    (pending : JsMap JsString ClusterPendingRequest)
    (hsub : ∀ ref p, pending.get ref = some p → st.Serves p.nodeId p.socket) :
    Evolves t st { st with pendingRequests := pending } :=
  ⟨⟨h.attempt, h.connecting, h.waiting, h.resumable, hsub, h.channel, h.bound⟩, rfl,
    fun _ => le_rfl, fun _ _ hs => hs, fun _ _ => rfl⟩

theorem settlePending_evolves {t : Option SocketId} (h : st.Sound) (ref : JsString) :
    Evolves t st (st.settlePending ref) :=
  pendingRequests_evolves h _ fun _ _ hp => h.pending _ _ (JsMap.get_of_get_delete hp).2

theorem unregisterSocket_evolves (h : st.Sound) {socket : SocketId}
    (hr : st.readyState socket ≠ .open) :
    Evolves (some socket) st (st.unregisterSocket socket) := by
  unfold unregisterSocket
  cases hb : st.nodeIdBySocket.get socket with
  | none => exact .refl h
  | some nodeId =>
    dsimp only
    rw [if_neg (h.bound _ _ hb)]
    -- the probe and the mark come first, then the channel, the binding and the requests
    have hnote : Evolves (some socket) st
        ((st.clearPendingProbe nodeId).notePeerSuspect nodeId (js "channel_closed")) :=
      .of_tables h (by simp)
    have hr₁ : ((st.clearPendingProbe nodeId).notePeerSuspect nodeId
        (js "channel_closed")).readyState socket ≠ .open := by
      rw [@readyState_of_tables st _ (by simp)]
      exact hr
    generalize (st.clearPendingProbe nodeId).notePeerSuspect nodeId (js "channel_closed") = st₁
      at hnote hr₁
    have hchannel : Evolves (some socket) st₁ { st₁ with
        channelsByNodeId :=
          if st₁.channelsByNodeId.get nodeId = some socket then st₁.channelsByNodeId.delete nodeId
          else st₁.channelsByNodeId } := by
      -- the socket may have been replaced as the channel of its node
      by_cases hc : st₁.channelsByNodeId.get nodeId = some socket
      · rw [if_pos hc]
        exact deleteChannel_evolves hnote.sound fun s hs => by
          rw [hc] at hs
          cases hs
          exact hr₁
      · rw [if_neg hc]
        exact .refl hnote.sound
    have hunbind := unbind_evolves hchannel.sound socket
    have hpending := pendingRequests_evolves (t := some socket) hunbind.sound
      (st₁.pendingRequests.filter fun _ p => p.nodeId ≠ nodeId)
      fun _ _ hp => hunbind.sound.pending _ _ (JsMap.get_filter.1 hp).1
    exact (hnote.trans (hchannel.trans (hunbind.trans hpending))).trans
      (.of_tables hpending.sound rfl)

/-! ### Connect attempts -/

/-- The calls that wait for the attempt on `socket` get a socket that serves its node, or an
error. -/
theorem settleWaiting_evolves {t : Option SocketId} (h : st.Sound) {socket : SocketId}
    {outcome : Except JsString SocketId}
    (hserves : ∀ a s, st.attempts.get socket = some a → outcome = .ok s → st.Serves a.nodeId s) :
    Evolves t st (st.settleWaiting socket outcome) := by
  refine ⟨⟨h.attempt, h.connecting, fun s w hw => h.waiting s w (List.mem_filter.1 hw).1,
    fun w s hw => ?_, h.pending, h.channel, h.bound⟩, rfl, fun _ => le_rfl, fun _ _ hs => hs,
    fun _ _ => rfl⟩
  rcases List.mem_append.1 hw with hw | hw
  · exact h.resumable w s hw
  · obtain ⟨⟨s', w'⟩, hmem, heq⟩ := List.mem_map.1 hw
    obtain ⟨hmem, hs'⟩ := List.mem_filter.1 hmem
    obtain ⟨rfl, hout⟩ := Prod.mk.inj heq
    obtain ⟨a, ha, hn⟩ := h.waiting s' w' hmem
    rw [← hn]
    exact hserves a s (by rw [← of_decide_eq_true hs']; exact ha) hout

/-- The attempt on a socket is over. -/
theorem settled_evolves {t : Option SocketId} (h : st.Sound) {socket : SocketId}
    {a : ConnectAttempt} (ha : st.attempts.get socket = some a) :
    Evolves t st { st with
      attempts := st.attempts.set socket { a with settled := true }
      connectingByNodeId := st.connectingByNodeId.delete a.nodeId } := by
  have hkeep : ∀ s n, (∃ b, st.attempts.get s = some b ∧ b.nodeId = n) →
      ∃ b, (st.attempts.set socket { a with settled := true }).get s = some b ∧ b.nodeId = n := by
    rintro s n ⟨b, hb, hn⟩
    rw [JsMap.get_set]
    by_cases hs : s = socket
    · subst hs
      rw [ha] at hb
      cases hb
      exact ⟨_, if_pos rfl, hn⟩
    · exact ⟨b, by rw [if_neg hs]; exact hb, hn⟩
  refine ⟨⟨fun s b hb => ?_, fun n s hs => hkeep s n (h.connecting n s
      (JsMap.get_of_get_delete hs).2), fun s w hw => hkeep s _ (h.waiting s w hw), h.resumable,
      h.pending, h.channel, h.bound⟩, rfl, fun _ => le_rfl, fun _ _ hs => hs, fun _ _ => rfl⟩
  dsimp only at hb
  rw [JsMap.get_set] at hb
  split_ifs at hb with hs
  · exact h.attempt s a (hs ▸ ha)
  · exact h.attempt s b hb

theorem finishReject_evolves {t : Option SocketId} (h : st.Sound) (socket : SocketId)
    (message : JsString) : Evolves t st (st.finishReject socket message) := by
  unfold finishReject
  cases ha : st.attempts.get socket with
  | none => exact .refl h
  | some a =>
    dsimp only
    by_cases hs : a.settled
    · rw [if_pos hs]
      exact .refl h
    · rw [if_neg hs]
      have hsettled := settled_evolves (t := t) h ha
      have hclose := closeSocket_evolves (t := t) hsettled.sound socket 1013 message
      have hnote := Evolves.of_tables (t := t) hclose.sound
        (tables_notePeerSuspect a.nodeId message)
      exact hsettled.trans (hclose.trans (hnote.trans
        (settleWaiting_evolves hnote.sound fun _ _ _ hout => by cases hout)))

theorem finishResolve_evolves {t : Option SocketId} (h : st.Sound) {socket : SocketId}
    (hserves : ∀ a, st.attempts.get socket = some a → st.Serves a.nodeId socket) :
    Evolves t st (st.finishResolve socket) := by
  unfold finishResolve
  cases ha : st.attempts.get socket with
  | none => exact .refl h
  | some a =>
    dsimp only
    by_cases hs : a.settled
    · rw [if_pos hs]
      exact .refl h
    · rw [if_neg hs]
      have hsettled := settled_evolves (t := t) h ha
      refine hsettled.trans (settleWaiting_evolves hsettled.sound fun b s hb hout => ?_)
      cases hout
      dsimp only at hb
      rw [JsMap.get_set_self] at hb
      cases hb
      exact hserves a ha

/-- A call gets a socket that serves its node, or an error. -/
theorem resumable_evolves {t : Option SocketId} (h : st.Sound)
    (calls : List (Awaiting × Except JsString SocketId))
    (hserves : ∀ w s, (w, .ok s) ∈ calls → st.Serves w.nodeId s) :
    Evolves t st { st with resumable := calls } :=
  ⟨⟨h.attempt, h.connecting, h.waiting, hserves, h.pending, h.channel, h.bound⟩, rfl,
    fun _ => le_rfl, fun _ _ hs => hs, fun _ _ => rfl⟩

theorem settleNow_evolves {t : Option SocketId} (h : st.Sound) {w : Awaiting}
    {outcome : Except JsString SocketId} (hserves : ∀ s, outcome = .ok s → st.Serves w.nodeId s) :
    Evolves t st (st.settleNow w outcome) := by
  refine resumable_evolves h _ fun w' s hw => ?_
  rcases List.mem_append.1 hw with hw | hw
  · exact h.resumable w' s hw
  · obtain ⟨rfl, hout⟩ := Prod.mk.inj (List.mem_singleton.1 hw)
    exact hserves s hout.symm

theorem connect_evolves {t : Option SocketId} (h : st.Sound) (peer : ClusterPeerNode)
    (w : Awaiting) : Evolves t st (st.connect peer w) := by
  have hkeep : ∀ s n, (∃ b, st.attempts.get s = some b ∧ b.nodeId = n) →
      ∃ b, (st.attempts.set (.outbound st.nextOutbound) ⟨w.nodeId, false⟩).get s = some b ∧
        b.nodeId = n := by
    rintro s n ⟨b, hb, hn⟩
    refine ⟨b, ?_, hn⟩
    rw [JsMap.get_set_of_ne _ _, hb]
    -- the number of the new socket is fresh
    rintro rfl
    obtain ⟨k, hk, heq⟩ := h.attempt _ b hb
    cases heq
    exact lt_irrefl _ hk
  refine ⟨⟨fun s b hb => ?_, fun n s hs => ?_, fun s w' hw => ?_, h.resumable, h.pending,
    h.channel, h.bound⟩, rfl, fun _ => le_rfl, fun _ _ hs => hs, fun _ _ => rfl⟩
  · dsimp only [connect] at hb
    rw [JsMap.get_set] at hb
    split_ifs at hb with hs
    · exact ⟨_, Nat.lt_succ_self _, hs⟩
    · obtain ⟨k, hk, heq⟩ := h.attempt s b hb
      exact ⟨k, hk.trans (Nat.lt_succ_self _), heq⟩
  · dsimp only [connect] at hs
    rw [JsMap.get_set] at hs
    split_ifs at hs with hn
    · cases hs
      exact ⟨_, JsMap.get_set_self _ _ _, hn.symm⟩
    · exact hkeep s n (h.connecting n s hs)
  · rcases List.mem_append.1 hw with hw | hw
    · exact hkeep s _ (h.waiting s w' hw)
    · cases List.mem_singleton.1 hw
      exact ⟨_, JsMap.get_set_self _ _ _, rfl⟩

theorem ensureChannel_evolves {t : Option SocketId} (h : st.Sound) (nodeId : JsString)
    (purpose : AwaitPurpose) : Evolves t st (st.ensureChannel nodeId purpose) := by
  have herror (message : JsString) :
      Evolves t st (st.settleNow ⟨nodeId, purpose⟩ (.error message)) :=
    settleNow_evolves h fun s hs => by cases hs
  unfold ensureChannel
  split
  · -- the channel that is there
    rename_i socket hsocket
    refine settleNow_evolves h fun s hs => ?_
    cases hs
    exact h.channel _ _ (Option.filter_eq_some_iff.1 hsocket).1
  · split
    · -- a connect attempt is under way
      rename_i socket hsocket
      refine ⟨⟨h.attempt, h.connecting, fun s w hw => ?_, h.resumable, h.pending, h.channel,
        h.bound⟩, rfl, fun _ => le_rfl, fun _ _ hs => hs, fun _ _ => rfl⟩
      rcases List.mem_append.1 hw with hw | hw
      · exact h.waiting s w hw
      · cases List.mem_singleton.1 hw
        exact h.connecting nodeId socket hsocket
    · exact herror _
    · split
      · exact herror _
      · split
        · -- dialling throws
          rename_i message _
          have he := herror message
          refine he.trans ⟨⟨he.sound.attempt, fun n s hs => ?_, he.sound.waiting,
            he.sound.resumable, he.sound.pending, he.sound.channel, he.sound.bound⟩, rfl,
            fun _ => le_rfl, fun _ _ hs => hs, fun _ _ => rfl⟩
          dsimp only at hs
          rw [JsMap.get_set] at hs
          split_ifs at hs
          · cases hs
          · exact h.connecting n s hs
        · exact connect_evolves h _ _

/-! ### Messages -/

/-- An answer that arrived takes its request away. -/
theorem answered_evolves {t : Option SocketId} (h : st.Sound) (ref : JsString)
    (ht : st'.tables = (st.settlePending ref).tables) : Evolves t st st' := by
  have hdelete := settlePending_evolves (t := t) h ref
  exact hdelete.trans (.of_tables hdelete.sound ht)

theorem handleChannelMessage_evolves {t : Option SocketId} (h : st.Sound)
    (socket : SocketId) (remoteNodeId : JsString) (message : ClusterSocketMessage) :
    Evolves t st (st.handleChannelMessage socket remoteNodeId message) := by
  have hnote (detail : JsString) := Evolves.of_tables (t := t) h
    (tables_notePeerAlive remoteNodeId detail)
  cases message with
  | hello nodeId secret => exact .refl h
  | helloAck nodeId => exact .refl h
  | ping ts => exact .of_tables h (tables_notePeerAlive _ (js "ping"))
  | pong ts => exact hnote (js "pong")
  | peerHealthRumor rumor => exact .of_tables h (tables_notePeerAlive _ (js "peer_health_rumor"))
  | peerHealthDigest digests =>
    unfold handleChannelMessage
    dsimp only
    split_ifs
    · exact hnote _
    · exact (hnote _).trans (ensureChannel_evolves (hnote _).sound _ _)
  | peerHealthRepairRequest peerNodeIds =>
    unfold handleChannelMessage sendPeerHealthSyncToPeer
    dsimp only
    split_ifs
    · exact hnote _
    · exact (hnote _).trans (ensureChannel_evolves (hnote _).sound _ _)
  | peerHealthSync rumors => exact .of_tables h (tables_notePeerAlive _ (js "peer_health_sync"))
  | deliver ref sender envelope ack targets =>
    unfold handleChannelMessage
    dsimp only
    split_ifs <;> exact .of_tables h rfl
  | deliverResult ref deliveredConns error =>
    unfold handleChannelMessage
    dsimp only
    split
    · exact .refl h
    · split
      · exact answered_evolves h ref (by simp)
      · exact answered_evolves h ref (by simp)
  | handleAck ref sender ackFor traceId =>
    unfold handleChannelMessage
    dsimp only
    split_ifs <;> exact .of_tables h rfl
  | handleAckResult ref ok error =>
    unfold handleChannelMessage
    dsimp only
    split
    · exact .refl h
    · split_ifs
      · exact answered_evolves h ref (by simp)
      · exact answered_evolves h ref (by simp)

theorem handleHello_evolves (h : st.Sound) {socket : SocketId} (ho : st.readyState socket = .open)
    {nodeId : JsString} (hn : nodeId ≠ []) (secret : Option JsString) :
    Evolves (some socket) st (st.handleHello socket nodeId secret) := by
  unfold handleHello
  split_ifs
  · exact closeSocket_evolves h _ _ _
  · have hregister := registerChannel_evolves h hn ho
    exact hregister.trans (.of_tables hregister.sound (tables_notePeerAlive _ (js "hello")))

/-- After `registerChannel` the socket is the channel of the node. -/
theorem registerChannel_serves {nodeId : JsString} {socket : SocketId}
    (ho : st.readyState socket = .open) : (st.registerChannel nodeId socket).Serves nodeId socket := by
  have hr : (st.registerChannel nodeId socket).readyState socket = .open :=
    (closeReplaced_readyState nodeId socket).2.trans ho
  refine ⟨?_, fun _ => ?_⟩
  · rw [hr]
    exact ReadyState.noConfusion
  · unfold registerChannel
    dsimp only
    rw [JsMap.get_set_self]

/-- `registerChannel` is about ready states and the two tables of channels only. -/
theorem registerChannel_same {α : Type} (f : ClusterNetwork → α)
    (hf : ∀ st r es, f { st with readyStates := r, effects := es } = f st)
    (hf' : ∀ st c b, f { st with channelsByNodeId := c, nodeIdBySocket := b } = f st)
    (nodeId : JsString) (socket : SocketId) : f (st.registerChannel nodeId socket) = f st := by
  unfold registerChannel
  rw [hf']
  unfold closeReplaced
  split
  · split_ifs
    · exact closeSocket_same f hf _ _ _
    · rfl
  · rfl

theorem registerChannel_attempts (nodeId : JsString) (socket : SocketId) :
    (st.registerChannel nodeId socket).attempts = st.attempts :=
  registerChannel_same attempts (fun _ _ _ => rfl) (fun _ _ _ => rfl) _ _

theorem onHelloAck_evolves (h : st.Sound) {socket : SocketId} (ho : st.readyState socket = .open)
    {remoteNodeId : JsString} (hn : remoteNodeId ≠ []) :
    Evolves (some socket) st (st.onHelloAck socket remoteNodeId) := by
  unfold onHelloAck
  cases ha : st.attempts.get socket with
  | none => exact .refl h
  | some a =>
    dsimp only
    by_cases heq : remoteNodeId = a.nodeId
    · subst heq
      rw [if_neg (by simp)]
      have hregister := registerChannel_evolves h hn ho
      have hnote := Evolves.of_tables (t := some socket) hregister.sound
        (tables_notePeerAlive a.nodeId (js "hello_ack"))
      refine (hregister.trans hnote).trans (finishResolve_evolves hnote.sound fun b hb => ?_)
      have hattempts : (notePeerAlive (st.registerChannel a.nodeId socket) a.nodeId
          (js "hello_ack")).attempts = st.attempts :=
        (eq_of_tables attempts (fun _ => rfl) (tables_notePeerAlive _ _)).trans
          (registerChannel_attempts _ _)
      rw [hattempts, ha] at hb
      cases hb
      exact hnote.serves _ _ (registerChannel_serves ho)
    · rw [if_pos heq]
      exact finishReject_evolves h _ _

theorem handleHelloAck_evolves (h : st.Sound) {socket : SocketId}
    (ho : st.readyState socket = .open) {nodeId : JsString} (hn : nodeId ≠ []) :
    Evolves (some socket) st (st.handleHelloAck socket nodeId) := by
  have hbind := bindSocket_evolves h hn socket
  have hnote := Evolves.of_tables (t := some socket) hbind.sound
    (tables_notePeerAlive nodeId (js "hello_ack"))
  refine (hbind.trans hnote).trans (onHelloAck_evolves hnote.sound ?_ hn)
  rw [readyState_of_tables (tables_notePeerAlive nodeId (js "hello_ack"))]
  exact ho

theorem handleMessage_evolves (h : st.Sound) {socket : SocketId}
    (ho : st.readyState socket = .open) {message : ClusterSocketMessage}
    (hm : ∀ n, message.announced = some n → n ≠ []) :
    Evolves (some socket) st (st.handleMessage socket message) := by
  unfold handleMessage
  dsimp only
  split_ifs
  · exact closeSocket_evolves h _ _ _
  · split
    · exact handleHello_evolves h ho (hm _ rfl) _
    · exact handleHelloAck_evolves h ho (hm _ rfl)
    · exact handleChannelMessage_evolves h _ _ _

theorem handleIncomingMessage_evolves (h : st.Sound) {socket : SocketId}
    (ho : st.readyState socket = .open) (raw : JsString) :
    Evolves (some socket) st (st.handleIncomingMessage socket raw) := by
  unfold handleIncomingMessage
  cases hp : parseClusterSocketMessage raw with
  | none => exact closeSocket_evolves h _ _ _
  | some message =>
    exact handleMessage_evolves h ho fun n hn => ClusterSocketMessage.announced_ne_nil hp hn

theorem handleIncomingMessage_of_parse {socket : SocketId} {raw : JsString}
    {message : ClusterSocketMessage} (hp : parseClusterSocketMessage raw = some message) :
    st.handleIncomingMessage socket raw = st.handleMessage socket message := by
  rw [handleIncomingMessage, hp]

@[simp] theorem handleMessage_hello (socket : SocketId) (nodeId : JsString)
    (secret : Option JsString) :
    st.handleMessage socket (.hello nodeId secret) = st.handleHello socket nodeId secret :=
  if_neg fun hc => by cases hc.2

@[simp] theorem handleMessage_helloAck (socket : SocketId) (nodeId : JsString) :
    st.handleMessage socket (.helloAck nodeId) = st.handleHelloAck socket nodeId :=
  if_neg fun hc => by cases hc.2

/-- What the gate does with a message other than a handshake message. -/
theorem handleMessage_of_not_handshake {socket : SocketId} {message : ClusterSocketMessage}
    (hm : isHandshake message = false) :
    st.handleMessage socket message =
      if (st.nodeIdBySocket.get socket).getD [] = [] then
        st.closeSocket socket 4401 (js "cluster channel not authenticated")
      else st.handleChannelMessage socket ((st.nodeIdBySocket.get socket).getD []) message := by
  unfold handleMessage
  cases message with
  | hello => cases hm
  | helloAck => cases hm
  | _ => simp [isHandshake]

/-! ### Calls -/

/-- A channel that is closed and taken off its node. -/
theorem dropChannel_evolves {t : Option SocketId} (h : st.Sound) {nodeId : JsString}
    (socket : SocketId) (hc : ∀ s, st.channelsByNodeId.get nodeId = some s → s = socket) (code : ℕ)
    (reason : JsString) :
    Evolves t st { st.closeSocket socket code reason with
      channelsByNodeId := (st.closeSocket socket code reason).channelsByNodeId.delete nodeId } := by
  have hclose := closeSocket_evolves (t := t) h socket code reason
  refine hclose.trans (deleteChannel_evolves hclose.sound fun s hs => ?_)
  rw [closeSocket_channels] at hs
  rw [hc s hs]
  exact closeSocket_not_open _ _ _

theorem closeRemoved_evolves {t : Option SocketId} (next : JsMap JsString ClusterPeerNode)
    (cs : List (JsString × SocketId)) (h : st.Sound)
    (hcs : ∀ c ∈ cs, ∀ s, st.channelsByNodeId.get c.1 = some s → s = c.2) :
    Evolves t st (cs.foldl (fun s c => closeRemoved s next c) st) := by
  induction cs generalizing st with
  | nil => exact .refl h
  | cons c cs ih =>
    rw [List.foldl_cons]
    -- what is still a channel afterwards was one before
    have hstep : Evolves t st (closeRemoved st next c) ∧
        ∀ n s, (closeRemoved st next c).channelsByNodeId.get n = some s →
          st.channelsByNodeId.get n = some s := by
      unfold closeRemoved
      by_cases hn : next.has c.1
      · rw [if_pos hn]
        exact ⟨.refl h, fun _ _ hs => hs⟩
      · rw [if_neg hn]
        have hclear := Evolves.of_tables (t := t) h (tables_clearPendingProbe c.1)
        have hsame : (st.clearPendingProbe c.1).channelsByNodeId = st.channelsByNodeId :=
          eq_of_tables channelsByNodeId (fun _ => rfl) (tables_clearPendingProbe c.1)
        refine ⟨hclear.trans (dropChannel_evolves hclear.sound _ (fun s hs => ?_) _ _),
          fun n s hs => ?_⟩
        · rw [hsame] at hs
          exact hcs c List.mem_cons_self s hs
        · have hs' := (JsMap.get_of_get_delete hs).2
          rw [closeSocket_channels, hsame] at hs'
          exact hs'
    exact hstep.1.trans (ih hstep.1.sound fun d hd s hs =>
      hcs d (List.mem_cons_of_mem c hd) s (hstep.2 d.1 s hs))

theorem setPeers_evolves {t : Option SocketId} (h : st.Sound)
    (peers : List ClusterPeerNode) : Evolves t st (st.setPeers peers) := by
  unfold setPeers
  dsimp only
  have hclose := closeRemoved_evolves (t := t)
    (peers.foldl (fun m p => m.set p.nodeId p) JsMap.empty) st.channelsByNodeId.entries h
    fun c hc s hs => by
      rw [JsMap.get_eq_some_iff.2 hc] at hs
      cases hs
      rfl
  refine hclose.trans (.of_tables hclose.sound ?_)
  refine tables_foldl (fun s n => ?_) _
  split_ifs
  · rfl
  · exact tables_clearPendingProbe n

theorem disconnectPeer_evolves {t : Option SocketId} (h : st.Sound)
    (nodeId reason : JsString) : Evolves t st (st.disconnectPeer nodeId reason) := by
  unfold disconnectPeer
  dsimp only
  have hclear := Evolves.of_tables (t := t) h (tables_clearPendingProbe nodeId)
  split
  · exact hclear
  · rename_i socket hs
    have hdrop := dropChannel_evolves (t := t) hclear.sound socket
      (fun s' hs' => by
        rw [hs] at hs'
        cases hs'
        rfl) 1012 reason
    exact hclear.trans (hdrop.trans (.of_tables hdrop.sound (tables_notePeerSuspect _ _)))

/-- Channels are closed one by one. -/
theorem closeAll_evolves {t : Option SocketId} (cs : List (JsString × SocketId))
    (h : st.Sound) (code : ℕ) (reason : JsString) :
    Evolves t st (cs.foldl (fun (s : ClusterNetwork) c => s.closeSocket c.2 code reason) st) := by
  induction cs generalizing st with
  | nil => exact .refl h
  | cons c cs ih =>
    have hclose := closeSocket_evolves (t := t) h c.2 code reason
    exact hclose.trans (ih hclose.sound)

theorem closeAll_channels (cs : List (JsString × SocketId)) (code : ℕ) (reason : JsString) :
    (cs.foldl (fun (s : ClusterNetwork) c => s.closeSocket c.2 code reason) st).channelsByNodeId =
      st.channelsByNodeId := by
  induction cs generalizing st with
  | nil => rfl
  | cons c cs ih => exact ih.trans (closeSocket_channels _ _ _)

/-- None of them stays open. -/
theorem closeAll_not_open (cs : List (JsString × SocketId)) (code : ℕ) (reason : JsString)
    {s : SocketId} (hs : st.readyState s ≠ .connecting) (hc : st.readyState s = .open → ∃ n, (n, s) ∈ cs) :
    (cs.foldl (fun (s : ClusterNetwork) c => s.closeSocket c.2 code reason) st).readyState s ≠
      .open := by
  induction cs generalizing st with
  | nil => exact fun ho => by simpa using hc ho
  | cons c cs ih =>
    refine ih ?_ fun ho => ?_
    · rw [ReadyState.age_pos] at hs ⊢
      exact hs.trans_le (closeSocket_ages _ _ _ _)
    · obtain ⟨hne, ho⟩ := open_of_closeSocket ho
      obtain ⟨n, hn⟩ := hc ho
      rcases List.mem_cons.1 hn with rfl | hn
      · exact absurd rfl hne
      · exact ⟨n, hn⟩

theorem dispose_evolves {t : Option SocketId} (h : st.Sound) :
    Evolves t st st.dispose := by
  have hstop := Evolves.of_tables (t := t) h tables_stopPeerProbes
  have hpending := pendingRequests_evolves (t := t) hstop.sound .empty
    fun _ _ hp => by cases hp
  have hreject : Evolves t st
      (st.stopPeerProbes.rejectPending (js "Cluster network disposed")) :=
    (hstop.trans hpending).trans (.of_tables hpending.sound rfl)
  unfold dispose
  generalize st.stopPeerProbes.rejectPending (js "Cluster network disposed") = st₁ at hreject
  have hclose := closeAll_evolves (t := t) st₁.channelsByNodeId.entries hreject.sound
    1012 (js "cluster network disposed")
  refine (hreject.trans hclose).trans (clearChannels_evolves hclose.sound fun n s hs => ?_)
  rw [closeAll_channels] at hs
  exact closeAll_not_open _ _ _ (hreject.sound.channel n s hs).1
    fun _ => ⟨n, JsMap.get_eq_some_iff.1 hs⟩

theorem resume_evolves {t : Option SocketId} (h : st.Sound) (i : ℕ) (ref : JsString)
    (ts : JsNumber) : Evolves t st (st.resume i ref ts) := by
  unfold resume
  split
  · exact .refl h
  · rename_i awaiting outcome hi
    have hmem : (awaiting, outcome) ∈ st.resumable := List.mem_of_getElem? hi
    have herase := resumable_evolves (t := t) h (st.resumable.eraseIdx i)
      fun w s hw => h.resumable w s (List.mem_of_mem_eraseIdx hw)
    dsimp only
    split
    · -- a request is sent on the socket it got
      split_ifs
      · exact .refl h
      · rename_i payload socket _ _
        have hsent := pendingRequests_evolves (t := t) herase.sound
          (st.pendingRequests.set ref ⟨awaiting.nodeId, socket, payload.type⟩)
          fun r p hp => by
            rw [JsMap.get_set] at hp
            split_ifs at hp
            · cases hp
              exact h.resumable _ _ hmem
            · exact h.pending r p hp
        exact herase.trans (hsent.trans (.of_tables hsent.sound rfl))
    · exact herase.trans (.of_tables herase.sound rfl)
    · exact herase.trans (.of_tables herase.sound rfl)
    · exact herase.trans (.of_tables herase.sound (by simp))
    · exact herase.trans (.of_tables herase.sound rfl)
    · exact herase
    · exact herase

theorem probePeer_evolves {t : Option SocketId} (h : st.Sound) (nodeId : JsString) :
    Evolves t st (st.probePeer nodeId) := by
  unfold probePeer
  split_ifs
  · exact .refl h
  · exact ensureChannel_evolves h _ _

@[simp] theorem tables_probeTimeout (timer : ℕ) : (st.probeTimeout timer).tables = st.tables := by
  unfold probeTimeout
  split
  · rfl
  · exact tables_notePeerSuspect _ _

theorem requestTimeout_evolves {t : Option SocketId} (h : st.Sound) (ref : JsString) :
    Evolves t st (st.requestTimeout ref) := by
  unfold requestTimeout
  split
  · exact .refl h
  · exact answered_evolves h ref (by simp)

theorem requestSendFailed_evolves {t : Option SocketId} (h : st.Sound)
    (ref message : JsString) : Evolves t st (st.requestSendFailed ref message) := by
  unfold requestSendFailed
  split_ifs
  · exact answered_evolves h ref rfl
  · exact .refl h

@[simp] theorem tables_handlerSettled (i : ℕ) (result : HandlerResult) :
    (st.handlerSettled i result).tables = st.tables := by
  unfold handlerSettled
  split
  · rfl
  · cases result <;> rfl

/-! ### Events -/

theorem openServerSocket_evolves {t : Option SocketId} (h : st.Sound) (n : ℕ) :
    Evolves t st (st.openServerSocket n) := by
  unfold openServerSocket
  split_ifs with hr
  · exact setReadyState_evolves h (by rw [hr]; simp [ReadyState.age]) fun _ => hr
  · exact .refl h

theorem messageServerSocket_evolves (h : st.Sound) (n : ℕ) (raw : JsString) :
    Evolves (some (.inbound n)) st (st.messageServerSocket n raw) := by
  unfold messageServerSocket
  split_ifs with ho
  · exact handleIncomingMessage_evolves h ho raw
  · exact .refl h

/-- A socket is closed for good. -/
theorem closed_evolves {t : Option SocketId} (h : st.Sound) (socket : SocketId) :
    Evolves t st (st.setReadyState socket .closed) :=
  setReadyState_evolves h (by cases st.readyState socket <;> simp [ReadyState.age]) (by simp)

theorem closed_unregister_evolves (h : st.Sound) (socket : SocketId) :
    Evolves (some socket) st ((st.setReadyState socket .closed).unregisterSocket socket) := by
  have hclosed := closed_evolves (t := some socket) h socket
  refine hclosed.trans (unregisterSocket_evolves hclosed.sound ?_)
  rw [readyState_setReadyState, if_pos rfl]
  exact ReadyState.noConfusion

theorem closeServerSocket_evolves (h : st.Sound) (n : ℕ) :
    Evolves (some (.inbound n)) st (st.closeServerSocket n) := by
  unfold closeServerSocket
  split_ifs
  · exact closed_unregister_evolves h _
  · exact .refl h

theorem socketOpened_evolves {t : Option SocketId} (h : st.Sound) (n : ℕ) :
    Evolves t st (st.socketOpened n) := by
  unfold socketOpened
  split_ifs with hr
  · have hopen : Evolves t st (st.setReadyState (.outbound n) .open) :=
      setReadyState_evolves h (by rw [hr.2]; simp [ReadyState.age]) fun _ => hr.2
    exact hopen.trans (.of_tables hopen.sound rfl)
  · exact .refl h

theorem socketMessage_evolves (h : st.Sound) (n : ℕ) (raw : JsString) :
    Evolves (some (.outbound n)) st (st.socketMessage n raw) := by
  unfold socketMessage
  split_ifs with ho
  · exact handleIncomingMessage_evolves h ho raw
  · exact .refl h

theorem socketClosed_evolves (h : st.Sound) (n : ℕ) :
    Evolves (some (.outbound n)) st (st.socketClosed n) := by
  unfold socketClosed
  split_ifs
  · have hgone := closed_unregister_evolves h (.outbound n)
    dsimp only
    split_ifs
    · exact hgone.trans (finishReject_evolves hgone.sound _ _)
    · exact hgone
  · exact .refl h

theorem socketError_evolves {t : Option SocketId} (h : st.Sound) (n : ℕ) :
    Evolves t st (st.socketError n) := by
  unfold socketError
  split_ifs
  · exact finishReject_evolves h _ _
  · exact .refl h

/-- The socket whose node an event may change. -/
def Event.touched : Event → Option SocketId
  | .messageServerSocket n _ => some (.inbound n)
  | .closeServerSocket n => some (.inbound n)
  | .socketMessage n _ => some (.outbound n)
  | .socketClosed n => some (.outbound n)
  | _ => none

theorem handle_evolves (h : st.Sound) (e : Event) : Evolves e.touched st (st.handle e) := by
  cases e with
  | setPeers peers => exact setPeers_evolves h peers
  | setServerHandlers => exact .of_tables h rfl
  | healthChanged snapshots => exact .of_tables h rfl
  | ensureChannel nodeId purpose => exact ensureChannel_evolves h nodeId purpose
  | probePeer nodeId => exact probePeer_evolves h nodeId
  | resume i ref ts => exact resume_evolves h i ref ts
  | openServerSocket n => exact openServerSocket_evolves h n
  | messageServerSocket n raw => exact messageServerSocket_evolves h n raw
  | closeServerSocket n => exact closeServerSocket_evolves h n
  | socketOpened n => exact socketOpened_evolves h n
  | socketMessage n raw => exact socketMessage_evolves h n raw
  | socketClosed n => exact socketClosed_evolves h n
  | socketError n => exact socketError_evolves h n
  | connectTimeout n => exact finishReject_evolves h _ _
  | handlingFailed socket message =>
    cases socket with
    | inbound n => exact closeSocket_evolves h _ _ _
    | outbound n => exact finishReject_evolves h _ _
  | drainFailed socket => exact closeSocket_evolves h _ _ _
  | requestTimeout ref => exact requestTimeout_evolves h ref
  | requestSendFailed ref message => exact requestSendFailed_evolves h ref message
  | probeTimeout timer => exact .of_tables h (tables_probeTimeout timer)
  | probeSendFailed nodeId message => exact .of_tables h (tables_notePeerSuspect _ _)
  | handlerSettled i result => exact .of_tables h (tables_handlerSettled i result)
  | httpFailed nodeId detail => exact .of_tables h (tables_notePeerSuspect _ _)
  | httpOk nodeId path => exact .of_tables h (tables_notePeerAlive nodeId (js "http_" ++ path))
  | disconnectPeer nodeId reason => exact disconnectPeer_evolves h nodeId reason
  | stopPeerProbes => exact .of_tables h tables_stopPeerProbes
  | dispose => exact dispose_evolves h

theorem cleared_evolves {t : Option SocketId} (h : st.Sound) : Evolves t st st.cleared :=
  .of_tables h rfl

/-- **What one event keeps.** -/
theorem step_evolves (h : st.Sound) (e : Event) : Evolves e.touched st (step st e) :=
  (cleared_evolves h).trans (handle_evolves (cleared_evolves (t := none) h).sound e)

/-- The tables are in order in every state of a run. -/
theorem sound_run (options : ClusterNetworkOptions) (es : List Event) :
    (Machine.run step (create options) es).Sound :=
  Machine.run_invariant (sound_create options) (fun _ e h => (step_evolves h e).sound) es

end ClusterNetwork

end Hardess
