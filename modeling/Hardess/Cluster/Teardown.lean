import Hardess.Cluster.NetworkEffects

/-!
# What a dying socket takes with it

* `Ends`: an event is the close event of a socket, or closes it;
* `OnlyOwn`: such an event rejects no request that was sent on another open socket, and marks no
  node suspect that has another open channel;
* `Loses`: the node that an event takes the socket from, read off the tables before it;
* `onlyOwn_iff`: along a run the first holds exactly when no node that loses a socket has a channel
  over another open one.
-/

namespace Hardess

namespace ClusterNetwork

variable {st : ClusterNetwork}

/-- The event is the close event of the socket. -/
def CloseEvent (st : ClusterNetwork) (socket : SocketId) : Event → Prop
  | .closeServerSocket n => socket = .inbound n ∧
    (st.readyState socket = .open ∨ st.readyState socket = .closing)
  | .socketClosed n => socket = .outbound n ∧
    n < st.nextOutbound ∧ st.readyState socket ≠ .closed
  | _ => False

/-- The event is the close event of the socket, or closes it. -/
def Ends (st : ClusterNetwork) (e : Event) (socket : SocketId) : Prop :=
  st.CloseEvent socket e ∨ ∃ code reason, .close socket code reason ∈ (st.step e).effects

/-- Ending a socket rejects no request that was sent on another open socket, and marks no node
suspect that has a channel over another open socket. -/
def OnlyOwn (st : ClusterNetwork) (e : Event) : Prop :=
  ∀ socket, st.Ends e socket →
    (∀ ref n p, .reject ref (channelClosed n) ∈ (st.step e).effects →
      st.pendingRequests.get ref = some p → p.socket ≠ socket →
      st.readyState p.socket ≠ .open) ∧
    (∀ n detail, .markSuspect n detail ∈ (st.step e).effects → ∀ other,
      st.channelsByNodeId.get n = some other → other ≠ socket → st.readyState other ≠ .open)

/-- The event takes the socket from the node: it was bound to it when it closed, or dialled it and
is given up. -/
def Loses (st : ClusterNetwork) (socket : SocketId) (nodeId : JsString) : Event → Prop
  | .closeServerSocket n => st.CloseEvent socket (.closeServerSocket n) ∧
    st.nodeIdBySocket.get socket = some nodeId
  | .socketClosed n => st.CloseEvent socket (.socketClosed n) ∧
    (st.nodeIdBySocket.get socket = some nodeId ∨
      st.Dials socket nodeId ∧ st.connectingByNodeId.has nodeId)
  | .socketError n => socket = .outbound n ∧ st.Dials socket nodeId ∧
    st.connectingByNodeId.has nodeId
  | .connectTimeout n => socket = .outbound n ∧ st.Dials socket nodeId
  | .handlingFailed s _ => socket = s ∧ (∃ n, s = .outbound n) ∧ st.Dials socket nodeId
  | .socketMessage n raw => socket = .outbound n ∧ st.readyState socket = .open ∧
    st.Dials socket nodeId ∧
    ∃ named, parseClusterSocketMessage raw = some (.helloAck named) ∧ named ≠ nodeId
  | _ => False

/-- No node that loses a socket has a channel over another open one. -/
def SparesOthers (st : ClusterNetwork) (e : Event) : Prop :=
  ∀ socket n, st.Loses socket n e → ∀ other, st.channelsByNodeId.get n = some other →
    other ≠ socket → st.readyState other ≠ .open

/-! ### The frames of a socket -/

theorem onHelloAck_calm {socket : SocketId} {named : JsString}
    (h : ∀ n, st.Dials socket n → named = n) :
    Emits (fun c => ¬c.Harms) st (st.onHelloAck socket named) := by
  unfold onHelloAck
  split
  · exact .of_eq rfl
  · rename_i a ha
    split_ifs with hne
    · -- a settled attempt is not given up again
      rw [finishReject_of_not_dials]
      · exact .of_eq rfl
      · rintro n hd
        obtain ⟨b, hb, -, hn⟩ := id hd
        rw [ha] at hb
        cases hb
        exact hne ((h n hd).trans hn.symm)
    · have hresolve (st : ClusterNetwork) : Emits (fun c => ¬c.Harms) st (st.finishResolve socket) := by
        unfold finishResolve
        split
        · exact .of_eq rfl
        · split_ifs
          · exact .of_eq rfl
          · exact .of_eq rfl
      exact (registerChannel_emits (fun _ _ _ => id) _ _).trans
        ((notePeerAlive_emits (fun _ _ => id) _ _).trans (hresolve _))

/-- A frame closes no socket, or does no harm, unless it gives up the connect attempt of its
socket. -/
theorem handleIncomingMessage_calm (socket : SocketId) (raw : JsString)
    (h : ∀ named n, parseClusterSocketMessage raw = some (.helloAck named) → st.Dials socket n →
      named = n) :
    Emits (fun c => ¬c.Closes) st (st.handleIncomingMessage socket raw) ∨
      Emits (fun c => ¬c.Harms) st (st.handleIncomingMessage socket raw) := by
  have hclose (code : ℕ) (reason : JsString) :
      Emits (fun c => ¬c.Harms) st (st.closeSocket socket code reason) :=
    closeSocket_emits (fun _ _ _ => id) _ _ _
  cases hp : parseClusterSocketMessage raw with
  | none =>
    rw [handleIncomingMessage, hp]
    exact .inr (hclose _ _)
  | some message =>
    rw [handleIncomingMessage_of_parse hp]
    by_cases hm : isHandshake message = false
    · rw [handleMessage_of_not_handshake hm]
      split_ifs
      · exact .inr (hclose _ _)
      · exact .inl ((handleChannelMessage_emits _ _ _).mono fun _ => And.left)
    · cases message with
      | hello nodeId secret =>
        rw [handleMessage_hello]
        exact .inr (handleHello_emits (fun _ _ _ => id) (fun _ _ => id) (fun _ _ => id) _ _ _)
      | helloAck named =>
        rw [handleMessage_helloAck]
        have hbind : Emits (fun c => ¬c.Harms) st (st.bindSocket socket named) := .of_eq rfl
        exact .inr ((hbind.trans (notePeerAlive_emits (fun _ _ => id) _ _)).trans
          (onHelloAck_calm fun n hd => h named n hp ((dials_congr (helloAck_attempts _ _)).1 hd)))
      | _ => exact absurd rfl hm

/-- A `helloAck` of another node gives up the attempt. -/
theorem handleHelloAck_of_mismatch {socket : SocketId} {named n : JsString}
    (hd : st.Dials socket n) (hne : named ≠ n) :
    ∃ message, (st.handleHelloAck socket named).effects = st.effects ++
      [.markAlive named (js "hello_ack"), .close socket 1013 message, .markSuspect n message] := by
  obtain ⟨a, ha, -, rfl⟩ := id hd
  have hd₁ := (dials_congr (helloAck_attempts socket named)).2 hd
  have ha₁ := @helloAck_attempts st socket named ▸ ha
  unfold handleHelloAck onHelloAck
  rw [ha₁]
  dsimp only
  rw [if_pos hne, finishReject_of_dials hd₁, effects_notePeerAlive, List.append_assoc]
  exact ⟨_, rfl⟩

/-! ### Close events -/

/-- What an effect of an event that ends `socket` comes from: it closes that socket, blames it on a
node that loses it, or on the node whose channel it was. -/
def Blames (st : ClusterNetwork) (e : Event) (socket : SocketId) : ClusterEffect → Prop
  | .close s _ _ => s = socket
  | .markSuspect n _ => st.Loses socket n e ∨ st.channelsByNodeId.get n = some socket
  | .reject ref _ => ∃ n, st.Loses socket n e ∧
    ∀ p, st.pendingRequests.get ref = some p → p.nodeId = n
  | _ => True

/-- The event ends one socket at most, and its effects come from that. -/
def EndsOne (st : ClusterNetwork) (e : Event) : Prop :=
  ∃ socket, (∀ s, st.CloseEvent s e → s = socket) ∧
    ∀ c ∈ (st.step e).effects, st.Blames e socket c

/-- The requests that `unregisterSocket` rejects. -/
theorem blames_reject {e : Event} {socket : SocketId} {n : JsString} (h : st.Loses socket n e) :
    ∀ c ∈ (st.pendingRequests.entries.filter fun e => e.2.nodeId = n).map
      fun e => ClusterEffect.reject e.1 (channelClosed n), st.Blames e socket c := by
  intro c hc
  obtain ⟨⟨ref, p⟩, hp, rfl⟩ := List.mem_map.1 hc
  obtain ⟨hp, hn⟩ := List.mem_filter.1 hp
  refine ⟨n, h, fun q hq => ?_⟩
  rw [JsMap.get_eq_some_iff.2 hp] at hq
  cases hq
  exact of_decide_eq_true hn

/-- The close event of a socket blames it on its node. -/
theorem unregister_blames (h : st.Sound) (e : Event) (socket : SocketId)
    (hl : ∀ n, st.nodeIdBySocket.get socket = some n → st.Loses socket n e) :
    ∀ c ∈ ((st.cleared.setReadyState socket .closed).unregisterSocket socket).effects,
      st.Blames e socket c := by
  have hclosed := closed_evolves (t := none) (cleared_evolves (t := none) h).sound socket
  rcases unregisterSocket_cases hclosed.sound socket with ⟨-, heq⟩ | ⟨n, hb, heq⟩
  · rw [heq]
    exact fun c hc => absurd hc List.not_mem_nil
  · rw [heq]
    intro c hc
    rcases List.mem_cons.1 hc with rfl | hc
    · exact .inl (hl n hb)
    · exact blames_reject (hl n hb) c hc

/-- Giving up a connect attempt blames it on the node that is dialled. -/
theorem finishReject_blames {st' : ClusterNetwork} {e : Event} {socket : SocketId}
    (ha : st'.attempts = st.attempts)
    (hl : ∀ n, st.Dials socket n → st.Loses socket n e)
    (h : ∀ c ∈ st'.effects, st.Blames e socket c) (message : JsString) :
    ∀ c ∈ (st'.finishReject socket message).effects, st.Blames e socket c := by
  by_cases hd : ∃ n, st'.Dials socket n
  · obtain ⟨n, hd⟩ := hd
    rw [finishReject_of_dials hd]
    intro c hc
    rcases List.mem_append.1 hc with hc | hc
    · exact h c hc
    · rcases List.mem_cons.1 hc with rfl | hc
      · exact rfl
      · obtain rfl := List.mem_singleton.1 hc
        exact .inl (hl n ((dials_congr ha).1 hd))
  · rw [finishReject_of_not_dials fun n hd' => hd ⟨n, hd'⟩]
    exact h

theorem closeServerSocket_endsOne (h : st.Sound) (n : ℕ) : st.EndsOne (.closeServerSocket n) := by
  refine ⟨.inbound n, fun s hs => hs.1, ?_⟩
  by_cases hr : st.readyState (.inbound n) = .open ∨ st.readyState (.inbound n) = .closing
  · have hstep : st.step (.closeServerSocket n) =
        (st.cleared.setReadyState (.inbound n) .closed).unregisterSocket (.inbound n) := if_pos hr
    rw [hstep]
    exact unregister_blames h _ _ fun m hm => ⟨⟨rfl, hr⟩, hm⟩
  · rw [show st.step (.closeServerSocket n) = st.cleared from if_neg hr]
    exact fun c hc => absurd hc List.not_mem_nil

/-- The close event of a socket that was dialled, when it is handled. -/
theorem step_socketClosed {n : ℕ}
    (hr : n < st.nextOutbound ∧ st.readyState (.outbound n) ≠ .closed) :
    let st₁ := (st.cleared.setReadyState (.outbound n) .closed).unregisterSocket (.outbound n)
    st.step (.socketClosed n) =
      if st.attemptConnecting (.outbound n) then
        st₁.finishReject (.outbound n)
          (js "Cluster socket closed during connect: " ++ st₁.dialled (.outbound n))
      else st₁ := by
  intro st₁
  have hc : st₁.attemptConnecting (.outbound n) = st.attemptConnecting (.outbound n) := by
    unfold attemptConnecting
    rw [(unregisterSocket_tables _).1, (unregisterSocket_tables _).2]
    rfl
  rw [← hc]
  exact if_pos hr

theorem connecting_of_dials {socket : SocketId} {n : JsString} (h : st.Dials socket n) :
    st.attemptConnecting socket = st.connectingByNodeId.has n := by
  obtain ⟨a, ha, -, rfl⟩ := h
  rw [attemptConnecting, ha, Option.any_some]

theorem socketClosed_endsOne (h : st.Sound) (n : ℕ) : st.EndsOne (.socketClosed n) := by
  refine ⟨.outbound n, fun s hs => hs.1, ?_⟩
  by_cases hr : n < st.nextOutbound ∧ st.readyState (.outbound n) ≠ .closed
  · have hgone := unregister_blames h (.socketClosed n) (.outbound n)
      fun m hm => ⟨⟨rfl, hr⟩, .inl hm⟩
    rw [step_socketClosed hr]
    by_cases hc : st.attemptConnecting (.outbound n)
    · rw [if_pos hc]
      have hattempts : ((st.cleared.setReadyState (.outbound n) .closed).unregisterSocket
          (.outbound n)).attempts = st.attempts := (unregisterSocket_tables _).1
      have hl : ∀ m, st.Dials (.outbound n) m → st.Loses (.outbound n) m (.socketClosed n) :=
        fun m hd => ⟨⟨rfl, hr⟩, .inr ⟨hd, connecting_of_dials hd ▸ hc⟩⟩
      exact finishReject_blames hattempts hl hgone _
    · rw [if_neg hc]
      exact hgone
  · rw [show st.step (.socketClosed n) = st.cleared from if_neg hr]
    exact fun c hc => absurd hc List.not_mem_nil

/-! ### One event -/

/-- An event that ends no socket, does no harm, or ends one socket. -/
def Accounted (st : ClusterNetwork) (e : Event) : Prop :=
  ((∀ s, ¬st.CloseEvent s e) ∧ ∀ c ∈ (st.step e).effects, ¬c.Closes) ∨
    (∀ c ∈ (st.step e).effects, ¬c.Harms) ∨ st.EndsOne e

theorem accounted_of_emits {e : Event} (hc : ∀ s, ¬st.CloseEvent s e)
    (h : Emits (fun c => ¬c.Closes) st.cleared (st.step e)) : st.Accounted e :=
  .inl ⟨hc, h.mem rfl⟩

theorem accounted_of_mild {e : Event} (hc : ∀ s, ¬st.CloseEvent s e)
    (h : Emits ClusterEffect.Mild st.cleared (st.step e)) : st.Accounted e :=
  accounted_of_emits hc (h.mono fun _ => And.left)

theorem accounted_of_harmless {e : Event}
    (h : Emits (fun c => ¬c.Harms) st.cleared (st.step e)) : st.Accounted e :=
  .inr (.inl (h.mem rfl))

/-- Events that give up a connect attempt at once. -/
theorem accounted_of_finishReject {e : Event} {socket : SocketId} {message : JsString}
    (hstep : st.step e = st.cleared.finishReject socket message) (hc : ∀ s, ¬st.CloseEvent s e)
    (hl : ∀ n, st.Dials socket n → st.Loses socket n e) : st.Accounted e := by
  refine .inr (.inr ⟨socket, fun s hs => absurd hs (hc s), ?_⟩)
  rw [hstep]
  exact @finishReject_blames st st.cleared e socket rfl hl
    (fun c hc => absurd hc List.not_mem_nil) message

theorem socketMessage_accounted (n : ℕ) (raw : JsString) : st.Accounted (.socketMessage n raw) := by
  by_cases ho : st.readyState (.outbound n) = .open
  · have hstep : st.step (.socketMessage n raw) =
        st.cleared.handleIncomingMessage (.outbound n) raw := if_pos ho
    by_cases hm : ∃ named m, parseClusterSocketMessage raw = some (.helloAck named) ∧
        st.Dials (.outbound n) m ∧ named ≠ m
    · obtain ⟨named, m, hp, hd, hne⟩ := hm
      refine .inr (.inr ⟨.outbound n, fun s hs => absurd hs id, ?_⟩)
      obtain ⟨message, heq⟩ := @handleHelloAck_of_mismatch st.cleared _ _ _ hd hne
      rw [hstep, handleIncomingMessage_of_parse hp, handleMessage_helloAck, heq]
      intro c hc
      have hl : st.Loses (.outbound n) m (.socketMessage n raw) := ⟨rfl, ho, hd, named, hp, hne⟩
      simp only [cleared, List.nil_append, List.mem_cons, List.not_mem_nil, or_false] at hc
      rcases hc with rfl | rfl | rfl
      · exact trivial
      · exact rfl
      · exact .inl hl
    · have hcalm := @handleIncomingMessage_calm st.cleared (.outbound n) raw
        fun named m hp hd => not_not.1 fun hne => hm ⟨named, m, hp, hd, hne⟩
      rw [← hstep] at hcalm
      rcases hcalm with hcalm | hcalm
      · exact accounted_of_emits (fun _ => id) hcalm
      · exact accounted_of_harmless hcalm
  · exact accounted_of_harmless (.of_eq (congrArg effects
      (show st.step (.socketMessage n raw) = st.cleared from if_neg ho)))

theorem messageServerSocket_accounted (h : st.Sound) (n : ℕ) (raw : JsString) :
    st.Accounted (.messageServerSocket n raw) := by
  by_cases ho : st.readyState (.inbound n) = .open
  · have hstep : st.step (.messageServerSocket n raw) =
        st.cleared.handleIncomingMessage (.inbound n) raw := if_pos ho
    have hcalm := @handleIncomingMessage_calm st.cleared (.inbound n) raw fun _ m _ hd => by
      -- an inbound socket has no connect attempt
      obtain ⟨a, ha, -, -⟩ := hd
      obtain ⟨k, -, hk⟩ := h.attempt _ a ha
      cases hk
    rw [← hstep] at hcalm
    rcases hcalm with hcalm | hcalm
    · exact accounted_of_emits (fun _ => id) hcalm
    · exact accounted_of_harmless hcalm
  · exact accounted_of_harmless (.of_eq (congrArg effects
      (show st.step (.messageServerSocket n raw) = st.cleared from if_neg ho)))

theorem disconnectPeer_accounted (nodeId reason : JsString) :
    st.Accounted (.disconnectPeer nodeId reason) := by
  have hclear : (st.cleared.clearPendingProbe nodeId).channelsByNodeId = st.channelsByNodeId :=
    eq_of_tables channelsByNodeId (fun _ => rfl)
      (tables_clearPendingProbe nodeId : _ = st.cleared.tables)
  cases hc : st.channelsByNodeId.get nodeId with
  | none =>
    refine accounted_of_harmless (.of_eq ?_)
    show (st.cleared.disconnectPeer nodeId reason).effects = _
    unfold disconnectPeer
    dsimp only
    rw [hclear, hc]
    exact effects_clearPendingProbe nodeId
  | some socket =>
    refine .inr (.inr ⟨socket, fun s hs => absurd hs id, ?_⟩)
    have heq : (st.step (.disconnectPeer nodeId reason)).effects =
        [.close socket 1012 reason, .markSuspect nodeId reason] := by
      show (st.cleared.disconnectPeer nodeId reason).effects = _
      unfold disconnectPeer
      dsimp only
      rw [hclear, hc]
      dsimp only
      rw [effects_notePeerSuspect, effects_closeSocket, effects_clearPendingProbe]
      rfl
    rw [heq]
    intro c hmem
    rcases List.mem_cons.1 hmem with rfl | hmem
    · exact rfl
    · obtain rfl := List.mem_singleton.1 hmem
      exact .inr hc

theorem accounted (h : st.Sound) (e : Event) : st.Accounted e := by
  cases e with
  | setPeers peers => exact accounted_of_harmless (setPeers_emits (fun _ _ _ => id) peers)
  | setServerHandlers => exact accounted_of_harmless (.of_eq rfl)
  | healthChanged snapshots => exact accounted_of_harmless (.of_eq rfl)
  | ensureChannel nodeId purpose =>
    exact accounted_of_harmless (ensureChannel_emits (fun _ _ => id) _ _)
  | probePeer nodeId =>
    refine accounted_of_harmless ?_
    show Emits _ _ (st.cleared.probePeer nodeId)
    unfold probePeer
    split_ifs
    · exact .of_eq rfl
    · exact ensureChannel_emits (fun _ _ => id) _ _
  | resume i ref ts => exact accounted_of_emits (fun _ => id) (resume_emits i ref ts)
  | openServerSocket n =>
    refine accounted_of_harmless (.of_eq ?_)
    show (st.cleared.openServerSocket n).effects = _
    unfold openServerSocket
    split_ifs <;> rfl
  | messageServerSocket n raw => exact messageServerSocket_accounted h n raw
  | closeServerSocket n => exact .inr (.inr (closeServerSocket_endsOne h n))
  | socketOpened n =>
    refine accounted_of_harmless ?_
    show Emits _ _ (st.cleared.socketOpened n)
    unfold socketOpened
    split_ifs
    · exact .one rfl id
    · exact .of_eq rfl
  | socketMessage n raw => exact socketMessage_accounted n raw
  | socketClosed n => exact .inr (.inr (socketClosed_endsOne h n))
  | socketError n =>
    by_cases hc : st.attemptConnecting (.outbound n)
    · exact accounted_of_finishReject (if_pos hc) (fun _ => id) fun m hd =>
        ⟨rfl, hd, connecting_of_dials hd ▸ hc⟩
    · exact accounted_of_harmless (.of_eq (congrArg effects
        (show st.step (.socketError n) = st.cleared from if_neg hc)))
  | connectTimeout n => exact accounted_of_finishReject rfl (fun _ => id) fun m hd => ⟨rfl, hd⟩
  | handlingFailed socket message =>
    cases socket with
    | inbound n => exact accounted_of_harmless (closeSocket_emits (fun _ _ _ => id) _ _ _)
    | outbound n =>
      exact accounted_of_finishReject rfl (fun _ => id) fun m hd => ⟨rfl, ⟨n, rfl⟩, hd⟩
  | drainFailed socket => exact accounted_of_harmless (closeSocket_emits (fun _ _ _ => id) _ _ _)
  | requestTimeout ref => exact accounted_of_mild (fun _ => id) (requestTimeout_emits ref)
  | requestSendFailed ref message =>
    exact accounted_of_mild (fun _ => id) (requestSendFailed_emits ref message)
  | probeTimeout timer => exact accounted_of_mild (fun _ => id) (probeTimeout_emits timer)
  | probeSendFailed nodeId message =>
    exact accounted_of_emits (fun _ => id) (notePeerSuspect_emits (fun _ _ => id) _ _)
  | handlerSettled i result =>
    exact accounted_of_mild (fun _ => id) (handlerSettled_emits i result)
  | httpFailed nodeId detail =>
    exact accounted_of_emits (fun _ => id) (notePeerSuspect_emits (fun _ _ => id) _ _)
  | httpOk nodeId path =>
    exact accounted_of_emits (fun _ => id) (notePeerAlive_emits (fun _ _ => id) _ _)
  | disconnectPeer nodeId reason => exact disconnectPeer_accounted nodeId reason
  | stopPeerProbes => exact accounted_of_harmless stopPeerProbes_emits
  | dispose =>
    refine accounted_of_harmless (dispose_emits (fun _ _ _ => id) fun ref => ?_)
    rintro ⟨nodeId, heq⟩
    exact channelClosed_ne_disposed nodeId heq

/-- The close event of a socket marks its node. -/
theorem unregister_marks (h : st.Sound) {socket : SocketId} {n : JsString}
    (hb : st.nodeIdBySocket.get socket = some n) :
    .markSuspect n (js "channel_closed") ∈
      ((st.cleared.setReadyState socket .closed).unregisterSocket socket).effects := by
  rw [@unregisterSocket_of_bound (st.cleared.setReadyState socket .closed) _ _ hb
    (h.bound _ _ hb)]
  simp

theorem finishReject_keeps {c : ClusterEffect} (hc : c ∈ st.effects) (socket : SocketId)
    (message : JsString) : c ∈ (st.finishReject socket message).effects := by
  by_cases hd : ∃ n, st.Dials socket n
  · obtain ⟨n, hd⟩ := hd
    rw [finishReject_of_dials hd]
    exact List.mem_append_left _ hc
  · rw [finishReject_of_not_dials fun n hd' => hd ⟨n, hd'⟩]
    exact hc

/-- Giving up a connect attempt closes its socket and marks its node. -/
theorem finishReject_marks {socket : SocketId} {n : JsString} (hd : st.Dials socket n)
    (message : JsString) : .close socket 1013 message ∈ (st.finishReject socket message).effects ∧
      .markSuspect n message ∈ (st.finishReject socket message).effects := by
  rw [finishReject_of_dials hd]
  simp

/-- A node that loses a socket is marked suspect. -/
theorem marks_of_loses (h : st.Sound) {e : Event} {socket : SocketId} {n : JsString}
    (hl : st.Loses socket n e) :
    st.Ends e socket ∧ ∃ detail, .markSuspect n detail ∈ (st.step e).effects := by
  -- an attempt that is rejected closes its socket and marks the node
  have hreject (message : JsString) (hd : st.Dials socket n)
      (hstep : st.step e = st.cleared.finishReject socket message) :
      st.Ends e socket ∧ ∃ detail, .markSuspect n detail ∈ (st.step e).effects := by
    obtain ⟨hclose, hmark⟩ := @finishReject_marks st.cleared _ _ hd message
    rw [← hstep] at hclose hmark
    exact ⟨.inr ⟨_, _, hclose⟩, _, hmark⟩
  cases e with
  | closeServerSocket k =>
    obtain ⟨hclose, hb⟩ := hl
    refine ⟨.inl hclose, js "channel_closed", ?_⟩
    obtain ⟨rfl, hr⟩ := hclose
    rw [show st.step (.closeServerSocket k) = (st.cleared.setReadyState (.inbound k)
      .closed).unregisterSocket (.inbound k) from if_pos hr]
    exact unregister_marks h hb
  | socketClosed k =>
    obtain ⟨hclose, hl⟩ := hl
    refine ⟨.inl hclose, ?_⟩
    obtain ⟨rfl, hr⟩ := hclose
    rw [step_socketClosed hr]
    -- the socket was the channel of the node, or was being dialled for it
    rcases hl with hb | ⟨hd, hc⟩
    · refine ⟨js "channel_closed", ?_⟩
      split_ifs
      · exact finishReject_keeps (unregister_marks h hb) _ _
      · exact unregister_marks h hb
    · rw [if_pos ((connecting_of_dials hd).trans hc)]
      have hattempts : ((st.cleared.setReadyState (.outbound k) .closed).unregisterSocket
          (.outbound k)).attempts = st.attempts := (unregisterSocket_tables _).1
      exact ⟨_, (finishReject_marks ((dials_congr hattempts).2 hd) _).2⟩
  | socketError k =>
    obtain ⟨rfl, hd, hc⟩ := hl
    exact hreject _ hd (if_pos ((connecting_of_dials hd).trans hc))
  | connectTimeout k =>
    obtain ⟨rfl, hd⟩ := hl
    exact hreject _ hd rfl
  | handlingFailed s message =>
    obtain ⟨rfl, ⟨k, rfl⟩, hd⟩ := hl
    exact hreject _ hd rfl
  | socketMessage k raw =>
    obtain ⟨rfl, ho, hd, named, hp, hne⟩ := hl
    obtain ⟨message, heq⟩ := @handleHelloAck_of_mismatch st.cleared _ _ _ hd hne
    rw [← handleMessage_helloAck, ← handleIncomingMessage_of_parse hp, ← show st.step (.socketMessage k raw) =
      st.cleared.handleIncomingMessage (.outbound k) raw from if_pos ho] at heq
    exact ⟨.inr ⟨1013, message, by simp [heq]⟩, message, by simp [heq]⟩
  | _ => exact absurd hl id

/-- **Ending a socket hurts only its own exactly when it spares the other channels.** -/
theorem onlyOwn_iff_sparesOthers (h : st.Sound) (e : Event) : st.OnlyOwn e ↔ st.SparesOthers e := by
  constructor
  · intro hown socket n hl
    obtain ⟨hends, detail, hmark⟩ := marks_of_loses h hl
    exact (hown socket hends).2 n detail hmark
  · intro hspare socket hends
    rcases accounted h e with ⟨hno, hcloses⟩ | hharms | ⟨s, hs, hblame⟩
    · -- the event ends no socket
      rcases hends with hce | ⟨code, reason, hmem⟩
      · exact absurd hce (hno socket)
      · exact absurd trivial (hcloses _ hmem)
    · exact ⟨fun ref n p hmem => absurd ⟨n, rfl⟩ (hharms _ hmem),
        fun n detail hmem => absurd trivial (hharms _ hmem)⟩
    · obtain rfl : socket = s := by
        rcases hends with hce | ⟨code, reason, hmem⟩
        · exact hs socket hce
        · exact hblame _ hmem
      refine ⟨fun ref n p hmem hp hne ho => ?_, fun n detail hmem other hc hne => ?_⟩
      · -- an open socket that carries a request of the node is its channel
        obtain ⟨m, hl, hm⟩ := hblame _ hmem
        have hserves := (h.pending ref p hp).2 ho
        rw [hm p hp] at hserves
        exact hspare socket m hl _ hserves hne ho
      · rcases hblame _ hmem with hl | hown
        · exact hspare socket n hl other hc hne
        · rw [hc] at hown
          cases hown
          exact absurd rfl hne

/-- **Along a run, a dying socket hurts only its own requests and nodes exactly when no node that
loses a socket has a channel over another open one.** -/
theorem onlyOwn_iff (options : ClusterNetworkOptions) (es : List Event) :
    Machine.Along step OnlyOwn (create options) es ↔
      Machine.Along step SparesOthers (create options) es :=
  ⟨fun hrun => hrun.imp (sound_create options) (fun _ e h _ => (step_evolves h e).sound)
      fun _ e h hown => (onlyOwn_iff_sparesOthers h e).1 hown,
    fun hrun => hrun.imp (sound_create options) (fun _ e h _ => (step_evolves h e).sound)
      fun _ e h hspare => (onlyOwn_iff_sparesOthers h e).2 hspare⟩

/-- The `hello` of a peer. -/
def peerHello : ClusterSocketMessage := .hello (js "b") none

/-- The peer connects twice, a request goes out on its second socket, and then the first one is
gone. -/
def superseded : List Event :=
  [.openServerSocket 0, .messageServerSocket 0 peerHello.toJson.stringify,
    .openServerSocket 1, .messageServerSocket 1 peerHello.toJson.stringify,
    .ensureChannel (js "b") (.request (.handleAck alice (js "m1") none)),
    .resume 0 (js "r1") (.ofNat 0), .closeServerSocket 0]

theorem parse_peerHello : parseClusterSocketMessage peerHello.toJson.stringify = some peerHello :=
  ClusterSocketMessage.parse_hello (by decide) (by decide)

/-- The peer keeps an open channel and is marked suspect, and its request is rejected. -/
theorem request_lost : ¬∀ options es, Machine.Along step OnlyOwn (create options) es := by
  intro h
  obtain ⟨-, -, -, -, -, -, hown, -⟩ := h { nodeId := js "a" } superseded
  have hspare := (onlyOwn_iff_sparesOthers (sound_run { nodeId := js "a" } (superseded.take 6)) _).1
    hown
  have hfirst (st : ClusterNetwork) (n : ℕ) (ho : st.readyState (.inbound n) = .open) :
      st.step (.messageServerSocket n peerHello.toJson.stringify) =
        st.cleared.handleHello (.inbound n) (js "b") none :=
    (if_pos ho).trans ((handleIncomingMessage_of_parse parse_peerHello).trans
      (handleMessage_hello _ _ _))
  have hrun : Machine.run step (create { nodeId := js "a" }) (superseded.take 6) =
      ((((((create { nodeId := js "a" }).step (.openServerSocket 0)).cleared.handleHello
        (.inbound 0) (js "b") none).step (.openServerSocket 1)).cleared.handleHello
        (.inbound 1) (js "b") none).step
        (.ensureChannel (js "b") (.request (.handleAck alice (js "m1") none)))).step
        (.resume 0 (js "r1") (.ofNat 0)) := by
    simp only [superseded, List.take, Machine.run_cons, Machine.run_nil]
    rw [hfirst _ 0 (by decide), hfirst _ 1 (by decide)]
  rw [hrun] at hspare
  exact hspare (.inbound 0) (js "b") ⟨⟨rfl, .inr (by decide)⟩, by decide⟩ (.inbound 1) (by decide)
    (by decide) (by decide)

end ClusterNetwork

end Hardess
