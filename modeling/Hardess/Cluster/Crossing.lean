import Hardess.Cluster.NetworkEffects

/-!
# Two nodes that dial each other

Two cluster networks, the websocket that each of them dials to the other, and what is in flight on
these two sockets.

* each direction of a socket is a `Wire`: frames and a close arrive in order, and nothing is sent
  after a close;
* `Crossing.step`: a socket opens, or the next item of a wire arrives; the effects of the node
  that handles it go onto its wires;
* `Stands`: what a node keeps about the other one; `Stands.hears_hello`, `Stands.hears_ack` and
  `Stands.closes` say what it makes of a frame and of a close.
-/

namespace Hardess

/-- One of the two nodes. -/
inductive Side
  | left
  | right
  deriving DecidableEq

namespace Side

/-- The other node. -/
def other : Side → Side
  | left => right
  | right => left

@[simp] theorem other_other (d : Side) : d.other.other = d := by cases d <;> rfl

@[simp] theorem other_ne (d : Side) : d.other ≠ d := by cases d <;> decide

@[simp] theorem ne_other (d : Side) : d ≠ d.other := d.other_ne.symm

theorem eq_or_eq_other (d e : Side) : e = d ∨ e = d.other := by cases d <;> cases e <;> decide

end Side

/-! ### Wires -/

/-- What travels in one direction of a socket. -/
inductive WireItem
  | frame (raw : JsString)
  | close
  deriving DecidableEq

/-- One direction of a socket; it has ended once a close was put into it. -/
structure Wire where
  items : List WireItem := []
  ended : Bool := false

namespace Wire

/-- Put an item into a wire that has not ended. -/
def push (w : Wire) (item : WireItem) : Wire :=
  if w.ended then w else { items := w.items ++ [item], ended := item = .close }

/-- The effects of a node, as far as they are about the socket that the wire leaves. -/
def transmit (w : Wire) (socket : SocketId) : List ClusterEffect → Wire
  | [] => w
  | .send s message :: effects =>
    (if s = socket then w.push (.frame message.toJson.stringify) else w).transmit socket effects
  | .close s _ _ :: effects => (if s = socket then w.push .close else w).transmit socket effects
  | _ :: effects => w.transmit socket effects

/-- Without the first item. -/
def pop (w : Wire) : Wire := { w with items := w.items.tail }

end Wire

/-! ### The two nodes -/

/-- The handshake frames. -/
inductive Handshake
  | hello
  | ack
  deriving DecidableEq

/-- Two nodes that list each other as peers and share the secret. The schemas ask for a name of at
least one character, and the empty string is no secret. -/
structure ClusterPair where
  nodeId : Side → JsString
  baseUrl : Side → JsString
  sharedSecret : Option JsString
  named : ∀ d, nodeId d ≠ []
  distinct : ∀ d, nodeId d ≠ nodeId d.other
  secret : sharedSecret ≠ some []

/-- Two nodes and their two sockets. `toServer d` is the direction from the node `d` that dialled
the socket, `toClient d` the one towards it; `heard` keeps the handshake frames that a node
handled, in order. -/
structure Crossing where
  node : Side → ClusterNetwork
  toServer : Side → Wire := fun _ => {}
  toClient : Side → Wire := fun _ => {}
  heard : Side → List Handshake := fun _ => []

namespace Crossing

open ClusterNetwork (Event)

/-- Both nodes have dialled, and no socket is open yet. -/
def start (p : ClusterPair) : Crossing where
  node d :=
    ((ClusterNetwork.create { nodeId := p.nodeId d, sharedSecret := p.sharedSecret }).step
      (.setPeers [⟨p.nodeId d.other, p.baseUrl d.other⟩])).step
      (.ensureChannel (p.nodeId d.other) .warm)

/-- The node `d` has handled an event, and its effects go onto its wires. -/
def settle (c : Crossing) (d : Side) (e : Event) : Crossing :=
  let st := (c.node d).step e
  { c with
    node := Function.update c.node d st
    toServer := Function.update c.toServer d ((c.toServer d).transmit (.outbound 0) st.effects)
    toClient := Function.update c.toClient d.other
      ((c.toClient d.other).transmit (.inbound 0) st.effects) }

/-- The node `d` hears a handshake frame on an open socket. -/
def hear (c : Crossing) (d : Side) (socket : SocketId) (h : Handshake) : Crossing :=
  if (c.node d).readyState socket = .open then
    { c with heard := Function.update c.heard d (c.heard d ++ [h]) }
  else c

/-- What can happen: the socket that `d` dialled opens, or the next item of one of its directions
arrives. -/
inductive Move
  | opened (d : Side)
  | toServer (d : Side)
  | toClient (d : Side)

/-- One move. A websocket answers a close with a close of its own. -/
def step (c : Crossing) : Move → Crossing
  | .opened d => (c.settle d.other (.openServerSocket 0)).settle d (.socketOpened 0)
  | .toServer d =>
    let c₁ := { c with toServer := Function.update c.toServer d (c.toServer d).pop }
    match (c.toServer d).items with
    | [] => c
    | .frame raw :: _ =>
      (c₁.hear d.other (.inbound 0) .hello).settle d.other (.messageServerSocket 0 raw)
    | .close :: _ =>
      ({ c₁ with toClient := Function.update c.toClient d ((c.toClient d).push .close) }).settle
        d.other (.closeServerSocket 0)
  | .toClient d =>
    let c₁ := { c with toClient := Function.update c.toClient d (c.toClient d).pop }
    match (c.toClient d).items with
    | [] => c
    | .frame raw :: _ => (c₁.hear d (.outbound 0) .ack).settle d (.socketMessage 0 raw)
    | .close :: _ =>
      ({ c₁ with toServer := Function.update c.toServer d ((c.toServer d).push .close) }).settle
        d (.socketClosed 0)

/-- Nothing is in flight. -/
def Quiescent (c : Crossing) : Prop :=
  ∀ d, (c.node d).readyState (.outbound 0) ≠ .connecting ∧
    (c.toServer d).items = [] ∧ (c.toClient d).items = []

/-- There is an open socket that each node has registered as its channel to the other. -/
def Linked (p : ClusterPair) (c : Crossing) : Prop :=
  ∃ d, (c.node d).channelsByNodeId.get (p.nodeId d.other) = some (.outbound 0) ∧
    (c.node d.other).channelsByNodeId.get (p.nodeId d) = some (.inbound 0) ∧
    (c.node d).readyState (.outbound 0) = .open ∧
    (c.node d.other).readyState (.inbound 0) = .open

/-- One of the nodes heard the `helloAck` on the socket it dialled before the `hello` of the other
node. -/
def AckFirst (c : Crossing) : Prop := ∃ d, (c.heard d).head? = some .ack

/-! ### One node -/

section Node

open ClusterNetwork

variable {p : ClusterPair} {d : Side} {st : ClusterNetwork} {heard : List Handshake}

/-- The channel that a node has after the handshake frames it heard: the socket of the last one,
unless that is closed. -/
def channelOf (heard : List Handshake) (out inn : ReadyState) : Option SocketId :=
  match heard.getLast? with
  | none => none
  | some .hello => if inn = .closed then none else some (.inbound 0)
  | some .ack => if out = .closed then none else some (.outbound 0)

/-- What a node keeps about the other one. -/
structure Stands (p : ClusterPair) (d : Side) (st : ClusterNetwork) (heard : List Handshake) :
    Prop where
  sound : st.Sound
  nodeId : st.options.nodeId = p.nodeId d
  secret : st.options.sharedSecret = p.sharedSecret
  channel : st.channelsByNodeId.get (p.nodeId d.other) =
    channelOf heard (st.readyState (.outbound 0)) (st.readyState (.inbound 0))
  bound : ∀ s, st.channelsByNodeId.get (p.nodeId d.other) = some s →
    st.nodeIdBySocket.get s = some (p.nodeId d.other)
  attempt : st.attempts.get (.outbound 0) = some ⟨p.nodeId d.other, decide (.ack ∈ heard)⟩
  dialled : 0 < st.nextOutbound
  connecting : .ack ∈ heard → st.connectingByNodeId.get (p.nodeId d.other) = none

/-- The `hello` of a node, and its answer to one. -/
def hello (p : ClusterPair) (d : Side) : ClusterSocketMessage := .hello (p.nodeId d) p.sharedSecret
def helloAck (p : ClusterPair) (d : Side) : ClusterSocketMessage := .helloAck (p.nodeId d)

theorem parse_hello (p : ClusterPair) (d : Side) :
    parseClusterSocketMessage (hello p d).toJson.stringify = some (hello p d) :=
  ClusterSocketMessage.parse_hello (p.named d) p.secret

theorem parse_helloAck (p : ClusterPair) (d : Side) :
    parseClusterSocketMessage (helloAck p d).toJson.stringify = some (helloAck p d) :=
  ClusterSocketMessage.parse_helloAck (p.named d)

/-- A node that has its peer, before it dials. -/
def listing (p : ClusterPair) (d : Side) : ClusterNetwork :=
  { ClusterNetwork.create { nodeId := p.nodeId d, sharedSecret := p.sharedSecret } with
    peersByNodeId := JsMap.empty.set (p.nodeId d.other) ⟨p.nodeId d.other, p.baseUrl d.other⟩ }

theorem start_node (p : ClusterPair) (d : Side) : (start p).node d =
    (listing p d).connect ⟨p.nodeId d.other, p.baseUrl d.other⟩ ⟨p.nodeId d.other, .warm⟩ := by
  show (listing p d).ensureChannel (p.nodeId d.other) .warm = _
  have hpeer : (listing p d).peersByNodeId.get (p.nodeId d.other) =
      some ⟨p.nodeId d.other, p.baseUrl d.other⟩ := JsMap.get_set_self _ _ _
  unfold ensureChannel
  rw [show ((listing p d).channelsByNodeId.get (p.nodeId d.other)).filter _ = none from rfl,
    show (listing p d).connectingByNodeId.get (p.nodeId d.other) = none from rfl, hpeer]
  rfl

theorem stands_start (p : ClusterPair) (d : Side) : Stands p d ((start p).node d) [] := by
  have hsound : ((start p).node d).Sound := by
    unfold start
    dsimp only
    exact (step_evolves (step_evolves (sound_create _) _).sound _).sound
  rw [start_node] at hsound ⊢
  exact {
    sound := hsound
    nodeId := rfl
    secret := rfl
    channel := rfl
    bound := fun s hs => by cases hs
    attempt := JsMap.get_set_self _ _ _
    dialled := Nat.one_pos
    connecting := by simp }

/-- What `registerChannel` leaves: the socket is the channel of the node, the one before it is being
closed, and what is about the dialling stays. -/
structure Registers (st st' : ClusterNetwork) (nodeId : JsString) (socket : SocketId) : Prop where
  channel : st'.channelsByNodeId.get nodeId = some socket
  bound : st'.nodeIdBySocket.get socket = some nodeId
  ready : ∀ s, st'.readyState s =
    if st.channelsByNodeId.get nodeId = some s ∧ s ≠ socket ∧ st.readyState s ≠ .closed then
      .closing
    else st.readyState s
  attempts : st'.attempts = st.attempts
  nextOutbound : st'.nextOutbound = st.nextOutbound
  connecting : st'.connectingByNodeId = st.connectingByNodeId

theorem registers_of_tables {st' : ClusterNetwork} {nodeId : JsString} {socket : SocketId}
    (h : st'.tables = (st.registerChannel nodeId socket).tables) :
    Registers st st' nodeId socket where
  channel := by
    rw [eq_of_tables channelsByNodeId (fun _ => rfl) h]
    exact JsMap.get_set_self _ _ _
  bound := by
    rw [eq_of_tables nodeIdBySocket (fun _ => rfl) h]
    exact JsMap.get_set_self _ _ _
  ready s := (readyState_of_tables h s).trans (readyState_registerChannel _ _ s)
  attempts := (eq_of_tables ClusterNetwork.attempts (fun _ => rfl) h).trans
    (registerChannel_attempts _ _)
  nextOutbound := (eq_of_tables ClusterNetwork.nextOutbound (fun _ => rfl) h).trans
    (registerChannel_same _ (fun _ _ _ => rfl) (fun _ _ _ => rfl) _ _)
  connecting := (eq_of_tables connectingByNodeId (fun _ => rfl) h).trans
    (registerChannel_same _ (fun _ _ _ => rfl) (fun _ _ _ => rfl) _ _)

/-- A node hears the `hello` of the other one. -/
theorem Stands.hears_hello (h : Stands p d st heard) (hin : st.readyState (.inbound 0) = .open)
    (hh : heard = [] ∨ heard = [.ack] ∧ st.readyState (.outbound 0) = .open) :
    let st' := st.step (.messageServerSocket 0 (hello p d.other).toJson.stringify)
    Stands p d st' (heard ++ [.hello]) ∧
      st'.readyState (.inbound 0) = .open ∧
      st'.readyState (.outbound 0) = (if heard = [] then st.readyState (.outbound 0) else .closing) ∧
      (∀ w : Wire, w.transmit (.inbound 0) st'.effects =
        w.push (.frame (helloAck p d).toJson.stringify)) ∧
      ∀ w : Wire, w.transmit (.outbound 0) st'.effects =
        if heard = [] then w else w.push .close := by
  intro st'
  have hsound : st'.Sound := (step_evolves h.sound _).sound
  have hoptions : st'.options = st.options := (step_evolves h.sound _).options
  have hstep : st' = (st.cleared.registerChannel (p.nodeId d.other) (.inbound 0)
      |>.notePeerAlive (p.nodeId d.other) (js "hello")).sendMessage (.inbound 0)
        (helloAck p d) := by
    show st.step _ = _
    rw [show st.step (.messageServerSocket 0 (hello p d.other).toJson.stringify) =
      st.cleared.handleIncomingMessage (.inbound 0) _ from if_pos hin,
      handleIncomingMessage_of_parse (parse_hello p d.other), hello, handleMessage_hello,
      handleHello, if_neg fun hc => hc.2 h.secret.symm, helloAck, ← h.nodeId]
    rfl
  have hregisters : Registers st.cleared st' (p.nodeId d.other) (.inbound 0) :=
    registers_of_tables (by rw [hstep, tables_sendMessage, tables_notePeerAlive])
  have hchannel : st.cleared.channelsByNodeId.get (p.nodeId d.other) =
      if heard = [] then none else some (.outbound 0) := by
    show st.channelsByNodeId.get _ = _
    rw [h.channel]
    rcases hh with rfl | ⟨rfl, ho⟩
    · rfl
    · simp [channelOf, ho]
  have hin' : st'.readyState (.inbound 0) = .open := by
    rw [hregisters.ready, if_neg fun hc => hc.2.1 rfl]
    exact hin
  have heffects : st'.effects = (if heard = [] then [] else
      [.close (.outbound 0) 1000 (js "cluster channel replaced")]) ++
      [.markAlive (p.nodeId d.other) (js "hello"), .send (.inbound 0) (helloAck p d)] := by
    rw [hstep, effects_sendMessage, effects_notePeerAlive, effects_registerChannel, hchannel]
    rcases hh with rfl | ⟨rfl, -⟩
    · rfl
    · rfl
  refine ⟨⟨hsound, by rw [hoptions, h.nodeId], by rw [hoptions, h.secret], ?_, fun s hs => ?_,
    ?_, ?_, fun ha => ?_⟩, hin', ?_, fun w => ?_, fun w => ?_⟩
  · rw [channelOf, List.getLast?_concat, hin']
    exact hregisters.channel
  · obtain rfl := Option.some.inj (hregisters.channel.symm.trans hs)
    exact hregisters.bound
  · rw [hregisters.attempts]
    exact h.attempt.trans (by simp)
  · rw [hregisters.nextOutbound]
    exact h.dialled
  · rw [hregisters.connecting]
    exact h.connecting (by simpa using ha)
  · rw [hregisters.ready, hchannel]
    rcases hh with rfl | ⟨rfl, ho⟩
    · rfl
    · refine (if_pos ⟨if_neg (by simp), by simp, ?_⟩).trans (if_neg (by simp)).symm
      rw [show st.cleared.readyState (.outbound 0) = .open from ho]
      exact ReadyState.noConfusion
  · rw [heffects]
    rcases hh with rfl | ⟨rfl, -⟩
    · rfl
    · rfl
  · rw [heffects]
    rcases hh with rfl | ⟨rfl, -⟩
    · rfl
    · rfl

/-- A node hears the `helloAck` on the socket that it dialled. -/
theorem Stands.hears_ack (h : Stands p d st heard) (hout : st.readyState (.outbound 0) = .open)
    (hh : heard = [] ∨ heard = [.hello]) :
    let st' := st.step (.socketMessage 0 (helloAck p d.other).toJson.stringify)
    let alone := heard = [] ∨ st.readyState (.inbound 0) = .closed
    Stands p d st' (heard ++ [.ack]) ∧
      st'.readyState (.outbound 0) = .open ∧
      st'.readyState (.inbound 0) = (if alone then st.readyState (.inbound 0) else .closing) ∧
      (∀ w : Wire, w.transmit (.outbound 0) st'.effects = w) ∧
      ∀ w : Wire, w.transmit (.inbound 0) st'.effects = if alone then w else w.push .close := by
  intro st' alone
  have hsound : st'.Sound := (step_evolves h.sound _).sound
  have hoptions : st'.options = st.options := (step_evolves h.sound _).options
  have hack : (.ack : Handshake) ∉ heard := by rcases hh with rfl | rfl <;> simp
  -- the network before and after `registerChannel`
  obtain ⟨st₁, hst₁⟩ : ∃ st₁, st₁ = (st.cleared.bindSocket (.outbound 0)
    (p.nodeId d.other)).notePeerAlive (p.nodeId d.other) (js "hello_ack") := ⟨_, rfl⟩
  have htables₁ : st₁.tables = (st.bindSocket (.outbound 0) (p.nodeId d.other)).tables := by
    rw [hst₁, tables_notePeerAlive]
    rfl
  have hready₁ (s : SocketId) : st₁.readyState s = st.readyState s :=
    readyState_of_tables htables₁ s
  have hattempt₁ : st₁.attempts.get (.outbound 0) = some ⟨p.nodeId d.other, false⟩ := by
    rw [eq_of_tables attempts (fun _ => rfl) htables₁]
    exact h.attempt.trans (by simp [hack])
  obtain ⟨st₂, hst₂⟩ : ∃ st₂, st₂ = (st₁.registerChannel (p.nodeId d.other)
    (.outbound 0)).notePeerAlive (p.nodeId d.other) (js "hello_ack") := ⟨_, rfl⟩
  have hregisters : Registers st₁ st₂ (p.nodeId d.other) (.outbound 0) :=
    registers_of_tables (by rw [hst₂, tables_notePeerAlive])
  have hattempt₂ : st₂.attempts.get (.outbound 0) = some ⟨p.nodeId d.other, false⟩ := by
    rw [hregisters.attempts]
    exact hattempt₁
  have hstep : st' = ClusterNetwork.settleWaiting { st₂ with
      attempts := st₂.attempts.set (.outbound 0) ⟨p.nodeId d.other, true⟩
      connectingByNodeId := st₂.connectingByNodeId.delete (p.nodeId d.other) }
      (.outbound 0) (.ok (.outbound 0)) := by
    show st.step _ = _
    rw [show st.step (.socketMessage 0 (helloAck p d.other).toJson.stringify) =
      st.cleared.handleIncomingMessage (.outbound 0) _ from if_pos hout,
      handleIncomingMessage_of_parse (parse_helloAck p d.other), helloAck, handleMessage_helloAck,
      handleHelloAck, ← hst₁, onHelloAck, hattempt₁]
    dsimp only
    rw [if_neg (by simp), ← hst₂, finishResolve, hattempt₂]
    exact if_neg (by simp)
  have hchannel : st₁.channelsByNodeId.get (p.nodeId d.other) =
      if alone then none else some (.inbound 0) := by
    rw [eq_of_tables channelsByNodeId (fun _ => rfl) htables₁]
    show st.channelsByNodeId.get _ = _
    rw [h.channel]
    rcases hh with rfl | rfl
    · exact (if_pos (.inl rfl)).symm
    · simp [channelOf, alone]
  have hready (s : SocketId) : st'.readyState s =
      if (if alone then none else some (.inbound 0)) = some s ∧ s ≠ .outbound 0 ∧
        st.readyState s ≠ .closed then .closing else st.readyState s := by
    rw [← hchannel, ← hready₁ s, ← hregisters.ready, hstep]
    rfl
  have hout' : st'.readyState (.outbound 0) = .open := by
    rw [hready, if_neg fun hc => hc.2.1 rfl]
    exact hout
  have heffects : st'.effects = [.markAlive (p.nodeId d.other) (js "hello_ack")] ++
      ((if alone then [] else [.close (.inbound 0) 1000 (js "cluster channel replaced")]) ++
      [.markAlive (p.nodeId d.other) (js "hello_ack")]) := by
    rw [hstep]
    show st₂.effects = _
    rw [hst₂, effects_notePeerAlive, effects_registerChannel, hchannel, hst₁,
      effects_notePeerAlive]
    by_cases ha : alone
    · rw [if_pos ha, if_pos ha]
      rfl
    · rw [if_neg ha, if_neg ha]
      rfl
  refine ⟨⟨hsound, by rw [hoptions, h.nodeId], by rw [hoptions, h.secret], ?_, fun s hs => ?_,
    ?_, ?_, fun _ => ?_⟩, hout', ?_, fun w => ?_, fun w => ?_⟩
  · rw [channelOf, List.getLast?_concat, hout', hstep]
    exact hregisters.channel
  · rw [hstep] at hs ⊢
    obtain rfl := Option.some.inj (hregisters.channel.symm.trans hs)
    exact hregisters.bound
  · rw [hstep]
    exact (JsMap.get_set_self _ _ _).trans (by simp)
  · rw [hstep]
    show 0 < st₂.nextOutbound
    rw [hregisters.nextOutbound, eq_of_tables nextOutbound (fun _ => rfl) htables₁]
    exact h.dialled
  · rw [hstep]
    exact JsMap.get_delete_self _ _
  · rw [hready]
    by_cases ha : alone
    · rw [if_pos ha, if_pos ha, if_neg fun hc => by cases hc.1]
    · rw [if_neg ha, if_neg ha, if_pos ⟨rfl, by simp, fun hc => ha (.inr hc)⟩]
  · rw [heffects]
    by_cases ha : alone
    · rw [if_pos ha]
      rfl
    · rw [if_neg ha]
      rfl
  · rw [heffects]
    by_cases ha : alone
    · rw [if_pos ha, if_pos ha]
      rfl
    · rw [if_neg ha, if_neg ha]
      rfl

/-- The effects that leave the wires alone. -/
theorem transmit_of_quiet {L : List ClusterEffect}
    (h : ∀ c ∈ L, (∀ s m, c ≠ .send s m) ∧ ¬c.Closes) (w : Wire) (s : SocketId) :
    w.transmit s L = w := by
  induction L with
  | nil => rfl
  | cons c L ih =>
    have hc := h c List.mem_cons_self
    have ih' := ih fun c hc => h c (List.mem_cons_of_mem _ hc)
    cases c with
    | send s m => exact absurd rfl (hc.1 s m)
    | close s code reason => exact absurd trivial hc.2
    | _ => exact ih'

/-- The channel after the close event of a socket. -/
theorem channelOf_closed {heard : List Handshake} {out inn out' inn' : ReadyState}
    {socket : SocketId} (hsocket : socket = .inbound 0 ∧ inn' = .closed ∧ out' = out ∨
      socket = .outbound 0 ∧ out' = .closed ∧ inn' = inn) :
    channelOf heard out' inn' =
      if channelOf heard out inn = some socket then none else channelOf heard out inn := by
  unfold channelOf
  cases heard.getLast? with
  | none => rfl
  | some h =>
    cases h with
    | hello =>
      rcases hsocket with ⟨rfl, rfl, rfl⟩ | ⟨rfl, rfl, rfl⟩
      · by_cases hc : inn = .closed <;> simp [hc]
      · by_cases hc : inn' = .closed <;> simp [hc]
    | ack =>
      rcases hsocket with ⟨rfl, rfl, rfl⟩ | ⟨rfl, rfl, rfl⟩
      · by_cases hc : out' = .closed <;> simp [hc]
      · by_cases hc : out = .closed <;> simp [hc]

/-- The tables after the close event of a socket, as far as they are about one node. -/
theorem unregisterSocket_peer {st : ClusterNetwork} (hs : st.Sound) {socket : SocketId}
    {nodeId : JsString}
    (hb : st.channelsByNodeId.get nodeId = some socket → st.nodeIdBySocket.get socket = some nodeId) :
    (st.unregisterSocket socket).channelsByNodeId.get nodeId =
        (if st.channelsByNodeId.get nodeId = some socket then none
          else st.channelsByNodeId.get nodeId) ∧
      (∀ s, s ≠ socket →
        (st.unregisterSocket socket).nodeIdBySocket.get s = st.nodeIdBySocket.get s) ∧
      (st.unregisterSocket socket).nextOutbound = st.nextOutbound ∧
      (st.unregisterSocket socket).options = st.options ∧
      ∀ s, (st.unregisterSocket socket).readyState s = st.readyState s := by
  cases hbound : st.nodeIdBySocket.get socket with
  | none =>
    rw [show st.unregisterSocket socket = st by rw [unregisterSocket, hbound]]
    refine ⟨(if_neg fun hc => ?_).symm, fun _ _ => rfl, rfl, rfl, fun _ => rfl⟩
    rw [hb hc] at hbound
    cases hbound
  | some n =>
    have htables := tables_unregisterSocket hbound (hs.bound _ _ hbound)
    refine ⟨?_, fun s hne => ?_, by rw [eq_of_tables nextOutbound (fun _ => rfl) htables],
      by rw [eq_of_tables options (fun _ => rfl) htables], fun s => readyState_of_tables htables s⟩
    · rw [eq_of_tables channelsByNodeId (fun _ => rfl) htables]
      dsimp only
      by_cases hn : nodeId = n
      · subst hn
        by_cases hc : st.channelsByNodeId.get nodeId = some socket
        · rw [if_pos hc, if_pos hc]
          exact JsMap.get_delete_self _ _
        · rw [if_neg hc, if_neg hc]
      · have hother : ¬st.channelsByNodeId.get nodeId = some socket := fun hc => by
          rw [hb hc] at hbound
          exact hn (Option.some.inj hbound)
        rw [if_neg hother]
        split_ifs
        · exact JsMap.get_delete_of_ne _ hn
        · rfl
    · rw [eq_of_tables nodeIdBySocket (fun _ => rfl) htables]
      exact JsMap.get_delete_of_ne _ hne

/-- The close event of a socket: its node loses the channel over it, and sends nothing. -/
theorem Stands.closes (h : Stands p d st heard) {socket : SocketId} (hsocket : socket = .inbound 0 ∨
      socket = .outbound 0) {st' : ClusterNetwork} (hst' : st'.Sound)
    (heq : st' = (st.cleared.setReadyState socket .closed).unregisterSocket socket) :
    Stands p d st' heard ∧
      (∀ s, st'.readyState s = if s = socket then .closed else st.readyState s) ∧
      ∀ (w : Wire) (s : SocketId), w.transmit s st'.effects = w := by
  have hclosed := (closed_evolves (t := none) (cleared_evolves (t := none) h.sound).sound
    socket).sound
  have hchannel : (st.cleared.setReadyState socket .closed).channelsByNodeId.get
      (p.nodeId d.other) = channelOf heard (st.readyState (.outbound 0))
        (st.readyState (.inbound 0)) := h.channel
  obtain ⟨hget, hbound, hnext, hoptions, hready⟩ := @unregisterSocket_peer
    (st.cleared.setReadyState socket .closed) hclosed socket (p.nodeId d.other)
    fun hc => h.bound _ hc
  have hstates (s : SocketId) :
      st'.readyState s = if s = socket then .closed else st.readyState s := by
    rw [heq, hready, readyState_setReadyState]
    rfl
  obtain ⟨hattempts, hconnecting⟩ := @unregisterSocket_tables
    (st.cleared.setReadyState socket .closed) socket
  refine ⟨⟨hst', ?_, ?_, ?_, fun s hs => ?_, ?_, ?_, fun ha => ?_⟩, hstates, fun w s => ?_⟩
  · rw [heq, hoptions]
    exact h.nodeId
  · rw [heq, hoptions]
    exact h.secret
  · rw [hstates, hstates, heq, hget, hchannel]
    refine (channelOf_closed ?_).symm
    rcases hsocket with rfl | rfl
    · exact .inl ⟨rfl, if_pos rfl, if_neg (by simp)⟩
    · exact .inr ⟨rfl, if_pos rfl, if_neg (by simp)⟩
  · rw [heq, hget] at hs
    split_ifs at hs with hc
    have hne : s ≠ socket := by
      rintro rfl
      exact hc hs
    rw [heq, hbound s hne]
    exact h.bound s hs
  · rw [heq, hattempts]
    exact h.attempt
  · rw [heq, hnext]
    exact h.dialled
  · rw [heq, hconnecting]
    exact h.connecting ha
  · refine transmit_of_quiet (fun c hc => ?_) w s
    rw [heq] at hc
    rcases unregisterSocket_cases hclosed socket with ⟨-, hsame⟩ | ⟨n, -, heffects⟩
    · rw [hsame] at hc
      cases hc
    · rw [heffects, show (st.cleared.setReadyState socket .closed).effects = [] from rfl,
        List.nil_append, List.mem_cons] at hc
      rcases hc with rfl | hc
      · exact ⟨fun _ _ hcase => (by cases hcase), id⟩
      · obtain ⟨e, -, rfl⟩ := List.mem_map.1 hc
        exact ⟨fun _ _ hcase => (by cases hcase), id⟩

end Node

end Crossing

end Hardess
