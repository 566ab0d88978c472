import Hardess.Cluster.NetworkEffects
import Hardess.Cluster.NetworkStep

/-!
# The gate of the inbound sockets

Which frames of a socket that the server accepted get past `channel not authenticated`.

* `GateRecord` follows the network and keeps which inbound sockets sent a `hello` with the shared
  secret, and which sent a `helloAck`;
* `Gated`: a frame other than a handshake frame is refused unless the socket sent such a `hello`;
* `gate_iff`: along a run this holds exactly when no such frame comes in on a socket that has only
  claimed a node by a `helloAck`.
-/

namespace Hardess

open ClusterNetwork (Event Sound Evolves)

/-- A network, with the inbound sockets on which a handshake frame came in. -/
structure GateRecord where
  network : ClusterNetwork
  greeted : ℕ → Prop := fun _ => False
  claimed : ℕ → Prop := fun _ => False

namespace GateRecord

/-- A new network, before any frame. -/
def create (options : ClusterNetworkOptions) : GateRecord := { network := .create options }

/-- The frame is a `hello` with the shared secret. -/
def greets (st : ClusterNetwork) (raw : JsString) : Bool :=
  match parseClusterSocketMessage raw with
  | some (.hello _ secret) => secret = st.options.sharedSecret
  | _ => false

/-- The frame is a `helloAck`. -/
def claims (raw : JsString) : Bool :=
  match parseClusterSocketMessage raw with
  | some (.helloAck _) => true
  | _ => false

/-- The event is a frame on the open inbound socket `n`. -/
def Arrives (st : ClusterNetwork) (n : ℕ) (raw : JsString) (e : Event) : Prop :=
  e = .messageServerSocket n raw ∧ st.readyState (.inbound n) = .open

/-- One event, with the handshake frames recorded. -/
def step (r : GateRecord) (e : Event) : GateRecord where
  network := r.network.step e
  greeted n := r.greeted n ∨ ∃ raw, Arrives r.network n raw e ∧ greets r.network raw = true
  claimed n := r.claimed n ∨ ∃ raw, Arrives r.network n raw e ∧ claims raw = true

/-- A well-formed frame other than `hello` and `helloAck`. -/
def NeedsChannel (raw : JsString) : Prop :=
  ∃ m, parseClusterSocketMessage raw = some m ∧ ClusterNetwork.isHandshake m = false

/-- All that happens is that the socket is closed. -/
def Refused (st : ClusterNetwork) (n : ℕ) (raw : JsString) : Prop :=
  st.step (.messageServerSocket n raw) =
    st.cleared.closeSocket (.inbound n) 4401 (js "cluster channel not authenticated")

/-- A frame other than a handshake frame is refused on an inbound socket that sent no `hello` with
the shared secret before. -/
def Gated (r : GateRecord) (e : Event) : Prop :=
  ∀ n raw, Arrives r.network n raw e → NeedsChannel raw → ¬r.greeted n → Refused r.network n raw

/-- No such frame comes in on a socket that claimed a node by a `helloAck` instead. -/
def Unclaimed (r : GateRecord) (e : Event) : Prop :=
  ∀ n raw, Arrives r.network n raw e → NeedsChannel raw → ¬r.greeted n → ¬r.claimed n

/-! ### The invariant -/

/-- An inbound socket has a node only by a handshake frame, and keeps it while it is open. -/
structure Valid (r : GateRecord) : Prop where
  sound : r.network.Sound
  secret : (r.network.options.sharedSecret.filter (· ≠ [])).isSome
  bound : ∀ n nodeId, r.network.nodeIdBySocket.get (.inbound n) = some nodeId →
    r.greeted n ∨ r.claimed n
  claimed_ready : ∀ n, r.claimed n → r.network.readyState (.inbound n) ≠ .connecting
  claimed_bound : ∀ n, r.claimed n → r.network.readyState (.inbound n) = .open →
    ∃ nodeId, r.network.nodeIdBySocket.get (.inbound n) = some nodeId

theorem valid_create {options : ClusterNetworkOptions}
    (h : (options.sharedSecret.filter (· ≠ [])).isSome) : (create options).Valid where
  sound := ClusterNetwork.sound_create options
  secret := h
  bound n nodeId hn := by cases hn
  claimed_ready n hn := by cases hn
  claimed_bound n hn := by cases hn

/-- A socket that is open after an event was open before, unless it was connecting. -/
theorem open_of_ages {st st' : ClusterNetwork} {s : SocketId}
    (hage : (st.readyState s).age ≤ (st'.readyState s).age) (hc : st.readyState s ≠ .connecting)
    (ho : st'.readyState s = .open) : st.readyState s = .open := by
  rw [ho] at hage
  rcases hr : st.readyState s with _ | _ | _ | _
  · exact absurd hr hc
  · rfl
  · rw [hr] at hage
    simp [ReadyState.age] at hage
  · rw [hr] at hage
    simp [ReadyState.age] at hage

theorem step_message {st : ClusterNetwork} {n : ℕ} {raw : JsString}
    (ho : st.readyState (.inbound n) = .open) : st.step (.messageServerSocket n raw) =
      st.cleared.handleIncomingMessage (.inbound n) raw := if_pos ho

theorem step_message_of_not_open {st : ClusterNetwork} {n : ℕ} {raw : JsString}
    (ho : st.readyState (.inbound n) ≠ .open) :
    st.step (.messageServerSocket n raw) = st.cleared := if_neg ho

/-- `onHelloAck` is a hook of the outgoing sockets. -/
theorem onHelloAck_inbound {st : ClusterNetwork} (h : st.Sound) (n : ℕ) (nodeId : JsString) :
    st.onHelloAck (.inbound n) nodeId = st := by
  unfold ClusterNetwork.onHelloAck
  cases ha : st.attempts.get (.inbound n) with
  | none => rfl
  | some a =>
    obtain ⟨k, -, hk⟩ := h.attempt _ a ha
    cases hk

/-- The tables after a correct `hello`. -/
theorem tables_handleHello {st : ClusterNetwork} {socket : SocketId} {secret : Option JsString}
    (hs : secret = st.options.sharedSecret) (nodeId : JsString) :
    (st.handleHello socket nodeId secret).tables = (st.registerChannel nodeId socket).tables := by
  unfold ClusterNetwork.handleHello
  rw [if_neg fun h => h.2 hs]
  simp

theorem tables_handleHelloAck {st : ClusterNetwork} (h : st.Sound) (n : ℕ) {nodeId : JsString}
    (hn : nodeId ≠ []) :
    (st.handleHelloAck (.inbound n) nodeId).tables =
      (st.bindSocket (.inbound n) nodeId).tables := by
  have hbind := ClusterNetwork.bindSocket_evolves h hn (.inbound n)
  have hnote := Evolves.of_tables (t := none) hbind.sound
    (ClusterNetwork.tables_notePeerAlive nodeId (js "hello_ack"))
  unfold ClusterNetwork.handleHelloAck
  rw [onHelloAck_inbound hnote.sound]
  exact ClusterNetwork.tables_notePeerAlive _ _

/-- A correct `hello` and any `helloAck` bind the socket. -/
theorem handleIncomingMessage_binds {st : ClusterNetwork} (h : st.Sound)
    {n : ℕ} {raw : JsString} (hraw : greets st raw = true ∨ claims raw = true) :
    ∃ nodeId, (st.handleIncomingMessage (.inbound n) raw).nodeIdBySocket.get (.inbound n) =
      some nodeId := by
  unfold greets claims at hraw
  cases hp : parseClusterSocketMessage raw with
  | none => simp [hp] at hraw
  | some m =>
    rw [ClusterNetwork.handleIncomingMessage_of_parse hp]
    cases m with
    | hello nodeId secret =>
      have hs : secret = st.options.sharedSecret := by simpa [hp] using hraw
      refine ⟨nodeId, ?_⟩
      rw [ClusterNetwork.handleMessage_hello, ClusterNetwork.eq_of_tables
        (fun st => st.nodeIdBySocket.get (.inbound n)) (fun _ => rfl) (tables_handleHello hs nodeId)]
      exact JsMap.get_set_self _ _ _
    | helloAck nodeId =>
      refine ⟨nodeId, ?_⟩
      rw [ClusterNetwork.handleMessage_helloAck, ClusterNetwork.eq_of_tables
        (fun st => st.nodeIdBySocket.get (.inbound n)) (fun _ => rfl)
        (tables_handleHelloAck h n (ClusterSocketMessage.announced_ne_nil hp rfl))]
      exact JsMap.get_set_self _ _ _
    | _ => simp [hp] at hraw

/-- Any other frame leaves the nodes of the sockets alone. -/
theorem handleIncomingMessage_unbound {st : ClusterNetwork} (h : st.Sound)
    (hsecret : (st.options.sharedSecret.filter (· ≠ [])).isSome) {n : ℕ} {raw : JsString}
    (hgreets : ¬greets st raw) (hclaims : ¬claims raw) (s : SocketId) :
    (st.handleIncomingMessage (.inbound n) raw).nodeIdBySocket.get s =
      st.nodeIdBySocket.get s := by
  have hclose (code : ℕ) (reason : JsString) :=
    (ClusterNetwork.closeSocket_evolves (t := none) h (.inbound n) code reason).unbound s (by simp)
  unfold greets at hgreets
  unfold claims at hclaims
  cases hp : parseClusterSocketMessage raw with
  | none =>
    rw [ClusterNetwork.handleIncomingMessage, hp]
    exact hclose _ _
  | some m =>
    rw [ClusterNetwork.handleIncomingMessage_of_parse hp]
    by_cases hm : ClusterNetwork.isHandshake m = false
    · rw [ClusterNetwork.handleMessage_of_not_handshake hm]
      split_ifs
      · exact hclose _ _
      · exact (ClusterNetwork.handleChannelMessage_evolves (t := none) h _ _ _).unbound s (by simp)
    · cases m with
      | hello nodeId secret =>
        -- the secret is wrong, for the frame does not greet
        have hs : secret ≠ st.options.sharedSecret := by simpa [hp] using hgreets
        rw [ClusterNetwork.handleMessage_hello, ClusterNetwork.handleHello, if_pos ⟨hsecret, hs⟩]
        exact hclose _ _
      | helloAck nodeId => simp [hp] at hclaims
      | _ => exact absurd rfl hm

/-- A closed inbound socket has no node. -/
theorem closeServerSocket_spec {st : ClusterNetwork} (h : st.Sound) (n : ℕ) :
    st.closeServerSocket n = st ∨
      (st.closeServerSocket n).nodeIdBySocket.get (.inbound n) = none ∧
        (st.closeServerSocket n).readyState (.inbound n) ≠ .open := by
  unfold ClusterNetwork.closeServerSocket
  split_ifs with hr
  · right
    have hclosed := ClusterNetwork.closed_evolves (t := some (.inbound n)) h (.inbound n)
    have hr₁ : (st.setReadyState (.inbound n) .closed).readyState (.inbound n) = .closed := by
      rw [ClusterNetwork.readyState_setReadyState, if_pos rfl]
    generalize st.setReadyState (.inbound n) .closed = st₁ at hclosed hr₁
    have hgone := ClusterNetwork.unregisterSocket_evolves hclosed.sound
      (show st₁.readyState (.inbound n) ≠ .open by rw [hr₁]; exact ReadyState.noConfusion)
    constructor
    · unfold ClusterNetwork.unregisterSocket
      cases hn : st₁.nodeIdBySocket.get (.inbound n) with
      | none => exact hn
      | some k =>
        dsimp only
        rw [if_neg (hclosed.sound.bound _ _ hn)]
        exact JsMap.get_delete_self _ _
    · intro ho
      -- a socket that is closed never opens again
      have hage := hgone.ages (.inbound n)
      rw [ho, hr₁] at hage
      simp [ReadyState.age] at hage
  · exact .inl rfl

/-- What an event does to the node of an inbound socket. -/
theorem step_bound {r : GateRecord} (hr : r.Valid) (n : ℕ) (e : Event) :
    (r.network.step e).nodeIdBySocket.get (.inbound n) =
      r.network.nodeIdBySocket.get (.inbound n) ∧
        (∀ raw, Arrives r.network n raw e → ¬claims raw) ∨
    (∃ raw, Arrives r.network n raw e ∧ (greets r.network raw = true ∨ claims raw = true) ∧
      ∃ nodeId, (r.network.step e).nodeIdBySocket.get (.inbound n) = some nodeId) ∨
    ((r.network.step e).nodeIdBySocket.get (.inbound n) = none ∧
      (r.network.step e).readyState (.inbound n) ≠ .open) := by
  have hclear := (ClusterNetwork.cleared_evolves (t := none) hr.sound).sound
  -- only a frame on the socket and its close touch it
  by_cases ht : e.touched = some (.inbound n)
  · cases e with
    | messageServerSocket k raw =>
      obtain rfl : k = n := by simpa [Event.touched] using ht
      by_cases ho : r.network.readyState (.inbound k) = .open
      · rw [step_message ho]
        by_cases hraw : greets r.network raw = true ∨ claims raw = true
        · exact .inr (.inl ⟨raw, ⟨rfl, ho⟩, hraw, handleIncomingMessage_binds hclear hraw⟩)
        · rw [not_or] at hraw
          refine .inl ⟨handleIncomingMessage_unbound hclear hr.secret hraw.1 hraw.2 _, ?_⟩
          rintro _ ⟨heq, -⟩
          cases heq
          exact hraw.2
      · rw [step_message_of_not_open ho]
        exact .inl ⟨rfl, fun raw ha => absurd ha.2 ho⟩
    | closeServerSocket k =>
      obtain rfl : k = n := by simpa [Event.touched] using ht
      rcases closeServerSocket_spec hclear k with heq | hgone
      · refine .inl ⟨?_, fun raw ha => by cases ha.1⟩
        show (r.network.cleared.closeServerSocket k).nodeIdBySocket.get _ = _
        rw [heq]
        rfl
      · exact .inr (.inr hgone)
    | _ => simp [Event.touched] at ht
  · refine .inl ⟨(ClusterNetwork.step_evolves hr.sound e).unbound _ ht, ?_⟩
    rintro raw ⟨rfl, -⟩
    exact absurd rfl ht

theorem valid_step {r : GateRecord} (hr : r.Valid) (e : Event) : (r.step e).Valid := by
  have hev := ClusterNetwork.step_evolves hr.sound e
  refine ⟨hev.sound, ?_, fun n nodeId hn => ?_, fun n hn => ?_, fun n hn ho => ?_⟩
  · show ((r.network.step e).options.sharedSecret.filter _).isSome
    rw [hev.options]
    exact hr.secret
  · -- a node is bound by a frame that greets or claims, now or before
    rcases step_bound hr n e with ⟨hsame, -⟩ | ⟨raw, ha, hraw, -⟩ | ⟨hnone, -⟩
    · exact (hr.bound n nodeId (hsame ▸ hn)).imp .inl .inl
    · exact hraw.imp (fun hg => .inr ⟨raw, ha, hg⟩) fun hc => .inr ⟨raw, ha, hc⟩
    · rw [show (r.step e).network = r.network.step e from rfl, hnone] at hn
      cases hn
  · -- a frame comes in on an open socket only
    have hc : r.network.readyState (.inbound n) ≠ .connecting := by
      rcases hn with hn | ⟨raw, ha, -⟩
      · exact hr.claimed_ready n hn
      · rw [ha.2]
        exact ReadyState.noConfusion
    rw [ReadyState.age_pos] at hc ⊢
    exact hc.trans_le (hev.ages _)
  · rcases step_bound hr n e with ⟨hsame, hclaims⟩ | ⟨raw, ha, hraw, hb⟩ | ⟨-, hno⟩
    · rcases hn with hn | ⟨raw, ha, hc⟩
      · obtain ⟨nodeId, hb⟩ := hr.claimed_bound n hn
          (open_of_ages (hev.ages _) (hr.claimed_ready n hn) ho)
        exact ⟨nodeId, hsame.trans hb⟩
      · exact absurd hc (hclaims raw ha)
    · exact hb
    · exact absurd ho hno

/-! ### The gate -/

theorem gated_iff_unclaimed {r : GateRecord} (hr : r.Valid) (e : Event) :
    r.Gated e ↔ r.Unclaimed e := by
  refine forall₂_congr fun n raw => forall_congr' fun ha => forall_congr' fun hm =>
    forall_congr' fun hg => ?_
  obtain ⟨rfl, ho⟩ := ha
  obtain ⟨m, hp, hhs⟩ := hm
  unfold Refused
  rw [step_message ho, ClusterNetwork.handleIncomingMessage_of_parse hp,
    ClusterNetwork.handleMessage_of_not_handshake hhs]
  rcases hb : r.network.nodeIdBySocket.get (.inbound n) with _ | nodeId
  · -- no node, so no claim
    have hb' : r.network.cleared.nodeIdBySocket.get (.inbound n) = none := hb
    rw [hb', Option.getD_none, if_pos rfl]
    refine iff_of_true rfl fun hc => ?_
    obtain ⟨nodeId, hb'⟩ := hr.claimed_bound n hc ho
    rw [hb] at hb'
    cases hb'
  · have hb' : r.network.cleared.nodeIdBySocket.get (.inbound n) = some nodeId := hb
    rw [hb', Option.getD_some, if_neg (hr.sound.bound _ _ hb)]
    refine iff_of_false (fun heq => ?_) fun hno => hno ((hr.bound n nodeId hb).resolve_left hg)
    -- the frame is handled, and its effects close no socket
    have hemits := (ClusterNetwork.handleChannelMessage_emits (.inbound n) nodeId m).mem
      (rfl : r.network.cleared.effects = [])
    rw [heq, ClusterNetwork.effects_closeSocket] at hemits
    exact (hemits _ (List.mem_append_right _ (List.mem_singleton.2 rfl))).1 trivial

/-- **The gate holds along a run exactly when no frame comes in on an inbound socket that only
claimed a node.** -/
theorem gate_iff (options : ClusterNetworkOptions)
    (h : (options.sharedSecret.filter (· ≠ [])).isSome) (es : List Event) :
    Machine.Along step Gated (create options) es ↔
      Machine.Along step Unclaimed (create options) es :=
  ⟨fun hrun => hrun.imp (valid_create h) (fun _ e hr _ => valid_step hr e)
      fun _ e hr hg => (gated_iff_unclaimed hr e).1 hg,
    fun hrun => hrun.imp (valid_create h) (fun _ e hr _ => valid_step hr e)
      fun _ e hr hu => (gated_iff_unclaimed hr e).2 hu⟩

/-- A node with a shared secret. -/
def secured : ClusterNetworkOptions := { nodeId := js "a", sharedSecret := some (js "secret") }

/-- The `helloAck` of a client that does not know the secret. -/
def claim : ClusterSocketMessage := .helloAck (js "b")

/-- A request for the server handlers. -/
def request : ClusterSocketMessage := .handleAck (js "r1") alice (js "m1") none

/-- The client claims to be a node, and then sends the request. -/
def impostor : List Event :=
  [.setServerHandlers, .openServerSocket 0, .messageServerSocket 0 claim.toJson.stringify,
    .messageServerSocket 0 request.toJson.stringify]

theorem gate_iff_secured : (secured.sharedSecret.filter (· ≠ [])).isSome ∧
    (Machine.Along step Gated (create secured) impostor ↔
      Machine.Along step Unclaimed (create secured) impostor) :=
  ⟨by decide, gate_iff secured (by decide) impostor⟩

theorem parse_claim : parseClusterSocketMessage claim.toJson.stringify = some claim :=
  ClusterSocketMessage.parse_helloAck (by decide)

theorem parse_request : parseClusterSocketMessage request.toJson.stringify = some request :=
  (ClusterSocketMessage.parse_stringify_of_wf fun p hp => by cases hp).2
    ⟨⟨by simp, alice_named, by simp, by simp⟩, rfl, fun p hp => by cases hp⟩

/-- The request of a client that never said `hello` is handled. -/
theorem impostor_admitted : ¬∀ options : ClusterNetworkOptions,
    (options.sharedSecret.filter (· ≠ [])).isSome → ∀ es,
      Machine.Along step Gated (create options) es := by
  intro h
  obtain ⟨-, -, -, hgated, -⟩ := h secured (by decide) impostor
  have hvalid : (create secured).Valid := valid_create (by decide)
  have hvalid₂ : (Machine.run step (create secured) (impostor.take 2)).Valid :=
    Machine.run_invariant hvalid (fun _ e hr => valid_step hr e) _
  -- the claim has not closed the socket
  have hopen : (Machine.run step (create secured) (impostor.take 3)).network.readyState
      (.inbound 0) = .open := by
    show ((Machine.run step (create secured) (impostor.take 2)).network.step
      (.messageServerSocket 0 claim.toJson.stringify)).readyState _ = _
    rw [step_message rfl, ClusterNetwork.handleIncomingMessage_of_parse parse_claim, claim,
      ClusterNetwork.handleMessage_helloAck,
      ClusterNetwork.readyState_of_tables (tables_handleHelloAck
        (ClusterNetwork.cleared_evolves (t := none) hvalid₂.sound).sound 0 (by simp))]
    rfl
  refine (gated_iff_unclaimed (Machine.run_invariant hvalid (fun _ e hr => valid_step hr e)
    (impostor.take 3)) _).1 hgated 0 _ ⟨rfl, hopen⟩ ⟨request, parse_request, rfl⟩ ?_ ?_
  · -- no frame before the request has greeted
    rintro (((hg | ⟨raw, ⟨heq, -⟩, -⟩) | ⟨raw, ⟨heq, -⟩, -⟩) | ⟨raw, ⟨heq, -⟩, hg⟩)
    · exact hg
    · cases heq
    · cases heq
    · cases heq
      rw [greets, parse_claim] at hg
      exact Bool.false_ne_true hg
  · exact .inr ⟨_, ⟨rfl, rfl⟩, by rw [claims, parse_claim]; rfl⟩

end GateRecord

end Hardess
