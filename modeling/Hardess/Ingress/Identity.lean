import Hardess.Ingress.WebSocketEvents
import Hardess.Lib.Machine

/-!
# Who receives a message, and who sent it

* `ToRecipients`: an envelope goes to a connection that is authenticated as one of the peers it is
  for; `recipients_kept` proves it of every run in which no target is, or becomes, another peer's;
* `FromSender`: an envelope carries the peer under which its message was allowed;
  `senders_kept` proves it of every run in which no connection changes its peer while a message of
  it is under way.
-/

namespace Hardess

/-- The peers that the fan-out of a call is for. -/
def Call.recipients : Call → List JsString
  | .checking send .. => send.peerIds
  | .delivering request .. => request.targets.map (·.peerId)
  | _ => []

/-- The targets that a call still serves, the one it checks first. -/
def Call.targets : Call → List ConnRef
  | .checking _ _ _ target rest => target :: rest
  | .delivering _ _ _ target rest => target :: rest
  | _ => []

/-- The connection of a message and the peer under which it was allowed, for a call that reads the
peer of that connection again. -/
def Call.speaker : Call → Option (JsString × JsString)
  | .validating connId _ auth => some (connId, auth.peerId)
  | .hooking connId _ auth => some (connId, auth.peerId)
  | .finding send .. => some (send.sender, send.auth.peerId)
  | .locating send _ => some (send.sender, send.auth.peerId)
  | .checking send .. => some (send.sender, send.auth.peerId)
  | .relaying send delivered _ =>
    if delivered = [] ∧ send.retry = false then some (send.sender, send.auth.peerId) else none
  | _ => none

/-- The call sends the message on. -/
def Call.Sends (send : SendCall) : Call → Prop
  | .finding send' .. => send' = send
  | .locating send' _ => send' = send
  | .checking send' .. => send' = send
  | .relaying send' .. => send' = send
  | _ => False

namespace WebSocketRuntime

variable {st : WebSocketRuntime}

/-! ### Recipients -/

/-- Each of the local targets is authenticated as one of the peers, or not at all. -/
def MeantFor (st : WebSocketRuntime) (targets : List ConnRef) (peerIds : List JsString) : Prop :=
  ∀ target ∈ targets, target.nodeId = st.deps.nodeId →
    ∀ auth, st.authOf target.connId = some auth → auth.peerId ∈ peerIds

/-- What an event hands to a connection is for the peer as which the connection is
authenticated. -/
def ToRecipients (st : WebSocketRuntime) (e : Event) : Prop :=
  ∀ connId envelope, .enqueued connId (.envelope envelope) ∈ (st.step e).effects →
    ∃ id call target rest, e = .resume id (.valid true) ∧ st.calls.get id = some call ∧
      call.targets = target :: rest ∧ target.connId = connId ∧
      ∃ auth, st.authOf connId = some auth ∧ auth.peerId ∈ call.recipients

/-- The targets of a plan or of a relayed request are authenticated as its recipients when it comes
in, and no connection becomes another peer while it is a target. -/
structure KeepsRecipients (st : WebSocketRuntime) (e : Event) : Prop where
  planned : ∀ id send located remote, e = .resume id (.located remote) →
    st.calls.get id = some (.locating send located) →
    st.MeantFor (planned located remote) send.peerIds
  relayed : ∀ request, e = .deliverCluster request →
    st.MeantFor request.targets (request.targets.map (·.peerId))
  authenticated : ∀ connId auth, st.Authenticates e connId auth →
    ∀ id call, st.calls.get id = some call → ∀ target ∈ call.targets,
      target.nodeId = st.deps.nodeId → target.connId = connId → auth.peerId ∈ call.recipients

/-- The targets of the calls are authenticated as their recipients. -/
def Addressed (st : WebSocketRuntime) : Prop :=
  ∀ id call, st.calls.get id = some call → st.MeantFor call.targets call.recipients ∧
    ∀ target rest, call.targets = target :: rest →
      target.nodeId = st.deps.nodeId ∧ (st.authOf target.connId).isSome = true

theorem deps_step (st : WebSocketRuntime) (e : Event) : (st.step e).deps = st.deps :=
  (step_handles st e).deps

theorem now_le_step (st : WebSocketRuntime) (e : Event) : st.now ≤ (st.step e).now := by
  by_cases he : ∃ ms, e = .advance ms
  · obtain ⟨ms, rfl⟩ := he
    exact Nat.le_add_right _ _
  · exact ((step_handles st e).now (not_exists.1 he)).ge

/-- An authenticated connection stays authenticated. -/
theorem authOf_isSome_step {connId : JsString} (h : (st.authOf connId).isSome = true) (e : Event) :
    ((st.step e).authOf connId).isSome = true := by
  rcases (step_handles st e).auth connId with heq | ⟨auth, heq, -⟩
  · rw [heq]
    exact h
  · rw [heq]
    rfl

/-- Only the answer of the provider authenticates a connection. -/
theorem authOf_step_of_ne {e : Event} (h : ∀ id auth, e ≠ .resume id (.authenticated (.ok auth)))
    (connId : JsString) : (st.step e).authOf connId = st.authOf connId := by
  rcases (step_handles st e).auth connId with heq | ⟨auth, -, ⟨⟩⟩
  · exact heq
  · exact absurd rfl (h _ _)

theorem MeantFor.mono {targets targets' : List ConnRef} {peerIds : List JsString}
    (h : st.MeantFor targets peerIds) (hs : targets' ⊆ targets) : st.MeantFor targets' peerIds :=
  fun target ht => h target (hs ht)

theorem MeantFor.step_of_ne {targets : List ConnRef} {peerIds : List JsString}
    (h : st.MeantFor targets peerIds) {e : Event}
    (he : ∀ id auth, e ≠ .resume id (.authenticated (.ok auth))) :
    (st.step e).MeantFor targets peerIds := by
  unfold MeantFor
  simp only [deps_step, authOf_step_of_ne he]
  exact h

theorem searches_targets {send : SendCall} {call : Call} (h : call.Searches send) :
    call.targets = [] := by
  cases call <;> first | rfl | exact h.elim

/-- **The targets of the calls stay authenticated as their recipients.** -/
theorem addressed_step (h : st.Addressed) {e : Event} (hc : st.KeepsRecipients e) :
    (st.step e).Addressed := by
  intro id call hid
  have hnone {call : Call} (ht : call.targets = []) :
      (st.step e).MeantFor call.targets call.recipients ∧ ∀ target rest,
        call.targets = target :: rest → target.nodeId = (st.step e).deps.nodeId ∧
          ((st.step e).authOf target.connId).isSome = true :=
    ⟨fun target hmem => (by rw [ht] at hmem; cases hmem), fun target rest heq => by
      rw [ht] at heq; cases heq⟩
  -- A call that serves `target` next, when the event authenticates nobody.
  have hserving {target : ConnRef} {rest : List ConnRef} {peerIds : List JsString}
      (he : ∀ id auth, e ≠ .resume id (.authenticated (.ok auth)))
      (hm : st.MeantFor (target :: rest) peerIds) (hn : target.nodeId = st.deps.nodeId)
      (ho : st.cleared.Online target.connId) :
      (st.step e).MeantFor (target :: rest) peerIds ∧ ∀ target' rest',
        target :: rest = target' :: rest' → target'.nodeId = (st.step e).deps.nodeId ∧
          ((st.step e).authOf target'.connId).isSome = true := by
    refine ⟨hm.step_of_ne he, ?_⟩
    rintro _ _ ⟨⟩
    exact ⟨by rw [deps_step]; exact hn, authOf_isSome_step ho.2 e⟩
  rcases (step_handles st e).calls id call hid with hold | hnew
  · obtain ⟨hm, hhead⟩ := h id call hold
    refine ⟨fun target hmem hn auth hauth => ?_, fun target rest heq => ?_⟩
    · rw [deps_step] at hn
      rcases (step_handles st e).auth target.connId with hsame | ⟨auth', hsome, hnew⟩
      · exact hm target hmem hn auth (hsame ▸ hauth)
      · obtain rfl : auth = auth' := Option.some.inj (hauth.symm.trans hsome)
        exact hc.authenticated _ auth (authenticates_cleared hnew) id call hold target hmem hn rfl
    · rw [deps_step]
      exact ⟨(hhead target rest heq).1, authOf_isSome_step (hhead target rest heq).2 e⟩
  · cases hnew with
    | authenticating => exact hnone rfl
    | validating => exact hnone rfl
    | forwarding => exact hnone rfl
    | acking => exact hnone rfl
    | hooking => exact hnone rfl
    | searching _ hs => exact hnone (searches_targets hs)
    | found _ _ hs => exact hnone (searches_targets hs)
    | forwarded => exact hnone rfl
    | continuing ha hcont =>
      cases hcont with
      | relaying => exact hnone rfl
      | searching _ _ hs => exact hnone (searches_targets hs)
      | checking hs hn ho =>
        cases ha with
        | located hcall =>
          exact hserving (by simp) ((hc.planned _ _ _ _ rfl hcall).mono hs.subset) hn ho
        | skipped hcall =>
          exact hserving (by simp) ((h _ _ hcall).1.mono
            (List.subset_cons_of_subset _ hs.subset)) hn ho
        | served hcall =>
          exact hserving (by simp) ((h _ _ hcall).1.mono
            (List.subset_cons_of_subset _ hs.subset)) hn ho
        | relayed => exact absurd hs (by simp)
        | relayFailed => exact absurd hs (by simp)
    | delivering ha hs hn ho =>
      cases ha with
      | started => exact hserving (by simp) ((hc.relayed _ rfl).mono hs.subset) hn ho
      | skipped hcall =>
        exact hserving (by simp) ((h _ _ hcall).1.mono
          (List.subset_cons_of_subset _ hs.subset)) hn ho
      | served hcall =>
        exact hserving (by simp) ((h _ _ hcall).1.mono
          (List.subset_cons_of_subset _ hs.subset)) hn ho

theorem addressed_create (deps : WebSocketRuntimeDeps) : (create deps).Addressed :=
  fun id call h => by cases h

/-- An envelope goes to the target of its call. -/
theorem Addressed.toRecipients (h : st.Addressed) (e : Event) : st.ToRecipients e := by
  intro connId envelope hmem
  have hsent {id : ℕ} {call : Call} {target : ConnRef} {rest : List ConnRef}
      (hcall : st.calls.get id = some call) (ht : call.targets = target :: rest) :
      ∃ auth, st.authOf target.connId = some auth ∧ auth.peerId ∈ call.recipients := by
    obtain ⟨hm, hhead⟩ := h id call hcall
    obtain ⟨hn, ho⟩ := hhead target rest ht
    obtain ⟨auth, hauth⟩ := Option.isSome_iff_exists.1 ho
    exact ⟨auth, hauth, hm target (by rw [ht]; exact List.mem_cons_self) hn auth hauth⟩
  rcases (step_handles st e).effects _ hmem with hplain | hnew
  · exact hplain.elim
  · cases hnew with
    | envelope hcall => exact ⟨_, _, _, _, rfl, hcall, rfl, rfl, hsent hcall rfl⟩
    | relayed hcall => exact ⟨_, _, _, _, rfl, hcall, rfl, rfl, hsent hcall rfl⟩

/-- **In a run in which no target is, or becomes, another peer's connection, every envelope goes to
its recipients.** -/
theorem recipients_kept (deps : WebSocketRuntimeDeps) (es : List Event)
    (h : Machine.Along step KeepsRecipients (create deps) es) :
    Machine.Along step ToRecipients (create deps) es :=
  h.imp (addressed_create deps) (fun _ _ hinv hc => addressed_step hinv hc)
    fun _ e hinv _ => hinv.toRecipients e

/-! ### A run of the runtime -/

/-- A message of a client. -/
def clientMessage (kind : EnvelopeKind) (action msgId : JsString) (payload : Option Json) :
    Envelope where
  msgId := msgId
  kind := kind
  src := ⟨js "", js ""⟩
  protocol := js "chat"
  version := js "1.0"
  action := action
  ts := .ofNat 0
  payload := payload

/-- The context of a peer. -/
def contextOf (peerId : JsString) : AuthContext where
  peerId := peerId
  tokenId := peerId
  capabilities := []
  expiresAt := .ofNat 0

/-- The `sys.auth` of a client. -/
def authMessage : Envelope :=
  clientMessage .system (js "auth") (js "auth") (some (.obj [(js "provider", .str (js "jwt"))]))

/-- A connection authenticates as a peer. -/
def joins (connId peerId : JsString) (call : ℕ) : List Event :=
  [.message connId (some authMessage), .resume call (.authenticated (.ok (contextOf peerId)))]

/-- A connection sends a message to one peer, up to the check of its target. -/
def sends (connId msgId peerId : JsString) (ack : AckMode) (call : ℕ) : List Event :=
  [.message connId (some (clientMessage .biz (js "send") msgId none)),
    .resume call (.validMessage (.ok true)),
    .resume call (.hooked (.ok { peerIds := [peerId], dispatch := { ack := some ack } })),
    .resume call .found, .resume call (.located [])]

/-- Alice and Bob are connected. -/
def aliceAndBob : List Event :=
  [.openSocket (js "a"), .openSocket (js "b")] ++ joins (js "a") (js "alice") 0 ++
    joins (js "b") (js "bob") 1

/-- Alice writes to Bob, whose connection becomes Carol's while it is checked. -/
def becomesCarol : List Event :=
  aliceAndBob ++ sends (js "a") (js "m") (js "bob") .recv 2 ++ joins (js "b") (js "carol") 3

/-- Carol gets what is for Bob. -/
theorem carol_gets_bobs : ¬∀ deps es, Machine.Along step ToRecipients (create deps) es := by
  intro h
  have hlast := (Machine.along_append.1
    (h { nodeId := js "n" } (becomesCarol ++ [.resume 2 (.valid true)]))).2.1
  obtain ⟨id, call, target, rest, he, hcall, -, -, auth, hauth, hpeer⟩ :=
    hlast (js "b") _ (List.mem_of_getElem? (i := 1) rfl)
  cases he
  have hcarol : ((Machine.run step (create { nodeId := js "n" }) becomesCarol).authOf
    (js "b")).map (·.peerId) = some (js "carol") := rfl
  have hbob : ((Machine.run step (create { nodeId := js "n" }) becomesCarol).calls.get 2).map
    (·.recipients) = some [js "bob"] := rfl
  rw [hauth] at hcarol
  rw [hcall] at hbob
  rw [show auth.peerId = js "carol" from Option.some.inj hcarol,
    show call.recipients = [js "bob"] from Option.some.inj hbob] at hpeer
  exact absurd hpeer (by decide)

/-- An event that brings no targets and authenticates nobody. -/
theorem keepsRecipients_of_ne {e : Event} (hl : ∀ id remote, e ≠ .resume id (.located remote))
    (hd : ∀ request, e ≠ .deliverCluster request)
    (ha : ∀ id auth, e ≠ .resume id (.authenticated (.ok auth))) : st.KeepsRecipients e :=
  ⟨fun _ _ _ _ he => absurd he (hl _ _), fun _ he => absurd he (hd _), by
    rintro _ _ ⟨hcall, -⟩
    exact absurd rfl (ha _ _)⟩

/-- An event that authenticates a connection while no call serves targets. -/
theorem keepsRecipients_of_idle {id : ℕ} {auth : AuthContext}
    (h : (st.calls.entries.all fun entry => entry.2.targets.isEmpty) = true) :
    st.KeepsRecipients (.resume id (.authenticated (.ok auth))) := by
  refine ⟨by rintro _ _ _ _ ⟨⟩, by rintro _ ⟨⟩, fun _ _ _ id' call hcall target ht => ?_⟩
  have hnil := List.all_eq_true.1 h _ (JsMap.get_eq_some_iff.1 hcall)
  rw [List.isEmpty_iff.1 hnil] at ht
  cases ht

theorem meantFor_of_all {targets : List ConnRef} {peerIds : List JsString}
    (h : (targets.all fun target =>
      (st.authOf target.connId).all fun auth => peerIds.contains auth.peerId) = true) :
    st.MeantFor targets peerIds := by
  intro target ht _ auth hauth
  have hall := List.all_eq_true.1 h target ht
  rw [hauth] at hall
  exact List.contains_iff_mem.1 hall

/-- Alice writes to Bob, who gets it. -/
def bobGetsIt : List Event :=
  aliceAndBob ++ sends (js "a") (js "m") (js "bob") .recv 2 ++ [.resume 2 (.valid true)]

/-- Bob gets what is for Bob. -/
theorem recipients_kept_bob :
    Machine.Along step ToRecipients (create { nodeId := js "n" }) bobGetsIt := by
  refine recipients_kept _ _ ⟨?_, ?_, ?_, ?_, ?_, ?_, ?_, ?_, ?_, ?_, ?_, ?_, trivial⟩
  case refine_4 => exact keepsRecipients_of_idle rfl
  case refine_6 => exact keepsRecipients_of_idle rfl
  case refine_11 =>
    refine ⟨?_, by rintro _ ⟨⟩, by rintro _ _ ⟨⟩⟩
    rintro _ send located _ ⟨⟩ hcall
    cases hcall
    exact meantFor_of_all rfl
  all_goals exact keepsRecipients_of_ne (by simp) (by simp) (by simp)

/-! ### Senders -/

/-- What an event hands to a connection or to another node carries the peer under which the message
was allowed; what another node handed over is passed on as it is. -/
structure FromSender (st : WebSocketRuntime) (e : Event) : Prop where
  enqueued : ∀ connId envelope, .enqueued connId (.envelope envelope) ∈ (st.step e).effects →
    ∃ id, e = .resume id (.valid true) ∧
      ((∃ send delivered remote target rest,
        st.calls.get id = some (.checking send delivered remote target rest) ∧
        envelope.src.peerId = send.auth.peerId) ∨
      ∃ request startedAt delivered target rest,
        st.calls.get id = some (.delivering request startedAt delivered target rest) ∧
        envelope = request.envelope)
  relayed : ∀ id nodeId request, .deliver id nodeId request ∈ (st.step e).effects →
    ∃ call send, st.calls.get id = some call ∧ call.Sends send ∧
      request.envelope.src.peerId = send.auth.peerId

/-- No connection becomes another peer while a message of it is under way. -/
def KeepsSenders (st : WebSocketRuntime) (e : Event) : Prop :=
  ∀ connId auth, st.Authenticates e connId auth → ∀ id call, st.calls.get id = some call →
    ∀ peerId, call.speaker = some (connId, peerId) → auth.peerId = peerId

/-- The connection is authenticated as the peer. -/
def Speaks (st : WebSocketRuntime) (connId peerId : JsString) : Prop :=
  ∃ auth, st.authOf connId = some auth ∧ auth.peerId = peerId

/-- The connections of the messages that are under way are authenticated as they were. -/
def Voiced (st : WebSocketRuntime) : Prop :=
  ∀ id call, st.calls.get id = some call →
    (∀ connId peerId, call.speaker = some (connId, peerId) → st.Speaks connId peerId) ∧
    ∀ send, call.Sends send → send.senderRef.peerId = send.auth.peerId

theorem Speaks.step_of_ne {connId peerId : JsString} (h : st.Speaks connId peerId) {e : Event}
    (he : ∀ id auth, e ≠ .resume id (.authenticated (.ok auth))) :
    (st.step e).Speaks connId peerId := by
  unfold Speaks
  rw [authOf_step_of_ne he]
  exact h

theorem searches_sends {send : SendCall} {call : Call} (h : call.Searches send) :
    call.Sends send ∧ call.speaker = some (send.sender, send.auth.peerId) := by
  cases call <;> first | exact h.elim | (cases h; exact ⟨rfl, rfl⟩)

theorem sends_unique {send send' : SendCall} {call : Call} (h : call.Sends send)
    (h' : call.Sends send') : send = send' := by
  cases call <;> first | exact h.elim | exact h.symm.trans h'

/-- An attempt is one of a message that is under way. -/
theorem Advances.sends {e : Event} {id : ℕ} {send : SendCall} {delivered targets : List ConnRef}
    (h : st.Advances e id send delivered targets) :
    (∀ id auth, e ≠ .resume id (.authenticated (.ok auth))) ∧
      ∃ call, st.calls.get id = some call ∧ call.Sends send := by
  cases h with
  | located hcall => exact ⟨by simp, _, hcall, rfl⟩
  | skipped hcall => exact ⟨by simp, _, hcall, rfl⟩
  | served hcall => exact ⟨by simp, _, hcall, rfl⟩
  | relayed hcall => exact ⟨by simp, _, hcall, rfl⟩
  | relayFailed hcall => exact ⟨by simp, _, hcall, rfl⟩

/-- The sender of an attempt that can still serve a target here speaks as it did. -/
theorem Voiced.attempt (h : st.Voiced) {e : Event} {id : ℕ} {send : SendCall}
    {delivered targets : List ConnRef} (ha : st.Advances e id send delivered targets)
    (hk : targets ≠ [] ∨ (delivered = [] ∧ send.retry = false)) :
    st.Speaks send.sender send.auth.peerId := by
  cases ha with
  | located hcall => exact (h _ _ hcall).1 _ _ rfl
  | skipped hcall => exact (h _ _ hcall).1 _ _ rfl
  | served hcall => exact (h _ _ hcall).1 _ _ rfl
  | relayed hcall =>
    obtain ⟨hd, hr⟩ := hk.resolve_left (by simp)
    exact (h _ _ hcall).1 _ _ (if_pos ⟨(List.append_eq_nil_iff.1 hd).1, hr⟩)
  | relayFailed hcall => exact (h _ _ hcall).1 _ _ (if_pos (hk.resolve_left (by simp)))

/-- **The senders of the messages that are under way stay who they were.** -/
theorem voiced_step (h : st.Voiced) {e : Event} (hc : st.KeepsSenders e) : (st.step e).Voiced := by
  have hcleared : st.cleared.Voiced := h
  intro id call hid
  -- A call that sends a message on whose sender speaks as it did.
  have hsending {call : Call} {send : SendCall} (hs : call.Sends send)
      (hp : ∀ connId peerId, call.speaker = some (connId, peerId) →
        connId = send.sender ∧ peerId = send.auth.peerId ∧
          (st.step e).Speaks send.sender send.auth.peerId)
      (hr : send.senderRef.peerId = send.auth.peerId) :
      (∀ connId peerId, call.speaker = some (connId, peerId) → (st.step e).Speaks connId peerId) ∧
        ∀ send, call.Sends send → send.senderRef.peerId = send.auth.peerId := by
    refine ⟨fun connId peerId heq => ?_, fun send' hs' => by rw [← sends_unique hs hs']; exact hr⟩
    obtain ⟨rfl, rfl, hspeaks⟩ := hp connId peerId heq
    exact hspeaks
  have hsilent {call : Call} (hs : call.speaker = none) (hn : ∀ send, ¬call.Sends send) :
      (∀ connId peerId, call.speaker = some (connId, peerId) → (st.step e).Speaks connId peerId) ∧
        ∀ send, call.Sends send → send.senderRef.peerId = send.auth.peerId :=
    ⟨fun connId peerId heq => (by rw [hs] at heq; cases heq), fun send hs => (hn send hs).elim⟩
  rcases (step_handles st e).calls id call hid with hold | hnew
  · refine ⟨fun connId peerId heq => ?_, (h id call hold).2⟩
    rcases (step_handles st e).auth connId with hsame | ⟨auth, hsome, hnew⟩
    · obtain ⟨auth, hauth, hpeer⟩ := (h id call hold).1 connId peerId heq
      exact ⟨auth, hsame.trans hauth, hpeer⟩
    · exact ⟨auth, hsome, hc connId auth (authenticates_cleared hnew) id call hold peerId heq⟩
  · cases hnew with
    | authenticating => exact hsilent rfl fun _ hs => hs
    | forwarding => exact hsilent rfl fun _ hs => hs
    | acking => exact hsilent rfl fun _ hs => hs
    | forwarded => exact hsilent rfl fun _ hs => hs
    | delivering => exact hsilent rfl fun _ hs => hs
    | validating _ _ _ hauth =>
      refine ⟨?_, fun send hs => hs.elim⟩
      rintro _ _ ⟨⟩
      exact Speaks.step_of_ne ⟨_, hauth, rfl⟩ (by simp)
    | hooking hcall =>
      refine ⟨?_, fun send hs => hs.elim⟩
      rintro _ _ ⟨⟩
      exact ((h _ _ hcall).1 _ _ rfl).step_of_ne (by simp)
    | searching hcall hs =>
      obtain ⟨hsends, hspeaker⟩ := searches_sends hs
      have hold := (h _ _ hcall).1 _ _ rfl
      refine hsending hsends (fun connId peerId heq => ?_) ?_
      · cases hspeaker.symm.trans heq
        exact ⟨rfl, rfl, hold.step_of_ne (by simp)⟩
      · obtain ⟨auth, hauth, hpeer⟩ := hold
        show ((st.authOf _).map (·.peerId)).getD _ = _
        rw [hauth]
        exact hpeer
    | found hcall hs hs' =>
      obtain ⟨hsends, hspeaker⟩ := searches_sends hs
      obtain ⟨hsends', hspeaker'⟩ := searches_sends hs'
      refine hsending hsends' (fun connId peerId heq => ?_) ((h _ _ hcall).2 _ hsends)
      cases hspeaker'.symm.trans heq
      exact ⟨rfl, rfl, ((h _ _ hcall).1 _ _ hspeaker).step_of_ne (by simp)⟩
    | continuing ha hcont =>
      obtain ⟨hne, call', hcall, hsends⟩ := ha.sends
      have href := (h _ _ hcall).2 _ hsends
      cases hcont with
      | checking hs =>
        refine hsending rfl (fun connId peerId heq => ?_) href
        cases heq
        exact ⟨rfl, rfl, Speaks.step_of_ne (hcleared.attempt ha (.inl fun hnil => by
          rw [hnil] at hs; simp at hs)) hne⟩
      | relaying =>
        refine hsending rfl (fun connId peerId heq => ?_) href
        simp only [Call.speaker] at heq
        split_ifs at heq with hk
        cases heq
        exact ⟨rfl, rfl, Speaks.step_of_ne (hcleared.attempt ha (.inr hk)) hne⟩
      | searching hd hr hs =>
        obtain ⟨hsends', hspeaker⟩ := searches_sends hs
        refine hsending hsends' (fun connId peerId heq => ?_) href
        cases hspeaker.symm.trans heq
        exact ⟨rfl, rfl, Speaks.step_of_ne (hcleared.attempt ha (.inr ⟨hd, hr⟩)) hne⟩

theorem voiced_create (deps : WebSocketRuntimeDeps) : (create deps).Voiced :=
  fun id call h => by cases h

/-- What is handed over carries the peer of the sender. -/
theorem Voiced.fromSender (h : st.Voiced) (e : Event) : st.FromSender e := by
  constructor
  · intro connId envelope hmem
    rcases (step_handles st e).effects _ hmem with hplain | hnew
    · exact hplain.elim
    · cases hnew with
      | envelope hcall =>
        refine ⟨_, rfl, .inl ⟨_, _, _, _, _, hcall, ?_⟩⟩
        obtain ⟨auth, hauth, hpeer⟩ := (h _ _ hcall).1 _ _ rfl
        show ((st.authOf _).map (·.peerId)).getD _ = _
        rw [hauth]
        exact hpeer
      | relayed hcall => exact ⟨_, rfl, .inr ⟨_, _, _, _, _, hcall, rfl⟩⟩
  · intro id nodeId request hmem
    rcases (step_handles st e).effects _ hmem with hplain | hnew
    · exact hplain.elim
    · cases hnew with
      | deliver ha =>
        obtain ⟨-, call, hcall, hsends⟩ := ha.sends
        exact ⟨call, _, hcall, hsends, (h _ _ hcall).2 _ hsends⟩

/-- **In a run in which no connection becomes another peer while a message of it is under way,
every envelope carries the peer under which its message was allowed.** -/
theorem senders_kept (deps : WebSocketRuntimeDeps) (es : List Event)
    (h : Machine.Along step KeepsSenders (create deps) es) :
    Machine.Along step FromSender (create deps) es :=
  h.imp (voiced_create deps) (fun _ _ hinv hc => voiced_step hinv hc)
    fun _ e hinv _ => hinv.fromSender e

/-- An event that authenticates nobody. -/
theorem keepsSenders_of_ne {e : Event}
    (ha : ∀ id auth, e ≠ .resume id (.authenticated (.ok auth))) : st.KeepsSenders e := by
  rintro _ _ ⟨hcall, -⟩
  exact absurd rfl (ha _ _)

/-- An event that authenticates a connection while no message is under way. -/
theorem keepsSenders_of_idle {e : Event}
    (h : (st.calls.entries.all fun entry => entry.2.speaker.isNone) = true) :
    st.KeepsSenders e := by
  intro _ _ _ id call hcall peerId hspeaker
  have hnone := List.all_eq_true.1 h _ (JsMap.get_eq_some_iff.1 hcall)
  rw [hspeaker] at hnone
  cases hnone

/-- Bob gets Alice's message as Alice's. -/
theorem senders_kept_alice :
    Machine.Along step FromSender (create { nodeId := js "n" }) bobGetsIt := by
  refine senders_kept _ _ ⟨?_, ?_, ?_, ?_, ?_, ?_, ?_, ?_, ?_, ?_, ?_, ?_, trivial⟩
  case refine_4 => exact keepsSenders_of_idle rfl
  case refine_6 => exact keepsSenders_of_idle rfl
  all_goals exact keepsSenders_of_ne (by simp)

/-- Alice writes to Bob, and becomes Carol while Bob's connection is checked. -/
def aliceBecomesCarol : List Event :=
  aliceAndBob ++ sends (js "a") (js "m") (js "bob") .recv 2 ++ joins (js "a") (js "carol") 3

/-- Bob gets Alice's message as one of Carol's. -/
theorem carol_sends_alices : ¬∀ deps es, Machine.Along step FromSender (create deps) es := by
  intro h
  have hlast := (Machine.along_append.1
    (h { nodeId := js "n" } (aliceBecomesCarol ++ [.resume 2 (.valid true)]))).2.1
  obtain ⟨id, he, hcall⟩ := hlast.enqueued (js "b") _ (List.mem_of_getElem? (i := 1) rfl)
  cases he
  have halice : ((Machine.run step (create { nodeId := js "n" }) aliceBecomesCarol).calls.get
    2).bind (·.speaker) = some (js "a", js "alice") := rfl
  rcases hcall with ⟨send, _, _, _, _, hcall, hpeer⟩ | ⟨request, _, _, _, _, hcall, -⟩
  · rw [hcall] at halice
    obtain ⟨-, hsends⟩ := Prod.mk.inj (Option.some.inj halice)
    exact absurd (hpeer.trans hsends) (by decide)
  · rw [hcall] at halice
    cases halice

end WebSocketRuntime

end Hardess
