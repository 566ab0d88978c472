import Hardess.Ingress.Identity

/-!
# The connections that are registered

The peer locator and the table of connections are updated apart from each other: `auth` registers
after an await, and `closeConnection` closes a connection without taking it from the locator.

* `NoGhosts`: what the locator holds are open connections of the table, and nothing once the
  runtime drains or is disposed;
* `Guards`: an authentication ends only while its connection is open and the runtime takes
  connections, and nothing else closes a registered connection;
* `noGhosts_iff`: there is no ghost in any state of a run exactly when every event is guarded.
-/

namespace Hardess

namespace WebSocketRuntime

variable {st s : WebSocketRuntime} {e : Event}

/-- The locator knows the connection. -/
def Registered (st : WebSocketRuntime) (connId : JsString) : Prop :=
  (st.peerLocator.getByConnId connId).isSome = true

/-- What the locator holds are open connections of the table, and nothing after `beginShutdown` or
`dispose`. -/
structure NoGhosts (st : WebSocketRuntime) : Prop where
  present : ∀ connRef, st.peerLocator.Holds connRef →
    connRef.connId ∈ st.connections ∧ st.isClosed connRef.connId = false
  gone : st.shuttingDown = true ∨ st.disposed = true → ∀ connRef, ¬st.peerLocator.Holds connRef

/-- An authentication that succeeds finds its connection in the table and open, can answer, and
does not come after `beginShutdown` or `dispose`; one that fails, or is malformed, or comes too
fast, is not that of a registered connection, unless its error closes nothing; and no event of
another kind closes a registered connection. -/
def Guards (st : WebSocketRuntime) : Event → Prop
  | .openSocket _ => True
  | .closeSocket _ => True
  | .beginShutdown => True
  | .dispose => True
  | .resume id (.authenticated (.ok auth)) => ∀ connId message,
    st.calls.get id = some (.authenticating connId message) →
      if st.peerQuotaExceeded connId auth.peerId then ¬st.Registered connId
      else connId ∈ st.connections ∧ st.isClosed connId = false ∧ st.shuttingDown = false ∧
        st.disposed = false ∧ st.enqueueError connId (.authOk auth message.traceId) = none
  | .resume id (.authenticated (.error thrown)) => ∀ connId message,
    st.calls.get id = some (.authenticating connId message) → st.Registered connId →
      closeCodeForError thrown.normalized = none
  | .message connId (some envelope) =>
    if envelope.kind = .system ∧ envelope.action = js "auth" then
      ∀ connection, st.connection connId = some connection → st.Registered connId →
        (st.recentMessages connection).length < st.deps.rateLimitMaxMessages ∧
          (sysAuthPayloadSchema envelope.payload).isSome = true
    else ∀ connId', st.Registered connId' →
      ¬Closes connId' (st.step (.message connId (some envelope))).effects
  | e => ∀ connId, st.Registered connId → ¬Closes connId (st.step e).effects

/-- What is true of every state of a run: the tables of the locator agree, and the connections of
the table were opened. -/
structure Kept (st : WebSocketRuntime) : Prop where
  locator : st.peerLocator.Consistent
  opened : ∀ connId ∈ st.connections, st.objects.has connId = true

/-! ### What is registered -/

theorem registered_of_holds (h : st.Kept) {connRef : ConnRef}
    (hr : st.peerLocator.Holds connRef) : st.Registered connRef.connId := by
  have hget := h.locator.holds_iff.1 hr
  simp [Registered, InMemoryPeerLocator.getByConnId, hget]

theorem Registered.holds (h : st.Kept) {connId : JsString} (hr : st.Registered connId) :
    ∃ connRef, st.peerLocator.Holds connRef ∧ connRef.connId = connId := by
  obtain ⟨connRef, hget⟩ := Option.isSome_iff_exists.1 hr
  exact ⟨connRef, .inl ⟨connId, hget⟩, h.locator.byId _ _ hget⟩

/-- No ghosts, in terms of the connection ids. -/
theorem noGhosts_iff_registered (h : st.Kept) : st.NoGhosts ↔
    (∀ connId, st.Registered connId → connId ∈ st.connections ∧ st.isClosed connId = false) ∧
      (st.shuttingDown = true ∨ st.disposed = true → ∀ connId, ¬st.Registered connId) := by
  constructor
  · intro hg
    refine ⟨fun connId hr => ?_, fun hover connId hr => ?_⟩
    · obtain ⟨connRef, hholds, rfl⟩ := hr.holds h
      exact hg.present connRef hholds
    · obtain ⟨connRef, hholds, -⟩ := hr.holds h
      exact hg.gone hover connRef hholds
  · rintro ⟨hpresent, hgone⟩
    exact ⟨fun connRef hr => hpresent _ (registered_of_holds h hr),
      fun hover connRef hr => hgone hover _ (registered_of_holds h hr)⟩

/-- An event that leaves the tables alone makes no ghost exactly when it closes no registered
connection. -/
theorem noGhosts_step_iff_of_wiring (h : st.Kept) (h' : (st.step e).Kept)
    (he : e.Rewires = false) (hg : st.NoGhosts) :
    (st.step e).NoGhosts ↔ ∀ connId, st.Registered connId → ¬Closes connId (st.step e).effects := by
  have hstep := step_handles st e
  have w := hstep.wiring he
  have hreg (connId : JsString) : (st.step e).Registered connId ↔ st.Registered connId := by
    unfold Registered
    rw [w.peerLocator]
    rfl
  obtain ⟨hpresent, hgone⟩ := (noGhosts_iff_registered h).1 hg
  rw [noGhosts_iff_registered h']
  simp only [hreg]
  constructor
  · rintro ⟨hnow, -⟩ connId hr hcloses
    have hshut := hstep.shut connId (.inr hcloses)
    rw [(hnow connId hr).2] at hshut
    cases hshut
  · intro hcloses
    refine ⟨fun connId hr => ⟨?_, ?_⟩, fun hover => hgone ?_⟩
    · rw [w.connections]
      exact (hpresent connId hr).1
    · rw [← Bool.not_eq_true]
      intro hclosed
      rcases hstep.closed connId hclosed with hold | hnew | ⟨rfl, -⟩
      · exact absurd ((show st.isClosed connId = true from hold).symm.trans (hpresent connId hr).2)
          (by decide)
      · exact hcloses connId hr hnew
      · cases he
    · rwa [w.shuttingDown, w.disposed] at hover

/-! ### What stays true -/

theorem Kept.of_wiring (h : st.Kept) (w : SameWiring st s)
    (ho : ∀ connId, st.objects.has connId = true → s.objects.has connId = true) : s.Kept := by
  constructor
  · rw [w.peerLocator]
    exact h.locator
  · intro connId hc
    rw [w.connections] at hc
    exact ho connId (h.opened connId hc)

theorem foldl_close_keeps (code : ℕ) (reason : JsString) (connIds : List JsString)
    (s : WebSocketRuntime) : Keeps (fun _ => True) s
      (connIds.foldl (fun s connId => s.closeConnection connId code reason) s) :=
  foldl_keeps (fun _ connId =>
    (closeConnection_keeps connId code reason).mono fun _ _ => trivial) connIds s

theorem Keeps.kept {P : Effect → Prop} (k : Keeps P st s) (h : st.Kept) : s.Kept :=
  h.of_wiring ⟨k.connections, k.peerLocator, k.shuttingDown, k.disposed⟩ fun connId ho =>
    (k.opened connId).trans ho

/-- The runtime once an authentication succeeded, before it is answered. -/
def authed (st : WebSocketRuntime) (connId : JsString) (auth : AuthContext) : WebSocketRuntime :=
  { st.modify connId fun connection =>
      { connection with auth := some { auth with groupId := st.deps.hostGroupId } } with
    peerLocator := (st.modify connId fun connection =>
      { connection with auth := some { auth with groupId := st.deps.hostGroupId } }
      ).peerLocator.register (st.ownRef connId auth.peerId) }

theorem finishAuth_eq {connId : JsString} {auth : AuthContext}
    (hq : st.peerQuotaExceeded connId auth.peerId = false) (message : Envelope) :
    st.finishAuth connId message auth =
      (st.authed connId auth).enqueueOrCatch connId message connId
        (.authOk auth message.traceId) := by
  unfold finishAuth
  rw [if_neg (by rw [hq]; decide)]
  rfl

/-- What the authentication changes is the context of the connection and the locator. -/
theorem authed_eq (connId : JsString) (auth : AuthContext) : ∃ objects, st.authed connId auth =
    { st with
      objects
      peerLocator := st.peerLocator.register (st.ownRef connId auth.peerId) } ∧
    ∀ connId', (objects.get connId').map (·.egress) = (st.objects.get connId').map (·.egress) := by
  unfold authed WebSocketRuntime.modify
  cases hc : st.objects.get connId with
  | none => exact ⟨_, rfl, fun _ => rfl⟩
  | some connection =>
    refine ⟨_, rfl, fun connId' => ?_⟩
    dsimp only
    rw [JsMap.get_set]
    by_cases heq : connId' = connId
    · rw [heq, if_pos rfl, hc, Option.map_some, Option.map_some]
    · rw [if_neg heq]

/-- The queues say whether a connection is open. -/
theorem isClosed_of_egress {objects : JsMap JsString ConnectionState} {connId : JsString}
    (h : (objects.get connId).map (·.egress) = (st.objects.get connId).map (·.egress)) :
    isClosed { st with objects } connId = st.isClosed connId := by
  have hmap (o : Option ConnectionState) : o.any (·.egress.closed) =
      (o.map (·.egress)).any (·.closed) := by rw [Option.any_map]
  unfold isClosed
  rw [hmap, hmap, h]

/-- The queues say whether a message fails. -/
theorem enqueueError_of_egress {objects : JsMap JsString ConnectionState} {connId : JsString}
    (h : (objects.get connId).map (·.egress) = (st.objects.get connId).map (·.egress))
    (message : OutboundMessage) :
    enqueueError { st with objects } connId message = st.enqueueError connId message := by
  unfold enqueueError
  dsimp only
  cases ho : objects.get connId <;> cases hs : st.objects.get connId <;> rw [ho, hs] at h
  · cases h
  · cases h
  · rename_i connection connection'
    have hsame : connection.egress = connection'.egress := Option.some.inj h
    dsimp only
    rw [hsame]

/-! ### What the events do to the tables -/

/-- The table of connections, the locator and the flags after an event. -/
structure Wired (s : WebSocketRuntime) (connections : List JsString)
    (peerLocator : InMemoryPeerLocator) (shuttingDown disposed : Bool) : Prop where
  connections : s.connections = connections
  peerLocator : s.peerLocator = peerLocator
  shuttingDown : s.shuttingDown = shuttingDown
  disposed : s.disposed = disposed

theorem Keeps.wired {P : Effect → Prop} (k : Keeps P st s) :
    Wired s st.connections st.peerLocator st.shuttingDown st.disposed :=
  ⟨k.connections, k.peerLocator, k.shuttingDown, k.disposed⟩

theorem wired_step (he : e.Rewires = false) :
    Wired (st.step e) st.connections st.peerLocator st.shuttingDown st.disposed :=
  have w := (step_handles st e).wiring he
  ⟨w.connections, w.peerLocator, w.shuttingDown, w.disposed⟩

theorem wired_openSocket (connId : JsString) :
    ∃ connections, Wired (st.openSocket connId) connections st.peerLocator st.shuttingDown
      st.disposed ∧ (connections = st.connections ∨ connections = st.connections ++ [connId] ∧
        (st.openSocket connId).objects.has connId = true) := by
  unfold WebSocketRuntime.openSocket
  split_ifs
  · exact ⟨_, ⟨rfl, rfl, rfl, rfl⟩, .inl rfl⟩
  · exact ⟨_, ⟨rfl, rfl, rfl, rfl⟩, .inl rfl⟩
  · exact ⟨_, ⟨rfl, rfl, rfl, rfl⟩, .inl rfl⟩
  · exact ⟨_, ⟨rfl, rfl, rfl, rfl⟩, .inl rfl⟩
  · exact ⟨_, ⟨rfl, rfl, rfl, rfl⟩, .inr ⟨rfl, by simp [JsMap.has]⟩⟩

theorem wired_closeSocket (connId : JsString) :
    Wired (st.closeSocket connId) (st.connections.filter (· ≠ connId))
      (st.peerLocator.unregister connId) st.shuttingDown st.disposed := by
  unfold WebSocketRuntime.closeSocket
  dsimp only
  split_ifs
  · unfold WebSocketRuntime.modify
    split <;> exact ⟨rfl, rfl, rfl, rfl⟩
  · exact ⟨rfl, rfl, rfl, rfl⟩

theorem wired_beginShutdown (h : ¬(st.shuttingDown = true ∨ st.disposed = true)) :
    Wired st.beginShutdown st.connections
      (st.connections.foldl (fun l connId => l.unregister connId) st.peerLocator) true
      st.disposed := by
  unfold WebSocketRuntime.beginShutdown
  rw [if_neg h]
  dsimp only
  split_ifs
  · exact (foldl_close_keeps ..).wired
  · exact ⟨rfl, rfl, rfl, rfl⟩

theorem step_beginShutdown_of_over (h : st.shuttingDown = true ∨ st.disposed = true) :
    st.step .beginShutdown = st.cleared := if_pos h

theorem wired_dispose (h : st.disposed = false) :
    Wired st.dispose []
      (st.connections.foldl (fun l connId => l.unregister connId) st.peerLocator) st.shuttingDown
      true := by
  unfold WebSocketRuntime.dispose
  rw [if_neg (by rw [h]; decide)]
  exact ⟨rfl, rfl, (foldl_close_keeps 1001 (js "runtime disposed") st.connections st).shuttingDown,
    rfl⟩

theorem step_dispose_of_disposed (h : st.disposed = true) : st.step .dispose = st.cleared :=
  if_pos h

/-- The answer of the provider, for one connection too many. -/
theorem finishAuth_keeps {connId : JsString} {auth : AuthContext}
    (hq : st.peerQuotaExceeded connId auth.peerId = true) (message : Envelope) :
    Keeps (Effect.Reports connId) st (st.finishAuth connId message auth) := by
  unfold finishAuth
  rw [if_pos hq]
  exact catchError_keeps _ _ _

/-- The answer of the provider, for a connection that may register. -/
theorem wired_finishAuth {connId : JsString} {auth : AuthContext}
    (hq : st.peerQuotaExceeded connId auth.peerId = false) (message : Envelope) :
    Wired (st.finishAuth connId message auth) st.connections
      (st.peerLocator.register (st.ownRef connId auth.peerId)) st.shuttingDown st.disposed := by
  rw [finishAuth_eq hq]
  obtain ⟨objects, heq, -⟩ := @authed_eq st connId auth
  have w := (@enqueueOrCatch_keeps (st.authed connId auth) connId message connId
    (.authOk auth message.traceId)).wired
  rw [heq] at w ⊢
  exact w

/-- An answer that is none of the provider's finds no authentication, or is kept waiting. -/
theorem step_resume_auth (id : ℕ) (auth : AuthContext) :
    (∃ connId message, st.calls.get id = some (.authenticating connId message) ∧
      st.step (.resume id (.authenticated (.ok auth))) =
        finishAuth { st.cleared with calls := st.calls.delete id } connId message auth) ∨
    ((∀ connId message, st.calls.get id ≠ some (.authenticating connId message)) ∧
      ∃ calls, st.step (.resume id (.authenticated (.ok auth))) = { st.cleared with calls }) := by
  cases hc : st.calls.get id with
  | none =>
    refine .inr ⟨by simp, st.calls, ?_⟩
    show st.cleared.resume id _ = _
    unfold resume
    rw [show st.cleared.calls.get id = none from hc]
    rfl
  | some call =>
    rw [step_resume hc]
    cases call with
    | authenticating connId message => exact .inl ⟨connId, message, rfl, rfl⟩
    | _ => exact .inr ⟨by simp, _, rfl⟩

/-- What an event does to the locator: some connections go, or one is registered that is not one too
many. -/
def Relocates (st : WebSocketRuntime) (locator : InMemoryPeerLocator) : Prop :=
  (∃ connIds : List JsString,
    locator = connIds.foldl (fun l connId => l.unregister connId) st.peerLocator) ∨
  ∃ connId peerId, st.peerQuotaExceeded connId peerId = false ∧
    locator = st.peerLocator.register (st.ownRef connId peerId)

/-- What an event does to the table of connections: some go, or one was opened. -/
def Reconnects (st : WebSocketRuntime) (e : Event) (connections : List JsString) : Prop :=
  connections.Sublist st.connections ∨
    ∃ connId, e = .openSocket connId ∧ connections = st.connections ++ [connId] ∧
      (st.step e).objects.has connId = true

/-- An event writes nothing else into the locator and the table of connections. -/
theorem tables_step (st : WebSocketRuntime) (e : Event) :
    st.Relocates (st.step e).peerLocator ∧ st.Reconnects e (st.step e).connections := by
  have hsame {b b' : Bool} (w : Wired (st.step e) st.connections st.peerLocator b b') :
      st.Relocates (st.step e).peerLocator ∧ st.Reconnects e (st.step e).connections :=
    ⟨.inl ⟨[], w.peerLocator⟩, .inl (w.connections ▸ List.Sublist.refl _)⟩
  have hcleared {s : WebSocketRuntime} (hs : st.step e = s) (hl : s.peerLocator = st.peerLocator)
      (hc : s.connections = st.connections) :
      st.Relocates (st.step e).peerLocator ∧ st.Reconnects e (st.step e).connections :=
    hs ▸ ⟨.inl ⟨[], hl⟩, .inl (hc ▸ List.Sublist.refl _)⟩
  -- four kinds of events write into the two tables, and the answer of an authentication
  by_cases hw : e.Rewires = false
  · exact hsame (wired_step hw)
  cases e with
  | openSocket connId =>
    obtain ⟨connections, w, hcases⟩ := @wired_openSocket st.cleared connId
    have hconns : (st.step (.openSocket connId)).connections = connections := w.connections
    refine ⟨.inl ⟨[], w.peerLocator⟩, ?_⟩
    rw [hconns]
    rcases hcases with rfl | ⟨hnew, hhas⟩
    · exact .inl (List.Sublist.refl _)
    · exact .inr ⟨connId, rfl, hnew, hhas⟩
  | closeSocket connId =>
    have w := @wired_closeSocket st.cleared connId
    have hconns : (st.step (.closeSocket connId)).connections = _ := w.connections
    exact ⟨.inl ⟨[connId], w.peerLocator⟩, .inl (hconns ▸ List.filter_sublist)⟩
  | beginShutdown =>
    by_cases hover : st.shuttingDown = true ∨ st.disposed = true
    · exact hcleared (step_beginShutdown_of_over hover) rfl rfl
    · have w := @wired_beginShutdown st.cleared hover
      have hconns : (st.step .beginShutdown).connections = _ := w.connections
      exact ⟨.inl ⟨st.connections, w.peerLocator⟩, .inl (hconns ▸ List.Sublist.refl _)⟩
  | dispose =>
    by_cases hd : st.disposed = true
    · exact hcleared (step_dispose_of_disposed hd) rfl rfl
    · have w := @wired_dispose st.cleared ((Bool.not_eq_true _).mp hd)
      have hconns : (st.step .dispose).connections = [] := w.connections
      exact ⟨.inl ⟨st.connections, w.peerLocator⟩, .inl (hconns ▸ List.nil_sublist _)⟩
  | resume id answer =>
    cases answer with
    | authenticated result =>
      cases result with
      | error thrown => exact absurd rfl hw
      | ok auth =>
        rcases @step_resume_auth st id auth with ⟨connId, message, -, heq⟩ | ⟨-, calls, heq⟩
        · cases hq : st.peerQuotaExceeded connId auth.peerId with
          | false =>
            have w := @wired_finishAuth { st.cleared with calls := st.calls.delete id } _ _ hq
              message
            rw [← heq] at w
            exact ⟨.inr ⟨connId, auth.peerId, hq, w.peerLocator⟩,
              .inl (w.connections ▸ List.Sublist.refl _)⟩
          | true =>
            have w := (@finishAuth_keeps { st.cleared with calls := st.calls.delete id } _ _ hq
              message).wired
            rw [← heq] at w
            exact hsame w
        · exact hcleared heq rfl rfl
    | _ => exact absurd rfl hw
  | _ => exact absurd rfl hw

/-- Every state of a run is kept. -/
theorem kept_step (h : st.Kept) (e : Event) : (st.step e).Kept := by
  obtain ⟨hlocator, hconns⟩ := tables_step st e
  have hopened {connId : JsString} (hmem : connId ∈ st.connections) :=
    (step_handles st e).opened connId (h.opened connId hmem)
  refine ⟨?_, fun connId hmem => ?_⟩
  · rcases hlocator with ⟨connIds, heq⟩ | ⟨connId, peerId, -, heq⟩ <;> rw [heq]
    · exact h.locator.unregister_all connIds
    · exact h.locator.register _
  · rcases hconns with hsub | ⟨connId', -, heq, hhas⟩
    · exact hopened (hsub.subset hmem)
    · rw [heq] at hmem
      rcases List.mem_append.1 hmem with hold | hnew
      · exact hopened hold
      · rw [List.mem_singleton.1 hnew]
        exact hhas

/-! ### What closes a registered connection -/

theorem not_closes_nil {connId : JsString} (hs : s.effects = []) : ¬Closes connId s.effects := by
  rintro ⟨code, reason, hmem⟩
  rw [hs] at hmem
  cases hmem

theorem closes_reported {s' : WebSocketRuntime} {connId connId' : JsString}
    (k : Keeps (Effect.Reports connId) s s') (hs : s.effects = [])
    (h : Closes connId' s'.effects) : connId' = connId := by
  obtain ⟨new, hnew, hreports, -⟩ := k.effects
  obtain ⟨code, reason, hmem⟩ := h
  rw [hnew, hs, List.nil_append] at hmem
  exact hreports _ hmem

/-- The report of an error closes the connection it is reported to, and no other. -/
theorem closes_catchError (hs : s.effects = []) {connId : JsString} (message : Envelope)
    (thrown : Thrown) {connId' : JsString}
    (h : Closes connId' (s.catchError connId message thrown).effects) :
    connId' = connId ∧ closeCodeForError thrown.normalized ≠ none := by
  refine ⟨closes_reported (catchError_keeps connId message thrown) hs h, fun hnone => ?_⟩
  · obtain ⟨code, reason, hmem⟩ := h
    unfold catchError at hmem
    simp only [hnone] at hmem
    rw [show (s.socketSend connId _).effects = s.effects ++ [_] from rfl, hs, List.nil_append,
      List.mem_singleton] at hmem
    cases hmem

/-- An error with a close code closes an open connection. -/
theorem catchError_closes {connId : JsString} (ho : s.objects.has connId = true)
    (hopen : s.isClosed connId = false) (message : Envelope) {thrown : Thrown}
    (h : closeCodeForError thrown.normalized ≠ none) :
    Closes connId (s.catchError connId message thrown).effects := by
  obtain ⟨code, hcode⟩ := Option.ne_none_iff_exists'.1 h
  refine ⟨code, thrown.normalized.code.text, ?_⟩
  unfold catchError
  simp only [hcode]
  rw [@closeConnection_effects (s.socketSend connId _) _ ho hopen]
  simp

/-- A failed authentication. -/
theorem guards_refused_iff (h : st.Kept) (hg : st.NoGhosts) (id : ℕ) (thrown : Thrown) :
    st.Guards (.resume id (.authenticated (.error thrown))) ↔ ∀ connId, st.Registered connId →
      ¬Closes connId (st.step (.resume id (.authenticated (.error thrown)))).effects := by
  obtain ⟨hpresent, -⟩ := (noGhosts_iff_registered h).1 hg
  constructor
  · intro hguard connId hr hcloses
    cases hc : st.calls.get id with
    | none =>
      have hstep : (st.step (.resume id (.authenticated (.error thrown)))) = st.cleared := by
        show st.cleared.resume id _ = _
        unfold resume
        rw [show st.cleared.calls.get id = none from hc]
      rw [hstep] at hcloses
      exact not_closes_nil rfl hcloses
    | some call =>
      rw [step_resume hc] at hcloses
      cases call with
      | authenticating connId' message =>
        obtain ⟨rfl, hne⟩ := closes_catchError rfl message thrown hcloses
        exact hne (hguard connId message hc hr)
      | _ => exact not_closes_nil rfl hcloses
  · intro hcloses connId message hc hr
    by_contra hne
    refine hcloses connId hr ?_
    rw [step_resume hc]
    exact catchError_closes (s := { st.cleared with calls := st.calls.delete id })
      (h.opened connId (hpresent connId hr).1) (hpresent connId hr).2 message hne

/-- What closes a connection is a `sys.auth` of its own, one too many or malformed. -/
theorem closes_authMessage (hs : s.effects = []) {id : ℕ} {connId connId' : JsString}
    {envelope : Envelope} (hk : envelope.kind = .system) (ha : envelope.action = js "auth")
    (h : Closes connId' (s.message id connId (some envelope)).effects) :
    connId' = connId ∧ ∃ connection, s.connection connId = some connection ∧
      ¬((s.recentMessages connection).length < s.deps.rateLimitMaxMessages ∧
        (sysAuthPayloadSchema envelope.payload).isSome = true) := by
  unfold WebSocketRuntime.message at h
  cases hc : s.connection connId with
  | none =>
    rw [hc] at h
    exact absurd h (not_closes_nil hs)
  | some connection =>
    rw [hc] at h
    dsimp only at h
    by_cases hlimit : s.deps.rateLimitMaxMessages ≤ (s.recentMessages connection).length
    · rw [if_pos hlimit] at h
      refine ⟨?_, connection, rfl, fun hboth => Nat.not_le.2 hboth.1 hlimit⟩
      exact closes_reported ((socketSend_keeps connId _).trans
        (closeConnection_keeps connId 4429 (js "RATE_LIMIT_EXCEEDED")))
        (effects_modify.trans hs) h
    · rw [if_neg hlimit, hk] at h
      dsimp only at h
      unfold handleSystemMessage at h
      rw [if_pos ha] at h
      unfold startAuth at h
      -- what is written into the connection sends nothing
      have heffects (f : ConnectionState → ConnectionState) : (s.modify connId f).effects = [] :=
        effects_modify.trans hs
      split at h
      · exact absurd rfl (closes_catchError (heffects _) _ _ h).2
      · split at h
        · rename_i hnone
          refine ⟨(closes_catchError (heffects _) _ _ h).1, connection, rfl, fun hboth => ?_⟩
          rw [hnone] at hboth
          cases hboth.2
        · exact absurd h (not_closes_nil (heffects _))

/-- A `sys.auth` of an open connection that is too fast or malformed closes it. -/
theorem authMessage_closes {id : ℕ} {connId : JsString} {envelope : Envelope}
    (hk : envelope.kind = .system) (ha : envelope.action = js "auth")
    (ho : s.objects.has connId = true) (hopen : s.isClosed connId = false)
    (hshut : s.shuttingDown = false) {connection : ConnectionState}
    (hc : s.connection connId = some connection)
    (h : ¬((s.recentMessages connection).length < s.deps.rateLimitMaxMessages ∧
      (sysAuthPayloadSchema envelope.payload).isSome = true)) :
    Closes connId (s.message id connId (some envelope)).effects := by
  have hkeeps (f : ConnectionState → ConnectionState)
      (hf : ∀ connection, (f connection).auth = connection.auth)
      (he : ∀ connection, (f connection).egress = connection.egress) :
      (s.modify connId f).objects.has connId = true ∧
        (s.modify connId f).isClosed connId = false ∧
        (s.modify connId f).shuttingDown = false := by
    have k : Keeps (fun _ => True) s (s.modify connId f) := modify_keeps hf he
    refine ⟨(k.opened connId).trans ho, ?_, k.shuttingDown.trans hshut⟩
    rw [isClosed_modify, if_pos rfl, ← hopen]
    simp only [he]
    rfl
  unfold WebSocketRuntime.message
  rw [hc]
  dsimp only
  -- too fast: it is closed before the payload is looked at
  by_cases hlimit : s.deps.rateLimitMaxMessages ≤ (s.recentMessages connection).length
  · rw [if_pos hlimit]
    obtain ⟨ho₁, hopen₁, -⟩ := hkeeps (fun c => { c with
      lastSeenAt := s.now, messageTimestamps := s.recentMessages connection })
      (fun _ => rfl) fun _ => rfl
    refine ⟨4429, js "RATE_LIMIT_EXCEEDED", ?_⟩
    rw [@closeConnection_effects (socketSend _ connId _) _ ho₁ hopen₁]
    simp
  · rw [if_neg hlimit, hk]
    obtain ⟨ho₁, hopen₁, hshut₁⟩ := hkeeps (fun c => { c with
      lastSeenAt := s.now, messageTimestamps := s.recentMessages connection ++ [s.now] })
      (fun _ => rfl) fun _ => rfl
    -- not too fast: then the payload is the one that is refused
    have hnone : sysAuthPayloadSchema envelope.payload = none := by
      rw [← Option.not_isSome_iff_eq_none]
      exact fun hsome => h ⟨Nat.not_le.1 hlimit, hsome⟩
    dsimp only
    unfold handleSystemMessage
    rw [if_pos ha]
    unfold startAuth
    rw [if_neg (by rw [hshut₁]; decide), hnone]
    refine catchError_closes ho₁ hopen₁ envelope ?_
    simp [WebSocketRuntimeDeps.refusal, invalidPayload, Thrown.normalized, closeCodeForError]

/-! ### The answer of the provider -/

/-- A reply leaves its connection open exactly when it was open and the reply does not fail. -/
theorem isClosed_enqueueOrCatch {connId : JsString} (ho : s.objects.has connId = true)
    (message : Envelope) (outbound : OutboundMessage) :
    (s.enqueueOrCatch connId message connId outbound).isClosed connId = true ↔
      s.isClosed connId = true ∨ s.enqueueError connId outbound ≠ none := by
  have hiff := isClosed_enqueueOutbound ho outbound
  have herror := @enqueueOutbound_error s connId outbound
  rw [← hiff]
  unfold enqueueOrCatch
  split
  · rename_i s₁ heq
    rw [heq]
  · rename_i s₁ error heq
    rw [heq] at herror hiff
    have hclosed : s₁.isClosed connId = true := hiff.2 (.inr (by rw [← herror]; simp))
    rw [heq]
    exact iff_of_true ((catchError_keeps connId message _).closed hclosed) hclosed

theorem isClosed_enqueueOrCatch_of_ne {connId connId' : JsString} (hne : connId' ≠ connId)
    (message : Envelope) (outbound : OutboundMessage) :
    (s.enqueueOrCatch connId message connId outbound).isClosed connId' = true ↔
      s.isClosed connId' = true := by
  obtain ⟨new, hnew, hp, hclosed⟩ := (@enqueueOrCatch_keeps s connId message connId outbound).effects
  rw [hclosed, or_iff_left]
  rintro ⟨code, reason, hmem⟩
  rcases hp _ hmem with hc | hr
  · exact hne hc
  · exact hne hr

/-- One connection too many makes no ghost exactly when it is not registered. -/
theorem noGhosts_quota_iff (h : st.Kept) (hg : st.NoGhosts) (hs : st.effects = [])
    {connId : JsString} {auth : AuthContext} (message : Envelope)
    (hq : st.peerQuotaExceeded connId auth.peerId = true) :
    (st.finishAuth connId message auth).NoGhosts ↔ ¬st.Registered connId := by
  have k := finishAuth_keeps hq message
  obtain ⟨hpresent, hgone⟩ := (noGhosts_iff_registered h).1 hg
  have hreg (connId' : JsString) : (st.finishAuth connId message auth).Registered connId' ↔
      st.Registered connId' := by
    unfold Registered
    rw [k.peerLocator]
  rw [noGhosts_iff_registered (k.kept h)]
  simp only [hreg]
  constructor
  · rintro ⟨hnow, -⟩ hr
    have hcloses : Closes connId (st.finishAuth connId message auth).effects := by
      unfold finishAuth
      rw [if_pos hq]
      exact catchError_closes (h.opened connId (hpresent connId hr).1) (hpresent connId hr).2
        message (by simp [Thrown.normalized, closeCodeForError])
    obtain ⟨new, hnew, -, hclosed⟩ := k.effects
    rw [hnew, hs, List.nil_append] at hcloses
    exact absurd ((hclosed connId).2 (.inr hcloses)) (by rw [(hnow connId hr).2]; decide)
  · intro hr
    obtain ⟨new, -, hreports, hclosed⟩ := k.effects
    refine ⟨fun connId' hr' => ⟨by rw [k.connections]; exact (hpresent connId' hr').1, ?_⟩,
      fun hover => hgone (by rwa [k.shuttingDown, k.disposed] at hover)⟩
    rw [← Bool.not_eq_true, hclosed, (hpresent connId' hr').2]
    rintro (hfalse | ⟨code, reason, hmem⟩)
    · cases hfalse
    · have heq : connId' = connId := hreports _ hmem
      exact hr (heq ▸ hr')

/-- A connection that registers is no ghost exactly when the answer is guarded. -/
theorem noGhosts_register_iff (h : st.Kept) (hg : st.NoGhosts) {connId : JsString}
    {auth : AuthContext} (message : Envelope)
    (hq : st.peerQuotaExceeded connId auth.peerId = false)
    (h' : (st.finishAuth connId message auth).Kept) :
    (st.finishAuth connId message auth).NoGhosts ↔
      connId ∈ st.connections ∧ st.isClosed connId = false ∧ st.shuttingDown = false ∧
        st.disposed = false ∧ st.enqueueError connId (.authOk auth message.traceId) = none := by
  have w := wired_finishAuth hq message
  obtain ⟨hpresent, hgone⟩ := (noGhosts_iff_registered h).1 hg
  obtain ⟨objects, hauthed, hegress⟩ := @authed_eq st connId auth
  have hopen (connId' : JsString) : (st.authed connId auth).isClosed connId' =
      st.isClosed connId' := by
    rw [hauthed]
    exact isClosed_of_egress (hegress connId')
  have herror : (st.authed connId auth).enqueueError connId (.authOk auth message.traceId) =
      st.enqueueError connId (.authOk auth message.traceId) := by
    rw [hauthed]
    exact enqueueError_of_egress (hegress connId) _
  -- the registration is new, whatever was registered before
  have hreg (connId' : JsString) : (st.finishAuth connId message auth).Registered connId' ↔
      connId' = connId ∨ st.Registered connId' := by
    unfold Registered InMemoryPeerLocator.getByConnId
    rw [w.peerLocator, InMemoryPeerLocator.register_eq]
    dsimp only
    rw [JsMap.get_set]
    by_cases heq : connId' = connId
    · simp [heq, ownRef]
    · simp [heq, ownRef]
  rw [noGhosts_iff_registered h']
  simp only [hreg, w.connections, w.shuttingDown, w.disposed]
  constructor
  · rintro ⟨hnow, hover⟩
    obtain ⟨hmem, hclosed⟩ := hnow connId (.inl rfl)
    have ho : (st.authed connId auth).objects.has connId = true := by
      have hst := h.opened connId hmem
      unfold JsMap.has at hst ⊢
      rw [hauthed, ← Option.isSome_map, hegress, Option.isSome_map]
      exact hst
    rw [finishAuth_eq hq, ← Bool.not_eq_true, isClosed_enqueueOrCatch ho, hopen, herror,
      not_or, Bool.not_eq_true, not_not] at hclosed
    -- over means that nobody is registered, but this connection is
    refine ⟨hmem, hclosed.1, ?_, ?_, hclosed.2⟩
    · rw [← Bool.not_eq_true]
      exact fun hs => hover (.inl hs) connId (.inl rfl)
    · rw [← Bool.not_eq_true]
      exact fun hd => hover (.inr hd) connId (.inl rfl)
  · rintro ⟨hmem, hclosed, hs, hd, herr⟩
    refine ⟨fun connId' hr => ?_, by simp [hs, hd]⟩
    rw [finishAuth_eq hq, ← Bool.not_eq_true]
    by_cases heq : connId' = connId
    · subst heq
      have ho : (st.authed connId' auth).objects.has connId' = true := by
        have hst := h.opened connId' hmem
        unfold JsMap.has at hst ⊢
        rw [hauthed, ← Option.isSome_map, hegress, Option.isSome_map]
        exact hst
      rw [isClosed_enqueueOrCatch ho, hopen, herror, herr, hclosed]
      exact ⟨hmem, by simp⟩
    · rw [isClosed_enqueueOrCatch_of_ne heq, hopen, Bool.not_eq_true]
      exact hpresent connId' (hr.resolve_left heq)

/-- The answer of the provider makes no ghost exactly when it is guarded. -/
theorem noGhosts_auth_iff (h : st.Kept) (hg : st.NoGhosts) (id : ℕ) (auth : AuthContext) :
    (st.step (.resume id (.authenticated (.ok auth)))).NoGhosts ↔
      st.Guards (.resume id (.authenticated (.ok auth))) := by
  have h' := kept_step h (.resume id (.authenticated (.ok auth)))
  obtain ⟨hpresent, hgone⟩ := (noGhosts_iff_registered h).1 hg
  rw [noGhosts_iff_registered h']
  rcases @step_resume_auth st id auth with ⟨connId, message, hcall, heq⟩ | ⟨hnone, calls, heq⟩
  · have hguards : st.Guards (.resume id (.authenticated (.ok auth))) ↔
        if st.peerQuotaExceeded connId auth.peerId then ¬st.Registered connId
        else connId ∈ st.connections ∧ st.isClosed connId = false ∧ st.shuttingDown = false ∧
          st.disposed = false ∧ st.enqueueError connId (.authOk auth message.traceId) = none := by
      constructor
      · exact fun hall => hall connId message hcall
      · intro hone connId' message' hcall'
        cases hcall.symm.trans hcall'
        exact hone
    rw [hguards, ← noGhosts_iff_registered h', heq]
    have htaken : Kept { st.cleared with calls := st.calls.delete id } := ⟨h.locator, h.opened⟩
    have hghosts : NoGhosts { st.cleared with calls := st.calls.delete id } :=
      ⟨hg.present, hg.gone⟩
    by_cases hq : st.peerQuotaExceeded connId auth.peerId = true
    · rw [if_pos hq]
      exact noGhosts_quota_iff htaken hghosts rfl message hq
    · rw [if_neg hq]
      exact noGhosts_register_iff htaken hghosts message ((Bool.not_eq_true _).mp hq) (heq ▸ h')
  · refine iff_of_true ?_ fun connId message hcall => absurd hcall (hnone connId message)
    rw [heq]
    exact ⟨hpresent, hgone⟩

/-! ### Every event -/

theorem isClosed_openSocket (connId connId' : JsString) :
    (st.openSocket connId).isClosed connId' = st.isClosed connId' := by
  unfold WebSocketRuntime.openSocket
  split_ifs with ho
  · rfl
  · rfl
  · rfl
  · rfl
  · have hnone : st.objects.get connId = none := by simpa [JsMap.has] using ho
    unfold isClosed
    dsimp only
    rw [JsMap.get_set]
    split_ifs with heq
    · rw [heq, hnone]
      rfl
    · rfl

theorem isClosed_closeSocket {connId connId' : JsString} (hne : connId' ≠ connId) :
    (st.closeSocket connId).isClosed connId' = st.isClosed connId' := by
  unfold WebSocketRuntime.closeSocket
  dsimp only
  split_ifs
  · exact isClosed_modify.trans (if_neg hne)
  · rfl

/-- No connection is registered once the runtime has drained or is disposed. -/
theorem noGhosts_of_unregistered (h : st.Kept) (hg : st.NoGhosts) {connections : List JsString}
    {b b' : Bool} (h' : s.Kept)
    (w : Wired s connections
      (st.connections.foldl (fun l connId => l.unregister connId) st.peerLocator) b b') :
    s.NoGhosts := by
  obtain ⟨hpresent, -⟩ := (noGhosts_iff_registered h).1 hg
  have hnone (connId : JsString) : ¬s.Registered connId := by
    unfold Registered InMemoryPeerLocator.getByConnId
    rw [w.peerLocator, InMemoryPeerLocator.get_unregister_all]
    split_ifs with hmem
    · simp
    · exact fun hr => hmem (hpresent connId hr).1
  rw [noGhosts_iff_registered h']
  exact ⟨fun connId hr => absurd hr (hnone connId), fun _ => hnone⟩

/-- A `sys.auth` closes no registered connection exactly when it is guarded. -/
theorem guards_auth_iff (h : st.Kept) (hg : st.NoGhosts) {connId : JsString} {envelope : Envelope}
    (hauth : envelope.kind = .system ∧ envelope.action = js "auth") :
    st.Guards (.message connId (some envelope)) ↔ ∀ connId', st.Registered connId' →
      ¬Closes connId' (st.step (.message connId (some envelope))).effects := by
  obtain ⟨hpresent, hgone⟩ := (noGhosts_iff_registered h).1 hg
  simp only [Guards, if_pos hauth]
  constructor
  · intro hguard connId' hr hcloses
    obtain ⟨rfl, connection, hc, hbad⟩ := closes_authMessage
      (s := { st.cleared with nextCall := st.nextCall + 1 }) rfl hauth.1 hauth.2 hcloses
    exact hbad (hguard connection hc hr)
  · intro hcloses connection hc hr
    by_contra hbad
    refine hcloses connId hr ?_
    have hshut : st.shuttingDown = false := by
      rw [← Bool.not_eq_true]
      exact fun hs => hgone (.inl hs) connId hr
    exact authMessage_closes (s := { st.cleared with nextCall := st.nextCall + 1 }) hauth.1 hauth.2
      (h.opened connId (hpresent connId hr).1) (hpresent connId hr).2 hshut hc hbad

/-- One event makes no ghost exactly when it is guarded. -/
theorem noGhosts_step_iff (h : st.Kept) (hg : st.NoGhosts) (e : Event) :
    (st.step e).NoGhosts ↔ st.Guards e := by
  have h' := kept_step h e
  obtain ⟨hpresent, hgone⟩ := (noGhosts_iff_registered h).1 hg
  cases e with
  | openSocket connId =>
    refine iff_of_true ?_ trivial
    obtain ⟨connections, w, hconns⟩ := @wired_openSocket st.cleared connId
    rw [noGhosts_iff_registered h']
    refine ⟨fun connId' hr => ?_, fun hover connId' hr => ?_⟩
    · -- opening a socket registers nobody
      have hr' : st.Registered connId' := by
        unfold Registered at hr ⊢
        rwa [show (st.step (.openSocket connId)).peerLocator = st.peerLocator from
          w.peerLocator] at hr
      refine ⟨?_, (isClosed_openSocket connId connId').trans (hpresent connId' hr').2⟩
      rw [show (st.step (.openSocket connId)).connections = connections from w.connections]
      rcases hconns with rfl | ⟨rfl, -⟩
      · exact (hpresent connId' hr').1
      · exact List.mem_append_left _ (hpresent connId' hr').1
    · unfold Registered at hr
      rw [show (st.step (.openSocket connId)).peerLocator = st.peerLocator from
        w.peerLocator] at hr
      rw [show (st.step (.openSocket connId)).shuttingDown = st.shuttingDown from w.shuttingDown,
        show (st.step (.openSocket connId)).disposed = st.disposed from w.disposed] at hover
      exact hgone hover connId' hr
  | closeSocket connId =>
    refine iff_of_true ?_ trivial
    have w := @wired_closeSocket st.cleared connId
    have hreg (connId' : JsString) (hr : (st.step (.closeSocket connId)).Registered connId') :
        connId' ≠ connId ∧ st.Registered connId' := by
      unfold Registered InMemoryPeerLocator.getByConnId at hr
      rw [show (st.step (.closeSocket connId)).peerLocator = st.peerLocator.unregister connId from
        w.peerLocator, InMemoryPeerLocator.get_unregister] at hr
      split_ifs at hr with heq
      · cases hr
      · exact ⟨heq, hr⟩
    rw [noGhosts_iff_registered h']
    refine ⟨fun connId' hr => ?_, fun hover connId' hr => ?_⟩
    · obtain ⟨hne, hr'⟩ := hreg connId' hr
      refine ⟨?_, (isClosed_closeSocket hne).trans (hpresent connId' hr').2⟩
      rw [show (st.step (.closeSocket connId)).connections =
        st.connections.filter (· ≠ connId) from w.connections]
      exact List.mem_filter.2 ⟨(hpresent connId' hr').1, by simpa using hne⟩
    · rw [show (st.step (.closeSocket connId)).shuttingDown = st.shuttingDown from w.shuttingDown,
        show (st.step (.closeSocket connId)).disposed = st.disposed from w.disposed] at hover
      exact hgone hover connId' (hreg connId' hr).2
  | beginShutdown =>
    refine iff_of_true ?_ trivial
    by_cases hover : st.shuttingDown = true ∨ st.disposed = true
    · rw [step_beginShutdown_of_over hover]
      exact ⟨hg.present, hg.gone⟩
    · exact noGhosts_of_unregistered h hg h' (@wired_beginShutdown st.cleared hover)
  | dispose =>
    refine iff_of_true ?_ trivial
    by_cases hd : st.disposed = true
    · rw [step_dispose_of_disposed hd]
      exact ⟨hg.present, hg.gone⟩
    · exact noGhosts_of_unregistered h hg h' (@wired_dispose st.cleared
        ((Bool.not_eq_true _).mp hd))
  | resume id answer =>
    cases answer with
    | authenticated result =>
      cases result with
      | ok auth => exact noGhosts_auth_iff h hg id auth
      | error thrown =>
        rw [guards_refused_iff h hg]
        exact noGhosts_step_iff_of_wiring h h' rfl hg
    | _ => exact noGhosts_step_iff_of_wiring h h' rfl hg
  | message connId envelope =>
    cases envelope with
    | none => exact noGhosts_step_iff_of_wiring h h' rfl hg
    | some envelope =>
      rw [noGhosts_step_iff_of_wiring h h' rfl hg]
      by_cases hauth : envelope.kind = .system ∧ envelope.action = js "auth"
      · exact (guards_auth_iff h hg hauth).symm
      · simp only [Guards, if_neg hauth]
  | _ => exact noGhosts_step_iff_of_wiring h h' rfl hg

theorem kept_create (deps : WebSocketRuntimeDeps) : (create deps).Kept :=
  ⟨InMemoryPeerLocator.consistent_empty, fun _ hc => by cases hc⟩

theorem noGhosts_create (deps : WebSocketRuntimeDeps) : (create deps).NoGhosts := by
  rw [noGhosts_iff_registered (kept_create deps)]
  exact ⟨fun _ hr => (by cases hr), fun _ _ hr => (by cases hr)⟩

/-- **There is no ghost in any state of a run exactly when every event of it is guarded.** -/
theorem noGhosts_iff (deps : WebSocketRuntimeDeps) (es : List Event) :
    (∀ pre post, es = pre ++ post → (Machine.run step (create deps) pre).NoGhosts) ↔
      Machine.Along step Guards (create deps) es :=
  Machine.prefixes_iff_along es (kept_create deps) (noGhosts_create deps)
    (fun _ e h => kept_step h e) fun _ e h hg => noGhosts_step_iff h hg e

/-- Bob's socket closes while the provider looks at his token. -/
def bobIsGone : List Event :=
  [.openSocket (js "b"), .message (js "b") (some authMessage), .closeSocket (js "b"),
    .resume 0 (.authenticated (.ok (contextOf (js "bob"))))]

/-- Bob's connection is registered, and in no table. -/
theorem bob_is_ghost :
    ¬∀ deps es pre post, es = pre ++ post → (Machine.run step (create deps) pre).NoGhosts := by
  intro h
  have hghosts := h { nodeId := js "n" } bobIsGone bobIsGone [] rfl
  have hholds : (Machine.run step (create { nodeId := js "n" }) bobIsGone).peerLocator.Holds
      (ownRef (create { nodeId := js "n" }) (js "b") (js "bob")) := .inl ⟨js "b", rfl⟩
  exact absurd (hghosts.present _ hholds).1 (by decide)

end WebSocketRuntime

end Hardess
