import Hardess.Control.HostPolling

/-!
# What a cycle of the host agent makes of a reply

`performReconcileCycle` of `src/runtime/control/host-agent.ts`, as far as the agent's knowledge of
its admin goes.

* `HostAgent.Acts`: the steps of an agent that no reply brings about;
* `HostAgent.Passed`: a cycle that is past its first `try` block leaves that knowledge alone;
* **`resumption`**: what a cycle awaits after a reply, and what the agent knows then.
-/

namespace Hardess

namespace HostAgent

variable {options : HostAgentOptions} {agent agent' : HostAgent} {cycle cycle' : ReconcileCycle}

/-! ### Steps without a reply -/

/-- The agent knows what it knew, and has begun a cycle, ended one, or neither. -/
structure Acts (agent agent' : HostAgent) : Prop where
  registered : agent'.registered = agent.registered
  hostId : agent'.hostId = agent.hostId
  desiredRevision : agent'.desiredRevision = agent.desiredRevision
  applied : agent'.applied = agent.applied
  cycles : agent'.cycles = agent.cycles ∨ agent'.cycles = [] ∨
    ∃ cycle, agent'.cycles = [cycle] ∧ cycle.awaits = some .getHostRegistration

theorem Acts.refl (agent : HostAgent) : Acts agent agent := ⟨rfl, rfl, rfl, rfl, .inl rfl⟩

theorem Sound.acts_reconcileOnce (h : agent.Sound) : Acts agent (agent.reconcileOnce options) := by
  unfold HostAgent.reconcileOnce
  split_ifs with hflight
  · exact .refl agent
  · rcases h.inFlight with ⟨hnil, -⟩ | ⟨-, hflight'⟩
    · exact ⟨rfl, rfl, rfl, rfl, .inr (.inr ⟨_, congrArg (· ++ _) hnil, rfl⟩)⟩
    · exact absurd hflight' hflight

theorem Sound.acts_start (h : agent.Sound) : Acts agent (agent.start options) := by
  unfold HostAgent.start
  split_ifs
  · exact .refl agent
  · have hstarted : Sound { agent with running := true } :=
      ⟨h.inFlight, h.armed, nofun, h.revision⟩
    obtain ⟨hregistered, hhostId, hrevision, happlied, hcycles⟩ :=
      @acts_reconcileOnce options _ hstarted
    exact ⟨hregistered, hhostId, hrevision, happlied, hcycles⟩

theorem acts_stop (agent : HostAgent) : Acts agent agent.stop := by
  unfold HostAgent.stop
  dsimp only
  cases agent.pollTimer with
  | none => exact ⟨rfl, rfl, rfl, rfl, .inl rfl⟩
  | some timer => exact ⟨rfl, rfl, rfl, rfl, .inl rfl⟩

theorem Sound.acts_fire (h : agent.Sound) (timer : ℕ) : Acts agent (agent.fire options timer) := by
  unfold HostAgent.fire
  split_ifs with htimer
  · obtain ⟨hregistered, hhostId, hrevision, happlied, hcycles⟩ :=
      @acts_reconcileOnce options _ (h.fired htimer)
    exact ⟨hregistered, hhostId, hrevision, happlied, hcycles⟩
  · exact .refl agent

theorem Sound.acts_release (h : agent.Sound) (i : ℕ) : Acts agent (agent.release i) := by
  obtain hsame | ⟨cycle, -, -, hrelease⟩ := h.release_cases i
  · rw [hsame]
    exact .refl agent
  · rw [hrelease]
    exact ⟨rfl, rfl, rfl, rfl, .inr (.inl rfl)⟩

/-! ### Replies -/

/-- What most parts of a cycle leave alone. -/
structure Keeps (agent agent' : HostAgent) : Prop where
  registered : agent'.registered = agent.registered
  hostId : agent'.hostId = agent.hostId
  desiredRevision : agent'.desiredRevision = agent.desiredRevision
  applied : agent'.applied = agent.applied
  cycles : agent'.cycles = agent.cycles

theorem Keeps.refl (agent : HostAgent) : Keeps agent agent := ⟨rfl, rfl, rfl, rfl, rfl⟩

/-- A cycle that is past its first `try` block awaits one of these, or has ended. -/
def Late : Option HostCall → Prop
  | none => True
  | some .collectObservedHostState => True
  | some (.reportObservedHostState _) => True
  | some (.heartbeatHost _) => True
  | _ => False

/-- The cycle is past its first `try` block. -/
structure Passed (agent : HostAgent) (cycle : ReconcileCycle) (r : HostAgent × ReconcileCycle) :
    Prop where
  keeps : Keeps agent r.1
  late : Late r.2.awaits
  failed : cycle.cycleFailed = true → r.2.cycleFailed = true

theorem keeps_scheduleNextPoll (agent : HostAgent) (delayMs : JsNumber) :
    Keeps agent (agent.scheduleNextPoll delayMs) := by
  unfold scheduleNextPoll
  dsimp only
  split_ifs
  · exact ⟨rfl, rfl, rfl, rfl, rfl⟩
  · exact ⟨rfl, rfl, rfl, rfl, rfl⟩

theorem passed_endCycle (agent : HostAgent) (cycle : ReconcileCycle) :
    Passed agent cycle (agent.endCycle options cycle) := by
  unfold endCycle
  dsimp only
  split_ifs
  · exact ⟨keeps_scheduleNextPoll agent _, trivial, id⟩
  · have hkeeps := keeps_scheduleNextPoll { agent with lastError := none } cycle.nextPollAfterMs
    exact ⟨⟨hkeeps.registered, hkeeps.hostId, hkeeps.desiredRevision, hkeeps.applied,
      hkeeps.cycles⟩, trivial, id⟩

theorem passed_callHeartbeat (agent : HostAgent) (cycle : ReconcileCycle) :
    Passed agent cycle (agent.callHeartbeat options cycle) := by
  unfold callHeartbeat
  cases cycle.observed with
  | none => exact passed_endCycle agent cycle
  | some observed => exact ⟨.refl agent, trivial, id⟩

theorem passed_callReport (agent : HostAgent) (cycle : ReconcileCycle) :
    Passed agent cycle (agent.callReport options cycle) := by
  unfold callReport
  cases cycle.observed with
  | none => exact passed_callHeartbeat agent cycle
  | some observed =>
    dsimp only
    split_ifs
    · exact ⟨.refl agent, trivial, id⟩
    · exact passed_callHeartbeat agent cycle

/-- A cycle that has failed. -/
theorem passed_caught {next : HostAgent → ReconcileCycle → HostAgent × ReconcileCycle}
    (hnext : ∀ agent cycle, Passed agent cycle (next agent cycle)) (message : Option JsString) :
    Passed agent cycle (agent.caught cycle message next) ∧
      (agent.caught cycle message next).2.cycleFailed = true := by
  cases message with
  | none => exact ⟨⟨.refl agent, trivial, fun _ => rfl⟩, rfl⟩
  | some message =>
    obtain ⟨hkeeps, hlate, hfailed⟩ := hnext { agent with lastError := some message }
      { cycle with cycleFailed := true }
    exact ⟨⟨⟨hkeeps.registered, hkeeps.hostId, hkeeps.desiredRevision, hkeeps.applied,
      hkeeps.cycles⟩, hlate, fun _ => hfailed rfl⟩, hfailed rfl⟩

theorem passed_afterFailure (call : HostCall) (agent : HostAgent) (cycle : ReconcileCycle) :
    Passed agent cycle (afterFailure options call agent cycle) := by
  cases call with
  | collectObservedHostState => exact passed_callReport agent cycle
  | reportObservedHostState _ => exact passed_callHeartbeat agent cycle
  | heartbeatHost _ => exact passed_endCycle agent cycle
  | _ => exact ⟨.refl agent, trivial, id⟩

/-- What a cycle awaits after a reply, and what the agent knows then. -/
inductive Resumption (agent : HostAgent) (cycle : ReconcileCycle) :
    HostCall → HostReply → HostAgent × ReconcileCycle → Prop
  | failed {call reply r} (hreply : reply ≠ .applied) (passed : Passed agent cycle r)
    (hfailed : r.2.cycleFailed = true) : Resumption agent cycle call reply r
  | goesOn {call reply r} (hlate : Late (some call)) (passed : Passed agent cycle r) :
    Resumption agent cycle call reply r
  /-- The reply is one of another call. -/
  | ignored {call reply r}
    (hreply : ∀ desired artifacts, call = .applyDesiredHostState desired artifacts →
      reply ≠ .applied)
    (keeps : r.1 = agent) (hawaits : r.2.awaits = some call)
    (hfailed : r.2.cycleFailed = cycle.cycleFailed) : Resumption agent cycle call reply r
  | identified {registration r} (hregistered : agent.registered = true)
    (hstable : ∀ hostId, agent.hostId = some hostId → hostId ≠ [] → registration.hostId = hostId)
    (keeps : r.1 = agent)
    (hawaits : r.2.awaits =
      some (.getDesiredHostState registration.hostId agent.desiredRevision)) :
    Resumption agent cycle .getHostRegistration (.registration registration) r
  | registers {registration r} (hregistered : agent.registered = false) (keeps : r.1 = agent)
    (hawaits : r.2.awaits = some (.registerHost registration)) :
    Resumption agent cycle .getHostRegistration (.registration registration) r
  | registered {registration accepted hostId pollAfterMs r}
    (hagent : r.1 = { agent with registered := accepted, hostId := some hostId })
    (hawaits : r.2.awaits =
      some (.getDesiredHostState registration.hostId agent.desiredRevision)) :
    Resumption agent cycle (.registerHost registration) (.registered accepted hostId pollAfterMs) r
  | unchanged {hostId ifRevision changed state r} (hstate : changed = false ∨ state = none)
    (passed : Passed agent cycle r) :
    Resumption agent cycle (.getDesiredHostState hostId ifRevision) (.desired changed state) r
  | fetches {hostId ifRevision desired r} (keeps : r.1 = agent)
    (hawaits : r.2.awaits = some (.fetchArtifactManifests (manifestIds desired) desired)) :
    Resumption agent cycle (.getDesiredHostState hostId ifRevision) (.desired true (some desired)) r
  | applies {ids desired manifests r} (keeps : r.1 = agent)
    (hawaits : r.2.awaits = some (.applyDesiredHostState desired (ids.zip manifests))) :
    Resumption agent cycle (.fetchArtifactManifests ids desired) (.manifests manifests) r
  | applied {desired artifacts r}
    (hagent : r.1 = { agent with
      desiredRevision := some desired.revision
      applied := agent.applied ++ [desired.revision] })
    (hawaits : r.2.awaits = some .collectObservedHostState) :
    Resumption agent cycle (.applyDesiredHostState desired artifacts) .applied r

/-- **What a cycle makes of a reply.** -/
theorem resumption (call : HostCall) (reply : HostReply) :
    Resumption agent cycle call reply (agent.resume options cycle call reply) := by
  unfold resume
  split
  · obtain ⟨hpassed, hfailed⟩ := passed_caught (passed_afterFailure _) _
    exact .failed (by simp) hpassed hfailed
  · rename_i registration
    dsimp only
    split
    · obtain ⟨hpassed, hfailed⟩ := @passed_caught agent _
        (fun agent cycle => agent.callCollect cycle)
        (fun agent cycle => ⟨.refl agent, trivial, id⟩) _
      exact .failed (by simp) ⟨hpassed.keeps, hpassed.late, fun _ => hfailed⟩ hfailed
    · rename_i hstable
      split_ifs with hregistered
      · refine .identified hregistered (fun hostId hsome hne => ?_) rfl rfl
        rw [assertStableHostIdentity, hsome] at hstable
        dsimp only at hstable
        -- another identity than before would have failed the cycle
        by_contra hother
        rw [if_pos ⟨hne, hother⟩] at hstable
        cases hstable
      · exact .registers (Bool.eq_false_iff.2 hregistered) rfl rfl
  · exact .registered rfl rfl
  · exact .fetches rfl rfl
  · rename_i changed state hnot
    refine .unchanged ?_ ⟨.refl agent, trivial, id⟩
    cases changed with
    | false => exact .inl rfl
    | true =>
      cases state with
      | none => exact .inr rfl
      | some desired => exact absurd rfl (hnot desired rfl)
  · exact .applies rfl rfl
  · exact .applied rfl rfl
  · dsimp only
    split
    · obtain ⟨hpassed, hfailed⟩ := @passed_caught agent _
        (fun agent cycle => agent.callReport options cycle) passed_callReport _
      exact .failed (by simp) ⟨hpassed.keeps, hpassed.late, fun _ => hfailed⟩ hfailed
    · obtain ⟨hkeeps, hlate, hfailed⟩ := @passed_callReport options agent
        { cycle with observed := _ }
      exact .goesOn trivial ⟨hkeeps, hlate, hfailed⟩
  · exact .goesOn trivial (passed_callHeartbeat agent cycle)
  · obtain ⟨hkeeps, hlate, hfailed⟩ := @passed_endCycle options agent
      { cycle with nextPollAfterMs := _ }
    exact .goesOn trivial ⟨hkeeps, hlate, hfailed⟩
  · rename_i happlied _ _ _
    exact .ignored (fun desired artifacts hcall hreply => happlied desired artifacts hcall hreply)
      rfl rfl rfl

/-- The cycle in flight is another one. -/
def withCycle (agent : HostAgent) (cycle : ReconcileCycle) : HostAgent :=
  { agent with cycles := agent.cycles.set 0 cycle }

end HostAgent

end Hardess
