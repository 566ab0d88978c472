import Hardess.Control.HostAgent
import Hardess.Lib.Machine

/-!
# The host agent keeps polling

The loop of `src/runtime/control/host-agent.ts` over whole runs.

* `HostAgent.Sound`: what holds in every state: one cycle, one timer, no timer of a stopped agent,
  and the revision of the last desired state that was applied;
* `HostAgent.KeepsPolling`: the same with what keeps a running agent alive;
* `HostAgent.KeepsAlive`: the steps that do not break the loop;
* **`keepsPolling_iff`**: along a run the agent keeps polling exactly when every step is one;
* `not_keepsPolling`: an agent that is started again too early.
-/

namespace Hardess

namespace HostAgent

variable {options : HostAgentOptions} {agent : HostAgent}

/-! ### Statements -/

/-- A running agent has a cycle whose `scheduleNextPoll` is ahead, or a timer. -/
def Polls (agent : HostAgent) : Prop :=
  agent.running = true → (∃ cycle ∈ agent.cycles, cycle.awaits.isSome) ∨ agent.armed ≠ []

/-- The agent keeps polling. -/
structure KeepsPolling (agent : HostAgent) : Prop where
  oneCycle : agent.cycles.length ≤ 1
  oneTimer : agent.armed.length ≤ 1
  polls : agent.Polls
  stopped : agent.running = false → agent.armed = []
  revision : agent.desiredRevision = agent.applied.getLast?

/-- What holds in every state. -/
structure Sound (agent : HostAgent) : Prop where
  inFlight : (agent.cycles = [] ∧ agent.cycleInFlight = false) ∨
    ((∃ cycle, agent.cycles = [cycle]) ∧ agent.cycleInFlight = true)
  armed : agent.armed = agent.pollTimer.toList
  stopped : agent.running = false → agent.pollTimer = none
  revision : agent.desiredRevision = agent.applied.getLast?

/-- The step does not break the loop: the agent is not started, and its timer does not fire, while
a cycle that has ended is still the one in flight; and no cycle fails with an error without a text
when the agent runs without a timer. -/
def KeepsAlive (agent : HostAgent) : HostAgentEvent → Prop
  | .start => agent.running = false → ∀ cycle ∈ agent.cycles, cycle.awaits.isSome
  | .fire timer => timer ∈ agent.armed → ∀ cycle ∈ agent.cycles, cycle.awaits.isSome
  | .settle i reply =>
    reply = .rejected none → (∃ cycle, agent.cycles[i]? = some cycle ∧ cycle.awaits.isSome) →
      agent.running = true → agent.armed ≠ []
  | _ => True

theorem Sound.keepsPolling_iff_polls (h : agent.Sound) : agent.KeepsPolling ↔ agent.Polls := by
  refine ⟨fun hk => hk.polls, fun hpolls => ⟨?_, ?_, hpolls, ?_, h.revision⟩⟩
  · rcases h.inFlight with ⟨hnil, -⟩ | ⟨⟨cycle, hcycle⟩, -⟩
    · rw [hnil]
      exact Nat.zero_le 1
    · rw [hcycle]
      exact le_refl 1
  · rw [h.armed]
    cases agent.pollTimer <;> simp
  · intro hrunning
    rw [h.armed, h.stopped hrunning]
    rfl

theorem sound_create : Sound {} := ⟨.inl ⟨rfl, rfl⟩, rfl, fun _ => rfl, rfl⟩

theorem polls_create : Polls {} := fun h => nomatch h

/-! ### Calls and timers -/

theorem Sound.reconcileOnce (h : agent.Sound) : (agent.reconcileOnce options).Sound := by
  unfold HostAgent.reconcileOnce
  rcases h.inFlight with ⟨hnil, hfree⟩ | ⟨-, hflight⟩
  · rw [if_neg (by simp [hfree])]
    exact ⟨.inr ⟨⟨_, by rw [hnil]; rfl⟩, rfl⟩, h.armed, h.stopped, h.revision⟩
  · rw [if_pos hflight]
    exact h

/-- A call of `reconcileOnce` shares a cycle or begins one. -/
theorem Sound.polls_reconcileOnce_iff (h : agent.Sound) :
    (agent.reconcileOnce options).Polls ↔
      (agent.running = true →
        (∀ cycle ∈ agent.cycles, cycle.awaits.isSome) ∨ agent.armed ≠ []) := by
  unfold HostAgent.reconcileOnce
  rcases h.inFlight with ⟨hnil, hfree⟩ | ⟨⟨cycle, hcycle⟩, hflight⟩
  · rw [if_neg (by simp [hfree])]
    simp [Polls, hnil]
  · rw [if_pos hflight]
    simp [Polls, hcycle]

theorem Sound.start (h : agent.Sound) : (agent.start options).Sound := by
  unfold HostAgent.start
  split_ifs with hrunning
  · exact h
  · have hstarted : Sound { agent with running := true } :=
      ⟨h.inFlight, h.armed, nofun, h.revision⟩
    exact hstarted.reconcileOnce

/-- A stopped agent has no timer, so the cycle in flight has to arm one. -/
theorem Sound.polls_start_iff (h : agent.Sound) (hpolls : agent.Polls) :
    (agent.start options).Polls ↔ agent.KeepsAlive .start := by
  unfold HostAgent.start
  split_ifs with hrunning
  · exact iff_of_true hpolls fun hstopped => nomatch hrunning.symm.trans hstopped
  · have hstopped : agent.running = false := Bool.eq_false_iff.2 hrunning
    have hstarted : Sound { agent with running := true } :=
      ⟨h.inFlight, h.armed, nofun, h.revision⟩
    have hnone : agent.armed = [] := by
      rw [h.armed, h.stopped hstopped]
      rfl
    rw [hstarted.polls_reconcileOnce_iff]
    simp [KeepsAlive, hstopped, hnone]

/-- The timer that is cleared is the only one. -/
theorem Sound.armed_filter (h : agent.Sound) :
    (agent.armed.filter fun t => some t ≠ agent.pollTimer) = [] := by
  rw [h.armed, List.filter_eq_nil_iff]
  intro t ht
  simpa using (Option.mem_toList.1 ht).symm

theorem Sound.stop (h : agent.Sound) : agent.stop.Sound := by
  unfold HostAgent.stop
  cases htimer : agent.pollTimer with
  | none => exact ⟨h.inFlight, h.armed.trans (by rw [htimer]), fun _ => rfl, h.revision⟩
  | some timer =>
    refine ⟨h.inFlight, ?_, fun _ => rfl, h.revision⟩
    change (agent.armed.filter fun t => some t ≠ some timer) = []
    rw [← htimer]
    exact h.armed_filter

theorem polls_stop : agent.stop.Polls := by
  unfold HostAgent.stop Polls
  cases agent.pollTimer <;> exact fun hrunning => nomatch hrunning

/-- The timer that fires is the one of the agent, which runs. -/
theorem Sound.of_mem_armed (h : agent.Sound) {timer : ℕ} (ht : timer ∈ agent.armed) :
    agent.armed = [timer] ∧ agent.running = true := by
  rw [h.armed, Option.mem_toList] at ht
  refine ⟨by rw [h.armed, ht]; rfl, ?_⟩
  by_contra hrunning
  rw [h.stopped (Bool.eq_false_iff.2 hrunning)] at ht
  exact nomatch ht

theorem Sound.fired (h : agent.Sound) {timer : ℕ} (ht : timer ∈ agent.armed) :
    Sound { agent with armed := agent.armed.erase timer, pollTimer := none } := by
  refine ⟨h.inFlight, ?_, fun _ => rfl, h.revision⟩
  rw [(h.of_mem_armed ht).1, List.erase_cons_head]
  rfl

theorem Sound.fire (h : agent.Sound) (timer : ℕ) : (agent.fire options timer).Sound := by
  unfold HostAgent.fire
  split_ifs with ht
  · exact (h.fired ht).reconcileOnce
  · exact h

theorem Sound.polls_fire_iff (h : agent.Sound) (hpolls : agent.Polls) (timer : ℕ) :
    (agent.fire options timer).Polls ↔ agent.KeepsAlive (.fire timer) := by
  unfold HostAgent.fire
  split_ifs with ht
  · obtain ⟨harmed, hrunning⟩ := h.of_mem_armed ht
    rw [(h.fired ht).polls_reconcileOnce_iff]
    simp [KeepsAlive, harmed, hrunning]
  · exact iff_of_true hpolls fun hmem => absurd hmem ht

/-! ### Cycles -/

theorem Sound.getElem?_cycles (h : agent.Sound) {i : ℕ} {cycle : ReconcileCycle}
    (hi : agent.cycles[i]? = some cycle) : i = 0 ∧ agent.cycles = [cycle] := by
  rcases h.inFlight with ⟨hnil, -⟩ | ⟨⟨cycle', hcycle'⟩, -⟩
  · rw [hnil] at hi
    exact (nomatch hi)
  · rw [hcycle', List.getElem?_singleton] at hi
    split_ifs at hi with hi0
    exact ⟨hi0, hcycle'.trans (by rw [Option.some.inj hi])⟩

/-- Only the cycle in flight goes on. -/
theorem Sound.settle_cases (h : agent.Sound) (i : ℕ) (reply : HostReply) :
    ((∀ cycle, agent.cycles[i]? = some cycle → cycle.awaits = none) ∧
      agent.settle options i reply = agent) ∨
    ∃ cycle call, i = 0 ∧ agent.cycles = [cycle] ∧ cycle.awaits = some call ∧
      agent.settle options i reply =
        { (agent.resume options cycle call reply).1 with
          cycles := (agent.resume options cycle call reply).1.cycles.set 0
            (agent.resume options cycle call reply).2 } := by
  unfold settle
  cases hi : agent.cycles[i]? with
  | none => exact .inl ⟨fun _ hcycle => (nomatch hcycle), rfl⟩
  | some cycle =>
    have hone := h.getElem?_cycles hi
    dsimp only
    cases hawaits : cycle.awaits with
    | none =>
      refine .inl ⟨fun cycle' hcycle' => ?_, rfl⟩
      rw [← Option.some.inj hcycle', hawaits]
    | some call =>
      refine .inr ⟨cycle, call, hone.1, hone.2, hawaits, ?_⟩
      rw [hone.1]

/-- The next poll is scheduled if the agent runs. -/
theorem Sound.scheduleNextPoll (h : agent.Sound) (delayMs : JsNumber) :
    (agent.scheduleNextPoll delayMs).Sound ∧
      (agent.scheduleNextPoll delayMs).cycles = agent.cycles ∧
      ((agent.scheduleNextPoll delayMs).running = true →
        (agent.scheduleNextPoll delayMs).armed ≠ []) := by
  unfold HostAgent.scheduleNextPoll
  dsimp only
  split_ifs with hrunning
  · refine ⟨⟨h.inFlight, ?_, fun hstopped => ?_, h.revision⟩, rfl, fun _ => List.cons_ne_nil _ _⟩
    · exact congrArg (List.cons _) h.armed_filter
    · exact (nomatch hrunning.symm.trans hstopped)
  · exact ⟨⟨h.inFlight, h.armed, h.stopped, h.revision⟩, rfl, fun hr => absurd hr hrunning⟩

/-- Nothing that matters here has changed. -/
theorem Sound.of_untouched {agent' : HostAgent} (h : agent.Sound)
    (huntouched : Untouched agent agent') : agent'.Sound where
  inFlight := by
    rw [huntouched.cycles, huntouched.cycleInFlight]
    exact h.inFlight
  armed := by rw [huntouched.armed, huntouched.pollTimer, h.armed]
  stopped hstopped := by
    rw [huntouched.running] at hstopped
    rw [huntouched.pollTimer, h.stopped hstopped]
  revision := huntouched.revision h.revision

/-- The cycle in flight is another one. -/
theorem Sound.withCycle (h : agent.Sound) {cycle : ReconcileCycle}
    (hcycle : agent.cycles = [cycle]) (cycle' : ReconcileCycle) :
    Sound { agent with cycles := agent.cycles.set 0 cycle' } := by
  refine ⟨.inr ⟨⟨cycle', ?_⟩, ?_⟩, h.armed, h.stopped, h.revision⟩
  · change agent.cycles.set 0 cycle' = [cycle']
    rw [hcycle, List.set_cons_zero]
  · rcases h.inFlight with ⟨hnil, -⟩ | ⟨-, hflight⟩
    · rw [hnil] at hcycle
      exact (nomatch hcycle)
    · exact hflight

/-- A cycle that goes on awaits again, or leaves a running agent with a timer. -/
theorem Sound.resumed (h : agent.Sound) {cycle : ReconcileCycle} (hcycle : agent.cycles = [cycle])
    {r : HostAgent × ReconcileCycle} (hr : Resumed agent r) :
    Sound { r.1 with cycles := r.1.cycles.set 0 r.2 } ∧
      Polls { r.1 with cycles := r.1.cycles.set 0 r.2 } := by
  cases hr with
  | @awaits agent' cycle' untouched hawaits =>
    have hcycle' := untouched.cycles.trans hcycle
    refine ⟨(h.of_untouched untouched).withCycle hcycle' cycle', fun _ =>
      .inl ⟨cycle', ?_, hawaits⟩⟩
    change cycle' ∈ agent'.cycles.set 0 cycle'
    rw [hcycle', List.set_cons_zero]
    exact List.mem_singleton_self cycle'
  | @ended agent' cycle' untouched hended delayMs =>
    obtain ⟨hsound, hcycles, harmed⟩ := (h.of_untouched untouched).scheduleNextPoll delayMs
    have hcycle' := hcycles.trans (untouched.cycles.trans hcycle)
    exact ⟨hsound.withCycle hcycle' cycle', fun hrunning => .inr (harmed hrunning)⟩

theorem Sound.settle (h : agent.Sound) (i : ℕ) (reply : HostReply) :
    (agent.settle options i reply).Sound := by
  obtain ⟨-, hsame⟩ | ⟨cycle, call, -, hcycle, -, hsettle⟩ :=
    @settle_cases options agent h i reply
  · rw [hsame]
    exact h
  · rw [hsettle]
    by_cases hreply : reply = .rejected none
    · rw [hreply, resume_rejected_none]
      exact h.withCycle hcycle _
    · exact (h.resumed hcycle (resume_cases call hreply)).1

theorem Sound.polls_settle_iff (h : agent.Sound) (hpolls : agent.Polls) (i : ℕ)
    (reply : HostReply) :
    (agent.settle options i reply).Polls ↔ agent.KeepsAlive (.settle i reply) := by
  obtain ⟨hnone, hsame⟩ | ⟨cycle, call, rfl, hcycle, hawaits, hsettle⟩ :=
    @settle_cases options agent h i reply
  · rw [hsame]
    refine iff_of_true hpolls ?_
    rintro - ⟨cycle, hi, hawaits⟩
    rw [hnone cycle hi] at hawaits
    exact (nomatch hawaits)
  · rw [hsettle]
    by_cases hreply : reply = .rejected none
    · rw [hreply, resume_rejected_none]
      simp [Polls, KeepsAlive, hcycle, hawaits]
    · exact iff_of_true (h.resumed hcycle (resume_cases call hreply)).2 fun hr => absurd hr hreply

/-- Only a cycle that has ended is let go of. -/
theorem Sound.release_cases (h : agent.Sound) (i : ℕ) :
    agent.release i = agent ∨
      ∃ cycle, agent.cycles = [cycle] ∧ cycle.awaits = none ∧
        agent.release i = { agent with cycleInFlight := false, cycles := [] } := by
  unfold release
  cases hi : agent.cycles[i]? with
  | none => exact .inl rfl
  | some cycle =>
    obtain ⟨rfl, hcycle⟩ := h.getElem?_cycles hi
    dsimp only
    split_ifs with hawaits
    · exact .inl rfl
    · refine .inr ⟨cycle, hcycle, Option.not_isSome_iff_eq_none.1 hawaits, ?_⟩
      rw [hcycle, List.eraseIdx_zero, List.tail_cons]

theorem Sound.release (h : agent.Sound) (i : ℕ) : (agent.release i).Sound := by
  obtain hsame | ⟨cycle, -, -, hrelease⟩ := h.release_cases i
  · rw [hsame]
    exact h
  · rw [hrelease]
    exact ⟨.inl ⟨rfl, rfl⟩, h.armed, h.stopped, h.revision⟩

/-- The timer of a running agent was armed when its cycle ended. -/
theorem Sound.polls_release (h : agent.Sound) (hpolls : agent.Polls) (i : ℕ) :
    (agent.release i).Polls := by
  obtain hsame | ⟨cycle, hcycle, hended, hrelease⟩ := h.release_cases i
  · rw [hsame]
    exact hpolls
  · rw [hrelease]
    intro hrunning
    refine .inr ((hpolls hrunning).resolve_left ?_)
    rw [hcycle]
    simp [hended]

/-! ### Runs -/

theorem sound_step (h : agent.Sound) (e : HostAgentEvent) : (agent.step options e).Sound := by
  cases e with
  | start => exact h.start
  | stop => exact h.stop
  | reconcileOnce => exact h.reconcileOnce
  | fire timer => exact h.fire timer
  | settle i reply => exact h.settle i reply
  | release i => exact h.release i

theorem polls_step_iff (h : agent.Sound) (hpolls : agent.Polls) (e : HostAgentEvent) :
    (agent.step options e).Polls ↔ agent.KeepsAlive e := by
  cases e with
  | start => exact h.polls_start_iff hpolls
  | stop => exact iff_of_true polls_stop trivial
  | reconcileOnce =>
    refine iff_of_true (h.polls_reconcileOnce_iff.2 fun hrunning => ?_) trivial
    refine (hpolls hrunning).imp_left ?_
    rintro ⟨cycle, hmem, hawaits⟩ cycle' hmem'
    rcases h.inFlight with ⟨hnil, -⟩ | ⟨⟨c, hc⟩, -⟩
    · rw [hnil] at hmem
      exact (nomatch hmem)
    · rw [hc, List.mem_singleton] at hmem hmem'
      rw [hmem', ← hmem]
      exact hawaits
  | fire timer => exact h.polls_fire_iff hpolls timer
  | settle i reply => exact h.polls_settle_iff hpolls i reply
  | release i => exact iff_of_true (h.polls_release hpolls i) trivial

/-- What holds of every run. -/
theorem sound_run (options : HostAgentOptions) (es : List HostAgentEvent) :
    (Machine.run (step options) {} es).Sound :=
  Machine.run_invariant sound_create (fun _ e h => sound_step h e) es

/-- **Along a run the agent keeps polling exactly when no step breaks the loop.** -/
theorem keepsPolling_iff (options : HostAgentOptions) (es : List HostAgentEvent) :
    (∀ pre post, es = pre ++ post → (Machine.run (step options) {} pre).KeepsPolling) ↔
      Machine.Along (step options) KeepsAlive {} es := by
  rw [← Machine.prefixes_iff_along es sound_create polls_create
    (fun s e h => @sound_step options s h e) fun _ e h hpolls => polls_step_iff h hpolls e]
  simp only [(sound_run options _).keepsPolling_iff_polls]

/-- A cycle finds nothing to do; the agent is stopped, and is started again when the cycle has ended
and `reconcileOnce` has not gone on. -/
def restarted : List HostAgentEvent :=
  [.start, .settle 0 (.registration { hostId := js "host-a" }),
    .settle 0 (.registered true (js "host-a") none), .settle 0 (.desired false none),
    .settle 0 (.observed
      { hostId := js "host-a", ready := true, draining := false, currentAssignmentCount := 0
        assignmentStatuses := [] }),
    .stop, .settle 0 (.heartbeat none), .start, .release 0]

/-- The agent runs without a cycle and without a timer. -/
theorem not_keepsPolling :
    ¬∀ (options : HostAgentOptions) (es : List HostAgentEvent),
      (Machine.run (step options) {} es).KeepsPolling := by
  intro h
  have hstuck : let agent := Machine.run (step {}) {} restarted
      agent.running = true ∧ agent.cycles.length = 0 ∧ agent.armed = [] := by
    decide +kernel
  obtain ⟨hrunning, hcycles, harmed⟩ := hstuck
  rcases (h {} restarted).polls hrunning with ⟨cycle, hmem, -⟩ | hne
  · rw [List.length_eq_zero_iff.1 hcycles] at hmem
    exact (nomatch hmem)
  · exact hne harmed

end HostAgent

end Hardess
