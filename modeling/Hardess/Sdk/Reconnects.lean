import Hardess.Sdk.WebSocketTransport

/-!
# The reconnection of the client transport

`src/sdk/transport/ws.ts` over whole runs, with hooks that call the transport again.

* `WebSocketTransport.Sound`: what holds in every state;
* `WebSocketTransport.Superseding`: a socket that is not current stays so;
* `WebSocketTransport.inStep_of_calls`: after a call every armed timer has the present delay;
* `Reconnects`: one timer, nothing opened after `close`, and the delay of a retry;
* **`reconnects_iff`**: along a run these hold exactly when no socket is closed for good beside an
  old timer;
* `not_reconnects`: a timer that is older than the last open.
-/

namespace Hardess

namespace WebSocketTransport

variable {options : TransportOptions} {transport : WebSocketTransport}

/-! ### What holds in every state -/

/-- The timers, the delay, and the sockets. -/
structure Sound (options : TransportOptions) (transport : WebSocketTransport) : Prop where
  timer : transport.armed.map Prod.fst = transport.reconnectTimer.toList
  closed : transport.manuallyClosed = true → transport.armed = []
  enabled : options.reconnectEnabled = false → transport.armed = []
  closedAt : transport.closedAt =
    if transport.manuallyClosed then some transport.nextSocket else none
  delay : transport.reconnectDelayMs = options.retryDelay transport.retries
  current : ∀ i, transport.socket = some i → i < transport.nextSocket

theorem sound_create (options : TransportOptions) : (create options).Sound options :=
  ⟨rfl, fun _ => rfl, fun _ => rfl, rfl, rfl, nofun⟩

/-- The timer of the transport is the only one. -/
theorem Sound.armed_filter (h : transport.Sound options) :
    (transport.armed.filter fun t => some t.1 ≠ transport.reconnectTimer) = [] := by
  rw [List.filter_eq_nil_iff]
  intro t ht
  have hmem := List.mem_map_of_mem (f := Prod.fst) ht
  rw [h.timer, Option.mem_toList] at hmem
  simpa using hmem.symm

theorem Sound.clearReconnectTimer (h : transport.Sound options) :
    transport.clearReconnectTimer.Sound options ∧ transport.clearReconnectTimer.armed = [] := by
  have harmed : transport.clearReconnectTimer.armed = [] := h.armed_filter
  exact ⟨⟨by rw [harmed]; rfl, fun _ => harmed, fun _ => harmed, h.closedAt, h.delay, h.current⟩,
    harmed⟩

theorem Sound.openSocket (h : transport.Sound options) (hopen : transport.manuallyClosed = false) :
    transport.openSocket.Sound options := by
  have hclosedAt := h.closedAt
  rw [hopen] at hclosedAt
  unfold WebSocketTransport.openSocket
  split_ifs
  · exact h
  · refine ⟨h.timer, h.closed, h.enabled, ?_, h.delay, fun i hi => ?_⟩
    · rw [hclosedAt, hopen]
      rfl
    · obtain rfl := Option.some.inj hi
      exact Nat.lt_succ_self _

theorem Sound.scheduleReconnect (h : transport.Sound options)
    (hopen : transport.manuallyClosed = false) (henabled : options.reconnectEnabled = true) :
    transport.scheduleReconnect.Sound options := by
  obtain ⟨hclear, harmed⟩ := h.clearReconnectTimer
  refine ⟨?_, fun hclosed => ?_, fun hdisabled => ?_, h.closedAt, h.delay, h.current⟩
  · change transport.nextTimer :: transport.clearReconnectTimer.armed.map Prod.fst = _
    rw [harmed]
    rfl
  · exact (nomatch hopen.symm.trans hclosed)
  · exact (nomatch henabled.symm.trans hdisabled)

theorem Sound.connect (h : transport.Sound options) (url : JsString) (hooks : ℕ) :
    (transport.connect url hooks).Sound options := by
  refine Sound.openSocket (Sound.clearReconnectTimer ?_).1 rfl
  exact ⟨h.timer, nofun, h.enabled, rfl, h.delay, nofun⟩

theorem Sound.beginClose (h : transport.Sound options) :
    transport.beginClose.Sound options ∧ transport.beginClose.armed = [] := by
  have harmed : transport.beginClose.armed = [] := h.armed_filter
  exact ⟨⟨by rw [harmed]; rfl, fun _ => harmed, fun _ => harmed, rfl, h.delay, h.current⟩, harmed⟩

theorem Sound.beforeHook (h : transport.Sound options) (event : TransportSocketEvent) :
    (transport.beforeHook options event).Sound options := by
  cases event with
  | opened => exact ⟨h.timer, h.closed, h.enabled, h.closedAt, rfl, h.current⟩
  | closed info => exact ⟨h.timer, h.closed, h.enabled, h.closedAt, h.delay, nofun⟩
  | message text => exact ⟨h.timer, h.closed, h.enabled, h.closedAt, h.delay, h.current⟩
  | error message => exact ⟨h.timer, h.closed, h.enabled, h.closedAt, h.delay, h.current⟩

theorem Sound.afterHook (h : transport.Sound options) (event : TransportSocketEvent) :
    (transport.afterHook options event).Sound options := by
  unfold WebSocketTransport.afterHook
  split
  · split_ifs with hretry
    · exact h.scheduleReconnect (Bool.eq_false_iff.2 hretry.1) hretry.2.1
    · exact h
  · exact h

theorem Sound.expire (h : transport.Sound options) {timer : ℕ}
    (ht : timer ∈ transport.armed.map Prod.fst) :
    (transport.expire timer).Sound options ∧ (transport.expire timer).armed = [] := by
  have harmed : (transport.expire timer).armed = [] := by
    rw [h.timer, Option.mem_toList] at ht
    rw [← h.armed_filter, ht]
    exact List.filter_congr fun t _ => by simp
  exact ⟨⟨by rw [harmed]; rfl, fun _ => harmed, fun _ => harmed, h.closedAt, h.delay, h.current⟩,
    harmed⟩

theorem Sound.fire (h : transport.Sound options) (timer : ℕ) :
    (transport.fire options timer).Sound options := by
  unfold WebSocketTransport.fire
  split_ifs with ht
  swap
  · exact h
  obtain ⟨hexpired, -⟩ := h.expire ht
  dsimp only
  split_ifs with hstale
  · exact hexpired
  · rw [not_or] at hstale
    have hopened := hexpired.openSocket (Bool.eq_false_iff.2 hstale.1)
    exact ⟨hopened.timer, hopened.closed, hopened.enabled, hopened.closedAt,
      congrArg options.nextDelay hopened.delay, hopened.current⟩

theorem related_sound (options : TransportOptions) :
    Related options fun s t => s.Sound options → t.Sound options where
  refl _ := id
  trans h h' := h' ∘ h
  connect _ url hooks h := h.connect url hooks
  send _ _ h := ⟨h.timer, h.closed, h.enabled, h.closedAt, h.delay, h.current⟩
  beginClose _ h := h.beginClose.1
  endClose _ h := ⟨h.timer, h.closed, h.enabled, h.closedAt, h.delay, nofun⟩
  beforeHook _ event h := h.beforeHook event
  afterHook _ event h := h.afterHook event
  fire _ timer h := h.fire timer

theorem sound_run (options : TransportOptions) (es : List Event) :
    (Machine.run (step options) (create options) es).Sound options :=
  (related_sound options).run _ es (sound_create options)

/-! ### Superseded sockets -/

/-- Sockets that were opened are not opened again, and a socket that is not current stays so. -/
def Superseding (s t : WebSocketTransport) : Prop :=
  s.nextSocket ≤ t.nextSocket ∧
    ∀ i < s.nextSocket, s.socket ≠ some i → t.socket ≠ some i

theorem superseding_openSocket (s : WebSocketTransport) : Superseding s s.openSocket := by
  unfold openSocket
  split_ifs
  · exact ⟨le_rfl, fun _ _ => id⟩
  · refine ⟨Nat.le_succ _, fun i hi _ hsame => ?_⟩
    obtain rfl := Option.some.inj hsame
    exact lt_irrefl _ hi

theorem superseding_connect (s : WebSocketTransport) (url : JsString) (hooks : ℕ) :
    s.nextSocket ≤ (s.connect url hooks).nextSocket ∧
      ∀ i < s.nextSocket, (s.connect url hooks).socket ≠ some i := by
  obtain ⟨hle, hsocket⟩ := superseding_openSocket
    { s with
      socket := none
      socketCalls := s.socketCalls ++ (s.socket.map TransportSocketCall.close).toList
      url := some url
      hooks
      manuallyClosed := false
      closedAt := none
      armed := s.armed.filter fun t => some t.1 ≠ s.reconnectTimer
      reconnectTimer := none }
  exact ⟨hle, fun i hi => hsocket i hi nofun⟩

theorem related_superseding (options : TransportOptions) : Related options Superseding where
  refl _ := ⟨le_rfl, fun _ _ => id⟩
  trans h h' := ⟨h.1.trans h'.1, fun i hi hs => h'.2 i (hi.trans_le h.1) (h.2 i hi hs)⟩
  connect s url hooks :=
    ⟨(superseding_connect s url hooks).1, fun i hi _ => (superseding_connect s url hooks).2 i hi⟩
  send _ _ := ⟨le_rfl, fun _ _ => id⟩
  beginClose _ := ⟨le_rfl, fun _ _ => id⟩
  endClose _ := ⟨le_rfl, fun _ _ _ => nofun⟩
  beforeHook s event := by
    cases event with
    | closed info => exact ⟨le_rfl, fun _ _ _ => nofun⟩
    | _ => exact ⟨le_rfl, fun _ _ => id⟩
  afterHook s event := by
    unfold afterHook
    split
    · split_ifs
      · exact ⟨le_rfl, fun _ _ => id⟩
      · exact ⟨le_rfl, fun _ _ => id⟩
    · exact ⟨le_rfl, fun _ _ => id⟩
  fire s timer := by
    unfold fire
    split_ifs
    · dsimp only
      split_ifs
      · exact ⟨le_rfl, fun _ _ => id⟩
      · exact superseding_openSocket (s.expire timer)
    · exact ⟨le_rfl, fun _ _ => id⟩

/-! ### The delay of a timer -/

/-- Every armed timer has the delay that the next one would get. -/
def InStep (transport : WebSocketTransport) : Prop :=
  ∀ t ∈ transport.armed, t.2 = transport.reconnectDelayMs

theorem inStep_of_armed_eq_nil (h : transport.armed = []) : transport.InStep := by
  intro t ht
  rw [h] at ht
  exact (nomatch ht)

theorem Sound.inStep_scheduleReconnect (h : transport.Sound options) :
    transport.scheduleReconnect.InStep := by
  intro t ht
  change t ∈ (transport.nextTimer, transport.reconnectDelayMs) ::
    transport.clearReconnectTimer.armed at ht
  rw [h.clearReconnectTimer.2, List.mem_singleton] at ht
  rw [ht]
  rfl

theorem Sound.armed_connect (h : transport.Sound options) (url : JsString) (hooks : ℕ) :
    (transport.connect url hooks).armed = [] := by
  unfold WebSocketTransport.connect WebSocketTransport.openSocket
  dsimp only
  split_ifs
  · exact h.armed_filter
  · exact h.armed_filter

theorem Sound.inStep_afterHook (h : transport.Sound options) (hstep : transport.InStep)
    (event : TransportSocketEvent) : (transport.afterHook options event).InStep := by
  unfold WebSocketTransport.afterHook
  split
  · split_ifs
    · exact h.inStep_scheduleReconnect
    · exact hstep
  · exact hstep

/-- A script without calls of `connect` and `close` only sends. -/
theorem runScript_silent : ∀ (script : HookScript) (s : WebSocketTransport),
    script.silent = true → ∃ calls, runScript options script s = { s with socketCalls := calls }
  | .done, s, _ => ⟨s.socketCalls, by rw [runScript]⟩
  | .send message next, s, h => by
    obtain ⟨calls, hcalls⟩ := runScript_silent next (s.send message) h
    exact ⟨calls, by rw [runScript, hcalls]; rfl⟩
  | .connect .., _, h => nomatch h
  | .close .., _, h => nomatch h

theorem socket_close (s : WebSocketTransport) (emitted : EmittedEvents) (i : ℕ) :
    (s.close options emitted).socket ≠ some i := nofun

/-- A script with such calls leaves no socket that was there before as the current one. -/
theorem socket_of_calls : ∀ (script : HookScript) (s : WebSocketTransport) (i : ℕ),
    script.silent = false → i < s.nextSocket → (runScript options script s).socket ≠ some i
  | .done, _, _, h, _ => nomatch h
  | .send message next, s, i, h, hi => by
    rw [runScript]
    exact socket_of_calls next (s.send message) i h hi
  | .connect url hooks next, s, i, _, hi => by
    rw [runScript]
    obtain ⟨hle, hsocket⟩ := superseding_connect s url hooks
    exact ((related_superseding options).runScript next _).2 i (hi.trans_le hle) (hsocket i hi)
  | .close emitted next, s, i, _, hi => by
    rw [runScript_close]
    exact ((related_superseding options).runScript next _).2 i
      (hi.trans_le ((related_superseding options).close emitted s).1) (socket_close s emitted i)

theorem armed_beforeHook (s : WebSocketTransport) (event : TransportSocketEvent) :
    (s.beforeHook options event).armed = s.armed := by
  cases event <;> rfl

theorem nextSocket_beforeHook (s : WebSocketTransport) (event : TransportSocketEvent) :
    (s.beforeHook options event).nextSocket = s.nextSocket := by
  cases event <;> rfl

theorem socket_afterHook (s : WebSocketTransport) (event : TransportSocketEvent) :
    (s.afterHook options event).socket = s.socket := by
  unfold afterHook
  split
  · split_ifs <;> rfl
  · rfl

/-- After an event of a socket without timers it is not the current one, or there are none still. -/
theorem armed_of_event {s : WebSocketTransport} {i : ℕ} (hi : i < s.nextSocket)
    (harmed : s.armed = []) (event : TransportSocketEvent) (hook : HookScript)
    (hsame : ((runScript options hook (s.beforeHook options event)).afterHook options
      event).socket = some i) :
    ((runScript options hook (s.beforeHook options event)).afterHook options event).armed = [] := by
  rw [socket_afterHook] at hsame
  cases hsilent : hook.silent with
  | false =>
    rw [← @nextSocket_beforeHook options s event] at hi
    exact absurd hsame (socket_of_calls hook _ i hsilent hi)
  | true =>
    obtain ⟨calls, hcalls⟩ := @runScript_silent options hook
      (s.beforeHook options event) hsilent
    rw [hcalls] at hsame ⊢
    cases event with
    | closed info => exact (nomatch hsame)
    | _ => exact harmed

theorem Sound.inStep_close (h : transport.Sound options) (emitted : EmittedEvents)
    (hdeliver : ∀ i < transport.nextSocket,
      (deliver options i emitted transport.beginClose).InStep) :
    (transport.close options emitted).InStep := by
  unfold WebSocketTransport.close
  dsimp only
  cases hsocket : transport.beginClose.socket with
  | none => exact inStep_of_armed_eq_nil h.beginClose.2
  | some i => exact hdeliver i (h.current i hsocket)

mutual

theorem inStep_runScript : ∀ (script : HookScript) (s : WebSocketTransport), s.Sound options →
    s.InStep → (runScript options script s).InStep
  | .done, s, _, hstep => by
    rw [runScript]
    exact hstep
  | .send message next, s, h, hstep => by
    rw [runScript]
    exact inStep_runScript next _ ((related_sound options).send s message h) hstep
  | .connect url hooks next, s, h, _ => by
    rw [runScript]
    exact inStep_runScript next _ (h.connect url hooks)
      (inStep_of_armed_eq_nil (h.armed_connect url hooks))
  | .close emitted next, s, h, _ => by
    rw [runScript_close]
    refine inStep_runScript next _ ((related_sound options).close emitted s h)
      (h.inStep_close emitted fun i hi => ?_)
    exact inStep_deliver i emitted s.beginClose h.beginClose.1 hi
      (inStep_of_armed_eq_nil h.beginClose.2) fun _ => h.beginClose.2

theorem inStep_deliver (i : ℕ) : ∀ (emitted : EmittedEvents) (s : WebSocketTransport),
    s.Sound options → i < s.nextSocket → s.InStep → (s.socket = some i → s.armed = []) →
    (deliver options i emitted s).InStep
  | .done, s, _, _, hstep, _ => by
    rw [deliver]
    exact hstep
  | .event event hook next, s, h, hi, hstep, hcurrent => by
    rw [deliver]
    by_cases hsocket : s.socket = some i
    · rw [if_neg (not_not.2 hsocket)]
      have harmed := hcurrent hsocket
      have hbefore := h.beforeHook event
      have hscript := (related_sound options).runScript hook _ hbefore
      have hscriptStep := inStep_runScript hook _ hbefore
        (inStep_of_armed_eq_nil ((armed_beforeHook s event).trans harmed))
      refine inStep_deliver i next _ (hscript.afterHook event) ?_
        (hscript.inStep_afterHook hscriptStep event) (armed_of_event hi harmed event hook)
      have hscriptLe :=
        ((related_superseding options).runScript hook (s.beforeHook options event)).1
      have hafterLe := ((related_superseding options).afterHook
        (runScript options hook (s.beforeHook options event)) event).1
      rw [← @nextSocket_beforeHook options s event] at hi
      exact hi.trans_le (hscriptLe.trans hafterLe)
    · rw [if_pos hsocket]
      exact inStep_deliver i next s h hi hstep hcurrent

end

/-- **After a call every timer is in step.** -/
theorem inStep_of_calls : ∀ (script : HookScript) (s : WebSocketTransport), s.Sound options →
    script.silent = false → (runScript options script s).InStep
  | .done, _, _, hcalls => nomatch hcalls
  | .send message next, s, h, hcalls => by
    rw [runScript]
    exact inStep_of_calls next _ ((related_sound options).send s message h) hcalls
  | .connect url hooks next, s, h, _ => by
    rw [runScript]
    exact inStep_runScript next _ (h.connect url hooks)
      (inStep_of_armed_eq_nil (h.armed_connect url hooks))
  | .close emitted next, s, h, _ => by
    rw [runScript_close]
    refine inStep_runScript next _ ((related_sound options).close emitted s h)
      (h.inStep_close emitted fun i hi => ?_)
    exact inStep_deliver i emitted s.beginClose h.beginClose.1 hi
      (inStep_of_armed_eq_nil h.beginClose.2) fun _ => h.beginClose.2

/-! ### Runs -/

/-- One timer; no socket is opened between `close` and the next `connect`; and a retry waits as long
as the number of retries since the last open says. -/
structure Reconnects (options : TransportOptions) (transport : WebSocketTransport) : Prop where
  oneTimer : transport.armed.length ≤ 1
  closed : ∀ n, transport.closedAt = some n → transport.nextSocket = n
  waits : transport.socket = none → ∀ t ∈ transport.armed,
    t.2 = options.retryDelay transport.retries

/-- Without a current socket, the timer is in step. -/
def Waits (transport : WebSocketTransport) : Prop := transport.socket = none → transport.InStep

/-- No socket is closed for good beside a timer with another delay; a hook that calls `connect` or
`close` clears it. -/
def NoOldTimer (options : TransportOptions) (transport : WebSocketTransport) : Event → Prop
  | .socketEvent i (.closed info) hook =>
    transport.socket = some i → hook.silent = true →
      options.shouldReconnectOnClose info = true ∨ transport.InStep
  | _ => True

theorem Sound.reconnects_iff_waits (h : transport.Sound options) :
    transport.Reconnects options ↔ transport.Waits := by
  have hone : transport.armed.length ≤ 1 := by
    rw [← List.length_map (f := Prod.fst), h.timer]
    cases transport.reconnectTimer <;> simp
  have hclosed : ∀ n, transport.closedAt = some n → transport.nextSocket = n := by
    intro n hn
    have hclosedAt := h.closedAt
    split_ifs at hclosedAt
    · exact Option.some.inj (hclosedAt.symm.trans hn)
    · exact (nomatch hclosedAt.symm.trans hn)
  constructor
  · intro hreconnects hsocket t ht
    rw [h.delay]
    exact hreconnects.waits hsocket t ht
  · intro hwaits
    refine ⟨hone, hclosed, fun hsocket t ht => ?_⟩
    rw [← h.delay]
    exact hwaits hsocket t ht

theorem waits_create (options : TransportOptions) : (create options).Waits := fun _ =>
  inStep_of_armed_eq_nil rfl

theorem Sound.inStep_fire (h : transport.Sound options) (hwaits : transport.Waits) (timer : ℕ) :
    (transport.fire options timer).Waits := by
  unfold WebSocketTransport.fire
  split_ifs with ht
  · have harmed := (h.expire ht).2
    dsimp only
    split_ifs
    · exact fun _ => inStep_of_armed_eq_nil harmed
    · refine fun _ => inStep_of_armed_eq_nil ?_
      change (transport.expire timer).openSocket.armed = []
      unfold WebSocketTransport.openSocket
      split_ifs
      · exact harmed
      · exact harmed
  · exact hwaits

/-- A closed socket takes its hook and its reconnection with it, or leaves the timer that there
is. -/
theorem Sound.waits_closed_iff (h : transport.Sound options) {info : TransportCloseInfo}
    {hook : HookScript} (hsilent : hook.silent = true) :
    ((runScript options hook (transport.beforeHook options (.closed info))).afterHook options
      (.closed info)).Waits ↔
        options.shouldReconnectOnClose info = true ∨ transport.InStep := by
  have hscript := (related_sound options).runScript hook _ (h.beforeHook (.closed info))
  obtain ⟨calls, hcalls⟩ := @runScript_silent options hook
    (transport.beforeHook options (.closed info)) hsilent
  rw [hcalls] at hscript ⊢
  unfold WebSocketTransport.afterHook
  dsimp only
  split_ifs with hretry
  · exact iff_of_true (fun _ => hscript.inStep_scheduleReconnect) (.inl hretry.2.2)
  · constructor
    · intro hwaits
      exact .inr (hwaits rfl)
    · rintro (hshould | hstep)
      · refine fun _ => inStep_of_armed_eq_nil ?_
        -- nothing is armed when the transport does not retry
        by_cases hclosed : transport.manuallyClosed = true
        · exact h.closed hclosed
        · refine h.enabled (Bool.eq_false_iff.2 fun henabled => hretry ?_)
          exact ⟨hclosed, henabled, hshould⟩
      · exact fun _ => hstep

theorem Sound.waits_step_iff (h : transport.Sound options) (hwaits : transport.Waits) (e : Event) :
    (transport.step options e).Waits ↔ transport.NoOldTimer options e := by
  cases e with
  | calls script =>
    refine iff_of_true ?_ trivial
    cases hsilent : script.silent with
    | true =>
      obtain ⟨calls, hcalls⟩ := @runScript_silent options script transport hsilent
      rw [WebSocketTransport.step, hcalls]
      exact hwaits
    | false => exact fun _ => inStep_of_calls script transport h hsilent
  | fire timer => exact iff_of_true (h.inStep_fire hwaits timer) trivial
  | socketEvent i event hook =>
    rw [WebSocketTransport.step, deliver, deliver]
    -- the events of a socket that was replaced are ignored
    by_cases hsocket : transport.socket = some i
    swap
    · rw [if_pos hsocket]
      refine iff_of_true hwaits ?_
      cases event with
      | closed info => exact fun hsame => absurd hsame hsocket
      | _ => trivial
    rw [if_neg (not_not.2 hsocket)]
    cases hsilent : hook.silent with
    | false =>
      -- a hook that calls the transport leaves it as its last call does
      have hbefore := h.beforeHook event
      have hscript := (related_sound options).runScript hook _ hbefore
      have hstep := inStep_of_calls hook _ hbefore hsilent
      refine iff_of_true (fun _ => hscript.inStep_afterHook hstep event) ?_
      cases event with
      | closed info => exact fun _ hsilent' => nomatch hsilent.symm.trans hsilent'
      | _ => trivial
    | true =>
      cases event with
      | closed info =>
        -- a silent hook: only here a timer from before can be left
        rw [h.waits_closed_iff hsilent]
        exact ⟨fun hor _ _ => hor, fun himp => himp hsocket hsilent⟩
      | _ =>
        obtain ⟨calls, hcalls⟩ := @runScript_silent options hook
          (transport.beforeHook options _) hsilent
        refine iff_of_true (fun hnone => ?_) trivial
        rw [socket_afterHook, hcalls] at hnone
        exact (nomatch hsocket.symm.trans hnone)

/-- A socket that is not current stays so, and its events do nothing: they reach no hook. -/
def Supersedes (options : TransportOptions) (es : List Event) : Prop :=
  ∀ pre post i, es = pre ++ post →
    i < (Machine.run (step options) (create options) pre).nextSocket →
    (Machine.run (step options) (create options) pre).socket ≠ some i →
    (Machine.run (step options) (create options) es).socket ≠ some i ∧
      ∀ event hook, (Machine.run (step options) (create options) es).step options
        (.socketEvent i event hook) = Machine.run (step options) (create options) es

theorem supersedes (options : TransportOptions) (es : List Event) : Supersedes options es := by
  rintro pre post i rfl hi hsocket
  rw [Machine.run_append]
  have hlater := ((related_superseding options).run _ post).2 i hi hsocket
  refine ⟨hlater, fun event hook => ?_⟩
  rw [WebSocketTransport.step, deliver, deliver, if_pos hlater]

/-- **Along a run the transport reconnects as it should exactly when no socket is closed for good
beside an old timer.** -/
theorem reconnects_iff (options : TransportOptions) (es : List Event) :
    (Supersedes options es ∧ ∀ pre post, es = pre ++ post →
      (Machine.run (step options) (create options) pre).Reconnects options) ↔
    Machine.Along (step options) (NoOldTimer options) (create options) es := by
  rw [← Machine.prefixes_iff_along es (sound_create options) (waits_create options)
    (fun s e h => (related_sound options).step s e h) fun _ e h hwaits => h.waits_step_iff hwaits e]
  simp only [(sound_run options _).reconnects_iff_waits, supersedes, true_and]

/-- Two sockets fail. The hook of the second calls `connect`, so that a third is current beside the
timer of the retry; it opens, and is closed for good. -/
def reconnectedByHook : List Event :=
  [.calls (.connect (js "ws://localhost/ws") 0 .done), .socketEvent 0 (.closed {}) .done, .fire 1,
    .socketEvent 1 (.closed {}) (.connect (js "ws://localhost/ws") 0 .done),
    .socketEvent 2 .opened .done,
    .socketEvent 2 (.closed { code := some 4401 }) .done]

/-- The timer of the retry waits twice the initial delay, though the last open has reset it; then it
opens a socket. -/
theorem not_reconnects :
    ¬(Machine.run (step {}) (create {}) reconnectedByHook).Reconnects {} ∧
      (Machine.run (step {}) (create {}) (reconnectedByHook ++ [.fire 2])).socket = some 3 := by
  have hrun : let transport := Machine.run (step {}) (create {}) reconnectedByHook
      transport.socket = none ∧ transport.retries = 0 ∧
        transport.armed = [(2, .ofNat 1000)] := by
    decide +kernel
  obtain ⟨hsocket, hretries, harmed⟩ := hrun
  refine ⟨fun h => ?_, by decide +kernel⟩
  have hwaits := h.waits hsocket (2, .ofNat 1000)
    (by rw [harmed]; exact List.mem_singleton_self _)
  rw [hretries] at hwaits
  exact absurd hwaits (by decide +kernel)

end WebSocketTransport

end Hardess
