import Hardess.Cluster.HealthStep
import Hardess.Lib.Machine

/-!
# How long a peer stays suspect

A suspect peer is declared dead after `suspectTimeoutMs`. The timer is armed when the peer
becomes suspect, and `ensureSuspectTimer` keeps an armed timer; but `applyRumor` and
`applyLocalStatus` clear it first, so evidence that comes in through them arms a new one.

* **`armed_iff_suspect`**: along a run the suspect entries have their timers, and no other timer
  is pending;
* `SuspicionRecord`: the store, with the time from which each peer is under suspicion;
* `SuspectAgain`: the evidence that arms a new timer;
* **`deadline_kept_iff`**: along a run the deadline of no peer moves exactly when no such
  evidence comes in later than the suspicion began.
-/

namespace Hardess

namespace ClusterPeerHealthStore

variable {st : ClusterPeerHealthStore}

/-! ### Dead timers -/

/-- The dead timer of an entry is pending, and it is the peer of the entry that it declares dead. -/
def Armed (st : ClusterPeerHealthStore) (e : ClusterPeerHealthEntry) : Prop :=
  ∃ h t, e.deadTimer = some h ∧ st.timers.get h = some t ∧ t.nodeId = e.nodeId

theorem Good.armed_iff (hg : st.Good) {n : JsString} {e : ClusterPeerHealthEntry}
    (he : st.entries.get n = some e) : st.Armed e ↔ e.status = .suspect := by
  rw [hg.suspect_iff n e he]
  constructor
  · rintro ⟨h, t, hh, -, -⟩ hnone
    rw [hnone] at hh
    cases hh
  · intro hsome
    obtain ⟨h, hh⟩ := Option.ne_none_iff_exists'.1 hsome
    obtain ⟨t, ht, hn⟩ := hg.pending n e h he hh
    exact ⟨h, t, hh, ht, hn.trans (hg.key n e he).symm⟩

/-- **Along a run an entry has an armed dead timer exactly when it is suspect, and every pending
timer is the dead timer of the entry that is held for its peer.** -/
theorem armed_iff_suspect (suspectTimeoutMs clock : ℕ) (es : List Event) :
    let st := Machine.run step (create suspectTimeoutMs clock) es
    (∀ n e, st.entries.get n = some e → (st.Armed e ↔ e.status = .suspect)) ∧
      ∀ h t, st.timers.get h = some t →
        ∃ e, st.entries.get t.nodeId = some e ∧ e.deadTimer = some h := by
  intro st
  have hg : st.Good := good_run (good_create suspectTimeoutMs clock) es
  exact ⟨fun n e he => hg.armed_iff he, hg.owner⟩

/-! ### Evidence that arms a new timer -/

/-- A suspect observation or rumor about `n` that the store applies, other than a repeated local
observation of a suspicion that is local already. -/
def SuspectAgain (st : ClusterPeerHealthStore) (n : JsString) : Event → Prop
  | .markSuspect m _ => m = n ∧ st.isUnknownPeer n = false ∧
      ¬((st.entry n).status = .suspect ∧ (st.entry n).source = .localSource)
  | .applyRumor rumor _ => rumor.nodeId = n ∧ st.isUnknownPeer n = false ∧
      rumor.status = .suspect ∧ shouldApplyRumor (st.entry n) rumor = true
  | _ => False

/-- Exactly this evidence gives a peer a new timer. -/
theorem outcome_eq_suspect_iff (n : JsString) (e : Event) :
    st.outcome n e = .become .suspect ↔ st.SuspectAgain n e := by
  cases e with
  | noteKnownPeers nodeIds => simp only [outcome, SuspectAgain]; split_ifs <;> simp
  | markAlive m detail =>
    simp only [outcome, SuspectAgain, localOutcome]; split_ifs <;> simp
  | markSuspect m detail =>
    simp only [outcome, SuspectAgain, localOutcome, ReportedStatus.toStatus]
    by_cases hm : m = n
    · subst hm
      cases hk : st.isUnknownPeer m <;> simp
    · simp [hm]
  | markDead m detail =>
    simp only [outcome, SuspectAgain, localOutcome]; split_ifs <;> simp
  | applyRumor rumor by' =>
    simp only [outcome, SuspectAgain, rumorOutcome]
    by_cases hm : rumor.nodeId = n
    · subst hm
      cases hk : st.isUnknownPeer rumor.nodeId <;>
        cases hr : shouldApplyRumor (st.entry rumor.nodeId) rumor <;> simp
    · simp [hm]
  | dispose => simp [outcome, SuspectAgain]
  | timerFires h =>
    simp only [outcome, SuspectAgain]
    split
    · split_ifs <;> simp
    · simp
  | advance ms => simp [outcome, SuspectAgain]

theorem getStatus_eq_peer (n : JsString) :
    st.getStatus n = ((st.peer n).map Prod.fst).getD .unknown := by
  unfold getStatus peer
  cases st.entries.get n <;> rfl

end ClusterPeerHealthStore

open ClusterPeerHealthStore (Event)

/-- A store, with the time from which each peer is under suspicion: that of the event that made
it suspect, kept while nothing alive was applied to it. -/
structure SuspicionRecord where
  store : ClusterPeerHealthStore
  suspectSince : JsString → Option ℕ

namespace SuspicionRecord

/-- The record of a new store. -/
def create (suspectTimeoutMs clock : ℕ) : SuspicionRecord :=
  ⟨.create suspectTimeoutMs clock, fun _ => none⟩

/-- The start of the suspicion of a peer that has the given status at time `now`. -/
def since (now : ℕ) (old : Option ℕ) : ClusterPeerHealthStatus → Option ℕ
  | .suspect => some (old.getD now)
  | .dead => old
  | .alive => none
  | .unknown => none

/-- One event, recorded. -/
def step (r : SuspicionRecord) (e : Event) : SuspicionRecord where
  store := r.store.step e
  suspectSince n := since r.store.clock (r.suspectSince n) ((r.store.step e).getStatus n)

/-- The timer of every suspect peer expires no later than the timeout after the suspicion began. -/
def DeadlineKept (r : SuspicionRecord) : Prop :=
  ∀ n since, r.suspectSince n = some since → r.store.getStatus n = .suspect →
    ∃ e h t, r.store.entries.get n = some e ∧ e.deadTimer = some h ∧
      r.store.timers.get h = some t ∧ t.expiresAt ≤ since + r.store.suspectTimeoutMs

/-- No peer under suspicion is suspected again, in a way that arms a new timer, after the
suspicion began. -/
def NoLateEvidence (r : SuspicionRecord) (e : Event) : Prop :=
  ∀ n since, r.suspectSince n = some since → since < r.store.clock → ¬r.store.SuspectAgain n e

/-! ### The invariant -/

/-- The store is in order, and the peers under suspicion are the suspect ones and some dead. -/
structure Valid (r : SuspicionRecord) : Prop where
  good : r.store.Good
  since_of_suspect : ∀ n, r.store.getStatus n = .suspect → r.suspectSince n ≠ none

theorem valid_create (suspectTimeoutMs clock : ℕ) : (create suspectTimeoutMs clock).Valid :=
  ⟨ClusterPeerHealthStore.good_create _ _, fun n h => by
    simp [create, ClusterPeerHealthStore.create, ClusterPeerHealthStore.getStatus] at h⟩

theorem valid_step {r : SuspicionRecord} (hr : r.Valid) (e : Event) : (r.step e).Valid := by
  refine ⟨(ClusterPeerHealthStore.peer_step hr.good e).1, fun n h => ?_⟩
  have hs : (r.store.step e).getStatus n = .suspect := h
  simp [step, hs, since]

/-- The deadline of a suspect peer, read off its entry. -/
theorem exists_timer_iff {st : ClusterPeerHealthStore} {n : JsString} {bound : ℕ} :
    (∃ e h t, st.entries.get n = some e ∧ e.deadTimer = some h ∧
      st.timers.get h = some t ∧ t.expiresAt ≤ bound) ↔
    ∃ d, (st.peer n).bind Prod.snd = some d ∧ d ≤ bound := by
  unfold ClusterPeerHealthStore.peer
  cases he : st.entries.get n with
  | none => simp
  | some e =>
    cases hd : e.deadTimer with
    | none => simp [hd]
    | some h => cases ht : st.timers.get h <;> simp [hd, ht]

/-- One step keeps the deadlines exactly when it brings no late evidence. -/
theorem deadlineKept_step_iff {r : SuspicionRecord} (hr : r.Valid) (hkept : r.DeadlineKept)
    (e : Event) : (r.step e).DeadlineKept ↔ r.NoLateEvidence e := by
  obtain ⟨-, hpeer⟩ := ClusterPeerHealthStore.peer_step hr.good e
  have htimeout : (r.store.step e).suspectTimeoutMs = r.store.suspectTimeoutMs :=
    ClusterPeerHealthStore.step_suspectTimeoutMs e
  refine forall_congr' fun n => ?_
  simp only [exists_timer_iff, ← ClusterPeerHealthStore.outcome_eq_suspect_iff, step,
    ClusterPeerHealthStore.getStatus_eq_peer, hpeer, htimeout]
  -- what the event does to this peer decides both sides
  cases ho : r.store.outcome n e with
  | keep =>
    simp only [ClusterPeerHealthStore.Outcome.apply]
    refine iff_of_true (fun t ht hs => ?_) (fun _ _ _ => by simp)
    obtain ⟨t', ht'⟩ := Option.ne_none_iff_exists'.1
      (hr.since_of_suspect n (by rw [ClusterPeerHealthStore.getStatus_eq_peer]; exact hs))
    rw [hs, since, ht', Option.getD_some, Option.some.injEq] at ht
    have := hkept n t' ht' (by rw [ClusterPeerHealthStore.getStatus_eq_peer]; exact hs)
    rwa [exists_timer_iff, ht] at this
  | remove =>
    exact iff_of_true (fun _ _ hs => by simp [ClusterPeerHealthStore.Outcome.apply] at hs)
      (fun _ _ _ => by simp)
  | become s =>
    cases s with
    | alive =>
      exact iff_of_true (fun _ _ hs => by
        simp [ClusterPeerHealthStore.Outcome.apply, ReportedStatus.toStatus] at hs)
        (fun _ _ _ => by simp)
    | dead =>
      exact iff_of_true (fun _ _ hs => by
        simp [ClusterPeerHealthStore.Outcome.apply, ReportedStatus.toStatus] at hs)
        (fun _ _ _ => by simp)
    | suspect =>
      -- a new timer, for the full timeout from now
      simp only [ClusterPeerHealthStore.Outcome.apply, ReportedStatus.toStatus, if_true, since,
        Option.map_some, Option.getD_some, Option.bind_some, Option.some.injEq, forall_const,
        exists_eq_left', not_true_eq_false, imp_false, not_lt, forall_eq']
      cases hs : r.suspectSince n with
      | none => simp
      | some t => simp

/-- **The deadline of a suspect peer is kept along a run exactly when no suspect evidence that
arms a new timer comes in after the suspicion began.** -/
theorem deadline_kept_iff (suspectTimeoutMs clock : ℕ) (es : List Event) :
    (∀ pre post, es = pre ++ post →
      (Machine.run step (create suspectTimeoutMs clock) pre).DeadlineKept) ↔
    Machine.Along step NoLateEvidence (create suspectTimeoutMs clock) es :=
  Machine.prefixes_iff_along es (valid_create _ _) (fun n t h => by simp [create] at h)
    (fun _ e h => valid_step h e) (fun _ e hr hk => deadlineKept_step_iff hr hk e)

/-- A peer suspected at time 0, and the rumor of another node about it at time 40. -/
def regossiped : List Event :=
  [.markSuspect (js "b") none, .advance 40,
    .applyRumor { nodeId := js "b", status := .suspect, incarnation := .ofNat 2 } (js "c")]

/-- The rumor moves the deadline from 50 to 90. -/
theorem deadline_postponed :
    ¬∀ suspectTimeoutMs clock es pre post, es = pre ++ post →
      (Machine.run step (create suspectTimeoutMs clock) pre).DeadlineKept := by
  intro h
  have hkept := h 50 0 regossiped
  have hvalid := Machine.run_invariant (valid_create 50 0) (fun _ e hr => valid_step hr e)
    (regossiped.take 2)
  have hlate := (deadlineKept_step_iff hvalid (hkept _ _ rfl) _).1 (hkept regossiped [] rfl)
  refine hlate (js "b") 0 rfl (by decide) ⟨rfl, rfl, rfl, ?_⟩
  -- the local entry has incarnation 1, the rumor 2
  have hinc : ((Machine.run step (create 50 0) (regossiped.take 2)).store.entry
      (js "b")).incarnation = (JsNumber.ofNat 0).add (.ofNat 1) := rfl
  rw [ClusterPeerHealthStore.shouldApplyRumor, if_neg (by decide), hinc,
    JsNumber.ofNat_add (by norm_num), JsNumber.ofNat_lt (by norm_num) (by norm_num)]
  rfl

end SuspicionRecord

end Hardess
