import Hardess.Cluster.HealthOrder

/-!
# The health store with listeners that call back

A listener runs in the middle of the call that emits. Of the calls of the store only `markSuspect`
goes on after that: it arms the timer.

* `Calls`: the store with the calls of `markSuspect` whose listeners are running; `Act`: a call comes
  in, from a listener or from outside, or the listeners of the last such call return;
* `call_eq_step`: a call whose listeners do not call back is a step of the store;
* `Forward`: no entry falls back in the order of incarnation and status, and what is emitted about a
  peer stands higher than its entry did;
* **`forward_iff`**: a run goes forward exactly when no local observation loses its increment without
  raising the status.
-/

namespace Hardess

namespace ClusterPeerHealthStore

variable {st st' : ClusterPeerHealthStore}

/-! ### Calls with listeners -/

/-- `markSuspect` of a known peer up to the return of the listeners. -/
def suspectUnarmed (st : ClusterPeerHealthStore) (nodeId : JsString) (detail : Option JsString) :
    ClusterPeerHealthStore :=
  let current := st.entry nodeId
  if current.status = .suspect ∧ current.source = .localSource then
    st.setEntry { current with updatedAt := st.clock, detail, reportedByNodeId := none }
  else st.applyLocalStatus current .suspect detail

/-- A call up to the return of its listeners, and the timer that it has yet to arm. -/
def enter (st : ClusterPeerHealthStore) : Event →
    ClusterPeerHealthStore × List (JsString × Option JsString)
  | .markSuspect nodeId detail =>
    if st.isUnknownPeer nodeId then (st, [])
    else (st.suspectUnarmed nodeId detail, [(nodeId, detail)])
  | e => (st.step e, [])

/-- The store, and the timers to be armed when the listeners that are running return. -/
structure Calls where
  store : ClusterPeerHealthStore
  unarmed : List (JsString × Option JsString)

/-- A call comes in, or the listeners of the last call that has more to do return. -/
inductive Act
  | enter (e : Event)
  | leave

/-- One act. -/
def Calls.step (c : Calls) : Act → Calls
  | .enter e => ⟨(c.store.enter e).1, (c.store.enter e).2 ++ c.unarmed⟩
  | .leave =>
    match c.unarmed with
    | [] => c
    | (nodeId, detail) :: rest => ⟨c.store.ensureSuspectTimer nodeId detail, rest⟩

/-- Without calls of the listeners a call is a step of the store. -/
theorem call_eq_step (c : Calls) (e : Event) :
    Machine.run Calls.step c (.enter e :: (c.store.enter e).2.map fun _ => .leave) =
      { c with store := c.store.step e } := by
  cases e with
  | markSuspect nodeId detail =>
    simp only [enter, step, markSuspect]
    split_ifs with hk hagain
    · simp [Calls.step, enter, hk]
    · simp [Calls.step, enter, hk, suspectUnarmed, hagain]
    · simp [Calls.step, enter, hk, suspectUnarmed, hagain]
  | _ => rfl

/-! ### What an act does to the entries -/

/-- The entries are under their ids, have a status and count their reports. -/
structure Ordered (st : ClusterPeerHealthStore) : Prop where
  key : ∀ n e, st.entries.get n = some e → e.nodeId = n
  reported : ∀ n e, st.entries.get n = some e → e.status ≠ .unknown
  counts : ∀ n e, st.entries.get n = some e → e.incarnation.Counts

theorem ordered_create (suspectTimeoutMs clock : ℕ) : (create suspectTimeoutMs clock).Ordered :=
  ⟨by simp [create], by simp [create], by simp [create]⟩

/-- Every entry is as it was in status and incarnation, and nothing is emitted. -/
structure Keeps (st st' : ClusterPeerHealthStore) : Prop where
  same : ∀ n e', st'.entries.get n = some e' → ∃ e, st.entries.get n = some e ∧
    e'.nodeId = e.nodeId ∧ e'.status = e.status ∧ e'.incarnation = e.incarnation
  emitted : st'.emitted = st.emitted

/-- The entry of `n` gets a status and an incarnation, which are emitted. -/
structure Writes (st st' : ClusterPeerHealthStore) (n : JsString) (status : ReportedStatus)
    (incarnation : JsNumber) : Prop where
  own : ∃ e', st'.entries.get n = some e' ∧ e'.nodeId = n ∧ e'.status = status.toStatus ∧
    e'.incarnation = incarnation
  others : ∀ m, m ≠ n → st'.entries.get m = st.entries.get m
  emitted : ∃ s : ClusterPeerHealthSnapshot, st'.emitted = st.emitted ++ [s] ∧ s.nodeId = n ∧
    s.status = status.toStatus ∧ s.incarnation = incarnation

/-- No entry falls back, and what is emitted about a peer stands higher than its entry did. -/
structure Forward (st st' : ClusterPeerHealthStore) : Prop where
  entries : ∀ n e e', st.entries.get n = some e → st'.entries.get n = some e' →
    place e.incarnation e.status ≤ place e'.incarnation e'.status
  emitted : ∀ s ∈ st'.emitted.drop st.emitted.length,
    place (st.entry s.nodeId).incarnation (st.entry s.nodeId).status < place s.incarnation s.status

theorem toStatus_ne_unknown (s : ReportedStatus) : s.toStatus ≠ .unknown := by
  cases s <;> simp [ReportedStatus.toStatus]

theorem Ordered.counts_entry (h : st.Ordered) (n : JsString) : (st.entry n).incarnation.Counts := by
  unfold entry
  cases hget : st.entries.get n with
  | none => exact JsNumber.counts_ofNat_zero
  | some e => exact h.counts n e hget

theorem Ordered.entry_nodeId (h : st.Ordered) (n : JsString) : (st.entry n).nodeId = n := by
  unfold entry
  cases hget : st.entries.get n with
  | none => rfl
  | some e => exact h.key n e hget

theorem Keeps.forward (h : Keeps st st') : Forward st st' := by
  constructor
  · intro n e e' he he'
    obtain ⟨f, hf, -, hs, hi⟩ := h.same n e' he'
    rw [he] at hf
    cases hf
    rw [hs, hi]
  · intro s hs
    rw [h.emitted, List.drop_length] at hs
    cases hs

theorem Keeps.ordered (h : Keeps st st') (ho : st.Ordered) : st'.Ordered := by
  refine ⟨fun n e' he' => ?_, fun n e' he' => ?_, fun n e' he' => ?_⟩ <;>
    obtain ⟨e, he, hn, hs, hi⟩ := h.same n e' he'
  · exact hn.trans (ho.key n e he)
  · exact hs ▸ ho.reported n e he
  · exact hi ▸ ho.counts n e he

theorem Writes.ordered {n : JsString} {status : ReportedStatus} {incarnation : JsNumber}
    (h : Writes st st' n status incarnation) (ho : st.Ordered) (hi : incarnation.Counts) :
    st'.Ordered := by
  obtain ⟨e', he', hn, hs, hinc⟩ := h.own
  have hcases : ∀ m f, st'.entries.get m = some f →
      (m = n ∧ f = e') ∨ st.entries.get m = some f := by
    intro m f hf
    by_cases hm : m = n
    · subst hm
      rw [he'] at hf
      cases hf
      exact .inl ⟨rfl, rfl⟩
    · exact .inr (h.others m hm ▸ hf)
  refine ⟨fun m f hf => ?_, fun m f hf => ?_, fun m f hf => ?_⟩ <;>
    rcases hcases m f hf with ⟨rfl, rfl⟩ | hold
  · exact hn
  · exact ho.key m f hold
  · exact hs ▸ toStatus_ne_unknown status
  · exact ho.reported m f hold
  · exact hinc ▸ hi
  · exact ho.counts m f hold

/-- A write goes forward exactly when it stands higher than the entry. -/
theorem Writes.goes_forward_iff {n : JsString} {status : ReportedStatus} {incarnation : JsNumber}
    (h : Writes st st' n status incarnation) : Forward st st' ↔
      place (st.entry n).incarnation (st.entry n).status < place incarnation status.toStatus := by
  obtain ⟨e', he', -, hs, hinc⟩ := h.own
  obtain ⟨s, hemitted, hsn, hss, hsi⟩ := h.emitted
  constructor
  · intro hf
    have := hf.emitted s (by rw [hemitted, List.drop_left]; exact List.mem_singleton_self s)
    rwa [hsn, hss, hsi] at this
  · intro hlt
    constructor
    · intro m f f' hf hf'
      -- only the entry that is written can move
      by_cases hm : m = n
      · subst hm
        rw [he'] at hf'
        cases hf'
        rw [entry_of_get hf] at hlt
        rw [hs, hinc]
        exact hlt.le
      · rw [h.others m hm, hf] at hf'
        cases hf'
        exact le_rfl
    · intro s' hs'
      rw [hemitted, List.drop_left, List.mem_singleton] at hs'
      rw [hs', hsn, hss, hsi]
      exact hlt

/-! ### The parts of the calls -/

/-- An entry is rewritten with the status and the incarnation that it has. -/
theorem keeps_setEntry (ho : st.Ordered) {n : JsString} (hu : (st.entry n).status ≠ .unknown)
    {e : ClusterPeerHealthEntry} (hn : e.nodeId = n) (hs : e.status = (st.entry n).status)
    (hi : e.incarnation = (st.entry n).incarnation) : Keeps st (st.setEntry e) := by
  refine ⟨fun m e' he' => ?_, rfl⟩
  rw [setEntry, hn, JsMap.get_set] at he'
  split_ifs at he' with hm
  · cases he'
    refine ⟨st.entry n, ?_, hn.trans (ho.entry_nodeId n).symm, hs, hi⟩
    rw [hm]
    exact get_of_status hu
  · exact ⟨e', he', rfl, rfl, rfl⟩

theorem keeps_ensureSuspectTimer (n : JsString) (detail : Option JsString) :
    Keeps st (st.ensureSuspectTimer n detail) := by
  refine ⟨fun m e' he' => ?_, ?_⟩
  · by_cases hm : m = n
    · subst hm
      cases hget : st.entries.get m with
      | none =>
        rw [ensureSuspectTimer, hget] at he'
        exact absurd (he'.symm.trans hget) (by simp)
      | some e =>
        obtain ⟨timer, htimer⟩ := get_ensureSuspectTimer_self hget detail
        rw [htimer] at he'
        cases he'
        exact ⟨e, rfl, rfl, rfl, rfl⟩
    · rw [get_ensureSuspectTimer_of_ne hm] at he'
      exact ⟨e', he', rfl, rfl, rfl⟩
  · unfold ensureSuspectTimer
    cases st.entries.get n with
    | none => rfl
    | some e =>
      dsimp only
      split_ifs <;> rfl

/-- The entry that `applyLocalStatus` writes. -/
def observedEntry (st : ClusterPeerHealthStore) (n : JsString) (status : ReportedStatus)
    (detail : Option JsString) : ClusterPeerHealthEntry :=
  { st.entry n with
    deadTimer := none, status := status.toStatus
    incarnation := (st.entry n).incarnation.add (.ofNat 1)
    updatedAt := st.clock, detail, source := .localSource, reportedByNodeId := none
    lastAliveAt := if status = .alive then some (.ofNat st.clock) else (st.entry n).lastAliveAt }

theorem applyLocalStatus_entry (n : JsString) (status : ReportedStatus) (detail : Option JsString) :
    st.applyLocalStatus (st.entry n) status detail =
      ((st.clearTimeout (st.entry n).deadTimer).setEntry (st.observedEntry n status detail)).emit
        (st.observedEntry n status detail) := rfl

/-- A local status is written with the next incarnation. -/
theorem writes_applyLocalStatus (ho : st.Ordered) (n : JsString) (status : ReportedStatus)
    (detail : Option JsString) : Writes st (st.applyLocalStatus (st.entry n) status detail) n
      status ((st.entry n).incarnation.add (.ofNat 1)) := by
  have hid : (st.observedEntry n status detail).nodeId = n := ho.entry_nodeId n
  rw [applyLocalStatus_entry]
  refine ⟨⟨st.observedEntry n status detail, ?_, hid, rfl, rfl⟩, fun m hm => ?_,
    ⟨(st.observedEntry n status detail).toClusterPeerHealthSnapshot, ?_, hid, rfl, rfl⟩⟩
  · simp only [emit, setEntry, hid]
    exact JsMap.get_set_self _ _ _
  · simp only [emit, setEntry, hid, clearTimeout_entries]
    exact JsMap.get_set_of_ne _ hm _
  · simp only [emit, setEntry, clearTimeout_emitted]

/-- A rumor is written, or changes neither status nor incarnation. -/
theorem applyRumor_writes (ho : st.Ordered) {rumor : ClusterPeerHealthRumor}
    (hk : st.isUnknownPeer rumor.nodeId = false) (reporter : JsString) :
    (shouldApplyRumor (st.entry rumor.nodeId) rumor = true →
      Writes st (st.applyRumor rumor reporter) rumor.nodeId rumor.status rumor.incarnation) ∧
    (shouldApplyRumor (st.entry rumor.nodeId) rumor = false →
      Keeps st (st.applyRumor rumor reporter)) := by
  have hid := ho.entry_nodeId rumor.nodeId
  rw [applyRumor_of_known hk]
  constructor <;> intro happly
  · rw [if_pos happly]
    obtain ⟨⟨timer, hself⟩, hother⟩ := @get_setEntry_arm
      (st.clearTimeout (st.entry rumor.nodeId).deadTimer) (st.appliedEntry rumor reporter)
      rumor.nodeId hid (rumor.status = .suspect) _ (some (js "gossip:" ++ reporter))
    refine ⟨⟨_, hself, hid, rfl, rfl⟩, fun m hm => ?_,
      ⟨(st.appliedEntry rumor reporter).toClusterPeerHealthSnapshot, ?_, hid, rfl, rfl⟩⟩
    · exact (hother m hm).trans (by rw [clearTimeout_entries])
    · simp only [emit]
      split_ifs
      · rw [(keeps_ensureSuspectTimer _ _).emitted, setEntry, clearTimeout_emitted]
      · rw [setEntry, clearTimeout_emitted]
  · rw [if_neg (by rw [happly]; exact Bool.false_ne_true)]
    -- a rumor about an unknown peer is always applied
    have hu : (st.entry rumor.nodeId).status ≠ .unknown := by
      intro hu
      simp [shouldApplyRumor, hu] at happly
    split_ifs
    · refine keeps_setEntry ho hu ?_ ?_ ?_
      · exact hid
      · rfl
      · rfl
    · exact ⟨fun n e he => ⟨e, he, rfl, rfl, rfl⟩, rfl⟩

/-- An applied rumor stands higher than the entry. -/
theorem place_lt_of_shouldApplyRumor (ho : st.Ordered) {rumor : ClusterPeerHealthRumor}
    (hr : rumor.incarnation.Counts) (happly : shouldApplyRumor (st.entry rumor.nodeId) rumor = true) :
    place (st.entry rumor.nodeId).incarnation (st.entry rumor.nodeId).status <
      place rumor.incarnation rumor.status.toStatus := by
  have hcounts := ho.counts_entry rumor.nodeId
  cases hget : st.entries.get rumor.nodeId with
  | none =>
    -- the unknown entry has incarnation 0 and the least status
    have hrank : statusRank .unknown < statusRank rumor.status.toStatus := by
      cases rumor.status <;> decide
    simp only [entry, hget, Option.getD_none]
    rw [place, place, Prod.Lex.toLex_lt_toLex]
    rcases hr.2.lt_or_eq with hlt | heq
    · exact .inl hlt
    · exact .inr ⟨heq, hrank⟩
  | some e =>
    have hu := ho.reported _ e hget
    rw [entry_of_get hget] at happly hcounts ⊢
    rw [place_lt_iff hcounts.1 hr.1]
    unfold shouldApplyRumor at happly
    rw [if_neg hu] at happly
    by_cases h1 : e.incarnation.lt rumor.incarnation = true
    · exact .inl h1
    rw [if_neg h1] at happly
    by_cases h2 : rumor.incarnation.lt e.incarnation = true
    · simp [h2] at happly
    rw [JsNumber.lt_iff hcounts.1 hr.1, not_lt] at h1
    rw [if_neg h2] at happly
    rw [JsNumber.lt_iff hr.1 hcounts.1, not_lt] at h2
    refine .inr ⟨JsNumber.extended_inj hcounts.1 hr.1 (le_antisymm h2 h1), ?_⟩
    split_ifs at happly
    exact of_decide_eq_true happly

/-! ### One act -/

/-- The status that an outcome writes to `n`. -/
def Outcome.recorded (n : JsString) : Outcome → Option (JsString × ReportedStatus)
  | .become status => some (n, status)
  | _ => none

/-- The local observation that a call records, if it writes one. -/
def records (st : ClusterPeerHealthStore) : Event → Option (JsString × ReportedStatus)
  | .markAlive n _ => (st.localOutcome n .alive True).recorded n
  | .markSuspect n _ => (st.localOutcome n .suspect True).recorded n
  | .markDead n detail => (st.localOutcome n .dead ((st.entry n).detail = detail)).recorded n
  | .timerFires h =>
    match st.timers.get h with
    | none => none
    | some t =>
      if t.expiresAt ≤ st.clock ∧ (st.entry t.nodeId).status = .suspect ∧
        st.isUnknownPeer t.nodeId = false then some (t.nodeId, .dead)
      else none
  | _ => none

/-- A rumor counts: its incarnation is a number that is not negative. -/
def Act.Sound : Act → Prop
  | .enter (.applyRumor rumor _) => rumor.incarnation.Counts
  | _ => True

/-- Of a local observation that is recorded the increment is not lost in the rounding, or else the
status rises. -/
def Calls.Counted (c : Calls) : Act → Prop
  | .enter e => ∀ n status, c.store.records e = some (n, status) →
    (c.store.entry n).incarnation.add (.ofNat 1) ≠ (c.store.entry n).incarnation ∨
      statusRank (c.store.entry n).status < statusRank status.toStatus
  | .leave => True

/-- What a call that records `recorded` does. -/
inductive Done (st st' : ClusterPeerHealthStore) : Option (JsString × ReportedStatus) → Prop
  | keeps (h : Keeps st st') : Done st st' none
  | heard {n : JsString} {status : ReportedStatus} {incarnation : JsNumber}
      (h : Writes st st' n status incarnation) (hi : incarnation.Counts)
      (hlt : place (st.entry n).incarnation (st.entry n).status <
        place incarnation status.toStatus) : Done st st' none
  | observed {n : JsString} {status : ReportedStatus}
      (h : Writes st st' n status ((st.entry n).incarnation.add (.ofNat 1))) :
      Done st st' (some (n, status))

theorem Keeps.refl : Keeps st st := ⟨fun _ e he => ⟨e, he, rfl, rfl, rfl⟩, rfl⟩

/-- A local observation touches the entry or is recorded. -/
theorem done_local (ho : st.Ordered) (n : JsString) (status : ReportedStatus)
    (detail : Option JsString) (again : Prop) [Decidable again] {touched : ClusterPeerHealthEntry}
    (hn : touched.nodeId = (st.entry n).nodeId) (hs : touched.status = (st.entry n).status)
    (hi : touched.incarnation = (st.entry n).incarnation) :
    Done st (if st.isUnknownPeer n then st
      else if (st.entry n).status = status.toStatus ∧ (st.entry n).source = .localSource ∧ again
        then st.setEntry touched
      else st.applyLocalStatus (st.entry n) status detail)
      ((st.localOutcome n status again).recorded n) := by
  by_cases hk : st.isUnknownPeer n = true
  · rw [if_pos hk, localOutcome_unknown _ _ hk]
    exact .keeps .refl
  rw [if_neg hk]
  by_cases hagain : (st.entry n).status = status.toStatus ∧
      (st.entry n).source = .localSource ∧ again
  · rw [if_pos hagain, localOutcome_again hagain]
    have hu : (st.entry n).status ≠ .unknown := hagain.1 ▸ toStatus_ne_unknown status
    exact .keeps (keeps_setEntry ho hu (hn.trans (ho.entry_nodeId n)) hs hi)
  · rw [if_neg hagain, localOutcome_new (by simpa using hk) hagain]
    exact .observed (writes_applyLocalStatus ho n status detail)

theorem done_markAlive (ho : st.Ordered) (n : JsString) (detail : Option JsString) :
    Done st (st.markAlive n detail) (st.records (.markAlive n detail)) := by
  have h := @done_local st ho n .alive detail True _ { st.entry n with
    lastAliveAt := some (.ofNat st.clock), updatedAt := st.clock, detail
    reportedByNodeId := none } rfl rfl rfl
  simp only [and_true] at h
  exact h

theorem enter_markSuspect (n : JsString) (detail : Option JsString) :
    (st.enter (.markSuspect n detail)).1 =
      if st.isUnknownPeer n then st else st.suspectUnarmed n detail := by
  simp only [enter]
  split_ifs <;> rfl

theorem done_markSuspect (ho : st.Ordered) (n : JsString) (detail : Option JsString) :
    Done st (st.enter (.markSuspect n detail)).1 (st.records (.markSuspect n detail)) := by
  have h := @done_local st ho n .suspect detail True _ { st.entry n with
    updatedAt := st.clock, detail, reportedByNodeId := none } rfl rfl rfl
  simp only [and_true] at h
  rw [enter_markSuspect]
  exact h

theorem done_markDead (ho : st.Ordered) (n : JsString) (detail : Option JsString) :
    Done st (st.markDead n detail) (st.records (.markDead n detail)) :=
  @done_local st ho n .dead detail ((st.entry n).detail = detail) _
    { st.entry n with updatedAt := st.clock } rfl rfl rfl

/-- A write after a change of the same entry that emits nothing. -/
theorem Writes.of_mid {mid : ClusterPeerHealthStore} {n : JsString} {status : ReportedStatus}
    {incarnation : JsNumber} (h : Writes mid st' n status incarnation)
    (hget : ∀ m, m ≠ n → mid.entries.get m = st.entries.get m)
    (hemitted : mid.emitted = st.emitted) : Writes st st' n status incarnation :=
  ⟨h.own, fun m hm => (h.others m hm).trans (hget m hm), hemitted ▸ h.emitted⟩

/-- A timer declares its peer dead, if the peer is still suspect. -/
theorem done_timerFires (ho : st.Ordered) (h : ℕ) :
    Done st (st.timerFires h) (st.records (.timerFires h)) := by
  cases ht : st.timers.get h with
  | none =>
    rw [timerFires, records, ht]
    exact .keeps .refl
  | some t =>
    simp only [timerFires, records, ht]
    by_cases hdue : t.expiresAt ≤ st.clock
    swap
    · rw [if_neg hdue, if_neg fun h => hdue h.1]
      exact .keeps .refl
    rw [if_pos hdue]
    cases hget : st.entries.get t.nodeId with
    | none =>
      rw [if_neg (by simp [entry, hget])]
      exact .keeps ⟨fun n e he => ⟨e, he, rfl, rfl, rfl⟩, rfl⟩
    | some latest =>
      dsimp only
      have hid := ho.key _ latest hget
      rw [entry_of_get hget]
      by_cases hs : latest.status = .suspect
      swap
      · rw [if_pos hs, if_neg fun h => hs h.2.1]
        exact .keeps ⟨fun n e he => ⟨e, he, rfl, rfl, rfl⟩, rfl⟩
      rw [if_neg (by simp [hs])]
      -- the entry loses its timer before the peer is declared dead
      set mid := ClusterPeerHealthStore.setEntry { st with timers := st.timers.delete h }
        { latest with deadTimer := none } with hmid
      have hself : mid.entry t.nodeId = { latest with deadTimer := none } := by
        simp [hmid, entry, setEntry, hid]
      have hother : ∀ m, m ≠ t.nodeId → mid.entries.get m = st.entries.get m := by
        intro m hm
        simp only [hmid, setEntry, hid]
        exact JsMap.get_set_of_ne _ hm _
      have hkeeps : Keeps st mid := by
        refine ⟨fun m e he => ?_, rfl⟩
        by_cases hm : m = t.nodeId
        · subst hm
          have : mid.entries.get t.nodeId = some { latest with deadTimer := none } := by
            simp only [hmid, setEntry, hid]
            exact JsMap.get_set_self _ _ _
          rw [this] at he
          cases he
          exact ⟨latest, hget, rfl, rfl, rfl⟩
        · exact ⟨e, hother m hm ▸ he, rfl, rfl, rfl⟩
      cases hk : st.isUnknownPeer t.nodeId with
      | true =>
        have hk' : mid.isUnknownPeer t.nodeId = true := hk
        rw [if_neg (by simp), markDead, if_pos hk']
        exact .keeps hkeeps
      | false =>
        have hk' : mid.isUnknownPeer t.nodeId = false := hk
        have hdone := done_markDead (hkeeps.ordered ho) t.nodeId
          (some (t.detail.getD (js "suspect_timeout")))
        rw [if_pos ⟨hdue, hs, rfl⟩]
        rw [records, localOutcome_new hk' (by simp [hself, hs, ReportedStatus.toStatus])] at hdone
        obtain _ | _ | hw := hdone
        -- the timer has not counted the incarnation
        have hinc : (mid.entry t.nodeId).incarnation = (st.entry t.nodeId).incarnation := by
          rw [hself, entry_of_get hget]
        exact .observed (hinc ▸ hw.of_mid hother rfl)

/-- Every call does what it records. -/
theorem enter_done (ho : st.Ordered) {e : Event} (hs : Act.Sound (.enter e)) :
    Done st (st.enter e).1 (st.records e) := by
  cases e with
  | markAlive n detail => exact done_markAlive ho n detail
  | markSuspect n detail => exact done_markSuspect ho n detail
  | markDead n detail => exact done_markDead ho n detail
  | timerFires h => exact done_timerFires ho h
  | applyRumor rumor reporter =>
    show Done st (st.applyRumor rumor reporter) none
    cases hk : st.isUnknownPeer rumor.nodeId with
    | true =>
      rw [applyRumor_of_unknown hk]
      exact .keeps .refl
    | false =>
      obtain ⟨happlied, hdropped⟩ := applyRumor_writes ho hk reporter
      cases happly : shouldApplyRumor (st.entry rumor.nodeId) rumor with
      | true => exact .heard (happlied happly) hs (place_lt_of_shouldApplyRumor ho hs happly)
      | false => exact .keeps (hdropped happly)
  | noteKnownPeers nodeIds =>
    refine .keeps ⟨fun n e he => ⟨e, ?_, rfl, rfl, rfl⟩, rfl⟩
    exact (JsMap.get_filter.1 he).1
  | dispose => exact .keeps ⟨fun n e he => (by cases he), rfl⟩
  | advance ms => exact .keeps ⟨fun n e he => ⟨e, he, rfl, rfl, rfl⟩, rfl⟩

/-- What one act does: the order of the entries, and when it goes forward. -/
theorem calls_step {c : Calls} (ho : c.store.Ordered) {a : Act} (ha : a.Sound) :
    (c.step a).store.Ordered ∧ (Forward c.store (c.step a).store ↔ c.Counted a) := by
  cases a with
  | leave =>
    have hk : Keeps c.store (c.step .leave).store := by
      unfold Calls.step
      cases c.unarmed with
      | nil => exact .refl
      | cons frame rest => exact keeps_ensureSuspectTimer _ _
    exact ⟨hk.ordered ho, iff_of_true hk.forward trivial⟩
  | enter e =>
    have hdone := enter_done ho ha
    show (c.store.enter e).1.Ordered ∧ (Forward c.store (c.store.enter e).1 ↔ _)
    simp only [Calls.Counted]
    cases hr : c.store.records e with
    | none =>
      rw [hr] at hdone
      cases hdone with
      | keeps hk => exact ⟨hk.ordered ho, iff_of_true hk.forward (by simp)⟩
      | heard hw hi hlt =>
        exact ⟨hw.ordered ho hi, iff_of_true (hw.goes_forward_iff.2 hlt) (by simp)⟩
    | some observation =>
      obtain ⟨n, status⟩ := observation
      rw [hr] at hdone
      obtain _ | _ | hw := hdone
      -- counting one further can leave the incarnation where it is, beyond the safe integers
      obtain ⟨hcounts, hnext⟩ := JsNumber.lt_add_one_or_eq (ho.counts_entry n)
      refine ⟨hw.ordered ho hcounts, hw.goes_forward_iff.trans ?_⟩
      rw [place, place, Prod.Lex.toLex_lt_toLex]
      constructor
      · rintro h m s' ⟨⟩
        rcases h with hlt | ⟨-, hrank⟩
        · exact .inl fun heq => by simp [heq] at hlt
        · exact .inr hrank
      · intro h
        rcases hnext with hlt | hlost
        · exact .inl hlt
        · exact .inr ⟨by rw [hlost], (h n status rfl).resolve_left fun hne => hne hlost⟩

theorem forward_run_iff {c : Calls} (ho : c.store.Ordered) {acts : List Act}
    (hacts : ∀ a ∈ acts, a.Sound) :
    Machine.Along Calls.step (fun c a => Forward c.store (c.step a).store) c acts ↔
      Machine.Along Calls.step Calls.Counted c acts :=
  @Machine.along_congr _ _ Calls.step Act.Sound _ Calls.Counted (fun c => c.store.Ordered) c ho
    (fun _ _ ho ha => calls_step ho ha) acts hacts

/-- **A run of the store, with listeners that call back as they like, only moves its entries forward
exactly when no local observation loses its increment without raising the status.** -/
theorem forward_iff (suspectTimeoutMs clock : ℕ) {acts : List Act} (hacts : ∀ a ∈ acts, a.Sound) :
    Machine.Along Calls.step (fun c a => Forward c.store (c.step a).store)
        ⟨create suspectTimeoutMs clock, []⟩ acts ↔
      Machine.Along Calls.step Calls.Counted ⟨create suspectTimeoutMs clock, []⟩ acts :=
  forward_run_iff (ordered_create _ _) hacts

/-- A peer is suspected, and a listener of that call reports it alive. -/
def calledBack : List Act :=
  [.enter (.markSuspect (js "b") none), .enter (.markAlive (js "b") none), .leave]

theorem forward_iff_calledBack :
    Machine.Along Calls.step (fun c a => Forward c.store (c.step a).store)
      ⟨create 50 0, []⟩ calledBack := by
  refine (forward_iff 50 0 fun a ha => by fin_cases ha <;> trivial).2 ⟨?_, ?_, trivial, trivial⟩
  · rintro n status ⟨⟩
    exact .inr (by decide)
  · rintro n status ⟨⟩
    exact .inl (by decide +kernel)

/-- A rumor with the greatest safe incarnation, and two local observations. -/
def overcounted : List Act :=
  [.enter (.applyRumor { nodeId := js "b", status := .suspect, incarnation := .ofNat (2 ^ 53 - 1) }
    (js "c")), .enter (.markDead (js "b") none), .enter (.markAlive (js "b") none)]

theorem sound_overcounted : ∀ a ∈ overcounted, a.Sound := by
  have hcounts : (JsNumber.ofNat (2 ^ 53 - 1)).Counts := by
    obtain ⟨hq, he⟩ := JsNumber.ofNat_eq (n := 2 ^ 53 - 1) (by norm_num)
    refine ⟨by rw [he]; exact JsNumber.finite_ne_nan _, ?_⟩
    rw [JsNumber.extended_ofNat (by norm_num), JsNumber.extended_ofNat (by norm_num)]
    exact WithBot.coe_le_coe.2 (WithTop.coe_le_coe.2 (by norm_num))
  intro a ha
  fin_cases ha
  · exact hcounts
  · trivial
  · trivial

/-- Two to the 53rd is the same after adding one. -/
theorem increment_lost : ((JsNumber.ofNat (2 ^ 53 - 1)).add (.ofNat 1)).add (.ofNat 1) =
    (JsNumber.ofNat (2 ^ 53 - 1)).add (.ofNat 1) := by
  decide +kernel

/-- The peer that was declared dead is alive again with the same incarnation. -/
theorem fell_back :
    ¬∀ suspectTimeoutMs clock (acts : List Act), (∀ a ∈ acts, a.Sound) →
      Machine.Along Calls.step (fun c a => Forward c.store (c.step a).store)
        ⟨create suspectTimeoutMs clock, []⟩ acts := by
  intro h
  have hrun := (forward_run_iff (ordered_create _ _) sound_overcounted).1
    (h 50 0 overcounted sound_overcounted)
  rcases hrun.2.2.1 (js "b") .alive rfl with hne | hrank
  · exact hne increment_lost
  · exact absurd hrank (by decide)

end ClusterPeerHealthStore

end Hardess
