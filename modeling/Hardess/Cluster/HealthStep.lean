import Hardess.Cluster.Health
import Hardess.Lib.Machine

/-!
# What an event does to a peer

* `Good`: a timer is pending exactly for the suspect entries, and no entry is held for a
  peer outside the known set;
* `peer`: the part of an entry that matters over time, its status and its deadline;
* `outcome`: what an event does to one peer;
* **`peer_step`**: every event keeps `Good` and does to each peer what `outcome` says.
-/

namespace Hardess

namespace ClusterPeerHealthStore

variable (st : ClusterPeerHealthStore)

/-! ### Invariant -/

/-- A timer is pending exactly for the suspect entries, under the handle that the entry holds,
and every entry is one of a known peer. -/
structure Good : Prop where
  key : ∀ n e, st.entries.get n = some e → e.nodeId = n
  known : ∀ n e, st.entries.get n = some e → st.isUnknownPeer n = false
  suspect_iff : ∀ n e, st.entries.get n = some e → (e.status = .suspect ↔ e.deadTimer ≠ none)
  pending : ∀ n e h, st.entries.get n = some e → e.deadTimer = some h →
    ∃ t, st.timers.get h = some t ∧ t.nodeId = n
  owner : ∀ h t, st.timers.get h = some t →
    ∃ e, st.entries.get t.nodeId = some e ∧ e.deadTimer = some h
  fresh : ∀ h t, st.timers.get h = some t → h < st.nextTimeout

theorem good_create (suspectTimeoutMs clock : ℕ) : (create suspectTimeoutMs clock).Good :=
  ⟨by simp [create], by simp [create], by simp [create], by simp [create], by simp [create],
    by simp [create]⟩

/-- What matters about one peer: its status, and when its dead timer expires. -/
def peer (n : JsString) : Option (ClusterPeerHealthStatus × Option ℕ) :=
  (st.entries.get n).map fun e =>
    (e.status, (e.deadTimer.bind st.timers.get).map DeadTimer.expiresAt)

variable {st}

/-- An entry rewritten with the same status and timer. -/
theorem good_touch (hg : st.Good) {e : ClusterPeerHealthEntry} {n : JsString}
    {cur : ClusterPeerHealthEntry} (hcur : st.entries.get n = some cur) (hn : e.nodeId = n)
    (hs : e.status = cur.status) (ht : e.deadTimer = cur.deadTimer) :
    (st.setEntry e).Good ∧ ∀ m, (st.setEntry e).peer m = st.peer m := by
  have hget : ∀ m, (st.setEntry e).entries.get m = if m = n then some e else st.entries.get m := by
    intro m
    rw [setEntry, JsMap.get_set, hn]
  constructor
  · refine ⟨fun m f hf => ?_, fun m f hf => ?_, fun m f hf => ?_, fun m f h hf hfh => ?_,
      fun h t hh => ?_, hg.fresh⟩
    · rw [hget] at hf
      split_ifs at hf with hm
      · cases hf; rw [hn, hm]
      · exact hg.key m f hf
    · rw [hget] at hf
      split_ifs at hf with hm
      · exact hm ▸ hg.known n cur hcur
      · exact hg.known m f hf
    · rw [hget] at hf
      split_ifs at hf with hm
      · cases hf; rw [hs, ht]; exact hg.suspect_iff n cur hcur
      · exact hg.suspect_iff m f hf
    · rw [hget] at hf
      split_ifs at hf with hm
      · cases hf; exact hm ▸ hg.pending n cur h hcur (ht ▸ hfh)
      · exact hg.pending m f h hf hfh
    · obtain ⟨f, hf, hfh⟩ := hg.owner h t hh
      by_cases hm : t.nodeId = n
      · rw [hm, hcur] at hf
        cases hf
        exact ⟨e, by rw [hget, if_pos hm], by rw [ht, hfh]⟩
      · exact ⟨f, by rw [hget, if_neg hm]; exact hf, hfh⟩
  · intro m
    unfold peer
    rw [hget]
    split_ifs with hm
    · rw [hm, hcur, Option.map_some, Option.map_some, hs, ht]; rfl
    · rfl

theorem entry_deadTimer_eq_some {n : JsString} {h : ℕ} :
    (st.entry n).deadTimer = some h ↔ ∃ e, st.entries.get n = some e ∧ e.deadTimer = some h := by
  unfold entry
  cases st.entries.get n <;> simp

/-- Clearing the timer of `n` leaves the timers of the others. -/
theorem timers_clearTimeout (hg : st.Good) (n : JsString) (h : ℕ) (t : DeadTimer) :
    (st.clearTimeout (st.entry n).deadTimer).timers.get h = some t ↔
      st.timers.get h = some t ∧ t.nodeId ≠ n := by
  cases hd : (st.entry n).deadTimer with
  | none =>
    refine ⟨fun hh => ⟨hh, ?_⟩, fun hh => hh.1⟩
    rintro rfl
    have := entry_deadTimer_eq_some.2 (hg.owner h t hh)
    rw [hd] at this
    cases this
  | some h' =>
    obtain ⟨e, he, heh⟩ := entry_deadTimer_eq_some.1 hd
    obtain ⟨t', ht', rfl⟩ := hg.pending n e h' he heh
    simp only [clearTimeout, JsMap.get_delete]
    split_ifs with hh
    · subst hh
      constructor
      · intro h1
        cases h1
      · rintro ⟨h1, h2⟩
        rw [ht'] at h1
        cases h1
        exact absurd rfl h2
    · refine ⟨fun h1 => ⟨h1, fun hn => hh ?_⟩, fun h1 => h1.1⟩
      obtain ⟨f, hf, hfh⟩ := hg.owner h t h1
      rw [hn, he] at hf
      cases hf
      rw [heh] at hfh
      cases hfh; rfl

@[simp] theorem clearTimeout_entries (timer : Option ℕ) :
    (st.clearTimeout timer).entries = st.entries := by cases timer <;> rfl

@[simp] theorem clearTimeout_nextTimeout (timer : Option ℕ) :
    (st.clearTimeout timer).nextTimeout = st.nextTimeout := by cases timer <;> rfl

@[simp] theorem clearTimeout_knownPeerNodeIds (timer : Option ℕ) :
    (st.clearTimeout timer).knownPeerNodeIds = st.knownPeerNodeIds := by cases timer <;> rfl

@[simp] theorem clearTimeout_clock (timer : Option ℕ) :
    (st.clearTimeout timer).clock = st.clock := by cases timer <;> rfl

@[simp] theorem clearTimeout_suspectTimeoutMs (timer : Option ℕ) :
    (st.clearTimeout timer).suspectTimeoutMs = st.suspectTimeoutMs := by cases timer <;> rfl

@[simp] theorem clearTimeout_emitted (timer : Option ℕ) :
    (st.clearTimeout timer).emitted = st.emitted := by cases timer <;> rfl

/-- The timers after those of `n` are gone belong to the entries of the others. -/
theorem owner_of_ne (hg : st.Good) {n : JsString} {h : ℕ} {t : DeadTimer}
    (ht : st.timers.get h = some t) (hne : t.nodeId ≠ n) (e : ClusterPeerHealthEntry) :
    ∃ f, (st.entries.set n e).get t.nodeId = some f ∧ f.deadTimer = some h := by
  obtain ⟨f, hf, hfh⟩ := hg.owner h t ht
  exact ⟨f, by rw [JsMap.get_set_of_ne _ hne, hf], hfh⟩

/-- A peer other than `n` sees the same timers once those of `n` are gone. -/
theorem peer_congr (hg : st.Good) {st' : ClusterPeerHealthStore} {m n : JsString} (hm : m ≠ n)
    (hent : st'.entries.get m = st.entries.get m)
    (htim : ∀ h t, t.nodeId ≠ n → (st'.timers.get h = some t ↔ st.timers.get h = some t)) :
    st'.peer m = st.peer m := by
  unfold peer
  rw [hent]
  cases he : st.entries.get m with
  | none => rfl
  | some e =>
    rw [Option.map_some, Option.map_some]
    cases hd : e.deadTimer with
    | none => rfl
    | some h =>
      obtain ⟨t, ht, hn⟩ := hg.pending m e h he hd
      rw [Option.bind_some, Option.bind_some, ht, (htim h t (hn ▸ hm)).2 ht]

/-- An entry that takes a status other than `suspect` has no timer. -/
theorem good_settle (hg : st.Good) {e : ClusterPeerHealthEntry} {n : JsString}
    (hk : st.isUnknownPeer n = false) (hn : e.nodeId = n) (hs : e.status ≠ .suspect)
    (hd : e.deadTimer = none) :
    ((st.clearTimeout (st.entry n).deadTimer).setEntry e).Good ∧
      ∀ m, ((st.clearTimeout (st.entry n).deadTimer).setEntry e).peer m =
        if m = n then some (e.status, none) else st.peer m := by
  set st' := (st.clearTimeout (st.entry n).deadTimer).setEntry e with hst'
  have hent : st'.entries = st.entries.set n e := by simp [hst', setEntry, hn]
  have htim : ∀ h t, st'.timers.get h = some t ↔ st.timers.get h = some t ∧ t.nodeId ≠ n :=
    timers_clearTimeout hg n
  have hkn : ∀ m, st'.isUnknownPeer m = st.isUnknownPeer m := by
    intro m; simp [hst', setEntry, isUnknownPeer]
  constructor
  · refine ⟨fun m f hf => ?_, fun m f hf => ?_, fun m f hf => ?_, fun m f h hf hfh => ?_,
      fun h t hh => ?_, fun h t hh => ?_⟩
    · rw [hent, JsMap.get_set] at hf
      split_ifs at hf with hm
      · cases hf; rw [hn, hm]
      · exact hg.key m f hf
    · rw [hent, JsMap.get_set] at hf
      rw [hkn]
      split_ifs at hf with hm
      · rw [hm, hk]
      · exact hg.known m f hf
    · rw [hent, JsMap.get_set] at hf
      split_ifs at hf with hm
      · cases hf; simp [hs, hd]
      · exact hg.suspect_iff m f hf
    · rw [hent, JsMap.get_set] at hf
      split_ifs at hf with hm
      · cases hf; rw [hd] at hfh; cases hfh
      · obtain ⟨t, ht, htn⟩ := hg.pending m f h hf hfh
        exact ⟨t, (htim h t).2 ⟨ht, htn ▸ hm⟩, htn⟩
    · obtain ⟨ht, hne⟩ := (htim h t).1 hh
      rw [hent]
      exact owner_of_ne hg ht hne e
    · rw [hst', setEntry, clearTimeout_nextTimeout]
      exact hg.fresh h t ((htim h t).1 hh).1
  · intro m
    split_ifs with hm
    · rw [peer, hent, hm, JsMap.get_set_self, Option.map_some, hd]; rfl
    · exact peer_congr hg hm (by rw [hent, JsMap.get_set_of_ne _ hm])
        fun h t hne => by rw [htim]; exact and_iff_left hne

/-- An entry that becomes suspect gets a timer for the full timeout. -/
theorem good_suspect (hg : st.Good) {e : ClusterPeerHealthEntry} {n : JsString}
    (detail : Option JsString) (hk : st.isUnknownPeer n = false) (hn : e.nodeId = n)
    (hs : e.status = .suspect) (hd : e.deadTimer = none) :
    (((st.clearTimeout (st.entry n).deadTimer).setEntry e).ensureSuspectTimer n detail).Good ∧
      ∀ m, (((st.clearTimeout (st.entry n).deadTimer).setEntry e).ensureSuspectTimer n
          detail).peer m =
        if m = n then some (.suspect, some (st.clock + st.suspectTimeoutMs)) else st.peer m := by
  set st₁ := st.clearTimeout (st.entry n).deadTimer with hst₁
  set st' := (st₁.setEntry e).ensureSuspectTimer n detail with hst'
  let armed : DeadTimer := ⟨n, detail, st.clock + st.suspectTimeoutMs⟩
  have hst'' : st' = { st₁ with
      timers := st₁.timers.set st.nextTimeout armed
      nextTimeout := st.nextTimeout + 1
      entries := (st.entries.set n e).set n { e with deadTimer := some st.nextTimeout } } := by
    simp [hst', ensureSuspectTimer, setEntry, hn, hd, armed, hst₁]
  have hent : ∀ m, st'.entries.get m =
      if m = n then some { e with deadTimer := some st.nextTimeout } else st.entries.get m := by
    intro m
    rw [hst'', JsMap.get_set, JsMap.get_set]
    split_ifs <;> rfl
  have htim : ∀ h t, st'.timers.get h = some t ↔
      (h = st.nextTimeout ∧ t = armed) ∨ (st.timers.get h = some t ∧ t.nodeId ≠ n) := by
    intro h t
    rw [hst'', JsMap.get_set]
    split_ifs with hh
    · have hnone : st.timers.get h ≠ some t := fun ht => absurd (hg.fresh h t ht) (by omega)
      rw [Option.some.injEq, eq_comm, and_iff_right hh, or_iff_left fun hx => hnone hx.1]
    · rw [hst₁, timers_clearTimeout hg n h t]
      simp [hh]
  have hkn : ∀ m, st'.isUnknownPeer m = st.isUnknownPeer m := by
    intro m; rw [hst'']; simp [isUnknownPeer, hst₁]
  constructor
  · refine ⟨fun m f hf => ?_, fun m f hf => ?_, fun m f hf => ?_, fun m f h hf hfh => ?_,
      fun h t hh => ?_, fun h t hh => ?_⟩
    · rw [hent] at hf
      split_ifs at hf with hm
      · cases hf; rw [hm, ← hn]
      · exact hg.key m f hf
    · rw [hent] at hf
      rw [hkn]
      split_ifs at hf with hm
      · rw [hm, hk]
      · exact hg.known m f hf
    · rw [hent] at hf
      split_ifs at hf with hm
      · cases hf; simp [hs]
      · exact hg.suspect_iff m f hf
    · rw [hent] at hf
      split_ifs at hf with hm
      · cases hf; cases hfh
        exact ⟨armed, (htim _ _).2 (Or.inl ⟨rfl, rfl⟩), hm.symm⟩
      · obtain ⟨t, ht, htn⟩ := hg.pending m f h hf hfh
        exact ⟨t, (htim h t).2 (Or.inr ⟨ht, htn ▸ hm⟩), htn⟩
    · rcases (htim h t).1 hh with ⟨rfl, rfl⟩ | ⟨ht, hne⟩
      · exact ⟨_, by rw [hent, if_pos rfl], rfl⟩
      · obtain ⟨f, hf, hfh⟩ := hg.owner h t ht
        exact ⟨f, by rw [hent, if_neg hne, hf], hfh⟩
    · rw [hst'']
      rcases (htim h t).1 hh with ⟨rfl, -⟩ | ⟨ht, -⟩
      · exact Nat.lt_succ_self _
      · exact (hg.fresh h t ht).trans (Nat.lt_succ_self _)
  · intro m
    split_ifs with hm
    · rw [peer, hent, if_pos hm, Option.map_some, hs, Option.bind_some,
        (htim _ _).2 (Or.inl ⟨rfl, rfl⟩)]
      rfl
    · refine peer_congr hg hm (by rw [hent, if_neg hm]) fun h t hne => ?_
      rw [htim, and_iff_left hne]
      exact or_iff_right fun hh => hne (by rw [hh.2])

/-! ### Outcomes -/

/-- What an event does to one peer. -/
inductive Outcome
  | keep
  | remove
  | become (status : ReportedStatus)

/-- The peer after the event; `deadline` is the clock plus the suspect timeout. -/
def Outcome.apply (deadline : ℕ) (p : Option (ClusterPeerHealthStatus × Option ℕ)) :
    Outcome → Option (ClusterPeerHealthStatus × Option ℕ)
  | .keep => p
  | .remove => none
  | .become s => some (s.toStatus, if s = .suspect then some deadline else none)

/-- What the local observation `status` does to a peer; `again` says that it changes nothing. -/
def localOutcome (st : ClusterPeerHealthStore) (nodeId : JsString) (status : ReportedStatus)
    (again : Prop) [Decidable again] : Outcome :=
  if st.isUnknownPeer nodeId then .keep
  else if (st.entry nodeId).status = status.toStatus ∧ (st.entry nodeId).source = .localSource ∧ again
  then .keep
  else .become status

/-- What a rumor does to the peer it is about. -/
def rumorOutcome (st : ClusterPeerHealthStore) (rumor : ClusterPeerHealthRumor) : Outcome :=
  if st.isUnknownPeer rumor.nodeId then .keep
  else if shouldApplyRumor (st.entry rumor.nodeId) rumor then .become rumor.status
  else .keep

/-- What the event does to the peer `n`. -/
def outcome (st : ClusterPeerHealthStore) (n : JsString) : Event → Outcome
  | .markAlive m _ => if m = n then st.localOutcome m .alive True else .keep
  | .markSuspect m _ => if m = n then st.localOutcome m .suspect True else .keep
  | .markDead m detail =>
    if m = n then st.localOutcome m .dead ((st.entry m).detail = detail) else .keep
  | .applyRumor rumor _ => if rumor.nodeId = n then st.rumorOutcome rumor else .keep
  | .noteKnownPeers nodeIds => if n ∈ nodeIds then .keep else .remove
  | .dispose => .remove
  | .timerFires h =>
    match st.timers.get h with
    | some t => if t.nodeId = n ∧ t.expiresAt ≤ st.clock then .become .dead else .keep
    | none => .keep
  | .advance _ => .keep

/-- The step from `st` to `st'` does `o` to the peer `n`, and nothing to the others. -/
def Does (st st' : ClusterPeerHealthStore) (n : JsString) (o : Outcome) : Prop :=
  st'.Good ∧ ∀ m, st'.peer m =
    if m = n then o.apply (st.clock + st.suspectTimeoutMs) (st.peer m) else st.peer m

theorem Does.keep (hg : st.Good) (n : JsString) : st.Does st n .keep :=
  ⟨hg, fun m => by split_ifs <;> rfl⟩

theorem ensureSuspectTimer_emit (e : ClusterPeerHealthEntry) (n : JsString)
    (detail : Option JsString) :
    (st.emit e).ensureSuspectTimer n detail = (st.ensureSuspectTimer n detail).emit e := by
  simp only [ensureSuspectTimer, emit]
  cases st.entries.get n with
  | none => rfl
  | some cur => by_cases hc : cur.deadTimer.isSome <;> simp [hc]

theorem ensureSuspectTimer_of_armed {n : JsString} {e : ClusterPeerHealthEntry}
    (he : st.entries.get n = some e) (hd : e.deadTimer ≠ none) (detail : Option JsString) :
    st.ensureSuspectTimer n detail = st := by
  unfold ensureSuspectTimer
  rw [he]
  exact if_pos (Option.isSome_iff_ne_none.2 hd)

theorem Does.emit {st' : ClusterPeerHealthStore} {n : JsString} {o : Outcome}
    (h : st.Does st' n o) (e : ClusterPeerHealthEntry) : st.Does (st'.emit e) n o :=
  ⟨⟨h.1.key, h.1.known, h.1.suspect_iff, h.1.pending, h.1.owner, h.1.fresh⟩, h.2⟩

theorem entry_nodeId (hg : st.Good) (n : JsString) : (st.entry n).nodeId = n := by
  unfold entry
  cases he : st.entries.get n with
  | none => rfl
  | some e => exact hg.key n e he

/-- The entry of a peer that has a status is the one in the table. -/
theorem get_of_status {n : JsString} (h : (st.entry n).status ≠ .unknown) :
    st.entries.get n = some (st.entry n) := by
  unfold entry at h ⊢
  cases he : st.entries.get n with
  | none => rw [he] at h; exact absurd rfl h
  | some e => rfl

/-- The entry is rewritten and keeps its status. -/
theorem does_touch (hg : st.Good) {n : JsString} {e : ClusterPeerHealthEntry}
    (hu : (st.entry n).status ≠ .unknown) (hn : e.nodeId = n)
    (hs : e.status = (st.entry n).status) (hd : e.deadTimer = (st.entry n).deadTimer) :
    st.Does (st.setEntry e) n .keep := by
  obtain ⟨h1, h2⟩ := good_touch hg (get_of_status hu) hn hs hd
  exact ⟨h1, fun m => by rw [h2]; split_ifs <;> rfl⟩

/-- The entry takes a status other than `suspect`. -/
theorem does_settle (hg : st.Good) {n : JsString} {e : ClusterPeerHealthEntry}
    {status : ReportedStatus} (hk : st.isUnknownPeer n = false) (hn : e.nodeId = n)
    (hs : e.status = status.toStatus) (hne : status ≠ .suspect) (hd : e.deadTimer = none) :
    st.Does ((st.clearTimeout (st.entry n).deadTimer).setEntry e) n (.become status) := by
  have hne' : e.status ≠ .suspect := by cases status <;> simp_all [ReportedStatus.toStatus]
  obtain ⟨h1, h2⟩ := good_settle hg hk hn hne' hd
  exact ⟨h1, fun m => by rw [h2, hs, Outcome.apply, if_neg hne]⟩

/-- The entry becomes suspect. -/
theorem does_suspect (hg : st.Good) {n : JsString} {e : ClusterPeerHealthEntry}
    (detail : Option JsString) (hk : st.isUnknownPeer n = false) (hn : e.nodeId = n)
    (hs : e.status = .suspect) (hd : e.deadTimer = none) :
    st.Does (((st.clearTimeout (st.entry n).deadTimer).setEntry e).ensureSuspectTimer n detail) n
      (.become .suspect) := by
  obtain ⟨h1, h2⟩ := good_suspect hg detail hk hn hs hd
  exact ⟨h1, fun m => by rw [h2]; rfl⟩

theorem does_applyLocalStatus (hg : st.Good) {n : JsString} {status : ReportedStatus}
    (hk : st.isUnknownPeer n = false) (hne : status ≠ .suspect) (detail : Option JsString) :
    st.Does (st.applyLocalStatus (st.entry n) status detail) n (.become status) := by
  unfold applyLocalStatus
  refine Does.emit (does_settle hg hk ?_ ?_ hne ?_) _
  · exact entry_nodeId hg n
  · rfl
  · rfl

theorem localOutcome_again {n : JsString} {status : ReportedStatus} {again : Prop}
    [Decidable again] (h : (st.entry n).status = status.toStatus ∧
      (st.entry n).source = .localSource ∧ again) : st.localOutcome n status again = .keep := by
  unfold localOutcome
  rw [if_pos h, ite_self]

theorem localOutcome_new {n : JsString} {status : ReportedStatus} {again : Prop}
    [Decidable again] (hk : st.isUnknownPeer n = false) (h : ¬((st.entry n).status =
      status.toStatus ∧ (st.entry n).source = .localSource ∧ again)) :
    st.localOutcome n status again = .become status := by
  unfold localOutcome
  rw [hk, if_neg h, if_neg Bool.false_ne_true]

theorem localOutcome_unknown {n : JsString} (status : ReportedStatus) (again : Prop)
    [Decidable again] (hk : st.isUnknownPeer n = true) :
    st.localOutcome n status again = .keep := if_pos hk

theorem does_markAlive (hg : st.Good) (n : JsString) (detail : Option JsString) :
    st.Does (st.markAlive n detail) n (st.localOutcome n .alive True) := by
  unfold markAlive
  by_cases hk : st.isUnknownPeer n = true
  · rw [if_pos hk, localOutcome_unknown _ _ hk]
    exact Does.keep hg n
  · rw [if_neg hk]
    by_cases hc : (st.entry n).status = .alive ∧ (st.entry n).source = .localSource
    · rw [localOutcome_again ⟨hc.1, hc.2, trivial⟩]
      dsimp only
      rw [if_pos hc]
      refine does_touch hg ?_ ?_ ?_ ?_
      · rw [hc.1]; decide
      · exact entry_nodeId hg n
      · rfl
      · rfl
    · rw [localOutcome_new (by simpa using hk) fun h => hc ⟨h.1, h.2.1⟩]
      dsimp only
      rw [if_neg hc]
      exact does_applyLocalStatus hg (by simpa using hk) (by decide) detail

theorem does_markDead (hg : st.Good) (n : JsString) (detail : Option JsString) :
    st.Does (st.markDead n detail) n
      (st.localOutcome n .dead ((st.entry n).detail = detail)) := by
  unfold markDead
  by_cases hk : st.isUnknownPeer n = true
  · rw [if_pos hk, localOutcome_unknown _ _ hk]
    exact Does.keep hg n
  · rw [if_neg hk]
    by_cases hc : (st.entry n).status = .dead ∧ (st.entry n).source = .localSource ∧
        (st.entry n).detail = detail
    · rw [localOutcome_again hc]
      dsimp only
      rw [if_pos hc]
      refine does_touch hg ?_ ?_ ?_ ?_
      · rw [hc.1]; decide
      · exact entry_nodeId hg n
      · rfl
      · rfl
    · rw [localOutcome_new (by simpa using hk) hc]
      dsimp only
      rw [if_neg hc]
      exact does_applyLocalStatus hg (by simpa using hk) (by decide) detail

theorem does_markSuspect (hg : st.Good) (n : JsString) (detail : Option JsString) :
    st.Does (st.markSuspect n detail) n (st.localOutcome n .suspect True) := by
  unfold markSuspect
  by_cases hk : st.isUnknownPeer n = true
  · rw [if_pos hk, localOutcome_unknown _ _ hk]
    exact Does.keep hg n
  · rw [if_neg hk]
    by_cases hc : (st.entry n).status = .suspect ∧ (st.entry n).source = .localSource
    · rw [localOutcome_again ⟨hc.1, hc.2, trivial⟩]
      dsimp only
      rw [if_pos hc]
      -- the timer is armed already, so `ensureSuspectTimer` leaves it alone
      have hget : st.entries.get n = some (st.entry n) := get_of_status (by rw [hc.1]; decide)
      have harmed := (hg.suspect_iff n _ hget).1 hc.1
      rw [ensureSuspectTimer_of_armed (e := { st.entry n with
        updatedAt := st.clock, detail, reportedByNodeId := none })
        (by simp [setEntry, entry_nodeId hg n]) harmed]
      refine does_touch hg ?_ ?_ ?_ ?_
      · rw [hc.1]; decide
      · exact entry_nodeId hg n
      · rfl
      · rfl
    · rw [localOutcome_new (by simpa using hk) fun h => hc ⟨h.1, h.2.1⟩]
      dsimp only
      rw [if_neg hc]
      unfold applyLocalStatus
      dsimp only
      rw [ensureSuspectTimer_emit]
      refine Does.emit (does_suspect hg detail (by simpa using hk) ?_ ?_ ?_) _
      · exact entry_nodeId hg n
      · rfl
      · rfl

theorem does_applyRumor (hg : st.Good) (rumor : ClusterPeerHealthRumor)
    (reportedByNodeId : JsString) :
    st.Does (st.applyRumor rumor reportedByNodeId) rumor.nodeId (st.rumorOutcome rumor) := by
  have hid := entry_nodeId hg rumor.nodeId
  unfold applyRumor rumorOutcome
  by_cases hk : st.isUnknownPeer rumor.nodeId = true
  · rw [if_pos hk, if_pos hk]
    exact Does.keep hg _
  · rw [if_neg hk, if_neg hk]
    have hk' : st.isUnknownPeer rumor.nodeId = false := by simpa using hk
    dsimp only
    by_cases hr : shouldApplyRumor (st.entry rumor.nodeId) rumor = true
    · rw [if_pos hr, hr, if_neg (by decide)]
      by_cases hs : rumor.status = .suspect
      · rw [if_pos hs, hs]
        refine Does.emit (does_suspect hg _ hk' ?_ ?_ ?_) _
        · exact hid
        · rfl
        · rfl
      · rw [if_neg hs]
        refine Does.emit (does_settle hg hk' ?_ ?_ hs ?_) _
        · exact hid
        · rfl
        · rfl
    · rw [if_neg hr, if_pos (by simpa using hr)]
      split_ifs with hc
      · refine does_touch hg ?_ ?_ ?_ ?_
        · intro hu
          simp [shouldApplyRumor, hu] at hr
        · exact hid
        · rfl
        · rfl
      · exact Does.keep hg _

/-- Dropping the entries outside `keep` with their timers. -/
theorem good_restrict (hg : st.Good) (st' : ClusterPeerHealthStore) (keep : JsString → Prop)
    [DecidablePred keep]
    (hent : ∀ n, st'.entries.get n = if keep n then st.entries.get n else none)
    (htim : ∀ h t, st'.timers.get h = some t ↔ st.timers.get h = some t ∧ keep t.nodeId)
    (hnext : st'.nextTimeout = st.nextTimeout)
    (hk : ∀ n e, st.entries.get n = some e → keep n → st'.isUnknownPeer n = false) :
    st'.Good ∧ ∀ n, st'.peer n = if keep n then st.peer n else none := by
  constructor
  · refine ⟨fun n e he => ?_, fun n e he => ?_, fun n e he => ?_, fun n e h he hd => ?_,
      fun h t ht => ?_, fun h t ht => ?_⟩
    all_goals first
      | (rw [hent] at he; split_ifs at he with hn)
      | obtain ⟨ht, hn⟩ := (htim h t).1 ht
    · exact hg.key n e he
    · exact hk n e he hn
    · exact hg.suspect_iff n e he
    · obtain ⟨t, ht, htn⟩ := hg.pending n e h he hd
      exact ⟨t, (htim h t).2 ⟨ht, htn ▸ hn⟩, htn⟩
    · obtain ⟨e, he, hd⟩ := hg.owner h t ht
      exact ⟨e, by rw [hent, if_pos hn, he], hd⟩
    · rw [hnext]
      exact hg.fresh h t ht
  · intro n
    unfold peer
    rw [hent]
    split_ifs with hn
    · cases he : st.entries.get n with
      | none => rfl
      | some e =>
        rw [Option.map_some, Option.map_some]
        cases hd : e.deadTimer with
        | none => rfl
        | some h =>
          obtain ⟨t, ht, htn⟩ := hg.pending n e h he hd
          rw [Option.bind_some, Option.bind_some, ht, (htim h t).2 ⟨ht, htn ▸ hn⟩]
    · rfl

/-- A timer is kept when the entry it belongs to is. -/
theorem timers_restrict (hg : st.Good) (keep : JsString → Prop) [DecidablePred keep] {h : ℕ}
    {t : DeadTimer} :
    (st.timers.filter fun h _ => !st.entries.entries.any fun e =>
      !decide (keep e.1) && decide (e.2.deadTimer = some h)).get h = some t ↔
      st.timers.get h = some t ∧ keep t.nodeId := by
  rw [JsMap.get_filter]
  refine and_congr_right fun ht => ?_
  obtain ⟨e, he, hd⟩ := hg.owner h t ht
  simp only [Bool.not_eq_true', List.any_eq_false, Bool.and_eq_true, decide_eq_false_iff_not,
    decide_eq_true_eq, not_and, Prod.forall]
  constructor
  · intro hall
    by_contra hn
    exact hall _ _ (JsMap.get_eq_some_iff.1 he) hn hd
  · intro hn m f hf hm hfd
    obtain ⟨t', ht', htn⟩ := hg.pending m f h (JsMap.get_eq_some_iff.2 hf) hfd
    rw [ht] at ht'
    cases ht'
    exact hm (htn ▸ hn)

theorem spec_noteKnownPeers (hg : st.Good) (nodeIds : List JsString) :
    (st.noteKnownPeers nodeIds).Good ∧
      ∀ n, (st.noteKnownPeers nodeIds).peer n = if n ∈ nodeIds then st.peer n else none :=
  good_restrict hg _ (· ∈ nodeIds)
    (fun n => by
      ext e
      simp only [noteKnownPeers]
      rw [JsMap.get_filter]
      by_cases hn : n ∈ nodeIds <;> simp [hn])
    (fun h t => by simpa [noteKnownPeers] using timers_restrict hg (· ∈ nodeIds))
    rfl (fun n e _ hn => by simp [noteKnownPeers, isUnknownPeer, hn])

theorem spec_dispose (hg : st.Good) : st.dispose.Good ∧ ∀ n, st.dispose.peer n = none := by
  obtain ⟨h1, h2⟩ := good_restrict hg st.dispose (fun _ => False)
    (fun n => by simp [dispose])
    (fun h t => by simpa [dispose] using timers_restrict hg fun _ => False)
    rfl (fun n e _ hn => hn.elim)
  exact ⟨h1, fun n => by rw [h2, if_neg id]⟩

/-- A due timer declares the peer it was armed for dead. -/
theorem does_timerFires (hg : st.Good) {h : ℕ} {t : DeadTimer} (ht : st.timers.get h = some t)
    (hdue : t.expiresAt ≤ st.clock) : st.Does (st.timerFires h) t.nodeId (.become .dead) := by
  obtain ⟨e, he, hd⟩ := hg.owner h t ht
  have hsus : e.status = .suspect := (hg.suspect_iff _ e he).2 (by rw [hd]; simp)
  have hid := hg.key _ e he
  have hk := hg.known _ e he
  have hentry : st.entry t.nodeId = e := by unfold entry; rw [he]; rfl
  unfold timerFires
  rw [ht]
  dsimp only
  rw [if_pos hdue, he]
  dsimp only
  rw [if_neg (by simp [hsus])]
  -- the timer is dropped first, and then the peer is declared dead
  set mid := ClusterPeerHealthStore.setEntry { st with timers := st.timers.delete h }
    { e with deadTimer := none } with hmid
  have hmentry : mid.entry t.nodeId = { e with deadTimer := none } := by
    simp [hmid, entry, setEntry, hid]
  unfold markDead
  rw [if_neg (by simpa [hmid, setEntry, isUnknownPeer] using hk), hmentry]
  dsimp only
  rw [if_neg (by simp [hsus])]
  have hdoes := does_applyLocalStatus hg hk (by decide : ReportedStatus.dead ≠ .suspect)
    (some (t.detail.getD (js "suspect_timeout")))
  rw [hentry] at hdoes
  simpa [hmid, applyLocalStatus, setEntry, ClusterPeerHealthStore.emit, clearTimeout, hid, hd,
    JsMap.set_set, ReportedStatus.toStatus] using hdoes

theorem timerFires_of_not_due {h : ℕ}
    (hn : ∀ t, st.timers.get h = some t → ¬t.expiresAt ≤ st.clock) : st.timerFires h = st := by
  unfold timerFires
  cases ht : st.timers.get h with
  | none => rfl
  | some t => exact if_neg (hn t ht)

theorem Does.peer_eq {st' : ClusterPeerHealthStore} {m : JsString} {o : Outcome}
    (h : st.Does st' m o) (n : JsString) :
    st'.peer n =
      (if m = n then o else .keep).apply (st.clock + st.suspectTimeoutMs) (st.peer n) := by
  rw [h.2]
  by_cases hn : m = n
  · rw [if_pos hn.symm, if_pos hn]
  · rw [if_neg (Ne.symm hn), if_neg hn]; rfl

/-- Every event keeps the invariant, and does to each peer what `outcome` says. -/
theorem peer_step (hg : st.Good) (e : Event) :
    (st.step e).Good ∧ ∀ n, (st.step e).peer n =
      (st.outcome n e).apply (st.clock + st.suspectTimeoutMs) (st.peer n) := by
  cases e with
  | noteKnownPeers nodeIds =>
    obtain ⟨h1, h2⟩ := spec_noteKnownPeers hg nodeIds
    exact ⟨h1, fun n => by rw [step, h2, outcome]; split_ifs <;> rfl⟩
  | markAlive n detail => exact ⟨(does_markAlive hg n detail).1, (does_markAlive hg n detail).peer_eq⟩
  | markSuspect n detail =>
    exact ⟨(does_markSuspect hg n detail).1, (does_markSuspect hg n detail).peer_eq⟩
  | markDead n detail => exact ⟨(does_markDead hg n detail).1, (does_markDead hg n detail).peer_eq⟩
  | applyRumor rumor by' =>
    exact ⟨(does_applyRumor hg rumor by').1, (does_applyRumor hg rumor by').peer_eq⟩
  | dispose => exact spec_dispose hg
  | timerFires h =>
    cases ht : st.timers.get h with
    | none =>
      have hstep : st.step (.timerFires h) = st := timerFires_of_not_due (by simp [ht])
      rw [hstep]
      exact ⟨hg, fun n => by simp [outcome, ht, Outcome.apply]⟩
    | some t =>
      by_cases hdue : t.expiresAt ≤ st.clock
      · have hdoes := does_timerFires hg ht hdue
        exact ⟨hdoes.1, fun n => by simpa [outcome, ht, hdue, step] using hdoes.peer_eq n⟩
      · have hstep : st.step (.timerFires h) = st :=
          timerFires_of_not_due fun t' ht' => by rw [ht] at ht'; cases ht'; exact hdue
        rw [hstep]
        exact ⟨hg, fun n => by simp [outcome, ht, hdue, Outcome.apply]⟩
  | advance ms =>
    exact ⟨⟨hg.key, hg.known, hg.suspect_iff, hg.pending, hg.owner, hg.fresh⟩, fun n => rfl⟩

theorem good_run (hg : st.Good) (es : List Event) : (Machine.run step st es).Good :=
  Machine.run_invariant hg (fun _ e hg => (peer_step hg e).1) es

/-! ### The timeout -/

@[simp] theorem setEntry_suspectTimeoutMs (e : ClusterPeerHealthEntry) :
    (st.setEntry e).suspectTimeoutMs = st.suspectTimeoutMs := rfl

@[simp] theorem emit_suspectTimeoutMs (e : ClusterPeerHealthEntry) :
    (st.emit e).suspectTimeoutMs = st.suspectTimeoutMs := rfl

@[simp] theorem applyLocalStatus_suspectTimeoutMs (e : ClusterPeerHealthEntry)
    (status : ReportedStatus) (detail : Option JsString) :
    (st.applyLocalStatus e status detail).suspectTimeoutMs = st.suspectTimeoutMs := by
  simp [applyLocalStatus]

@[simp] theorem ensureSuspectTimer_suspectTimeoutMs (n : JsString) (detail : Option JsString) :
    (st.ensureSuspectTimer n detail).suspectTimeoutMs = st.suspectTimeoutMs := by
  unfold ensureSuspectTimer
  split
  · rfl
  · split_ifs <;> rfl

@[simp] theorem markDead_suspectTimeoutMs (n : JsString) (detail : Option JsString) :
    (st.markDead n detail).suspectTimeoutMs = st.suspectTimeoutMs := by
  simp only [markDead]
  split_ifs <;> simp

/-- The timeout is a constant of the store. -/
theorem step_suspectTimeoutMs (e : Event) :
    (st.step e).suspectTimeoutMs = st.suspectTimeoutMs := by
  cases e with
  | noteKnownPeers nodeIds => rfl
  | markAlive n detail => simp only [step, markAlive]; split_ifs <;> simp
  | markSuspect n detail => simp only [step, markSuspect]; split_ifs <;> simp
  | markDead n detail => simp [step]
  | applyRumor rumor by' => simp only [step, applyRumor]; split_ifs <;> simp
  | dispose => rfl
  | timerFires h =>
    simp only [step, timerFires]
    split
    · rfl
    · split_ifs
      · split
        · rfl
        · split_ifs <;> simp
      · rfl
  | advance ms => rfl

end ClusterPeerHealthStore

end Hardess
