import Hardess.Cluster.HealthStep
import Hardess.Lib.Machine
import Hardess.Lib.NumberOrder

/-!
# Which report of a peer prevails

A rumor is judged by the status, the incarnation and the source of the entry that it is about, and
a rumor that is not applied may still refresh the entry.

* `applyRumor_cases`: what a rumor does to the entry that it is about;
* **`observation_kept_iff`**: rumors no newer than a local observation leave it alone exactly when
  none of them refreshes it, since a refreshed entry counts as a remote one;
* `place`: incarnation and status of an entry in the lexicographic order;
* **`gossip_maximum`**: of the rumors about a peer the greatest prevails, in whatever order they come.
-/

namespace Hardess

namespace ClusterPeerHealthStore

variable {st : ClusterPeerHealthStore} {p : JsString}

/-! ### One rumor -/

/-- The rumor repeats the status of an entry with a newer sign of life. -/
def Refreshes (current : ClusterPeerHealthEntry) (rumor : ClusterPeerHealthRumor) : Prop :=
  current.status = rumor.status.toStatus ∧
    rumor.lastAliveAt.any fun x => (current.lastAliveAt.getD (.ofNat 0)).lt x

instance (current : ClusterPeerHealthEntry) (rumor : ClusterPeerHealthRumor) :
    Decidable (Refreshes current rumor) := inferInstanceAs (Decidable (_ ∧ _))

/-- The entry that an applied rumor writes. -/
def appliedEntry (st : ClusterPeerHealthStore) (rumor : ClusterPeerHealthRumor)
    (reporter : JsString) : ClusterPeerHealthEntry :=
  let current := st.entry rumor.nodeId
  { current with
    deadTimer := none, status := rumor.status.toStatus, incarnation := rumor.incarnation
    updatedAt := st.clock
    lastAliveAt :=
      if rumor.status = .alive then
        some ((rumor.lastAliveAt.or current.lastAliveAt).getD (.ofNat st.clock))
      else current.lastAliveAt
    detail := some (js "gossip:" ++ reporter), source := .remoteSource
    reportedByNodeId := some reporter }

/-- The entry that a refreshing rumor writes. -/
def refreshedEntry (st : ClusterPeerHealthStore) (rumor : ClusterPeerHealthRumor)
    (reporter : JsString) : ClusterPeerHealthEntry :=
  { st.entry rumor.nodeId with
    lastAliveAt := rumor.lastAliveAt, updatedAt := st.clock, source := .remoteSource
    reportedByNodeId := some reporter, detail := some (js "gossip:" ++ reporter) }

theorem applyRumor_of_known {rumor : ClusterPeerHealthRumor}
    (hk : st.isUnknownPeer rumor.nodeId = false) (reporter : JsString) :
    st.applyRumor rumor reporter =
      if shouldApplyRumor (st.entry rumor.nodeId) rumor = true then
        (if rumor.status = .suspect then
          ((st.clearTimeout (st.entry rumor.nodeId).deadTimer).setEntry
            (st.appliedEntry rumor reporter)).ensureSuspectTimer rumor.nodeId
              (some (js "gossip:" ++ reporter))
        else (st.clearTimeout (st.entry rumor.nodeId).deadTimer).setEntry
          (st.appliedEntry rumor reporter)).emit (st.appliedEntry rumor reporter)
      else if Refreshes (st.entry rumor.nodeId) rumor then
        st.setEntry (st.refreshedEntry rumor reporter)
      else st := by
  unfold applyRumor
  rw [hk, if_neg Bool.false_ne_true]
  cases happly : shouldApplyRumor (st.entry rumor.nodeId) rumor with
  | true => simp only [happly]; rfl
  | false => simp only [happly]; rfl

/-- What a rumor makes of the entry that it is about: the rumor itself, the entry as a remote one,
or the entry. -/
structure Heard (current : ClusterPeerHealthEntry) (rumor : ClusterPeerHealthRumor)
    (latest : ClusterPeerHealthEntry) : Prop where
  applied : shouldApplyRumor current rumor = true →
    latest.status = rumor.status.toStatus ∧ latest.incarnation = rumor.incarnation ∧
      latest.source = .remoteSource
  refreshed : shouldApplyRumor current rumor = false → Refreshes current rumor →
    latest.status = current.status ∧ latest.incarnation = current.incarnation ∧
      latest.source = .remoteSource
  ignored : shouldApplyRumor current rumor = false → ¬Refreshes current rumor → latest = current

/-- `ensureSuspectTimer` touches no entry but its own. -/
theorem get_ensureSuspectTimer_of_ne {n m : JsString} (hm : m ≠ n) (detail : Option JsString) :
    (st.ensureSuspectTimer n detail).entries.get m = st.entries.get m := by
  unfold ensureSuspectTimer
  cases st.entries.get n with
  | none => rfl
  | some current =>
    dsimp only
    split_ifs
    · rfl
    · exact JsMap.get_set_of_ne _ hm _

/-- `ensureSuspectTimer` leaves its entry alone, the timer apart. -/
theorem get_ensureSuspectTimer_self {n : JsString} {e : ClusterPeerHealthEntry}
    (he : st.entries.get n = some e) (detail : Option JsString) :
    ∃ timer, (st.ensureSuspectTimer n detail).entries.get n =
      some { e with deadTimer := timer } := by
  unfold ensureSuspectTimer
  rw [he]
  dsimp only
  split_ifs
  · exact ⟨e.deadTimer, he⟩
  · exact ⟨_, JsMap.get_set_self _ _ _⟩

/-- An entry is written, and gets a timer if it is a suspect one. -/
theorem get_setEntry_arm {e : ClusterPeerHealthEntry} {n : JsString} (hn : e.nodeId = n)
    (arm : Prop) [Decidable arm] (detail : Option JsString) :
    (∃ timer, (if arm then (st.setEntry e).ensureSuspectTimer n detail
        else st.setEntry e).entries.get n = some { e with deadTimer := timer }) ∧
      ∀ m, m ≠ n → (if arm then (st.setEntry e).ensureSuspectTimer n detail
        else st.setEntry e).entries.get m = st.entries.get m := by
  have hself : (st.setEntry e).entries.get n = some e := by
    rw [setEntry, hn, JsMap.get_set_self]
  have hother : ∀ m, m ≠ n → (st.setEntry e).entries.get m = st.entries.get m := by
    intro m hm
    rw [setEntry, hn, JsMap.get_set_of_ne _ hm]
  by_cases ha : arm
  · simp only [if_pos ha]
    exact ⟨get_ensureSuspectTimer_self hself detail, fun m hm =>
      (get_ensureSuspectTimer_of_ne hm detail).trans (hother m hm)⟩
  · simp only [if_neg ha]
    exact ⟨⟨e.deadTimer, hself⟩, hother⟩

/-- A rumor about a peer that is not known is dropped. -/
theorem applyRumor_of_unknown {rumor : ClusterPeerHealthRumor}
    (hk : st.isUnknownPeer rumor.nodeId = true) (reporter : JsString) :
    st.applyRumor rumor reporter = st := if_pos hk

/-- What a rumor about a known peer does: to the entry of the peer, and to the others. -/
theorem applyRumor_cases (hg : st.Good) {rumor : ClusterPeerHealthRumor}
    (hk : st.isUnknownPeer rumor.nodeId = false) (reporter : JsString) :
    (∃ latest, (st.applyRumor rumor reporter).entries.get rumor.nodeId = some latest ∧
      Heard (st.entry rumor.nodeId) rumor latest) ∧
    ∀ m, m ≠ rumor.nodeId →
      (st.applyRumor rumor reporter).entries.get m = st.entries.get m := by
  have hid := entry_nodeId hg rumor.nodeId
  rw [applyRumor_of_known hk]
  cases happly : shouldApplyRumor (st.entry rumor.nodeId) rumor with
  | true =>
    rw [if_pos rfl]
    obtain ⟨⟨timer, hself⟩, hother⟩ := @get_setEntry_arm
      (st.clearTimeout (st.entry rumor.nodeId).deadTimer) (st.appliedEntry rumor reporter)
      rumor.nodeId hid (rumor.status = .suspect) _ (some (js "gossip:" ++ reporter))
    refine ⟨⟨_, hself, ⟨fun _ => ⟨rfl, rfl, rfl⟩, ?_, ?_⟩⟩, fun m hm => ?_⟩
    · simp [happly]
    · simp [happly]
    · exact (hother m hm).trans (by rw [clearTimeout_entries])
  | false =>
    rw [if_neg Bool.false_ne_true]
    by_cases hr : Refreshes (st.entry rumor.nodeId) rumor
    · rw [if_pos hr]
      have hid' : (st.refreshedEntry rumor reporter).nodeId = rumor.nodeId := hid
      refine ⟨⟨st.refreshedEntry rumor reporter, by rw [setEntry, hid', JsMap.get_set_self],
        ⟨?_, fun _ _ => ⟨rfl, rfl, rfl⟩, fun _ h => absurd hr h⟩⟩, fun m hm => ?_⟩
      · simp [happly]
      · rw [setEntry, hid', JsMap.get_set_of_ne _ hm]
    · rw [if_neg hr]
      -- an entry without a status would have taken the rumor
      have hu : (st.entry rumor.nodeId).status ≠ .unknown := by
        intro hu
        simp [shouldApplyRumor, hu] at happly
      refine ⟨⟨_, get_of_status hu, ⟨?_, fun _ h => absurd h hr, fun _ _ => rfl⟩⟩,
        fun _ _ => rfl⟩
      simp [happly]

/-! ### Rumors against a local observation -/

/-- The status of the entry was recorded by a local observation. -/
def Observed (e : ClusterPeerHealthEntry) : Prop :=
  e.status ≠ .unknown ∧ e.source = .localSource

/-- Time passes, or a rumor comes in that, if it is about `p`, is no newer than incarnation `n`. -/
def NoNewer (p : JsString) (n : JsNumber) : Event → Prop
  | .applyRumor rumor _ => rumor.nodeId = p → n.lt rumor.incarnation = false
  | .advance _ => True
  | _ => False

/-- The event is a rumor about `p` that refreshes the entry `e`. -/
def RefreshedBy (p : JsString) (e : ClusterPeerHealthEntry) : Event → Prop
  | .applyRumor rumor _ => rumor.nodeId = p ∧ Refreshes e rumor
  | _ => False

/-- No rumor that is no newer than an observation is applied to it. -/
theorem Observed.not_applied {e : ClusterPeerHealthEntry} (ho : Observed e)
    {rumor : ClusterPeerHealthRumor} (hn : e.incarnation.lt rumor.incarnation = false) :
    shouldApplyRumor e rumor = false := by
  simp [shouldApplyRumor, ho.1, ho.2, hn]

theorem entry_of_get {e : ClusterPeerHealthEntry} (h : st.entries.get p = some e) :
    st.entry p = e := by
  unfold entry
  rw [h]
  rfl

/-- What such an event does to the observed entry. -/
theorem observed_step (hg : st.Good) {e : ClusterPeerHealthEntry}
    (he : st.entries.get p = some e) (ho : Observed e) {r : Event}
    (hr : NoNewer p e.incarnation r) :
    (¬RefreshedBy p e r → (st.step r).entries.get p = some e) ∧
      (RefreshedBy p e r →
        ∃ e', (st.step r).entries.get p = some e' ∧ e'.source = .remoteSource) := by
  cases r with
  | advance ms => exact ⟨fun _ => he, False.elim⟩
  | applyRumor rumor reporter =>
    by_cases hp : rumor.nodeId = p
    · subst hp
      -- an observed entry gives way to newer rumors only
      have happly := ho.not_applied (hr rfl)
      obtain ⟨⟨latest, hget, hheard⟩, -⟩ := applyRumor_cases hg (hg.known _ e he) reporter
      rw [entry_of_get he] at hheard
      constructor
      · intro hno
        rw [← hheard.ignored happly fun h => hno ⟨rfl, h⟩]
        exact hget
      · rintro ⟨-, href⟩
        exact ⟨latest, hget, (hheard.refreshed happly href).2.2⟩
    · refine ⟨fun _ => ?_, fun h => absurd h.1 hp⟩
      cases hk : st.isUnknownPeer rumor.nodeId with
      | true => rw [step, applyRumor_of_unknown hk, he]
      | false => exact ((applyRumor_cases hg hk reporter).2 p (Ne.symm hp)).trans he
  | noteKnownPeers nodeIds => exact hr.elim
  | markAlive nodeId detail => exact hr.elim
  | markSuspect nodeId detail => exact hr.elim
  | markDead nodeId detail => exact hr.elim
  | dispose => exact hr.elim
  | timerFires handle => exact hr.elim

/-- A remote entry stays remote under rumors. -/
theorem remote_step (hg : st.Good) {n : JsNumber} {r : Event} (hr : NoNewer p n r)
    (h : ∃ e, st.entries.get p = some e ∧ e.source = .remoteSource) :
    ∃ e, (st.step r).entries.get p = some e ∧ e.source = .remoteSource := by
  obtain ⟨e, he, hsource⟩ := h
  cases r with
  | advance ms => exact ⟨e, he, hsource⟩
  | applyRumor rumor reporter =>
    by_cases hp : rumor.nodeId = p
    · subst hp
      obtain ⟨⟨latest, hget, hheard⟩, -⟩ := applyRumor_cases hg (hg.known _ e he) reporter
      rw [entry_of_get he] at hheard
      refine ⟨latest, hget, ?_⟩
      -- applied, refreshed or ignored: the source is a remote one
      by_cases happly : shouldApplyRumor e rumor = true
      · exact (hheard.applied happly).2.2
      have happly' : shouldApplyRumor e rumor = false := by simpa using happly
      by_cases href : Refreshes e rumor
      · exact (hheard.refreshed happly' href).2.2
      · rw [hheard.ignored happly' href, hsource]
    · refine ⟨e, ?_, hsource⟩
      cases hk : st.isUnknownPeer rumor.nodeId with
      | true => rw [step, applyRumor_of_unknown hk, he]
      | false => exact ((applyRumor_cases hg hk reporter).2 p (Ne.symm hp)).trans he
  | noteKnownPeers nodeIds => exact hr.elim
  | markAlive nodeId detail => exact hr.elim
  | markSuspect nodeId detail => exact hr.elim
  | markDead nodeId detail => exact hr.elim
  | dispose => exact hr.elim
  | timerFires handle => exact hr.elim

theorem remote_run {n : JsNumber} {rs : List Event} (hrs : ∀ r ∈ rs, NoNewer p n r)
    (hg : st.Good) (h : ∃ e, st.entries.get p = some e ∧ e.source = .remoteSource) :
    ∃ e, (Machine.run step st rs).entries.get p = some e ∧ e.source = .remoteSource := by
  induction rs generalizing st with
  | nil => exact h
  | cons r rs ih =>
    exact ih (fun r' hr' => hrs r' (List.mem_cons_of_mem r hr')) (peer_step hg r).1
      (remote_step hg (hrs r List.mem_cons_self) h)

/-- The entry of `p` has the status and the incarnation of `e`, and is still a local one. -/
def Unchanged (st : ClusterPeerHealthStore) (p : JsString) (e : ClusterPeerHealthEntry) : Prop :=
  ∃ e', st.entries.get p = some e' ∧ e'.status = e.status ∧ e'.incarnation = e.incarnation ∧
    e'.source = .localSource

theorem unchanged_run_iff (rs : List Event) :
    ∀ {st : ClusterPeerHealthStore} {e : ClusterPeerHealthEntry}, st.Good →
      st.entries.get p = some e → Observed e → (∀ r ∈ rs, NoNewer p e.incarnation r) →
      ((Machine.run step st rs).Unchanged p e ↔ ∀ r ∈ rs, ¬RefreshedBy p e r) := by
  induction rs with
  | nil =>
    intro st e _ he ho _
    exact iff_of_true ⟨e, he, rfl, rfl, ho.2⟩ (by simp)
  | cons r rs ih =>
    intro st e hg he ho hrs
    have hg' := (peer_step hg r).1
    have hr := hrs r List.mem_cons_self
    have hrest : ∀ r' ∈ rs, NoNewer p e.incarnation r' :=
      fun r' h => hrs r' (List.mem_cons_of_mem r h)
    obtain ⟨hkeep, hlose⟩ := observed_step hg he ho hr
    by_cases href : RefreshedBy p e r
    · -- from here on the entry is a remote one
      refine iff_of_false ?_ fun h => h r List.mem_cons_self href
      rintro ⟨e', he', -, -, hlocal⟩
      obtain ⟨e'', he'', hremote⟩ := remote_run hrest hg' (hlose href)
      rw [Machine.run_cons, he''] at he'
      cases he'
      rw [hremote] at hlocal
      cases hlocal
    · rw [Machine.run_cons, ih hg' (hkeep href) ho hrest]
      simp [href]

/-- **Rumors that are no newer than a local observation leave its status, its incarnation and its
source alone exactly when none of them repeats the status with a newer sign of life.** -/
theorem observation_kept_iff (suspectTimeoutMs clock : ℕ) (es : List Event)
    {e : ClusterPeerHealthEntry}
    (he : (Machine.run step (create suspectTimeoutMs clock) es).entries.get p = some e)
    (ho : Observed e) (rs : List Event) (hrs : ∀ r ∈ rs, NoNewer p e.incarnation r) :
    (Machine.run step (create suspectTimeoutMs clock) (es ++ rs)).Unchanged p e ↔
      ∀ r ∈ rs, ¬RefreshedBy p e r := by
  rw [Machine.run_append]
  exact unchanged_run_iff rs (good_run (good_create _ _) es) he ho hrs

/-- A peer that was seen alive at time 0. -/
def seenAlive : List Event := [.markAlive (js "b") none]

/-- The entry of that peer. -/
def aliveEntry : ClusterPeerHealthEntry where
  nodeId := js "b"
  status := .alive
  incarnation := (JsNumber.ofNat 0).add (.ofNat 1)
  updatedAt := 0
  lastAliveAt := some (.ofNat 0)
  source := .localSource

theorem get_seenAlive :
    (Machine.run step (create 50 0) seenAlive).entries.get (js "b") = some aliveEntry := rfl

theorem aliveEntry_incarnation : aliveEntry.incarnation = .ofNat 1 :=
  JsNumber.ofNat_add (by norm_num)

/-- The rumor of another node that the peer is suspect, with the same incarnation. -/
def suspectRumor : Event :=
  .applyRumor { nodeId := js "b", status := .suspect, incarnation := .ofNat 1 } (js "c")

/-- The rumor that the peer was alive at time 5, with the same incarnation. -/
def aliveRumor : Event :=
  .applyRumor
    { nodeId := js "b", status := .alive, incarnation := .ofNat 1, lastAliveAt := some (.ofNat 5) }
    (js "d")

theorem noNewer_rumors :
    ∀ r ∈ [aliveRumor, suspectRumor], NoNewer (js "b") aliveEntry.incarnation r := by
  intro r hr
  rw [aliveEntry_incarnation]
  fin_cases hr <;> exact fun _ => JsNumber.lt_irrefl _

/-- A suspect rumor alone changes nothing. -/
theorem observation_kept_seenAlive :
    (Machine.run step (create 50 0) (seenAlive ++ [suspectRumor])).Unchanged (js "b")
      aliveEntry :=
  (observation_kept_iff 50 0 seenAlive get_seenAlive ⟨by decide, rfl⟩ [suspectRumor]
    fun r hr => noNewer_rumors r (List.mem_cons_of_mem _ hr)).2 fun r hr => by
      rw [List.mem_singleton.1 hr]
      rintro ⟨-, hstatus, -⟩
      cases hstatus

/-- After the alive rumor the suspect one prevails over the observation. -/
theorem observation_lost :
    ¬∀ suspectTimeoutMs clock es p e,
      (Machine.run step (create suspectTimeoutMs clock) es).entries.get p = some e → Observed e →
      ∀ rs : List Event, (∀ r ∈ rs, NoNewer p e.incarnation r) →
      (Machine.run step (create suspectTimeoutMs clock) (es ++ rs)).Unchanged p e := by
  intro h
  have hlt : (JsNumber.ofNat 0).lt (.ofNat 5) = true := by
    rw [JsNumber.ofNat_lt (by norm_num) (by norm_num)]
    rfl
  have hkept := h 50 0 seenAlive (js "b") aliveEntry get_seenAlive ⟨by decide, rfl⟩ _ noNewer_rumors
  rw [Machine.run_append, unchanged_run_iff _ (good_run (good_create _ _) seenAlive) get_seenAlive
    ⟨by decide, rfl⟩ noNewer_rumors] at hkept
  exact hkept aliveRumor List.mem_cons_self ⟨rfl, rfl, hlt⟩

/-! ### The greatest rumor -/

/-- Incarnations first, statuses second. -/
abbrev Place : Type := WithBot (WithTop ℚ) ×ₗ ℕ

/-- Where a report stands in the lexicographic order of incarnation and status. -/
def place (incarnation : JsNumber) (status : ClusterPeerHealthStatus) : Place :=
  toLex (incarnation.extended, statusRank status)

theorem place_lt_iff {a b : JsNumber} {s t : ClusterPeerHealthStatus} (ha : a ≠ .nan)
    (hb : b ≠ .nan) : place a s < place b t ↔ a.lt b = true ∨ a = b ∧ statusRank s < statusRank t := by
  rw [place, place, Prod.Lex.toLex_lt_toLex, JsNumber.lt_iff ha hb]
  exact or_congr_right (and_congr_left' ⟨JsNumber.extended_inj ha hb, fun h => by rw [h]⟩)

theorem statusRank_injective : Function.Injective statusRank := by
  intro s t h
  cases s <;> cases t <;> first | rfl | cases h

theorem place_inj {a b : JsNumber} {s t : ClusterPeerHealthStatus} (ha : a ≠ .nan)
    (hb : b ≠ .nan) (h : place a s = place b t) : a = b ∧ s = t := by
  obtain ⟨h1, h2⟩ := Prod.ext_iff.1 (toLex_inj.1 h)
  exact ⟨JsNumber.extended_inj ha hb h1, statusRank_injective h2⟩

/-- Time passes, or a rumor comes in. -/
def IsGossip : Event → Prop
  | .applyRumor rumor _ => rumor.incarnation ≠ .nan
  | .advance _ => True
  | _ => False

/-- What an event says of `p`. -/
def said (p : JsString) : Event → List Place
  | .applyRumor rumor _ =>
    if rumor.nodeId = p then [place rumor.incarnation rumor.status.toStatus] else []
  | _ => []

theorem mem_said_iff {p : JsString} {e : Event} {k : Place} : k ∈ said p e ↔
    ∃ rumor reporter, e = .applyRumor rumor reporter ∧ rumor.nodeId = p ∧
      place rumor.incarnation rumor.status.toStatus = k := by
  cases e with
  | applyRumor rumor reporter =>
    by_cases hp : rumor.nodeId = p
    · simp [said, hp, eq_comm]
    · simp only [said, if_neg hp, List.not_mem_nil, false_iff]
      rintro ⟨_, _, heq, hp', -⟩
      cases heq
      exact hp hp'
  | _ => simp [said]

/-- Where the entry of `p` stands. -/
def standing (p : JsString) (st : ClusterPeerHealthStore) : WithBot Place :=
  match st.entries.get p with
  | none => ⊥
  | some e => ((place e.incarnation e.status : Place) : WithBot Place)

/-- The peer `p` is known, and its entry, if there is one, repeats a rumor. -/
structure Rumored (p : JsString) (st : ClusterPeerHealthStore) : Prop where
  good : st.Good
  known : st.isUnknownPeer p = false
  remote : ∀ e, st.entries.get p = some e →
    e.status ≠ .unknown ∧ e.source = .remoteSource ∧ e.incarnation ≠ .nan

/-- A remote entry takes a rumor exactly when the rumor stands higher. -/
theorem shouldApplyRumor_iff_place {e : ClusterPeerHealthEntry} {rumor : ClusterPeerHealthRumor}
    (hs : e.status ≠ .unknown) (hr : e.source = .remoteSource) (he : e.incarnation ≠ .nan)
    (hn : rumor.incarnation ≠ .nan) : shouldApplyRumor e rumor = true ↔
      place e.incarnation e.status < place rumor.incarnation rumor.status.toStatus := by
  rw [place_lt_iff he hn]
  unfold shouldApplyRumor
  rw [if_neg hs, hr]
  by_cases h1 : e.incarnation.lt rumor.incarnation = true
  · simp [h1]
  · rw [if_neg h1]
    by_cases h2 : rumor.incarnation.lt e.incarnation = true
    · have hne : e.incarnation ≠ rumor.incarnation := by
        intro heq
        rw [heq, JsNumber.lt_irrefl] at h2
        cases h2
      simp [h1, h2, hne]
    · have heq : e.incarnation = rumor.incarnation := by
        rw [JsNumber.lt_iff he hn, not_lt] at h1
        rw [JsNumber.lt_iff hn he, not_lt] at h2
        exact JsNumber.extended_inj he hn (le_antisymm h2 h1)
      simp [heq, JsNumber.lt_irrefl]

theorem ensureSuspectTimer_knownPeerNodeIds (n : JsString) (detail : Option JsString) :
    (st.ensureSuspectTimer n detail).knownPeerNodeIds = st.knownPeerNodeIds := by
  unfold ensureSuspectTimer
  cases st.entries.get n with
  | none => rfl
  | some current =>
    dsimp only
    split_ifs <;> rfl

theorem isUnknownPeer_applyRumor (rumor : ClusterPeerHealthRumor) (reporter n : JsString) :
    (st.applyRumor rumor reporter).isUnknownPeer n = st.isUnknownPeer n := by
  have hset : ∀ (s : ClusterPeerHealthStore) e, (s.setEntry e).knownPeerNodeIds =
      s.knownPeerNodeIds := fun _ _ => rfl
  have hemit : ∀ (s : ClusterPeerHealthStore) e, (s.emit e).knownPeerNodeIds =
      s.knownPeerNodeIds := fun _ _ => rfl
  have hknown : (st.applyRumor rumor reporter).knownPeerNodeIds = st.knownPeerNodeIds := by
    cases hk : st.isUnknownPeer rumor.nodeId with
    | true => rw [applyRumor_of_unknown hk]
    | false =>
      rw [applyRumor_of_known hk]
      split_ifs
      · rw [hemit, ensureSuspectTimer_knownPeerNodeIds, hset, clearTimeout_knownPeerNodeIds]
      · rw [hemit, hset, clearTimeout_knownPeerNodeIds]
      · rfl
      · rfl
  rw [isUnknownPeer, isUnknownPeer, hknown]

/-- What a rumor about `p` makes of an entry that repeats a rumor, or of none. -/
theorem Heard.remote {rumor : ClusterPeerHealthRumor} {latest : ClusterPeerHealthEntry}
    (h : Rumored p st) (hn : rumor.incarnation ≠ .nan) (hheard : Heard (st.entry p) rumor latest) :
    (latest.status ≠ .unknown ∧ latest.source = .remoteSource ∧ latest.incarnation ≠ .nan) ∧
      ((place latest.incarnation latest.status : Place) : WithBot Place) =
        max (standing p st) (place rumor.incarnation rumor.status.toStatus : Place) := by
  have hrep : rumor.status.toStatus ≠ .unknown := by cases rumor.status <;> simp [ReportedStatus.toStatus]
  cases hget : st.entries.get p with
  | none =>
    -- of a peer without an entry any rumor is taken
    have happly : shouldApplyRumor (st.entry p) rumor = true := by
      simp [shouldApplyRumor, entry, hget]
    obtain ⟨hs, hi, hr⟩ := hheard.applied happly
    rw [standing, hget, hs, hi]
    exact ⟨⟨hrep, hr, hn⟩, (max_eq_right bot_le).symm⟩
  | some e =>
    obtain ⟨hu, hr, hi⟩ := h.remote e hget
    rw [entry_of_get hget] at hheard
    rw [standing, hget]
    dsimp only
    by_cases happly : shouldApplyRumor e rumor = true
    · obtain ⟨hs, hi', hr'⟩ := hheard.applied happly
      -- a rumor is applied just in case it stands higher
      have hlt := (shouldApplyRumor_iff_place hu hr hi hn).1 happly
      rw [hs, hi', max_eq_right (WithBot.coe_le_coe.2 hlt.le)]
      exact ⟨⟨hrep, hr', hn⟩, rfl⟩
    · have hle := not_lt.1 fun hlt => happly ((shouldApplyRumor_iff_place hu hr hi hn).2 hlt)
      rw [max_eq_left (WithBot.coe_le_coe.2 hle)]
      have happly' : shouldApplyRumor e rumor = false := by simpa using happly
      by_cases href : Refreshes e rumor
      · obtain ⟨hs, hi', hr'⟩ := hheard.refreshed happly' href
        rw [hs, hi']
        exact ⟨⟨hu, hr', hi⟩, rfl⟩
      · rw [hheard.ignored happly' href]
        exact ⟨⟨hu, hr, hi⟩, rfl⟩

/-- The entry of `p` rises to what the event says of `p`. -/
theorem rumored_step {e : Event} (h : Rumored p st) (he : IsGossip e) :
    Rumored p (st.step e) ∧ standing p (st.step e) = max (standing p st) (said p e).maximum := by
  have hg' := (peer_step h.good e).1
  cases e with
  | advance ms => exact ⟨⟨hg', h.known, h.remote⟩, (max_eq_left bot_le).symm⟩
  | applyRumor rumor reporter =>
    have hknown := (isUnknownPeer_applyRumor rumor reporter p).trans h.known
    by_cases hp : rumor.nodeId = p
    · subst hp
      obtain ⟨⟨latest, hget, hheard⟩, -⟩ := applyRumor_cases h.good h.known reporter
      obtain ⟨hremote, hmax⟩ := hheard.remote h he
      refine ⟨⟨hg', hknown, fun e' he' => ?_⟩, ?_⟩
      · rw [step, hget] at he'
        cases he'
        exact hremote
      · rw [step, standing, hget, said, if_pos rfl, List.maximum_singleton]
        exact hmax
    · have hsame : (st.applyRumor rumor reporter).entries.get p = st.entries.get p := by
        cases hk : st.isUnknownPeer rumor.nodeId with
        | true => rw [applyRumor_of_unknown hk]
        | false => exact (applyRumor_cases h.good hk reporter).2 p (Ne.symm hp)
      refine ⟨⟨hg', hknown, fun e' he' => h.remote e' (hsame ▸ he')⟩, ?_⟩
      rw [step, standing, hsame, said, if_neg hp]
      exact (max_eq_left bot_le).symm
  | noteKnownPeers nodeIds => exact he.elim
  | markAlive nodeId detail => exact he.elim
  | markSuspect nodeId detail => exact he.elim
  | markDead nodeId detail => exact he.elim
  | dispose => exact he.elim
  | timerFires handle => exact he.elim

/-- A new store, with the known peers if they were noted. -/
def fresh (suspectTimeoutMs clock : ℕ) : Option (List JsString) → ClusterPeerHealthStore
  | none => create suspectTimeoutMs clock
  | some nodeIds => (create suspectTimeoutMs clock).noteKnownPeers nodeIds

theorem rumored_fresh {suspectTimeoutMs clock : ℕ} {known : Option (List JsString)}
    (hk : (fresh suspectTimeoutMs clock known).isUnknownPeer p = false) :
    Rumored p (fresh suspectTimeoutMs clock known) := by
  cases known with
  | none => exact ⟨good_create _ _, hk, fun e he => by cases he⟩
  | some nodeIds =>
    exact ⟨(peer_step (good_create _ _) (.noteKnownPeers nodeIds)).1, hk, fun e he => by cases he⟩

/-- **Of the rumors about a known peer the greatest prevails**, whatever their order and however
often they come. -/
theorem gossip_maximum {suspectTimeoutMs clock : ℕ} {known : Option (List JsString)}
    (hk : (fresh suspectTimeoutMs clock known).isUnknownPeer p = false) {es : List Event}
    (hes : ∀ e ∈ es, IsGossip e) (hp : es.flatMap (said p) ≠ []) :
    ∃ e, (Machine.run step (fresh suspectTimeoutMs clock known) es).entries.get p = some e ∧
      (∃ rumor reporter, .applyRumor rumor reporter ∈ es ∧ rumor.nodeId = p ∧
        rumor.incarnation = e.incarnation ∧ rumor.status.toStatus = e.status) ∧
      ∀ rumor reporter, .applyRumor rumor reporter ∈ es → rumor.nodeId = p →
        place rumor.incarnation rumor.status.toStatus ≤ place e.incarnation e.status := by
  have h0 := rumored_fresh hk
  have hbot : standing p (fresh suspectTimeoutMs clock known) = ⊥ := by
    cases known <;> rfl
  obtain ⟨hend, hrun⟩ := Machine.run_maximum h0 (fun s e => @rumored_step s p e) es hes
  rw [hbot, max_eq_right bot_le] at hrun
  cases hget : (Machine.run step (fresh suspectTimeoutMs clock known) es).entries.get p with
  | none =>
    rw [standing, hget] at hrun
    exact absurd (List.maximum_eq_bot.1 hrun.symm) hp
  | some e =>
    rw [standing, hget] at hrun
    obtain ⟨hmem, hmax⟩ := List.maximum_eq_coe_iff.1 hrun.symm
    refine ⟨e, rfl, ?_, fun rumor reporter hr hrp => ?_⟩
    · obtain ⟨r, hr, hsaid⟩ := List.mem_flatMap.1 hmem
      obtain ⟨rumor, reporter, rfl, hrp, hplace⟩ := mem_said_iff.1 hsaid
      exact ⟨rumor, reporter, hr, hrp, place_inj (hes _ hr) (hend.remote e hget).2.2 hplace⟩
    · exact hmax _ (List.mem_flatMap.2 ⟨_, hr, mem_said_iff.2 ⟨rumor, reporter, rfl, hrp, rfl⟩⟩)

/-- The suspect rumor prevails over the alive one, which comes before it and after it. -/
theorem gossip_maximum_rumors :
    ∃ e, (Machine.run step (fresh 50 0 (some [js "b"]))
      [aliveRumor, suspectRumor, aliveRumor]).entries.get (js "b") = some e ∧
        place (.ofNat 1) .suspect ≤ place e.incarnation e.status := by
  have hone : JsNumber.ofNat 1 ≠ .nan := by
    obtain ⟨hq, h⟩ := JsNumber.ofNat_eq (n := 1) (by norm_num)
    rw [h]
    simp
  have hes : ∀ e ∈ [aliveRumor, suspectRumor, aliveRumor], IsGossip e := by
    intro e he
    fin_cases he <;> exact hone
  obtain ⟨e, hget, -, hmax⟩ := @gossip_maximum (js "b") 50 0 (some [js "b"])
    (by decide) _ hes (by simp [said, aliveRumor])
  exact ⟨e, hget, hmax _ _ (List.mem_cons_of_mem _ List.mem_cons_self) rfl⟩

end ClusterPeerHealthStore

end Hardess
