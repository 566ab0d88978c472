import Hardess.Workers.StagedWorkers

/-!
# Generation isolation

The artifacts of all generations of a manifest id share a directory, and the loader rereads an
entry whenever its modification time has changed. So a request runs what the latest staging has
left at the entry: the code of the active generation as long as no staging touches the entry of a
worker that is staged (`FileOp.Keeps`), and no call publishes a configuration and then rejects.

* `Sound` is the invariant: the files hold the codes that were staged, the stagings under way
  leave them there, and the loads that began in this generation read nothing else;
* `isolated_of_keeps` is the run lemma; in `rejectedRun` a staging that fails has overwritten the
  entry of the active worker.
-/

namespace Hardess

open Posix (Path)

theorem Generation.mem_codesAt {active : Generation} {entry : Path} {code : Option Content} :
    code ∈ active.codesAt entry ↔ ∃ w ∈ active.workers, w.entry = entry ∧ w.code = code := by
  simp [codesAt, and_assoc]

theorem Generation.codesAt_ne_nil {active : Generation} {w : StagedWorker}
    (hw : w ∈ active.workers) : active.codesAt w.entry ≠ [] :=
  List.ne_nil_of_mem (mem_codesAt.2 ⟨w, hw, rfl, rfl⟩)

theorem Generation.due_of_none {active : Generation} {pathname : JsString}
    (h : workerEntry pathname active.pipelines = none) : active.due pathname = [none] := by
  simp [due, h]

theorem Generation.due_of_some {active : Generation} {pathname : JsString} {entry : Path}
    (h : workerEntry pathname active.pipelines = some entry) :
    active.due pathname = active.codesAt entry := by
  simp [due, h]

theorem get_invalidateWorkers {entries : List Path} {cache : JsMap Path CachedWorker} {entry : Path}
    (h : entry ∈ entries ∨ cache.get entry = none) :
    (invalidateWorkers entries cache).get entry = none := by
  induction entries generalizing cache with
  | nil => simpa [invalidateWorkers] using h
  | cons e entries ih =>
    refine ih ?_
    rw [JsMap.get_delete]
    obtain h | h := h
    · obtain rfl | h := List.mem_cons.1 h
      · exact .inr (if_pos rfl)
      · exact .inl h
    · exact .inr (by simp [h])

theorem StagingInProgress.of_next {staging staging' : StagingInProgress} {op : FileOp}
    (h : staging.next = some (op, staging')) : staging.ops = op :: staging'.ops := by
  unfold StagingInProgress.next at h
  cases hops : staging.ops with
  | nil => simp [hops] at h
  | cons first ops =>
    simp only [hops] at h
    cases h
    rfl

namespace WorkerRuntime

variable {η : Type} (wp : WorkerPlatform) (s : WorkerRuntime η)

/-- The workers whose code has to stay: those of the active generation, and those that the call
under way has staged. -/
def guarded : List StagedWorker :=
  s.active.workers ++ (s.applying.map (·.workers)).getD []

/-- The condition on a step. A staging keeps the guarded workers; a call that rejects has not
published another configuration. -/
def KeepsWorkers : WorkerEvent η → Prop
  | .stage position host cut =>
    ∀ call ∈ s.stagingCall wp position host cut, ∀ op ∈ call.performed wp.store s.files,
      ∀ w ∈ s.guarded, op.Keeps w
  | .finish outcome =>
    ∀ applying ∈ s.applying, ∀ failed ∈
        s.adapter.failsAt wp.adapter wp.options (applyCall applying outcome),
      publishes (some failed) →
        s.adapter.Rewrites wp.adapter wp.options (applyCall applying outcome) .config
  | _ => True

/-! ### The invariant -/

/-- A promise is a load of an entry that began in this generation. -/
def IsLoad (entry : Path) (promise : ℕ) : Prop :=
  ∃ load, s.loads[promise]? = some load ∧ load.entry = entry ∧ load.generation = s.generation

/-- A load that began in this generation reads what was staged. -/
structure LoadSound (load : WorkerLoad) : Prop where
  generation_le : load.generation ≤ s.generation
  source : load.generation = s.generation →
    ∀ source ∈ load.source, ∀ code ∈ s.active.codesAt load.entry, code = source
  previous : load.generation = s.generation → load.entry ∈ workerEntries s.active.pipelines →
    ∀ cached ∈ load.previous, s.IsLoad load.entry cached.promise

/-- A request that arrived in this generation waits for such a load. -/
structure RequestSound (r : WorkerRequest) : Prop where
  generation_le : r.generation ≤ s.generation
  due : r.generation = s.generation → ∀ entry ∈ r.entry,
    entry ∈ workerEntries s.active.pipelines ∧ r.due = s.active.codesAt entry
  awaits : r.generation = s.generation → ∀ promise, r.progress = .awaiting promise →
    ∃ entry ∈ r.entry, s.IsLoad entry promise
  isolated : r.Isolated

/-- The invariant. -/
structure Sound : Prop where
  live : s.active.pipelines = s.adapter.config.pipelines
  staged : ∀ entry ∈ workerEntries s.active.pipelines, s.active.codesAt entry ≠ []
  guarded : ∀ w ∈ s.guarded, s.files.content w.entry = w.code
  queued : ∀ staging ∈ s.staging, ∀ op ∈ staging.ops, ∀ w ∈ s.guarded, op.Keeps w
  loads : ∀ load ∈ s.loads, s.LoadSound load
  cache : ∀ entry ∈ workerEntries s.active.pipelines, ∀ cached ∈ s.cache.get entry,
    s.IsLoad entry cached.promise
  requests : ∀ r ∈ s.requests, s.RequestSound r

variable {wp s}

/-- The code at an entry is what was staged there. -/
theorem Sound.content_eq (h : s.Sound) {entry : Path} {code : Option Content}
    (hcode : code ∈ s.active.codesAt entry) : s.files.content entry = code := by
  obtain ⟨w, hw, rfl, rfl⟩ := Generation.mem_codesAt.1 hcode
  exact h.guarded w (List.mem_append_left _ hw)

theorem sound_start (adapter : RuntimeHostAdapter η) (files : Files) :
    (start adapter files).Sound where
  live := rfl
  staged := by
    intro entry he
    have hw : ⟨0, entry, files.content entry⟩ ∈ (start adapter files).active.workers :=
      List.mem_map.2 ⟨entry, he, rfl⟩
    exact Generation.codesAt_ne_nil hw
  guarded := by
    intro w hw
    obtain hw | hw := List.mem_append.1 hw
    · obtain ⟨entry, -, rfl⟩ := List.mem_map.1 hw
      rfl
    · cases hw
  queued := by
    intro staging hstaging
    cases hstaging
  loads := by
    intro load hload
    cases hload
  cache := by
    intro entry _ cached hcached
    cases hcached
  requests := by
    intro r hr
    cases hr

theorem LoadSound.of_eq {s' : WorkerRuntime η} {load : WorkerLoad} (h : s.LoadSound load)
    (hactive : s'.active = s.active) (hgeneration : s'.generation = s.generation)
    (hload : ∀ entry promise, s.IsLoad entry promise → s'.IsLoad entry promise) :
    s'.LoadSound load where
  generation_le := hgeneration ▸ h.generation_le
  source := by
    rw [hactive, hgeneration]
    exact h.source
  previous := by
    rw [hactive, hgeneration]
    exact fun heq he cached hcached => hload _ _ (h.previous heq he cached hcached)

theorem RequestSound.of_eq {s' : WorkerRuntime η} {r : WorkerRequest} (h : s.RequestSound r)
    (hactive : s'.active = s.active) (hgeneration : s'.generation = s.generation)
    (hload : ∀ entry promise, s.IsLoad entry promise → s'.IsLoad entry promise) :
    s'.RequestSound r where
  generation_le := hgeneration ▸ h.generation_le
  due := by
    rw [hactive, hgeneration]
    exact h.due
  awaits := by
    rw [hgeneration]
    intro heq promise hp
    obtain ⟨entry, he, hisLoad⟩ := h.awaits heq promise hp
    exact ⟨entry, he, hload _ _ hisLoad⟩
  isolated := h.isolated

/-! ### Stagings -/

/-- Two hosts whose files and stagings may differ. -/
structure SameLoader (s s' : WorkerRuntime η) : Prop where
  adapter : s'.adapter = s.adapter
  active : s'.active = s.active
  generation : s'.generation = s.generation
  cache : s'.cache = s.cache
  loads : s'.loads = s.loads
  requests : s'.requests = s.requests

theorem SameLoader.isLoad {s' : WorkerRuntime η} (hs : SameLoader s s') {entry : Path}
    {promise : ℕ} (h : s.IsLoad entry promise) : s'.IsLoad entry promise := by
  unfold IsLoad at h ⊢
  rw [hs.loads, hs.generation]
  exact h

/-- What the loader relies on is that the guarded workers are kept. -/
theorem Sound.of_sameLoader (h : s.Sound) {s' : WorkerRuntime η} (hs : SameLoader s s')
    (hguarded : ∀ w ∈ s'.guarded, s'.files.content w.entry = w.code)
    (hqueued : ∀ staging ∈ s'.staging, ∀ op ∈ staging.ops, ∀ w ∈ s'.guarded, op.Keeps w) :
    s'.Sound where
  live := by
    rw [hs.active, hs.adapter]
    exact h.live
  staged := by
    rw [hs.active]
    exact h.staged
  guarded := hguarded
  queued := hqueued
  loads := by
    rw [hs.loads]
    exact fun load hl => (h.loads load hl).of_eq hs.active hs.generation fun _ _ => hs.isLoad
  cache := by
    rw [hs.active, hs.cache]
    exact fun entry he cached hcached => hs.isLoad (h.cache entry he cached hcached)
  requests := by
    rw [hs.requests]
    exact fun r hr => (h.requests r hr).of_eq hs.active hs.generation fun _ _ => hs.isLoad

theorem Sound.apply (h : s.Sound) (desired : DesiredHostState)
    (artifacts : JsMap JsString ArtifactManifest) : (s.apply desired artifacts).Sound := by
  unfold WorkerRuntime.apply
  cases ha : s.applying with
  | some applying => exact h
  | none =>
    -- the call has staged nothing yet
    have hguarded : ({ s with applying := some { desired, artifacts } } : WorkerRuntime η).guarded =
        s.guarded := by
      simp [WorkerRuntime.guarded, ha, Applying.workers]
    refine h.of_sameLoader ⟨rfl, rfl, rfl, rfl, rfl, rfl⟩ ?_ ?_
    · rw [hguarded]
      exact h.guarded
    · rw [hguarded]
      exact h.queued

theorem Sound.stage (h : s.Sound) {position : ℕ} {host : Host} {cut : Option ℕ}
    (hkeeps : s.KeepsWorkers wp (.stage position host cut)) :
    (s.stage wp position host cut).Sound := by
  unfold WorkerRuntime.stage
  cases hcall : s.stagingCall wp position host cut with
  | none => exact h
  | some call =>
    refine h.of_sameLoader ⟨rfl, rfl, rfl, rfl, rfl, rfl⟩ h.guarded ?_
    intro staging hstaging op hop w hw
    obtain rfl := Option.some.inj hstaging
    exact hkeeps call hcall op hop w hw

theorem Sound.perform (h : s.Sound) (mtimeMs : ℕ) : (s.perform mtimeMs).Sound := by
  unfold WorkerRuntime.perform
  cases hnext : s.staging.bind StagingInProgress.next with
  | none => exact h
  | some next =>
    obtain ⟨op, staging⟩ := next
    obtain ⟨before, hbefore, hstep⟩ := Option.bind_eq_some_iff.1 hnext
    have hops : before.ops = op :: staging.ops := StagingInProgress.of_next hstep
    refine h.of_sameLoader ⟨rfl, rfl, rfl, rfl, rfl, rfl⟩ ?_ ?_
    · intro w hw
      have hkeeps : op.Keeps w := h.queued before hbefore op (hops ▸ List.mem_cons_self) w hw
      exact hkeeps.content _ (h.guarded w hw)
    · intro staging' hstaging op' hop w hw
      obtain rfl := Option.some.inj hstaging
      exact h.queued before hbefore op' (hops ▸ List.mem_cons_of_mem _ hop) w hw

/-- A staging that ends adds a worker with the code that is there. -/
theorem content_of_mem_recordStaging {files : Files} {staging : StagingInProgress} {applying : Applying}
    {w : StagedWorker} (hw : w ∈ (recordStaging files staging applying).workers) :
    w ∈ applying.workers ∨ files.content w.entry = w.code := by
  unfold recordStaging at hw
  split at hw
  · unfold Applying.workers at hw ⊢
    rw [List.filter_append] at hw
    obtain hw | hw := List.mem_append.1 hw
    · exact .inl hw
    · obtain rfl := List.mem_singleton.1 (List.mem_of_mem_filter hw)
      exact .inr rfl
  · exact .inl hw

theorem Sound.ended (h : s.Sound) : s.staged.Sound := by
  unfold WorkerRuntime.staged
  cases hs : s.staging with
  | none => exact h
  | some staging =>
    dsimp only
    split_ifs with hops
    · refine h.of_sameLoader ⟨rfl, rfl, rfl, rfl, rfl, rfl⟩ ?_ ?_
      · intro w hw
        obtain hw | hw := List.mem_append.1 hw
        · exact h.guarded w (List.mem_append_left _ hw)
        · cases ha : s.applying with
          | none => simp [ha] at hw
          | some applying =>
            simp only [ha, Option.map_some, Option.getD_some] at hw
            obtain hw | hw := content_of_mem_recordStaging hw
            · exact h.guarded w (List.mem_append_right _ (by simpa [ha] using hw))
            · exact hw
      · intro staging' hstaging
        cases hstaging
    · exact h

/-! ### Loads -/

theorem mem_modify {α : Type*} {f : α → α} {id : ℕ} {xs : List α} {x : α}
    (h : x ∈ xs.modify id f) : x ∈ xs ∨ ∃ y, xs[id]? = some y ∧ x = f y := by
  obtain ⟨i, hi⟩ := List.mem_iff_getElem?.1 h
  rw [List.getElem?_modify] at hi
  split_ifs at hi with hid
  · obtain ⟨y, hy, rfl⟩ := Option.map_eq_some_iff.1 hi
    exact .inr ⟨y, hid ▸ hy, rfl⟩
  · exact .inl (List.mem_of_getElem? (by simpa using hi))

/-- Loads that are changed stay where they are. -/
theorem isLoad_modify {f : WorkerLoad → WorkerLoad} {id : ℕ}
    (hf : ∀ load, (f load).entry = load.entry ∧ (f load).generation = load.generation)
    {s' : WorkerRuntime η} (hloads : s'.loads = s.loads.modify id f)
    (hgeneration : s'.generation = s.generation) {entry : Path} {promise : ℕ}
    (h : s.IsLoad entry promise) : s'.IsLoad entry promise := by
  obtain ⟨load, hload, rfl, hgen⟩ := h
  unfold IsLoad
  rw [hloads, hgeneration, List.getElem?_modify, hload]
  by_cases hid : id = promise
  · exact ⟨f load, by simp [hid], (hf load).1, (hf load).2.trans hgen⟩
  · exact ⟨load, by simp [hid], rfl, hgen⟩

/-- What a load does when its file has been read. -/
def fill (s : WorkerRuntime η) (load : WorkerLoad) : WorkerLoad :=
  if load.source.isSome then load else { load with source := some (s.files.content load.entry) }

theorem read_isLoad (promise : ℕ) {entry : Path} {p : ℕ} (h : s.IsLoad entry p) :
    (s.read promise).IsLoad entry p := by
  have hloads : (s.read promise).loads = s.loads.modify promise s.fill := rfl
  refine isLoad_modify (fun load => ?_) hloads rfl h
  unfold fill
  split_ifs <;> exact ⟨rfl, rfl⟩

theorem Sound.read (h : s.Sound) (promise : ℕ) : (s.read promise).Sound where
  live := h.live
  staged := h.staged
  guarded := h.guarded
  queued := h.queued
  loads := by
    intro load hload
    obtain hload | ⟨before, hbefore, rfl⟩ := mem_modify hload
    · exact (h.loads load hload).of_eq rfl rfl fun _ _ => read_isLoad promise
    · have hsound : (s.read promise).LoadSound before :=
        (h.loads before (List.mem_of_getElem? hbefore)).of_eq rfl rfl fun _ _ => read_isLoad promise
      split_ifs with hsource
      · exact hsound
      · refine ⟨hsound.generation_le, ?_, hsound.previous⟩
        intro _ source hs code hcode
        cases hs
        exact (h.content_eq hcode).symm
  cache := fun entry he cached hcached => read_isLoad promise (h.cache entry he cached hcached)
  requests := fun r hr => (h.requests r hr).of_eq rfl rfl fun _ _ => read_isLoad promise

/-- A load that fails puts back a load of its generation, if it is still in the cache. -/
theorem Sound.isLoad_restore (h : s.Sound) {promise : ℕ} {load : WorkerLoad}
    (hload : s.loads[promise]? = some load) {entry : Path}
    (he : entry ∈ workerEntries s.active.pipelines) {cached : CachedWorker}
    (hcached : (s.restore promise load).get entry = some cached) :
    s.IsLoad entry cached.promise := by
  unfold restore at hcached
  split_ifs at hcached with hheld
  · by_cases heq : entry = load.entry
    · subst heq
      -- the load is in the cache, so it began in this generation
      obtain ⟨held, hget, hpromise⟩ := (Option.any_eq_true ..).1 hheld
      obtain ⟨load', hload', -, hgen⟩ := h.cache _ he held hget
      rw [of_decide_eq_true hpromise, hload] at hload'
      obtain rfl := Option.some.inj hload'
      cases hprevious : load.previous with
      | none => simp [hprevious] at hcached
      | some previous =>
        simp only [hprevious, JsMap.get_set_self] at hcached
        obtain rfl := Option.some.inj hcached
        exact (h.loads load (List.mem_of_getElem? hload)).previous hgen he previous hprevious
    · cases hprevious : load.previous with
      | none =>
        simp only [hprevious, JsMap.get_delete_of_ne _ heq] at hcached
        exact h.cache entry he cached hcached
      | some previous =>
        simp only [hprevious, JsMap.get_set_of_ne _ heq] at hcached
        exact h.cache entry he cached hcached
  · exact h.cache entry he cached hcached

/-- The host when a load has settled, with a cache. -/
def settled (s : WorkerRuntime η) (promise : ℕ) (cache : JsMap Path CachedWorker) :
    WorkerRuntime η :=
  { s with
    loads := s.loads.modify promise fun load => { load with settled := true }
    cache }

theorem settled_isLoad {promise : ℕ} {cache : JsMap Path CachedWorker} {entry : Path} {p : ℕ}
    (h : s.IsLoad entry p) : (s.settled promise cache).IsLoad entry p := by
  have hloads : (s.settled promise cache).loads =
      s.loads.modify promise fun load => { load with settled := true } := rfl
  refine isLoad_modify ?_ hloads rfl h
  exact fun _ => ⟨rfl, rfl⟩

theorem Sound.settled (h : s.Sound) {promise : ℕ} {cache : JsMap Path CachedWorker}
    (hcache : ∀ entry ∈ workerEntries s.active.pipelines, ∀ cached ∈ cache.get entry,
      s.IsLoad entry cached.promise) : (s.settled promise cache).Sound where
  live := h.live
  staged := h.staged
  guarded := h.guarded
  queued := h.queued
  loads := by
    intro l hl
    obtain hl | ⟨before, hbefore, rfl⟩ := mem_modify hl
    · exact (h.loads l hl).of_eq rfl rfl fun _ _ => settled_isLoad
    · have hsound := h.loads before (List.mem_of_getElem? hbefore)
      exact ⟨hsound.generation_le, hsound.source, fun hgen he cached hcached =>
        settled_isLoad (hsound.previous hgen he cached hcached)⟩
  cache := fun entry he cached hcached => settled_isLoad (hcache entry he cached hcached)
  requests := fun r hr => (h.requests r hr).of_eq rfl rfl fun _ _ => settled_isLoad

theorem Sound.settle (h : s.Sound) (promise : ℕ) : (s.settle wp promise).Sound := by
  unfold WorkerRuntime.settle
  cases hload : s.loads[promise]? with
  | none => exact h
  | some load =>
    dsimp only
    cases hsource : load.source with
    | none => exact h
    | some source =>
      dsimp only
      by_cases hsettled : load.settled
      · rw [if_pos hsettled]
        exact h
      · rw [if_neg hsettled]
        refine h.settled fun entry he cached hcached => ?_
        split_ifs at hcached
        · exact h.cache entry he cached hcached
        · exact h.isLoad_restore hload he hcached

/-! ### Requests -/

theorem Sound.request (h : s.Sound) (pathname : JsString) : (s.request pathname).Sound where
  live := h.live
  staged := h.staged
  guarded := h.guarded
  queued := h.queued
  loads := fun load hl => (h.loads load hl).of_eq rfl rfl fun _ _ => id
  cache := h.cache
  requests := by
    intro r hr
    obtain hr | hr := List.mem_append.1 hr
    · exact (h.requests r hr).of_eq rfl rfl fun _ _ => id
    · obtain rfl := List.mem_singleton.1 hr
      cases he : workerEntry pathname s.active.pipelines with
      | none =>
        have hdue := Generation.due_of_none he
        rw [h.live] at he
        refine ⟨le_rfl, ?_, ?_, ?_⟩
        · intro _ entry hentry
          simp [he] at hentry
        · intro _ promise hp
          simp [he] at hp
        · simp [WorkerRequest.Isolated, he, hdue]
      | some entry =>
        have hmem := mem_workerEntries_of_workerEntry he
        have hdue := Generation.due_of_some he
        rw [h.live] at he
        refine ⟨le_rfl, ?_, ?_, ?_⟩
        · intro _ entry' hentry
          obtain rfl : entry = entry' := by simpa [he] using hentry
          exact ⟨hmem, hdue⟩
        · intro _ promise hp
          simp [he] at hp
        · simp [WorkerRequest.Isolated, he]

/-- A request that goes on. -/
theorem Sound.advance (h : s.Sound) {id : ℕ} {progress : Progress}
    (hprogress : ∀ r ∈ s.requests[id]?, s.RequestSound { r with progress }) :
    (s.advance id progress).Sound where
  live := h.live
  staged := h.staged
  guarded := h.guarded
  queued := h.queued
  loads := fun load hl => (h.loads load hl).of_eq rfl rfl fun _ _ hl => hl
  cache := h.cache
  requests := by
    intro r hr
    obtain hr | ⟨before, hbefore, rfl⟩ := mem_modify hr
    · exact (h.requests r hr).of_eq rfl rfl fun _ _ hl => hl
    · exact (hprogress before hbefore).of_eq rfl rfl fun _ _ hl => hl

/-- A request that arrived in this generation runs what was staged at its entry. -/
theorem Sound.handle (h : s.Sound) {id : ℕ} {r : WorkerRequest} (hr : s.requests[id]? = some r)
    {ran : Option Content} (hran : r.generation = s.generation →
      ∃ entry ∈ r.entry, ∀ code ∈ s.active.codesAt entry, code = ran) :
    (s.handle id r ran).Sound := by
  refine h.advance fun r' hr' => ?_
  obtain rfl : r = r' := Option.some.inj (hr.symm.trans hr')
  have hsound := h.requests r (List.mem_of_getElem? hr)
  refine ⟨hsound.generation_le, hsound.due, ?_, ?_⟩
  · intro _ promise hp
    cases hp
  · by_cases hgen : r.generation = s.generation
    · obtain ⟨entry, he, hcodes⟩ := hran hgen
      obtain ⟨hmem, hdue⟩ := hsound.due hgen entry he
      simp only [WorkerRequest.Isolated, hgen, decide_true, hdue]
      exact ⟨h.staged entry hmem, hcodes⟩
    · simp [WorkerRequest.Isolated, hgen]

theorem content_eq_none {files : Files} {p : Path} (h : files.pathExists p = false) :
    files.content p = none := by
  have hkey : p ∉ files.keys := by
    intro hp
    have hnot := List.any_eq_false.1 h p hp
    simp at hnot
  simp [Files.content, JsMap.get_eq_none_iff.2 hkey]

theorem Sound.stat (h : s.Sound) (id : ℕ) : (s.stat id).Sound := by
  unfold WorkerRuntime.stat
  cases hr : s.requests[id]? with
  | none => exact h
  | some r =>
    dsimp only
    split
    · rename_i entry he hprogress
      have hsound := h.requests r (List.mem_of_getElem? hr)
      unfold statFile
      by_cases hexists : s.files.pathExists entry
      · rw [if_pos hexists]
        refine h.advance fun r' hr' => ?_
        obtain rfl : r = r' := Option.some.inj (hr.symm.trans hr')
        refine ⟨hsound.generation_le, hsound.due, ?_, by simp [WorkerRequest.Isolated]⟩
        intro _ promise hp
        cases hp
      · rw [if_neg hexists]
        refine h.handle hr fun _ => ⟨entry, he, fun code hcode => ?_⟩
        rw [← h.content_eq hcode, content_eq_none (by simpa using hexists)]
    · exact h

theorem startLoad_isLoad {id : ℕ} {entry : Path} {mtimeMs : ℕ} {e : Path} {p : ℕ}
    (h : s.IsLoad e p) : (s.startLoad id entry mtimeMs).IsLoad e p := by
  obtain ⟨load, hload, hentry, hgen⟩ := h
  refine ⟨load, ?_, hentry, hgen⟩
  change (s.loads ++ _)[p]? = some load
  rw [List.getElem?_append_left (List.getElem?_eq_some_iff.1 hload).1, hload]

/-- The load that is started is one of this generation. -/
theorem startLoad_isLoad_length (id : ℕ) (entry : Path) (mtimeMs : ℕ) :
    (s.startLoad id entry mtimeMs).IsLoad entry s.loads.length := by
  let load : WorkerLoad :=
    { entry, generation := s.generation, previous := s.cache.get entry }
  have hload : (s.loads ++ [load])[s.loads.length]? = some load := List.getElem?_concat_length ..
  exact ⟨load, hload, rfl, rfl⟩

theorem Sound.startLoad (h : s.Sound) {id : ℕ} {r : WorkerRequest}
    (hr : s.requests[id]? = some r) {entry : Path} (he : r.entry = some entry) (mtimeMs : ℕ) :
    (s.startLoad id entry mtimeMs).Sound where
  live := h.live
  staged := h.staged
  guarded := h.guarded
  queued := h.queued
  loads := by
    intro load hload
    obtain hload | hload := List.mem_append.1 hload
    · exact (h.loads load hload).of_eq rfl rfl fun _ _ => startLoad_isLoad
    · obtain rfl := List.mem_singleton.1 hload
      refine ⟨le_rfl, ?_, ?_⟩
      · intro _ source hs
        cases hs
      · intro _ hmem cached hcached
        exact startLoad_isLoad (h.cache entry hmem cached hcached)
  cache := by
    intro entry' hmem cached hcached
    change (s.cache.set entry ⟨mtimeMs, s.loads.length⟩).get entry' = some cached at hcached
    rw [JsMap.get_set] at hcached
    split_ifs at hcached with heq
    · obtain rfl := Option.some.inj hcached
      rw [heq]
      exact startLoad_isLoad_length id entry mtimeMs
    · exact startLoad_isLoad (h.cache entry' hmem cached hcached)
  requests := by
    intro r' hr'
    obtain hr' | ⟨before, hbefore, rfl⟩ := mem_modify hr'
    · exact (h.requests r' hr').of_eq rfl rfl fun _ _ => startLoad_isLoad
    · -- the request now waits for the load that it has started
      obtain rfl : r = before := Option.some.inj (hr.symm.trans hbefore)
      have hsound := h.requests r (List.mem_of_getElem? hr)
      refine ⟨hsound.generation_le, hsound.due, ?_, by simp [WorkerRequest.Isolated]⟩
      intro _ promise hp
      cases hp
      exact ⟨entry, he, startLoad_isLoad_length id entry mtimeMs⟩

theorem Sound.lookup (h : s.Sound) (id : ℕ) : (s.lookup id).Sound := by
  unfold WorkerRuntime.lookup
  cases hr : s.requests[id]? with
  | none => exact h
  | some r =>
    dsimp only
    split
    · rename_i entry mtimeMs he hprogress
      cases hcached : s.cache.get entry with
      | none => exact h.startLoad hr he mtimeMs
      | some cached =>
        dsimp only
        split_ifs
        · refine h.advance fun r' hr' => ?_
          obtain rfl : r = r' := Option.some.inj (hr.symm.trans hr')
          have hsound := h.requests r (List.mem_of_getElem? hr)
          refine ⟨hsound.generation_le, hsound.due, ?_, by simp [WorkerRequest.Isolated]⟩
          intro hgen promise hp
          cases hp
          exact ⟨entry, he, h.cache entry (hsound.due hgen entry he).1 cached hcached⟩
        · exact h.startLoad hr he mtimeMs
    · exact h

theorem Sound.run (h : s.Sound) (id : ℕ) : (s.run id).Sound := by
  unfold WorkerRuntime.run
  cases hr : s.requests[id]? with
  | none => exact h
  | some r =>
    dsimp only
    split
    · rename_i promise hprogress
      cases hload : s.loads[promise]? with
      | none => exact h
      | some load =>
        dsimp only
        cases hsource : load.source with
        | none => exact h
        | some source =>
          dsimp only
          split_ifs
          · refine h.handle hr fun hgen => ?_
            obtain ⟨entry, he, load', hload', rfl, hgen'⟩ :=
              (h.requests r (List.mem_of_getElem? hr)).awaits hgen promise hprogress
            obtain rfl : load = load' := Option.some.inj (hload.symm.trans hload')
            exact ⟨load.entry, he,
              (h.loads load (List.mem_of_getElem? hload)).source hgen' source hsource⟩
          · exact h
    · exact h

/-! ### Publishing -/

/-- What began before a publication is past. -/
theorem LoadSound.of_lt {s' : WorkerRuntime η} {load : WorkerLoad} (h : s.LoadSound load)
    (hlt : s.generation < s'.generation) : s'.LoadSound load := by
  have hne : load.generation ≠ s'.generation := (h.generation_le.trans_lt hlt).ne
  exact ⟨h.generation_le.trans hlt.le, fun heq => absurd heq hne, fun heq => absurd heq hne⟩

theorem RequestSound.of_lt {s' : WorkerRuntime η} {r : WorkerRequest} (h : s.RequestSound r)
    (hlt : s.generation < s'.generation) : s'.RequestSound r := by
  have hne : r.generation ≠ s'.generation := (h.generation_le.trans_lt hlt).ne
  exact ⟨h.generation_le.trans hlt.le, fun heq => absurd heq hne, fun heq => absurd heq hne,
    h.isolated⟩

/-- The workers of the pipelines that a call builds have been staged by it. -/
theorem exists_worker_of_built {options : RuntimeHostAdapterOptions} {applying : Applying}
    {outcome : ApplyOutcome η} {entry : Path}
    (he : entry ∈ workerEntries
      (RuntimeHostAdapter.builtConfig options (applyCall applying outcome)).pipelines) :
    ∃ w ∈ applying.workers, w.entry = entry := by
  unfold RuntimeHostAdapter.builtConfig at he
  cases hbuilt : (RuntimeHostAdapter.buildConfig options (applyCall applying outcome)).2 with
  | error message =>
    rw [hbuilt] at he
    cases he
  | ok pipelines =>
    rw [hbuilt] at he
    have he' : entry ∈ workerEntries pipelines := he
    obtain ⟨a, ha, hstaged, hroutes⟩ := staged_of_mem_built hbuilt he'
    obtain ⟨⟨assignment, position⟩, hzip, rfl⟩ := List.mem_map.1 ha
    have hposition : applying.desired.assignments[position]? = some assignment :=
      List.mem_zipIdx_iff_getElem?.1 hzip
    have hfound : (applyCall applying outcome).staged position = .ok entry := hstaged
    unfold applyCall at hfound
    dsimp only at hfound
    cases hfind : applying.staged.find? (·.position = position) with
    | none => simp [hfind] at hfound
    | some w =>
      simp only [hfind] at hfound
      have hw : w.position = position := by simpa using List.find?_some hfind
      refine ⟨w, List.mem_filter.2 ⟨List.mem_of_find?_eq_some hfind, ?_⟩, Except.ok.inj hfound⟩
      simpa [hw, hposition] using hroutes

/-- A call that ends without publishing leaves the loader alone. -/
theorem Sound.rejected (h : s.Sound) (hstaging : s.staging = none) {adapter : RuntimeHostAdapter η}
    (hconfig : adapter.config = s.adapter.config) :
    ({ s with adapter, applying := none } : WorkerRuntime η).Sound where
  live := by
    rw [hconfig]
    exact h.live
  staged := h.staged
  guarded := by
    intro w hw
    obtain hw | hw := List.mem_append.1 hw
    · exact h.guarded w (List.mem_append_left _ hw)
    · cases hw
  queued := by
    intro staging hs
    simp [hstaging] at hs
  loads := fun load hl => (h.loads load hl).of_eq rfl rfl fun _ _ hl => hl
  cache := h.cache
  requests := fun r hr => (h.requests r hr).of_eq rfl rfl fun _ _ hl => hl

/-- After a publication the loader starts anew for every entry of the old and the new pipelines. -/
theorem Sound.published (h : s.Sound) (hstaging : s.staging = none)
    {adapter : RuntimeHostAdapter η} {active : Generation}
    (hlive : active.pipelines = adapter.config.pipelines)
    (hstaged : ∀ entry ∈ workerEntries active.pipelines, active.codesAt entry ≠ [])
    (hguarded : ∀ w ∈ active.workers, s.files.content w.entry = w.code) :
    ({ s.publish adapter.config.pipelines with
        adapter, applying := none, active } : WorkerRuntime η).Sound where
  live := hlive
  staged := hstaged
  guarded := by
    intro w hw
    obtain hw | hw := List.mem_append.1 hw
    · exact hguarded w hw
    · cases hw
  queued := by
    intro staging hs
    change staging ∈ s.staging at hs
    simp [hstaging] at hs
  loads := fun load hl => (h.loads load hl).of_lt s.generation.lt_succ_self
  cache := by
    intro entry he cached hcached
    change (invalidateWorkers _ s.cache).get entry = some cached at hcached
    rw [hlive] at he
    rw [get_invalidateWorkers (.inl (List.mem_append_right _ he))] at hcached
    cases hcached
  requests := fun r hr => (h.requests r hr).of_lt s.generation.lt_succ_self

/-- The configuration of a call that has published it, although it rejects. -/
theorem config_stoppedAt {platform : AdapterPlatform} {options : RuntimeHostAdapterOptions}
    {adapter : RuntimeHostAdapter η} {call : ApplyCall η} {failed : ApplyStep}
    (h : publishes (some failed) → adapter.Rewrites platform options call .config) :
    (adapter.stoppedAt platform options call failed).config = adapter.config := by
  have hrewrites : adapter.Rewrites platform options call .config →
      RuntimeHostAdapter.builtConfig options call = adapter.config := by
    intro hbuilt
    change (RuntimeHostAdapter.buildConfig options call).2 = .ok adapter.config.pipelines at hbuilt
    rw [RuntimeHostAdapter.builtConfig, hbuilt]
    rfl
  cases failed with
  | configListeners => exact hrewrites (h rfl)
  | topologyListeners => exact hrewrites (h rfl)
  | _ => rfl

theorem Sound.finish (h : s.Sound) {outcome : ApplyOutcome η}
    (hkeeps : s.KeepsWorkers wp (.finish outcome)) : (s.finish wp outcome).Sound := by
  unfold WorkerRuntime.finish
  by_cases hs : s.staging.isSome
  · rw [if_pos hs]
    exact h
  rw [if_neg hs]
  have hstaging : s.staging = none := by simpa using hs
  cases ha : s.applying with
  | none => exact h
  | some applying =>
    dsimp only
    rw [RuntimeHostAdapter.applyDesiredHostState_eq]
    cases hfails : s.adapter.failsAt wp.adapter wp.options (applyCall applying outcome) with
    | none =>
      -- the call resolves
      refine h.published hstaging rfl ?_ ?_
      · intro entry he
        obtain ⟨w, hw, rfl⟩ := exists_worker_of_built he
        exact Generation.codesAt_ne_nil hw
      · intro w hw
        exact h.guarded w (List.mem_append_right _ (by simpa [ha] using hw))
    | some failed =>
      have hconfig := config_stoppedAt (hkeeps applying ha failed hfails)
      cases hp : publishes (some failed) with
      | false => exact h.rejected hstaging hconfig
      | true =>
        refine h.published hstaging ?_ h.staged ?_
        · exact h.live.trans (congrArg HardessConfig.pipelines hconfig.symm)
        · intro w hw
          exact h.guarded w (List.mem_append_left _ hw)

/-! ### Runs -/

/-- Every step that meets the condition keeps the invariant. -/
theorem sound_step (h : s.Sound) {e : WorkerEvent η} (hkeeps : s.KeepsWorkers wp e) :
    (s.step wp e).Sound := by
  cases e with
  | apply desired artifacts => exact h.apply desired artifacts
  | stage position host cut => exact h.stage hkeeps
  | perform mtimeMs => exact h.perform mtimeMs
  | staged => exact h.ended
  | finish outcome => exact h.finish hkeeps
  | request pathname => exact h.request pathname
  | stat id => exact h.stat id
  | lookup id => exact h.lookup id
  | read promise => exact h.read promise
  | settle promise => exact h.settle promise
  | run id => exact h.run id

/-- **Generations are isolated** in every run whose stagings keep the guarded workers and whose
calls do not publish and reject. -/
theorem isolated_of_keeps (wp : WorkerPlatform) (adapter : RuntimeHostAdapter η) (files : Files)
    (es : List (WorkerEvent η))
    (h : Machine.Along (step wp) (fun s e => s.KeepsWorkers wp e) (start adapter files) es) :
    (Machine.run (step wp) (start adapter files) es).Isolated := by
  have hsound := h.invariant (sound_start adapter files) fun _ _ hs he => sound_step hs he
  exact fun r hr => (hsound.requests r hr).isolated

/-! ### A staging that fails -/

/-- A host with the small platform. -/
def entryPlatform : WorkerPlatform where
  store := .simple
  adapter := ⟨fun _ _ _ _ => [], fun _ => true⟩
  options := { hostId := js "h1", managesServiceModules := false, drains := false }
  isWorkerModule := fun _ => true

/-- It has just started. -/
def entryStart : WorkerRuntime Unit := start ⟨.initial [], none, ⟨[]⟩, none, none, .empty⟩ .empty

/-- A desired state with the assignment of a staging call, for one route. -/
def entryState (call : StageCall) : DesiredHostState where
  hostId := js "h1"
  revision := js "r"
  assignments := [{ call.assignment with
    httpWorker := some { entry := js "index.ts", routeRefs := some [js "route"] } }]
  routes := some [{ routeId := js "route", pathPrefix := js "/", baseUrl := js "http://upstream" }]

/-- The manifest of a staging call. -/
def manifests (call : StageCall) : JsMap JsString ArtifactManifest :=
  call.manifest.toList.foldl (fun artifacts m => artifacts.set m.manifestId m) .empty

/-- A call of `applyDesiredHostState` that stages like `call`, with the times of its writes. -/
def applyEvents (call : StageCall) (mtimes : List ℕ) : List (WorkerEvent Unit) :=
  [.apply (entryState call) (manifests call), .stage 0 call.host call.cut] ++
    mtimes.map WorkerEvent.perform ++
    [.staged, .finish ⟨fun _ => [], fun _ => .error [], true, true, 0⟩]

/-- A request that loads the worker by itself. -/
def requestEvents (id : ℕ) : List (WorkerEvent Unit) :=
  [.request (js "/"), .stat id, .lookup id, .read id, .settle id, .run id]

/-- The first worker is published and requested; the staging of another one fails, after it has
written the entry, and the worker is requested again. -/
def rejectedRun : List (WorkerEvent Unit) :=
  applyEvents .emptyCall [1, 2] ++ requestEvents 0 ++ applyEvents .failingCall [3] ++
    requestEvents 1

/-- The second request runs the worker of the call that was rejected. -/
theorem not_isolated_rejectedRun :
    ¬(Machine.run (step entryPlatform) entryStart rejectedRun).Isolated := by
  unfold Isolated
  decide +kernel

/-- A condition that can be evaluated: a call that rejects has not published anything. -/
def KeepsOrStops (wp : WorkerPlatform) (s : WorkerRuntime η) : WorkerEvent η → Prop
  | .stage position host cut =>
    ∀ call ∈ s.stagingCall wp position host cut, ∀ op ∈ call.performed wp.store s.files,
      ∀ w ∈ s.guarded, op.Keeps w
  | .finish outcome =>
    ∀ applying ∈ s.applying, ∀ failed ∈
        s.adapter.failsAt wp.adapter wp.options (applyCall applying outcome),
      publishes (some failed) = false
  | _ => True

instance (s : WorkerRuntime η) (e : WorkerEvent η) : Decidable (KeepsOrStops wp s e) := by
  unfold KeepsOrStops
  cases e <;> infer_instance

theorem KeepsOrStops.keepsWorkers {e : WorkerEvent η} (h : KeepsOrStops wp s e) :
    s.KeepsWorkers wp e := by
  cases e with
  | stage position host cut => exact h
  | finish outcome =>
    intro applying ha failed hfails hp
    rw [h applying ha failed hfails] at hp
    cases hp
  | _ => trivial

/-- Another worker, with a manifest and a directory of its own. -/
def otherCall : StageCall :=
  let args := StageCall.entryArgs ArtifactStore.aHash none
  ⟨{ args with
      assignment := { args.assignment with
        artifact := { args.assignment.artifact with manifestId := js "m2" } }
      manifest := args.manifest.map fun m => { m with manifestId := js "m2" } },
    .serving (.data [97]), none⟩

/-- A worker is published and requested, and then another one, whose files are written elsewhere. -/
def replacedRun : List (WorkerEvent Unit) :=
  applyEvents .emptyCall [1, 2] ++ requestEvents 0 ++ applyEvents otherCall [3, 4] ++
    requestEvents 1

theorem isolated_of_keeps_replacedRun :
    (Machine.run (step entryPlatform) entryStart replacedRun).requests.map (·.progress) =
        [.handled (some (.data [])) true, .handled (some (.data [97])) true] ∧
      (Machine.run (step entryPlatform) entryStart replacedRun).Isolated := by
  have hkeeps : Machine.Along (step entryPlatform) (KeepsOrStops entryPlatform) entryStart
      replacedRun := by
    decide +kernel
  exact ⟨by decide +kernel,
    isolated_of_keeps entryPlatform _ _ replacedRun (hkeeps.mono fun _ _ h => h.keepsWorkers)⟩

end WorkerRuntime

end Hardess
