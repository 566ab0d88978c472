import Hardess.Control.Stagings

/-!
# Staged files and their digest

A staging verifies the file it is about to write as the worker (`verified_run`), but
overwrites the old one before the new metadata is there, and a later call trusts the
metadata alone. So the entry matches the declared digest at every return as long as a
call that reuses finds an entry that was written for this digest, and no call overwrites
its own entry (`KeepsEntry`).
-/

namespace Hardess

open Posix (Path)

/-! ### Operations that leave a file alone -/

/-- Does an operation remove or write this path? -/
def FileOp.touches (p : Path) : FileOp → Bool
  | rm path => path.isPrefixOf p
  | write path _ _ => path = p

theorem FileOp.get_apply_of_not_touches {op : FileOp} {p : Path} (h : ¬op.touches p)
    (digest : Option JsString) (files : Files) : (op.apply digest files).get p = files.get p := by
  cases op with
  | rm path =>
    refine JsMap.get_congr fun f => ?_
    simp only [touches] at h
    simp [apply, JsMap.filter, h]
  | write path content origin =>
    simp only [touches, decide_eq_true_eq] at h
    exact JsMap.get_set_of_ne _ (Ne.symm h) _

/-- What an operation leaves at the paths that it touches. -/
def FileOp.leaves : FileOp → Option Content
  | rm _ => none
  | write _ content _ => some content

theorem FileOp.content_apply (op : FileOp) (digest : Option JsString) (files : Files) (p : Path) :
    (op.apply digest files).content p = if op.touches p then op.leaves else files.content p := by
  unfold Files.content
  split_ifs with ht
  · cases op with
    | rm path =>
      have hnone : (FileOp.apply digest files (.rm path)).get p = none := by
        refine Option.eq_none_iff_forall_ne_some.2 fun f hf => ?_
        have hkept := (JsMap.get_filter.1 hf).2
        simp only [touches] at ht
        simp [ht] at hkept
      rw [hnone]
      rfl
    | write path content origin =>
      obtain rfl : path = p := by simpa [touches] using ht
      simp [apply, leaves]
  · rw [get_apply_of_not_touches ht]

/-- The frame rule. -/
theorem get_applyOps_of_not_touches {p : Path} {ops : List FileOp}
    (h : ∀ op ∈ ops, ¬op.touches p) (digest : Option JsString) (files : Files) :
    (applyOps digest files ops).get p = files.get p := by
  induction ops generalizing files with
  | nil => rfl
  | cons op ops ih =>
    rw [List.forall_mem_cons] at h
    rw [applyOps_cons, ih h.2, FileOp.get_apply_of_not_touches h.1]

/-! ### The invariant -/

/-- Every file that was written as the worker of a call matches the digest that the call
declared. -/
def Verified (store : ArtifactStore) (files : Files) : Prop :=
  ∀ p f, files.get p = some f → f.origin = .worker → store.verifyDigest f.content f.digest

namespace ArtifactStore

variable {store : ArtifactStore} {host : Host} {plan : StagePlan} {files : Files}

theorem verified_applyOps {digest : Option JsString} {ops : List FileOp} (h : Verified store files)
    (hops : ∀ p content, .write p content .worker ∈ ops → store.verifyDigest content digest) :
    Verified store (applyOps digest files ops) := by
  induction ops generalizing files with
  | nil => exact h
  | cons op ops ih =>
    refine ih ?_ fun p content hmem => hops p content (List.mem_cons_of_mem _ hmem)
    intro p f hf hworker
    cases op with
    | rm path =>
      have hold := (JsMap.get_filter.1 hf).1
      exact h p f hold hworker
    | write path content origin =>
      simp only [FileOp.apply, JsMap.get_set] at hf
      split_ifs at hf with hp
      · obtain rfl := Option.some.inj hf
        obtain rfl : origin = .worker := hworker
        exact hops path content List.mem_cons_self
      · exact h p f hf hworker

theorem origin_of_mem_copyTree {target p : Path} {tree : List (Path × Content)} {content : Content}
    {origin : Origin} (h : .write p content origin ∈ copyTree target tree) : origin = .tree := by
  obtain ⟨f, -, hf⟩ := List.mem_map.1 h
  cases hf
  rfl

/-- What an input writes as the worker has been verified. -/
theorem verifyDigest_of_mem_stageInput {digest : Option JsString}
    {input : PreparedArtifactInputMetadata} {p : Path} {content : Content}
    (h : .write p content .worker ∈ (store.stageInput host digest input).ops) :
    store.verifyDigest content digest := by
  obtain hs | ⟨-, source, hv, hs⟩ | ⟨-, source, hs⟩ | ⟨-, tree, ok, hs⟩ |
    ⟨-, archive, tree, ok, -, hs⟩ := stageInput_cases store host digest input <;> rw [hs] at h
  · simp [Script.throw] at h
  · cases List.mem_singleton.1 h
    exact hv
  · cases List.mem_singleton.1 h
  · obtain h | h := List.mem_cons.1 h
    · cases h
    · cases origin_of_mem_copyTree h
  · obtain h | h := Script.mem_ops_andThen h
    · obtain h | h := List.mem_cons.1 h
      · cases h
      · obtain h | h := List.mem_cons.1 h
        · cases h
        · cases origin_of_mem_copyTree h
    · cases List.mem_singleton.1 h

theorem verifyDigest_of_mem_stagePlanned {p : Path} {content : Content}
    (h : .write p content .worker ∈ (store.stagePlanned host files plan).ops) :
    store.verifyDigest content plan.digest := by
  unfold stagePlanned at h
  split_ifs at h
  · cases (eq_of_mem_ensureProjectPrepared h).2
  · obtain h | h := Script.mem_ops_andThen h
    · obtain h | h := Script.mem_ops_andThen h
      · obtain ⟨s, hs, hop⟩ := Script.mem_ops_all h
        obtain ⟨i, -, rfl⟩ := List.mem_map.1 hs
        exact verifyDigest_of_mem_stageInput hop
      · cases List.mem_singleton.1 h
    · cases (eq_of_mem_ensureProjectPrepared h).2

end ArtifactStore

namespace StageCall

variable {store : ArtifactStore} {c : StageCall} {files : Files}

theorem mem_script_of_mem_performed {op : FileOp} (h : op ∈ c.performed store files) :
    op ∈ (c.script store files).ops := by
  unfold performed at h
  cases hcut : c.cut with
  | none => simpa [hcut] using h
  | some n =>
    simp only [hcut] at h
    exact List.mem_of_mem_take h

/-- A call keeps the invariant, wherever it fails. -/
theorem verified_step (h : Verified store files) : Verified store (c.step store files) := by
  refine ArtifactStore.verified_applyOps h fun p content hmem => ?_
  have hscript := mem_script_of_mem_performed hmem
  unfold script at hscript
  cases hplan : c.plan store with
  | none => simp [hplan, Script.throw] at hscript
  | some plan =>
    simp only [hplan] at hscript
    exact ArtifactStore.verifyDigest_of_mem_stagePlanned hscript

/-! ### Returned entries -/

/-- Is the source of a call a single file? -/
def isSingleFile (store : ArtifactStore) (c : StageCall) : Bool :=
  c.request.any (store.isSingleFile c.host)

end StageCall

/-- A call with this plan leaves its entry with a file of its digest: a call that reuses
finds one, a call that stages does not write another file there. -/
def StagePlan.KeepsEntry (plan : StagePlan) (files : Files) : Prop :=
  (plan.preparesProject → plan.localEntry ≠ plan.prepareMetadataPath) ∧
    (ArtifactStore.reuses files plan →
      (files.get plan.localEntry).any fun f => f.origin = .worker && f.digest = plan.digest) ∧
    (¬ArtifactStore.reuses files plan → plan.localEntry ≠ plan.metadataPath ∧
      ∀ i ∈ plan.inputs, i.kind = .projectFile → i.targetPath ≠ plan.localEntry)

namespace StageCall

variable (store : ArtifactStore)

/-- The condition on a call: for a single file with a digest, its entry is kept. -/
def Careful (files : Files) (c : StageCall) : Prop :=
  c.isSingleFile store → ∀ plan ∈ c.plan store, truthy plan.digest → plan.KeepsEntry files

/-- When a call returns for a single file with a digest, the entry matches the digest. -/
def ReturnsMatching (files : Files) (c : StageCall) : Prop :=
  c.isSingleFile store → ∀ plan ∈ c.plan store, truthy plan.digest → c.returns store files →
    ((c.step store files).get plan.localEntry).any fun f => store.verifyDigest f.content plan.digest

variable {store} {c : StageCall} {files : Files}

/-- The condition is a question about the plan and the files. -/
instance (files : Files) : Decidable (c.Careful store files) := by
  unfold Careful StagePlan.KeepsEntry
  infer_instance

/-- Preparing the project keeps the entry. -/
theorem get_localEntry_ensureProjectPrepared {host : Host} {plan : StagePlan} {files files' : Files}
    (h : plan.preparesProject → plan.localEntry ≠ plan.prepareMetadataPath)
    (digest : Option JsString) :
    (applyOps digest files (ArtifactStore.ensureProjectPrepared host files' plan).ops).get
      plan.localEntry = files.get plan.localEntry := by
  refine get_applyOps_of_not_touches (fun op hop => ?_) digest files
  obtain ⟨hprepares, rfl⟩ := ArtifactStore.eq_of_mem_ensureProjectPrepared hop
  simpa [FileOp.touches] using Ne.symm (h hprepares)

/-- The project files do not touch the entry. -/
theorem not_touches_of_mem_projectInputs {host : Host} {digest : Option JsString} {p : Path}
    {inputs : List PreparedArtifactInputMetadata}
    (hkind : ∀ i ∈ inputs, i.kind = .projectFile) (htarget : ∀ i ∈ inputs, i.targetPath ≠ p) :
    ∀ op ∈ (Script.all (inputs.map (store.stageInput host digest))).ops, ¬op.touches p := by
  intro op hop
  obtain ⟨s, hs, hops⟩ := Script.mem_ops_all hop
  obtain ⟨i, hi, rfl⟩ := List.mem_map.1 hs
  obtain hs | ⟨hk, -⟩ | ⟨-, source, hs⟩ | ⟨hk, -⟩ | ⟨hk, -⟩ :=
    ArtifactStore.stageInput_cases store host digest i
  · rw [hs] at hops
    simp [Script.throw] at hops
  · rw [hkind i hi] at hk
    cases hk
  · rw [hs] at hops
    obtain rfl := List.mem_singleton.1 hops
    simpa [FileOp.touches] using htarget i hi
  all_goals
    rw [hkind i hi] at hk
    cases hk

/-- A call that stages a single file leaves the file it verified at its entry. -/
theorem get_localEntry_of_staged (files : Files) {host : Host} {plan : StagePlan}
    {main : PreparedArtifactInputMetadata} {projectInputs : List PreparedArtifactInputMetadata}
    (hinputs : plan.inputs = main :: projectInputs) (hmain : main.kind = .worker)
    (htarget : main.targetPath = plan.localEntry)
    (hproject : ∀ i ∈ projectInputs, i.kind = .projectFile)
    (hdistinct : ∀ i ∈ plan.inputs, i.kind = .projectFile → i.targetPath ≠ plan.localEntry)
    (hmeta : plan.localEntry ≠ plan.metadataPath)
    (hs : (store.stageInputs host plan).completes) :
    ∃ source, store.verifyDigest source plan.digest ∧
      (applyOps plan.digest files (store.stageInputs host plan).ops).get plan.localEntry =
        some ⟨source, .worker, plan.digest⟩ := by
  have hall := (Script.completes_andThen.1 hs).1
  rw [hinputs, List.map_cons, Script.all] at hall
  obtain ⟨hworker, -⟩ := Script.completes_andThen.1 hall
  obtain h | ⟨-, source, hv, h⟩ | ⟨hk, -⟩ | ⟨hk, -⟩ | ⟨hk, -⟩ :=
    ArtifactStore.stageInput_cases store host plan.digest main
  · simp [h, Script.throw] at hworker
  · refine ⟨source, hv, ?_⟩
    rw [ArtifactStore.stageInputs, Script.ops_andThen (Script.completes_andThen.1 hs).1,
      applyOps_append, applyOps_cons, applyOps_nil]
    -- neither the metadata nor the project files are written over the worker
    rw [FileOp.get_apply_of_not_touches (by simpa [FileOp.touches] using Ne.symm hmeta), hinputs,
      List.map_cons, Script.all, Script.ops_andThen hworker, applyOps_append,
      get_applyOps_of_not_touches (not_touches_of_mem_projectInputs hproject fun i hi =>
        hdistinct i (hinputs ▸ List.mem_cons_of_mem _ hi) (hproject i hi)), h, htarget]
    exact JsMap.get_set_self _ _ _
  all_goals
    rw [hmain] at hk
    cases hk

/-- What one careful call returns. -/
theorem returnsMatching_of_careful (hinv : Verified store files) (hc : c.Careful store files) :
    c.ReturnsMatching store files := by
  intro hsingle plan hplan hdigest hreturns
  obtain ⟨hprepare, hreuse, hstage⟩ := hc hsingle plan hplan hdigest
  have hplan' : c.plan store = some plan := hplan
  simp only [returns, script, hplan', Bool.and_eq_true, decide_eq_true_eq] at hreturns
  obtain ⟨hcut, hcompletes⟩ := hreturns
  have hstep : c.step store files =
      applyOps plan.digest files (store.stagePlanned c.host files plan).ops := by
    simp [step, performed, script, hplan', hcut]
  rw [hstep]
  cases hr : ArtifactStore.reuses files plan with
  | true =>
    -- the entry is the one that was found
    have hfound := hreuse hr
    simp only [ArtifactStore.stagePlanned, hr, if_true]
    rw [get_localEntry_ensureProjectPrepared hprepare]
    cases hf : files.get plan.localEntry with
    | none => simp [hf] at hfound
    | some f =>
      simp only [hf, Option.any_some, Bool.and_eq_true, decide_eq_true_eq] at hfound
      exact hfound.2 ▸ hinv _ f hf hfound.1
  | false =>
    obtain ⟨r, hreq, hbuild⟩ := Option.bind_eq_some_iff.1 hplan'
    have hsingle' : store.isSingleFile c.host r := by simpa [isSingleFile, hreq] using hsingle
    obtain ⟨main, projectInputs, hinputs, hmain, htarget, hproject⟩ :=
      ArtifactStore.kinds_of_buildStagePlan hbuild hsingle'
    obtain ⟨hmeta, hdistinct⟩ := hstage (by simp [hr])
    simp only [ArtifactStore.stagePlanned, hr, Bool.false_eq_true, if_false] at hcompletes ⊢
    obtain ⟨hs, -⟩ := Script.completes_andThen.1 hcompletes
    obtain ⟨source, hv, hget⟩ := get_localEntry_of_staged files hinputs hmain htarget hproject
      hdistinct hmeta hs
    rw [Script.ops_andThen hs, applyOps_append, get_localEntry_ensureProjectPrepared hprepare, hget]
    simpa using hv

/-- **A returned entry matches its digest** at every call of a run whose calls keep their
entries. -/
theorem along_returnsMatching {calls : List StageCall}
    (h : Machine.Along (step store) (fun files c => c.Careful store files) .empty calls) :
    Machine.Along (step store) (fun files c => c.ReturnsMatching store files) .empty calls := by
  have hempty : Verified store .empty := by
    intro p f hf
    simp at hf
  exact h.imp hempty (fun _ _ hinv _ => verified_step hinv)
    fun _ _ hinv hc => returnsMatching_of_careful hinv hc

/-! ### A failed staging between two others -/

/-- Staging `https://host/a.ts` under one manifest id, with a digest and a project file. -/
def entryArgs (digest : JsString) (packageJson : Option JsString) : StageArgs where
  kind := .httpWorker
  assignment :=
    { assignmentId := js "a1", hostId := js "h1", deploymentId := js "d1"
      deploymentKind := .httpWorker, declaredVersion := js "1"
      artifact := { manifestId := js "m1", sourceUri := js "https://host/a.ts" }
      httpWorker := some { entry := js "index.ts" } }
  manifest := some
    { manifestId := js "m1", sourceUri := js "https://host/a.ts", digest := some digest
      entry := js "index.ts", packageManager := .bun packageJson none none none }

/-- The source is empty, and so the digest says. -/
def emptyCall : StageCall := ⟨entryArgs ArtifactStore.emptyHash none, .serving (.data []), none⟩

/-- The source and the digest have changed, and the project file cannot be fetched. -/
def failingCall : StageCall :=
  ⟨entryArgs ArtifactStore.aHash (some (js "package.json")),
    { Host.serving (.data [97]) with
      fetch := fun url => if url = js "https://host/a.ts" then some (.data [97]) else none },
    none⟩

/-- Staged twice, the empty source is reused. -/
theorem along_returnsMatching_emptyCall :
    emptyCall.returns .simple (emptyCall.step .simple .empty) ∧
      Machine.Along (step .simple) (fun files c => c.ReturnsMatching .simple files) .empty
        [emptyCall, emptyCall] :=
  ⟨by decide +kernel,
    along_returnsMatching ⟨by decide +kernel, by decide +kernel, trivial⟩⟩

/-- After the failed call the first one is repeated: it returns the changed source. -/
theorem not_returnsMatching_failingCall :
    ¬Machine.Along (step .simple) (fun files c => c.ReturnsMatching .simple files) .empty
      [emptyCall, failingCall, emptyCall] := by
  intro h
  have hthird : emptyCall.ReturnsMatching .simple
      (failingCall.step .simple (emptyCall.step .simple .empty)) := h.2.2.1
  revert hthird
  unfold ReturnsMatching
  decide +kernel

end StageCall

end Hardess
