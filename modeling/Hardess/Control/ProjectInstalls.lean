import Hardess.Control.StagedDigest

/-!
# Installed dependencies

`ensureProjectPrepared` skips `bun install` when the marker file of the directory holds the key of
the plan. A key names the project files by their references and fingerprints, so a marker is as good
as the project files it names are old.

* `ProjectState.changed` are the paths whose content has changed since the last successful install;
* `ProjectState.Certified`: no project file of the marker's key is among them;
* `Rewrites`: what is put at a path, fetched or copied, is what it holds at present;
* `InstallCall.Careful`: a call installs, or takes the marker away, or rewrites the project files that
  the marker's key names.
-/

namespace Hardess

open Posix (Path)

/-! ### Contents that change -/

/-- The key in a marker file. -/
def Content.key : Content → Option ProjectPrepareKey
  | prepareMeta key => some key
  | _ => none

theorem readPreparedProjectState_eq (files : Files) (p : Path) :
    readPreparedProjectState files p = (files.content p).bind Content.key := by
  unfold readPreparedProjectState Files.content
  cases files.get p with
  | none => rfl
  | some f =>
    obtain ⟨content, -, -⟩ := f
    cases content <;> rfl

/-- The paths whose content an operation changes. -/
def FileOp.changes (files : Files) : FileOp → List Path
  | rm path => files.keys.filter fun q => path.isPrefixOf q
  | write path content _ => if files.content path = some content then [] else [path]

/-- The paths whose content some operations change. -/
def changedBy (digest : Option JsString) : Files → List FileOp → List Path
  | _, [] => []
  | files, op :: ops => op.changes files ++ changedBy digest (op.apply digest files) ops

theorem changedBy_append (digest : Option JsString) (files : Files) (ops ops' : List FileOp) :
    changedBy digest files (ops ++ ops') =
      changedBy digest files ops ++ changedBy digest (applyOps digest files ops) ops' := by
  induction ops generalizing files with
  | nil => rfl
  | cons op ops ih => rw [List.cons_append, changedBy, changedBy, ih, applyOps_cons,
      List.append_assoc]

/-- An operation leaves a path unchanged when it does not work there, or leaves there what is there
already. -/
theorem FileOp.notMem_changes_iff {files : Files} {p : Path} {op : FileOp} :
    p ∉ op.changes files ↔ (op.touches p → op.leaves = files.content p) := by
  cases op with
  | rm path =>
    simp only [FileOp.changes, List.mem_filter, FileOp.touches, FileOp.leaves, not_and]
    constructor
    · intro h hprefix
      have hkey : p ∉ files.keys := fun hkey => h hkey hprefix
      simp [Files.content, JsMap.get_eq_none_iff.2 hkey]
    · intro h hkey hprefix
      have hnone : files.get p = none := by simpa [Files.content, eq_comm] using h hprefix
      exact JsMap.get_eq_none_iff.1 hnone hkey
  | write path content origin =>
    simp only [FileOp.changes, FileOp.touches, FileOp.leaves]
    split_ifs with hsame
    · simp only [List.not_mem_nil, not_false_eq_true, true_iff]
      rintro hp
      obtain rfl : path = p := by simpa using hp
      exact hsame.symm
    · rw [List.mem_singleton]
      constructor
      · intro hne hp
        exact absurd (by simpa using hp : path = p).symm hne
      · rintro h rfl
        exact hsame (h (by simp)).symm

/-- What the operations put at a path is what it holds. -/
def Rewrites (files : Files) (ops : List FileOp) (p : Path) : Prop :=
  ∀ op ∈ ops, op.touches p → op.leaves = files.content p

instance (files : Files) (ops : List FileOp) (p : Path) : Decidable (Rewrites files ops p) :=
  inferInstanceAs (Decidable (∀ op ∈ ops, _ → _))

/-- **Nothing changes** at a path just in case all that is put there is what it holds. -/
theorem notMem_changedBy_iff {digest : Option JsString} {p : Path} {ops : List FileOp}
    {files : Files} : p ∉ changedBy digest files ops ↔ Rewrites files ops p := by
  unfold Rewrites
  induction ops generalizing files with
  | nil => simp [changedBy]
  | cons op ops ih =>
    rw [changedBy, List.mem_append, not_or, ih, FileOp.notMem_changes_iff, List.forall_mem_cons]
    refine and_congr_right fun hsame => ?_
    -- the first operation leaves the content as it is
    have hcontent : (op.apply digest files).content p = files.content p := by
      rw [FileOp.content_apply]
      split_ifs with ht
      · exact hsame ht
      · rfl
    rw [hcontent]

/-- After one operation or more, all of them the same write, the file is there. -/
theorem content_applyOps_of_eq_write {digest : Option JsString} {files : Files} {q : Path}
    {content : Content} {origin : Origin} {ops : List FileOp} (hne : ops ≠ [])
    (h : ∀ op ∈ ops, op = .write q content origin) :
    (applyOps digest files ops).content q = some content := by
  obtain rfl | ⟨init, last, rfl⟩ := List.eq_nil_or_concat ops
  · exact absurd rfl hne
  · obtain rfl := h last (by simp)
    rw [List.concat_eq_append, applyOps_append, applyOps_cons, applyOps_nil, FileOp.content_apply,
      if_pos (by simp [FileOp.touches])]
    rfl

/-- They change no other file. -/
theorem eq_of_mem_changedBy {digest : Option JsString} {files : Files} {p q : Path}
    {content : Content} {origin : Origin} {ops : List FileOp}
    (h : ∀ op ∈ ops, op = .write q content origin) (hp : p ∈ changedBy digest files ops) :
    p = q := by
  induction ops generalizing files with
  | nil => simp [changedBy] at hp
  | cons op ops ih =>
    rw [List.forall_mem_cons] at h
    obtain ⟨rfl, hrest⟩ := h
    obtain hp | hp := List.mem_append.1 hp
    · simp only [FileOp.changes] at hp
      split_ifs at hp
      · simp at hp
      · exact List.mem_singleton.1 hp
    · exact ih hrest hp

/-- An operation that leaves no key where it works. -/
def FileOp.KeyFree (op : FileOp) : Prop := op.leaves.bind Content.key = none

instance (op : FileOp) : Decidable op.KeyFree := inferInstanceAs (Decidable (_ = _))

/-- What becomes of a marker under operations that write no key over it: it stays if none of them
works on it, and is gone otherwise. -/
theorem readPreparedProjectState_applyOps {digest : Option JsString} {marker : Path}
    {ops : List FileOp} (h : ∀ op ∈ ops, op.touches marker → op.KeyFree) (files : Files) :
    readPreparedProjectState (applyOps digest files ops) marker =
      if ∃ op ∈ ops, op.touches marker then none else readPreparedProjectState files marker := by
  induction ops generalizing files with
  | nil => simp
  | cons op ops ih =>
    rw [List.forall_mem_cons] at h
    rw [applyOps_cons, ih h.2]
    by_cases htouches : op.touches marker
    · have hgone : readPreparedProjectState (op.apply digest files) marker = none := by
        rw [readPreparedProjectState_eq, FileOp.content_apply, if_pos htouches]
        exact h.1 htouches
      simp [hgone, htouches]
    · have hkept : readPreparedProjectState (op.apply digest files) marker =
          readPreparedProjectState files marker := by
        rw [readPreparedProjectState_eq, FileOp.content_apply, if_neg htouches,
          ← readPreparedProjectState_eq]
      simp [hkept, htouches]

/-! ### Calls that install -/

/-- What a call does on the disk: an operation on a file, or a run of `bun install`, which writes
files of its own and may fail after it. -/
inductive ProjectOp
  | file (op : FileOp)
  | install (cwd : Path) (ok : Bool) (written : List (Path × Content))
  deriving DecidableEq

namespace ProjectOp

/-- The operations on files. -/
def fileOps : ProjectOp → List FileOp
  | file op => [op]
  | install cwd _ written => ArtifactStore.copyTree cwd written

/-- Is it a successful install in a directory? -/
def installsIn (d : Path) : ProjectOp → Bool
  | file _ => false
  | install cwd ok _ => ok && cwd = d

end ProjectOp

/-- The files, and the paths whose content has changed since the last successful install in one
directory; `none` before the first. -/
structure ProjectState where
  files : Files
  changed : Option (List Path)

/-- Before the first call. -/
def ProjectState.start : ProjectState := ⟨.empty, none⟩

/-- The state after an operation of a call that declares `digest`. -/
def ProjectState.apply (d : Path) (digest : Option JsString) (s : ProjectState) (op : ProjectOp) :
    ProjectState where
  files := applyOps digest s.files op.fileOps
  changed := if op.installsIn d then some []
    else s.changed.map (· ++ changedBy digest s.files op.fileOps)

theorem ProjectState.apply_of_installsIn {d : Path} {op : ProjectOp} (h : op.installsIn d)
    (digest : Option JsString) (s : ProjectState) :
    s.apply d digest op = ⟨applyOps digest s.files op.fileOps, some []⟩ := by
  simp [ProjectState.apply, h]

/-- A call, with the files that `bun install` writes into its directory. -/
structure InstallCall extends StageCall where
  installs : List (Path × Content)

namespace InstallCall

variable (store : ArtifactStore) (c : InstallCall)

/-- What a call with a plan does before `ensureProjectPrepared`. -/
def staged (files : Files) (plan : StagePlan) : Script :=
  if ArtifactStore.reuses files plan then .done else store.stageInputs c.host plan

/-- `ensureProjectPrepared`, with the run of `bun install`. -/
def prepared (files : Files) (plan : StagePlan) : List ProjectOp :=
  (if plan.preparesProject ∧
      readPreparedProjectState files plan.prepareMetadataPath ≠ some plan.prepareKey then
    [.install plan.artifactDir c.host.install c.installs]
  else []) ++ (ArtifactStore.ensureProjectPrepared c.host files plan).ops.map .file

/-- All that a call with a plan does. -/
def planned (files : Files) (plan : StagePlan) : List ProjectOp :=
  (c.staged store files plan).ops.map .file ++
    if (c.staged store files plan).completes then
      c.prepared (applyOps plan.digest files (c.staged store files plan).ops) plan
    else []

/-- What it does before another failure ends it. -/
def operations (files : Files) : List ProjectOp :=
  let ops := ((c.plan store).map (c.planned store files)).getD []
  match c.cut with
  | none => ops
  | some n => ops.take n

/-- The digest that it declares. -/
def digest : Option JsString := (c.plan store).bind (·.digest)

/-- The state after a call. -/
def step (d : Path) (s : ProjectState) (c : InstallCall) : ProjectState :=
  (c.operations store s.files).foldl (ProjectState.apply d (c.digest store)) s

/-! ### What a call does -/

variable {store c} {d : Path} {digest : Option JsString}

theorem files_foldl_apply (s : ProjectState) (ops : List ProjectOp) :
    (ops.foldl (ProjectState.apply d digest) s).files =
      applyOps digest s.files (ops.flatMap ProjectOp.fileOps) := by
  induction ops generalizing s with
  | nil => rfl
  | cons op ops ih => rw [List.foldl_cons, ih, List.flatMap_cons, applyOps_append]; rfl

/-- Without an install the changes add up. -/
theorem changed_foldl_apply {ops : List ProjectOp} (h : ∀ op ∈ ops, ¬op.installsIn d)
    (s : ProjectState) :
    (ops.foldl (ProjectState.apply d digest) s).changed =
      s.changed.map (· ++ changedBy digest s.files (ops.flatMap ProjectOp.fileOps)) := by
  induction ops generalizing s with
  | nil =>
    obtain ⟨files, changed⟩ := s
    cases changed <;> simp [changedBy]
  | cons op ops ih =>
    rw [List.forall_mem_cons] at h
    rw [List.foldl_cons, ih h.2, List.flatMap_cons, changedBy_append]
    simp only [ProjectState.apply, h.1, if_false, Option.map_map, Bool.false_eq_true]
    congr 1
    funext changed
    simp

/-- A call runs `bun install` at most once, and writes nothing but the marker after it. -/
theorem operations_cases (store : ArtifactStore) (c : InstallCall) (files : Files) :
    (∃ ops : List FileOp, c.operations store files = ops.map .file) ∨
    ∃ plan ∈ c.plan store, plan.preparesProject ∧ ∃ ops rest : List FileOp,
      c.operations store files =
        ops.map .file ++ .install plan.artifactDir c.host.install c.installs :: rest.map .file ∧
      ∀ op ∈ rest,
        op = .write plan.prepareMetadataPath (.prepareMeta plan.prepareKey) .prepareMetadata := by
  -- what a call with a plan would do, if nothing cut it short
  have hplanned : ∀ plan ∈ c.plan store,
      (∃ ops : List FileOp, c.planned store files plan = ops.map .file) ∨
      plan.preparesProject ∧ ∃ ops rest : List FileOp,
        c.planned store files plan =
          ops.map .file ++ .install plan.artifactDir c.host.install c.installs ::
            rest.map .file ∧
        ∀ op ∈ rest,
          op = .write plan.prepareMetadataPath (.prepareMeta plan.prepareKey) .prepareMetadata := by
    intro plan _
    unfold planned
    split_ifs with hcompletes
    · unfold prepared
      split_ifs with hruns
      · exact .inr ⟨hruns.1, _, _, rfl,
          fun op hop => (ArtifactStore.eq_of_mem_ensureProjectPrepared hop).2⟩
      · exact .inl ⟨_, by rw [List.nil_append, ← List.map_append]⟩
    · exact .inl ⟨_, List.append_nil _⟩
  unfold operations
  cases hplan : c.plan store with
  | none => exact .inl ⟨[], by cases c.cut <;> simp⟩
  | some plan =>
    simp only [Option.map_some, Option.getD_some]
    obtain ⟨ops, hops⟩ | ⟨hprepares, ops, rest, hops, hrest⟩ := hplanned plan hplan <;> rw [hops]
    · cases c.cut with
      | none => exact .inl ⟨ops, rfl⟩
      | some n => exact .inl ⟨ops.take n, (List.map_take ..).symm⟩
    · cases c.cut with
      | none => exact .inr ⟨plan, rfl, hprepares, ops, rest, rfl, hrest⟩
      | some n =>
        simp only [List.take_append, List.length_map]
        -- is the run of `bun install` among the first operations?
        cases hn : n - ops.length with
        | zero => exact .inl ⟨ops.take n, by simp⟩
        | succ m =>
          refine .inr ⟨plan, rfl, hprepares, ops.take n, rest.take m, by simp, ?_⟩
          exact fun op hop => hrest op (List.mem_of_mem_take hop)

/-! ### Markers that can be trusted -/

end InstallCall

/-- The marker file of a directory. -/
def prepareMarker (d : Path) : Path := Posix.join d (js ".artifact-prepare-meta.json")

/-- No project file that the marker names has changed since the last install. -/
def ProjectState.Certified (d : Path) (s : ProjectState) : Prop :=
  ∀ key ∈ readPreparedProjectState s.files (prepareMarker d), ∃ changed ∈ s.changed,
    ∀ p ∈ projectTargets key.packageManager d, p ∉ changed

/-- Operations that take the marker away, or leave it and put at each project file that it names what
that holds at present. -/
def KeepsCertified (d : Path) (files : Files) (ops : List FileOp) : Prop :=
  (∀ op ∈ ops, op.touches (prepareMarker d) → op.KeyFree) ∧
    ((∃ op ∈ ops, op.touches (prepareMarker d)) ∨
      ∀ key ∈ readPreparedProjectState files (prepareMarker d),
        ∀ p ∈ projectTargets key.packageManager d, Rewrites files ops p)

namespace InstallCall

variable (store : ArtifactStore) (d : Path)

/-- The condition on a call: it installs in the directory, or keeps the marker true; and no project
file is the marker itself. -/
def Careful (s : ProjectState) (c : InstallCall) : Prop :=
  (∀ plan ∈ c.plan store, plan.artifactDir = d → plan.preparesProject →
      prepareMarker d ∉ projectTargets plan.packageManager d) ∧
    ((∃ op ∈ c.operations store s.files, op.installsIn d) ∨
      KeepsCertified d s.files ((c.operations store s.files).flatMap ProjectOp.fileOps))

/-- When a call returns for a Bun project in the directory, no project file has changed since the
last install. -/
def ReturnsInstalled (s : ProjectState) (c : InstallCall) : Prop :=
  ∀ plan ∈ c.plan store, plan.artifactDir = d → plan.preparesProject → c.returns store s.files →
    (c.step store d s).changed.any fun changed =>
      ∀ p ∈ projectTargets plan.packageManager d, p ∉ changed

instance (s : ProjectState) (c : InstallCall) : Decidable (c.Careful store d s) := by
  unfold Careful KeepsCertified
  infer_instance

instance (s : ProjectState) (c : InstallCall) : Decidable (c.ReturnsInstalled store d s) := by
  unfold ReturnsInstalled
  infer_instance

variable {store d} {c : InstallCall} {s : ProjectState}

/-- A call that installs in the directory. -/
theorem certified_step_of_installs (hc : c.Careful store d s)
    (hinstalls : ∃ op ∈ c.operations store s.files, op.installsIn d) :
    (c.step store d s).Certified d := by
  obtain ⟨ops, hops⟩ | ⟨plan, hplan, hprepares, ops, rest, hops, hrest⟩ :=
    operations_cases store c s.files
  · -- only operations on files
    obtain ⟨op, hop, hin⟩ := hinstalls
    obtain ⟨f, -, rfl⟩ := List.mem_map.1 (hops ▸ hop)
    simp [ProjectOp.installsIn] at hin
  · have hin : c.host.install ∧ plan.artifactDir = d := by
      obtain ⟨op, hop, hin⟩ := hinstalls
      rw [hops] at hop
      simp only [List.mem_append, List.mem_cons, List.mem_map] at hop
      obtain ⟨f, -, rfl⟩ | rfl | ⟨f, -, rfl⟩ := hop <;> simp [ProjectOp.installsIn] at hin
      exact hin
    obtain ⟨hok, rfl⟩ := hin
    -- the state when `bun install` has ended, and what is done to it afterwards
    have hstep : ∃ files, c.step store plan.artifactDir s =
        (rest.map ProjectOp.file).foldl (ProjectState.apply plan.artifactDir (c.digest store))
          ⟨files, some []⟩ := by
      unfold step
      rw [hops, List.foldl_append, List.foldl_cons, ProjectState.apply_of_installsIn]
      · exact ⟨_, rfl⟩
      · simp [ProjectOp.installsIn, hok]
    obtain ⟨files, hstep⟩ := hstep
    have hnone : ∀ op ∈ rest.map ProjectOp.file, ¬op.installsIn plan.artifactDir := by
      intro op hop
      obtain ⟨f, -, rfl⟩ := List.mem_map.1 hop
      simp [ProjectOp.installsIn]
    have hfileOps : (rest.map ProjectOp.file).flatMap ProjectOp.fileOps = rest := by
      simp [List.flatMap_map, ProjectOp.fileOps]
    intro key hkey
    rw [hstep, files_foldl_apply, hfileOps] at hkey
    rw [hstep, changed_foldl_apply hnone, hfileOps]
    refine ⟨_, rfl, fun p hp hchanged => ?_⟩
    simp only [List.nil_append] at hchanged
    -- only the marker was written, and it holds the key of the plan
    obtain rfl : p = plan.prepareMetadataPath := eq_of_mem_changedBy hrest hchanged
    have hne : rest ≠ [] := by
      rintro rfl
      simp [changedBy] at hchanged
    have hmarker : (applyOps (c.digest store) files rest).content plan.prepareMetadataPath =
        some (.prepareMeta plan.prepareKey) := content_applyOps_of_eq_write hne hrest
    have hkey' : key = plan.prepareKey := by
      have heq : some plan.prepareKey = some key := by
        rw [← Option.mem_def.1 hkey, readPreparedProjectState_eq]
        change _ = (Files.content _ plan.prepareMetadataPath).bind Content.key
        rw [hmarker]
        rfl
      exact (Option.some.inj heq).symm
    subst hkey'
    exact hc.1 plan hplan rfl hprepares hp

/-- **A marker stays true** under a careful call. -/
theorem certified_step (h : s.Certified d) (hc : c.Careful store d s) :
    (c.step store d s).Certified d := by
  by_cases hinstalls : ∃ op ∈ c.operations store s.files, op.installsIn d
  · exact certified_step_of_installs hc hinstalls
  · obtain ⟨hfree, hkept⟩ := hc.2.resolve_left hinstalls
    have hnone : ∀ op ∈ c.operations store s.files, ¬op.installsIn d := by
      intro op hop hin
      exact hinstalls ⟨op, hop, hin⟩
    intro key hkey
    unfold step at hkey ⊢
    rw [files_foldl_apply, readPreparedProjectState_applyOps hfree] at hkey
    split_ifs at hkey with htouches
    · simp at hkey
    · obtain ⟨changed, hchanged, hold⟩ := h key hkey
      rw [changed_foldl_apply hnone, Option.mem_def.1 hchanged]
      refine ⟨_, rfl, fun p hp => ?_⟩
      have hnew := (@notMem_changedBy_iff (c.digest store) _ _ _).2
        (hkept.resolve_left htouches key hkey p hp)
      simpa [List.mem_append, not_or] using ⟨hold p hp, hnew⟩

/-- When a call returns for a Bun project, the marker holds the key of its plan. -/
theorem readPreparedProjectState_of_returns {plan : StagePlan} (hplan : c.plan store = some plan)
    (hprepares : plan.preparesProject) (hreturns : c.returns store s.files) :
    readPreparedProjectState (c.step store d s).files plan.prepareMetadataPath =
      some plan.prepareKey := by
  simp only [StageCall.returns, StageCall.script, hplan, Bool.and_eq_true, decide_eq_true_eq]
    at hreturns
  obtain ⟨hcut, hcompletes⟩ := hreturns
  -- it staged what there was to stage, and then prepared the project
  have hboth : (c.staged store s.files plan).completes ∧
      (ArtifactStore.ensureProjectPrepared c.host
        (applyOps plan.digest s.files (c.staged store s.files plan).ops) plan).completes := by
    unfold staged
    unfold ArtifactStore.stagePlanned at hcompletes
    split_ifs at hcompletes ⊢
    · exact ⟨rfl, hcompletes⟩
    · exact Script.completes_andThen.1 hcompletes
  obtain ⟨hstaged, hensured⟩ := hboth
  have hdigest : c.digest store = plan.digest := by simp [digest, hplan]
  have hfiles : (c.step store d s).files =
      applyOps plan.digest (applyOps plan.digest s.files (c.staged store s.files plan).ops)
        ((c.prepared (applyOps plan.digest s.files (c.staged store s.files plan).ops) plan).flatMap
          ProjectOp.fileOps) := by
    rw [step, files_foldl_apply, hdigest]
    simp [operations, hcut, hplan, planned, hstaged, applyOps_append, List.flatMap_append,
      List.flatMap_map, ProjectOp.fileOps]
  rw [hfiles]
  generalize applyOps plan.digest s.files (c.staged store s.files plan).ops = files at hensured ⊢
  unfold ArtifactStore.ensureProjectPrepared at hensured
  rw [if_pos hprepares] at hensured
  by_cases hmarker : readPreparedProjectState files plan.prepareMetadataPath = some plan.prepareKey
  · -- the marker was found, and nothing was done
    have hnothing : c.prepared files plan = [] := by
      simp [prepared, ArtifactStore.ensureProjectPrepared, hprepares, hmarker, Script.done]
    rw [hnothing]
    exact hmarker
  · rw [if_neg hmarker] at hensured
    split_ifs at hensured with hok
    · rw [readPreparedProjectState_eq]
      simp [prepared, ArtifactStore.ensureProjectPrepared, hprepares, hmarker, hok,
        ProjectOp.fileOps, applyOps_append, FileOp.content_apply, FileOp.touches, FileOp.leaves,
        Content.key]
    · simp [Script.throw] at hensured

/-- **What is returned is installed**: in every sequence of careful calls, whenever one of them
returns for a Bun project in the directory, the last successful install is younger than every change
of its project files. -/
theorem along_returnsInstalled {calls : List InstallCall}
    (h : Machine.Along (step store d) (Careful store d) .start calls) :
    Machine.Along (step store d) (ReturnsInstalled store d) .start calls := by
  have hstart : ProjectState.start.Certified d := by
    intro key hkey
    simp [ProjectState.start, readPreparedProjectState_eq, Files.content] at hkey
  refine h.imp hstart (fun _ _ => certified_step) fun s c hs hc => ?_
  intro plan hplan hdir hprepares hreturns
  have hmarker := readPreparedProjectState_of_returns (d := d) hplan hprepares hreturns
  subst hdir
  obtain ⟨changed, hchanged, hold⟩ := certified_step hs hc plan.prepareKey hmarker
  rw [Option.mem_def.1 hchanged]
  exact decide_eq_true hold

/-! ### A project file that is fetched -/

/-- Staging `https://host/a.ts` with its `package.json`. -/
def projectArgs : StageArgs where
  kind := .httpWorker
  assignment :=
    { assignmentId := js "a1", hostId := js "h1", deploymentId := js "d1"
      deploymentKind := .httpWorker, declaredVersion := js "1"
      artifact := { manifestId := js "m1", sourceUri := js "https://host/a.ts" }
      httpWorker := some { entry := js "index.ts" } }
  manifest := some
    { manifestId := js "m1", sourceUri := js "https://host/a.ts", entry := js "index.ts"
      packageManager := .bun (some (js "package.json")) none none none }

/-- Its sources hold these bytes, and `bun install` writes a module. -/
def projectCall (source : List UInt8) : InstallCall where
  toStageArgs := projectArgs
  host := .serving (.data source)
  cut := none
  installs := [([js "node_modules", js "a", js "index.js"], .data [])]

/-- Where they are staged. -/
def projectDir : Path := [js "srv", js "artifacts", js "m1"]

/-- Staged again as it was, the project needs no second install. -/
theorem along_returnsInstalled_projectCall :
    (projectCall []).returns .simple ((projectCall []).step .simple projectDir .start).files ∧
      Machine.Along (step .simple projectDir) (ReturnsInstalled .simple projectDir) .start
        [projectCall [], projectCall []] :=
  ⟨by decide +kernel, along_returnsInstalled ⟨by decide +kernel, by decide +kernel, trivial⟩⟩

/-- With another `package.json` under the same URL it is not installed again. -/
theorem not_returnsInstalled_projectCall :
    ¬Machine.Along (step .simple projectDir) (ReturnsInstalled .simple projectDir) .start
      [projectCall [], projectCall [97]] := by
  decide +kernel

end InstallCall

end Hardess
