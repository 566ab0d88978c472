import Hardess.Control.PlacementContents

/-!
# The ingress requirements of a placement snapshot

The loop of `buildIngressGroupRequirements`, read off at the end.

* `NoShare`: there are not both service modules without a group and of the group `"__default__"`;
* `placementRequirement`: what is listed of a group;
* `buildIngressGroupRequirements_eq`: with `NoShare`, the snapshot lists just that;
* `keepsGroupsApart_iff`: and each group has its own requirement just in case of `NoShare`.
-/

namespace Hardess

open OrderIndependence

/-! ### What a desired state requires -/

/-- An assignment of a service module requires its protocol package of the ingress of its group. -/
structure Requirement where
  groupId : Option JsString
  packageId : JsString
  digest : JsString

/-- The package that is required. -/
def Requirement.ref (q : Requirement) : ServiceModuleProtocolPackageRef where
  packageId := q.packageId
  digest := q.digest

namespace DesiredHostState

variable (desired : DesiredHostState) (groupId : Option JsString) (packageId : JsString)

/-- What the service modules of a host require. -/
def requires : List Requirement :=
  desired.assignments.filterMap fun a => a.serviceModule.map fun m =>
    ⟨a.groupId, m.protocolPackage.packageId, m.protocolPackage.digest⟩

/-- What those of a group require. -/
def requiresOf : List Requirement := desired.requires.filter fun q => q.groupId = groupId

/-- The groups of the service modules. -/
def requirementGroups : List (Option JsString) := desired.requires.map (·.groupId)

/-- The packages of a group. -/
def packageIdsOf : List JsString := (desired.requiresOf groupId).map (·.packageId)

/-- The digest of a package of a group, of the last service module. -/
def digestOf : Option JsString :=
  ((desired.requiresOf groupId).filter fun q => q.packageId = packageId).getLast?.map (·.digest)

end DesiredHostState

/-- There are not both service modules without a group and of the group `"__default__"`. -/
def NoShare (l : List DesiredHostState) : Prop :=
  ¬(none ∈ l.flatMap (·.requirementGroups) ∧
    some (js "__default__") ∈ l.flatMap (·.requirementGroups))

/-! ### What is listed -/

section Listed

variable (platform : PlanningPlatform) (l : List DesiredHostState) (groupId : Option JsString)

/-- A package of a group. -/
def requiredPackage (packageId : JsString) : ServiceModuleProtocolPackageRef where
  packageId := packageId
  digest := (l.reverse.findSome? fun s => s.digestOf groupId packageId).getD []

/-- A group. -/
def placementRequirement : PlacementIngressGroupRequirement where
  groupId := groupId
  requiredProtocolPackages :=
    (sortByLocale platform (distinct (l.flatMap fun s => s.packageIdsOf groupId))).map
      (requiredPackage l groupId)

/-- The groups, in the order of their ids; without a group counts as the empty id. -/
def requirementGroupIds : List (Option JsString) :=
  (distinct (l.flatMap (·.requirementGroups))).insertionSort fun left right =>
    platform.precedes (left.getD []) (right.getD []) = true

end Listed

/-! ### The packages of an entry -/

/-- The packages that are collected. -/
def collectPackages (qs : List Requirement) :
    JsMap JsString ServiceModuleProtocolPackageRef :=
  qs.foldl (JsMap.upsert (·.packageId) fun q _ => q.ref) .empty

theorem values_collectPackages (l : List DesiredHostState) (groupId : Option JsString) :
    (collectPackages (l.flatMap fun s => s.requiresOf groupId)).entries.map Prod.snd =
      (distinct (l.flatMap fun s => s.packageIdsOf groupId)).map (requiredPackage l groupId) := by
  have hids : (l.flatMap fun s => s.requiresOf groupId).map (·.packageId) =
      l.flatMap fun s => s.packageIdsOf groupId := List.map_flatMap
  rw [← hids]
  refine JsMap.values_foldl_upsert_eq (fun q qs => (qs.getLast?.getD q).ref)
    (fun _ => rfl) (fun q qs q' => by rw [List.getLast?_concat]; rfl) ?_
  intro packageId first hhead
  have hne : ((l.flatMap fun s => s.requiresOf groupId).filter fun q => q.packageId = packageId) ≠
      [] := List.ne_nil_of_mem (List.mem_of_mem_head? hhead)
  obtain ⟨q, hq⟩ := Option.isSome_iff_exists.1 (List.getLast?_isSome.2 hne)
  have hid : q.packageId = packageId :=
    of_decide_eq_true (List.mem_filter.1 (List.mem_of_getLast? hq)).2
  have hdigest : (l.reverse.findSome? fun s => s.digestOf groupId packageId) = some q.digest := by
    rw [List.filter_flatMap, List.getLast?_flatMap] at hq
    rw [← Option.map_some (f := fun q : Requirement => q.digest), ← hq, List.map_findSome?]
    rfl
  rw [hq, Option.getD_some, Requirement.ref, requiredPackage, hdigest, hid]
  rfl

/-! ### The entries -/

/-- What a requirement makes of the entry of its group. -/
def Requirement.addTo (q : Requirement) (entry : Option RequirementEntry) : RequirementEntry :=
  let entry := entry.getD ⟨q.groupId, .empty⟩
  { entry with
    requiredProtocolPackages := entry.requiredProtocolPackages.set q.packageId q.ref }

/-- The entry of a group after its requirements. -/
def requirementEntryOf (first : Requirement) (qs : List Requirement) : RequirementEntry :=
  ⟨first.groupId, collectPackages qs⟩

theorem addTo_start (q : Requirement) : q.addTo none = requirementEntryOf q [q] := rfl

theorem addTo_add (q : Requirement) (qs : List Requirement) (q' : Requirement) :
    q'.addTo (some (requirementEntryOf q qs)) = requirementEntryOf q (qs ++ [q']) := by
  unfold requirementEntryOf collectPackages
  rw [List.foldl_concat]
  rfl

/-- What is required of all groups. -/
def requirementsOf (l : List DesiredHostState) : List Requirement := l.flatMap (·.requires)

theorem collectRequirements_eq (l : List DesiredHostState) : collectRequirements l =
    (requirementsOf l).foldl
      (JsMap.upsert (fun q => requirementGroupKey q.groupId) Requirement.addTo) .empty := by
  rw [requirementsOf, List.foldl_flatMap, collectRequirements]
  refine congrArg (fun step => l.foldl step JsMap.empty) ?_
  funext m desired
  rw [DesiredHostState.requires, List.foldl_filterMap]
  refine congrArg (fun step => desired.assignments.foldl step m) ?_
  funext m a
  unfold addRequirement
  cases a.serviceModule <;> rfl

theorem get_collectRequirements (l : List DesiredHostState) (key : JsString) :
    (collectRequirements l).get key =
      let qs := (requirementsOf l).filter fun q => requirementGroupKey q.groupId = key
      qs.head?.map fun q => requirementEntryOf q qs := by
  rw [collectRequirements_eq, JsMap.get_foldl_upsert]
  exact JsMap.foldl_upd_eq requirementEntryOf addTo_start addTo_add _

/-- The key of an entry is the one of its group. -/
theorem groupKey_of_get {l : List DesiredHostState} {key : JsString} {entry : RequirementEntry}
    (h : (collectRequirements l).get key = some entry) :
    requirementGroupKey entry.groupId = key := by
  rw [get_collectRequirements] at h
  obtain ⟨q, hq, rfl⟩ := Option.map_eq_some_iff.1 h
  exact of_decide_eq_true (List.mem_filter.1 (List.mem_of_mem_head? hq)).2

/-- A package is listed by every entry. -/
theorem size_of_get {l : List DesiredHostState} {key : JsString} {entry : RequirementEntry}
    (h : (collectRequirements l).get key = some entry) :
    0 < entry.requiredProtocolPackages.size := by
  rw [get_collectRequirements] at h
  obtain ⟨q, hq, rfl⟩ := Option.map_eq_some_iff.1 h
  have hkeys := JsMap.keys_foldl_upsert (fun q : Requirement => q.packageId) (fun q _ => q.ref)
    ((requirementsOf l).filter fun q => requirementGroupKey q.groupId = key)
  have hmem : q.packageId ∈ (requirementEntryOf q ((requirementsOf l).filter fun q =>
      requirementGroupKey q.groupId = key)).requiredProtocolPackages.keys := by
    rw [requirementEntryOf, collectPackages, hkeys, mem_distinct]
    exact List.mem_map_of_mem (List.mem_of_mem_head? hq)
  have hlength := List.length_pos_of_mem hmem
  rwa [JsMap.keys, List.length_map] at hlength

/-! ### Groups apart -/

/-- The groups of all service modules. -/
theorem map_groupId_requirementsOf (l : List DesiredHostState) :
    (requirementsOf l).map (·.groupId) = l.flatMap (·.requirementGroups) := List.map_flatMap

theorem requirementGroupKey_inj {l : List DesiredHostState} (h : NoShare l)
    {g g' : Option JsString} (hg : g ∈ l.flatMap (·.requirementGroups))
    (hg' : g' ∈ l.flatMap (·.requirementGroups))
    (hkey : requirementGroupKey g = requirementGroupKey g') : g = g' := by
  cases g with
  | none =>
    cases g' with
    | none => rfl
    | some id' =>
      have hid : id' = js "__default__" := hkey.symm
      exact absurd ⟨hg, hid ▸ hg'⟩ h
  | some id =>
    cases g' with
    | none =>
      have hid : id = js "__default__" := hkey
      exact absurd ⟨hg', hid ▸ hg⟩ h
    | some id' => exact congrArg some hkey

/-- **The requirements that are collected**: one for each group. -/
theorem values_collectRequirements {l : List DesiredHostState} (h : NoShare l) :
    (collectRequirements l).entries.map Prod.snd =
      (distinct (l.flatMap (·.requirementGroups))).map fun groupId =>
        ⟨groupId, collectPackages (l.flatMap fun s => s.requiresOf groupId)⟩ := by
  have hkeys : (collectRequirements l).keys =
      (distinct (l.flatMap (·.requirementGroups))).map requirementGroupKey := by
    rw [collectRequirements_eq, JsMap.keys_foldl_upsert, ← distinct_map
      fun g hg g' hg' => requirementGroupKey_inj h hg hg', ← map_groupId_requirementsOf,
      List.map_map]
    rfl
  rw [JsMap.values_eq, hkeys, List.filterMap_map, ← List.filterMap_eq_map]
  refine List.filterMap_congr fun groupId hg => ?_
  rw [mem_distinct] at hg
  -- the key tells the groups apart, for no key is shared
  have hfilter : ((requirementsOf l).filter fun q =>
      requirementGroupKey q.groupId = requirementGroupKey groupId) =
        l.flatMap fun s => s.requiresOf groupId := by
    have hsame : ((requirementsOf l).filter fun q =>
        requirementGroupKey q.groupId = requirementGroupKey groupId) =
          (requirementsOf l).filter fun q => q.groupId = groupId := by
      refine List.filter_congr fun q hq => decide_eq_decide.2 ⟨fun hkey => ?_, congrArg _⟩
      refine requirementGroupKey_inj h ?_ hg hkey
      rw [← map_groupId_requirementsOf]
      exact List.mem_map_of_mem hq
    rw [hsame, requirementsOf, List.filter_flatMap]
    rfl
  rw [Function.comp_apply, get_collectRequirements]
  simp only [hfilter]
  rw [← map_groupId_requirementsOf] at hg
  obtain ⟨q, hq, rfl⟩ := List.mem_map.1 hg
  have hne : (l.flatMap fun s => s.requiresOf q.groupId) ≠ [] := by
    rw [← hfilter]
    exact List.ne_nil_of_mem (List.mem_filter.2 ⟨hq, decide_eq_true rfl⟩)
  have hhead := List.head?_eq_some_head hne
  -- the entry takes its group from the first requirement, and all have the same
  have hgroup : ((l.flatMap fun s : DesiredHostState => s.requiresOf q.groupId).head hne).groupId =
      q.groupId := by
    obtain ⟨s, -, hs⟩ := List.mem_flatMap.1 (List.head_mem hne)
    exact of_decide_eq_true (List.mem_filter.1 hs).2
  rw [hhead, Option.map_some, requirementEntryOf, hgroup]
  rfl

/-- **The snapshot has one requirement for each group, with what its service modules require.** -/
theorem buildIngressGroupRequirements_eq (platform : PlanningPlatform)
    {l : List DesiredHostState} (h : NoShare l) : buildIngressGroupRequirements platform l =
      (requirementGroupIds platform l).map (placementRequirement platform l) := by
  have hpackages : ∀ groupId : Option JsString,
      (RequirementEntry.mk groupId
        (collectPackages (l.flatMap fun s => s.requiresOf groupId))).toRequirement platform =
          placementRequirement platform l groupId := by
    intro groupId
    unfold RequirementEntry.toRequirement
    rw [values_collectPackages]
    have hsort := List.map_insertionSort
      (fun left right => platform.precedes left right = true)
      (fun left right => platform.precedes left.packageId right.packageId = true)
      (requiredPackage l groupId) (distinct (l.flatMap fun s => s.packageIdsOf groupId))
      fun _ _ _ _ => Iff.rfl
    exact congrArg (PlacementIngressGroupRequirement.mk groupId) hsort.symm
  have hsize : ((collectRequirements l).entries.map Prod.snd).filter (fun entry =>
      decide (0 < entry.requiredProtocolPackages.size)) =
        (collectRequirements l).entries.map Prod.snd := by
    refine List.filter_eq_self.2 fun entry hentry => decide_eq_true ?_
    obtain ⟨e, he, rfl⟩ := List.mem_map.1 hentry
    exact size_of_get (JsMap.get_eq_some_iff.2 he)
  unfold buildIngressGroupRequirements requirementGroupIds
  rw [hsize, values_collectRequirements h, List.map_map, List.map_insertionSort
    (fun left right : Option JsString =>
      platform.precedes (left.getD []) (right.getD []) = true)
    (fun left right : PlacementIngressGroupRequirement =>
      platform.precedes (left.groupId.getD []) (right.groupId.getD []) = true)
    (placementRequirement platform l) _ fun _ _ _ _ => Iff.rfl]
  refine congrArg (List.insertionSort _) (List.map_congr_left fun groupId _ => ?_)
  exact hpackages groupId

/-- Each requirement lists packages that its own group requires, and each required package is listed
by the requirement of its own group. -/
structure KeepsGroupsApart (platform : PlanningPlatform) (l : List DesiredHostState) : Prop where
  own : ∀ requirement ∈ buildIngressGroupRequirements platform l,
    ∀ ref ∈ requirement.requiredProtocolPackages,
      ∃ q ∈ requirementsOf l, q.groupId = requirement.groupId ∧ q.ref = ref
  listed : ∀ q ∈ requirementsOf l, ∃ requirement ∈ buildIngressGroupRequirements platform l,
    requirement.groupId = q.groupId ∧
      q.packageId ∈ requirement.requiredProtocolPackages.map (·.packageId)

/-- A package that is listed is required by a service module of the group. -/
theorem exists_requirement_of_packageId {l : List DesiredHostState} {groupId : Option JsString}
    {packageId : JsString} (hid : packageId ∈ l.flatMap fun s => s.packageIdsOf groupId) :
    ∃ q ∈ requirementsOf l, q.groupId = groupId ∧ q.ref = requiredPackage l groupId packageId := by
  obtain ⟨s, hs, hid⟩ := List.mem_flatMap.1 hid
  obtain ⟨q, hq, rfl⟩ := List.mem_map.1 hid
  have hne : ((s.requiresOf groupId).filter fun q' => q'.packageId = q.packageId) ≠ [] :=
    List.ne_nil_of_mem (List.mem_filter.2 ⟨hq, decide_eq_true rfl⟩)
  have hsome : (l.reverse.findSome? fun s => s.digestOf groupId q.packageId).isSome = true := by
    refine List.findSome?_isSome_iff.2 ⟨s, List.mem_reverse.2 hs, ?_⟩
    rw [DesiredHostState.digestOf, Option.isSome_map]
    exact List.getLast?_isSome.2 hne
  -- the service module whose digest is listed
  obtain ⟨digest, hdigest⟩ := Option.isSome_iff_exists.1 hsome
  obtain ⟨t, ht, hlast⟩ := List.exists_of_findSome?_eq_some hdigest
  obtain ⟨q', hq', rfl⟩ := Option.map_eq_some_iff.1 hlast
  obtain ⟨hmem, hpackage⟩ := List.mem_filter.1 (List.mem_of_getLast? hq')
  obtain ⟨hmem, hgroup⟩ := List.mem_filter.1 hmem
  refine ⟨q', List.mem_flatMap.2 ⟨t, List.mem_reverse.1 ht, hmem⟩, of_decide_eq_true hgroup, ?_⟩
  rw [requiredPackage, hdigest, Requirement.ref, of_decide_eq_true hpackage]
  rfl

/-- A group that is listed has an entry of its own. -/
theorem KeepsGroupsApart.exists_entry {platform : PlanningPlatform} {l : List DesiredHostState}
    (h : KeepsGroupsApart platform l) {groupId : Option JsString}
    (hg : groupId ∈ l.flatMap (·.requirementGroups)) :
    ∃ entry, (collectRequirements l).get (requirementGroupKey groupId) = some entry ∧
      entry.groupId = groupId := by
  rw [← map_groupId_requirementsOf] at hg
  obtain ⟨q, hq, rfl⟩ := List.mem_map.1 hg
  obtain ⟨requirement, hmem, hid, -⟩ := h.listed q hq
  obtain ⟨entry, hentry, rfl⟩ := List.mem_map.1 ((List.perm_insertionSort _ _).mem_iff.1 hmem)
  obtain ⟨⟨key, entry⟩, he, rfl⟩ := List.mem_map.1 (List.mem_filter.1 hentry).1
  have hget : (collectRequirements l).get key = some entry := JsMap.get_eq_some_iff.2 he
  have hkey := groupKey_of_get hget
  have hid : entry.groupId = q.groupId := hid
  rw [hid] at hkey
  exact ⟨entry, hkey ▸ hget, hid⟩

/-- **Each group has a requirement of its own just in case of `NoShare`.** -/
theorem keepsGroupsApart_iff (platform : PlanningPlatform) (l : List DesiredHostState) :
    KeepsGroupsApart platform l ↔ NoShare l := by
  constructor
  · rintro h ⟨hnone, hdefault⟩
    -- the two groups would have the one entry under their key
    obtain ⟨entry, hget, hid⟩ := h.exists_entry hnone
    obtain ⟨entry', hget', hid'⟩ := h.exists_entry hdefault
    have hsame : some entry = some entry' := hget.symm.trans hget'
    rw [Option.some.inj hsame, hid'] at hid
    cases hid
  · intro h
    have heq := buildIngressGroupRequirements_eq platform h
    constructor
    · intro requirement hmem ref href
      rw [heq] at hmem
      obtain ⟨groupId, -, rfl⟩ := List.mem_map.1 hmem
      obtain ⟨packageId, hid, rfl⟩ := List.mem_map.1 href
      rw [sortByLocale, List.mem_insertionSort, mem_distinct] at hid
      exact exists_requirement_of_packageId hid
    · intro q hq
      have hg : q.groupId ∈ l.flatMap (·.requirementGroups) := by
        rw [← map_groupId_requirementsOf]
        exact List.mem_map_of_mem hq
      refine ⟨placementRequirement platform l q.groupId, ?_, rfl, ?_⟩
      · rw [heq, requirementGroupIds]
        refine List.mem_map_of_mem ?_
        rwa [List.mem_insertionSort, mem_distinct]
      · obtain ⟨s, hs, hreq⟩ := List.mem_flatMap.1 hq
        refine List.mem_map.2 ⟨requiredPackage l q.groupId q.packageId, List.mem_map_of_mem ?_, rfl⟩
        rw [sortByLocale, List.mem_insertionSort, mem_distinct, List.mem_flatMap]
        exact ⟨s, hs, List.mem_map_of_mem (List.mem_filter.2 ⟨hreq, decide_eq_true rfl⟩)⟩

end Hardess
