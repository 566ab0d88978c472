import Hardess.Control.Reconciliation
import Hardess.Lib.Utf8

/-!
# The identity of protocol packages

`src/shared/service-module-protocol-package.ts`, and `validateBoundProtocolPackage` of
`src/runtime/control/service-module-manager.ts` with the digest that is computed there: the hash of
the bytes of the normalised package as JSON.

* `computeServiceModuleProtocolPackageDigest`; SHA-256 is a parameter that is one to one;
* `computeDigest_eq_iff`: what two packages with one digest share;
* `validateBoundProtocolPackage_ok_iff`: which modules are accepted;
* **`protocolPackageIdentity`**: both, and that the order of the actions does not matter.
-/

namespace Hardess

variable {η : Type}

/-! ### The digest -/

/-- A normalised package as JSON. -/
def protocolPackageJson (packageId protocol version : JsString) (actions : List JsString) : Json :=
  .obj [(js "packageId", .str packageId), (js "protocol", .str protocol),
    (js "version", .str version), (js "actions", .arr (actions.map .str))]

/-- The digest of a normalised package; the hash is `createHash("sha256")` of bytes with
`digest("hex")`. -/
def packageDigest (sha256 : List UInt8 → JsString) (packageId protocol version : JsString)
    (actions : List JsString) : JsString :=
  js "sha256:" ++
    sha256 (JsString.utf8 (protocolPackageJson packageId protocol version actions).stringify)

/-- `computeServiceModuleProtocolPackageDigest`. -/
def computeServiceModuleProtocolPackageDigest (sha256 : List UInt8 → JsString)
    (input : ServiceModuleProtocolPackage) : JsString :=
  packageDigest sha256 input.packageId input.protocol input.version (sortStrings input.actions)

/-! ### Sorting -/

/-- `sort` has the elements in the order of their code units. -/
theorem pairwise_sortStrings (xs : List JsString) : (sortStrings xs).Pairwise (· ≤ ·) := by
  have htrans : ∀ a b c : JsString, !decide (b < a) → !decide (c < b) → !decide (c < a) := by
    intro a b c hab hbc
    simp only [Bool.not_eq_true', decide_eq_false_iff_not] at hab hbc ⊢
    exact List.le_trans hab hbc
  have htotal : ∀ a b : JsString, !decide (b < a) || !decide (a < b) := by
    intro a b
    simp only [Bool.or_eq_true, Bool.not_eq_true', decide_eq_false_iff_not]
    exact List.le_total a b
  refine (List.pairwise_mergeSort htrans htotal xs).imp fun {a b} hab => ?_
  rw [Bool.not_eq_true', decide_eq_false_iff_not] at hab
  exact hab

/-- Two lists are sorted alike exactly if they have the same elements as often. -/
theorem sortStrings_eq_iff {xs ys : List JsString} :
    sortStrings xs = sortStrings ys ↔ xs.Perm ys := by
  have hxs : (sortStrings xs).Perm xs := List.mergeSort_perm xs _
  have hys : (sortStrings ys).Perm ys := List.mergeSort_perm ys _
  constructor
  · intro h
    exact hxs.symm.trans (h ▸ hys)
  · intro h
    refine (hxs.trans (h.trans hys.symm)).eq_of_pairwise (fun a b _ _ hab hba => ?_)
      (pairwise_sortStrings xs) (pairwise_sortStrings ys)
    exact List.le_antisymm hab hba

/-! ### The text of a package -/

/-- The text of a package has no lone surrogates. -/
theorem wellFormed_protocolPackageJson (packageId protocol version : JsString)
    (actions : List JsString) :
    JsString.WellFormed (protocolPackageJson packageId protocol version actions).stringify := by
  have hunit : ∀ c, (unit c).toNat < 0x80 → JsString.WellFormed [unit c] := fun c hc =>
    JsString.wellFormed_of_ascii fun u hu => List.mem_singleton.1 hu ▸ hc
  have hmember : ∀ (k : JsString) (v : Json), JsString.WellFormed v.stringify →
      JsString.WellFormed (Json.quote k ++ ([unit ':'] ++ v.stringify)) := fun k v hv =>
    (Json.wellFormed_quote k).append ((hunit ':' (by decide)).append hv)
  have hcomma := hunit ',' (by decide)
  have hopen := hunit '\x7b' (by decide)
  have hclose := hunit '\x7d' (by decide)
  have hid := hmember (js "packageId") (.str packageId) (Json.wellFormed_quote packageId)
  have hprotocol := hmember (js "protocol") (.str protocol) (Json.wellFormed_quote protocol)
  have hversion := hmember (js "version") (.str version) (Json.wellFormed_quote version)
  have hactions := hmember (js "actions") _ (Json.wellFormed_stringify_strings actions)
  have htext := hopen.append (hid.append (hcomma.append (hprotocol.append (hcomma.append
    (hversion.append (hcomma.append (hactions.append hclose)))))))
  simpa only [protocolPackageJson, Json.stringify, Json.stringify.membersTail, List.append_assoc,
    List.cons_append, List.nil_append] using htext

theorem wf_protocolPackageJson (packageId protocol version : JsString) (actions : List JsString) :
    (protocolPackageJson packageId protocol version actions).WF := by
  have hactions : ∀ v ∈ actions.map Json.str, v.WF := by
    intro v hv
    obtain ⟨a, -, rfl⟩ := List.mem_map.1 hv
    trivial
  have hkeys : [js "packageId", js "protocol", js "version", js "actions"].Nodup := by decide
  exact ⟨hkeys, trivial, trivial, trivial, (Json.WF.elems_iff _).2 hactions, trivial⟩

theorem allFinite_protocolPackageJson (packageId protocol version : JsString)
    (actions : List JsString) :
    (protocolPackageJson packageId protocol version actions).AllFinite := by
  have hactions : ∀ v ∈ actions.map Json.str, v.AllFinite := by
    intro v hv
    obtain ⟨a, -, rfl⟩ := List.mem_map.1 hv
    trivial
  exact ⟨trivial, trivial, trivial, (Json.AllFinite.elems_iff _).2 hactions, trivial⟩

/-- The package is read back from its text. -/
theorem parse_protocolPackageJson (packageId protocol version : JsString)
    (actions : List JsString) :
    Json.parse (protocolPackageJson packageId protocol version actions).stringify =
      some (protocolPackageJson packageId protocol version actions) := by
  rw [Json.parse_stringify (wf_protocolPackageJson packageId protocol version actions),
    (Json.finitePart_eq_self _).2 (allFinite_protocolPackageJson packageId protocol version
      actions)]

/-- The digest tells normalised packages apart. -/
theorem packageDigest_eq_iff {sha256 : List UInt8 → JsString} (hsha : Function.Injective sha256)
    {packageId protocol version packageId' protocol' version' : JsString}
    {actions actions' : List JsString} :
    packageDigest sha256 packageId protocol version actions =
        packageDigest sha256 packageId' protocol' version' actions' ↔
      packageId = packageId' ∧ protocol = protocol' ∧ version = version' ∧ actions = actions' := by
  constructor
  · intro h
    have hbytes := hsha (List.append_cancel_left h)
    have htext := JsString.utf8_injOn
      (wellFormed_protocolPackageJson packageId protocol version actions)
      (wellFormed_protocolPackageJson packageId' protocol' version' actions') hbytes
    have hjson := congrArg Json.parse htext
    rw [parse_protocolPackageJson, parse_protocolPackageJson, Option.some.injEq] at hjson
    simp only [protocolPackageJson, Json.obj.injEq, List.cons.injEq, Prod.mk.injEq, Json.str.injEq,
      Json.arr.injEq, true_and, and_true] at hjson
    obtain ⟨hid, hprotocol, hversion, hactions⟩ := hjson
    exact ⟨hid, hprotocol, hversion, List.map_injective_iff.2 (fun _ _ => Json.str.inj) hactions⟩
  · rintro ⟨rfl, rfl, rfl, rfl⟩
    rfl

/-- **The digest of a package** is that of its id, its protocol, its version and its actions in any
order. -/
theorem computeDigest_eq_iff {sha256 : List UInt8 → JsString} (hsha : Function.Injective sha256)
    {p q : ServiceModuleProtocolPackage} :
    computeServiceModuleProtocolPackageDigest sha256 p =
        computeServiceModuleProtocolPackageDigest sha256 q ↔
      p.packageId = q.packageId ∧ p.protocol = q.protocol ∧ p.version = q.version ∧
        p.actions.Perm q.actions := by
  rw [computeServiceModuleProtocolPackageDigest, computeServiceModuleProtocolPackageDigest,
    packageDigest_eq_iff hsha, sortStrings_eq_iff]

/-! ### Acceptance -/

theorem verifyDigest_ok_iff {sha256 : List UInt8 → JsString}
    {input : ServiceModuleProtocolPackage} :
    verifyServiceModuleProtocolPackageDigest (packageDigest sha256) input = .ok () ↔
      input.packageId = input.protocol ++ js "@" ++ input.version ∧
        input.digest = computeServiceModuleProtocolPackageDigest sha256 input := by
  rw [verifyServiceModuleProtocolPackageDigest, buildServiceModuleProtocolPackageId,
    computeServiceModuleProtocolPackageDigest]
  split_ifs <;> simp_all

/-- A list is sorted as one without repetitions exactly if it has the same elements and no
repetitions. -/
theorem sortStrings_eq_iff_of_nodup {xs ys : List JsString} (hys : ys.Nodup) :
    sortStrings xs = sortStrings ys ↔ xs.Nodup ∧ ∀ name, name ∈ xs ↔ name ∈ ys := by
  rw [sortStrings_eq_iff]
  constructor
  · intro h
    exact ⟨h.nodup_iff.2 hys, fun name => h.mem_iff⟩
  · rintro ⟨hxs, hmem⟩
    exact (List.perm_ext_iff_of_nodup hxs hys).2 hmem

/-- The module is the implementation of the package of the assignment. -/
structure MatchesPackage (sha256 : List UInt8 → JsString)
    (protocolPackage : ServiceModuleProtocolPackage) (serviceModule : HardessServiceModule η) :
    Prop where
  packageId : protocolPackage.packageId =
    protocolPackage.protocol ++ js "@" ++ protocolPackage.version
  digest : protocolPackage.digest =
    computeServiceModuleProtocolPackageDigest sha256 protocolPackage
  protocol : serviceModule.protocol = protocolPackage.protocol
  version : serviceModule.version = protocolPackage.version
  nodup : protocolPackage.actions.Nodup
  actions : ∀ name, name ∈ protocolPackage.actions ↔ name ∈ serviceModule.actions.keys

/-- **What is accepted** for an assignment. -/
theorem validateBoundProtocolPackage_ok_iff {sha256 : List UInt8 → JsString}
    {assignment : Assignment} {serviceModule : HardessServiceModule η}
    {protocolPackage : ServiceModuleProtocolPackage} :
    validateBoundProtocolPackage (packageDigest sha256) assignment serviceModule =
        .ok protocolPackage ↔
      assignment.serviceModule.map (·.protocolPackage) = some protocolPackage ∧
        MatchesPackage sha256 protocolPackage serviceModule := by
  rw [validateBoundProtocolPackage]
  rcases assignment.serviceModule with _ | payload
  · simp
  obtain ⟨entry, p⟩ := payload
  simp only [Option.map_some, Option.some.injEq]
  have hkeys : serviceModule.actions.keys.Nodup := serviceModule.actions.nodup
  -- the digest is verified before the name and the actions are compared
  cases hverify : verifyServiceModuleProtocolPackageDigest (packageDigest sha256) p with
  | error message =>
    constructor
    · intro h
      exact nomatch h
    · rintro ⟨rfl, hmatch⟩
      rw [verifyDigest_ok_iff.2 ⟨hmatch.packageId, hmatch.digest⟩] at hverify
      exact nomatch hverify
  | ok _ =>
    obtain ⟨hid, hdigest⟩ := verifyDigest_ok_iff.1 hverify
    simp only [bind, Except.bind]
    split_ifs with hname hactions
    · refine ⟨nofun, ?_⟩
      rintro ⟨rfl, hmatch⟩
      exact absurd hname (not_or.2 ⟨not_not.2 hmatch.protocol, not_not.2 hmatch.version⟩)
    · refine ⟨nofun, ?_⟩
      rintro ⟨rfl, hmatch⟩
      exact absurd ((sortStrings_eq_iff_of_nodup hkeys).2 ⟨hmatch.nodup, hmatch.actions⟩) hactions
    · rw [not_or, not_not, not_not] at hname
      obtain ⟨hnodup, hmem⟩ := (sortStrings_eq_iff_of_nodup hkeys).1 (not_not.1 hactions)
      constructor
      · intro h
        obtain rfl := Except.ok.inj h
        exact ⟨rfl, hid, hdigest, hname.1, hname.2, hnodup, hmem⟩
      · rintro ⟨rfl, -⟩
        rfl

/-- The module is accepted for the assignment. -/
def AcceptsModule (sha256 : List UInt8 → JsString) (assignment : Assignment)
    (serviceModule : HardessServiceModule η) : Prop :=
  ∃ protocolPackage,
    validateBoundProtocolPackage (packageDigest sha256) assignment serviceModule =
      .ok protocolPackage

theorem acceptsModule_iff {sha256 : List UInt8 → JsString} {assignment : Assignment}
    {serviceModule : HardessServiceModule η} :
    AcceptsModule sha256 assignment serviceModule ↔
      ∃ payload, assignment.serviceModule = some payload ∧
        MatchesPackage sha256 payload.protocolPackage serviceModule := by
  simp only [AcceptsModule, validateBoundProtocolPackage_ok_iff, Option.map_eq_some_iff]
  constructor
  · rintro ⟨_, ⟨payload, hpayload, rfl⟩, hmatch⟩
    exact ⟨payload, hpayload, hmatch⟩
  · rintro ⟨payload, hpayload, hmatch⟩
    exact ⟨_, ⟨payload, hpayload, rfl⟩, hmatch⟩

theorem acceptsModule_iff_of_some {sha256 : List UInt8 → JsString} {assignment : Assignment}
    {payload : ServiceModuleAssignment} (hpayload : assignment.serviceModule = some payload)
    (serviceModule : HardessServiceModule η) :
    AcceptsModule sha256 assignment serviceModule ↔
      MatchesPackage sha256 payload.protocolPackage serviceModule := by
  rw [acceptsModule_iff]
  constructor
  · rintro ⟨payload', hpayload', hmatch⟩
    rw [hpayload, Option.some.injEq] at hpayload'
    exact hpayload' ▸ hmatch
  · intro hmatch
    exact ⟨payload, hpayload, hmatch⟩

/-- The package with its actions written as another list. -/
def ServiceModuleAssignment.withActions (payload : ServiceModuleAssignment)
    (actions : List JsString) : ServiceModuleAssignment :=
  { payload with protocolPackage := { payload.protocolPackage with actions } }

theorem MatchesPackage.of_perm {sha256 : List UInt8 → JsString}
    {p p' : ServiceModuleProtocolPackage} {serviceModule serviceModule' : HardessServiceModule η}
    (h : MatchesPackage sha256 p serviceModule) (hid : p'.packageId = p.packageId)
    (hprotocol : p'.protocol = p.protocol) (hversion : p'.version = p.version)
    (hdigest : p'.digest = p.digest) (hactions : p'.actions.Perm p.actions)
    (hmodule : serviceModule'.protocol = serviceModule.protocol)
    (hmoduleVersion : serviceModule'.version = serviceModule.version)
    (hkeys : serviceModule'.actions.keys.Perm serviceModule.actions.keys) :
    MatchesPackage sha256 p' serviceModule' where
  packageId := by rw [hid, hprotocol, hversion, h.packageId]
  digest := by
    rw [hdigest, h.digest, computeServiceModuleProtocolPackageDigest,
      computeServiceModuleProtocolPackageDigest, hid, hprotocol, hversion,
      sortStrings_eq_iff.2 hactions]
  protocol := by rw [hmodule, hprotocol, h.protocol]
  version := by rw [hmoduleVersion, hversion, h.version]
  nodup := hactions.nodup_iff.2 h.nodup
  actions name := by rw [hactions.mem_iff, hkeys.mem_iff, h.actions]

/-- **The identity of protocol packages.** -/
theorem protocolPackageIdentity {sha256 : List UInt8 → JsString}
    (hsha : Function.Injective sha256) :
    (∀ p q : ServiceModuleProtocolPackage,
      computeServiceModuleProtocolPackageDigest sha256 p =
          computeServiceModuleProtocolPackageDigest sha256 q ↔
        p.packageId = q.packageId ∧ p.protocol = q.protocol ∧ p.version = q.version ∧
          (p.actions : Multiset JsString) = q.actions) ∧
    (∀ (assignment : Assignment) (serviceModule : HardessServiceModule η),
      AcceptsModule sha256 assignment serviceModule ↔
        ∃ payload, assignment.serviceModule = some payload ∧
          MatchesPackage sha256 payload.protocolPackage serviceModule) ∧
    ∀ (assignment : Assignment) (payload : ServiceModuleAssignment) (actions : List JsString)
      (serviceModule serviceModule' : HardessServiceModule η),
      assignment.serviceModule = some payload → actions.Perm payload.protocolPackage.actions →
      serviceModule'.protocol = serviceModule.protocol →
      serviceModule'.version = serviceModule.version →
      serviceModule'.actions.keys.Perm serviceModule.actions.keys →
      (AcceptsModule sha256
          { assignment with serviceModule := some (payload.withActions actions) } serviceModule' ↔
        AcceptsModule sha256 assignment serviceModule) := by
  refine ⟨fun p q => ?_, fun _ _ => acceptsModule_iff, ?_⟩
  · rw [computeDigest_eq_iff hsha, Multiset.coe_eq_coe]
  intro assignment payload actions serviceModule serviceModule' hpayload hactions hprotocol
    hversion hkeys
  rw [acceptsModule_iff_of_some hpayload, acceptsModule_iff_of_some rfl]
  constructor
  · intro hmatch
    exact hmatch.of_perm rfl rfl rfl rfl hactions.symm hprotocol.symm hversion.symm hkeys.symm
  · intro hmatch
    exact hmatch.of_perm rfl rfl rfl rfl hactions hprotocol hversion hkeys

/-- The package `chat@1.0` with two actions. -/
def chatPackage (actions : List JsString) : ServiceModuleProtocolPackage where
  packageId := js "chat@1.0"
  protocol := js "chat"
  version := js "1.0"
  actions
  digest := js "sha256:eecb029eecd72040ec5e28a265bf012040939c47fa75ea9435e56c5844c71610"

/-- The bytes that are hashed for the package. -/
def chatBytes : List UInt8 :=
  JsString.utf8 (protocolPackageJson (js "chat@1.0") (js "chat") (js "1.0")
    [js "list", js "send"]).stringify

/-- The hash of the bytes of the package; other bytes are given as they are. -/
def chatSha256 (bytes : List UInt8) : JsString :=
  if bytes = chatBytes then js "eecb029eecd72040ec5e28a265bf012040939c47fa75ea9435e56c5844c71610"
  else unit 'x' :: bytes.map fun b => UInt16.ofNat b.toNat

theorem chatSha256_chatBytes : chatSha256 chatBytes =
    js "eecb029eecd72040ec5e28a265bf012040939c47fa75ea9435e56c5844c71610" := if_pos rfl

theorem chatSha256_injective : Function.Injective chatSha256 := by
  have hunit : Function.Injective fun b : UInt8 => UInt16.ofNat b.toNat := by
    intro b b' h
    have hlt : ∀ b : UInt8, b.toNat < UInt16.size := fun b => b.toNat_lt.trans (by decide)
    have hnat := congrArg UInt16.toNat h
    rw [UInt16.toNat_ofNat_of_lt' (hlt b), UInt16.toNat_ofNat_of_lt' (hlt b')] at hnat
    exact UInt8.toNat.inj hnat
  have hhead : (js "eecb029eecd72040ec5e28a265bf012040939c47fa75ea9435e56c5844c71610").head? =
      some (unit 'e') := by decide
  have hne (units : List UInt16) :
      js "eecb029eecd72040ec5e28a265bf012040939c47fa75ea9435e56c5844c71610" ≠
        unit 'x' :: units := by
    intro heq
    rw [heq, List.head?_cons] at hhead
    exact absurd hhead (by decide)
  intro bytes bytes' h
  unfold chatSha256 at h
  split_ifs at h with hbytes hbytes' hbytes'
  · rw [hbytes, hbytes']
  · exact absurd h (hne _)
  · exact absurd h.symm (hne _)
  · exact List.map_injective_iff.2 hunit (List.cons.inj h).2

/-- The assignment of the package, with its actions in some order. -/
def chatAssignment (actions : List JsString) : Assignment where
  assignmentId := js "a"
  hostId := js "h"
  deploymentId := js "d"
  deploymentKind := .serviceModule
  declaredVersion := js "1"
  artifact := { manifestId := js "m", sourceUri := js "file:///m" }
  serviceModule := some { entry := js "index.ts", protocolPackage := chatPackage actions }

/-- A module with the actions of the package. -/
def chatModule : HardessServiceModule Unit where
  protocol := js "chat"
  version := js "1.0"
  actions := ⟨[(js "send", ()), (js "list", ())], by decide⟩

theorem protocolPackageIdentity_chat :
    AcceptsModule chatSha256 (chatAssignment [js "send", js "list"]) chatModule ∧
      computeServiceModuleProtocolPackageDigest chatSha256
          (chatPackage [js "send", js "list"]) =
        computeServiceModuleProtocolPackageDigest chatSha256
          (chatPackage [js "list", js "send"]) := by
  have hsorted : sortStrings [js "list", js "send"] = [js "list", js "send"] :=
    List.mergeSort_of_pairwise (by decide)
  have hswap : sortStrings [js "send", js "list"] = [js "list", js "send"] :=
    (sortStrings_eq_iff.2 (List.Perm.swap _ _ _)).trans hsorted
  have hdigest : (chatPackage [js "send", js "list"]).digest =
      computeServiceModuleProtocolPackageDigest chatSha256
        (chatPackage [js "send", js "list"]) := by
    have hbytes : computeServiceModuleProtocolPackageDigest chatSha256
        (chatPackage [js "send", js "list"]) = js "sha256:" ++ chatSha256 chatBytes := by
      rw [computeServiceModuleProtocolPackageDigest, chatPackage, hswap]
      rfl
    rw [hbytes, chatSha256_chatBytes]
    decide
  have hidentity := protocolPackageIdentity (η := Unit) chatSha256_injective
  refine ⟨(hidentity.2.1 _ chatModule).2 ⟨_, rfl, ?_⟩, (hidentity.1 _ _).2 ?_⟩
  · exact ⟨by decide, hdigest, rfl, rfl, by decide, by simp [chatPackage, chatModule, JsMap.keys]⟩
  · exact ⟨rfl, rfl, rfl, Multiset.coe_eq_coe.2 (List.Perm.swap _ _ _)⟩

end Hardess
