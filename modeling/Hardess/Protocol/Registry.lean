import Hardess.Lib.JsMap
import Hardess.Lib.JsString

/-!
# The protocol registry

`src/runtime/protocol/registry.ts`: hooks by the key `protocol:version:action`. `register`
stops at the first action that is taken and keeps the ones before it; `unregister` removes
every key with the prefix `protocol:version:`.

* `Holds` says that a registry has exactly the actions of some static modules and of a
  family of owned ones, no two of which can meet in a key;
* `Holds.register`, `Holds.replace` and `Holds.unregister` are its rules.
-/

namespace Hardess

variable {η : Type*}

/-- `ServerProtocolModule`: the hooks by action. -/
structure ServerProtocolModule (η : Type*) where
  protocol : JsString
  version : JsString
  actions : JsMap JsString η

/-- What the keys of a protocol version start with. -/
def keyPrefix (protocol version : JsString) : JsString :=
  protocol ++ js ":" ++ version ++ js ":"

/-- `keyOf`. -/
def keyOf (protocol version action : JsString) : JsString := keyPrefix protocol version ++ action

theorem prefix_keyOf (protocol version action : JsString) :
    keyPrefix protocol version <+: keyOf protocol version action := List.prefix_append _ _

namespace ServerProtocolModule

variable (M N : ServerProtocolModule η)

/-- The hooks that a module has at a key. -/
def hooksAt (key : JsString) : Option η :=
  if keyPrefix M.protocol M.version <+: key then
    M.actions.get (key.drop (keyPrefix M.protocol M.version).length)
  else none

/-- Can two modules meet in a key? -/
def Clash : Prop :=
  keyPrefix M.protocol M.version <+: keyPrefix N.protocol N.version ∨
    keyPrefix N.protocol N.version <+: keyPrefix M.protocol M.version

instance : Decidable (Clash M N) := inferInstanceAs (Decidable (_ ∨ _))

variable {M N}

theorem Clash.symm (h : Clash M N) : Clash N M := Or.symm h

@[simp] theorem hooksAt_keyOf (action : JsString) :
    M.hooksAt (keyOf M.protocol M.version action) = M.actions.get action := by
  simp [hooksAt, keyOf]

theorem prefix_of_hooksAt {key : JsString} {h : η} (hk : M.hooksAt key = some h) :
    keyPrefix M.protocol M.version <+: key := by
  unfold hooksAt at hk
  split_ifs at hk with hp
  exact hp

theorem hooksAt_eq_some_iff {key : JsString} {h : η} :
    M.hooksAt key = some h ↔
      ∃ action, key = keyOf M.protocol M.version action ∧ M.actions.get action = some h := by
  constructor
  · intro hk
    obtain ⟨action, rfl⟩ := prefix_of_hooksAt hk
    exact ⟨action, rfl, by rwa [← hooksAt_keyOf]⟩
  · rintro ⟨action, rfl, ha⟩
    rwa [hooksAt_keyOf]

/-- A key with the prefixes of two modules is a clash of the two. -/
theorem clash_of_prefix {key : JsString} (hM : keyPrefix M.protocol M.version <+: key)
    (hN : keyPrefix N.protocol N.version <+: key) : Clash M N :=
  List.prefix_or_prefix_of_prefix hM hN

end ServerProtocolModule

/-- `ServerProtocolRegistry`. -/
structure ServerProtocolRegistry (η : Type*) where
  actions : JsMap JsString η

namespace ServerProtocolRegistry

variable (registry : ServerProtocolRegistry η)

/-- A registry without actions. -/
def empty : ServerProtocolRegistry η := ⟨.empty⟩

/-- The loop of `register`: what it has set, and the action it throws for. -/
def registerEntries (protocol version : JsString) :
    List (JsString × η) → JsMap JsString η → JsMap JsString η × Option JsString
  | [], actions => (actions, none)
  | (action, hooks) :: entries, actions =>
    if actions.has (keyOf protocol version action) then (actions, some action)
    else registerEntries protocol version entries
      (actions.set (keyOf protocol version action) hooks)

/-- `register`. -/
def register (module : ServerProtocolModule η) : ServerProtocolRegistry η × Option JsString :=
  let r := registerEntries module.protocol module.version module.actions.entries registry.actions
  (⟨r.1⟩, r.2)

/-- The message of `PROTO_REGISTRATION_CONFLICT`. -/
def conflictMessage (module : ServerProtocolModule η) (action : JsString) : JsString :=
  js "Server protocol action already registered: " ++ module.protocol ++ js "@" ++
    module.version ++ js "/" ++ action

/-- `unregister`. -/
def unregister (protocol version : JsString) : ServerProtocolRegistry η :=
  ⟨registry.actions.filter fun key _ => !(keyPrefix protocol version).isPrefixOf key⟩

/-- `replace`. -/
def replace (module : ServerProtocolModule η) : ServerProtocolRegistry η :=
  ⟨module.actions.entries.foldl
    (fun actions e => actions.set (keyOf module.protocol module.version e.1) e.2)
    (registry.unregister module.protocol module.version).actions⟩

/-- `get`; `none` is `PROTO_UNKNOWN_ACTION`. -/
def get (protocol version action : JsString) : Option η :=
  registry.actions.get (keyOf protocol version action)

/-! ### What the operations do to a key -/

theorem get_unregister (protocol version key : JsString) :
    (registry.unregister protocol version).actions.get key =
      if keyPrefix protocol version <+: key then none else registry.actions.get key := by
  ext h
  rw [unregister, JsMap.get_filter]
  simp only [Bool.not_eq_true', ← Bool.not_eq_true, List.isPrefixOf_iff_prefix]
  split_ifs with hp <;> simp [hp]

/-- Setting the entries of a module, one after another. -/
theorem get_foldl_set (protocol version : JsString) {entries : List (JsString × η)}
    (hnodup : (entries.map Prod.fst).Nodup) (actions : JsMap JsString η) (key : JsString) (h : η) :
    (entries.foldl (fun actions e => actions.set (keyOf protocol version e.1) e.2) actions).get key
        = some h ↔
      (∃ e ∈ entries, key = keyOf protocol version e.1 ∧ e.2 = h) ∨
        ((∀ e ∈ entries, key ≠ keyOf protocol version e.1) ∧ actions.get key = some h) := by
  induction entries generalizing actions with
  | nil => simp
  | cons e entries ih =>
    rw [List.map_cons, List.nodup_cons] at hnodup
    rw [List.foldl_cons, ih hnodup.2, JsMap.get_set]
    have hnot : ∀ e' ∈ entries, keyOf protocol version e.1 ≠ keyOf protocol version e'.1 := by
      intro e' he' heq
      exact hnodup.1 (List.append_cancel_left heq ▸ List.mem_map_of_mem he')
    by_cases hkey : key = keyOf protocol version e.1
    · subst hkey
      simp only [if_true, Option.some.injEq, List.exists_mem_cons_iff, List.forall_mem_cons,
        ne_eq, not_true, false_and, or_false, true_and]
      constructor
      · rintro (⟨e', he', heq, -⟩ | ⟨-, rfl⟩)
        exacts [absurd heq (hnot e' he'), .inl rfl]
      · rintro (rfl | ⟨e', he', heq, -⟩)
        exacts [.inr ⟨hnot, rfl⟩, absurd heq (hnot e' he')]
    · simp [hkey]

theorem registerEntries_eq (protocol version : JsString) {entries : List (JsString × η)}
    (hnodup : (entries.map Prod.fst).Nodup) {actions : JsMap JsString η}
    (hfree : ∀ e ∈ entries, actions.get (keyOf protocol version e.1) = none) :
    registerEntries protocol version entries actions =
      (entries.foldl (fun actions e => actions.set (keyOf protocol version e.1) e.2) actions,
        none) := by
  induction entries generalizing actions with
  | nil => rfl
  | cons e entries ih =>
    rw [List.map_cons, List.nodup_cons] at hnodup
    rw [List.forall_mem_cons] at hfree
    have hhas : actions.has (keyOf protocol version e.1) = false := by simp [JsMap.has, hfree.1]
    rw [registerEntries, hhas]
    refine ih hnodup.2 fun e' he' => ?_
    rw [JsMap.get_set_of_ne]
    · exact hfree.2 e' he'
    · intro heq
      exact hnodup.1 (List.append_cancel_left heq ▸ List.mem_map_of_mem he')

variable {registry}

/-- A module all of whose keys are free is registered. -/
theorem register_of_free {M : ServerProtocolModule η}
    (hfree : ∀ e ∈ M.actions.entries,
      registry.actions.get (keyOf M.protocol M.version e.1) = none) :
    (registry.register M).2 = none ∧ ∀ key h, (registry.register M).1.actions.get key = some h ↔
      M.hooksAt key = some h ∨ registry.actions.get key = some h := by
  have hreg := registerEntries_eq M.protocol M.version M.actions.nodup hfree
  simp only [register, hreg, true_and]
  intro key h
  rw [get_foldl_set _ _ M.actions.nodup, ServerProtocolModule.hooksAt_eq_some_iff]
  refine or_congr ?_ ?_
  · constructor
    · rintro ⟨e, he, rfl, rfl⟩
      exact ⟨e.1, rfl, JsMap.get_eq_some_iff.2 he⟩
    · rintro ⟨action, rfl, ha⟩
      exact ⟨_, JsMap.get_eq_some_iff.1 ha, rfl, rfl⟩
  · refine ⟨And.right, fun hk => ⟨fun e he heq => ?_, hk⟩⟩
    rw [heq, hfree e he] at hk
    cases hk

/-- A registration that does not throw found all of its keys free. -/
theorem free_of_register {M : ServerProtocolModule η} (h : (registry.register M).2 = none) :
    ∀ e ∈ M.actions.entries, registry.actions.get (keyOf M.protocol M.version e.1) = none := by
  have free : ∀ (entries : List (JsString × η)) (actions : JsMap JsString η),
      (entries.map Prod.fst).Nodup →
      (registerEntries M.protocol M.version entries actions).2 = none →
      ∀ e ∈ entries, actions.get (keyOf M.protocol M.version e.1) = none := by
    intro entries
    induction entries with
    | nil => simp
    | cons e entries ih =>
      intro actions hnodup hnone
      rw [List.map_cons, List.nodup_cons] at hnodup
      rw [registerEntries] at hnone
      split_ifs at hnone with hhas
      rw [List.forall_mem_cons]
      refine ⟨by simpa [JsMap.has] using hhas, fun e' he' => ?_⟩
      have hne : keyOf M.protocol M.version e'.1 ≠ keyOf M.protocol M.version e.1 := fun heq =>
        hnodup.1 (List.append_cancel_left heq ▸ List.mem_map_of_mem he')
      rw [← JsMap.get_set_of_ne actions hne e.2]
      exact ih _ hnodup.2 hnone e' he'
  exact free _ _ M.actions.nodup h

/-- `replace` is `unregister` and then `register`, which cannot fail. -/
theorem replace_eq (M : ServerProtocolModule η) :
    registry.replace M = ((registry.unregister M.protocol M.version).register M).1 := by
  have hfree : ∀ e ∈ M.actions.entries, (registry.unregister M.protocol M.version).actions.get
      (keyOf M.protocol M.version e.1) = none := by
    intro e _
    rw [get_unregister, if_pos (prefix_keyOf _ _ _)]
  have hreg := registerEntries_eq M.protocol M.version M.actions.nodup hfree
  simp only [register, hreg, replace]

/-! ### Registries of owned modules -/

variable {ι : Type*} [DecidableEq ι] {statics : List (ServerProtocolModule η)}
  {owned : ι → Option (ServerProtocolModule η)}

/-- A registry has exactly the actions of the static modules and of the owned ones, and
these cannot meet in a key. -/
structure Holds (statics : List (ServerProtocolModule η))
    (owned : ι → Option (ServerProtocolModule η)) (registry : ServerProtocolRegistry η) : Prop where
  get_iff : ∀ key h, registry.actions.get key = some h ↔
    (∃ M ∈ statics, M.hooksAt key = some h) ∨ ∃ i M, owned i = some M ∧ M.hooksAt key = some h
  apart : ∀ i j M N, owned i = some M → owned j = some N → i ≠ j → ¬M.Clash N
  apart_static : ∀ i M, owned i = some M → ∀ N ∈ statics, ¬N.Clash M

namespace Holds

/-- A module that meets nothing is registered under a free owner. -/
theorem register (h : Holds statics owned registry) {i : ι} {M : ServerProtocolModule η}
    (hi : owned i = none) (hfree : ∀ j N, owned j = some N → ¬N.Clash M)
    (hstatic : ∀ N ∈ statics, ¬N.Clash M) :
    (registry.register M).2 = none ∧
      Holds statics (Function.update owned i (some M)) (registry.register M).1 := by
  -- a key that is taken would belong to a module that clashes
  have hkeys : ∀ key, keyPrefix M.protocol M.version <+: key → registry.actions.get key = none := by
    intro key hkey
    rw [Option.eq_none_iff_forall_ne_some]
    intro hooks hget
    obtain ⟨N, hN, hat⟩ | ⟨j, N, hN, hat⟩ := (h.get_iff key hooks).1 hget
    · exact hstatic N hN (ServerProtocolModule.clash_of_prefix
        (ServerProtocolModule.prefix_of_hooksAt hat) hkey)
    · exact hfree j N hN (ServerProtocolModule.clash_of_prefix
        (ServerProtocolModule.prefix_of_hooksAt hat) hkey)
  obtain ⟨hok, hget⟩ := register_of_free fun e _ => hkeys _ (prefix_keyOf _ _ e.1)
  refine ⟨hok, ⟨fun key hooks => ?_, ?_, ?_⟩⟩
  · rw [hget, h.get_iff]
    constructor
    · rintro (hM | hN | ⟨j, N, hN, hat⟩)
      · exact .inr ⟨i, M, by simp, hM⟩
      · exact .inl hN
      · have hj : j ≠ i := by
          rintro rfl
          rw [hi] at hN
          cases hN
        exact .inr ⟨j, N, by simpa [hj] using hN, hat⟩
    · rintro (hN | ⟨j, N, hN, hat⟩)
      · exact .inr (.inl hN)
      · by_cases hj : j = i
        · subst hj
          obtain rfl : M = N := by simpa using hN
          exact .inl hat
        · exact .inr (.inr ⟨j, N, by simpa [hj] using hN, hat⟩)
  · intro j k N P hN hP hne
    by_cases hj : j = i
    · subst hj
      obtain rfl : M = N := by simpa using hN
      rw [Function.update_of_ne (Ne.symm hne)] at hP
      exact fun hc => hfree k P hP hc.symm
    · rw [Function.update_of_ne hj] at hN
      -- one of the two may be the new module, which clashes with none
      by_cases hk : k = i
      · subst hk
        obtain rfl : M = P := by simpa using hP
        exact hfree j N hN
      · rw [Function.update_of_ne hk] at hP
        exact h.apart j k N P hN hP hne
  · intro j N hN
    by_cases hj : j = i
    · subst hj
      obtain rfl : M = N := by simpa using hN
      exact hstatic
    · rw [Function.update_of_ne hj] at hN
      exact h.apart_static j N hN

/-- Unregistering the protocol version of an owner takes its module, and no other. -/
theorem unregister (h : Holds statics owned registry) {i : ι} {M : ServerProtocolModule η}
    (hi : owned i = some M) :
    Holds statics (Function.update owned i none) (registry.unregister M.protocol M.version) := by
  refine ⟨fun key hooks => ?_, ?_, ?_⟩
  · rw [get_unregister]
    constructor
    · intro hget
      split_ifs at hget with hkey
      obtain hN | ⟨j, N, hN, hat⟩ := (h.get_iff key hooks).1 hget
      · exact .inl hN
      · -- the key would start with the prefix that is taken away
        have hj : j ≠ i := by
          rintro rfl
          obtain rfl : M = N := by simpa [hi] using hN
          exact hkey (ServerProtocolModule.prefix_of_hooksAt hat)
        exact .inr ⟨j, N, by simpa [hj] using hN, hat⟩
    · rintro (⟨N, hN, hat⟩ | ⟨j, N, hN, hat⟩)
      · rw [if_neg fun hkey => h.apart_static i M hi N hN (ServerProtocolModule.clash_of_prefix
          (ServerProtocolModule.prefix_of_hooksAt hat) hkey)]
        exact (h.get_iff key hooks).2 (.inl ⟨N, hN, hat⟩)
      · by_cases hj : j = i
        · simp [hj] at hN
        · rw [Function.update_of_ne hj] at hN
          rw [if_neg fun hkey => h.apart j i N M hN hi hj (ServerProtocolModule.clash_of_prefix
            (ServerProtocolModule.prefix_of_hooksAt hat) hkey)]
          exact (h.get_iff key hooks).2 (.inr ⟨j, N, hN, hat⟩)
  · intro j k N P hN hP hne
    by_cases hj : j = i
    · simp [hj] at hN
    · by_cases hk : k = i
      · simp [hk] at hP
      · rw [Function.update_of_ne hj] at hN
        rw [Function.update_of_ne hk] at hP
        exact h.apart j k N P hN hP hne
  · intro j N hN
    by_cases hj : j = i
    · simp [hj] at hN
    · rw [Function.update_of_ne hj] at hN
      exact h.apart_static j N hN

/-- Replacing the module of an owner by another one of the same protocol version. -/
theorem replace (h : Holds statics owned registry) {i : ι} {M₀ M : ServerProtocolModule η}
    (hi : owned i = some M₀) (hp : M.protocol = M₀.protocol) (hv : M.version = M₀.version) :
    Holds statics (Function.update owned i (some M)) (registry.replace M) := by
  have hclash : ∀ N : ServerProtocolModule η, N.Clash M ↔ N.Clash M₀ := by
    intro N
    simp only [ServerProtocolModule.Clash, hp, hv]
  have hgone := h.unregister hi
  rw [← hp, ← hv] at hgone
  have := hgone.register (i := i) (M := M) (by simp) (fun j N hN => ?_) fun N hN => ?_
  · rw [replace_eq]
    simpa using this.2
  · by_cases hj : j = i
    · simp [hj] at hN
    · rw [Function.update_of_ne hj] at hN
      rw [hclash]
      exact h.apart j i N M₀ hN hi hj
  · rw [hclash]
    exact h.apart_static i M₀ hi N hN

end Holds

/-- Registering modules one after another, as at the start of an application; the flag says
that none of them conflicted. -/
def registerAll (registry : ServerProtocolRegistry η) (modules : List (ServerProtocolModule η)) :
    ServerProtocolRegistry η × Bool :=
  modules.foldl (fun r M => ((r.1.register M).1, r.2 && (r.1.register M).2.isNone)) (registry, true)

omit [DecidableEq ι] in
theorem holds_registerAll {modules : List (ServerProtocolModule η)}
    (hok : (registerAll empty modules).2) :
    Holds modules (fun _ : ι => none) (registerAll empty modules).1 := by
  refine ⟨?_, fun i j M N h => by simp at h, fun i M h => by simp at h⟩
  simp only [reduceCtorEq, false_and, exists_false, or_false]
  -- the flag of a longer list is the flag of every shorter one
  induction modules using List.reverseRecOn with
  | nil => simp [registerAll, empty]
  | append_singleton modules M ih =>
    rw [registerAll, List.foldl_append, List.foldl_cons, List.foldl_nil, ← registerAll] at hok ⊢
    simp only [Bool.and_eq_true, Option.isNone_iff_eq_none] at hok
    intro key h
    rw [(register_of_free (free_of_register hok.2)).2, ih hok.1]
    simp [or_and_right, exists_or, or_comm]

end ServerProtocolRegistry

end Hardess
