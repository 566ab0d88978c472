import Hardess.Lib.JoinedKey
import Hardess.Lib.Machine
import Hardess.Protocol.Registry

/-!
# The protocol registry as a map

What the registry of `src/runtime/protocol/registry.ts` is for is a map from the names of an action
to its hooks. The registry joins the names to a key, and `register` throws in the middle of its
loop.

* `keyOf_inj` and `exists_keyOf_eq`: names without colons are the only ones of their key, and no
  others are;
* `ProtocolMap`: the map, in which a `register` that throws changes nothing;
* `ComparedRegistry`: the registry and the map side by side;
* `agrees_step_iff`: a call keeps them together exactly when it is `Faithful`;
* **`agrees_iff_faithful`**: the same of every run.
-/

namespace Hardess

variable {η : Type*}

/-! ### The keys -/

theorem keyOf_eq (protocol version action : JsString) : keyOf protocol version action =
    [unit ':'].intercalate [protocol, version, action] := by
  have hcolon : js ":" = [unit ':'] := by decide
  simp [keyOf, keyPrefix, hcolon, List.intercalate_cons_cons]

/-- No name of an action contains a colon. -/
def PlainNames (protocol version action : JsString) : Prop :=
  ∀ name ∈ [protocol, version, action], unit ':' ∉ name

variable {protocol version action protocol' version' action' : JsString}

/-- Names without colons are the only ones of their key. -/
theorem keyOf_inj (h : PlainNames protocol version action)
    (heq : keyOf protocol' version' action' = keyOf protocol version action) :
    protocol' = protocol ∧ version' = version ∧ action' = action := by
  rw [keyOf_eq, keyOf_eq] at heq
  have hnames : [protocol', version', action'] = [protocol, version, action] :=
    JoinedKey.eq_of_intercalate_eq rfl h heq
  simpa using hnames

/-- Names with a colon share their key with an action of another protocol version. -/
theorem exists_keyOf_eq (h : ¬PlainNames protocol version action) :
    ∃ protocol' version' action', keyOf protocol' version' action' =
      keyOf protocol version action ∧ ¬(protocol' = protocol ∧ version' = version) := by
  have hcolon : ∃ name ∈ [protocol, version, action], unit ':' ∈ name := by
    simpa only [PlainNames, not_forall, exists_prop, not_not] using h
  have hlen : 2 ≤ [protocol, version, action].length := by simp
  obtain ⟨names, hnames, hne, heq⟩ := JoinedKey.exists_intercalate_eq hlen hcolon
  obtain ⟨protocol', version', action', rfl⟩ := List.length_eq_three.1 hnames
  rw [← keyOf_eq, ← keyOf_eq] at heq
  refine ⟨protocol', version', action', heq, ?_⟩
  -- of the same protocol version it would be the same action
  rintro ⟨rfl, rfl⟩
  obtain rfl := List.append_cancel_left heq
  exact hne rfl

/-! ### The map -/

/-- The hooks of the actions by protocol, version and name. -/
abbrev ProtocolMap (η : Type*) := JsString → JsString → JsString → Option η

namespace ProtocolMap

variable (map : ProtocolMap η)

/-- The actions of a module are added. -/
def add (M : ServerProtocolModule η) : ProtocolMap η := fun protocol version action =>
  if protocol = M.protocol ∧ version = M.version then
    (M.actions.get action).or (map protocol version action)
  else map protocol version action

/-- A protocol version is dropped. -/
def unregister (protocol version : JsString) : ProtocolMap η := fun protocol' version' action =>
  if protocol' = protocol ∧ version' = version then none else map protocol' version' action

/-- A module is registered, unless one of its actions is there. -/
def register (M : ServerProtocolModule η) : ProtocolMap η :=
  if ∃ e ∈ M.actions.entries, (map M.protocol M.version e.1).isSome = true then map else map.add M

/-- A module takes the place of its protocol version. -/
def replace (M : ServerProtocolModule η) : ProtocolMap η :=
  (map.unregister M.protocol M.version).add M

end ProtocolMap

/-- The calls by which a registry changes. -/
inductive RegistryCall (η : Type*)
  | register (M : ServerProtocolModule η)
  | replace (M : ServerProtocolModule η)
  | unregister (protocol version : JsString)

/-- One call of the registry. -/
def ServerProtocolRegistry.step (registry : ServerProtocolRegistry η) :
    RegistryCall η → ServerProtocolRegistry η
  | .register M => (registry.register M).1
  | .replace M => registry.replace M
  | .unregister protocol version => registry.unregister protocol version

/-- One call of the map. -/
def ProtocolMap.step (map : ProtocolMap η) : RegistryCall η → ProtocolMap η
  | .register M => map.register M
  | .replace M => map.replace M
  | .unregister protocol version => map.unregister protocol version

/-- `get` gives what the map has. -/
def ServerProtocolRegistry.Agrees (registry : ServerProtocolRegistry η) (map : ProtocolMap η) :
    Prop :=
  ∀ protocol version action, registry.get protocol version action = map protocol version action

/-- The registry and the map that it stands for. -/
structure ComparedRegistry (η : Type*) where
  registry : ServerProtocolRegistry η
  map : ProtocolMap η

namespace ComparedRegistry

/-- Nothing is registered. -/
def start : ComparedRegistry η := ⟨.empty, fun _ _ _ => none⟩

/-- One call, of both. -/
def step (s : ComparedRegistry η) (c : RegistryCall η) : ComparedRegistry η :=
  ⟨s.registry.step c, s.map.step c⟩

end ComparedRegistry

/-! ### The condition -/

/-- Every action of the module has names without colons. -/
def ServerProtocolModule.Plain (M : ServerProtocolModule η) : Prop :=
  ∀ e ∈ M.actions.entries, PlainNames M.protocol M.version e.1

/-- The call brings no name with a colon in, and a registration that throws does so for its first
action. -/
def ServerProtocolRegistry.Faithful (registry : ServerProtocolRegistry η) : RegistryCall η → Prop
  | .register M =>
    (∃ e, M.actions.entries.head? = some e ∧
      registry.actions.has (keyOf M.protocol M.version e.1) = true) ∨
    ((∀ e ∈ M.actions.entries, registry.actions.has (keyOf M.protocol M.version e.1) = false) ∧
      M.Plain)
  | .replace M => M.Plain
  | .unregister _ _ => True

/-! ### One call -/

namespace ServerProtocolRegistry

variable {registry registry' : ServerProtocolRegistry η} {map : ProtocolMap η}
  {M : ServerProtocolModule η}

/-- Only actions whose names have no colon are registered. -/
def PlainKeys (registry : ServerProtocolRegistry η) : Prop :=
  ∀ key h, registry.actions.get key = some h →
    ∃ protocol version action, PlainNames protocol version action ∧
      key = keyOf protocol version action

theorem PlainKeys.unregister (h : registry.PlainKeys) (protocol version : JsString) :
    (registry.unregister protocol version).PlainKeys := by
  intro key hooks hget
  rw [get_unregister] at hget
  split_ifs at hget
  exact h key hooks hget

/-- Dropping the keys with a prefix drops the protocol version, and no other. -/
theorem get_unregister_eq (h : registry.PlainKeys) (protocol' version' action : JsString) :
    (registry.unregister protocol version).get protocol' version' action =
      if protocol' = protocol ∧ version' = version then none
      else registry.get protocol' version' action := by
  unfold get
  rw [get_unregister]
  by_cases hsame : protocol' = protocol ∧ version' = version
  · obtain ⟨rfl, rfl⟩ := hsame
    rw [if_pos (prefix_keyOf _ _ _), if_pos ⟨rfl, rfl⟩]
  · rw [if_neg hsame]
    split_ifs with hkey
    · -- a key with this prefix that is registered is one of the protocol version itself
      symm
      rw [Option.eq_none_iff_forall_ne_some]
      intro hooks hget
      obtain ⟨protocol₀, version₀, action₀, hplain, heq⟩ := h _ _ hget
      obtain ⟨rest, hrest⟩ := hkey
      obtain ⟨rfl, rfl, -⟩ := keyOf_inj hplain heq
      obtain ⟨rfl, rfl, -⟩ := keyOf_inj hplain (hrest.trans heq)
      exact hsame ⟨rfl, rfl⟩
    · rfl

theorem Agrees.unregister (ha : registry.Agrees map) (h : registry.PlainKeys)
    (protocol version : JsString) :
    (registry.unregister protocol version).Agrees (map.unregister protocol version) := by
  intro protocol' version' action
  rw [get_unregister_eq h, ProtocolMap.unregister, ha]

/-- The registry has the actions of the module besides its own. -/
def Adds (registry registry' : ServerProtocolRegistry η) (M : ServerProtocolModule η) : Prop :=
  (∀ e ∈ M.actions.entries, registry.actions.get (keyOf M.protocol M.version e.1) = none) ∧
    ∀ key h, registry'.actions.get key = some h ↔
      M.hooksAt key = some h ∨ registry.actions.get key = some h

/-- A free action is not in the module, or not in the registry. -/
theorem Adds.get_eq_none (hadd : Adds registry registry' M) {h : η}
    (hget : M.actions.get action = some h) :
    registry.get M.protocol M.version action = none :=
  hadd.1 _ (JsMap.get_eq_some_iff.1 hget)

/-- Adding the actions of a module is right exactly when none of their names contains a colon. -/
theorem agrees_add_iff (ha : registry.Agrees map) (hadd : Adds registry registry' M) :
    registry'.Agrees (map.add M) ↔ M.Plain := by
  constructor
  · intro hagrees e he
    by_contra hnames
    obtain ⟨protocol, version, action, heq, hother⟩ := exists_keyOf_eq hnames
    -- the other action of this key is found, and is not in the map
    have hfound : registry'.get protocol version action = some e.2 := by
      rw [get, heq, hadd.2, ServerProtocolModule.hooksAt_keyOf]
      exact .inl (JsMap.get_eq_some_iff.2 he)
    have hnone : registry.get protocol version action = none := by
      rw [get, heq]
      exact hadd.1 e he
    have hmap : map.add M protocol version action = none := by
      rw [ProtocolMap.add, if_neg hother, ← ha, hnone]
    rw [hagrees, hmap] at hfound
    cases hfound
  · intro hplain protocol version action
    ext h
    rw [get, hadd.2, ProtocolMap.add]
    by_cases hsame : protocol = M.protocol ∧ version = M.version
    · obtain ⟨rfl, rfl⟩ := hsame
      rw [if_pos ⟨rfl, rfl⟩, ServerProtocolModule.hooksAt_keyOf, ← ha]
      show _ ∨ registry.get M.protocol M.version action = some h ↔ _
      cases hget : M.actions.get action with
      | none => simp
      | some hooks => simp [hadd.get_eq_none hget]
    · rw [if_neg hsame, ← ha]
      refine or_iff_right fun hat => ?_
      obtain ⟨action', heq, hget⟩ := ServerProtocolModule.hooksAt_eq_some_iff.1 hat
      obtain ⟨rfl, rfl, -⟩ := keyOf_inj (hplain _ (JsMap.get_eq_some_iff.1 hget)) heq
      exact hsame ⟨rfl, rfl⟩

theorem PlainKeys.add (h : registry.PlainKeys) (hadd : Adds registry registry' M)
    (hplain : M.Plain) : registry'.PlainKeys := by
  intro key hooks hget
  rcases (hadd.2 key hooks).1 hget with hat | hold
  · obtain ⟨action, rfl, hmem⟩ := ServerProtocolModule.hooksAt_eq_some_iff.1 hat
    exact ⟨_, _, action, hplain _ (JsMap.get_eq_some_iff.1 hmem), rfl⟩
  · exact h key hooks hold

/-! ### Registrations -/

/-- A key that is taken stays as it is, whatever a registration does. -/
theorem get_registerEntries {entries : List (JsString × η)} {key : JsString} {h : η} :
    ∀ {actions : JsMap JsString η}, actions.get key = some h →
      (registerEntries protocol version entries actions).1.get key = some h := by
  induction entries with
  | nil => exact id
  | cons e entries ih =>
    intro actions hget
    rw [registerEntries]
    split_ifs with hhas
    · exact hget
    · refine ih ?_
      rw [JsMap.get_set_of_ne _ _ e.2]
      · exact hget
      · rintro rfl
        simp [JsMap.has, hget] at hhas

/-- A registration whose first action is taken changes nothing. -/
theorem register_of_head {e : JsString × η} (he : M.actions.entries.head? = some e)
    (htaken : registry.actions.has (keyOf M.protocol M.version e.1) = true) :
    (registry.register M).1 = registry := by
  obtain ⟨rest, hentries⟩ := List.head?_eq_some_iff.1 he
  rw [register, hentries, registerEntries, if_pos htaken]

/-- A registration whose first action is free has it registered, if it throws or not. -/
theorem get_register_of_head {e : JsString × η} (he : M.actions.entries.head? = some e)
    (hfree : registry.actions.has (keyOf M.protocol M.version e.1) = false) :
    (registry.register M).1.get M.protocol M.version e.1 = some e.2 := by
  obtain ⟨rest, hentries⟩ := List.head?_eq_some_iff.1 he
  rw [register, hentries, registerEntries, if_neg (by simp [hfree])]
  exact get_registerEntries (JsMap.get_set_self _ _ _)

theorem has_eq_false {actions : JsMap JsString η} {key : JsString} :
    actions.has key = false ↔ actions.get key = none := by
  simp [JsMap.has]

theorem adds_register (hfree : ∀ e ∈ M.actions.entries,
    registry.actions.has (keyOf M.protocol M.version e.1) = false) :
    Adds registry (registry.register M).1 M := by
  have hnone : ∀ e ∈ M.actions.entries,
      registry.actions.get (keyOf M.protocol M.version e.1) = none :=
    fun e he => has_eq_false.1 (hfree e he)
  exact ⟨hnone, (register_of_free hnone).2⟩

theorem adds_replace (registry : ServerProtocolRegistry η) (M : ServerProtocolModule η) :
    Adds (registry.unregister M.protocol M.version) (registry.replace M) M := by
  rw [replace_eq]
  refine adds_register fun e _ => has_eq_false.2 ?_
  rw [get_unregister, if_pos (prefix_keyOf _ _ _)]

/-- The map has the action exactly when its key is taken. -/
theorem Agrees.has_iff (ha : registry.Agrees map) :
    registry.actions.has (keyOf protocol version action) = true ↔
      (map protocol version action).isSome = true := by
  rw [← ha]
  rfl

/-- A registration is right exactly when it is `Faithful`. -/
theorem agrees_register_iff (ha : registry.Agrees map) :
    (registry.register M).1.Agrees (map.register M) ↔ registry.Faithful (.register M) := by
  have hfree_iff (e : JsString × η) :
      registry.actions.has (keyOf M.protocol M.version e.1) = false ↔
        ¬(map M.protocol M.version e.1).isSome = true := by
    rw [← ha.has_iff, Bool.not_eq_true]
  unfold ProtocolMap.register
  split_ifs with hconflict
  · -- the map stays as it is, and so does the registry if it is the first action that is taken
    obtain ⟨e, he, htaken⟩ := hconflict
    obtain ⟨first, rest, hentries⟩ := List.exists_cons_of_ne_nil (List.ne_nil_of_mem he)
    have hfirst : M.actions.entries.head? = some first := by rw [hentries]; rfl
    by_cases hhas : registry.actions.has (keyOf M.protocol M.version first.1) = true
    · refine iff_of_true ?_ (.inl ⟨first, hfirst, hhas⟩)
      rw [register_of_head hfirst hhas]
      exact ha
    · have hfree := Bool.eq_false_of_not_eq_true hhas
      -- the first action is free, and is registered before the conflict is met
      refine iff_of_false (fun hagrees => ?_) ?_
      · have hget := get_register_of_head hfirst hfree
        rw [hagrees] at hget
        exact (hfree_iff first).1 hfree (by rw [hget]; rfl)
      · rintro (⟨e', he', htaken'⟩ | ⟨hall, -⟩)
        · obtain rfl : first = e' := Option.some.inj (hfirst.symm.trans he')
          exact hhas htaken'
        · exact (hfree_iff e).1 (hall e he) htaken
  · have hfree : ∀ e ∈ M.actions.entries,
        registry.actions.has (keyOf M.protocol M.version e.1) = false :=
      fun e he => (hfree_iff e).2 fun htaken => hconflict ⟨e, he, htaken⟩
    rw [agrees_add_iff ha (adds_register hfree)]
    refine ⟨fun hplain => .inr ⟨hfree, hplain⟩, ?_⟩
    rintro (⟨e, he, htaken⟩ | ⟨-, hplain⟩)
    · rw [hfree e (List.mem_of_mem_head? he)] at htaken
      cases htaken
    · exact hplain

/-- A faithful registration keeps the names without colons. -/
theorem PlainKeys.register (h : registry.PlainKeys) (hf : registry.Faithful (.register M)) :
    (registry.register M).1.PlainKeys := by
  rcases hf with ⟨e, he, htaken⟩ | ⟨hfree, hplain⟩
  · rw [register_of_head he htaken]
    exact h
  · exact h.add (adds_register hfree) hplain

end ServerProtocolRegistry

/-! ### Every run -/

namespace ComparedRegistry

variable {s : ComparedRegistry η}

/-- **A call keeps the registry and its map together exactly when it is faithful.** -/
theorem agrees_step_iff (h : s.registry.PlainKeys) (ha : s.registry.Agrees s.map)
    (c : RegistryCall η) :
    (s.step c).registry.Agrees (s.step c).map ↔ s.registry.Faithful c := by
  cases c with
  | register M => exact ServerProtocolRegistry.agrees_register_iff ha
  | replace M =>
    exact ServerProtocolRegistry.agrees_add_iff (ha.unregister h M.protocol M.version)
      (ServerProtocolRegistry.adds_replace s.registry M)
  | unregister protocol version => exact iff_of_true (ha.unregister h protocol version) trivial

theorem plainKeys_step (h : s.registry.PlainKeys) {c : RegistryCall η}
    (hf : s.registry.Faithful c) : (s.step c).registry.PlainKeys := by
  cases c with
  | register M => exact h.register hf
  | replace M =>
    exact (h.unregister M.protocol M.version).add
      (ServerProtocolRegistry.adds_replace s.registry M) hf
  | unregister protocol version => exact h.unregister protocol version

/-- **In every state of a run `get` gives what the map of the names has exactly when every call of
the run is faithful.** -/
theorem agrees_iff_faithful (calls : List (RegistryCall η)) :
    (∀ pre post, calls = pre ++ post →
      (Machine.run step start pre).registry.Agrees (Machine.run step start pre).map) ↔
    Machine.Along step (fun s c => s.registry.Faithful c) start calls := by
  have hempty : (start : ComparedRegistry η).registry.PlainKeys := by
    intro key h hget
    cases hget
  have hstart : (start : ComparedRegistry η).registry.Agrees start.map := fun _ _ _ => rfl
  exact @Machine.prefixes_iff_along_of_kept _ _ step _ (fun s => s.registry.PlainKeys)
    (fun s => s.registry.Agrees s.map) start calls hempty hstart
    (fun _ c h ha hkept => plainKeys_step h ((agrees_step_iff h ha c).1 hkept))
    fun _ c h ha => agrees_step_iff h ha c

/-- A module with one action. -/
def oneAction (protocol version action : JsString) : ServerProtocolModule ℕ :=
  ⟨protocol, version, JsMap.empty.set action 0⟩

/-- `a:b` and `c` are the same key as `a` and `b:c`. -/
def collided : List (RegistryCall ℕ) := [.register (oneAction (js "a:b") (js "c") (js "x"))]

/-- The second registration throws for the action `send`, with `list` already set. -/
def halfRegistered : List (RegistryCall ℕ) :=
  [.register (oneAction (js "chat") (js "1.0") (js "send")),
    .register ⟨js "chat", js "1.0", (JsMap.empty.set (js "list") 1).set (js "send") 2⟩]

/-- An action that nobody registered is found, and so is one whose registration threw. -/
theorem get_not_map :
    ¬(Machine.run step start collided).registry.Agrees (Machine.run step start collided).map ∧
      ¬(Machine.run step start halfRegistered).registry.Agrees
        (Machine.run step start halfRegistered).map := by
  constructor
  · intro h
    exact absurd (h (js "a") (js "b:c") (js "x")) (by decide)
  · intro h
    exact absurd (h (js "chat") (js "1.0") (js "list")) (by decide)

end ComparedRegistry

end Hardess
