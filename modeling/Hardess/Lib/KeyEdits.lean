import Mathlib.Tactic

/-!
# Edits of a keyed store

A store has at most one value under a key. An edit empties keys, puts a value under a key, or claims
a key, which stops a list of edits when the key is taken.

* `makes`: what a list of edits makes of a store;
* `executed`: the edits up to the first claim of a taken key, and their rules over `++`;
* **`makes_eq_iff`**: a list of edits leaves the store as it was exactly when the last edit of every
  key gives the key what it had.
-/

namespace KeyEdits

variable {κ ν : Type*} [DecidableEq κ]

/-- An edit of a store. -/
inductive Edit (κ ν : Type*)
  | drop (dropped : κ → Bool)
  | put (key : κ) (value : ν)
  | claim (key : κ) (value : ν)

namespace Edit

/-- What an edit leaves under a key, if it touches the key. -/
def leaves : Edit κ ν → κ → Option (Option ν)
  | .drop dropped, key => if dropped key then some none else none
  | .put key' value, key => if key = key' then some (some value) else none
  | .claim key' value, key => if key = key' then some (some value) else none

/-- The store after an edit. -/
def apply (e : Edit κ ν) (store : κ → Option ν) : κ → Option ν :=
  fun key => (e.leaves key).getD (store key)

/-- The edit claims a key that is taken. -/
def blocked (e : Edit κ ν) (store : κ → Option ν) : Bool :=
  match e with
  | .claim key _ => (store key).isSome
  | _ => false

end Edit

variable {store : κ → Option ν} {es fs : List (Edit κ ν)} {e : Edit κ ν}

/-- The store after a list of edits. -/
def makes (store : κ → Option ν) (es : List (Edit κ ν)) : κ → Option ν :=
  es.foldl (fun store e => e.apply store) store

@[simp] theorem makes_nil : makes store [] = store := rfl

@[simp] theorem makes_cons : makes store (e :: es) = makes (e.apply store) es := rfl

theorem makes_append : makes store (es ++ fs) = makes (makes store es) fs := List.foldl_append

/-- The edits up to the first claim of a taken key. -/
def executed (store : κ → Option ν) : List (Edit κ ν) → List (Edit κ ν)
  | [] => []
  | e :: es => if e.blocked store then [] else e :: executed (e.apply store) es

@[simp] theorem executed_nil : executed store [] = [] := rfl

/-- After edits that all take place, the rest goes on. -/
theorem executed_append (h : executed store es = es) :
    executed store (es ++ fs) = es ++ executed (makes store es) fs := by
  induction es generalizing store with
  | nil => rfl
  | cons e es ih =>
    rw [executed] at h
    split_ifs at h with hb
    rw [List.cons_append, executed, if_neg hb, ih (List.cons.inj h).2]
    rfl

/-- After edits that do not all take place, nothing does. -/
theorem executed_append_of_ne (h : executed store es ≠ es) :
    executed store (es ++ fs) = executed store es := by
  induction es generalizing store with
  | nil => exact absurd rfl h
  | cons e es ih =>
    rw [executed] at h
    rw [List.cons_append, executed, executed]
    split_ifs at h ⊢ with hb
    · rfl
    · rw [ih fun heq => h (by rw [heq])]

/-- Edits without claims all take place. -/
theorem executed_of_free (h : ∀ e ∈ es, ∀ store : κ → Option ν, e.blocked store = false) :
    executed store es = es := by
  induction es generalizing store with
  | nil => rfl
  | cons e es ih =>
    rw [List.forall_mem_cons] at h
    rw [executed, if_neg (by simp [h.1 store]), ih h.2]

/-- The last edit of every key gives the key what the store has. -/
def Restores (store : κ → Option ν) (es : List (Edit κ ν)) : Prop :=
  ∀ pre e post key value, es = pre ++ e :: post → e.leaves key = some value →
    (∀ e' ∈ post, e'.leaves key = none) → store key = value

/-- A key that no edit touches keeps its value. -/
theorem makes_of_untouched {key : κ} (h : ∀ e ∈ es, e.leaves key = none) :
    makes store es key = store key := by
  induction es generalizing store with
  | nil => rfl
  | cons e es ih =>
    rw [List.forall_mem_cons] at h
    rw [makes_cons, ih h.2, Edit.apply, h.1]
    rfl

/-- A key that some edit touches has a last edit. -/
theorem exists_last {key : κ} (h : ¬∀ e ∈ es, e.leaves key = none) :
    ∃ pre e post value, es = pre ++ e :: post ∧ e.leaves key = some value ∧
      ∀ e' ∈ post, e'.leaves key = none := by
  induction es with
  | nil => exact absurd (by simp) h
  | cons e es ih =>
    by_cases hrest : ∀ e ∈ es, e.leaves key = none
    · cases hat : e.leaves key with
      | none => exact absurd (by simpa [hat] using hrest) h
      | some value => exact ⟨[], e, es, value, rfl, hat, hrest⟩
    · obtain ⟨pre, e', post, value, rfl, hat, hpost⟩ := ih hrest
      exact ⟨e :: pre, e', post, value, rfl, hat, hpost⟩

/-- **The edits leave the store as it was exactly when they restore it.** -/
theorem makes_eq_iff : (∀ key, makes store es key = store key) ↔ Restores store es := by
  constructor
  · rintro h pre e post key value rfl hat huntouched
    rw [← h key, makes_append, makes_cons, makes_of_untouched huntouched, Edit.apply, hat]
    rfl
  · intro h key
    by_cases huntouched : ∀ e ∈ es, e.leaves key = none
    · exact makes_of_untouched huntouched
    · obtain ⟨pre, e, post, value, heq, hat, hpost⟩ := exists_last huntouched
      rw [h pre e post key value heq hat hpost, heq, makes_append, makes_cons,
        makes_of_untouched hpost, Edit.apply, hat]
      rfl

end KeyEdits
