import Mathlib.Data.List.Sort
import Mathlib.Tactic

/-!
# Sorting what is permuted

* `Orders`: a relation by which lists can be sorted, total and transitive;
* `Separating`: a relation that also tells its elements apart;
* `Orders.insertionSort_eq`: permuted lists are sorted alike if the relation tells their elements
  apart;
* `thenBy`: elements are compared by a key, and by another relation if they have the same key.
-/

namespace SortedPerm

variable {α β κ : Type*} {r : α → α → Prop}

/-- A total and transitive relation. -/
structure Orders (r : α → α → Prop) : Prop where
  total : ∀ a b, r a b ∨ r b a
  trans : ∀ a b c, r a b → r b c → r a c

/-- A relation that also tells all elements apart. -/
structure Separating (r : α → α → Prop) : Prop extends Orders r where
  antisymm : ∀ a b, r a b → r b a → a = b

/-- The elements of a list that the relation puts both ways are equal. -/
def Separates (r : α → α → Prop) (l : List α) : Prop := ∀ a ∈ l, ∀ b ∈ l, r a b → r b a → a = b

theorem Orders.pairwise_insertionSort [DecidableRel r] (h : Orders r) (l : List α) :
    (l.insertionSort r).Pairwise r := by
  have : Std.Total r := ⟨h.total⟩
  have : IsTrans α r := ⟨h.trans⟩
  exact List.pairwise_insertionSort r l

/-- **Permuted lists are sorted alike.** -/
theorem Orders.insertionSort_eq [DecidableRel r] (h : Orders r) {l l' : List α} (hl : l.Perm l')
    (hsep : Separates r l) : l.insertionSort r = l'.insertionSort r := by
  refine List.Perm.eq_of_pairwise ?_ (h.pairwise_insertionSort l) (h.pairwise_insertionSort l')
    ((List.perm_insertionSort r l).trans (hl.trans (List.perm_insertionSort r l').symm))
  intro a b ha hb
  rw [List.mem_insertionSort] at ha hb
  exact hsep a ha b (hl.mem_iff.2 hb)

/-- Comparing images. -/
theorem Orders.onFun (h : Orders r) (f : β → α) : Orders fun a b => r (f a) (f b) :=
  ⟨fun a b => h.total (f a) (f b), fun a b c => h.trans (f a) (f b) (f c)⟩

theorem Separating.separates (h : Separating r) (l : List α) : Separates r l :=
  fun a _ b _ => h.antisymm a b

theorem Separates.of_subset {l l' : List α} (h : Separates r l) (hsub : ∀ a ∈ l', a ∈ l) :
    Separates r l' := fun a ha b hb => h a (hsub a ha) b (hsub b hb)

/-- Elements with different images are told apart when the images are. -/
theorem Separates.onFun {f : β → α} {l : List β} (h : Separates r (l.map f))
    (hinj : ∀ a ∈ l, ∀ b ∈ l, f a = f b → a = b) : Separates (fun a b => r (f a) (f b)) l :=
  fun a ha b hb hab hba => hinj a ha b hb
    (h _ (List.mem_map_of_mem ha) _ (List.mem_map_of_mem hb) hab hba)

/-! ### Keys -/

variable [LinearOrder κ]

/-- By a key, and by another relation if the keys are the same. -/
def thenBy (key : α → κ) (r : α → α → Prop) (a b : α) : Prop :=
  key a < key b ∨ key a = key b ∧ r a b

theorem thenBy_of_ne {key : α → κ} {a b : α} (h : key a ≠ key b) :
    thenBy key r a b ↔ key a < key b := by
  unfold thenBy
  exact or_iff_left fun heq => h heq.1

theorem thenBy_of_eq {key : α → κ} {a b : α} (h : key a = key b) :
    thenBy key r a b ↔ r a b := by
  unfold thenBy
  rw [h]
  simp

theorem Orders.thenBy (h : Orders r) (key : α → κ) : Orders (thenBy key r) := by
  constructor
  · intro a b
    rcases lt_trichotomy (key a) (key b) with hlt | heq | hgt
    · exact Or.inl (Or.inl hlt)
    · exact (h.total a b).imp (fun hr => Or.inr ⟨heq, hr⟩) fun hr => Or.inr ⟨heq.symm, hr⟩
    · exact Or.inr (Or.inl hgt)
  · rintro a b c (hab | ⟨hab, rab⟩) (hbc | ⟨hbc, rbc⟩)
    · exact Or.inl (hab.trans hbc)
    · exact Or.inl (hbc ▸ hab)
    · exact Or.inl (hab ▸ hbc)
    · exact Or.inr ⟨hab.trans hbc, h.trans a b c rab rbc⟩

theorem Separates.thenBy {l : List α} (h : Separates r l) (key : α → κ) :
    Separates (thenBy key r) l := by
  rintro a ha b hb (hab | ⟨hab, rab⟩) (hba | ⟨hba, rba⟩)
  · exact absurd hba hab.asymm
  · exact absurd hab (hba ▸ lt_irrefl _)
  · exact absurd hba (hab ▸ lt_irrefl _)
  · exact h a ha b hb rab rba

end SortedPerm
