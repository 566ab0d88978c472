import Mathlib.Tactic

/-!
# Logs whose entries are justified

* `Log.Justified P log`: each entry meets `P` beside those that came before it;
* `Log.justified_concat`: what one more entry asks for;
* `Log.Justified.of_mem`: an entry, with what came before it;
* `Log.Justified.eq_of_mem`: entries of which a log has one.
-/

namespace Log

variable {ε : Type*} {P Q : List ε → ε → Prop} {log : List ε}

/-- Each entry meets `P` beside those that came before it. -/
def Justified (P : List ε → ε → Prop) (log : List ε) : Prop :=
  ∀ pre x post, log = pre ++ x :: post → P pre x

@[simp] theorem justified_nil : Justified P [] := by
  intro pre x post h
  simp at h

theorem justified_concat {x : ε} : Justified P (log ++ [x]) ↔ Justified P log ∧ P log x := by
  constructor
  · intro h
    exact ⟨fun pre y post heq => h pre y (post ++ [x]) (by rw [heq]; simp),
      h log x [] rfl⟩
  · rintro ⟨h, hx⟩ pre y post heq
    rcases List.eq_nil_or_concat post with rfl | ⟨post, z, rfl⟩
    · obtain ⟨rfl, hxy⟩ := List.append_inj' heq rfl
      obtain rfl := List.singleton_inj.1 hxy
      exact hx
    · rw [List.concat_eq_append, ← List.cons_append, ← List.append_assoc] at heq
      exact h pre y post (List.append_inj_left' heq rfl)

/-- An entry, with what came before it. -/
theorem Justified.of_mem (h : Justified P log) {x : ε} (hx : x ∈ log) :
    ∃ pre post, log = pre ++ x :: post ∧ P pre x := by
  obtain ⟨pre, post, heq⟩ := List.append_of_mem hx
  exact ⟨pre, post, heq, h pre x post heq⟩

/-- Of two entries of which neither may follow the other there is one. -/
theorem Justified.eq_of_mem (h : Justified P log) {x y : ε} (hx : x ∈ log) (hy : y ∈ log)
    (hxy : ∀ pre, P pre x → y ∉ pre) (hyx : ∀ pre, P pre y → x ∉ pre) : x = y := by
  obtain ⟨pre, post, rfl, hpre⟩ := h.of_mem hx
  rcases List.mem_append.1 hy with hbefore | hrest
  · exact absurd hbefore (hxy pre hpre)
  rcases List.mem_cons.1 hrest with rfl | hafter
  · rfl
  · obtain ⟨left, right, rfl⟩ := List.append_of_mem hafter
    have hleft := h (pre ++ x :: left) y right (by simp)
    exact absurd (by simp) (hyx _ hleft)

end Log
