import Mathlib.Tactic

/-!
# Runs of a deterministic machine

A machine is a step function on states and events; a run is a list of events.

* `run` and its composition;
* `Along C s es`: every step of the run meets `C`, stated on the state before the step
  and its event;
* `Along.invariant`: what holds at the start and survives every step that meets `C`
  holds at the end; `Along.imp` carries an invariant along to conclude on each step;
* `run_maximum`: a register that each event raises to its marks holds the greatest mark;
* `prefixes_iff_along`: a property holds in every state of a run exactly when every step
  meets the condition under which one step keeps it (`prefixes_iff_along_of_kept`: with an invariant
  that rests on the property); `run_iff_along`: at the end of a run, when no step brings it back;
* `Past`: some step of the run meets a condition; `history_invariant`, `run_history`: the
  invariant rule for what is said of a state and of the steps that led to it;
* `outputs`: what a machine puts out; `count_outputs_le`: it puts out no more than went in, when no
  step does; `along_outputs`: a machine that holds another one and puts out what it makes it do.
-/

namespace Machine

variable {σ ε : Type*} {step : σ → ε → σ}

/-- The state after a list of events. -/
def run (step : σ → ε → σ) (s : σ) (es : List ε) : σ := es.foldl step s

@[simp] theorem run_nil (s : σ) : run step s [] = s := rfl

@[simp] theorem run_cons (s : σ) (e : ε) (es : List ε) :
    run step s (e :: es) = run step (step s e) es := rfl

theorem run_append (s : σ) (es fs : List ε) : run step s (es ++ fs) = run step (run step s es) fs :=
  List.foldl_append

theorem run_concat (s : σ) (es : List ε) (e : ε) :
    run step s (es ++ [e]) = step (run step s es) e := run_append s es [e]

/-- Every step of the run meets `C`. -/
def Along (step : σ → ε → σ) (C : σ → ε → Prop) : σ → List ε → Prop
  | _, [] => True
  | s, e :: es => C s e ∧ Along step C (step s e) es

instance decidableAlong {C : σ → ε → Prop} [∀ s e, Decidable (C s e)] :
    ∀ (s : σ) (es : List ε), Decidable (Along step C s es)
  | _, [] => inferInstanceAs (Decidable True)
  | s, e :: es => @instDecidableAnd _ _ _ (decidableAlong (step s e) es)

theorem along_append {C : σ → ε → Prop} {s : σ} {es fs : List ε} :
    Along step C s (es ++ fs) ↔ Along step C s es ∧ Along step C (run step s es) fs := by
  induction es generalizing s with
  | nil => simp [Along]
  | cons e es ih => simp [Along, ih, and_assoc]

/-- A condition on all steps, read off at each of them. -/
theorem along_iff {C : σ → ε → Prop} {s : σ} {es : List ε} :
    Along step C s es ↔ ∀ pre e post, es = pre ++ e :: post → C (run step s pre) e := by
  constructor
  · rintro h pre e post rfl
    exact (along_append.1 h).2.1
  · intro h
    induction es generalizing s with
    | nil => trivial
    | cons e es ih =>
      exact ⟨h [] e es rfl, ih fun pre f post heq => h (e :: pre) f post (by rw [heq]; rfl)⟩

/-- The invariant rule. -/
theorem Along.invariant {C : σ → ε → Prop} {Inv : σ → Prop} {s : σ} {es : List ε}
    (h : Along step C s es) (h0 : Inv s)
    (hstep : ∀ s e, Inv s → C s e → Inv (step s e)) : Inv (run step s es) := by
  induction es generalizing s with
  | nil => exact h0
  | cons e es ih => exact ih h.2 (hstep s e h0 h.1)

/-- What an invariant and the condition give at one step, they give along the run. -/
theorem Along.imp {C P : σ → ε → Prop} {Inv : σ → Prop} {s : σ} {es : List ε}
    (h : Along step C s es) (h0 : Inv s)
    (hstep : ∀ s e, Inv s → C s e → Inv (step s e)) (hP : ∀ s e, Inv s → C s e → P s e) :
    Along step P s es := by
  induction es generalizing s with
  | nil => trivial
  | cons e es ih => exact ⟨hP s e h0 h.1, ih h.2 (hstep s e h0 h.1)⟩

/-- A property of the states of a run, as a condition on its steps; the invariant may rest on the
property. -/
theorem prefixes_iff_along_of_kept {C : σ → ε → Prop} {Inv P : σ → Prop} {s : σ} (es : List ε)
    (h0 : Inv s) (hP : P s) (hstep : ∀ s e, Inv s → P s → P (step s e) → Inv (step s e))
    (hC : ∀ s e, Inv s → P s → (P (step s e) ↔ C s e)) :
    (∀ pre post, es = pre ++ post → P (run step s pre)) ↔ Along step C s es := by
  induction es generalizing s with
  | nil =>
    refine ⟨fun _ => trivial, fun _ pre post h => ?_⟩
    obtain ⟨rfl, -⟩ := List.append_eq_nil_iff.1 h.symm
    exact hP
  | cons e es ih =>
    constructor
    · intro h
      have hPe : P (step s e) := h [e] es rfl
      exact ⟨(hC s e h0 hP).1 hPe, (ih (hstep s e h0 hP hPe) hPe).1
        fun pre post heq => h (e :: pre) post (by rw [heq]; rfl)⟩
    · rintro ⟨hCe, hrest⟩ pre post heq
      cases pre with
      | nil => exact hP
      | cons f pre =>
        obtain ⟨rfl, rfl⟩ := List.cons.inj heq
        have hPe := (hC s e h0 hP).2 hCe
        exact (ih (hstep s e h0 hP hPe) hPe).2 hrest pre post rfl

/-- A property of the states of a run, as a condition on its steps. -/
theorem prefixes_iff_along {C : σ → ε → Prop} {Inv P : σ → Prop} {s : σ} (es : List ε)
    (h0 : Inv s) (hP : P s) (hstep : ∀ s e, Inv s → Inv (step s e))
    (hC : ∀ s e, Inv s → P s → (P (step s e) ↔ C s e)) :
    (∀ pre post, es = pre ++ post → P (run step s pre)) ↔ Along step C s es :=
  prefixes_iff_along_of_kept es h0 hP (fun s e h _ _ => hstep s e h) hC

/-- A property that no step brings back holds at the end exactly when every step keeps it. -/
theorem run_iff_along {C : σ → ε → Prop} {Inv P : σ → Prop} {s : σ} (h0 : Inv s)
    (hstep : ∀ s e, Inv s → Inv (step s e)) (hC : ∀ s e, Inv s → (P (step s e) ↔ P s ∧ C s e))
    (es : List ε) : P (run step s es) ↔ P s ∧ Along step C s es := by
  induction es generalizing s with
  | nil => simp [Along]
  | cons e es ih => rw [run_cons, ih (hstep s e h0), hC s e h0, Along, and_assoc]

/-- An invariant of every step holds after every run. -/
theorem run_invariant {Inv : σ → Prop} {s : σ} (h0 : Inv s)
    (hstep : ∀ s e, Inv s → Inv (step s e)) (es : List ε) : Inv (run step s es) := by
  induction es generalizing s with
  | nil => exact h0
  | cons e es ih => exact ih (hstep s e h0)

/-- A register that each event raises to the greatest of its marks holds the greatest mark. -/
theorem run_maximum {κ : Type*} [LinearOrder κ] {Inv : σ → Prop} {C : ε → Prop}
    {register : σ → WithBot κ} {marks : ε → List κ} {s : σ} (h0 : Inv s)
    (hstep : ∀ s e, Inv s → C e →
      Inv (step s e) ∧ register (step s e) = max (register s) (marks e).maximum)
    (es : List ε) (hC : ∀ e ∈ es, C e) : Inv (run step s es) ∧
      register (run step s es) = max (register s) (es.flatMap marks).maximum := by
  induction es generalizing s with
  | nil => exact ⟨h0, (max_eq_left bot_le).symm⟩
  | cons e es ih =>
    obtain ⟨hInv, hreg⟩ := hstep s e h0 (hC e List.mem_cons_self)
    obtain ⟨hend, hmax⟩ := ih hInv fun f hf => hC f (List.mem_cons_of_mem e hf)
    refine ⟨hend, ?_⟩
    rw [run_cons, hmax, hreg, max_assoc, List.flatMap_cons, List.maximum_append]

/-- A weaker condition holds along the run too. -/
theorem Along.mono {C P : σ → ε → Prop} {s : σ} {es : List ε} (h : Along step C s es)
    (hP : ∀ s e, C s e → P s e) : Along step P s es :=
  along_iff.2 fun pre e post heq => hP _ e (along_iff.1 h pre e post heq)

/-- Two conditions that agree on each step of a run agree on the run. -/
theorem along_congr {C : ε → Prop} {P Q : σ → ε → Prop} {Inv : σ → Prop} {s : σ} (h0 : Inv s)
    (hstep : ∀ s e, Inv s → C e → Inv (step s e) ∧ (P s e ↔ Q s e)) {es : List ε}
    (hC : ∀ e ∈ es, C e) : Along step P s es ↔ Along step Q s es := by
  induction es generalizing s with
  | nil => exact Iff.rfl
  | cons e es ih =>
    obtain ⟨hInv, hiff⟩ := hstep s e h0 (hC e List.mem_cons_self)
    exact and_congr hiff (ih hInv fun f hf => hC f (List.mem_cons_of_mem e hf))

/-! ### History -/

/-- Some step of the run meets `Q`. -/
def Past (step : σ → ε → σ) (s : σ) (es : List ε) (Q : σ → ε → Prop) : Prop :=
  ∃ pre e post, es = pre ++ e :: post ∧ Q (run step s pre) e

section past

variable {Q Q' : σ → ε → Prop} {s : σ} {es : List ε} {e : ε}

/-- What is past stays past. -/
theorem Past.append (h : Past step s es Q) (fs : List ε) : Past step s (es ++ fs) Q := by
  obtain ⟨pre, e, post, rfl, hq⟩ := h
  exact ⟨pre, e, post ++ fs, by simp, hq⟩

theorem Past.last (h : Q (run step s es) e) : Past step s (es ++ [e]) Q := ⟨es, e, [], rfl, h⟩

theorem past_nil : ¬Past step s [] Q := by
  rintro ⟨pre, e, post, heq, -⟩
  cases pre <;> cases heq

theorem past_cons_iff : Past step s (e :: es) Q ↔ Q s e ∨ Past step (step s e) es Q := by
  constructor
  · rintro ⟨pre, f, post, heq, hq⟩
    cases pre with
    | nil =>
      obtain ⟨rfl, rfl⟩ := List.cons.inj heq
      exact .inl hq
    | cons g pre =>
      obtain ⟨rfl, rfl⟩ := List.cons.inj heq
      exact .inr ⟨pre, f, post, rfl, hq⟩
  · rintro (hq | ⟨pre, f, post, rfl, hq⟩)
    · exact ⟨[], e, es, rfl, hq⟩
    · exact ⟨e :: pre, f, post, rfl, hq⟩

/-- The invariant rule for what is said of a state and of the steps that led to it; each step meets
a condition on its history. -/
theorem history_invariant {C : List ε → ε → Prop} {Inv : List ε → σ → Prop} (h0 : Inv [] s)
    (hstep : ∀ es e, Inv es (run step s es) → C es e → Inv (es ++ [e]) (step (run step s es) e))
    (es : List ε) (hC : ∀ pre e post, es = pre ++ e :: post → C pre e) :
    Inv es (run step s es) := by
  induction es using List.reverseRecOn with
  | nil => exact h0
  | append_singleton es e ih =>
    rw [run_concat]
    exact hstep es e (ih fun pre f post heq => hC pre f (post ++ [e]) (by rw [heq]; simp))
      (hC es e [] rfl)

/-- The same for an invariant that every step keeps. -/
theorem run_history {Inv : List ε → σ → Prop} (h0 : Inv [] s)
    (hstep : ∀ es e, Inv es (run step s es) → Inv (es ++ [e]) (step (run step s es) e))
    (es : List ε) : Inv es (run step s es) :=
  history_invariant (C := fun _ _ => True) h0 (fun es e h _ => hstep es e h) es
    fun _ _ _ _ => trivial

end past

/-! ### Outputs -/

section outputs

variable {ο α : Type*} {step : σ → ε → σ × List ο}

/-- The step without what it puts out. -/
def next (step : σ → ε → σ × List ο) (s : σ) (e : ε) : σ := (step s e).1

/-- What a run puts out. -/
def outputs (step : σ → ε → σ × List ο) : σ → List ε → List ο
  | _, [] => []
  | s, e :: es => (step s e).2 ++ outputs step (next step s e) es

/-- A machine that holds things puts out no more of each than went in, when no step does. -/
theorem count_outputs_le [DecidableEq α] {C : σ → ε → Prop} {held : σ → List α}
    {goesIn : ε → Option α} {goesOut : ο → Option α}
    (hstep : ∀ s e, C s e → ∀ a, ((step s e).2.filterMap goesOut).count a +
      (held (next step s e)).count a ≤ (held s).count a + (goesIn e).toList.count a)
    (es : List ε) : ∀ s, Along (next step) C s es → ∀ a,
      ((outputs step s es).filterMap goesOut).count a + (held (run (next step) s es)).count a ≤
        (held s).count a + (es.filterMap goesIn).count a := by
  induction es with
  | nil => intro s _ a; simp [outputs]
  | cons e es ih =>
    rintro s ⟨hC, hrest⟩ a
    have hfirst := hstep s e hC a
    have hlater := ih (next step s e) hrest a
    rw [outputs, List.filterMap_append, List.count_append, run_cons]
    have hin : (List.filterMap goesIn (e :: es)).count a =
        (goesIn e).toList.count a + (es.filterMap goesIn).count a := by
      cases h : goesIn e with
      | none => simp [h]
      | some b => simp [h, List.count_cons, Nat.add_comm]
    omega

section inner

variable {τ : Type*} {inner : τ → ο → τ} {view : σ → τ} {Inv : σ → Prop}

/-- A machine holds another one, and puts out what it makes it do: if that meets `P` in each step, it
does along the run. -/
theorem along_outputs {C : σ → ε → Prop} {P : τ → ο → Prop}
    (hview : ∀ s e, Inv s → view (next step s e) = run inner (view s) (step s e).2)
    (hinv : ∀ s e, Inv s → Inv (next step s e))
    (hstep : ∀ s e, Inv s → C s e → Along inner P (view s) (step s e).2) (es : List ε) :
    ∀ s, Inv s → Along (next step) C s es → Along inner P (view s) (outputs step s es) := by
  induction es with
  | nil => intro s _ _; trivial
  | cons e es ih =>
    rintro s hs ⟨hC, hrest⟩
    rw [outputs, along_append, ← hview s e hs]
    exact ⟨hstep s e hs hC, ih _ (hinv s e hs) hrest⟩

end inner

end outputs

end Machine
