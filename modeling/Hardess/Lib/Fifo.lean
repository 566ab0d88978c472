import Hardess.Lib.Machine

/-!
# Machines that hold things in a queue

A machine takes things in at the end of what it holds and puts them out at the front.

* `inputs`: what a run takes in;
* `outputs_prefix`: when no step loses anything as long as the machine lives, what a run puts out
  and what is held at the end are what was held and what was taken in; at its end a machine may lose
  what it holds;
* `outputs_sublist`: when a step may lose things, they stay in order; `outputs_perm`: when a step may
  take things from anywhere, none is lost or repeated.
-/

namespace Machine

variable {σ ε ο α : Type*} {step : σ → ε → σ × List ο}

/-- What a run takes in. -/
def inputs (step : σ → ε → σ × List ο) (goesIn : σ → ε → List α) : σ → List ε → List α
  | _, [] => []
  | s, e :: es => goesIn s e ++ inputs step goesIn (next step s e) es

theorem inputs_filterMap (f : ε → Option α) (s : σ) (es : List ε) :
    inputs step (fun _ e => (f e).toList) s es = es.filterMap f := by
  induction es generalizing s with
  | nil => rfl
  | cons e es ih =>
    rw [inputs, ih, List.filterMap_cons]
    cases f e <;> rfl

variable {held : σ → List α} {goesIn : σ → ε → List α} {goesOut : ο → Option α}

/-- **Nothing is lost or repeated, and the order is kept**, as long as the machine lives; what it has
put out is the first of what it was given. -/
theorem outputs_prefix {Inv Live : σ → Prop} (hinv : ∀ s e, Inv s → Inv (next step s e))
    (hlive : ∀ s e, Inv s → Live s →
      (step s e).2.filterMap goesOut <+: held s ++ goesIn s e ∧
        (Live (next step s e) →
          (step s e).2.filterMap goesOut ++ held (next step s e) = held s ++ goesIn s e))
    (hdead : ∀ s e, ¬Live s → (step s e).2.filterMap goesOut = [] ∧ ¬Live (next step s e))
    (es : List ε) : ∀ s, Inv s →
      (outputs step s es).filterMap goesOut <+: held s ++ inputs step goesIn s es ∧
        (Live s → Live (run (next step) s es) →
          (outputs step s es).filterMap goesOut ++ held (run (next step) s es) =
            held s ++ inputs step goesIn s es) := by
  -- a dead machine puts nothing out
  have hnothing : ∀ es s, ¬Live s →
      (outputs step s es).filterMap goesOut = [] ∧ ¬Live (run (next step) s es) := by
    intro es
    induction es with
    | nil => exact fun s hs => ⟨rfl, hs⟩
    | cons e es ih =>
      intro s hs
      obtain ⟨hout, hnext⟩ := hdead s e hs
      obtain ⟨hrest, hend⟩ := ih _ hnext
      exact ⟨by rw [outputs, List.filterMap_append, hout, hrest, List.nil_append], hend⟩
  induction es with
  | nil =>
    intro s _
    exact ⟨List.nil_prefix, fun _ _ => by simp [outputs, inputs]⟩
  | cons e es ih =>
    intro s h
    rw [outputs, List.filterMap_append, inputs, run_cons, ← List.append_assoc]
    by_cases hs : Live s
    · obtain ⟨hstarts, heq⟩ := hlive s e h hs
      by_cases hnext : Live (next step s e)
      · obtain ⟨hrest, hend⟩ := ih _ (hinv s e h)
        have hmore := List.prefix_append_right_inj ((step s e).2.filterMap goesOut) |>.2 hrest
        rw [← List.append_assoc, heq hnext] at hmore
        refine ⟨hmore, fun _ hlast => ?_⟩
        rw [List.append_assoc, hend hnext hlast, ← List.append_assoc, heq hnext]
      · obtain ⟨hrest, hend⟩ := hnothing es _ hnext
        rw [hrest, List.append_nil]
        exact ⟨hstarts.trans (List.prefix_append _ _), fun _ hlast => absurd hlast hend⟩
    · obtain ⟨hout, hnext⟩ := hdead s e hs
      obtain ⟨hrest, -⟩ := hnothing es _ hnext
      rw [hout, hrest]
      exact ⟨List.nil_prefix, fun hlive => absurd hlive hs⟩

/-- **The order is kept**, and nothing is repeated, when a step may lose things. -/
theorem outputs_sublist {Inv : σ → Prop} {C : σ → ε → Prop}
    (hinv : ∀ s e, Inv s → C s e → Inv (next step s e))
    (hstep : ∀ s e, Inv s → C s e →
      ((step s e).2.filterMap goesOut ++ held (next step s e)).Sublist (held s ++ goesIn s e))
    (es : List ε) : ∀ s, Inv s → Along (next step) C s es →
      ((outputs step s es).filterMap goesOut ++ held (run (next step) s es)).Sublist
        (held s ++ inputs step goesIn s es) := by
  induction es with
  | nil =>
    intro s _ _
    rw [outputs, inputs, List.append_nil]
    exact List.Sublist.refl _
  | cons e es ih =>
    rintro s hs ⟨hC, halong⟩
    rw [outputs, List.filterMap_append, inputs, run_cons, List.append_assoc]
    have hrest := (ih _ (hinv s e hs hC) halong).append_left ((step s e).2.filterMap goesOut)
    have hfirst := (hstep s e hs hC).append_right (inputs step goesIn (next step s e) es)
    rw [List.append_assoc, List.append_assoc] at hfirst
    exact hrest.trans hfirst

/-- **Nothing is lost or repeated**, whatever the order. -/
theorem outputs_perm {Inv : σ → Prop} {C : σ → ε → Prop}
    (hinv : ∀ s e, Inv s → C s e → Inv (next step s e))
    (hstep : ∀ s e, Inv s → C s e →
      ((step s e).2.filterMap goesOut ++ held (next step s e)).Perm (held s ++ goesIn s e))
    (es : List ε) : ∀ s, Inv s → Along (next step) C s es →
      ((outputs step s es).filterMap goesOut ++ held (run (next step) s es)).Perm
        (held s ++ inputs step goesIn s es) := by
  induction es with
  | nil =>
    intro s _ _
    rw [outputs, inputs, List.append_nil]
    exact List.Perm.refl _
  | cons e es ih =>
    rintro s hs ⟨hC, halong⟩
    rw [outputs, List.filterMap_append, inputs, run_cons, List.append_assoc]
    have hrest := (ih _ (hinv s e hs hC) halong).append_left ((step s e).2.filterMap goesOut)
    have hfirst := (hstep s e hs hC).append_right (inputs step goesIn (next step s e) es)
    rw [List.append_assoc, List.append_assoc] at hfirst
    exact hrest.trans hfirst

end Machine
