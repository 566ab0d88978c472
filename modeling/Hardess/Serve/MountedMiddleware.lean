import Hardess.Lib.ListMapM
import Hardess.Serve.Patterns
import Mathlib

/-!
# Does mounted middleware guard its routes?

Routes are matched as patterns, and the prefixes of middleware as texts. The middleware that
an app was given without a prefix is registered under the prefix where the app is mounted, so
it runs when the request path starts with that prefix word for word.

* `Tied` relates the prefix of a guard to the path of its route in a module: the path goes on
  after the prefix, or the prefix ends in more slashes than the path;
* `HardessServeApp.guarded_iff` says which requests find all guards in the chain. A request
  that fills in a parameter of a mount prefix does not (`not_guarded_param`).
-/

namespace Hardess

open SlashPath (trimSegments)

variable {ρ μ : Type}

/-! ### Prefixes and paths in a module -/

/-- The segments of the prefix of a guard, and those of the path of its route. -/
def Tied (p r : List JsString) : Prop :=
  trimSegments p = [[]] ∨ trimSegments p <+: r ∨ ∃ k, p = r ++ List.replicate k []

theorem segments_joinPaths (base child : SlashPath) :
    (joinPaths (some base) child).segments =
      if trimSegments base.segments = [[]] then trimSegments child.segments
      else if trimSegments child.segments = [[]] then trimSegments base.segments
      else trimSegments base.segments ++ trimSegments child.segments := by
  have hroot : ∀ p : SlashPath, p.trim = .root ↔ trimSegments p.segments = [[]] := by
    intro p
    rw [← SlashPath.segments_injective.eq_iff, SlashPath.segments_trim, SlashPath.segments_root]
  unfold joinPaths
  simp only [hroot]
  split_ifs <;> simp

/-- The prefix at which an app is mounted is tied to the path of its routes there. -/
theorem tied_mount (u r : SlashPath) : Tied u.segments (joinPaths (some u) r).segments := by
  rw [segments_joinPaths]
  unfold Tied
  split_ifs with hu hr
  · exact .inl hu
  · exact .inr (.inl List.prefix_rfl)
  · exact .inr (.inl (List.prefix_append _ _))

/-- Prefixes and paths that are trimmed: the path goes on after the prefix, or the prefix after
the path, with slashes only. -/
theorem Tied.trimmed {p r : List JsString} (h : Tied p r) (hr : r ≠ []) :
    trimSegments p = [[]] ∨ trimSegments p <+: trimSegments r ∨
      ∃ k, trimSegments p = trimSegments r ++ List.replicate k [] := by
  obtain hp | ⟨rest, rfl⟩ | ⟨k, rfl⟩ := h
  · exact .inl hp
  · by_cases hrest : rest = []
    · subst hrest
      rw [List.append_nil]
      obtain h | h := SlashPath.eq_trimSegments_or (trimSegments p)
      · exact .inr (.inl (by rw [h]))
      · exact .inr (.inr ⟨1, h⟩)
    · exact .inr (.inl (SlashPath.prefix_trimSegments_append _ hrest))
  · exact .inr (.inr (SlashPath.trimSegments_append_replicate hr k))

/-- Trimming keeps prefixes and paths tied. -/
theorem Tied.trim {p r : List JsString} (h : Tied p r) (hr : r ≠ []) :
    Tied (trimSegments p) (trimSegments r) := by
  obtain hp | hp | hk := h.trimmed hr
  · exact .inl (by rw [hp]; rfl)
  · exact .inr (.inl ((SlashPath.trimSegments_prefix _).trans hp))
  · exact .inr (.inr hk)

/-- So does mounting their app. -/
theorem Tied.joinPaths {p r : SlashPath} (h : Tied p.segments r.segments) (base : SlashPath) :
    Tied (Hardess.joinPaths (some base) p).segments (Hardess.joinPaths (some base) r).segments := by
  have hr := SlashPath.segments_ne_nil (p := r)
  rw [segments_joinPaths, segments_joinPaths]
  by_cases hbase : trimSegments base.segments = [[]]
  · simp only [hbase, if_true]
    exact h.trim hr
  by_cases hp : trimSegments p.segments = [[]]
  · -- the prefix is now that of the base
    simp only [hbase, hp, if_true, if_false]
    split_ifs
    · exact .inr (.inl (SlashPath.trimSegments_prefix _))
    · exact .inr (.inl ((SlashPath.trimSegments_prefix _).trans (List.prefix_append _ _)))
  obtain hp' | hp' | ⟨k, hk⟩ := h.trimmed hr
  · exact absurd hp' hp
  · by_cases hroot : trimSegments r.segments = [[]]
    · rw [hroot] at hp'
      have hlength : 0 < (trimSegments p.segments).length :=
        List.length_pos_iff.2 (SlashPath.trimSegments_ne_nil SlashPath.segments_ne_nil)
      exact absurd (hp'.eq_of_length_le hlength) hp
    · simp only [hbase, hp, hroot, if_false]
      exact .inr (.inl ((SlashPath.trimSegments_prefix _).trans
        ((List.prefix_append_right_inj _).2 hp')))
  · by_cases hroot : trimSegments r.segments = [[]]
    · simp only [hbase, hp, hroot, if_true, if_false]
      refine .inr (.inr ⟨k + 1, ?_⟩)
      rw [hk, hroot]
      rfl
    · simp only [hbase, hp, hroot, if_false]
      exact .inr (.inr ⟨k, by rw [hk, List.append_assoc]⟩)

/-! ### Guards in a module -/

namespace HardessServeApp

variable {app : HardessServeApp ρ μ} {module : HardessServeModule ρ μ}

theorem pathPrefix_of_mem_own {e : HardessServeMiddlewareDefinition μ} (h : e ∈ app.own) :
    e.pathPrefix = none := by
  induction app with
  | createApp => cases h
  | route app method path handler ih => exact ih h
  | mount app pathPrefix child late ih _ => exact ih h
  | use app pathPrefix handler ih =>
    unfold own at h
    split_ifs at h
    · obtain h | h := List.mem_append.1 h
      · exact ih h
      · rw [List.mem_singleton.1 h]
    · exact ih h

/-- What `build` does at each call. -/
theorem build_route {method : HardessServeMethod} {path : JsString} {handler : ρ}
    (h : (app.route method path handler).build = .ok module) :
    ∃ before p, app.build = .ok before ∧
      module = { before with routes := before.routes ++ [⟨method, p, handler⟩] } := by
  simp only [build, bind, Except.bind] at h
  cases hb : app.build with
  | error message => simp [hb] at h
  | ok before =>
    cases hp : normalizePath path with
    | error message => simp [hb, hp] at h
    | ok p =>
      simp only [hb, hp] at h
      exact ⟨before, p, rfl, (Except.ok.inj h).symm⟩

theorem build_use {pathPrefix : Option JsString} {handler : μ}
    (h : (app.use pathPrefix handler).build = .ok module) :
    ∃ before p, app.build = .ok before ∧ (pathPrefix = none → p = none) ∧
      module = { before with middleware := before.middleware ++ [⟨p, handler⟩] } := by
  simp only [build, bind, Except.bind] at h
  cases hb : app.build with
  | error message => simp [hb] at h
  | ok before =>
    simp only [hb] at h
    cases hp : pathPrefix.mapM normalizePath with
    | error message => simp [hp] at h
    | ok p =>
      simp only [hp] at h
      refine ⟨before, p, rfl, ?_, (Except.ok.inj h).symm⟩
      rintro rfl
      exact (Except.ok.inj hp).symm

theorem build_mount {pathPrefix : Option JsString} {child : HardessServeApp ρ μ} {late : List μ}
    (h : (app.mount pathPrefix child late).build = .ok module) :
    ∃ before childModule, app.build = .ok before ∧ child.build = .ok childModule ∧
      module = mountServeApp before childModule
        (pathPrefix.bind fun text => (normalizePath text).toOption) := by
  simp only [build, bind, Except.bind] at h
  cases hb : app.build with
  | error message => simp [hb] at h
  | ok before =>
    cases hc : child.build with
    | error message => simp [hb, hc] at h
    | ok childModule =>
      simp only [hb, hc] at h
      refine ⟨before, childModule, rfl, rfl, ?_⟩
      cases pathPrefix with
      | none => exact (Except.ok.inj h).symm
      | some text =>
        cases hp : normalizePath text with
        | error message => simp [hp, Option.mapM] at h
        | ok p =>
          have hm : (some text).mapM normalizePath = .ok (some p) := by
            simp only [Option.mapM, hp]
            rfl
          rw [hm] at h
          simpa [hp, Except.toOption] using (Except.ok.inj h).symm

/-- Each route has its guards. -/
theorem length_guards (h : app.build = .ok module) : app.guards.length = module.routes.length := by
  induction app generalizing module with
  | createApp =>
    obtain rfl := Except.ok.inj h
    rfl
  | route app method path handler ih =>
    obtain ⟨before, p, hb, rfl⟩ := build_route h
    simp [guards, ih hb]
  | use app pathPrefix handler ih =>
    obtain ⟨before, p, hb, -, rfl⟩ := build_use h
    unfold guards
    split_ifs <;> simp [ih hb]
  | mount app pathPrefix child late ih ihc =>
    obtain ⟨before, childModule, hb, hc, rfl⟩ := build_mount h
    simp [guards, mountServeApp, ih hb, ihc hc]

theorem own_sublist (h : app.build = .ok module) : app.own.Sublist module.middleware := by
  induction app generalizing module with
  | createApp => exact List.nil_sublist _
  | route app method path handler ih =>
    obtain ⟨before, p, hb, rfl⟩ := build_route h
    have hown := ih hb
    exact hown
  | use app pathPrefix handler ih =>
    obtain ⟨before, p, hb, hnone, rfl⟩ := build_use h
    unfold own
    split_ifs with hp
    · rw [hnone hp]
      exact (ih hb).append (List.Sublist.refl _)
    · exact (ih hb).trans (List.sublist_append_left _ _)
  | mount app pathPrefix child late ih _ =>
    obtain ⟨before, childModule, hb, -, rfl⟩ := build_mount h
    exact (ih hb).trans (List.sublist_append_left _ _)

/-- The guards of a route that stand in the module stand there in the order of registration. -/
theorem guards_sublist (h : app.build = .ok module) :
    ∀ g ∈ app.guards, g.reduceOption.Sublist module.middleware := by
  induction app generalizing module with
  | createApp => simp [guards]
  | route app method path handler ih =>
    obtain ⟨before, p, hb, rfl⟩ := build_route h
    intro g hg
    obtain hg | hg := List.mem_append.1 hg
    · exact ih hb g hg
    · rw [List.mem_singleton.1 hg]
      have hown := own_sublist hb
      simpa [List.reduceOption] using hown
  | use app pathPrefix handler ih =>
    obtain ⟨before, p, hb, hnone, rfl⟩ := build_use h
    intro g hg
    unfold guards at hg
    split_ifs at hg with hp
    · obtain ⟨g', hg', rfl⟩ := List.mem_map.1 hg
      rw [hnone hp, List.reduceOption_append]
      exact (ih hb g' hg').append (List.Sublist.refl _)
    · exact (ih hb g hg).trans (List.sublist_append_left _ _)
  | mount app pathPrefix child late ih ihc =>
    obtain ⟨before, childModule, hb, hc, rfl⟩ := build_mount h
    intro g hg
    obtain hg | hg := List.mem_append.1 hg
    · exact (ih hb g hg).trans (List.sublist_append_left _ _)
    · obtain ⟨g', hg', rfl⟩ := List.mem_map.1 hg
      have hchild := (ihc hc g' hg').map (mountMiddleware
        (pathPrefix.bind fun text => (normalizePath text).toOption))
      rw [List.reduceOption_append, List.reduceOption_append, List.reduceOption_map]
      simpa [List.reduceOption, mountServeApp] using (own_sublist hb).append hchild

/-- Mounting an app keeps the prefix of a guard tied to the path of its route. -/
theorem tied_mountMiddleware {e : HardessServeMiddlewareDefinition μ} {r : SlashPath}
    (h : ∀ p ∈ e.pathPrefix, Tied p.segments r.segments) (pathPrefix : Option SlashPath)
    {p : SlashPath} (hp : p ∈ (mountMiddleware pathPrefix e).pathPrefix) :
    Tied p.segments (joinPaths pathPrefix r).segments := by
  unfold mountMiddleware at hp
  cases he : e.pathPrefix with
  | none =>
    simp only [he] at hp
    cases pathPrefix with
    | none => cases hp
    | some u =>
      obtain rfl := Option.mem_some_iff.1 hp
      exact tied_mount u r
  | some q =>
    simp only [he] at hp
    obtain rfl := Option.mem_some_iff.1 hp
    have hq := h q he
    cases pathPrefix with
    | none =>
      simp only [joinPaths, SlashPath.segments_trim]
      exact hq.trim SlashPath.segments_ne_nil
    | some u => exact hq.joinPaths u

/-- The prefixes of the guards of a route are tied to its path. -/
theorem tied_of_mem_zip (h : app.build = .ok module) :
    ∀ rg ∈ module.routes.zip app.guards, ∀ e, some e ∈ rg.2 → ∀ p ∈ e.pathPrefix,
      Tied p.segments rg.1.path.segments := by
  induction app generalizing module with
  | createApp => simp [guards]
  | route app method path handler ih =>
    obtain ⟨before, p, hb, rfl⟩ := build_route h
    intro rg hrg e he
    unfold guards at hrg
    rw [List.zip_append (length_guards hb).symm] at hrg
    obtain hrg | hrg := List.mem_append.1 hrg
    · exact ih hb rg hrg e he
    · obtain rfl : rg = _ := by simpa using hrg
      -- the guards of the application itself have no prefix
      have hown : e ∈ app.own := by simpa using he
      simp [pathPrefix_of_mem_own hown]
  | use app pathPrefix handler ih =>
    obtain ⟨before, p, hb, hnone, rfl⟩ := build_use h
    intro rg hrg e he
    unfold guards at hrg
    split_ifs at hrg with hp
    · rw [List.zip_map_right] at hrg
      obtain ⟨rg', hrg', rfl⟩ := List.mem_map.1 hrg
      obtain he | he := List.mem_append.1 he
      · exact ih hb rg' hrg' e he
      · rw [Option.some.inj (List.mem_singleton.1 he)]
        simp
    · exact ih hb rg hrg e he
  | mount app pathPrefix child late ih ihc =>
    obtain ⟨before, childModule, hb, hc, rfl⟩ := build_mount h
    intro rg hrg e he
    unfold guards mountServeApp at hrg
    rw [List.zip_append (length_guards hb).symm] at hrg
    obtain hrg | hrg := List.mem_append.1 hrg
    · exact ih hb rg hrg e he
    · rw [List.zip_map] at hrg
      obtain ⟨rg', hrg', rfl⟩ := List.mem_map.1 hrg
      intro p hp
      simp only [Prod.map_snd, List.mem_append, List.mem_map, Option.some.injEq, exists_eq_right,
        Option.map_eq_some_iff, reduceCtorEq, and_false, exists_false, or_false] at he
      -- a guard of the parent, or one of the child under the prefix of the mount
      obtain he | ⟨_, he', e', rfl, rfl⟩ := he
      · rw [pathPrefix_of_mem_own he] at hp
        cases hp
      · exact tied_mountMiddleware (ihc hc rg' hrg' e' he') _ hp

/-! ### Requests -/

section Requests

variable (decodeURIComponent : JsString → Option JsString)

/-- The route that a request is matched to, with its guards: what `findRoute` finds in the routes of
the module, each with its definition and its guards in the place of its handler. -/
def matchedGuards (app : HardessServeApp ρ μ) (module : HardessServeModule ρ μ)
    (method : JsString) (routedPath : SlashPath) :
    Option (HardessServeRouteDefinition ρ × List (Option (HardessServeMiddlewareDefinition μ))) :=
  let compiledRoutes := ((module.routes.zip app.guards).map fun rg =>
    { method := rg.1.method, path := rg.1.path, handler := rg }).map Serve.compileRoute
  (Serve.findRoute decodeURIComponent compiledRoutes routedPath.text method).bind fun found =>
    found.2.map fun _ => found.1.handler

/-- For the route that a request is matched to, all guards are in the chain that runs, in the
order of registration. -/
def Guarded (app : HardessServeApp ρ μ) (method : JsString) (routedPath : SlashPath) : Prop :=
  ∀ module ∈ app.build.toOption,
    ∀ rg ∈ app.matchedGuards decodeURIComponent module method routedPath,
      none ∉ rg.2 ∧ rg.2.reduceOption.Sublist (middlewareChain module routedPath)

/-- A path repeats a prefix: it is as long, and where the prefix has a parameter, the path has
the same text. -/
def Repeats (p routedPath : SlashPath) : Prop :=
  p = .root ∨ p.segments.length ≤ routedPath.segments.length ∧
    ∀ s ∈ p.segments.zip routedPath.segments, s.1.head? = some (unit ':') → s.2 = s.1

end Requests

variable {decodeURIComponent : JsString → Option JsString}

/-- What the route of a request is. -/
theorem of_mem_matchedGuards {method : JsString} {routedPath : SlashPath}
    {rg : HardessServeRouteDefinition ρ × List (Option (HardessServeMiddlewareDefinition μ))}
    (h : rg ∈ app.matchedGuards decodeURIComponent module method routedPath) :
    rg ∈ module.routes.zip app.guards ∧
      List.Forall₂ Fits rg.1.path.trim.segments routedPath.segments := by
  obtain ⟨found, hfound, hhandler⟩ := Option.bind_eq_some_iff.1 h
  rw [Serve.findRoute_eq_find?] at hfound
  obtain ⟨route, hroute, rfl⟩ := Option.map_eq_some_iff.1 hfound
  obtain ⟨params, -, hrg⟩ := Option.map_eq_some_iff.1 hhandler
  have hanswers : Serve.Answers method routedPath route := by simpa using List.find?_some hroute
  obtain ⟨rg', hmem, rfl⟩ := List.mem_map.1 (List.mem_of_find?_eq_some hroute)
  obtain rfl : rg' = rg := hrg
  exact ⟨hmem, hanswers.2⟩

/-- Starting with the segments of a prefix, when the rest fits. -/
theorem prefix_iff_of_fits {p rest xs : List JsString} (h : List.Forall₂ Fits (p ++ rest) xs) :
    p <+: xs ↔ p.length ≤ xs.length ∧
      ∀ s ∈ p.zip xs, s.1.head? = some (unit ':') → s.2 = s.1 := by
  induction p generalizing xs with
  | nil => simp
  | cons segment p ih =>
    obtain ⟨x, xs, hfits, hrest, rfl⟩ := List.forall₂_cons_left_iff.1 h
    rw [List.cons_prefix_cons, ih hrest, List.zip_cons_cons, List.forall_mem_cons]
    have hsegment : segment = x ↔ (segment.head? = some (unit ':') → x = segment) := by
      unfold Fits at hfits
      split_ifs at hfits with hparam
      · simp [hparam, eq_comm]
      · simp [hparam, hfits]
    simp only [List.length_cons, Nat.add_le_add_iff_right]
    tauto

/-- A path that a route matches repeats a prefix of the route exactly when it starts with it. -/
theorem pathStartsWithPrefix_iff_repeats {p r routedPath : SlashPath}
    (hmatch : List.Forall₂ Fits r.trim.segments routedPath.segments)
    (htied : Tied p.segments r.segments) :
    pathStartsWithPrefix routedPath (some p.trim) ↔ Repeats p.trim routedPath := by
  unfold pathStartsWithPrefix Repeats
  rw [Bool.or_eq_true, decide_eq_true_iff, decide_eq_true_iff, SlashPath.isUnder_iff]
  refine or_congr_right' fun hroot => ?_
  rw [SlashPath.segments_trim] at hmatch ⊢
  obtain hp | ⟨rest, hrest⟩ | ⟨k, hk⟩ := htied.trimmed SlashPath.segments_ne_nil
  · refine absurd (SlashPath.segments_injective ?_) hroot
    rw [SlashPath.segments_trim, hp, SlashPath.segments_root]
  · rw [← hrest] at hmatch
    exact prefix_iff_of_fits hmatch
  · cases k with
    | zero =>
      rw [List.replicate_zero, List.append_nil] at hk
      rw [← hk, ← List.append_nil (trimSegments p.segments)] at hmatch
      exact prefix_iff_of_fits hmatch
    | succ k =>
      -- the prefix is longer than the path
      have hlong : ¬(trimSegments p.segments).length ≤ routedPath.segments.length := by
        rw [← hmatch.length_eq, hk]
        simp
      exact iff_of_false (fun h => hlong h.length_le) fun h => hlong h.1

/-- **Mounted middleware guards a request** exactly when its route has no late guards, and the
request path repeats the prefixes of the guards. -/
theorem guarded_iff (decodeURIComponent : JsString → Option JsString) (app : HardessServeApp ρ μ)
    (method : JsString) (routedPath : SlashPath) :
    app.Guarded decodeURIComponent method routedPath ↔
      ∀ module ∈ app.build.toOption,
        ∀ rg ∈ app.matchedGuards decodeURIComponent module method routedPath,
          ∀ guard ∈ rg.2, ∃ e ∈ guard, ∀ p ∈ e.pathPrefix, Repeats p.trim routedPath := by
  refine forall₂_congr fun module hmodule => forall₂_congr fun rg hrg => ?_
  have hbuild : app.build = .ok module := Except.toOption_eq_some_iff.1 hmodule
  obtain ⟨hzip, hmatch⟩ := of_mem_matchedGuards hrg
  have hsub := guards_sublist hbuild rg.2 (List.of_mem_zip hzip).2
  -- the prefix of a guard is a prefix of the path, segment by segment, for the route was found
  have hpasses : ∀ e, some e ∈ rg.2 →
      (pathStartsWithPrefix routedPath (e.pathPrefix.map (·.trim)) ↔
        ∀ p ∈ e.pathPrefix, Repeats p.trim routedPath) := by
    intro e he
    cases hp : e.pathPrefix with
    | none => simp [pathStartsWithPrefix]
    | some p =>
      have htied := tied_of_mem_zip hbuild rg hzip e he p hp
      simpa using pathStartsWithPrefix_iff_repeats hmatch htied
  constructor
  · rintro ⟨hnone, h⟩ guard hguard
    cases guard with
    | none => exact absurd hguard hnone
    | some e =>
      have he : e ∈ rg.2.reduceOption := List.reduceOption_mem_iff.2 hguard
      exact ⟨e, rfl, (hpasses e hguard).1 (List.mem_filter.1 (h.subset he)).2⟩
  · intro h
    -- every guard passes the filter of the chain
    have hall : rg.2.reduceOption.filter (fun e =>
        pathStartsWithPrefix routedPath (e.pathPrefix.map (·.trim))) = rg.2.reduceOption := by
      refine List.filter_eq_self.2 fun e he => ?_
      have hguard := List.reduceOption_mem_iff.1 he
      obtain ⟨e', he', hrepeats⟩ := h _ hguard
      obtain rfl := Option.mem_some_iff.1 he'
      exact (hpasses e hguard).2 hrepeats
    refine ⟨fun hnone => ?_, ?_⟩
    · obtain ⟨e, he, -⟩ := h none hnone
      cases he
    · rw [← hall]
      exact hsub.filter _

/-! ### A parameter in a mount prefix -/

/-- An app with a middleware and a route, mounted under a prefix with a parameter. -/
def tenants : HardessServeApp ℕ ℕ :=
  createApp.mount (some (js "/tenants/:tenant"))
    ((createApp.use none 1).route .get (js "/data") 2) []

/-- The request is matched to the route, and its middleware does not run. -/
theorem not_guarded_param :
    ¬tenants.Guarded some (js "GET") ⟨js "/tenants/42/data", by decide⟩ := by
  intro h
  have hbuild : tenants.build.toOption.any fun module =>
      (tenants.matchedGuards some module (js "GET") ⟨js "/tenants/42/data", by decide⟩).any
        (fun rg => rg.2.reduceOption.length = 1) &&
      (middlewareChain module ⟨js "/tenants/42/data", by decide⟩).length = 0 := by
    decide
  cases hm : tenants.build.toOption with
  | none => simp [hm] at hbuild
  | some module =>
    simp only [hm, Option.any_some, Bool.and_eq_true, decide_eq_true_eq] at hbuild
    obtain ⟨hmatched, hchain⟩ := hbuild
    cases hrg : tenants.matchedGuards some module (js "GET")
        ⟨js "/tenants/42/data", by decide⟩ with
    | none => simp [hrg] at hmatched
    | some rg =>
      have hlength := (h module hm rg hrg).2.length_le
      rw [hrg, Option.any_some, decide_eq_true_eq] at hmatched
      omega

end HardessServeApp

end Hardess
