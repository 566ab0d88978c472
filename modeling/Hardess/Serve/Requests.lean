import Hardess.Ingress.Http
import Hardess.Lib.UriComponent
import Hardess.Serve.Patterns

/-!
# The routing of a request

What `fetch` of `src/runtime/serve/worker.ts` does before a handler runs: the match prefix of the
pipeline is stripped from the path of the request, and a route is found for what is left.

* `stripMatchPrefix`, `routeRequest`, `fetch`: all of them may throw;
* `RoutedAs`: what a path becomes under a prefix, and `stripMatchPrefix_eq_ok_iff`;
* **`routeRequest_completes_iff`**: routing completes for a prefix that starts with a slash, when
  the segments of the parameters are encoded texts;
* **`stripMatchPrefix_lossless`**: below a prefix, two paths that are routed alike are the same or
  differ in the slash after the prefix.
-/

namespace Hardess.Serve

variable {ρ : Type}

/-! ### The code -/

/-- `stripMatchPrefix`; it throws the error of `normalizePath`. -/
def stripMatchPrefix (pathname : SlashPath) (matchPrefix : JsString) : Except JsString SlashPath :=
  (normalizePath matchPrefix).map fun normalizedPrefix =>
    if normalizedPrefix = .root ∨ ¬normalizedPrefix.text <+: pathname.text then pathname
    else
      let stripped := pathname.text.drop normalizedPrefix.text.length
      if stripped = [] then .root
      else if h : stripped.head? = some (unit '/') then ⟨stripped, h⟩
      else ⟨unit '/' :: stripped, rfl⟩

/-- What routing throws. -/
inductive RoutingError
  /-- The error of `normalizePath`. -/
  | path (message : JsString)
  /-- The `URIError` of `decodeURIComponent`. -/
  | uri
  deriving DecidableEq

/-- The routing of `fetch`: the path that is routed, and the route that is found with its
parameters. -/
def routeRequest (compiledRoutes : List (CompiledRoute ρ)) (matchPrefix : JsString)
    (originalPath : SlashPath) (method : JsString) :
    Except RoutingError (SlashPath × Option (CompiledRoute ρ × JsMap JsString JsString)) :=
  match stripMatchPrefix originalPath matchPrefix with
  | .error message => .error (.path message)
  | .ok routedPath =>
    match findRoute Uri.decodeURIComponent compiledRoutes routedPath.text method with
    | none => .ok (routedPath, none)
    | some (_, none) => .error .uri
    | some (route, some params) => .ok (routedPath, some (route, params))

/-- `runMiddlewareChain`: every middleware is given what comes after it. -/
def runMiddlewareChain {β : Type} (chain : List (β → β)) (terminal : β) : β :=
  chain.foldr (fun current next => current next) terminal

/-- `fetch` of `createWorkerFromServeModule`; the handlers are given the request beforehand, and a
request for which there is no route is not answered. -/
def fetch {β : Type} (module : HardessServeModule (JsMap JsString JsString → β) (β → β))
    (matchPrefix : JsString) (originalPath : SlashPath) (method : JsString) :
    Except RoutingError (Option β) :=
  (routeRequest (module.routes.map compileRoute) matchPrefix originalPath method).map fun found =>
    found.2.map fun routeMatch =>
      runMiddlewareChain ((middlewareChain module found.1).map (·.handler))
        (routeMatch.1.handler routeMatch.2)

/-! ### Stripping the prefix -/

/-- What a path is routed as under a normalised prefix. -/
inductive RoutedAs (normalizedPrefix pathname : SlashPath) : SlashPath → Prop
  | whole : normalizedPrefix = .root ∨ ¬normalizedPrefix.text <+: pathname.text →
      RoutedAs normalizedPrefix pathname pathname
  | itself : normalizedPrefix ≠ .root → pathname = normalizedPrefix →
      RoutedAs normalizedPrefix pathname .root
  | below {rest : SlashPath} : normalizedPrefix ≠ .root → pathname = normalizedPrefix ++ rest →
      RoutedAs normalizedPrefix pathname rest
  /-- The path goes on within the last segment of the prefix. -/
  | beside {rest : JsString} : normalizedPrefix ≠ .root → rest ≠ [] →
      rest.head? ≠ some (unit '/') → pathname.text = normalizedPrefix.text ++ rest →
      RoutedAs normalizedPrefix pathname ⟨unit '/' :: rest, rfl⟩

variable {pathname other routed normalizedPrefix : SlashPath} {matchPrefix : JsString}

theorem stripMatchPrefix_eq_ok_iff :
    stripMatchPrefix pathname matchPrefix = .ok routed ↔
      ∃ normalizedPrefix, normalizePath matchPrefix = .ok normalizedPrefix ∧
        RoutedAs normalizedPrefix pathname routed := by
  unfold stripMatchPrefix
  cases hnorm : normalizePath matchPrefix with
  | error message => simp [Except.map]
  | ok n =>
    simp only [Except.map, Except.ok.injEq, exists_eq_left']
    constructor
    · rintro rfl
      split_ifs with hwhole hitself hslash
      · exact .whole hwhole
      · obtain ⟨hroot, hpre⟩ := not_or.1 hwhole
        obtain ⟨rest, hrest⟩ := not_not.1 hpre
        rw [← hrest, List.drop_left] at hitself
        -- nothing is left after the prefix
        refine .itself hroot (SlashPath.ext ?_)
        rw [← hrest, hitself, List.append_nil]
      · obtain ⟨hroot, hpre⟩ := not_or.1 hwhole
        exact .below hroot (SlashPath.ext (List.prefix_append_drop (not_not.1 hpre)))
      · obtain ⟨hroot, hpre⟩ := not_or.1 hwhole
        exact .beside hroot hitself hslash (List.prefix_append_drop (not_not.1 hpre))
    · intro h
      cases h with
      | whole hwhole => rw [if_pos hwhole]
      | itself hroot hpath =>
        rw [hpath, if_neg (by simp [hroot])]
        simp
      | below hroot hpath =>
        have hne : routed.text ≠ [] := by
          rw [routed.text_eq]
          exact List.cons_ne_nil _ _
        rw [hpath, if_neg (by simp [hroot])]
        simp [hne, routed.slash]
      | @beside rest hroot hne hslash hpath =>
        rw [hpath, if_neg (by simp [hroot])]
        simp [hne, hslash]

/-- A prefix with a slash in front is stripped without an error. -/
theorem exists_stripMatchPrefix_iff :
    (∃ routed, stripMatchPrefix pathname matchPrefix = .ok routed) ↔
      matchPrefix.head? = some (unit '/') := by
  unfold stripMatchPrefix normalizePath
  split_ifs with hslash <;> simp [Except.map, hslash]

/-! ### Finding the route -/

/-- A request is routed without an error. -/
def Completes (compiledRoutes : List (CompiledRoute ρ)) (matchPrefix : JsString)
    (originalPath : SlashPath) (method : JsString) : Prop :=
  ∃ found, routeRequest compiledRoutes matchPrefix originalPath method = .ok found

theorem mapM_isSome_iff {α β : Type} {f : α → Option β} {l : List α} :
    (l.mapM f).isSome = true ↔ ∀ a ∈ l, (f a).isSome = true := by
  induction l with
  | nil => simp
  | cons a l ih =>
    rw [List.mapM_cons, List.forall_mem_cons, ← ih]
    cases f a <;> cases l.mapM f <;> simp

/-- The parameters of a match are there when all that was captured can be decoded. -/
theorem params_isSome_iff {decodeURIComponent : JsString → Option JsString}
    {route : HardessServeRouteDefinition ρ} (h : FitsPath route pathname) :
    ((compileRoute route).params decodeURIComponent
        ((bindings route pathname).map Prod.snd)).isSome = true ↔
      ∀ b ∈ bindings route pathname, (decodeURIComponent b.2).isSome = true := by
  have hentries : ((compileRoute route).paramNames.zipIdx.mapM fun name =>
      (decodeURIComponent (((bindings route pathname).map Prod.snd)[name.2]?.getD [])).map
        (name.1, ·)) =
      (bindings route pathname).mapM fun b => (decodeURIComponent b.2).map (b.1, ·) := by
    rw [paramNames_eq h]
    conv_rhs => rw [← zipIdx_lookup (bindings route pathname) [], List.mapM_map]
    rfl
  rw [CompiledRoute.params, hentries, Option.isSome_map, mapM_isSome_iff]
  simp

/-- `fetch` throws only while a request is routed. -/
theorem exists_fetch_iff {β : Type}
    {module : HardessServeModule (JsMap JsString JsString → β) (β → β)} {originalPath : SlashPath}
    {method : JsString} :
    (∃ response, fetch module matchPrefix originalPath method = .ok response) ↔
      Completes (module.routes.map compileRoute) matchPrefix originalPath method := by
  unfold fetch Completes
  cases routeRequest (module.routes.map compileRoute) matchPrefix originalPath method <;>
    simp [Except.map]

/-- Once the path is known, the parameters of the route that is found decide. -/
theorem completes_iff_of_routed {routes : List (HardessServeRouteDefinition ρ)}
    {originalPath routedPath : SlashPath} {method : JsString}
    (hstrip : stripMatchPrefix originalPath matchPrefix = .ok routedPath) :
    Completes (routes.map compileRoute) matchPrefix originalPath method ↔
      ∀ route ∈ routes.find? fun route => Answers method routedPath route,
        ∀ b ∈ bindings route routedPath, (Uri.decodeURIComponent b.2).isSome = true := by
  unfold Completes routeRequest
  rw [hstrip]
  dsimp only
  rw [findRoute_eq_find?]
  cases hfind : routes.find? fun route => Answers method routedPath route with
  | none => simp
  | some route =>
    have hanswers : Answers method routedPath route := by
      simpa using List.find?_some hfind
    have hparams := @params_isSome_iff _ _ Uri.decodeURIComponent route hanswers.2
    rw [Option.map_some]
    cases hp : (compileRoute route).params Uri.decodeURIComponent
        ((bindings route routedPath).map Prod.snd) with
    | none =>
      rw [hp] at hparams
      simpa using hparams
    | some params =>
      rw [hp] at hparams
      simpa using hparams

/-- **Routing a request completes** when the match prefix starts with a slash, and the first route
that answers finds encoded texts in the place of its parameters. -/
theorem routeRequest_completes_iff (routes : List (HardessServeRouteDefinition ρ))
    (matchPrefix : JsString) (originalPath : SlashPath) (method : JsString) :
    Completes (routes.map compileRoute) matchPrefix originalPath method ↔
      matchPrefix.head? = some (unit '/') ∧
        ∀ normalizedPrefix, normalizePath matchPrefix = .ok normalizedPrefix →
          ∀ routedPath, RoutedAs normalizedPrefix originalPath routedPath →
            ∀ route ∈ routes.find? fun route => Answers method routedPath route,
              ∀ b ∈ bindings route routedPath, ∃ text, Uri.UriEncoded b.2 text := by
  cases hstrip : stripMatchPrefix originalPath matchPrefix with
  | error message =>
    have hno : ¬matchPrefix.head? = some (unit '/') := by
      rw [← @exists_stripMatchPrefix_iff originalPath, hstrip]
      simp
    unfold Completes routeRequest
    simp [hstrip, hno]
  | ok routedPath =>
    have hslash : matchPrefix.head? = some (unit '/') :=
      exists_stripMatchPrefix_iff.1 ⟨_, hstrip⟩
    have hrouted : ∀ n, normalizePath matchPrefix = .ok n → ∀ q, RoutedAs n originalPath q →
        q = routedPath := by
      intro n hn q hq
      have hok := stripMatchPrefix_eq_ok_iff.2 ⟨n, hn, hq⟩
      rw [hstrip] at hok
      exact (Except.ok.inj hok).symm
    obtain ⟨n, hn, hq⟩ := stripMatchPrefix_eq_ok_iff.1 hstrip
    rw [completes_iff_of_routed hstrip, and_iff_right hslash]
    simp only [Option.isSome_iff_exists, Uri.decodeURIComponent_eq_some_iff]
    refine ⟨fun h n' hn' q' hq' => ?_, fun h => h n hn routedPath hq⟩
    rw [hrouted n' hn' q' hq']
    exact h

/-- A route with a parameter. -/
def idRoute : HardessServeRouteDefinition ℕ := ⟨.get, ⟨js "/:id", rfl⟩, 0⟩

/-- A percent sign with nothing after it ends the routing of a request. -/
theorem not_completes_percent :
    ¬Completes [compileRoute idRoute] (js "/") ⟨js "/%", rfl⟩ (js "GET") := by
  have h : (routeRequest [compileRoute idRoute] (js "/") ⟨js "/%", rfl⟩
      (js "GET")).toOption.isNone = true := by
    decide +kernel
  rintro ⟨found, hfound⟩
  rw [hfound] at h
  cases h

/-! ### What stripping keeps -/

/-- The law of a lossless prefix: the path is the prefix and what is routed, or the prefix itself,
or all of the path is routed. -/
def Lossless (normalizedPrefix pathname routed : SlashPath) : Prop :=
  pathname = normalizedPrefix ++ routed ∨ pathname = normalizedPrefix ∧ routed = .root ∨
    normalizedPrefix = .root ∧ routed = pathname

instance : Decidable (Lossless normalizedPrefix pathname routed) :=
  inferInstanceAs (Decidable (_ ∨ _ ∨ _))

/-- Below a prefix in the sense of the middleware, the law holds. -/
theorem RoutedAs.lossless (h : RoutedAs normalizedPrefix pathname routed)
    (hunder : pathStartsWithPrefix pathname (some normalizedPrefix) = true) :
    Lossless normalizedPrefix pathname routed := by
  have hcases : normalizedPrefix = .root ∨ pathname.IsUnder normalizedPrefix := by
    simpa [pathStartsWithPrefix] using hunder
  cases h with
  | whole hwhole =>
    refine .inr (.inr ⟨?_, rfl⟩)
    refine hwhole.resolve_right fun hpre => ?_
    obtain hroot | rfl | hslash := hcases
    · rw [hroot, SlashPath.root, pathname.text_eq] at hpre
      exact hpre ⟨_, rfl⟩
    · exact hpre List.prefix_rfl
    · exact hpre ((List.prefix_append _ _).trans hslash)
  | itself hroot hpath => exact .inr (.inl ⟨hpath, rfl⟩)
  | below hroot hpath => exact .inl hpath
  | @beside rest hroot hne hslash hpath =>
    -- what goes on within a segment is not below the prefix
    exfalso
    obtain rfl | hunder := hcases.resolve_left hroot
    · simp [hne] at hpath
    · rw [hpath, List.prefix_append_right_inj] at hunder
      obtain ⟨t, rfl⟩ := hunder
      exact hslash rfl

/-- Under a prefix that is only a slash all of the path is routed. -/
theorem RoutedAs.eq_of_root (h : RoutedAs .root pathname routed) : routed = pathname := by
  cases h with
  | whole => rfl
  | itself hroot => exact absurd rfl hroot
  | below hroot => exact absurd rfl hroot
  | beside hroot => exact absurd rfl hroot

/-- Two paths below a prefix that are routed alike are the same, or differ in the slash after the
prefix. -/
theorem RoutedAs.eq_or (h : RoutedAs normalizedPrefix pathname routed)
    (hunder : pathStartsWithPrefix pathname (some normalizedPrefix) = true)
    (h' : RoutedAs normalizedPrefix other routed)
    (hunder' : pathStartsWithPrefix other (some normalizedPrefix) = true) :
    pathname = other ∨ pathname = normalizedPrefix ∧ other = normalizedPrefix ++ .root ∨
      other = normalizedPrefix ∧ pathname = normalizedPrefix ++ .root := by
  by_cases hroot : normalizedPrefix = .root
  · subst hroot
    exact .inl (h.eq_of_root.symm.trans h'.eq_of_root)
  · obtain hp | ⟨hp, hr⟩ | ⟨hn, -⟩ := h.lossless hunder
    · obtain hq | ⟨hq, hr⟩ | ⟨hn, -⟩ := h'.lossless hunder'
      · exact .inl (hp.trans hq.symm)
      · exact .inr (.inr ⟨hq, hr ▸ hp⟩)
      · exact absurd hn hroot
    · obtain hq | ⟨hq, -⟩ | ⟨hn, -⟩ := h'.lossless hunder'
      · exact .inr (.inl ⟨hp, hr ▸ hq⟩)
      · exact .inl (hp.trans hq.symm)
      · exact absurd hn hroot
    · exact absurd hn hroot

/-- A pipeline with the match prefix handles the path. -/
def Handles (matchPrefix : JsString) (pathname : SlashPath) : Prop :=
  ∃ pipelines pipeline, findPipeline pathname.text pipelines = some pipeline ∧
    pipeline.matchPrefix = matchPrefix

theorem Handles.starts (h : Handles matchPrefix pathname) : matchPrefix <+: pathname.text := by
  obtain ⟨pipelines, pipeline, hfind, rfl⟩ := h
  simpa using List.find?_some hfind

/-- What a pipeline with a slash at the end of its prefix handles is below the prefix. -/
theorem Handles.pathStartsWithPrefix (h : Handles matchPrefix pathname)
    (hnorm : normalizePath matchPrefix = .ok normalizedPrefix)
    (hlast : matchPrefix.getLast? = some (unit '/')) :
    pathStartsWithPrefix pathname (some normalizedPrefix) = true := by
  unfold normalizePath at hnorm
  split_ifs at hnorm with hslash
  obtain rfl := Except.ok.inj hnorm
  obtain ⟨init, rfl⟩ := List.getLast?_eq_some_iff.1 hlast
  cases init with
  | nil => rfl
  | cons u init =>
    have htrim : (SlashPath.mk _ hslash).trim.text = u :: init := by
      rw [SlashPath.trim]
      dsimp only
      rw [if_pos ⟨by simp, hlast⟩, List.dropLast_concat]
    have hunder : pathname.IsUnder (SlashPath.mk _ hslash).trim := by
      right
      rw [htrim]
      exact h.starts
    rw [Hardess.pathStartsWithPrefix, Bool.or_eq_true, decide_eq_true_iff, decide_eq_true_iff]
    exact .inr hunder

/-- What stripping is certain to keep apart: a prefix that ends with a slash, or a path below the
prefix. -/
def Apart (matchPrefix : JsString) (normalizedPrefix pathname : SlashPath) : Prop :=
  matchPrefix.getLast? = some (unit '/') ∨
    pathStartsWithPrefix pathname (some normalizedPrefix) = true

/-- **Stripping a prefix loses nothing below it**: what a pipeline handles and routes is the prefix
and what is routed, up to the slash after the prefix. -/
theorem stripMatchPrefix_lossless {matchPrefix : JsString} {normalizedPrefix : SlashPath}
    (hnorm : normalizePath matchPrefix = .ok normalizedPrefix) {pathname routed : SlashPath}
    (hhandles : Handles matchPrefix pathname) (hapart : Apart matchPrefix normalizedPrefix pathname)
    (hrouted : stripMatchPrefix pathname matchPrefix = .ok routed) :
    Lossless normalizedPrefix pathname routed ∧
      ∀ other, Handles matchPrefix other → Apart matchPrefix normalizedPrefix other →
        stripMatchPrefix other matchPrefix = .ok routed →
          pathname = other ∨ pathname = normalizedPrefix ∧ other = normalizedPrefix ++ .root ∨
            other = normalizedPrefix ∧ pathname = normalizedPrefix ++ .root := by
  have hunder : ∀ p, Handles matchPrefix p → Apart matchPrefix normalizedPrefix p →
      Hardess.pathStartsWithPrefix p (some normalizedPrefix) = true := by
    rintro p hp (hlast | hbelow)
    · exact hp.pathStartsWithPrefix hnorm hlast
    · exact hbelow
  have hroutedAs : ∀ p, stripMatchPrefix p matchPrefix = .ok routed →
      RoutedAs normalizedPrefix p routed := by
    intro p hp
    obtain ⟨n, hn, h⟩ := stripMatchPrefix_eq_ok_iff.1 hp
    rw [hnorm] at hn
    rwa [Except.ok.inj hn]
  have hpath := hunder pathname hhandles hapart
  refine ⟨(hroutedAs pathname hrouted).lossless hpath, fun other hother hbelow hsame => ?_⟩
  exact (hroutedAs pathname hrouted).eq_or hpath (hroutedAs other hsame)
    (hunder other hother hbelow)

/-- The pipeline of an API. -/
def apiPipeline : PipelineConfig where
  id := js "api"
  matchPrefix := js "/api"
  downstream := ⟨js "http://api", .ofNat 1, .ofNat 1, none⟩

/-- The prefix of the API. -/
def apiPrefix : SlashPath := ⟨js "/api", rfl⟩

theorem handles_api (h : js "/api" <+: pathname.text) : Handles (js "/api") pathname := by
  refine ⟨[apiPipeline], apiPipeline, ?_, rfl⟩
  have hstarts : apiPipeline.matchPrefix <+: pathname.text := h
  simp [findPipeline, hstarts]

theorem lossless_api : Lossless apiPrefix ⟨js "/api/x", rfl⟩ ⟨js "/x", rfl⟩ ∧
    ∀ other, Handles (js "/api") other → Apart (js "/api") apiPrefix other →
      stripMatchPrefix other (js "/api") = .ok ⟨js "/x", rfl⟩ →
        (⟨js "/api/x", rfl⟩ : SlashPath) = other ∨
          (⟨js "/api/x", rfl⟩ : SlashPath) = apiPrefix ∧ other = apiPrefix ++ .root ∨
          other = apiPrefix ∧ (⟨js "/api/x", rfl⟩ : SlashPath) = apiPrefix ++ .root :=
  stripMatchPrefix_lossless rfl (handles_api (by decide)) (.inr (by decide)) rfl

/-- A path that goes on within the prefix is routed without what it is beside, and the prefix is
routed as it is with a slash. -/
theorem not_lossless_api :
    (Handles (js "/api") ⟨js "/apix", rfl⟩ ∧
      stripMatchPrefix ⟨js "/apix", rfl⟩ (js "/api") = .ok ⟨js "/x", rfl⟩ ∧
      ¬Lossless apiPrefix ⟨js "/apix", rfl⟩ ⟨js "/x", rfl⟩) ∧
    Handles (js "/api") apiPrefix ∧ Handles (js "/api") (apiPrefix ++ .root) ∧
      stripMatchPrefix apiPrefix (js "/api") = .ok .root ∧
      stripMatchPrefix (apiPrefix ++ .root) (js "/api") = .ok .root ∧
      apiPrefix ≠ apiPrefix ++ .root :=
  ⟨⟨handles_api (by decide), rfl, by decide⟩, handles_api (by decide), handles_api (by decide),
    rfl, rfl, by decide⟩

end Hardess.Serve
