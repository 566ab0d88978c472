import Hardess.Lib.JsMapGroup
import Hardess.Lib.RegexSource
import Hardess.Serve.Worker

/-!
# Routes by their regular expressions

`findRoute` and `compileRoute` of `src/runtime/serve/worker.ts` as they stand: the pattern of a
route is put together as the source text of a regular expression, with its literal segments escaped,
and read and matched as such.

* `escapeRegExp`, `routeSource`, `compileRoute`, `findRoute`;
* `ofSource_routeSource`: the text reads as the segments, whatever characters they have;
* `exec_compileRoute`: the expression matches as the pieces of the route do;
* **`findRoute_segmentwise`**: `findRoute` finds the first route that answers segment by segment.
-/

namespace Hardess.Serve

variable {ρ : Type}

/-! ### The code -/

/-- The characters that `escapeRegExp` replaces. -/
def escaped : JsString := js ".*+?^$\x7b\x7d()|[]\\"

/-- `escapeRegExp`. -/
def escapeRegExp (value : JsString) : JsString :=
  value.flatMap fun u => if u ∈ escaped then [unit '\\', u] else [u]

/-- Is the segment a parameter? -/
def IsParam (segment : JsString) : Prop := segment.head? = some (unit ':')

instance : DecidablePred IsParam := fun segment =>
  inferInstanceAs (Decidable (segment.head? = some (unit ':')))

/-- A segment in the source text. -/
def segmentSource (segment : JsString) : JsString :=
  if IsParam segment then js "([^/]+)" else escapeRegExp segment

/-- The source text of the pattern of a path. -/
def routeSource (segments : List JsString) : JsString :=
  if segments = [] then js "^\\/$"
  else js "^/" ++ [unit '/'].intercalate (segments.map segmentSource) ++ js "$"

/-- `CompiledRoute`; the pattern is there if its source text can be read. -/
structure CompiledRoute (ρ : Type) where
  method : HardessServeMethod
  path : SlashPath
  pattern : Option (Regex UInt16)
  paramNames : List JsString
  handler : ρ

/-- `compileRoute`. -/
def compileRoute (route : HardessServeRouteDefinition ρ) : CompiledRoute ρ :=
  let normalizedPath := route.path.trim
  let segments := if normalizedPath = .root then [] else normalizedPath.segments
  { method := route.method
    path := normalizedPath
    pattern := Regex.ofSource (routeSource segments)
    paramNames := (segments.filter fun segment => IsParam segment).map (·.drop 1)
    handler := route.handler }

/-- `route.pattern.exec`. -/
def CompiledRoute.exec (route : CompiledRoute ρ) (pathname : JsString) : Option (List JsString) :=
  route.pattern.bind fun pattern => pattern.exec pathname

section FindRoute

variable (decodeURIComponent : JsString → Option JsString)

/-- The parameters of a match, or none if `decodeURIComponent` throws. -/
def CompiledRoute.params (route : CompiledRoute ρ) (captures : List JsString) :
    Option (JsMap JsString JsString) :=
  (route.paramNames.zipIdx.mapM fun name =>
    (decodeURIComponent (captures[name.2]?.getD [])).map (name.1, ·)).map JsMap.fromEntries

/-- `findRoute`. -/
def findRoute (routes : List (CompiledRoute ρ)) (pathname method : JsString) :
    Option (CompiledRoute ρ × Option (JsMap JsString JsString)) :=
  match routes with
  | [] => none
  | route :: routes =>
    if route.method ≠ .all ∧ route.method.text ≠ toUpperCase method then
      findRoute routes pathname method
    else
      match route.exec pathname with
      | none => findRoute routes pathname method
      | some captures => some (route, route.params decodeURIComponent captures)

end FindRoute

/-! ### Reading the pattern -/

open Regex (Reading concat syntaxCharacters)

/-- The items of a segment. -/
def segmentItems (segment : JsString) : List (Regex UInt16) :=
  if IsParam segment then [.group (concat [.many (.but (unit '/'))])]
  else segment.map fun u => .one (.single u)

/-- The items of a path, without its anchors. -/
def pathItems (segments : List JsString) : List (Regex UInt16) :=
  segments.flatMap fun segment => .one (.single (unit '/')) :: segmentItems segment

theorem mem_escaped {u : UInt16} : u ∈ escaped ↔ u ∈ syntaxCharacters := by
  have hperm : escaped.Perm syntaxCharacters := by decide
  exact hperm.mem_iff

variable {enclosing : List (List (Regex UInt16))} {items : List (Regex UInt16)}

/-- **An escaped text reads as its units, whatever they are.** -/
theorem read_escapeRegExp (value : JsString) :
    Reading.read ⟨.plain, enclosing, items⟩ (escapeRegExp value) =
      some ⟨.plain, enclosing, items ++ value.map fun u => .one (.single u)⟩ := by
  induction value generalizing items with
  | nil => simp [escapeRegExp, Reading.read]
  | cons u value ih =>
    have hunit : Reading.read ⟨.plain, enclosing, items⟩
        (if u ∈ escaped then [unit '\\', u] else [u]) =
          some ⟨.plain, enclosing, items ++ [.one (.single u)]⟩ := by
      split_ifs with hu
      · exact Reading.read_escape (.inl (mem_escaped.1 hu))
      · exact Reading.read_unit (mt mem_escaped.2 hu)
    rw [escapeRegExp, List.flatMap_cons, Reading.read_append hunit]
    refine ih.trans ?_
    rw [List.append_assoc, List.map_cons, List.singleton_append]

theorem read_segmentSource (segment : JsString) :
    Reading.read ⟨.plain, enclosing, items⟩ (segmentSource segment) =
      some ⟨.plain, enclosing, items ++ segmentItems segment⟩ := by
  unfold segmentSource segmentItems
  split_ifs
  · exact Reading.read_captured
  · exact read_escapeRegExp segment

theorem read_textOf (segments : List JsString) :
    Reading.read ⟨.plain, enclosing, items⟩ (SlashPath.textOf (segments.map segmentSource)) =
      some ⟨.plain, enclosing, items ++ pathItems segments⟩ := by
  induction segments generalizing items with
  | nil => simp [pathItems, Reading.read]
  | cons segment segments ih =>
    have hslash : Reading.read ⟨.plain, enclosing, items⟩ [unit '/'] =
        some ⟨.plain, enclosing, items ++ [.one (.single (unit '/'))]⟩ :=
      Reading.read_unit (by decide)
    rw [List.map_cons, SlashPath.textOf_cons, ← List.singleton_append,
      Reading.read_append hslash, Reading.read_append (read_segmentSource segment), ih]
    simp [pathItems]

/-- **The source text reads as the path between its anchors.** -/
theorem ofSource_routeSource {segments : List JsString} (h : segments ≠ []) :
    Regex.ofSource (routeSource segments) =
      some (concat (.start :: (pathItems segments ++ [.finish]))) := by
  have hsource : routeSource segments =
      js "^" ++ (SlashPath.textOf (segments.map segmentSource) ++ js "$") := by
    have hslash : js "^/" = js "^" ++ [unit '/'] := by decide
    rw [routeSource, if_neg h, SlashPath.textOf_eq_intercalate (by simpa using h), hslash]
    simp
  have hread : Reading.read {} (routeSource segments) =
      some ⟨.plain, [], .start :: (pathItems segments ++ [.finish])⟩ := by
    have hstart : Reading.read {} (js "^") = some ⟨.plain, [], [.start]⟩ := rfl
    rw [hsource, Reading.read_append hstart, Reading.read_append (read_textOf segments)]
    rfl
  rw [Regex.ofSource, hread]

theorem pattern_compileRoute (route : HardessServeRouteDefinition ρ) :
    (compileRoute route).pattern =
      some (concat (.start :: (pathItems route.path.trim.segments ++ [.finish]))) := by
  unfold compileRoute
  dsimp only
  by_cases hroot : route.path.trim = .root
  · rw [if_pos hroot, hroot]
    rfl
  · rw [if_neg hroot, ofSource_routeSource SlashPath.segments_ne_nil]

/-! ### Matching it -/

/-- Only a slash can follow a segment. -/
theorem all_pathItems_eq_nil (segments : List JsString) {atStart : Bool} {u : UInt16}
    (hu : u ≠ unit '/') (text : JsString) :
    (concat (pathItems segments ++ [.finish])).all atStart (u :: text) = [] := by
  cases segments with
  | nil => exact Regex.all_finish
  | cons segment segments =>
    rw [pathItems, List.flatMap_cons, List.cons_append, List.cons_append, Regex.all_one_cons,
      if_neg (by simpa using hu)]

/-- What a match takes before the rest of a text. -/
theorem after_toList {taken rest : JsString} (captured : List JsString)
    (o : Option (List JsString)) :
    (o.map fun captures => (⟨rest, [], captures⟩ : Regex.Match UInt16)).toList.map
        (.after taken captured) =
      (o.map fun captures => (⟨taken ++ rest, [], captured ++ captures⟩ :
        Regex.Match UInt16)).toList := by
  cases o <;> rfl

/-- The items of a segment match what its piece matches, before the items of the path that goes on.
-/
theorem all_segmentItems (segment : JsString) (segments : List JsString) (text : JsString)
    (ih : ∀ atStart text, (concat (pathItems segments ++ [.finish])).all atStart text =
      ((execParts (segments.map patternPart) text).map fun captures =>
        (⟨text, [], captures⟩ : Regex.Match UInt16)).toList) :
    (concat (segmentItems segment ++ (pathItems segments ++ [.finish]))).all false text =
      (((patternPart segment).exec text).bind fun found =>
        (execParts (segments.map patternPart) found.2).map fun captures =>
          (⟨text, [], found.1 ++ captures⟩ : Regex.Match UInt16)).toList := by
  unfold segmentItems patternPart
  by_cases hparam : IsParam segment
  · have hhas : (SymbolSet.but (unit '/')).has = fun u => decide (u ≠ unit '/') :=
      funext fun u => SymbolSet.has_but (unit '/') u
    -- a parameter takes all up to the next slash: nothing else goes on from there
    have hnext : ∀ atStart u rest, (SymbolSet.but (unit '/')).has u = true →
        (concat (pathItems segments ++ [.finish])).all atStart (u :: rest) = [] := by
      intro atStart u rest hu
      rw [hhas] at hu
      exact all_pathItems_eq_nil segments (by simpa using hu) rest
    rw [if_pos hparam, if_pos (show segment.head? = some (unit ':') from hparam),
      List.singleton_append, Regex.all_group_many hnext, hhas, PatternPart.exec]
    split_ifs with hrun
    · rfl
    · have htext : text.takeWhile (fun u => decide (u ≠ unit '/')) ++
          text.drop (text.takeWhile fun u => decide (u ≠ unit '/')).length = text :=
        (List.prefix_append_drop (List.takeWhile_prefix _)).symm
      rw [ih, after_toList, htext]
      rfl
  · rw [if_neg hparam, if_neg (show ¬segment.head? = some (unit ':') from hparam),
      Regex.all_literal, PatternPart.exec]
    split_ifs with hprefix
    · have htext : segment ++ text.drop segment.length = text :=
        (List.prefix_append_drop hprefix).symm
      rw [ih, after_toList, htext]
      rfl
    · rfl

/-- The items of a path match what its pieces match, up to the end of the text, in one way. -/
theorem all_pathItems (segments : List JsString) (atStart : Bool) (text : JsString) :
    (concat (pathItems segments ++ [.finish])).all atStart text =
      ((execParts (segments.map patternPart) text).map fun captures =>
        (⟨text, [], captures⟩ : Regex.Match UInt16)).toList := by
  induction segments generalizing atStart text with
  | nil =>
    rw [pathItems, List.flatMap_nil, List.nil_append, Regex.all_finish, List.map_nil, execParts]
    split_ifs with h
    · rw [h]
      rfl
    · rfl
  | cons segment segments ih =>
    rw [pathItems, List.flatMap_cons, ← pathItems, List.cons_append, List.cons_append,
      List.append_assoc, Regex.all_one_cons, List.map_cons, execParts]
    split_ifs with hslash
    · obtain ⟨rest, rfl⟩ := List.head?_eq_some_iff.1 hslash
      rw [List.tail_cons, all_segmentItems segment segments rest ih]
      cases hfound : (patternPart segment).exec rest with
      | none => rfl
      | some found =>
        show ((execParts (segments.map patternPart) found.2).map _).toList.map _ =
          (((execParts (segments.map patternPart) found.2).bind _).map _).toList
        cases execParts (segments.map patternPart) found.2 <;> rfl
    · rfl

/-- **The regular expression of a route matches as its pieces do.** -/
theorem exec_compileRoute (route : HardessServeRouteDefinition ρ) (pathname : SlashPath) :
    (compileRoute route).exec pathname.text =
      execParts (route.path.trim.segments.map patternPart) pathname.text := by
  rw [CompiledRoute.exec, pattern_compileRoute, Option.bind_some, Regex.exec_start, all_pathItems]
  cases execParts (route.path.trim.segments.map patternPart) pathname.text <;> rfl

/-! ### The parameters -/

/-- The parameters of a route, each with its segment of the path. -/
def bindings (route : HardessServeRouteDefinition ρ) (pathname : SlashPath) :
    List (JsString × JsString) :=
  ((route.path.trim.segments.zip pathname.segments).filter fun pair => IsParam pair.1).map
    fun pair => (pair.1.drop 1, pair.2)

variable {route : HardessServeRouteDefinition ρ} {pathname : SlashPath}

/-- The path fits the route, segment by segment. -/
abbrev FitsPath (route : HardessServeRouteDefinition ρ) (pathname : SlashPath) : Prop :=
  List.Forall₂ Fits route.path.trim.segments pathname.segments

theorem flatten_captured (segments xs : List JsString) :
    (List.zipWith captured segments xs).flatten =
      ((segments.zip xs).filter fun pair => IsParam pair.1).map Prod.snd := by
  induction segments generalizing xs with
  | nil => rfl
  | cons segment segments ih =>
    cases xs with
    | nil => rfl
    | cons x xs =>
      rw [List.zipWith_cons_cons, List.flatten_cons, ih, List.zip_cons_cons, captured]
      by_cases hparam : IsParam segment
      · rw [List.filter_cons_of_pos (by simpa using hparam),
          if_pos (show segment.head? = some (unit ':') from hparam)]
        rfl
      · rw [List.filter_cons_of_neg (by simpa using hparam),
          if_neg (show ¬segment.head? = some (unit ':') from hparam)]
        rfl

/-- **A route is matched segment by segment**, and its groups capture the segments of its
parameters. -/
theorem exec_eq (route : HardessServeRouteDefinition ρ) (pathname : SlashPath) :
    (compileRoute route).exec pathname.text =
      if FitsPath route pathname then some ((bindings route pathname).map Prod.snd)
      else none := by
  have htext : execParts (route.path.trim.segments.map patternPart) pathname.text =
      execParts (route.path.trim.segments.map patternPart)
        (SlashPath.textOf pathname.segments) := by
    rw [SlashPath.textOf_segments]
  rw [exec_compileRoute, htext, execParts_textOf (fun _ => SlashPath.notMem_segments)
    (fun _ => SlashPath.notMem_segments), flatten_captured, bindings, List.map_map]
  rfl

theorem paramNames_eq (h : FitsPath route pathname) :
    (compileRoute route).paramNames = (bindings route pathname).map Prod.fst := by
  have hroot : (compileRoute route).paramNames =
      (route.path.trim.segments.filter fun segment => IsParam segment).map (·.drop 1) := by
    show (List.filter _ (if route.path.trim = .root then [] else _)).map _ = _
    split_ifs with hroot
    · rw [hroot]
      rfl
    · rfl
  have hzip : (route.path.trim.segments.zip pathname.segments).map Prod.fst =
      route.path.trim.segments := List.map_fst_zip h.length_eq.le
  have hfilter : (route.path.trim.segments.filter fun segment => IsParam segment) =
      ((route.path.trim.segments.zip pathname.segments).filter fun pair =>
        IsParam pair.1).map Prod.fst := by
    conv_lhs => rw [← hzip, List.filter_map]
    rfl
  rw [hroot, hfilter, bindings, List.map_map, List.map_map]
  rfl

section Params

variable {decodeURIComponent : JsString → Option JsString}

/-- A name and its capture, found by their places. -/
theorem zipIdx_lookup {α β : Type*} (l : List (α × β)) (d : β) :
    ((l.map Prod.fst).zipIdx.map fun name => (name.1, (l.map Prod.snd)[name.2]?.getD d)) = l :=
  List.ext_getElem (by simp) fun i _ hi => by simp [List.getElem?_eq_getElem hi]

/-- A binding with the text that its segment stands for. -/
def decoded (decodeURIComponent : JsString → Option JsString) (b : JsString × JsString) :
    JsString × JsString :=
  (b.1, (decodeURIComponent b.2).getD [])

theorem mapM_decoded {l : List (JsString × JsString)}
    (hvalid : ∀ b ∈ l, (decodeURIComponent b.2).isSome = true) :
    (l.mapM fun b => (decodeURIComponent b.2).map (b.1, ·)) =
      some (l.map (decoded decodeURIComponent)) := by
  induction l with
  | nil => rfl
  | cons b l ih =>
    obtain ⟨hb, hl⟩ := List.forall_mem_cons.1 hvalid
    obtain ⟨text, htext⟩ := Option.isSome_iff_exists.1 hb
    rw [List.mapM_cons, ih hl, htext, List.map_cons, decoded, htext]
    rfl

/-- When all captures can be decoded, a name has the decoded text of its last segment. -/
theorem params_eq (h : FitsPath route pathname)
    (hvalid : ∀ b ∈ bindings route pathname, (decodeURIComponent b.2).isSome = true) :
    ∃ params, (compileRoute route).params decodeURIComponent
        ((bindings route pathname).map Prod.snd) = some params ∧
      ∀ name, params.get name =
        ((bindings route pathname).filter fun b => b.1 = name).getLast?.bind
          fun b => decodeURIComponent b.2 := by
  have hentries : ((compileRoute route).paramNames.zipIdx.mapM fun name =>
      (decodeURIComponent (((bindings route pathname).map Prod.snd)[name.2]?.getD [])).map
        (name.1, ·)) = some ((bindings route pathname).map (decoded decodeURIComponent)) := by
    rw [paramNames_eq h, ← mapM_decoded hvalid]
    conv_rhs => rw [← zipIdx_lookup (bindings route pathname) [], List.mapM_map]
    rfl
  refine ⟨_, by rw [CompiledRoute.params, hentries, Option.map_some], fun name => ?_⟩
  have hfilter : (((bindings route pathname).map (decoded decodeURIComponent)).filter fun e =>
      e.1 = name) =
      ((bindings route pathname).filter fun b => b.1 = name).map (decoded decodeURIComponent) :=
    List.filter_map
  rw [JsMap.get_fromEntries, hfilter, List.getLast?_map, Option.map_map]
  cases hlast : ((bindings route pathname).filter fun b => b.1 = name).getLast? with
  | none => rfl
  | some b =>
    obtain ⟨text, htext⟩ := Option.isSome_iff_exists.1
      (hvalid b (List.mem_filter.1 (List.mem_of_getLast? hlast)).1)
    simp [decoded, htext]

/-! ### The first route that answers -/

/-- The route answers the method, up to its case, and fits the path. -/
def Answers (method : JsString) (pathname : SlashPath) (route : HardessServeRouteDefinition ρ) :
    Prop :=
  (route.method = .all ∨ route.method.text = toUpperCase method) ∧ FitsPath route pathname

instance (method : JsString) (pathname : SlashPath) :
    DecidablePred (@Answers ρ method pathname) :=
  fun _ => inferInstanceAs (Decidable (_ ∧ _))

/-- `findRoute` goes on to the first route that answers. -/
theorem findRoute_eq_find? (routes : List (HardessServeRouteDefinition ρ)) (method : JsString)
    (pathname : SlashPath) :
    findRoute decodeURIComponent (routes.map compileRoute) pathname.text method =
      (routes.find? fun route => Answers method pathname route).map fun route =>
        (compileRoute route, (compileRoute route).params decodeURIComponent
          ((bindings route pathname).map Prod.snd)) := by
  induction routes with
  | nil => rfl
  | cons route routes ih =>
    rw [List.map_cons, findRoute, ih, exec_eq]
    by_cases hanswers : Answers method pathname route
    · have hmethod : ¬((compileRoute route).method ≠ .all ∧
          (compileRoute route).method.text ≠ toUpperCase method) := by
        rintro ⟨hall, htext⟩
        exact hanswers.1.elim hall htext
      rw [if_neg hmethod, if_pos hanswers.2, List.find?_cons_of_pos (by simpa using hanswers)]
      rfl
    · rw [List.find?_cons_of_neg (by simpa using hanswers)]
      split_ifs with hmethod hfits
      · rfl
      · -- the path fits, so that it is the method that does not
        refine absurd ⟨?_, hfits⟩ hanswers
        by_contra hnot
        exact hmethod (not_or.1 hnot)
      · rfl

/-- **`findRoute` gives the first route that answers segment by segment**, with the decoded text of
the last segment for each name of a parameter, or nothing if no route answers. -/
theorem findRoute_segmentwise (routes : List (HardessServeRouteDefinition ρ)) (method : JsString)
    (pathname : SlashPath)
    (hvalid : ∀ route, (routes.find? fun route => Answers method pathname route) = some route →
      ∀ b ∈ bindings route pathname, (decodeURIComponent b.2).isSome = true) :
    match routes.find? fun route => Answers method pathname route with
    | none =>
      findRoute decodeURIComponent (routes.map compileRoute) pathname.text method = none
    | some route => ∃ params,
      findRoute decodeURIComponent (routes.map compileRoute) pathname.text method =
          some (compileRoute route, some params) ∧
        ∀ name, params.get name =
          ((bindings route pathname).filter fun b => b.1 = name).getLast?.bind
            fun b => decodeURIComponent b.2 := by
  rw [findRoute_eq_find?]
  cases hfind : routes.find? fun route => Answers method pathname route with
  | none => rfl
  | some route =>
    have hanswers : Answers method pathname route := by
      simpa using List.find?_some hfind
    obtain ⟨params, hparams, hget⟩ := params_eq hanswers.2 (hvalid route hfind)
    refine ⟨params, ?_, hget⟩
    rw [Option.map_some, hparams]

end Params

/-- The route of an item; the first segment has a metacharacter, and a slash ends the path. -/
def itemRoute : HardessServeRouteDefinition ℕ := ⟨.get, ⟨js "/shop.v1/:sku/", rfl⟩, 1⟩

/-- A table with the root before it, and a route for all methods after it. -/
def shopRoutes : List (HardessServeRouteDefinition ℕ) :=
  [⟨.get, .root, 0⟩, itemRoute, ⟨.all, ⟨js "/:shop/:sku", rfl⟩, 2⟩]

/-- The path of an item. -/
def itemPath : SlashPath := ⟨js "/shop.v1/a-1", rfl⟩

theorem findRoute_shop : ∃ params,
    findRoute some (shopRoutes.map compileRoute) itemPath.text (js "GET") =
        some (compileRoute itemRoute, some params) ∧
      params.get (js "sku") = some (js "a-1") := by
  have hfind : (shopRoutes.find? fun route => Answers (js "GET") itemPath route) =
      some itemRoute := rfl
  have h := @findRoute_segmentwise ℕ some shopRoutes (js "GET") itemPath fun _ _ _ _ => rfl
  rw [hfind] at h
  obtain ⟨params, hfound, hget⟩ := h
  exact ⟨params, hfound, (hget _).trans (by decide)⟩

/-- A route for a method that requests can give in small letters. -/
def patchRoute : HardessServeRouteDefinition ℕ := ⟨.patch, ⟨js "/x", rfl⟩, 0⟩

/-- A route with two parameters of one name. -/
def twiceRoute : HardessServeRouteDefinition ℕ := ⟨.get, ⟨js "/:a/:a", rfl⟩, 0⟩

/-- A route for `PATCH` is found for the method `patch`, which it does not equal; and of two
parameters of one name the first one is not bound to its segment. -/
theorem findRoute_patch_twice :
    (¬(patchRoute.method = .all ∨ patchRoute.method.text = js "patch") ∧
      (findRoute some [compileRoute patchRoute] (js "/x") (js "patch")).isSome = true) ∧
    ((js "a", js "1") ∈ bindings twiceRoute ⟨js "/1/2", rfl⟩ ∧
      ((findRoute some [compileRoute twiceRoute] (js "/1/2") (js "GET")).bind Prod.snd).bind
        (·.get (js "a")) = some (js "2")) := by
  decide

end Hardess.Serve
