import Hardess.Serve.App

/-!
# What a path matches

`src/runtime/serve/worker.ts`: a path is matched against the pieces of a route, and against the
prefixes of the middleware that runs around a handler.

* `execParts` is what the regular expression of a route comes to, piece by piece;
* `execParts_textOf` says what it matches: segment by segment.
-/

namespace Hardess

/-- A piece of the regular expression of a route, after a slash. -/
inductive PatternPart
  /-- `([^/]+)`. -/
  | param
  /-- An escaped segment. -/
  | literal (segment : JsString)
  deriving DecidableEq

/-- The piece of a segment. -/
def patternPart (segment : JsString) : PatternPart :=
  if segment.head? = some (unit ':') then .param else .literal segment

/-- Matches a piece: what it captures, and what is left of the text. -/
def PatternPart.exec : PatternPart → JsString → Option (List JsString × JsString)
  | .param, text =>
    let captured := text.takeWhile (· ≠ unit '/')
    if captured = [] then none else some ([captured], text.drop captured.length)
  | .literal segment, text => if segment <+: text then some ([], text.drop segment.length) else none

/-- Matches pieces, each after a slash, up to the end of the text. -/
def execParts : List PatternPart → JsString → Option (List JsString)
  | [], text => if text = [] then some [] else none
  | part :: parts, text =>
    if text.head? = some (unit '/') then do
      let (captured, rest) ← part.exec text.tail
      let captures ← execParts parts rest
      return captured ++ captures
    else none

variable {ρ μ : Type}

/-- The text of a method. -/
def HardessServeMethod.text : HardessServeMethod → JsString
  | .get => js "GET"
  | .post => js "POST"
  | .put => js "PUT"
  | .patch => js "PATCH"
  | .delete => js "DELETE"
  | .head => js "HEAD"
  | .options => js "OPTIONS"
  | .all => js "ALL"

/-- `toUpperCase` of a request method, which is ASCII. -/
def toUpperCase (method : JsString) : JsString :=
  method.map fun u => if unit 'a' ≤ u ∧ u ≤ unit 'z' then u - 32 else u

/-- `pathStartsWithPrefix`. -/
def pathStartsWithPrefix (pathname : SlashPath) (pathPrefix : Option SlashPath) : Bool :=
  match pathPrefix with
  | none => true
  | some p => p = .root || pathname.IsUnder p

/-- The middleware that runs for a path. -/
def middlewareChain (module : HardessServeModule ρ μ) (routedPath : SlashPath) :
    List (HardessServeMiddlewareDefinition μ) :=
  module.middleware.filter fun entry =>
    pathStartsWithPrefix routedPath (entry.pathPrefix.map (·.trim))

/-! ### What a route matches -/

/-- A segment of a path fits a segment of a route. -/
def Fits (segment x : JsString) : Prop :=
  if segment.head? = some (unit ':') then x ≠ [] else x = segment

instance (segment x : JsString) : Decidable (Fits segment x) :=
  inferInstanceAs (Decidable (ite _ _ _))

theorem head?_append_textOf_ne {x : JsString} (hx : unit '/' ∉ x) (hne : x ≠ [])
    (xs : List JsString) : (x ++ SlashPath.textOf xs).head? ≠ some (unit '/') := by
  obtain ⟨u, x, rfl⟩ := List.exists_cons_of_ne_nil hne
  simp only [List.mem_cons, not_or] at hx
  simpa using Ne.symm hx.1

/-- A text that does not go on with a slash is not matched any further. -/
theorem execParts_eq_none {parts : List PatternPart} {x : JsString} (hx : unit '/' ∉ x)
    (hne : x ≠ []) (xs : List JsString) : execParts parts (x ++ SlashPath.textOf xs) = none := by
  cases parts with
  | nil => simp [execParts, hne]
  | cons part parts => rw [execParts, if_neg (head?_append_textOf_ne hx hne xs)]

theorem takeWhile_append_textOf {x : JsString} (hx : unit '/' ∉ x) (xs : List JsString) :
    (x ++ SlashPath.textOf xs).takeWhile (· ≠ unit '/') = x := by
  have hall : ∀ u ∈ x, decide (u ≠ unit '/') = true := by
    intro u hu
    have hne : u ≠ unit '/' := fun h => hx (h ▸ hu)
    simpa using hne
  rw [List.takeWhile_append_of_pos hall]
  cases xs <;> simp

/-- A segment at the start of a text is at the start of its first segment. -/
theorem prefix_of_prefix_textOf {segment x : JsString} (hs : unit '/' ∉ segment)
    {xs : List JsString} (h : segment <+: x ++ SlashPath.textOf xs) : segment <+: x := by
  obtain hp | ⟨rest, rfl⟩ := List.prefix_or_prefix_of_prefix h (List.prefix_append x _)
  · exact hp
  · -- the rest stands where a slash would
    rw [List.prefix_append_right_inj] at h
    rw [List.mem_append, not_or] at hs
    cases rest with
    | nil => simp
    | cons u rest =>
      cases xs with
      | nil => simp at h
      | cons y xs =>
        obtain ⟨t, ht⟩ := h
        obtain rfl : u = unit '/' := (List.cons.inj ht).1
        simp at hs

/-- What the segment of a route captures of the segment of a path. -/
def captured (segment x : JsString) : List JsString :=
  if segment.head? = some (unit ':') then [x] else []

/-- A piece that matches at the start of a segment matches all of it, if the next one can. -/
theorem execParts_cons {segment x : JsString} (hs : unit '/' ∉ segment) (hx : unit '/' ∉ x)
    (parts : List PatternPart) (xs : List JsString) :
    execParts (patternPart segment :: parts) (SlashPath.textOf (x :: xs)) =
      if Fits segment x then
        (execParts parts (SlashPath.textOf xs)).map (captured segment x ++ ·)
      else none := by
  rw [execParts, SlashPath.textOf_cons, List.head?_cons, if_pos rfl, List.tail_cons]
  unfold patternPart captured
  by_cases hparam : segment.head? = some (unit ':')
  · have hfits : Fits segment x ↔ x ≠ [] := by rw [Fits, if_pos hparam]
    rw [if_pos hparam, if_pos hparam, PatternPart.exec]
    simp only [takeWhile_append_textOf hx, List.drop_left, hfits]
    by_cases hempty : x = []
    · rw [if_pos hempty, if_neg (not_not.2 hempty)]
      rfl
    · rw [if_neg hempty, if_pos hempty]
      cases hexec : execParts parts (SlashPath.textOf xs) <;> simp [hexec]
  · have hfits : Fits segment x ↔ x = segment := by rw [Fits, if_neg hparam]
    rw [if_neg hparam, if_neg hparam, PatternPart.exec]
    simp only [hfits]
    by_cases hp : segment <+: x ++ SlashPath.textOf xs
    · -- the literal is the start of `x`
      have hpx : segment <+: x := prefix_of_prefix_textOf hs hp
      obtain ⟨rest, rfl⟩ := hpx
      rw [if_pos hp]
      by_cases hrest : rest = []
      · cases hexec : execParts parts (SlashPath.textOf xs) <;> simp [hrest, hexec]
      · rw [List.mem_append, not_or] at hx
        simp [hrest, execParts_eq_none hx.2 hrest]
    · have hne : x ≠ segment := by
        rintro rfl
        exact hp (List.prefix_append _ _)
      simp [hp, hne]

/-- **A route matches segment by segment**, and captures what its parameters fit. -/
theorem execParts_textOf {segments xs : List JsString} (hs : ∀ s ∈ segments, unit '/' ∉ s)
    (hx : ∀ x ∈ xs, unit '/' ∉ x) :
    execParts (segments.map patternPart) (SlashPath.textOf xs) =
      if List.Forall₂ Fits segments xs then some (List.zipWith captured segments xs).flatten
      else none := by
  induction segments generalizing xs with
  | nil => cases xs <;> simp [execParts]
  | cons segment segments ih =>
    rw [List.forall_mem_cons] at hs
    cases xs with
    | nil => simp [execParts]
    | cons x xs =>
      rw [List.forall_mem_cons] at hx
      rw [List.map_cons, execParts_cons hs.1 hx.1, ih hs.2 hx.2, List.zipWith_cons_cons,
        List.flatten_cons]
      simp only [List.forall₂_cons]
      by_cases hfit : Fits segment x
      · by_cases hall : List.Forall₂ Fits segments xs
        · rw [if_pos hfit, if_pos hall, if_pos ⟨hfit, hall⟩, Option.map_some]
        · rw [if_pos hfit, if_neg hall, if_neg fun h => hall h.2, Option.map_none]
      · rw [if_neg hfit, if_neg fun h => hfit h.1]

end Hardess
