import Hardess.Lib.SlashPath

/-!
# Serve apps

`src/sdk/serve/index.ts`. An app is given by the calls on it; `use` with a child app copies
the routes and the middleware that the child has then (`mountServeApp`), so calls on a child
after it has been mounted do not reach the parent.

* `HardessServeApp.build` is the module that the calls leave;
* `HardessServeApp.guards` lists for each route the middleware that its app and the apps above
  it were given without a prefix, as it stands in the module if it does.
-/

namespace Hardess

/-- `HardessServeMethod`. -/
inductive HardessServeMethod
  | get
  | post
  | put
  | patch
  | delete
  | head
  | options
  | all
  deriving DecidableEq

/-- `HardessServeRouteDefinition`. -/
structure HardessServeRouteDefinition (ρ : Type*) where
  method : HardessServeMethod
  path : SlashPath
  handler : ρ

/-- `HardessServeMiddlewareDefinition`. -/
structure HardessServeMiddlewareDefinition (μ : Type*) where
  pathPrefix : Option SlashPath
  handler : μ

/-- `HardessServeModule`. -/
structure HardessServeModule (ρ μ : Type*) where
  routes : List (HardessServeRouteDefinition ρ)
  middleware : List (HardessServeMiddlewareDefinition μ)

/-- An app by the calls on it: `createApp`, the route registrars, and `use` with a middleware
or with a child app. `late` is the middleware that a child is given without a prefix after it
has been mounted. -/
inductive HardessServeApp (ρ μ : Type)
  | createApp
  | route (app : HardessServeApp ρ μ) (method : HardessServeMethod) (path : JsString) (handler : ρ)
  | use (app : HardessServeApp ρ μ) (pathPrefix : Option JsString) (handler : μ)
  | mount (app : HardessServeApp ρ μ) (pathPrefix : Option JsString) (child : HardessServeApp ρ μ)
    (late : List μ)

/-- `normalizePath`. For a path that starts with a slash it is `SlashPath.trim`. -/
def normalizePath (path : JsString) : Except JsString SlashPath :=
  if h : path.head? = some (unit '/') then .ok (SlashPath.mk path h).trim
  else .error (js "Serve path must start with '/': " ++ path)

/-- `joinPaths`. -/
def joinPaths (basePath : Option SlashPath) (childPath : SlashPath) : SlashPath :=
  match basePath with
  | none => childPath.trim
  | some base =>
    if base.trim = .root then childPath.trim
    else if childPath.trim = .root then base.trim
    else base.trim ++ childPath.trim

variable {ρ μ : Type}

/-- A middleware of a mounted app. -/
def mountMiddleware (pathPrefix : Option SlashPath) (m : HardessServeMiddlewareDefinition μ) :
    HardessServeMiddlewareDefinition μ where
  pathPrefix :=
    match m.pathPrefix with
    | none => pathPrefix
    | some childPrefix => some (joinPaths pathPrefix childPrefix)
  handler := m.handler

/-- `mountServeApp`. -/
def mountServeApp (target child : HardessServeModule ρ μ) (pathPrefix : Option SlashPath) :
    HardessServeModule ρ μ where
  routes := target.routes ++ child.routes.map fun route =>
    { route with path := joinPaths pathPrefix route.path }
  middleware := target.middleware ++ child.middleware.map (mountMiddleware pathPrefix)

namespace HardessServeApp

/-- The module of an app, or the error of a path without a slash. -/
def build : HardessServeApp ρ μ → Except JsString (HardessServeModule ρ μ)
  | createApp => .ok ⟨[], []⟩
  | route app method path handler => do
    let module ← app.build
    let path ← normalizePath path
    return { module with routes := module.routes ++ [⟨method, path, handler⟩] }
  | use app pathPrefix handler => do
    let module ← app.build
    let pathPrefix ← pathPrefix.mapM normalizePath
    return { module with middleware := module.middleware ++ [⟨pathPrefix, handler⟩] }
  | mount app pathPrefix child _ => do
    let module ← app.build
    let childModule ← child.build
    let pathPrefix ← pathPrefix.mapM normalizePath
    return mountServeApp module childModule pathPrefix

/-- The middleware that an app itself was given without a prefix. -/
def own : HardessServeApp ρ μ → List (HardessServeMiddlewareDefinition μ)
  | createApp => []
  | route app _ _ _ => app.own
  | use app pathPrefix handler =>
    if pathPrefix = none then app.own ++ [⟨none, handler⟩] else app.own
  | mount app _ _ _ => app.own

/-- For each route of the module, the middleware that its app and the apps above it were given
without a prefix, as it stands in the module; what came too late stands nowhere. -/
def guards : HardessServeApp ρ μ → List (List (Option (HardessServeMiddlewareDefinition μ)))
  | createApp => []
  | route app _ _ _ => app.guards ++ [app.own.map some]
  | use app pathPrefix handler =>
    if pathPrefix = none then app.guards.map (· ++ [some ⟨none, handler⟩]) else app.guards
  | mount app pathPrefix child late =>
    let pathPrefix := pathPrefix.bind fun text => (normalizePath text).toOption
    app.guards ++ child.guards.map fun guards =>
      app.own.map some ++ guards.map (Option.map (mountMiddleware pathPrefix)) ++
        late.map fun _ => none

end HardessServeApp

end Hardess
