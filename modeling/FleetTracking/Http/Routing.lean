import Mathlib.Data.List.Basic

/-!
# Routers

Routers in the manner of FastAPI: a router has a path prefix and dependencies, which go in
front of those of every route that is added or included.  `dispatch` finds the first route
whose template and method match; a template's `{name}` stands for one non-empty segment.

`Router.Guards` says that every route to an endpoint of some kind has some dependency.  A
router that has it as a dependency of its own guards whatever it includes.
-/

namespace Routing

universe u v

inductive Method
  | get
  | post
  | put
  | patch
  | delete
deriving DecidableEq

/-- A path operation with what it depends on. -/
structure Route (γ : Type u) (η : Type v) where
  method : Method
  path : String
  dependencies : List γ
  endpoint : η

structure Router (γ : Type u) (η : Type v) where
  pathPrefix : String := ""
  dependencies : List γ := []
  routes : List (Route γ η) := []

/-- What a request's method and path lead to. -/
inductive Match (γ : Type u) (η : Type v)
  | found (route : Route γ η) (params : List String)
  | methodNotAllowed
  | notFound

/-- The segments of a path. -/
def segments (path : String) : List (List Char) := path.toList.splitOn '/'

/-- The values of the template's parameters, when the path matches the template. -/
def bind : (template path : List (List Char)) → Option (List String)
  | [], [] => some []
  | ('{' :: _) :: template, value :: path =>
      if value = [] then none else (bind template path).map (.ofList value :: ·)
  | literal :: template, value :: path => if literal = value then bind template path else none
  | _, _ => none

namespace Router

variable {γ : Type u} {η : Type v}

/-- `@router.get(path)` and so on. -/
def add (r : Router γ η) (method : Method) (path : String) (endpoint : η) : Router γ η :=
  { r with routes := r.routes ++ [⟨method, r.pathPrefix ++ path, r.dependencies, endpoint⟩] }

/-- `router.include_router(inner, prefix=…)` -/
def includeRouter (r inner : Router γ η) (pathPrefix : String := "") : Router γ η :=
  { r with routes := r.routes ++ inner.routes.map fun route =>
      { route with
        path := r.pathPrefix ++ pathPrefix ++ route.path
        dependencies := r.dependencies ++ route.dependencies } }

/-- The first route whose path and method match. -/
def dispatch (r : Router γ η) (method : Method) (path : String) : Match γ η :=
  go r.routes .notFound
where
  /-- `otherwise` is the answer if no further route matches both. -/
  go : List (Route γ η) → Match γ η → Match γ η
    | [], otherwise => otherwise
    | route :: routes, otherwise =>
        match bind (segments route.path) (segments path) with
        | none => go routes otherwise
        | some params =>
            if route.method = method then .found route params
            else go routes .methodNotAllowed

variable {r inner : Router γ η} {route : Route γ η} {method : Method} {path pathPrefix : String}
  {params : List String} {endpoint : η} {gate : γ}

theorem mem_of_dispatch (found : r.dispatch method path = .found route params) :
    route ∈ r.routes := by
  have search : ∀ {routes : List (Route γ η)} {otherwise : Match γ η},
      (∀ route params, otherwise ≠ .found route params) →
      dispatch.go method path routes otherwise = .found route params → route ∈ routes := by
    intro routes
    induction routes with
    | nil =>
        intro otherwise nothing found
        exact (nothing route params found).elim
    | cons first routes ih =>
        intro otherwise nothing found
        rw [dispatch.go] at found
        split at found
        · exact List.mem_cons_of_mem _ (ih nothing found)
        · split at found
          · cases found
            exact List.mem_cons_self
          · exact List.mem_cons_of_mem _ (ih (by simp) found)
  exact search (by simp) found

theorem mem_add : route ∈ (r.add method path endpoint).routes ↔
    route ∈ r.routes ∨ route = ⟨method, r.pathPrefix ++ path, r.dependencies, endpoint⟩ := by
  simp [add]

theorem mem_includeRouter : route ∈ (r.includeRouter inner pathPrefix).routes ↔
    route ∈ r.routes ∨ ∃ own ∈ inner.routes, route = { own with
      path := r.pathPrefix ++ pathPrefix ++ own.path
      dependencies := r.dependencies ++ own.dependencies } := by
  simp [includeRouter, eq_comm]

/-- Every route to an endpoint that satisfies `p` depends on `gate`. -/
def Guards (r : Router γ η) (gate : γ) (p : η → Bool) : Prop :=
  ∀ route ∈ r.routes, p route.endpoint = true → gate ∈ route.dependencies

namespace Guards

variable {p : η → Bool} {dependencies : List γ}

theorem new : (⟨pathPrefix, dependencies, []⟩ : Router γ η).Guards gate p :=
  fun _ member => (List.not_mem_nil member).elim

/-- Endpoints that do not matter can be added. -/
theorem add (guards : r.Guards gate p) (other : p endpoint = false) :
    (r.add method path endpoint).Guards gate p := by
  intro route member holds
  rcases mem_add.mp member with old | rfl
  · exact guards route old holds
  · rw [other] at holds
    cases holds

/-- So can routers that guard their own. -/
theorem includeRouter (guards : r.Guards gate p) (own : inner.Guards gate p) :
    (r.includeRouter inner pathPrefix).Guards gate p := by
  intro route member holds
  rcases mem_includeRouter.mp member with old | ⟨route, here, rfl⟩
  · exact guards route old holds
  · exact List.mem_append_right _ (own route here holds)

/-- A router with the dependency can include anything. -/
theorem includeRouter_of_mem (guards : r.Guards gate p) (gated : gate ∈ r.dependencies) :
    (r.includeRouter inner pathPrefix).Guards gate p := by
  intro route member holds
  rcases mem_includeRouter.mp member with old | ⟨route, _, rfl⟩
  · exact guards route old holds
  · exact List.mem_append_left _ gated

end Guards

end Router

end Routing
