import OnlineJudge.Gateway.Decimals
import OnlineJudge.Gateway.Uri

/-!
# The router of the gateway

`compile` and `find_route` of `router.lua`, for any table of routes, and `M.validate` of
`request_policy.lua`.  `find_route` applies `ngx.unescape_uri` to captured segments although nginx
has decoded them already; the first check of the policy looks at the raw `request_uri`, query
included.

## Main definitions

* `Route`, `RouteTable`: the entries of `routes.lua`, with what holds of all of them.
* `findRoute`: the route of a request and its parameters.
* `validate`: the request policy.

## Main results

* `parameters_of_findRoute`: a parameter is a segment of the path, decoded once more.
* `not_infix_of_validate`: what the policy lets pass.
-/

namespace OnlineJudge.Gateway

open Option List

/-! ## The table -/

/-- What `gmatch("/([^/]+)")` finds. -/
def routeSegments (path : Bytes) : List Bytes := (path.splitOn 47).tail.filter (· ≠ [])

/-- `match("^:(.+)$")` -/
def parameterName? : Bytes → Option Bytes
  | 58 :: c :: name => some (c :: name)
  | _ => none

/-- An entry of the table.  Bindings are pairs of a source and a destination. -/
structure Route where
  verb : Bytes
  path : Bytes
  /-- The method of the backend; `none` for the local handler. -/
  method : Option Bytes
  requestType : Bytes
  pathBindings : List (Bytes × Bytes) := []
  queryBindings : List (Bytes × Bytes) := []
  isPath : path = joinSegments (routeSegments path)
  /-- Every parameter is bound, and there is at most one. -/
  bound : pathBindings.map Prod.fst = (routeSegments path).filterMap parameterName?
  single : pathBindings.length ≤ 1
  deriving DecidableEq

def Route.key (route : Route) : Bytes := route.verb ++ 32 :: route.path

/-- `compile` raises an error at a second route with the same key. -/
structure RouteTable where
  routes : List Route
  distinct : (routes.map Route.key).Nodup

/-! ## Matching -/

/-- The captures of the pattern that `compile` makes of a route, with their names: a parameter
stands for `([^/]+)`, another segment for itself. -/
def captures : List Bytes → List Bytes → Option (List (Bytes × Bytes))
  | [], [] => some []
  | segment :: segments, value :: values =>
    match parameterName? segment with
    | some name => if value = [] then none else (captures segments values).map ((name, value) :: ·)
    | none => if value = segment then captures segments values else none
  | _, _ => none

def tryRoute (method uri : Bytes) (route : Route) : Option (Route × List (Bytes × Bytes)) :=
  if route.verb = method then
    match captures (routeSegments route.path) (uri.splitOn 47).tail with
    | some found => some (route, found.map fun (name, value) => (name, unescapeUri value))
    | none => if uri = route.path then some (route, []) else none
  else none

/-- `find_route`: the route and its parameters. -/
def findRoute (table : RouteTable) (method uri : Bytes) : Option (Route × List (Bytes × Bytes)) :=
  table.routes.findSome? (tryRoute method uri)

def parameterSegments (segments values : List Bytes) : List (Bytes × Bytes) :=
  (segments.zip values).filterMap fun (segment, value) => (parameterName? segment).map (·, value)

theorem parameterSegments_map (f : Bytes → Bytes) (segments values : List Bytes) :
    parameterSegments segments (values.map f) =
      (parameterSegments segments values).map fun (name, value) => (name, f value) := by
  rw [parameterSegments, zip_map_right, filterMap_map, parameterSegments, map_filterMap]
  refine filterMap_congr fun pair _ => ?_
  simp [Option.map_map, Function.comp_def]

variable {segments values : List Bytes} {found : List (Bytes × Bytes)}

theorem mem_of_mem_parameterSegments {entry : Bytes × Bytes}
    (mem : entry ∈ parameterSegments segments values) : entry.2 ∈ values := by
  obtain ⟨⟨segment, value⟩, inZip, named⟩ := mem_filterMap.mp mem
  obtain ⟨name, -, rfl⟩ := map_eq_some_iff.mp named
  exact (of_mem_zip inZip).2

theorem eq_parameterSegments_of_captures (captured : captures segments values = some found) :
    found = parameterSegments segments values ∧
      found.map Prod.fst = segments.filterMap parameterName? := by
  induction segments generalizing values found with
  | nil =>
    cases values with
    | nil =>
      cases captured
      exact ⟨rfl, rfl⟩
    | cons => cases captured
  | cons segment segments ih =>
    cases values with
    | nil => cases captured
    | cons value values =>
      rw [captures] at captured
      cases name : parameterName? segment with
      | some =>
        simp only [name, ite_none_left_eq_some, map_eq_some_iff] at captured
        obtain ⟨-, later, captured, rfl⟩ := captured
        obtain ⟨same, names⟩ := ih captured
        simp [parameterSegments, name, same, ← names]
      | none =>
        simp only [name, ite_none_right_eq_some] at captured
        obtain ⟨same, names⟩ := ih captured.2
        simpa [parameterSegments, name, ← names] using same

theorem captures_self (nonempty : ∀ segment ∈ segments, segment ≠ []) :
    captures segments segments ≠ none := by
  induction segments with
  | nil => exact some_ne_none _
  | cons segment segments ih =>
    obtain ⟨first, later⟩ := forall_mem_cons.mp nonempty
    rw [captures]
    split
    · simpa [first] using ih later
    · simpa using ih later

theorem not_mem_slash_of_mem_routeSegments {path segment : Bytes}
    (mem : segment ∈ routeSegments path) : 47 ∉ segment :=
  Separators.not_mem_of_mem_splitOn (mem_of_mem_tail (mem_filter.mp mem).1)

/-- A parameter is a segment of the path, decoded once more. -/
theorem parameters_of_findRoute {table : RouteTable} {method : Bytes} {route : Route}
    {parameters : List (Bytes × Bytes)} (plain : ∀ value ∈ values, 47 ∉ value)
    (found : findRoute table method (joinSegments values) = some (route, parameters)) :
    parameters = (parameterSegments (routeSegments route.path) values).map
        (fun (name, value) => (name, unescapeUri value)) ∧
      (parameterSegments (routeSegments route.path) values).map Prod.fst =
        route.pathBindings.map Prod.fst := by
  obtain ⟨item, -, tried⟩ := exists_of_findSome?_eq_some found
  rw [tryRoute, ite_none_right_eq_some] at tried
  replace tried := tried.2
  rw [splitOn_joinSegments plain, tail_cons] at tried
  cases captured : captures (routeSegments item.path) values with
  | some =>
    rw [captured] at tried
    cases tried
    obtain ⟨same, names⟩ := eq_parameterSegments_of_captures captured
    rw [route.bound, ← names, ← same]
    exact ⟨rfl, rfl⟩
  | none =>
    -- the path of a route matches the pattern of the route
    simp only [captured, ite_none_right_eq_some] at tried
    have split : [] :: values = [] :: routeSegments item.path := by
      rw [← splitOn_joinSegments plain, tried.1.trans item.isPath,
        splitOn_joinSegments fun _ => not_mem_slash_of_mem_routeSegments]
    rw [(List.cons.inj split).2] at captured
    exact absurd captured (captures_self fun segment mem => by simpa using (mem_filter.mp mem).2)

/-! ## The request policy -/

structure GatewayRequest where
  method : Bytes
  requestUri : Bytes
  /-- The answer of the checks of `M.validate` behind the first, which look at headers, session,
  origin and CSRF token.  An error is a status and a code. -/
  checked : Except (Nat × String) Unit := .ok ()

/-- A backslash, `%2f`, `%2F`, `%5c`, `%5C`, `/../` or `//` occurs. -/
def pathConfusion (uri : Bytes) : Bool :=
  [[92], text "%2f", text "%2F", text "%5c", text "%5C", text "/../", text "//"].any
    fun word => decide (word <:+: uri)

/-- `M.validate` -/
def validate (request : GatewayRequest) : Except (Nat × String) Unit :=
  if pathConfusion request.requestUri then .error (400, "PATH_CONFUSION") else request.checked

theorem not_infix_of_validate {request : GatewayRequest} {word : Bytes}
    (valid : validate request = .ok ())
    (mem : word ∈ [[92], text "%2f", text "%2F", text "%5c", text "%5C"]) :
    ¬ word <:+: request.requestUri := by
  unfold validate at valid
  split at valid
  case isTrue => cases valid
  case isFalse clean =>
    intro inside
    refine clean (any_eq_true.mpr ⟨word, ?_, decide_eq_true inside⟩)
    exact (prefix_append _ [text "/../", text "//"]).subset mem

end OnlineJudge.Gateway
